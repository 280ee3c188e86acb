import CommandChain.Proofs.Line.Grouping

/-!
# Where the operators of a line are written

A semicolon is an operator wherever it is written. A connective is one only where no word goes on at
either side of it. `OperatorPlace.StandsIn` says so of a place in a line, and the operators of a line
are those that are written at these places, one for one and in their order (`exists_places`).

The places of a line are followed along its runs: a word is one place if it spells a connective, a
semicolon is one, and the places behind a boundary are those of the rest of the line
(`standsIn_append_cons_iff`).
-/

namespace CommandChain

/-- The operator that an element is. -/
def Element.operator? : Element → Option Operator
  | .operator sign => some sign
  | .command _ => none

/-- The operators among elements, in order. -/
def operatorsOf (elements : List Element) : List Operator :=
  elements.filterMap Element.operator?

/-- A place where an operator is written: what is before it, the operator, and what is behind it. -/
structure OperatorPlace where
  before : Text
  operator : Operator
  after : Text
  deriving DecidableEq

namespace OperatorPlace

/-- The line has the operator at this place. Next to a connective there is a blank, a semicolon or
the end of the line, on both sides. -/
structure StandsIn (place : OperatorPlace) (line : Text) : Prop where
  whole : line = place.before ++ (place.operator.literal ++ place.after)
  apart : place.operator ≠ .sequence → place.before.EndsApart ∧ place.after.StartsApart

/-- The first place is further to the left. -/
def Precedes (first second : OperatorPlace) : Prop :=
  first.before.length < second.before.length

/-- The same place in a line that has more in front. -/
def shift (front : Text) (place : OperatorPlace) : OperatorPlace :=
  { place with before := front ++ place.before }

end OperatorPlace

/-! ## Ends of words -/

namespace Text

theorem StartsApart.of_append {first later : Text} (apart : StartsApart (first ++ later)) :
    StartsApart first := by
  cases first with
  | nil => exact startsApart_nil
  | cons symbol rest => exact startsApart_cons.2 (startsApart_cons.1 apart)

theorem eq_nil_of_startsApart {text : Text} (apart : StartsApart text)
    (inWord : ∀ symbol ∈ text, ¬ symbol.SetsApart) : text = [] := by
  cases text with
  | nil => rfl
  | cons symbol rest =>
      exact absurd (startsApart_cons.1 apart) (inWord symbol List.mem_cons_self)

theorem eq_nil_of_endsApart {text : Text} (apart : EndsApart text)
    (inWord : ∀ symbol ∈ text, ¬ symbol.SetsApart) : text = [] := by
  rcases List.eq_nil_or_concat text with rfl | ⟨front, symbol, rfl⟩
  · rfl
  · rw [List.concat_eq_append] at apart inWord
    exact absurd (endsApart_concat.1 apart) (inWord symbol (by simp))

/-- A symbol that sets apart is as good as the start of the text. -/
theorem endsApart_append_cons_iff {symbol : Symbol} (setsApart : symbol.SetsApart)
    (before rest : Text) : EndsApart (before ++ symbol :: rest) ↔ EndsApart rest := by
  rcases List.eq_nil_or_concat rest with rfl | ⟨front, last, rfl⟩
  · simp [endsApart_concat, setsApart]
  · rw [List.concat_eq_append, ← List.cons_append, ← List.append_assoc, endsApart_concat,
      endsApart_concat]

/-- A word that is set apart and starts within a run of a line is the whole run. -/
theorem eq_run_of_setApart {run rest before word after : Text}
    (noneApart : ∀ symbol ∈ run, ¬ symbol.SetsApart) (restApart : StartsApart rest)
    (isWord : IsWord word) (beforeApart : EndsApart before) (afterApart : StartsApart after)
    (whole : run ++ rest = before ++ (word ++ after)) (inside : before.length < run.length) :
    before = [] ∧ word = run ∧ after = rest := by
  rcases List.append_eq_append_iff.1 whole with ⟨shared, rfl, _⟩ | ⟨shared, rfl, content⟩
  · rw [List.length_append] at inside
    omega
  obtain ⟨beforeNoneApart, sharedNoneApart⟩ := List.forall_mem_append.1 noneApart
  have isEmpty : before = [] := eq_nil_of_endsApart beforeApart beforeNoneApart
  -- Neither the run nor the word can go on where the other ends.
  rcases List.append_eq_append_iff.1 content with ⟨more, rfl, rfl⟩ | ⟨more, rfl, rfl⟩
  · have noMore : more = [] :=
      eq_nil_of_startsApart afterApart.of_append (List.forall_mem_append.1 sharedNoneApart).2
    simp [isEmpty, noMore]
  · have noMore : more = [] :=
      eq_nil_of_startsApart restApart.of_append fun symbol member =>
        isWord.not_setsApart (List.mem_append_right shared member)
    simp [isEmpty, noMore]

end Text

/-! ## Places along the runs of a line -/

namespace OperatorPlace

variable {place : OperatorPlace} {run rest : Text} {cut : Symbol}

/-- The symbols of a connective are part of words. -/
theorem not_setsApart_of_mem_literal {operator : Operator} (different : operator ≠ .sequence)
    {symbol : Symbol} (member : symbol ∈ operator.literal) : ¬ symbol.SetsApart :=
  (Operator.isWord_literal different).not_setsApart member

theorem standsIn_of_literal (operator : Operator) (restApart : rest.StartsApart) :
    (⟨[], operator, rest⟩ : OperatorPlace).StandsIn (operator.literal ++ rest) where
  whole := rfl
  apart := fun _ => ⟨Text.endsApart_nil, restApart⟩

/-- Within a run an operator can only be the whole of it. -/
theorem StandsIn.eq_of_inside (stands : place.StandsIn (run ++ rest))
    (noneApart : ∀ symbol ∈ run, ¬ symbol.SetsApart) (restApart : rest.StartsApart)
    (inside : place.before.length < run.length) :
    place.operator.literal = run ∧ place = ⟨[], place.operator, rest⟩ := by
  obtain ⟨before, operator, after⟩ := place
  have different : operator ≠ .sequence := by
    rintro rfl
    obtain ⟨shared, rfl⟩ : before <+: run :=
      List.prefix_of_prefix_length_le ⟨_, stands.whole.symm⟩ (List.prefix_append run rest)
        (Nat.le_of_lt inside)
    have content := stands.whole
    rw [List.append_assoc, List.append_right_inj] at content
    cases shared with
    | nil => simp at inside
    | cons first others =>
        cases content
        exact noneApart Symbol.semicolon (by simp [Symbol.semicolon]) (Or.inr rfl)
  obtain ⟨beforeApart, afterApart⟩ := stands.apart different
  obtain ⟨rfl, isRun, rfl⟩ :=
    Text.eq_run_of_setApart noneApart restApart (Operator.isWord_literal different) beforeApart
      afterApart stands.whole inside
  exact ⟨isRun, rfl⟩

/-- The places of a line that is a single run. -/
theorem standsIn_run_iff (noneApart : ∀ symbol ∈ run, ¬ symbol.SetsApart) :
    place.StandsIn run ↔ place.operator.literal = run ∧ place = ⟨[], place.operator, []⟩ := by
  constructor
  · intro stands
    have inside : place.before.length < run.length := by
      have literalNonempty := List.length_pos_iff.2 place.operator.literal_ne_nil
      rw [stands.whole, List.length_append, List.length_append]
      omega
    rw [← List.append_nil run] at stands
    exact stands.eq_of_inside noneApart Text.startsApart_nil inside
  · rintro ⟨rfl, isPlace⟩
    have stands := standsIn_of_literal place.operator Text.startsApart_nil
    rw [List.append_nil] at stands
    rw [isPlace]
    exact stands

/-- The places of a line behind its first run: the run itself, the boundary behind it, and the places
of what follows the boundary. -/
theorem standsIn_append_cons_iff (noneApart : ∀ symbol ∈ run, ¬ symbol.SetsApart)
    (setsApart : cut.SetsApart) :
    place.StandsIn (run ++ cut :: rest) ↔
      (place.operator.literal = run ∧ place = ⟨[], place.operator, cut :: rest⟩) ∨
        (cut = Symbol.semicolon ∧ place = ⟨run, .sequence, rest⟩) ∨
        ∃ later : OperatorPlace, later.StandsIn rest ∧
          place = later.shift (run ++ [cut]) := by
  have restApart : Text.StartsApart (cut :: rest) := Text.startsApart_cons.2 setsApart
  constructor
  · intro stands
    by_cases inside : place.before.length < run.length
    · exact Or.inl (stands.eq_of_inside noneApart restApart inside)
    refine Or.inr ?_
    obtain ⟨before, operator, after⟩ := place
    obtain ⟨shared, rfl⟩ : run <+: before :=
      List.prefix_of_prefix_length_le (List.prefix_append run _) ⟨_, stands.whole.symm⟩
        (Nat.le_of_not_lt inside)
    have content := stands.whole
    rw [List.append_assoc, List.append_right_inj] at content
    cases shared with
    | nil =>
        by_cases isSequence : operator = .sequence
        · subst isSequence
          cases content
          rw [List.append_nil]
          exact Or.inl ⟨rfl, rfl⟩
        · obtain ⟨first, others, spelled⟩ := List.exists_cons_of_ne_nil operator.literal_ne_nil
          rw [spelled] at content
          cases content
          exact absurd setsApart (not_setsApart_of_mem_literal isSequence (by simp [spelled]))
    | cons first others =>
        cases content
        refine Or.inr ⟨⟨others, operator, after⟩, ⟨rfl, ?_⟩, ?_⟩
        · intro different
          obtain ⟨beforeApart, afterApart⟩ := stands.apart different
          exact ⟨(Text.endsApart_append_cons_iff setsApart run others).1 beforeApart, afterApart⟩
        · rw [shift, List.append_assoc]
          rfl
  · rintro (⟨rfl, isPlace⟩ | ⟨rfl, rfl⟩ | ⟨later, stands, rfl⟩)
    · rw [isPlace]
      exact standsIn_of_literal place.operator restApart
    · exact ⟨rfl, fun different => absurd rfl different⟩
    · refine ⟨?_, ?_⟩
      · simp [shift, ← stands.whole]
      · intro different
        obtain ⟨beforeApart, afterApart⟩ := stands.apart different
        refine ⟨?_, afterApart⟩
        rw [shift, List.append_assoc]
        exact (Text.endsApart_append_cons_iff setsApart run later.before).2 beforeApart

/-! ## All places of a line -/

/-- The places of a word that starts a line, if it spells an operator. -/
def ofWord (word after : Text) : List OperatorPlace :=
  (Operator.ofToken? word).toList.map (⟨[], ·, after⟩)

/-- The place of a boundary, if it is a semicolon. -/
def ofBoundary (before : Text) (cut : Symbol) (after : Text) : List OperatorPlace :=
  if cut = Symbol.semicolon then [⟨before, .sequence, after⟩] else []

/-- The places are all the places of a line, from left to right. -/
structure ArePlaces (line : Text) (places : List OperatorPlace) : Prop where
  ordered : places.Pairwise Precedes
  complete : ∀ place : OperatorPlace, place ∈ places ↔ place.StandsIn line
  spelled : places.map OperatorPlace.operator = line.tokens.filterMap Operator.ofToken?

theorem mem_ofWord_iff {word after : Text} :
    place ∈ ofWord word after ↔
      place.operator.literal = word ∧ place = ⟨[], place.operator, after⟩ := by
  simp only [ofWord, List.mem_map, Option.mem_toList, Operator.ofToken?_eq_some_iff]
  constructor
  · rintro ⟨operator, rfl, rfl⟩
    exact ⟨rfl, rfl⟩
  · rintro ⟨isWord, isPlace⟩
    exact ⟨place.operator, isWord.symm, isPlace.symm⟩

theorem mem_ofBoundary_iff {before after : Text} :
    place ∈ ofBoundary before cut after ↔
      cut = Symbol.semicolon ∧ place = ⟨before, .sequence, after⟩ := by
  unfold ofBoundary
  split <;> simp [*]

theorem map_operator_ofWord (word after : Text) :
    (ofWord word after).map OperatorPlace.operator = (Operator.ofToken? word).toList := by
  simp [ofWord, Function.comp_def]

theorem map_operator_shift (front : Text) (places : List OperatorPlace) :
    (places.map (shift front)).map OperatorPlace.operator = places.map OperatorPlace.operator := by
  simp [shift, Function.comp_def]

/-- A list of at most one place is in order. -/
theorem pairwise_ofWord {relation : OperatorPlace → OperatorPlace → Prop} (word after : Text) :
    (ofWord word after).Pairwise relation := by
  unfold ofWord
  cases Operator.ofToken? word <;> simp

theorem pairwise_ofBoundary {relation : OperatorPlace → OperatorPlace → Prop}
    (before after : Text) : (ofBoundary before cut after).Pairwise relation := by
  unfold ofBoundary
  split <;> simp

/-- A run has no other token than itself. -/
theorem filterMap_ofToken?_run (noBoundary : ∀ symbol ∈ run, symbol.tokenBoundary = none) :
    run.tokens.filterMap Operator.ofToken? = (Operator.ofToken? run).toList := by
  rcases splitRuns_of_noBoundary Symbol.tokenBoundary id noBoundary with
    ⟨rfl, isNil⟩ | ⟨_, isRun⟩
  · rfl
  · rw [Text.tokens, isRun]
    cases spells : Operator.ofToken? run with
    | none => simp [spells]
    | some operator => simp [spells]

theorem map_operator_ofBoundary (setsApart : cut.SetsApart) (before after : Text) :
    (ofBoundary before cut after).map OperatorPlace.operator =
      (Text.tokens [cut]).filterMap Operator.ofToken? := by
  rcases setsApart with blank | rfl
  · have different : cut ≠ Symbol.semicolon := by
      rintro rfl
      cases blank
    rw [Text.tokens_blank_cons blank]
    simp [ofBoundary, different]
  · rw [Text.tokens_semicolon_cons]
    rfl

/-- The places behind a run are in order if those of the rest of the line are. -/
theorem pairwise_of_cut {places : List OperatorPlace} (ordered : places.Pairwise Precedes) :
    (ofWord run (cut :: rest) ++
      (ofBoundary run cut rest ++ places.map (shift (run ++ [cut])))).Pairwise Precedes := by
  rw [List.pairwise_append, List.pairwise_append, List.pairwise_map]
  refine ⟨pairwise_ofWord _ _, ⟨pairwise_ofBoundary _ _, ?_, ?_⟩, ?_⟩
  · refine ordered.imp fun isBefore => ?_
    simp only [Precedes, shift, List.length_append] at isBefore ⊢
    omega
  · intro earlier inBoundary later inRest
    obtain ⟨_, rfl⟩ := mem_ofBoundary_iff.1 inBoundary
    obtain ⟨place, _, rfl⟩ := List.mem_map.1 inRest
    simp only [Precedes, shift, List.length_append, List.length_singleton]
    omega
  · intro earlier inWord later behind
    obtain ⟨rfl, isPlace⟩ := mem_ofWord_iff.1 inWord
    have literalNonempty := List.length_pos_iff.2 earlier.operator.literal_ne_nil
    rw [isPlace]
    rcases List.mem_append.1 behind with inBoundary | inRest
    · obtain ⟨_, rfl⟩ := mem_ofBoundary_iff.1 inBoundary
      exact literalNonempty
    · obtain ⟨place, _, rfl⟩ := List.mem_map.1 inRest
      simp only [Precedes, shift, List.length_append, List.length_nil]
      omega

/-- A line has its places in order, and their operators are those that its tokens spell. -/
theorem exists_places (line : Text) : ∃ places, ArePlaces line places := by
  have apartOfNone {run : Text} (noBoundary : ∀ symbol ∈ run, symbol.tokenBoundary = none) :
      ∀ symbol ∈ run, ¬ symbol.SetsApart := fun symbol member =>
    Symbol.tokenBoundary_eq_none_iff_not_setsApart.1 (noBoundary symbol member)
  induction line using runs_induction Symbol.tokenBoundary with
  | single run noBoundary =>
      refine ⟨ofWord run [], ?_, ?_, ?_⟩
      · exact pairwise_ofWord run []
      · intro place
        rw [mem_ofWord_iff, standsIn_run_iff (apartOfNone noBoundary)]
      · rw [map_operator_ofWord, filterMap_ofToken?_run noBoundary]
  | cut run first pieces rest noBoundary isBoundary inductionHypothesis =>
      obtain ⟨places, areOrdered, areComplete, areSpelled⟩ := inductionHypothesis
      have setsApart := Symbol.setsApart_of_tokenBoundary isBoundary
      refine
        ⟨ofWord run (first :: rest) ++
          (ofBoundary run first rest ++ places.map (shift (run ++ [first]))), ?_, ?_, ?_⟩
      · exact pairwise_of_cut areOrdered
      · intro place
        rw [List.mem_append, List.mem_append, mem_ofWord_iff, mem_ofBoundary_iff, List.mem_map,
          standsIn_append_cons_iff (apartOfNone noBoundary) setsApart]
        simp only [areComplete, eq_comm]
      · rw [List.map_append, List.map_append, map_operator_ofWord,
          map_operator_ofBoundary setsApart, map_operator_shift, areSpelled,
          ← filterMap_ofToken?_run noBoundary, ← List.filterMap_append, ← List.filterMap_append,
          ← Text.tokens_setsApart_cons setsApart,
          ← Text.tokens_append_setsApart setsApart]

/-- A place cuts the tokens of its line at the operator. -/
theorem StandsIn.tokens_eq {line : Text} (stands : place.StandsIn line) :
    line.tokens = place.before.tokens ++ place.operator.literal :: place.after.tokens := by
  obtain ⟨before, operator, after⟩ := place
  have whole : line = before ++ (operator.literal ++ after) := stands.whole
  by_cases isSequence : operator = .sequence
  · subst isSequence
    rw [whole]
    exact Text.tokens_append_semicolon before after
  · obtain ⟨beforeApart, afterApart⟩ := stands.apart isSequence
    rw [whole, Text.tokens_append_of_endsApart beforeApart,
      Text.tokens_append_of_startsApart _ afterApart,
      Text.tokens_word (Operator.isWord_literal isSequence)]
    rfl

end OperatorPlace

/-! ## The operators among elements -/

/-- The operators among grouped elements are those that their tokens spell. -/
theorem operatorsOf_eq_filterMap {elements : List Element}
    (spellsNoOperator : ∀ command, Element.command command ∈ elements →
      ∀ word ∈ command.words, ∀ operator : Operator, word ≠ operator.literal) :
    operatorsOf elements = (elements.flatMap Element.tokens).filterMap Operator.ofToken? := by
  induction elements with
  | nil => rfl
  | cons first rest inductionHypothesis =>
      have restSame := inductionHypothesis fun command member =>
        spellsNoOperator command (List.mem_cons_of_mem first member)
      rw [List.flatMap_cons, List.filterMap_append, ← restSame]
      cases first with
      | operator operator =>
          have spelled : (Element.operator operator).tokens.filterMap Operator.ofToken? =
              [operator] := by
            simp [Element.tokens]
          rw [spelled]
          rfl
      | command command =>
          have noneSpelled : command.words.filterMap Operator.ofToken? = [] := by
            rw [List.filterMap_eq_nil_iff]
            intro word member
            exact
              Operator.ofToken?_eq_none_iff.2
                (spellsNoOperator command List.mem_cons_self word member)
          show operatorsOf rest = command.words.filterMap Operator.ofToken? ++ operatorsOf rest
          rw [noneSpelled, List.nil_append]

/-- The operators of a line correspond, one for one and from left to right, to the places where a
semicolon is written, or a connective with a blank, a semicolon or the end of the line on both sides.
Each place cuts the line at the operator that it yields: the elements before and behind it are those
of the text before and behind. And no word of a command spells an operator. -/
theorem operators_stand_apart (line : Text) :
    ∃ (elements : List Element) (places : List OperatorPlace),
      elementsOfTokens line.tokens = .ok elements ∧
        places.map OperatorPlace.operator = operatorsOf elements ∧
        places.Pairwise OperatorPlace.Precedes ∧
        (∀ place, place ∈ places ↔ place.StandsIn line) ∧
        (∀ place ∈ places, ∃ first later,
          elementsOfTokens place.before.tokens = .ok first ∧
            elementsOfTokens place.after.tokens = .ok later ∧
            elements = first ++ .operator place.operator :: later) ∧
        ∀ command, Element.command command ∈ elements →
          ∀ word ∈ command.words, ∀ operator : Operator, word ≠ operator.literal := by
  obtain ⟨elements, elementsRead, groups⟩ := exists_grouping_of_line line
  obtain ⟨places, areOrdered, areComplete, areSpelled⟩ := OperatorPlace.exists_places line
  refine ⟨elements, places, elementsRead, ?_, areOrdered, areComplete, ?_,
    groups.spellsNoOperator⟩
  · rw [areSpelled, operatorsOf_eq_filterMap groups.spellsNoOperator, groups.flatten]
  · intro place member
    obtain ⟨first, firstRead, _⟩ := exists_grouping_of_line place.before
    obtain ⟨later, laterRead, _⟩ := exists_grouping_of_line place.after
    refine ⟨first, later, firstRead, laterRead, ?_⟩
    have cut := elementsOfTokens_append_operator place.before.tokens place.operator
      place.after.tokens
    rw [← ((areComplete place).1 member).tokens_eq, elementsRead, firstRead, laterRead] at cut
    cases cut
    rfl

-- Glued to a word the conjunction is part of it; directly behind a semicolon it is an operator.
example :
    elementsOfTokens
        (Text.tokens [.char 'a', .char '&', .char '&', .char ';', .char '&', .char '&']) =
      .ok [.command ⟨[.char 'a', .char '&', .char '&'], [], by decide⟩, .operator .sequence,
        .operator (.connect .and)] := by
  rfl

end CommandChain

import CommandChain.Proofs.Line.Element

/-!
# The grouping of tokens

Tokens have at most one grouping into elements, since a grouping is read back from the tokens that it
flattens to. Grouping fails exactly where a command would have an empty name (`HasEmptyName`), and
otherwise finds the one grouping that there is (`grouping_cases`).
-/

namespace CommandChain

/-- An empty token stands where the name of a command is expected: it is the first token, or directly
behind an operator. -/
def HasEmptyName (tokens : List Text) : Prop :=
  ∃ before after, tokens = before ++ [] :: after ∧
    (before = [] ∨
      ∃ (earlier : List Text) (operator : Operator), before = earlier ++ [operator.literal])

/-! ## Empty names along the runs of tokens -/

theorem hasEmptyName_append_operator_iff (first : List Text) (operator : Operator)
    (later : List Text) :
    HasEmptyName (first ++ operator.literal :: later) ↔
      HasEmptyName first ∨ HasEmptyName later := by
  constructor
  · rintro ⟨before, after, whole, expected⟩
    rcases append_cons_eq_append_cons_iff.1 whole with
      ⟨skipped, rfl, rfl⟩ | ⟨_, isNil, _⟩ | ⟨skipped, rfl, rfl⟩
    · exact Or.inl ⟨before, skipped, rfl, expected⟩
    · exact absurd isNil.symm operator.literal_ne_nil
    · refine Or.inr ⟨skipped, after, rfl, ?_⟩
      rcases List.eq_nil_or_concat skipped with rfl | ⟨front, last, rfl⟩
      · exact Or.inl rfl
      · rcases expected with isNil | ⟨earlier, other, isBefore⟩
        · simp at isNil
        · rw [List.concat_eq_append, ← List.cons_append, ← List.append_assoc] at isBefore
          obtain ⟨_, sameLast⟩ := List.append_inj' isBefore rfl
          cases sameLast
          exact Or.inr ⟨front, other, List.concat_eq_append⟩
  · rintro (⟨before, after, rfl, expected⟩ | ⟨before, after, rfl, expected⟩)
    · exact ⟨before, after ++ operator.literal :: later, by simp, expected⟩
    · refine ⟨first ++ operator.literal :: before, after, by simp, Or.inr ?_⟩
      rcases expected with rfl | ⟨earlier, other, rfl⟩
      · exact ⟨first, operator, rfl⟩
      · exact ⟨first ++ operator.literal :: earlier, other, by simp⟩

theorem hasEmptyName_run_iff {run : List Text}
    (noBoundary : ∀ token ∈ run, Element.boundary token = none) :
    HasEmptyName run ↔ ∃ arguments, run = [] :: arguments := by
  constructor
  · rintro ⟨before, after, rfl, rfl | ⟨earlier, operator, rfl⟩⟩
    · exact ⟨after, rfl⟩
    · have notBoundary := noBoundary operator.literal (by simp)
      rw [elementBoundary_literal] at notBoundary
      cases notBoundary
  · rintro ⟨arguments, rfl⟩
    exact ⟨[], arguments, rfl, Or.inl rfl⟩

/-! ## Failing and succeeding -/

/-- What becomes of tokens: they have an empty name and cannot be grouped, or they are grouped. -/
def GroupsOrFails (tokens : List Text) : Prop :=
  (HasEmptyName tokens ∧ elementsOfTokens tokens = .error .emptyBinary) ∨
    (¬ HasEmptyName tokens ∧
      ∃ elements, elementsOfTokens tokens = .ok elements ∧ IsGrouping elements tokens)

/-- Tokens without operator are nothing, a command, or a command without a name. -/
theorem groupsOrFails_run {run : List Text}
    (noBoundary : ∀ token ∈ run, Element.boundary token = none) : GroupsOrFails run := by
  rw [GroupsOrFails, hasEmptyName_run_iff noBoundary]
  match run with
  | [] => exact Or.inr ⟨by simp, [], rfl, IsGrouping.nil⟩
  | [] :: arguments =>
      refine Or.inl ⟨⟨arguments, rfl⟩, ?_⟩
      unfold elementsOfTokens
      rw [splitRuns_run _ _ (List.cons_ne_nil _ _) noBoundary]
      rfl
  | (symbol :: rest) :: arguments =>
      let command : Command := ⟨symbol :: rest, arguments, List.cons_ne_nil _ _⟩
      have noOperator : ∀ word ∈ command.words, ∀ operator : Operator, word ≠ operator.literal :=
        fun word member => elementBoundary_eq_none_iff.1 (noBoundary word member)
      exact
        Or.inr
          ⟨by simp, [.command command], elementsOfTokens_words noOperator,
            IsGrouping.command noOperator⟩

theorem grouping_cases (tokens : List Text) : GroupsOrFails tokens := by
  induction tokens using runs_induction Element.boundary with
  | single run noBoundary => exact groupsOrFails_run noBoundary
  | cut run first pieces rest noBoundary isBoundary inductionHypothesis =>
      obtain ⟨operator, rfl⟩ := exists_operator_of_elementBoundary isBoundary
      rw [GroupsOrFails, hasEmptyName_append_operator_iff, elementsOfTokens_append_operator]
      rcases groupsOrFails_run noBoundary with
        ⟨runEmpty, runFails⟩ | ⟨runNamed, before, beforeRead, beforeGroups⟩
      · exact Or.inl ⟨Or.inl runEmpty, by rw [runFails]; rfl⟩
      · rcases inductionHypothesis with
          ⟨restEmpty, restFails⟩ | ⟨restNamed, after, afterRead, afterGroups⟩
        · exact Or.inl ⟨Or.inr restEmpty, by rw [beforeRead, restFails]; rfl⟩
        · exact
            Or.inr
              ⟨not_or.2 ⟨runNamed, restNamed⟩, before ++ .operator operator :: after,
                by rw [beforeRead, afterRead]; rfl,
                beforeGroups.append_operator operator afterGroups⟩

/-- Non-empty tokens are always grouped. -/
theorem exists_grouping {tokens : List Text} (nonempty : ∀ token ∈ tokens, token ≠ []) :
    ∃ elements, elementsOfTokens tokens = .ok elements ∧ IsGrouping elements tokens := by
  rcases grouping_cases tokens with ⟨⟨before, after, rfl, _⟩, _⟩ | ⟨_, grouped⟩
  · exact absurd rfl (nonempty [] (by simp))
  · exact grouped

/-- The tokens of a line are always grouped. -/
theorem exists_grouping_of_line (line : Text) :
    ∃ elements, elementsOfTokens line.tokens = .ok elements ∧ IsGrouping elements line.tokens :=
  exists_grouping fun _ member => Text.ne_nil_of_mem_tokens member

/-- A grouping is found from the tokens that it groups. -/
theorem IsGrouping.elementsOfTokens_eq {elements : List Element} {tokens : List Text}
    (groups : IsGrouping elements tokens) : elementsOfTokens tokens = .ok elements := by
  rw [← groups.flatten]
  exact elementsOfTokens_flatMap_tokens groups.apart groups.spellsNoOperator

/-- Grouping tokens is lossless and unique. It fails if and only if a name is empty: an empty token is
the first of all or stands directly behind an operator. Otherwise it finds the one list of elements of
which no two commands are neighbours, no word of a command spells an operator, and which flattens to
the tokens; names are not empty, since no command has an empty one. And all elements of that kind are
read back from their tokens. -/
theorem elementsOfTokens_unique_grouping :
    (∀ tokens error,
        elementsOfTokens tokens = .error error ↔ error = .emptyBinary ∧ HasEmptyName tokens) ∧
      (∀ tokens, ¬ HasEmptyName tokens →
        ∃ elements, elementsOfTokens tokens = .ok elements ∧ IsGrouping elements tokens ∧
          ∀ other, IsGrouping other tokens → other = elements) ∧
      (∀ elements, CommandsApart elements →
        (∀ command, Element.command command ∈ elements →
          ∀ word ∈ command.words, ∀ operator : Operator, word ≠ operator.literal) →
        elementsOfTokens (elements.flatMap Element.tokens) = .ok elements) := by
  refine ⟨?_, ?_, ?_⟩
  · intro tokens error
    rcases grouping_cases tokens with ⟨isEmpty, fails⟩ | ⟨isNamed, elements, isRead, _⟩
    · rw [fails]
      simp [isEmpty, eq_comm]
    · rw [isRead]
      simp [isNamed]
  · intro tokens isNamed
    rcases grouping_cases tokens with ⟨isEmpty, _⟩ | ⟨_, elements, isRead, groups⟩
    · exact absurd isEmpty isNamed
    · refine ⟨elements, isRead, groups, ?_⟩
      intro other otherGroups
      have otherRead := otherGroups.elementsOfTokens_eq
      rw [isRead] at otherRead
      cases otherRead
      rfl
  · exact fun _ apart spellsNoOperator => elementsOfTokens_flatMap_tokens apart spellsNoOperator

-- An argument may be empty, a name may not.
example :
    elementsOfTokens [[.char 'a'], []] = .ok [.command ⟨[.char 'a'], [[]], by decide⟩] ∧
      elementsOfTokens [Operator.sequence.literal, [], [.char 'a']] = .error .emptyBinary :=
  ⟨rfl, rfl⟩

end CommandChain

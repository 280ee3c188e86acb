import CommandChain.Proofs.Line.Grouping

/-!
# Chains of a line

Reading a line never fails, and every chain of the result is one that a line can hold
(`exists_parseLine`). A semicolon cuts a line into two that are read on their own
(`parseLine_append_semicolon`).
-/

namespace CommandChain

/-! ## Laws of cutting into chains -/

theorem chainBoundary_sequence : Chain.boundary (.operator .sequence) = some [] := by
  simp [Chain.boundary]

theorem chainBoundary_eq_none_iff {element : Element} :
    Chain.boundary element = none ↔ element ≠ .operator .sequence := by
  simp [Chain.boundary]

/-- A boundary between chains is a semicolon. -/
theorem eq_sequence_of_chainBoundary {element : Element}
    {pieces : List (Except ShellError Chain)} (isBoundary : Chain.boundary element = some pieces) :
    element = .operator .sequence := by
  by_contra different
  rw [chainBoundary_eq_none_iff.2 different] at isBoundary
  cases isBoundary

/-- A semicolon makes the elements before it independent of the elements after it. -/
theorem chainsOfElements_append_sequence (before after : List Element) :
    chainsOfElements (before ++ .operator .sequence :: after) =
      (do
        let first ← chainsOfElements before
        let later ← chainsOfElements after
        pure (first ++ later)) := by
  unfold chainsOfElements
  rw [splitRuns_append_boundary _ _ chainBoundary_sequence, List.nil_append, List.mapM_append]

/-- The elements of a chain are one chain. -/
theorem chainsOfElements_elements (chain : Chain) : chainsOfElements chain.elements = .ok [chain] := by
  have noBoundary : ∀ element ∈ chain.elements, Chain.boundary element = none := by
    intro element member
    rw [chainBoundary_eq_none_iff]
    intro isSequence
    rw [isSequence] at member
    exact chain.sequence_not_mem member
  unfold chainsOfElements
  rw [splitRuns_run _ _ chain.elements_ne_nil noBoundary, Chain.ofElements_elements]
  rfl

/-- Elements without semicolon are one chain, or nothing. -/
theorem eq_nil_or_exists_chain {run : List Element}
    (noBoundary : ∀ element ∈ run, Chain.boundary element = none) :
    run = [] ∨ ∃ chain : Chain, run = chain.elements := by
  by_cases isEmpty : run = []
  · exact Or.inl isEmpty
  · have notMember : Element.operator .sequence ∉ run := fun member =>
      chainBoundary_eq_none_iff.1 (noBoundary _ member) rfl
    exact Or.inr ⟨⟨run, isEmpty, notMember⟩, rfl⟩

theorem exists_chains_of_run {run : List Element}
    (noBoundary : ∀ element ∈ run, Chain.boundary element = none) :
    ∃ chains, chainsOfElements run = .ok chains ∧ chains.flatMap Chain.elements = run := by
  rcases eq_nil_or_exists_chain noBoundary with rfl | ⟨chain, rfl⟩
  · exact ⟨[], rfl, rfl⟩
  · exact ⟨[chain], chainsOfElements_elements chain, List.flatMap_singleton Chain.elements chain⟩

/-- Elements are always cut into chains. These hold all of them but the semicolons, and every chain is
a stretch of them. -/
theorem exists_chains (elements : List Element) :
    ∃ chains, chainsOfElements elements = .ok chains ∧
      chains.flatMap Chain.elements = elements.filter (· ≠ .operator .sequence) ∧
      ∀ chain ∈ chains, chain.elements <:+: elements := by
  have single {run : List Element} (noBoundary : ∀ element ∈ run, Chain.boundary element = none) :
      ∃ chains, chainsOfElements run = .ok chains ∧
        chains.flatMap Chain.elements = run.filter (· ≠ .operator .sequence) ∧
        ∀ chain ∈ chains, chain.elements <:+: run := by
    obtain ⟨chains, isRead, flatten⟩ := exists_chains_of_run noBoundary
    refine ⟨chains, isRead, ?_, ?_⟩
    · rw [flatten, Eq.comm, List.filter_eq_self]
      intro element member
      exact decide_eq_true (chainBoundary_eq_none_iff.1 (noBoundary element member))
    · intro chain member
      rw [← flatten]
      exact List.infix_of_mem_flatten (List.mem_map_of_mem member)
  induction elements using runs_induction Chain.boundary with
  | single run noBoundary => exact single noBoundary
  | cut run first pieces rest noBoundary isBoundary inductionHypothesis =>
      obtain rfl := eq_sequence_of_chainBoundary isBoundary
      obtain ⟨before, beforeRead, beforeFlatten, beforeInfix⟩ := single noBoundary
      obtain ⟨after, afterRead, afterFlatten, afterInfix⟩ := inductionHypothesis
      refine ⟨before ++ after, ?_, ?_, ?_⟩
      · rw [chainsOfElements_append_sequence, beforeRead, afterRead]
        rfl
      · rw [List.flatMap_append, beforeFlatten, afterFlatten, List.filter_append]
        rfl
      · intro chain member
        rcases List.mem_append.1 member with inBefore | inAfter
        · exact (beforeInfix chain inBefore).trans (List.prefix_append run _).isInfix
        · exact
            (afterInfix chain inAfter).trans <|
              ((List.suffix_cons _ rest).trans (List.suffix_append run _)).isInfix

/-! ## Reading a line -/

/-- A chain that is a stretch of elements which a line can hold is well formed. -/
theorem Chain.isWellFormed_of_infix {chain : Chain} {elements : List Element}
    (isInfix : chain.elements <:+: elements) (apart : CommandsApart elements)
    (plainWords : HasPlainWords elements) : chain.IsWellFormed where
  apart := by
    rw [commandsApart_iff_isChain] at apart ⊢
    exact apart.infix isInfix
  plainWords := fun command member => plainWords command (isInfix.subset member)

/-- The elements that group the tokens of a line have plain words. -/
theorem IsGrouping.hasPlainWords {elements : List Element} {line : Text}
    (groups : IsGrouping elements line.tokens) : HasPlainWords elements := by
  intro command member word inWords
  have noOperator : ∀ operator : Operator, word ≠ operator.literal :=
    groups.spellsNoOperator command member word inWords
  refine ⟨?_, noOperator⟩
  rcases Text.mem_tokens (groups.word_mem member inWords) with isSemicolon | isWord
  · exact absurd isSemicolon (noOperator .sequence)
  · exact isWord

/-- The chains of a line come from the elements that group its tokens. -/
theorem exists_elements_of_line (line : Text) :
    ∃ elements, elementsOfTokens line.tokens = .ok elements ∧ IsGrouping elements line.tokens ∧
      parseLine line = chainsOfElements elements := by
  obtain ⟨elements, elementsRead, groups⟩ := exists_grouping_of_line line
  refine ⟨elements, elementsRead, groups, ?_⟩
  rw [parseLine, elementsRead]
  rfl

/-- Every line can be read, and every chain of it is well formed. -/
theorem exists_parseLine (line : Text) :
    ∃ chains, parseLine line = .ok chains ∧ ∀ chain ∈ chains, chain.IsWellFormed := by
  obtain ⟨elements, _, groups, reading⟩ := exists_elements_of_line line
  obtain ⟨chains, chainsRead, _, chainsInfix⟩ := exists_chains elements
  refine ⟨chains, ?_, ?_⟩
  · rw [reading, chainsRead]
  · intro chain member
    exact
      Chain.isWellFormed_of_infix (chainsInfix chain member) groups.apart groups.hasPlainWords

/-- A semicolon cuts a line into two that are read on their own. -/
theorem parseLine_append_semicolon {before after : Text} {first later : List Chain}
    (beforeRead : parseLine before = .ok first) (afterRead : parseLine after = .ok later) :
    parseLine (before ++ Symbol.semicolon :: after) = .ok (first ++ later) := by
  obtain ⟨firstElements, firstGrouped, _, firstReading⟩ := exists_elements_of_line before
  obtain ⟨laterElements, laterGrouped, _, laterReading⟩ := exists_elements_of_line after
  have grouped :
      elementsOfTokens (before.tokens ++ Operator.sequence.literal :: after.tokens) =
        .ok (firstElements ++ .operator .sequence :: laterElements) := by
    rw [elementsOfTokens_append_operator, firstGrouped, laterGrouped]
    rfl
  rw [parseLine, Text.tokens_append_semicolon]
  show elementsOfTokens (before.tokens ++ Operator.sequence.literal :: after.tokens) >>= _ = _
  rw [grouped]
  show chainsOfElements (firstElements ++ .operator .sequence :: laterElements) = _
  rw [chainsOfElements_append_sequence, ← firstReading, ← laterReading, beforeRead, afterRead]
  rfl

/-! ## The chains of a line -/

/-- The chains that are read from a line. -/
def readChains (line : Text) : List Chain :=
  match parseLine line with
  | .error _ => []
  | .ok chains => chains

/-- Reading a line never fails. -/
theorem parseLine_eq_readChains (line : Text) : parseLine line = .ok (readChains line) := by
  obtain ⟨chains, isRead, _⟩ := exists_parseLine line
  simp only [readChains, isRead]

theorem readChains_of_parseLine {line : Text} {chains : List Chain}
    (isRead : parseLine line = .ok chains) : readChains line = chains := by
  simp only [readChains, isRead]

theorem readChains_append_semicolon (before after : Text) :
    readChains (before ++ Symbol.semicolon :: after) = readChains before ++ readChains after :=
  readChains_of_parseLine <|
    parseLine_append_semicolon (parseLine_eq_readChains before) (parseLine_eq_readChains after)

/-- Lines that are joined by semicolons have the chains of all of them. -/
theorem readChains_joinWith_semicolon :
    ∀ lines : List Text,
      readChains (Text.joinWith [Symbol.semicolon] lines) = lines.flatMap readChains
  | [] => rfl
  | [only] => (List.flatMap_singleton readChains only).symm
  | first :: second :: rest => by
      have restRead := readChains_joinWith_semicolon (second :: rest)
      rw [Text.joinWith_cons_cons, List.append_assoc, List.singleton_append,
        readChains_append_semicolon, restRead]
      rfl

/-- A line that holds at least one chain. -/
def HoldsChain (line : Text) : Prop :=
  ∃ chain later, parseLine line = .ok (chain :: later)

theorem holdsChain_iff {line : Text} : HoldsChain line ↔ readChains line ≠ [] := by
  constructor
  · rintro ⟨chain, later, isRead⟩
    rw [readChains_of_parseLine isRead]
    exact List.cons_ne_nil chain later
  · intro nonempty
    obtain ⟨chain, later, found⟩ := List.exists_cons_of_ne_nil nonempty
    exact ⟨chain, later, by rw [parseLine_eq_readChains, found]⟩

end CommandChain

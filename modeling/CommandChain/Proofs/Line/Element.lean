import CommandChain.Chain.WellFormed
import CommandChain.Proofs.Line.Token
import Mathlib.Data.List.Chain

/-!
# Elements of a line

How tokens are grouped. An operator cuts a token list into two that are grouped on their own
(`elementsOfTokens_append_operator`), and the words of a command are one command
(`elementsOfTokens_words`). So grouping undoes the flattening of elements of which no two commands
are neighbours and no word spells an operator (`elementsOfTokens_flatMap_tokens`).
-/

namespace CommandChain

/-! ## Commands apart -/

/-- Two elements that may be neighbours. -/
def Element.MayPrecede (first second : Element) : Prop :=
  ¬ (first.isCommand = true ∧ second.isCommand = true)

theorem commandsApart_iff_isChain :
    ∀ {elements : List Element}, CommandsApart elements ↔ elements.IsChain Element.MayPrecede
  | [] => by simp [CommandsApart]
  | [only] => by simp [CommandsApart]
  | first :: second :: rest => by
      rw [List.isChain_cons_cons, ← commandsApart_iff_isChain]
      rfl

/-- Elements on both sides of an operator are apart if those of either side are. -/
theorem commandsApart_append_operator {first later : List Element} (operator : Operator)
    (firstApart : CommandsApart first) (laterApart : CommandsApart later) :
    CommandsApart (first ++ .operator operator :: later) := by
  rw [commandsApart_iff_isChain] at firstApart laterApart ⊢
  refine firstApart.append (laterApart.cons ?_) ?_
  · intro next _ neighbours
    exact Bool.false_ne_true neighbours.1
  · intro last _ next isNext neighbours
    simp only [List.head?_cons, Option.mem_def, Option.some.injEq] at isNext
    rw [← isNext] at neighbours
    exact Bool.false_ne_true neighbours.2

/-! ## Commands among elements -/

/-- The command that an element is. -/
def Element.command? : Element → Option Command
  | .operator _ => none
  | .command entry => some entry

/-- The commands among elements, in order. -/
def commandsOf (elements : List Element) : List Command :=
  elements.filterMap Element.command?

theorem commandsOf_append (first later : List Element) :
    commandsOf (first ++ later) = commandsOf first ++ commandsOf later :=
  List.filterMap_append

theorem mem_commandsOf {elements : List Element} {command : Command}
    (member : .command command ∈ elements) : command ∈ commandsOf elements :=
  List.mem_filterMap.2 ⟨.command command, member, rfl⟩

/-- Leaving out semicolons leaves out no command. -/
theorem commandsOf_filter_ne_sequence (elements : List Element) :
    commandsOf (elements.filter (· ≠ .operator .sequence)) = commandsOf elements := by
  rw [commandsOf, List.filterMap_filter]
  refine congrArg (List.filterMap · elements) (funext fun element => ?_)
  cases element with
  | operator operator => exact ite_self none
  | command command => rfl

/-! ## Laws of grouping -/

theorem elementBoundary_literal (operator : Operator) :
    Element.boundary operator.literal = some [.ok (.operator operator)] := by
  simp [Element.boundary]

theorem elementBoundary_eq_none_iff {token : Text} :
    Element.boundary token = none ↔ ∀ operator : Operator, token ≠ operator.literal := by
  rw [← Operator.ofToken?_eq_none_iff]
  simp [Element.boundary]

/-- A token that is a boundary spells an operator. -/
theorem exists_operator_of_elementBoundary {token : Text}
    {pieces : List (Except ShellError Element)} (isBoundary : Element.boundary token = some pieces) :
    ∃ operator : Operator, token = operator.literal := by
  obtain ⟨operator, spells, _⟩ := Option.map_eq_some_iff.1 isBoundary
  exact ⟨operator, Operator.ofToken?_eq_some_iff.1 spells⟩

/-- An operator makes the tokens before it independent of the tokens after it. -/
theorem elementsOfTokens_append_operator (before : List Text) (operator : Operator)
    (after : List Text) :
    elementsOfTokens (before ++ operator.literal :: after) =
      (do
        let first ← elementsOfTokens before
        let later ← elementsOfTokens after
        pure (first ++ .operator operator :: later)) := by
  unfold elementsOfTokens
  rw [splitRuns_append_boundary _ _ (elementBoundary_literal operator), List.mapM_append,
    List.mapM_append]
  have operatorRead :
      [(.ok (.operator operator) : Except ShellError Element)].mapM id =
        .ok [.operator operator] :=
    rfl
  rw [operatorRead]
  cases (splitRuns Element.boundary Element.ofWords before).mapM id with
  | error error => rfl
  | ok first =>
      cases (splitRuns Element.boundary Element.ofWords after).mapM id with
      | error error => rfl
      | ok later => rfl

/-- The words of a command, none of which spells an operator, are one command. -/
theorem elementsOfTokens_words {command : Command}
    (noOperator : ∀ word ∈ command.words, ∀ operator : Operator, word ≠ operator.literal) :
    elementsOfTokens command.words = .ok [.command command] := by
  have noBoundary : ∀ word ∈ command.words, Element.boundary word = none := fun word member =>
    elementBoundary_eq_none_iff.2 (noOperator word member)
  have nonempty : command.words ≠ [] := List.cons_ne_nil _ _
  unfold elementsOfTokens
  rw [splitRuns_run _ _ nonempty noBoundary, Element.ofWords, Command.ofTokens_words]
  rfl

/-! ## Groupings -/

/-- The way in which elements group tokens: no two commands are neighbours, no word of a command
spells an operator, and flattening the elements gives the tokens back. -/
structure IsGrouping (elements : List Element) (tokens : List Text) : Prop where
  apart : CommandsApart elements
  spellsNoOperator : ∀ command, Element.command command ∈ elements → ∀ word ∈ command.words,
    ∀ operator : Operator, word ≠ operator.literal
  flatten : elements.flatMap Element.tokens = tokens

namespace IsGrouping

theorem nil : IsGrouping [] [] :=
  { apart := trivial
    spellsNoOperator := by simp
    flatten := rfl }

theorem command {command : Command}
    (noOperator : ∀ word ∈ command.words, ∀ operator : Operator, word ≠ operator.literal) :
    IsGrouping [.command command] command.words where
  apart := trivial
  spellsNoOperator := by
    intro other member
    rcases List.mem_singleton.1 member with sameElement
    cases sameElement
    exact noOperator
  flatten := by simp [Element.tokens]

theorem append_operator {first later : List Element} {before after : List Text}
    (firstGroups : IsGrouping first before) (operator : Operator)
    (laterGroups : IsGrouping later after) :
    IsGrouping (first ++ .operator operator :: later) (before ++ operator.literal :: after) where
  apart := commandsApart_append_operator operator firstGroups.apart laterGroups.apart
  spellsNoOperator := by
    intro command member
    rcases List.mem_append.1 member with inFirst | inRest
    · exact firstGroups.spellsNoOperator command inFirst
    · rcases List.mem_cons.1 inRest with isOperator | inLater
      · cases isOperator
      · exact laterGroups.spellsNoOperator command inLater
  flatten := by
    rw [List.flatMap_append, List.flatMap_cons, firstGroups.flatten, laterGroups.flatten]
    rfl

/-- Every word of a grouped command is one of the tokens. -/
theorem word_mem {elements : List Element} {tokens : List Text}
    (groups : IsGrouping elements tokens) {command : Command}
    (member : Element.command command ∈ elements) {word : Text} (inWords : word ∈ command.words) :
    word ∈ tokens := by
  rw [← groups.flatten]
  exact List.mem_flatMap.2 ⟨.command command, member, inWords⟩

end IsGrouping

/-! ## Grouping flattened elements -/

/-- Elements of which no two commands are neighbours and no word spells an operator are read back
from their tokens. -/
theorem elementsOfTokens_flatMap_tokens :
    ∀ {elements : List Element}, CommandsApart elements →
      (∀ command, Element.command command ∈ elements → ∀ word ∈ command.words,
        ∀ operator : Operator, word ≠ operator.literal) →
      elementsOfTokens (elements.flatMap Element.tokens) = .ok elements
  | [], _, _ => rfl
  | .operator operator :: later, apart, noOperator => by
      have laterApart : CommandsApart later := by
        rw [commandsApart_iff_isChain] at apart ⊢
        exact apart.tail
      have laterRead : elementsOfTokens (later.flatMap Element.tokens) = .ok later :=
        elementsOfTokens_flatMap_tokens laterApart fun command member =>
          noOperator command (List.mem_cons_of_mem _ member)
      rw [List.flatMap_cons]
      show elementsOfTokens ([] ++ operator.literal :: later.flatMap Element.tokens) = _
      rw [elementsOfTokens_append_operator, laterRead]
      rfl
  | [.command command], _, noOperator => by
      rw [List.flatMap_singleton]
      exact elementsOfTokens_words (noOperator command List.mem_cons_self)
  | .command command :: .operator operator :: later, apart, noOperator => by
      have laterApart : CommandsApart later := by
        rw [commandsApart_iff_isChain] at apart ⊢
        exact apart.tail.tail
      have laterRead : elementsOfTokens (later.flatMap Element.tokens) = .ok later :=
        elementsOfTokens_flatMap_tokens laterApart fun other member =>
          noOperator other (List.mem_cons_of_mem _ (List.mem_cons_of_mem _ member))
      rw [List.flatMap_cons, List.flatMap_cons]
      show elementsOfTokens (command.words ++ operator.literal :: later.flatMap Element.tokens) = _
      rw [elementsOfTokens_append_operator, laterRead,
        elementsOfTokens_words (noOperator command List.mem_cons_self)]
      rfl
  | .command _ :: .command _ :: _, apart, _ => absurd ⟨rfl, rfl⟩ apart.1

end CommandChain

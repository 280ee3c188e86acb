import CommandChain.Chain

/-!
# Well-formed chains

The chains that a line can hold, said without reading a line: no two commands are neighbours, and
every word is a non-empty stretch without blank or semicolon that spells no operator.
-/

namespace CommandChain

/-- A word that a line can hold: a word token that spells no operator. -/
def IsPlainWord (word : Text) : Prop :=
  Text.IsWord word ∧ ∀ operator : Operator, word ≠ operator.literal

/-- No two neighbours are commands: the words of the second would belong to the first. -/
def CommandsApart : List Element → Prop
  | first :: second :: rest =>
      ¬ (first.isCommand = true ∧ second.isCommand = true) ∧ CommandsApart (second :: rest)
  | _ => True

/-- Every word of every command among the elements is one that a line can hold. -/
def HasPlainWords (elements : List Element) : Prop :=
  ∀ command, Element.command command ∈ elements → ∀ word ∈ command.words, IsPlainWord word

/-- A chain that a line can hold. -/
structure Chain.IsWellFormed (chain : Chain) : Prop where
  apart : CommandsApart chain.elements
  plainWords : HasPlainWords chain.elements

end CommandChain

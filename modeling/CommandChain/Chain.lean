import CommandChain.Element
import CommandChain.Token

/-!
# Chains

Semicolons cut a line into chains, which are evaluated one after another and independently. Empty
stretches between semicolons leave no chain. `parseLine` reads the chains of a line and
`Chain.renderAll` writes them.
-/

namespace CommandChain

/-- A chain: the elements between two semicolons, at least one, none of them a semicolon. -/
@[ext] structure Chain where
  elements : List Element
  elements_ne_nil : elements ≠ []
  sequence_not_mem : Element.operator .sequence ∉ elements
  deriving DecidableEq

namespace Chain

/-- The chain with the given elements. -/
def ofElements (elements : List Element) : Except ShellError Chain :=
  if isNil : elements = [] then
    .error .emptyChain
  else if isMember : Element.operator .sequence ∈ elements then
    .error .sequenceInChain
  else
    .ok ⟨elements, isNil, isMember⟩

@[simp] theorem ofElements_elements (chain : Chain) : ofElements chain.elements = .ok chain := by
  simp [ofElements, chain.elements_ne_nil, chain.sequence_not_mem]

theorem elements_eq_of_ofElements {elements : List Element} {chain : Chain}
    (built : ofElements elements = .ok chain) : chain.elements = elements := by
  unfold ofElements at built
  split at built
  · simp at built
  · split at built
    · simp at built
    · cases built
      rfl

/-- A semicolon is a boundary between chains and contributes nothing itself. -/
def boundary (element : Element) : Option (List (Except ShellError Chain)) :=
  if element = .operator .sequence then some [] else none

/-- The tokens of a chain. -/
def tokens (chain : Chain) : List Text :=
  chain.elements.flatMap Element.tokens

/-- A chain as a line: its tokens joined by single spaces. -/
def render (chain : Chain) : Text :=
  Text.joinWith [.char ' '] chain.tokens

/-- Chains as a line: the single chains joined by semicolons. -/
def renderAll (chains : List Chain) : Text :=
  Text.joinWith [Symbol.semicolon] (chains.map render)

end Chain

/-- The chains of a sequence of elements: its maximal non-empty stretches without semicolon. -/
def chainsOfElements (elements : List Element) : Except ShellError (List Chain) :=
  (splitRuns Chain.boundary Chain.ofElements elements).mapM id

/-- The chains of a line. -/
def parseLine (line : Text) : Except ShellError (List Chain) :=
  elementsOfTokens (Text.tokens line) >>= chainsOfElements

end CommandChain

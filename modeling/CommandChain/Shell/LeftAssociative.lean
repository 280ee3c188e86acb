import CommandChain.Shell.RunChain

/-!
# Left-associative reading

Commands that are joined by single connectives, as and-or lists are usually read: each connective
joins all that stands before it with the one command behind it. A command that is skipped leaves the
last status as it is, and the next connective is tested against it again.
-/

namespace CommandChain

/-- A connective and the command behind it. -/
structure AndOrList.Link where
  connective : Connective
  command : Command
  deriving DecidableEq

/-- Commands joined by single connectives. -/
structure AndOrList where
  first : Command
  later : List AndOrList.Link
  deriving DecidableEq

namespace AndOrList

/-- The elements of a connective and the command behind it. -/
def Link.elements (link : Link) : List Element :=
  [.operator (.connect link.connective), .command link.command]

/-- The elements of the list, in order. -/
def elements (list : AndOrList) : List Element :=
  .command list.first :: list.later.flatMap Link.elements

theorem sequence_not_mem_elements (list : AndOrList) :
    Element.operator .sequence ∉ list.elements := by
  simp [elements, Link.elements]

/-- The list as a chain. -/
def chain (list : AndOrList) : Chain where
  elements := list.elements
  elements_ne_nil := List.cons_ne_nil _ _
  sequence_not_mem := list.sequence_not_mem_elements

/-- All connectives of the list are the given one. -/
def IsJoinedBy (list : AndOrList) (connective : Connective) : Prop :=
  ∀ link ∈ list.later, link.connective = connective

end AndOrList

variable {state handle : Type}

namespace Shell

/-- Goes on behind commands that left a code: runs the command of the link, or skips it and keeps the
code. -/
def joinLeft (shell : Shell state handle) (code : Int) (link : AndOrList.Link) :
    Action state handle Int :=
  if link.connective.endsAfter (isSuccessCode code) then
    pure code
  else do
    let result ← shell.runCommand link.command
    pure result.code

/-- Evaluates a list from the left. It returns the code of the last command that was not skipped. -/
def leftAssociative (shell : Shell state handle) (list : AndOrList) : Action state handle Int := do
  let result ← shell.runCommand list.first
  list.later.foldlM shell.joinLeft result.code

end Shell

end CommandChain

import CommandChain.Text.Symbol

/-!
# Errors of the shell

What can be wrong with a command, with a chain, or with the place of an operator in it.
-/

namespace CommandChain

/-- An operator that joins two commands of a chain. -/
inductive Connective where
  | and
  | or
  deriving DecidableEq

namespace Connective

/-- How a connective is written. -/
def literal : Connective → Text
  | .and => [.char '&', .char '&']
  | .or => [.char '|', .char '|']

/-- A connective ends its chain after a command that succeeded or failed: a conjunction after a
failure, a disjunction after a success. -/
def endsAfter : Connective → (succeeded : Bool) → Bool
  | .and, succeeded => !succeeded
  | .or, succeeded => succeeded

end Connective

/-- The ways in which building or evaluating a line can go wrong. -/
inductive ShellError where
  /-- a command was built from no token -/
  | noToken
  /-- a command was given an empty name -/
  | emptyBinary
  /-- a chain was built from no element -/
  | emptyChain
  /-- a chain was given a sequencing operator -/
  | sequenceInChain
  /-- a connective was reached with no command result to act on -/
  | missingOperand (connective : Connective)
  /-- a sequencing operator was reached during evaluation -/
  | misplacedSequence
  deriving DecidableEq

namespace ShellError

/-- The text of an error. -/
def message : ShellError → Text
  | .noToken => Text.ofString "A command requires at least one token"
  | .emptyBinary => Text.ofString "A command requires a non-empty binary name"
  | .emptyChain => Text.ofString "A chain must hold at least one element"
  | .sequenceInChain => Text.ofString "A chain cannot hold a sequencing operator"
  | .missingOperand connective =>
      Text.ofString "no command result before '" ++ connective.literal ++ [.char '\'']
  | .misplacedSequence => Text.ofString "Sequencing operators never appear inside a chain"

end ShellError

end CommandChain

import CommandChain.Runs
import CommandChain.ShellError
import CommandChain.Text.Quoted

/-!
# Operators, commands and elements

A line is a sequence of elements: operators, and commands made of the words between operators. An
operator is recognised only as a whole token, and then always; so no word of a command ever spells
an operator. `elementsOfTokens` groups tokens into elements.
-/

namespace CommandChain

/-- A control operator. -/
inductive Operator where
  | sequence
  | connect (connective : Connective)
  deriving DecidableEq

namespace Operator

/-- How an operator is written. -/
def literal : Operator → Text
  | .sequence => [.char ';']
  | .connect connective => connective.literal

/-- All operators. -/
def all : List Operator :=
  [.sequence, .connect .and, .connect .or]

theorem mem_all (operator : Operator) : operator ∈ all := by
  cases operator with
  | sequence => simp [all]
  | connect connective => cases connective <;> simp [all]

theorem literal_injective {first second : Operator} (same : first.literal = second.literal) :
    first = second := by
  revert same
  cases first with
  | sequence =>
      cases second with
      | sequence => simp
      | connect connective => cases connective <;> simp [literal, Connective.literal]
  | connect connective =>
      cases second with
      | sequence => cases connective <;> simp [literal, Connective.literal]
      | connect other =>
          cases connective <;> cases other <;> simp [literal, Connective.literal]

/-- The operator that a token spells exactly. -/
def ofToken? (token : Text) : Option Operator :=
  all.find? fun operator => operator.literal == token

theorem ofToken?_eq_some_iff {token : Text} {operator : Operator} :
    ofToken? token = some operator ↔ token = operator.literal := by
  constructor
  · intro found
    have spells := List.find?_some found
    exact (beq_iff_eq.1 spells).symm
  · rintro rfl
    cases found : ofToken? operator.literal with
    | none =>
        have differs := List.find?_eq_none.1 found operator (mem_all operator)
        simp at differs
    | some other =>
        have spells := List.find?_some found
        exact congrArg some (literal_injective (beq_iff_eq.1 spells))

@[simp] theorem ofToken?_literal (operator : Operator) :
    ofToken? operator.literal = some operator :=
  ofToken?_eq_some_iff.2 rfl

end Operator

/-- A command: the name of what is run, and its arguments. -/
@[ext] structure Command where
  binary : Text
  arguments : List Text
  binary_ne_nil : binary ≠ []
  deriving DecidableEq

namespace Command

/-- The command with a given name and arguments; a name cannot be empty. -/
def ofBinary (binary : Text) (arguments : List Text) : Except ShellError Command :=
  if isNil : binary = [] then
    .error .emptyBinary
  else
    .ok ⟨binary, arguments, isNil⟩

/-- The command whose name is the first of the given tokens. -/
def ofTokens : List Text → Except ShellError Command
  | [] => .error .noToken
  | binary :: arguments => ofBinary binary arguments

/-- The words of a command: its name and its arguments. -/
def words (command : Command) : List Text :=
  command.binary :: command.arguments

/-- A command as it is shown: its words on one line, quoted where they have to be. -/
def display (command : Command) : Text :=
  Text.quotedWords command.words

@[simp] theorem ofTokens_words (command : Command) : ofTokens command.words = .ok command := by
  simp [words, ofTokens, ofBinary, command.binary_ne_nil]

theorem words_eq_of_ofTokens {tokens : List Text} {command : Command}
    (built : ofTokens tokens = .ok command) : command.words = tokens := by
  cases tokens with
  | nil => simp [ofTokens] at built
  | cons binary arguments =>
      simp only [ofTokens, ofBinary] at built
      split at built
      · simp at built
      · cases built
        rfl

end Command

/-- An element of a line. -/
inductive Element where
  | operator (operator : Operator)
  | command (command : Command)
  deriving DecidableEq

namespace Element

/-- The tokens that an element is made of. -/
def tokens : Element → List Text
  | .operator sign => [sign.literal]
  | .command entry => entry.words

/-- An element that is a command. -/
def isCommand : Element → Bool
  | .operator _ => false
  | .command _ => true

/-- What a token contributes as a boundary between commands: an operator that it spells. -/
def boundary (token : Text) : Option (List (Except ShellError Element)) :=
  (Operator.ofToken? token).map fun operator => [.ok (.operator operator)]

/-- The element that a run of words without operator makes. -/
def ofWords (words : List Text) : Except ShellError Element :=
  (Command.ofTokens words).map .command

end Element

/-- Groups tokens into elements: an operator is an element, and the tokens between operators make a
command. -/
def elementsOfTokens (tokens : List Text) : Except ShellError (List Element) :=
  (splitRuns Element.boundary Element.ofWords tokens).mapM id

end CommandChain

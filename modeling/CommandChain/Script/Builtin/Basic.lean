import CommandChain.Script.Machine
import CommandChain.Text.Integral

/-!
# Builtin commands

The names of the commands that the interpreter runs itself, and what they have in common: how they
read options and numbers, and how they print. An error in a special one ends the script.
-/

namespace CommandChain

namespace Script

/-- A builtin command: a step, given arguments, with a status as its result. -/
abbrev Builtin : Type :=
  List Text → Run Nat

namespace Builtin

/-- The names of the special builtin commands. -/
def specialNames : List Text :=
  [".", ":", "break", "continue", "eval", "exec", "exit", "export", "local", "readonly", "return",
    "set", "shift", "times", "trap", "unset"].map Text.ofString

/-- The names of the other builtin commands. -/
def regularNames : List Text :=
  ["[", "alias", "bg", "cd", "chdir", "command", "echo", "false", "fg", "getopts", "hash", "jobs",
    "kill", "printf", "pwd", "read", "test", "true", "type", "ulimit", "umask", "unalias",
    "wait"].map Text.ofString

/-- The names of the builtin commands whose arguments may be assignments. -/
def assigningNames : List Text :=
  ["export", "local", "readonly"].map Text.ofString

/-- The command that ends with a status. -/
def ending (status : Nat) : Builtin := fun _ => return status

/-- Prints bytes as the output of the command. -/
def print (bytes : List UInt8) : Run Nat := do
  if ← Run.write 1 bytes then return 0
  else
    let command := (← Run.process).command.getD []
    Run.complain (command ++ Text.ofString ": I/O error")
    return 1

/-- Prints a line as the output of the command. -/
def printLine (line : Text) : Run Nat :=
  print (Text.bytes (line ++ [.char '\n']))

/-- Complains about an option. -/
def failOption {result : Type} (letter : Symbol) : Run result :=
  Run.fail (Text.ofString "Illegal option -" ++ [letter])

/-- Reads the letters of one argument that holds options. The value of an option is the rest of the
argument, or the next argument. -/
def takeLetters (permitted : List (Char × Bool)) (arguments : List Text) :
    Text → Run (List (Char × Text) × List Text)
  | [] => return ([], arguments)
  | letter :: rest => do
      match permitted.find? fun option => letter == .char option.1 with
      | none => failOption letter
      | some (name, false) =>
          let (options, left) ← takeLetters permitted arguments rest
          return ((name, []) :: options, left)
      | some (name, true) =>
          match rest, arguments with
          | [], value :: left => return ([(name, value)], left)
          | [], [] => Run.fail (Text.ofString "No arg for -" ++ [letter] ++ Text.ofString " option")
          | value, left => return ([(name, value)], left)

/-- Reads the options in front of operands. Each permitted one comes with whether it takes a
value. -/
def takeOptions (permitted : List (Char × Bool)) : Nat → List Text →
    Run (List (Char × Text) × List Text)
  | 0, arguments => return ([], arguments)
  | fuel + 1, arguments => do
      match arguments with
      | [.char '-', .char '-'] :: rest => return ([], rest)
      | (.char '-' :: letter :: letters) :: rest => do
          let (first, left) ← takeLetters permitted rest (letter :: letters)
          let (others, operands) ← takeOptions permitted fuel left
          return (first ++ others, operands)
      | operands => return ([], operands)

/-- Reads options with no value, given by their letters. -/
def options (letters : List Char) (arguments : List Text) :
    Run (List (Char × Text) × List Text) :=
  takeOptions (letters.map fun letter => (letter, false)) arguments.length arguments

/-- A text in quotes: single quotes stand between double quotes, and all else between single
quotes, even if it is nothing. -/
def quotedPieces : Nat → Text → Text
  | 0, _ => []
  | fuel + 1, text =>
      let (plain, rest) := text.span (· != .char '\'')
      let (quotes, later) := rest.span (· == .char '\'')
      .char '\'' :: plain ++ [.char '\''] ++
        (if quotes = [] then [] else .char '"' :: quotes ++ [.char '"']) ++
        (if later = [] then [] else quotedPieces fuel later)

/-- A text in quotes. -/
def singleQuoted (text : Text) : Text :=
  quotedPieces (text.length + 1) text

end Builtin

end Script

end CommandChain

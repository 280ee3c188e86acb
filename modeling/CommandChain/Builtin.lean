import CommandChain.Event
import CommandChain.Text.Numeral

/-!
# Builtins

Commands that the shell runs itself. A shell has a table of them; the standard table holds `exit`
alone. `exit` ends the shell, unless it is given more than one argument.
-/

namespace CommandChain

/-- A command run by the shell itself: its answer to arguments, which may also depend on the state
of the outside world and change it. -/
abbrev Builtin (state : Type) : Type :=
  List Text → state → BuiltinReply × state

/-- The builtins of a shell, by name. -/
abbrev BuiltinTable (state : Type) : Type :=
  Text → Option (Builtin state)

/-- The answer of `exit`: no argument ends the shell with code zero, one argument with the integer
that it writes, or with code two and a complaint if it writes none; more arguments are refused. -/
def exitReply : List Text → BuiltinReply
  | [] => { ending := .exited 0 }
  | [argument] =>
      match argument.toInteger? with
      | some code => { ending := .exited code }
      | none =>
          { diagnostics :=
              Text.ofString "exit: " ++ argument ++ Text.ofString ": numeric argument required" ++
                [Text.newline]
            ending := .exited 2 }
  | _ :: _ :: _ =>
      { diagnostics := Text.ofString "exit: too many arguments" ++ [Text.newline]
        ending := .returned 1 }

variable {state : Type}

namespace Builtin

/-- The builtin that ends the shell. -/
def exit : Builtin state := fun arguments world =>
  (exitReply arguments, world)

/-- A builtin that always gives the same answer. -/
def constant (reply : BuiltinReply) : Builtin state := fun _ world =>
  (reply, world)

end Builtin

/-- The name of the one standard builtin. -/
def exitName : Text :=
  [.char 'e', .char 'x', .char 'i', .char 't']

/-- The standard table: `exit` and nothing else. -/
def standardBuiltins : BuiltinTable state := fun name =>
  if name = exitName then some Builtin.exit else none

@[simp] theorem standardBuiltins_exitName :
    (standardBuiltins exitName : Option (Builtin state)) = some Builtin.exit := by
  simp [standardBuiltins]

theorem standardBuiltins_of_ne {name : Text} (different : name ≠ exitName) :
    (standardBuiltins name : Option (Builtin state)) = none := by
  simp [standardBuiltins, different]

end CommandChain

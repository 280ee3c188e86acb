import CommandChain.Program.Basic
import CommandChain.Program.Escape

/-!
# Echo

`echo` prints its arguments with single spaces between them. Leading options suppress the newline or
ask for escape sequences.
-/

namespace CommandChain

namespace Program

/-- The switches of `echo`. -/
structure EchoSwitches where
  endsLine : Bool := true
  unescapes : Bool := false

namespace EchoSwitches

/-- The switches after one more option letter; other letters are no option. -/
def withLetter? (switches : EchoSwitches) : Symbol → Option EchoSwitches
  | .char 'n' => some { switches with endsLine := false }
  | .char 'e' => some { switches with unescapes := true }
  | .char 'E' => some { switches with unescapes := false }
  | _ => none

/-- The switches after one more argument, if that is an option: a minus sign and at least one option
letter, and no other letter. -/
def withOption? (switches : EchoSwitches) : Text → Option EchoSwitches
  | .char '-' :: first :: rest => (first :: rest).foldlM withLetter? switches
  | _ => none

/-- Reads the options in front of the arguments that are printed. -/
def read : EchoSwitches → List Text → EchoSwitches × List Text
  | switches, [] => (switches, [])
  | switches, argument :: rest =>
      match switches.withOption? argument with
      | some more => more.read rest
      | none => (switches, argument :: rest)

end EchoSwitches

/-- What `echo` prints for its operands. -/
def echoed (switches : EchoSwitches) (operands : List Text) : List UInt8 :=
  let joined := Text.joinWith [.char ' '] operands
  let lineEnd := if switches.endsLine then [0x0A] else []
  if switches.unescapes then
    let unescaped := Text.unescape EscapeDialect.echo joined
    if unescaped.stops then unescaped.bytes else unescaped.bytes ++ lineEnd
  else
    joined.bytes ++ lineEnd

/-- Prints its arguments. -/
def echo : Program := fun start =>
  let (switches, operands) := EchoSwitches.read {} start.arguments
  finish start (echoed switches operands) 0

end Program

end CommandChain

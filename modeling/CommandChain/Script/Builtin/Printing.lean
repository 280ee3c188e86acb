import CommandChain.Program.Print.Format
import CommandChain.Script.Builtin.Basic

/-!
# Printing builtin commands

The interpreter's own `echo` always reads escape sequences and knows one option. Its `printf`
differs from the program of that name in the sequences it knows, in its complaints, and in the
precision of its floating-point numbers.
-/

namespace CommandChain

namespace Script

namespace Builtin

/-! ## Echo -/

/-- The bytes of arguments with blanks between them. A sequence that ends output leaves nothing after
it. -/
def echoFrom (lineEnd : List UInt8) : List Text → List UInt8
  | [] => lineEnd
  | argument :: rest =>
      let unescaped := Text.unescape EscapeDialect.interpreterOperand argument
      if unescaped.stops then unescaped.bytes
      else if rest = [] then unescaped.bytes ++ lineEnd
      else unescaped.bytes ++ 0x20 :: echoFrom lineEnd rest

/-- Prints its arguments. -/
def echo : Builtin := fun arguments =>
  match arguments with
  | [.char '-', .char 'n'] :: operands => print (echoFrom [] operands)
  | operands => print (echoFrom [0x0A] operands)

/-! ## Formats -/

/-- The conversions of a format. -/
def conversions : List Char :=
  ['a', 'A', 'b', 'c', 'd', 'e', 'E', 'f', 'F', 'g', 'G', 'i', 'o', 's', 'u', 'x', 'X']

/-- The conversion of a directive is known. -/
def acceptsDirective (specification : Specification) : Bool :=
  match specification.conversion with
  | some (.char letter) => conversions.contains letter
  | _ => false

/-- The complaint about a directive that is not known. -/
def unknownDirective (specification : Specification) : Text :=
  if specification.conversion.isNone then Text.ofString "missing format character"
  else specification.source ++ Text.ofString ": invalid directive"

/-- An operand that starts with a quote gives the code of the byte after it. -/
def byteOperand? (operand : Text) : Option (Int × List PrintComplaint) :=
  match operand with
  | .char quote :: rest =>
      if quote = '"' ∨ quote = '\'' then some ((Text.bytes rest).headD 0 |>.toNat, []) else none
  | _ => none

/-- The dialect of the interpreter's `printf`. -/
def printDialect : PrintDialect where
  escapes := EscapeDialect.interpreterFormat
  operandEscapes := EscapeDialect.interpreterOperand
  flags := ['#', '-', '+', ' ', '0']
  modifiers := []
  accepts := acceptsDirective
  unknownDirective := unknownDirective
  floating := FloatingFormat.double
  character? := byteOperand?
  notNumeric operand := operand ++ Text.ofString ": expected numeric value"
  notConverted operand := operand ++ Text.ofString ": not completely converted"
  outOfRange operand := operand ++ Text.ofString ": Numerical result out of range"
  rangeComesFirst := false
  asWord := id

/-- Prints a format with operands, after all complaints about them. -/
def printf : Builtin := fun arguments => do
  let (_, operands) ← options [] arguments
  match operands with
  | [] => Run.fail (Text.ofString "usage: printf format [arg ...]")
  | format :: rest =>
      let printing := printDialect.print format rest
      for complaint in printing.complaints do
        Run.complain complaint
      let printed ← print printing.output
      match printing.ending with
      | some .failed => do
          Run.setStatus Run.failureStatus
          throw .fails
      | _ => return if printing.hasFailed then 1 else printed

end Builtin

end Script

end CommandChain

import CommandChain.Program.Basic
import CommandChain.Program.Print.Format
import CommandChain.Text.Displayed

/-!
# Printf

`printf` prints a format with operands. It complains about malformed operands and goes on; a
malformed format ends it.
-/

namespace CommandChain

namespace Printf

/-- The conversions of integers, strings, characters and floating-point numbers. -/
def conversions : List Char :=
  ['a', 'A', 'c', 'd', 'e', 'E', 'f', 'F', 'g', 'G', 'i', 'o', 's', 'u', 'x', 'X']

/-- The conversions that may not go with a flag. -/
def refused : Char → List Char
  | '\'' => ['a', 'A', 'c', 'e', 'E', 'o', 's', 'x', 'X']
  | 'I' => ['a', 'A', 'c', 'e', 'E', 'o', 's', 'x', 'X']
  | '#' => ['c', 'd', 'i', 's', 'u']
  | '0' => ['c', 's']
  | _ => []

/-- A directive is known: its conversion goes with its flags and precision, or it is one of the two
that stand alone. -/
def accepts (specification : Specification) : Bool :=
  match specification.conversion with
  | some (.char letter) =>
      if letter = 'b' ∨ letter = 'q' then specification.source.length == 2
      else
        conversions.contains letter &&
          !(specification.flags.any fun flag => (refused flag).contains letter) &&
          !(specification.precision.isSome && letter == 'c')
  | _ => false

/-- An operand that starts with a quote and goes on gives the code of the character after it. What
stands behind that is ignored with a warning. -/
def character? (operand : Text) : Option (Int × List PrintComplaint) :=
  match operand.regrouped with
  | .char quote :: symbol :: rest =>
      if quote = '"' ∨ quote = '\'' then
        let code : Int :=
          match symbol with
          | .char character => character.toNat
          | .stray byte _ => byte.toNat
        some (code,
          if rest = [] then []
          else
            [⟨Text.ofString "warning: " ++ rest ++
              Text.ofString ": character(s) following character constant have been ignored",
              false⟩])
      else none
  | _ => none

/-- The dialect of `printf`. -/
def dialect : PrintDialect where
  escapes := EscapeDialect.format
  operandEscapes := EscapeDialect.operand
  flags := ['-', '+', ' ', '#', '0', '\'', 'I']
  modifiers := ['l', 'L', 'h', 'j', 't', 'z']
  accepts := accepts
  unknownDirective specification :=
    specification.source ++ Text.ofString ": invalid conversion specification"
  floating := FloatingFormat.extended
  character? := character?
  notNumeric operand := operand.displayed ++ Text.ofString ": expected a numeric value"
  notConverted operand := operand.displayed ++ Text.ofString ": value not completely converted"
  outOfRange operand := operand.displayed ++ Text.ofString ": Numerical result out of range"
  rangeComesFirst := true
  asWord := Text.displayedWord

/-- The arguments without a leading separator. -/
def withoutSeparator : List Text → List Text
  | [.char '-', .char '-'] :: rest => rest
  | arguments => arguments

/-- The complaint about operands that the format does not take. -/
def excess (printing : Printing) : List Text :=
  match printing.ending, printing.operands with
  | none, operand :: _ =>
      [Text.ofString "warning: ignoring excess arguments, starting with " ++ operand.displayed]
  | _, _ => []

/-- The status after printing: an escape sequence that ends the output ends it with success. -/
def status (printing : Printing) : Int :=
  match printing.ending with
  | some .stopped => 0
  | some .failed => 1
  | none => if printing.hasFailed then 1 else 0

end Printf

namespace Program

/-- Prints a format with operands. The output is written at the end, after all complaints. -/
def printf : Program := fun start =>
  match Printf.withoutSeparator start.arguments with
  | [] => refuse start (Text.ofString "missing operand")
  | format :: operands => do
      let printing := Printf.dialect.print format operands
      for complaint in printing.complaints ++ Printf.excess printing do
        complain start complaint
      finish start printing.output (Printf.status printing)

end Program

end CommandChain

import CommandChain.Program.Escape
import CommandChain.Program.Print.Directive

/-!
# Formats

A format is text with escape sequences and directives. The directives are replaced by the operands
in order, and the format is used again while operands remain. A `PrintDialect` says what a program
makes of escape sequences, directives and malformed operands.
-/

namespace CommandChain

/-- A complaint about an operand, and whether the run fails for it. -/
structure PrintComplaint where
  text : Text
  isFailure : Bool := true

/-- How a program reads formats and operands. -/
structure PrintDialect where
  /-- the escape sequences of the format -/
  escapes : EscapeDialect
  /-- the escape sequences of an operand -/
  operandEscapes : EscapeDialect
  flags : List Char
  modifiers : List Char
  /-- a directive is known -/
  accepts : Specification → Bool
  /-- the complaint about a directive that is not known -/
  unknownDirective : Specification → Text
  floating : FloatingFormat
  /-- the value of an operand that gives a character in place of a number -/
  character? : Text → Option (Int × List PrintComplaint)
  notNumeric : Text → Text
  notConverted : Text → Text
  outOfRange : Text → Text
  /-- an operand out of range is not looked at further -/
  rangeComesFirst : Bool
  /-- an operand written so that a command interpreter reads it back -/
  asWord : Text → Text

/-! ## Parts -/

/-- A part of a format. -/
inductive FormatPart where
  | bytes (bytes : List UInt8)
  | directive (specification : Specification)
  /-- an escape sequence that ends all output -/
  | ending (meaning : EscapeMeaning)

namespace FormatPart

/-- The parts of a format. -/
def ofFormat (dialect : PrintDialect) : Text → List FormatPart
  | [] => []
  | symbol :: rest =>
      if symbol = .char '\\' then
        let read := EscapeMeaning.ofText dialect.escapes rest
        match read.1 with
        | .bytes meant => .bytes meant :: ofFormat dialect read.2
        | .stops => [.ending .stops]
        | .fails complaint => [.ending (.fails complaint)]
      else if symbol = .char '%' then
        match rest with
        | .char '%' :: later => .bytes [0x25] :: ofFormat dialect later
        | other =>
            let taken := Specification.take dialect.flags dialect.modifiers other
            .directive taken.1 :: ofFormat dialect taken.2
      else .bytes symbol.bytes :: ofFormat dialect rest
termination_by text => text.length
decreasing_by
  · exact Nat.lt_succ_of_le (EscapeMeaning.length_ofText_le dialect.escapes rest)
  · simp only [List.length_cons]
    omega
  · exact Nat.lt_succ_of_le (Specification.length_take_le dialect.flags dialect.modifiers _)
  · simp

end FormatPart

/-! ## Printing -/

/-- How printing came to an end before the format did. -/
inductive PrintEnd where
  | stopped
  | failed
  deriving DecidableEq

/-- The state of printing: the operands left, what was printed, and the complaints. -/
structure Printing where
  operands : List Text
  output : List UInt8 := []
  complaints : List Text := []
  hasFailed : Bool := false
  ending : Option PrintEnd := none

namespace Printing

/-- Prints bytes. -/
def write (printing : Printing) (bytes : List UInt8) : Printing :=
  { printing with output := printing.output ++ bytes }

/-- Adds a complaint. -/
def complain (printing : Printing) (complaint : PrintComplaint) : Printing :=
  { printing with
    complaints := printing.complaints ++ [complaint.text]
    hasFailed := printing.hasFailed || complaint.isFailure }

/-- Complains and ends all output. -/
def fail (printing : Printing) (complaint : Text) : Printing :=
  { printing.complain ⟨complaint, true⟩ with ending := some .failed }

/-- Ends output in the way of an escape sequence. -/
def finish (printing : Printing) : EscapeMeaning → Printing
  | .fails complaint => printing.fail complaint
  | .stops => { printing with ending := some .stopped }
  | .bytes bytes => printing.write bytes

/-- The next operand, if there is one, and the state without it. -/
def next (printing : Printing) : Option Text × Printing :=
  (printing.operands.head?, { printing with operands := printing.operands.tail })

/-- The complaints about what stands after a number in its operand, and about its range. -/
def complaintsAbout (dialect : PrintDialect) (operand : Text) (isRead : Bool) (rest : Text)
    (isOutOfRange : Bool) : List PrintComplaint :=
  if isOutOfRange = true ∧ (dialect.rangeComesFirst = true ∨ rest = []) then
    [⟨dialect.outOfRange operand, true⟩]
  else if rest = [] then []
  else if isRead then [⟨dialect.notConverted operand, true⟩]
  else [⟨dialect.notNumeric operand, true⟩]

/-- The integer that an operand gives, brought into a range; one that is too large or too small is
replaced by the end of the range. -/
def readInteger (dialect : PrintDialect) (least greatest : Int) (operand : Text) :
    Int × List PrintComplaint :=
  match dialect.character? operand with
  | some given => given
  | none =>
      match operand.takeInteger? with
      | none => (0, complaintsAbout dialect operand false operand false)
      | some (value, rest) =>
          let isOutOfRange := decide (value < least) || decide (greatest < value)
          (max least (min value greatest), complaintsAbout dialect operand true rest isOutOfRange)

/-- The ends of the range of integers with sign. -/
def signedRange : Int × Int :=
  (-Int.pow 2 63, Int.pow 2 63 - 1)

/-- The largest integer without sign. -/
def unsignedLimit : Int :=
  Int.pow 2 64 - 1

/-- The integer without sign that an operand gives. A negative one counts back from the limit. -/
def readUnsigned (dialect : PrintDialect) (operand : Text) : Nat × List PrintComplaint :=
  let read := readInteger dialect (-unsignedLimit) unsignedLimit operand
  let isOutOfRange :=
    match dialect.character? operand, operand.takeInteger? with
    | none, some (value, _) => decide (value < -unsignedLimit)
    | _, _ => false
  (if isOutOfRange then unsignedLimit.toNat else (read.1 % (unsignedLimit + 1)).toNat, read.2)

/-- The floating-point number that an operand gives. -/
def readFloating (dialect : PrintDialect) (operand : Text) : Floating × List PrintComplaint :=
  match dialect.character? operand with
  | some (value, complaints) =>
      ((dialect.floating.round (decide (value < 0)) ⟨value.natAbs, 1⟩).number, complaints)
  | none =>
      match operand.takeFloating? dialect.floating with
      | none => (.finite false 0 0, complaintsAbout dialect operand false operand false)
      | some (read, rest) =>
          (read.number, complaintsAbout dialect operand true rest read.isOutOfRange)

/-- Adds complaints. -/
def complainAll (printing : Printing) (complaints : List PrintComplaint) : Printing :=
  complaints.foldl complain printing

/-- The number that a width or a precision stands for. -/
def measure (dialect : PrintDialect) (printing : Printing) : Measure → Int × Printing
  | .fixed number => (Int.ofNat number, printing)
  | .operand =>
      match printing.next with
      | (none, after) => (0, after)
      | (some operand, after) =>
          let read := readInteger dialect signedRange.1 signedRange.2 operand
          (read.1, after.complainAll read.2)

/-- Prints the text of an operand in which escape sequences are read. -/
def unescapedOperand (dialect : PrintDialect) (directive : Directive) (printing : Printing)
    (operand : Text) : Printing :=
  let unescaped := Text.unescape dialect.operandEscapes operand
  let written := printing.write (directive.string unescaped.bytes)
  match unescaped.ending with
  | none => written
  | some meaning => written.finish meaning

/-- Prints an operand with a conversion. A missing operand counts as an empty one. -/
def convert (dialect : PrintDialect) (directive : Directive) (letter : Char)
    (printing : Printing) : Printing :=
  let (given, after) := printing.next
  let operand := given.getD []
  match letter with
  | 's' => after.write (directive.string operand.bytes)
  | 'b' => unescapedOperand dialect directive after operand
  | 'q' => after.write ((given.map fun word => (dialect.asWord word).bytes).getD [])
  | 'c' => after.write (directive.filled [operand.bytes.headD 0])
  | 'd' | 'i' =>
      let read := readInteger dialect signedRange.1 signedRange.2 operand
      (after.complainAll read.2).write (directive.signedInteger read.1)
  | 'u' =>
      let read := readUnsigned dialect operand
      (after.complainAll read.2).write (directive.unsignedInteger 10 false read.1)
  | 'o' =>
      let read := readUnsigned dialect operand
      (after.complainAll read.2).write (directive.unsignedInteger 8 false read.1)
  | 'x' | 'X' =>
      let read := readUnsigned dialect operand
      (after.complainAll read.2).write (directive.unsignedInteger 16 letter.isUpper read.1)
  | _ =>
      let read := readFloating dialect operand
      (after.complainAll read.2).write (directive.floating dialect.floating letter read.1)

/-- Prints what a directive asks for. -/
def direct (dialect : PrintDialect) (printing : Printing) (specification : Specification) :
    Printing :=
  match specification.conversion, dialect.accepts specification with
  | some (.char letter), true =>
      let plain := Directive.ofFlags specification.flags
      let (width, widened) :=
        match specification.width with
        | none => (0, printing)
        | some written => printing.measure dialect written
      let (precision, ready) :=
        match specification.precision with
        | none => (-1, widened)
        | some written => widened.measure dialect written
      convert dialect ((plain.withWidth width).withPrecision precision) letter ready
  | _, _ => printing.fail (dialect.unknownDirective specification)

/-- Prints one part of a format. -/
def part (dialect : PrintDialect) (printing : Printing) (next : FormatPart) : Printing :=
  if printing.ending.isSome then printing
  else
    match next with
    | .bytes bytes => printing.write bytes
    | .directive specification => direct dialect printing specification
    | .ending meaning => printing.finish meaning

/-- Prints the whole format once. -/
def once (dialect : PrintDialect) (parts : List FormatPart) (printing : Printing) : Printing :=
  parts.foldl (part dialect) printing

/-- Prints the format, and again while each time takes operands and some remain. -/
def all (dialect : PrintDialect) (parts : List FormatPart) (printing : Printing) : Printing :=
  let printed := printing.once dialect parts
  if printed.ending.isSome = true ∨ printed.operands = [] then printed
  else if _fewer : printed.operands.length < printing.operands.length then
    all dialect parts printed
  else printed
termination_by printing.operands.length

end Printing

/-- Prints a format with operands. -/
def PrintDialect.print (dialect : PrintDialect) (format : Text) (operands : List Text) :
    Printing :=
  Printing.all dialect (FormatPart.ofFormat dialect format) { operands := operands }

end CommandChain

import CommandChain.Program.Print.Floating
import CommandChain.Text.Utf8

/-!
# Directives

A directive of a format tells how an operand is printed: its conversion, the field that it fills,
and its precision. `Specification` is a directive as it is written, in which an operand may stand
for a width or a precision; `Directive` is one with these known.
-/

namespace CommandChain

/-! ## As written -/

/-- A width or a precision as it is written. -/
inductive Measure where
  | fixed (number : Nat)
  | operand
  deriving DecidableEq

/-- A directive as it is written, after its percent sign. -/
structure Specification where
  flags : List Char
  width : Option Measure
  precision : Option Measure
  modifiers : List Char
  /-- the character that names the conversion, unless the format ends before it -/
  conversion : Option Symbol
  /-- the whole directive, with the percent sign -/
  source : Text
  deriving DecidableEq

namespace Specification

/-- Reads characters as long as they are among the given ones. -/
def takeAmong (permitted : List Char) : Text → List Char × Text
  | [] => ([], [])
  | .char character :: rest =>
      if permitted.contains character then
        let taken := takeAmong permitted rest
        (character :: taken.1, taken.2)
      else ([], .char character :: rest)
  | symbol :: rest => ([], symbol :: rest)

/-- Reads a width, if there is one. -/
def takeMeasure : Text → Option Measure × Text
  | .char '*' :: rest => (some .operand, rest)
  | text =>
      let number := Text.takeDigits 10 text.length 0 text
      (if number.2.length = text.length then none else some (.fixed number.1), number.2)

/-- Reads a point and the precision after it, which is zero if it is left out. -/
def takePrecision : Text → Option Measure × Text
  | .char '.' :: rest =>
      let measure := takeMeasure rest
      (some (measure.1.getD (.fixed 0)), measure.2)
  | text => (none, text)

/-- Reads a directive after its percent sign. -/
def take (flags modifiers : List Char) (text : Text) : Specification × Text :=
  let flagged := takeAmong flags text
  let measured := takeMeasure flagged.2
  let precise := takePrecision measured.2
  let modified := takeAmong modifiers precise.2
  let rest := modified.2.tail
  ({ flags := flagged.1
     width := measured.1
     precision := precise.1
     modifiers := modified.1
     conversion := modified.2.head?
     source := .char '%' :: text.take (text.length - rest.length) }, rest)

theorem length_takeAmong_le (permitted : List Char) (text : Text) :
    (takeAmong permitted text).2.length ≤ text.length := by
  induction text with
  | nil => simp [takeAmong]
  | cons symbol rest inductionHypothesis =>
      cases symbol with
      | char character =>
          simp only [takeAmong]
          split
          · exact Nat.le_succ_of_le inductionHypothesis
          · exact Nat.le_refl _
      | stray byte isHigh => exact Nat.le_refl _

theorem length_takeMeasure_le (text : Text) : (takeMeasure text).2.length ≤ text.length := by
  unfold takeMeasure
  split
  · simp
  · exact Text.length_takeDigits_le 10 _ 0 text

theorem length_takePrecision_le (text : Text) : (takePrecision text).2.length ≤ text.length := by
  unfold takePrecision
  split
  · exact Nat.le_succ_of_le (length_takeMeasure_le _)
  · exact Nat.le_refl _

/-- The text after a directive is no longer than the text after its percent sign. -/
theorem length_take_le (flags modifiers : List Char) (text : Text) :
    (take flags modifiers text).2.length ≤ text.length := by
  have flagged := length_takeAmong_le flags text
  have measured := length_takeMeasure_le (takeAmong flags text).2
  have precise := length_takePrecision_le (takeMeasure (takeAmong flags text).2).2
  have modified :=
    length_takeAmong_le modifiers (takePrecision (takeMeasure (takeAmong flags text).2).2).2
  simp only [take, List.length_tail]
  omega

end Specification

/-! ## Printing -/

/-- The field that a value is printed in. -/
structure Directive where
  isLeftAligned : Bool := false
  showsPlus : Bool := false
  showsSpace : Bool := false
  isAlternate : Bool := false
  isZeroPadded : Bool := false
  width : Nat := 0
  precision : Option Nat := none
  deriving DecidableEq

namespace Directive

/-- The directive with the flags that are written. -/
def ofFlags (flags : List Char) : Directive :=
  { isLeftAligned := flags.contains '-'
    showsPlus := flags.contains '+'
    showsSpace := flags.contains ' '
    isAlternate := flags.contains '#'
    isZeroPadded := flags.contains '0' }

/-- Sets the width; a negative one aligns to the left. -/
def withWidth (directive : Directive) (width : Int) : Directive :=
  { directive with
    isLeftAligned := directive.isLeftAligned || decide (width < 0)
    width := width.natAbs }

/-- Sets the precision; a negative one counts as none. -/
def withPrecision (directive : Directive) (precision : Int) : Directive :=
  { directive with precision := if precision < 0 then none else some precision.toNat }

/-- Fills the field of some bytes with spaces. -/
def filled (directive : Directive) (bytes : List UInt8) : List UInt8 :=
  let padding := List.replicate (directive.width - bytes.length) 0x20
  if directive.isLeftAligned then bytes ++ padding else padding ++ bytes

/-- Fills the field of a number, given what stands in front of its digits. Zeros go between the two,
spaces outside. -/
def filledNumber (directive : Directive) (permitsZeros : Bool) (front digits : Text) :
    List UInt8 :=
  if directive.isZeroPadded && permitsZeros && !directive.isLeftAligned then
    let zeros := List.replicate (directive.width - front.length - digits.length) (.char '0')
    Text.bytes (front ++ zeros ++ digits)
  else directive.filled (Text.bytes (front ++ digits))

/-- What stands in front of a number for its sign. -/
def sign (directive : Directive) (isNegative : Bool) : Text :=
  if isNegative then [.char '-']
  else if directive.showsPlus then [.char '+']
  else if directive.showsSpace then [.char ' ']
  else []

/-- Digits in a base, as many as the precision asks for; a precision of zero leaves nothing of the
number zero. -/
def digits (directive : Directive) (base number : Nat) : Text :=
  let written := if number = 0 ∧ directive.precision = some 0 then [] else Nat.toDigits base number
  (List.replicate (directive.precision.getD 1 - written.length) '0' ++ written).map Symbol.char

/-- Prints an integer. -/
def signedInteger (directive : Directive) (number : Int) : List UInt8 :=
  directive.filledNumber directive.precision.isNone (directive.sign (decide (number < 0)))
    (directive.digits 10 number.natAbs)

/-- Makes letters upper case. -/
def upperCase (text : Text) : Text :=
  text.map fun
    | .char character => .char character.toUpper
    | symbol => symbol

/-- Prints a number without sign in a base. The alternate form of a hexadecimal number that is not
zero has its mark in front, that of an octal number at least one zero. -/
def unsignedInteger (directive : Directive) (base : Nat) (isUpper : Bool) (number : Nat) :
    List UInt8 :=
  let plain := directive.digits base number
  let written :=
    if directive.isAlternate = true ∧ base = 8 ∧ plain.head? ≠ some (.char '0') then
      .char '0' :: plain
    else plain
  let front :=
    if directive.isAlternate = true ∧ base = 16 ∧ number ≠ 0 then Text.ofString "0x" else []
  let cased := if isUpper then upperCase else id
  directive.filledNumber directive.precision.isNone (cased front) (cased written)

/-- Prints bytes, no more than the precision. -/
def string (directive : Directive) (bytes : List UInt8) : List UInt8 :=
  directive.filled
    (match directive.precision with
      | some most => bytes.take most
      | none => bytes)

/-- Prints a floating-point number in the way that a letter names. -/
def floating (directive : Directive) (format : FloatingFormat) (letter : Char)
    (number : Floating) : List UInt8 :=
  let cased := if letter.isUpper then upperCase else id
  let front := directive.sign number.isNegative
  match number with
  | .infinite _ => directive.filled (Text.bytes (cased (front ++ Text.ofString "inf")))
  | .undefined _ => directive.filled (Text.bytes (cased (front ++ Text.ofString "nan")))
  | .finite _ significand exponent =>
      let fraction := Floating.magnitude significand exponent
      let places := directive.precision.getD 6
      match letter.toLower with
      | 'f' =>
          directive.filledNumber true front
            (cased (Floating.fixedText directive.isAlternate places fraction))
      | 'e' =>
          directive.filledNumber true front
            (cased (Floating.scientificText directive.isAlternate places fraction))
      | 'g' =>
          directive.filledNumber true front
            (cased (Floating.generalText directive.isAlternate places fraction))
      | _ =>
          directive.filledNumber true (cased (front ++ Text.ofString "0x"))
            (cased (Floating.hexadecimalText format directive.isAlternate directive.precision
              significand exponent))

end Directive

end CommandChain

import CommandChain.Text.Integral

/-!
# Floating-point operands

A real operand is read exactly and then rounded once, to the nearest number of a binary format. The
rounded number is printed exactly as well: rounding to decimal places, to significant places and to
hexadecimal places all go through `divideRounding`, which sends ties to the even neighbour.
-/

namespace CommandChain

/-! ## Rounding -/

/-- A binary format: how many bits a significand has, and the bounds of the exponents. -/
structure FloatingFormat where
  /-- the number of bits of a significand -/
  bits : Nat
  /-- the least exponent of the last bit -/
  leastExponent : Int
  /-- every number is less than two to this exponent -/
  bound : Int
  /-- the first hexadecimal digit that is printed holds this many bits -/
  leadingBits : Nat

namespace FloatingFormat

/-- The format with 53 bits. -/
def double : FloatingFormat :=
  ⟨53, -1074, 1024, 1⟩

/-- The format with 64 bits. -/
def extended : FloatingFormat :=
  ⟨64, -16445, 16384, 4⟩

end FloatingFormat

/-- The integer nearest to a quotient; of two nearest ones, the even one. -/
def divideRounding (numerator denominator : Nat) : Nat :=
  let quotient := numerator / denominator
  let twice := 2 * (numerator % denominator)
  if denominator < twice ∨ (twice = denominator ∧ quotient % 2 = 1) then quotient + 1
  else quotient

/-- The rounded quotient is at most half a unit away. -/
theorem divideRounding_near (numerator : Nat) {denominator : Nat} (positive : 0 < denominator) :
    2 * numerator ≤ denominator * (2 * divideRounding numerator denominator + 1) ∧
      denominator * (2 * divideRounding numerator denominator) ≤ 2 * numerator + denominator := by
  have split := Nat.div_add_mod numerator denominator
  have small := Nat.mod_lt numerator positive
  unfold divideRounding
  dsimp only
  generalize numerator / denominator = quotient at *
  generalize numerator % denominator = rest at *
  subst split
  split <;> constructor <;> simp only [Nat.mul_add, Nat.mul_one, Nat.mul_left_comm] <;> grind

/-- A number that is not negative, as a fraction. -/
structure Fraction where
  numerator : Nat
  denominator : Nat

namespace Fraction

/-- A fraction times a power of a base. -/
def scale (fraction : Fraction) (base : Nat) (exponent : Int) : Fraction :=
  if 0 ≤ exponent then
    { fraction with numerator := fraction.numerator * Nat.pow base exponent.toNat }
  else { fraction with denominator := fraction.denominator * Nat.pow base (-exponent).toNat }

/-- The nearest integer. -/
def rounded (fraction : Fraction) : Nat :=
  divideRounding fraction.numerator fraction.denominator

/-- The fraction is at least a power of a base. -/
def reaches (fraction : Fraction) (base : Nat) (exponent : Int) : Bool :=
  let scaled := fraction.scale base (-exponent)
  decide (scaled.denominator ≤ scaled.numerator)

/-- The exponent of the greatest power of two that is not greater than the fraction. -/
def binaryExponent (fraction : Fraction) : Int :=
  let estimate := Int.ofNat fraction.numerator.log2 - Int.ofNat fraction.denominator.log2
  if fraction.reaches 2 estimate then estimate else estimate - 1

end Fraction

/-- A floating-point number: a sign, and a significand times a power of two. -/
inductive Floating where
  | finite (isNegative : Bool) (significand : Nat) (exponent : Int)
  | infinite (isNegative : Bool)
  | undefined (isNegative : Bool)
  deriving DecidableEq

/-- A number of a format, and whether the exact value was out of its range. -/
structure RoundedFloating where
  number : Floating
  isOutOfRange : Bool := false
  deriving DecidableEq

namespace FloatingFormat

/-- The number of a format that is nearest to a fraction. -/
def round (format : FloatingFormat) (isNegative : Bool) (fraction : Fraction) : RoundedFloating :=
  if fraction.numerator = 0 then ⟨.finite isNegative 0 0, false⟩
  else
    let exponent := max (fraction.binaryExponent - (Int.ofNat format.bits - 1)) format.leastExponent
    let scaled := fraction.scale 2 (-exponent)
    let significand := scaled.rounded
    let isTiny :=
      decide (significand < Nat.pow 2 (format.bits - 1)) &&
        decide (significand * scaled.denominator ≠ scaled.numerator)
    if Fraction.reaches ⟨significand, 1⟩ 2 (format.bound - exponent) then
      ⟨.infinite isNegative, true⟩
    else ⟨.finite isNegative significand exponent, isTiny⟩

end FloatingFormat

/-! ## Reading -/

namespace Text

/-- Drops a word in letters of any case, if the text starts with it. -/
def dropWord? : List Char → Text → Option Text
  | [], text => some text
  | letter :: letters, .char character :: rest =>
      if character.toLower = letter then dropWord? letters rest else none
  | _, _ => none

/-- Reads the digits of a number with a point: all digits together as one number, how many of them
stand after the point, and the text after them. There has to be a digit. -/
def takePointed? (base : Nat) (text : Text) : Option (Nat × Nat × Text) :=
  let whole := takeDigits base text.length 0 text
  match whole.2 with
  | .char '.' :: rest =>
      let part := takeDigits base rest.length whole.1 rest
      let places := rest.length - part.2.length
      if places = 0 ∧ whole.2.length = text.length then none else some (part.1, places, part.2)
  | rest => if rest.length = text.length then none else some (whole.1, 0, rest)

/-- The largest exponent that is told apart from larger ones. -/
def exponentLimit : Nat :=
  30000

/-- Reads an exponent after one of two letters, if digits follow. -/
def takeExponent (letters : List Char) (text : Text) : Int × Text :=
  match text with
  | .char letter :: rest =>
      if letters.contains letter then
        let signed := takeSign rest
        match takeNumber? 10 signed.2 with
        | some (value, later) =>
            let bounded := Int.ofNat (min value exponentLimit)
            (if signed.1 then -bounded else bounded, later)
        | none => (0, text)
      else (0, text)
  | _ => (0, text)

/-- Reads what may follow the word for an undefined number: letters and digits in parentheses. -/
def dropPayload (text : Text) : Text :=
  match text with
  | .char '(' :: rest =>
      let isPart : Symbol → Bool
        | .char character => character.isAlphanum || character == '_'
        | .stray _ _ => false
      match rest.dropWhile isPart with
      | .char ')' :: later => later
      | _ => text
  | _ => text

/-- Reads a hexadecimal fraction after its two leading characters. -/
def takeHexadecimal? (text : Text) : Option (Fraction × Text) := do
  let (digits, places, rest) ← takePointed? 16 text
  let (exponent, later) := takeExponent ['p', 'P'] rest
  some (Fraction.scale ⟨digits, 1⟩ 2 (exponent - 4 * Int.ofNat places), later)

/-- Reads a decimal fraction. -/
def takeDecimal? (text : Text) : Option (Fraction × Text) := do
  let (digits, places, rest) ← takePointed? 10 text
  let (exponent, later) := takeExponent ['e', 'E'] rest
  some (Fraction.scale ⟨digits, 1⟩ 10 (exponent - Int.ofNat places), later)

/-- Reads a fraction without sign. -/
def takeFraction? (text : Text) : Option (Fraction × Text) :=
  match text with
  | .char '0' :: .char letter :: rest =>
      if letter.toLower = 'x' then (takeHexadecimal? rest).or (takeDecimal? text)
      else takeDecimal? text
  | _ => takeDecimal? text

/-- Reads a number and rounds it to a format. -/
def takeFloating? (format : FloatingFormat) (text : Text) : Option (RoundedFloating × Text) :=
  let (isNegative, magnitude) := takeSign (text.dropWhile Symbol.isAsciiBlank)
  match dropWord? "infinity".toList magnitude, dropWord? "inf".toList magnitude,
      dropWord? "nan".toList magnitude with
  | some rest, _, _ => some (⟨.infinite isNegative, false⟩, rest)
  | none, some rest, _ => some (⟨.infinite isNegative, false⟩, rest)
  | none, none, some rest => some (⟨.undefined isNegative, false⟩, dropPayload rest)
  | none, none, none =>
      (takeFraction? magnitude).map fun (fraction, rest) =>
        (format.round isNegative fraction, rest)

end Text

/-! ## Printing -/

namespace Floating

/-- The number is negative. -/
def isNegative : Floating → Bool
  | .finite isNegative _ _ => isNegative
  | .infinite isNegative => isNegative
  | .undefined isNegative => isNegative

/-- The absolute value of a finite number. -/
def magnitude (significand : Nat) (exponent : Int) : Fraction :=
  Fraction.scale ⟨significand, 1⟩ 2 exponent

/-- Decimal digits, with zeros in front up to a width. -/
def paddedDigits (width number : Nat) : Text :=
  let digits := Nat.toDigits 10 number
  (List.replicate (width - digits.length) '0' ++ digits).map Symbol.char

/-- Digits with a point in front of the last ones. The point is there if digits follow it or if it
is asked for. -/
def pointed (keepsPoint : Bool) (places : Nat) (digits : Text) : Text :=
  let whole := digits.take (digits.length - places)
  let part := digits.drop (digits.length - places)
  if part = [] then (if keepsPoint then whole ++ [.char '.'] else whole)
  else whole ++ .char '.' :: part

/-- A fraction with a number of decimal places. -/
def fixedText (keepsPoint : Bool) (places : Nat) (fraction : Fraction) : Text :=
  pointed keepsPoint places (paddedDigits (places + 1) (fraction.scale 10 places).rounded)

/-- The exponent of the greatest power of ten that is not greater than a fraction. -/
def decimalExponent (fraction : Fraction) : Int :=
  if fraction.numerator = 0 then 0
  else
    let binary := fraction.binaryExponent
    let estimate := (binary * 30103).fdiv 100000
    if fraction.reaches 10 (estimate + 1) then estimate + 1
    else if fraction.reaches 10 estimate then estimate
    else estimate - 1

/-- A fraction as digits, one more than the given places, with the exponent of the first one. -/
def significantDigits (places : Nat) (fraction : Fraction) : Nat × Int :=
  let exponent := decimalExponent fraction
  let digits := (fraction.scale 10 (Int.ofNat places - exponent)).rounded
  if Nat.pow 10 (places + 1) ≤ digits then (digits / 10, exponent + 1) else (digits, exponent)

/-- An exponent with its sign and at least the given number of digits. -/
def exponentText (letter : Char) (width : Nat) (exponent : Int) : Text :=
  [.char letter, .char (if exponent < 0 then '-' else '+')] ++ paddedDigits width exponent.natAbs

/-- A fraction with one digit in front of the point and an exponent. -/
def scientificText (keepsPoint : Bool) (places : Nat) (fraction : Fraction) : Text :=
  let (digits, exponent) := significantDigits places fraction
  pointed keepsPoint places (paddedDigits (places + 1) digits) ++ exponentText 'e' 2 exponent

/-- Drops zeros after the point, and the point after which nothing is left. -/
def dropTrailingZeros (text : Text) : Text :=
  if text.contains (.char '.') then
    let stripped := (text.reverse.dropWhile (· == .char '0'))
    (match stripped with
      | .char '.' :: whole => whole
      | other => other).reverse
  else text

/-- A fraction with a number of significant digits, in the shorter of the two ways. -/
def generalText (keepsZeros : Bool) (significant : Nat) (fraction : Fraction) : Text :=
  let count := max significant 1
  let (digits, exponent) := significantDigits (count - 1) fraction
  let strip := if keepsZeros then id else dropTrailingZeros
  if exponent < -4 ∨ Int.ofNat count ≤ exponent then
    strip (pointed keepsZeros (count - 1) (paddedDigits count digits)) ++ exponentText 'e' 2 exponent
  else strip (fixedText keepsZeros (Int.ofNat count - 1 - exponent).toNat fraction)

/-- A finite number in hexadecimal digits with a binary exponent. Without a number of places, there
are as many as the number needs. -/
def hexadecimalText (format : FloatingFormat) (keepsPoint : Bool) (places : Option Nat)
    (significand : Nat) (exponent : Int) : Text :=
  let fullPlaces := (format.bits - format.leadingBits) / 4
  let shift := format.bits - (significand.log2 + 1)
  let full := if significand = 0 then 0 else significand * Nat.pow 2 shift
  let power := if significand = 0 then 0 else exponent - shift + 4 * Int.ofNat fullPlaces
  let shown :=
    match places with
    | none => (full, fullPlaces)
    | some count =>
        if count < fullPlaces then (divideRounding full (Nat.pow 16 (fullPlaces - count)), count)
        else (full * Nat.pow 16 (count - fullPlaces), count)
  let digits := Symbol.hexadecimal (shown.2 + 1) shown.1
  let text := pointed keepsPoint shown.2 digits
  let stripped := if places = none ∧ keepsPoint = false then dropTrailingZeros text else text
  stripped ++ exponentText 'p' 1 power

end Floating

end CommandChain

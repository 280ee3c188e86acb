import CommandChain.Text.Blank
import CommandChain.Text.DecimalDigit

/-!
# Numerals

An integer is written with an optional sign and decimal digits of any scripts. Single underscores
may stand between two digits, white space may stand around the whole, and at most 4300 digits are
accepted. `Text.toInteger?` reads such a numeral.
-/

namespace CommandChain

namespace Text

/-- The most digits that a numeral may have, leading zeros included. -/
def maximalDigitCount : Nat :=
  4300

/-- Drops white space from both ends. -/
def trim (text : Text) : Text :=
  ((text.dropWhile Symbol.isWhiteSpace).reverse.dropWhile Symbol.isWhiteSpace).reverse

/-- The digits of a text in which a single underscore may stand between two digits. The flag says
whether a digit stands directly before, so that the text may end or go on with an underscore. -/
def digitsOf? : (afterDigit : Bool) → Text → Option (List Nat)
  | afterDigit, [] => if afterDigit then some [] else none
  | afterDigit, symbol :: rest =>
      match symbol.digit? with
      | some value => (digitsOf? true rest).map (value :: ·)
      | none =>
          if afterDigit = true ∧ symbol = .char '_' then digitsOf? false rest else none

/-- The number that digits write, the most significant first. -/
def valueOfDigits (digits : List Nat) : Nat :=
  digits.foldl (fun value digit => 10 * value + digit) 0

/-- The natural number that a text without sign writes. -/
def toNatural? (text : Text) : Option Nat :=
  match digitsOf? false text with
  | none => none
  | some digits => if digits.length ≤ maximalDigitCount then some (valueOfDigits digits) else none

/-- The integer that a trimmed text writes. -/
def toSigned? : Text → Option Int
  | [] => none
  | first :: rest =>
      if first = .char '+' then (toNatural? rest).map Int.ofNat
      else if first = .char '-' then (toNatural? rest).map fun value => -Int.ofNat value
      else (toNatural? (first :: rest)).map Int.ofNat

/-- The integer that a text writes, if it is a numeral. -/
def toInteger? (text : Text) : Option Int :=
  toSigned? (trim text)

@[simp] theorem digitsOf?_nil (afterDigit : Bool) :
    digitsOf? afterDigit [] = if afterDigit then some [] else none := by
  cases afterDigit <;> rfl

theorem digitsOf?_digit_cons (afterDigit : Bool) {symbol : Symbol} {value : Nat}
    (isDigit : symbol.digit? = some value) (rest : Text) :
    digitsOf? afterDigit (symbol :: rest) = (digitsOf? true rest).map (value :: ·) := by
  simp [digitsOf?, isDigit]

end Text

end CommandChain

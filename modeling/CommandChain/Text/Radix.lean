import CommandChain.Text.Symbol

/-!
# Digits in a base

ASCII digits in a base up to sixteen, and the numbers that they write.
-/

namespace CommandChain

namespace Symbol

/-- The value of an ASCII digit or letter as a digit. -/
def hexadecimalValue? (character : Char) : Option Nat :=
  if character.isDigit then some (character.toNat - '0'.toNat)
  else if 'a' ≤ character ∧ character ≤ 'f' then some (character.toNat - 'a'.toNat + 10)
  else if 'A' ≤ character ∧ character ≤ 'F' then some (character.toNat - 'A'.toNat + 10)
  else none

/-- The value of a digit in a base up to sixteen. -/
def digitInBase? (base : Nat) : Symbol → Option Nat
  | .stray _ _ => none
  | .char character => (hexadecimalValue? character).filter (· < base)

/-- A number in hexadecimal digits, with zeros in front up to the given width. -/
def hexadecimal (width number : Nat) : List Symbol :=
  let digits := Nat.toDigits 16 number
  (List.replicate (width - digits.length) '0' ++ digits).map Symbol.char

end Symbol

namespace Text

/-- Reads at most `most` digits in a base. It returns their value together with the given one, and
the text after them. -/
def takeDigits (base : Nat) : (most value : Nat) → Text → Nat × Text
  | 0, value, rest => (value, rest)
  | _ + 1, value, [] => (value, [])
  | most + 1, value, symbol :: rest =>
      match symbol.digitInBase? base with
      | some digit => takeDigits base most (value * base + digit) rest
      | none => (value, symbol :: rest)

theorem length_takeDigits_le (base most value : Nat) (text : Text) :
    (takeDigits base most value text).2.length ≤ text.length := by
  induction most generalizing value text with
  | zero => exact Nat.le_refl _
  | succ most inductionHypothesis =>
      cases text with
      | nil => exact Nat.le_refl _
      | cons symbol rest =>
          unfold takeDigits
          split
          · exact Nat.le_succ_of_le (inductionHypothesis _ rest)
          · exact Nat.le_refl _

/-- The number that a text of decimal digits writes. -/
def toDecimal? (text : Text) : Option Nat :=
  match text, takeDigits 10 text.length 0 text with
  | _ :: _, (value, []) => some value
  | _, _ => none

end Text

end CommandChain

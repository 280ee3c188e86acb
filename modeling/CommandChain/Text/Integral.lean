import CommandChain.Text.Radix

/-!
# Integers with a base of their own

An integer operand may start with blanks and a sign; its first digits tell its base, as in programs:
`0x` starts a hexadecimal and `0` an octal number. What follows the digits is left over.
-/

namespace CommandChain

namespace Symbol

/-- An ASCII blank. -/
def isAsciiBlank : Symbol → Bool
  | .char character => [' ', '\t', '\n', '\x0b', '\x0c', '\r'].contains character
  | .stray _ _ => false

end Symbol

namespace Text

/-- The sign in front of a text, and the text after it. -/
def takeSign : Text → Bool × Text
  | .char '-' :: rest => (true, rest)
  | .char '+' :: rest => (false, rest)
  | text => (false, text)

/-- Reads all digits of a base, of which there has to be one. -/
def takeNumber? (base : Nat) (text : Text) : Option (Nat × Text) :=
  let number := takeDigits base text.length 0 text
  if number.2.length = text.length then none else some number

/-- Reads a number without sign in the base that it tells. -/
def takeMagnitude? (text : Text) : Option (Nat × Text) :=
  match text with
  | .char '0' :: .char 'x' :: rest =>
      (takeNumber? 16 rest).or (some (0, .char 'x' :: rest))
  | .char '0' :: .char 'X' :: rest =>
      (takeNumber? 16 rest).or (some (0, .char 'X' :: rest))
  | .char '0' :: _ => takeNumber? 8 text
  | _ => takeNumber? 10 text

/-- Reads an integer in the base that it tells. -/
def takeInteger? (text : Text) : Option (Int × Text) :=
  let signed := takeSign (text.dropWhile Symbol.isAsciiBlank)
  (takeMagnitude? signed.2).map fun number =>
    (if signed.1 then -Int.ofNat number.1 else Int.ofNat number.1, number.2)

example : takeInteger? (ofString " -0x1Fg") = some (-31, ofString "g") := by decide

example : takeInteger? (ofString "0xg") = some (0, ofString "xg") := by decide

example : takeInteger? (ofString "089") = some (0, ofString "89") := by decide

end Text

end CommandChain

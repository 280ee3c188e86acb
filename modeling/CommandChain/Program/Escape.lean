import CommandChain.Text.Radix
import CommandChain.Text.Utf8

/-!
# Escape sequences

A backslash in the operand of a printing program starts an escape sequence. Programs differ in which
sequences they know; an `EscapeDialect` says which. A sequence stands for bytes, or ends all output,
or is an error.
-/

namespace CommandChain

/-- What becomes of `x` and hexadecimal digits after a backslash. -/
inductive HexadecimalRule where
  /-- the sequence is not known -/
  | unknown
  /-- without a digit the sequence is not known -/
  | optional
  /-- without a digit the sequence is an error -/
  | required
  deriving DecidableEq

/-- Which escape sequences are known. -/
structure EscapeDialect where
  /-- the single characters after a backslash, and the bytes that they stand for -/
  simple : List (Char × UInt8)
  /-- octal digits are counted after a leading zero, so that four digits may follow -/
  leadingZero : Bool
  /-- `x` and up to two hexadecimal digits stand for a byte -/
  hexadecimal : HexadecimalRule
  /-- `u` or `U` and four or eight hexadecimal digits stand for a character -/
  universal : Bool
  /-- `c` ends all output -/
  stopping : Bool
  /-- an unknown sequence takes the symbol after the backslash with it -/
  takesUnknown : Bool

namespace EscapeDialect

/-- The sequences that all dialects know. -/
def commonSimple : List (Char × UInt8) :=
  [('\\', 0x5C), ('a', 0x07), ('b', 0x08), ('e', 0x1B), ('f', 0x0C), ('n', 0x0A), ('r', 0x0D),
    ('t', 0x09), ('v', 0x0B)]

/-- The sequences of the echo program. -/
def echo : EscapeDialect where
  simple := commonSimple
  leadingZero := true
  hexadecimal := .optional
  universal := false
  stopping := true
  takesUnknown := true

/-- The sequences of a printf format. -/
def format : EscapeDialect where
  simple := ('"', 0x22) :: commonSimple
  leadingZero := false
  hexadecimal := .required
  universal := true
  stopping := true
  takesUnknown := true

/-- The sequences of a printf operand. -/
def operand : EscapeDialect :=
  { format with leadingZero := true }

/-- The sequences of a printf format in a command interpreter. -/
def interpreterFormat : EscapeDialect where
  simple := commonSimple
  leadingZero := false
  hexadecimal := .unknown
  universal := false
  stopping := false
  takesUnknown := false

/-- The sequences of the operands that a command interpreter prints. -/
def interpreterOperand : EscapeDialect :=
  { interpreterFormat with leadingZero := true, stopping := true }

end EscapeDialect

/-- What an escape sequence means. -/
inductive EscapeMeaning where
  | bytes (bytes : List UInt8)
  | stops
  | fails (complaint : Text)
  deriving DecidableEq

namespace Text

/-- The byte that an octal sequence stands for, and the text after it. The first digit is given
apart; a leading zero allows one digit more in a dialect that counts from there. -/
def takeOctal (dialect : EscapeDialect) (first : Nat) (rest : Text) : Nat × Text :=
  takeDigits 8 (if dialect.leadingZero = true ∧ first = 0 then 3 else 2) first rest

theorem length_takeOctal_le (dialect : EscapeDialect) (first : Nat) (rest : Text) :
    (takeOctal dialect first rest).2.length ≤ rest.length :=
  length_takeDigits_le 8 _ first rest

end Text

namespace EscapeMeaning

/-- The ASCII code points that may be written by number. -/
def permittedCodes : List Nat :=
  [0x24, 0x40, 0x60]

/-- The last code point of the range in which few may be written by number. -/
def lastRestrictedCode : Nat :=
  0x9F

/-- The last code point of all. -/
def lastCode : Nat :=
  0x10FFFF

/-- A code point by number. Those of most ASCII characters, controls and surrogates are errors, and
one beyond the last is shown as it is written. -/
def ofCode (letter : Char) (width code : Nat) : EscapeMeaning :=
  if (code ≤ lastRestrictedCode ∧ code ∉ permittedCodes) ∨ (0xD800 ≤ code ∧ code ≤ 0xDFFF) then
    .fails (Text.ofString "invalid universal character name \\" ++
      .char letter :: Symbol.hexadecimal width code)
  else if code ≤ lastCode then .bytes (String.utf8EncodeChar (Char.ofNat code))
  else
    .bytes (Text.bytes (Text.ofString "\\U" ++
      (Symbol.hexadecimal 8 code).map fun
        | .char character => .char character.toUpper
        | symbol => symbol))

/-- The complaint about missing digits. -/
def missingDigits : EscapeMeaning :=
  .fails (Text.ofString "missing hexadecimal number in escape")

/-- A character by number: all its digits have to be there. -/
def ofUniversal (letter : Char) (width : Nat) (rest : Text) : EscapeMeaning × Text :=
  let number := Text.takeDigits 16 width 0 rest
  if rest.length < number.2.length + width then (missingDigits, [])
  else (ofCode letter width number.1, number.2)

/-- A byte in hexadecimal digits, if a digit is there. -/
def ofHexadecimal? (rest : Text) : Option (EscapeMeaning × Text) :=
  let number := Text.takeDigits 16 2 0 rest
  if number.2.length = rest.length then none
  else some (.bytes [UInt8.ofNat number.1], number.2)

/-- A sequence that is not known stands for itself. -/
def ofUnknown (dialect : EscapeDialect) (rest : Text) : EscapeMeaning × Text :=
  match rest with
  | [] => (.bytes [0x5C], [])
  | symbol :: later =>
      if dialect.takesUnknown then (.bytes (0x5C :: symbol.bytes), later)
      else (.bytes [0x5C], symbol :: later)

/-- What the sequence that goes on with a character after the backslash means, and the text
after it. -/
def ofCharacter (dialect : EscapeDialect) (next : Char) (rest : Text) : EscapeMeaning × Text :=
  match dialect.simple.lookup next with
  | some byte => (.bytes [byte], rest)
  | none =>
      if dialect.stopping = true ∧ next = 'c' then (.stops, [])
      else if dialect.universal = true ∧ next = 'u' then ofUniversal next 4 rest
      else if dialect.universal = true ∧ next = 'U' then ofUniversal next 8 rest
      else if next = 'x' ∧ dialect.hexadecimal ≠ .unknown then
        match ofHexadecimal? rest with
        | some read => read
        | none =>
            if dialect.hexadecimal = .required then (missingDigits, [])
            else ofUnknown dialect (.char next :: rest)
      else
        match (Symbol.char next).digitInBase? 8 with
        | some first =>
            let number := Text.takeOctal dialect first rest
            (.bytes [UInt8.ofNat number.1], number.2)
        | none => ofUnknown dialect (.char next :: rest)

/-- What the sequence after a backslash means, and the text after it. -/
def ofText (dialect : EscapeDialect) (text : Text) : EscapeMeaning × Text :=
  match text with
  | .char next :: rest => ofCharacter dialect next rest
  | other => ofUnknown dialect other

theorem length_ofUnknown_le (dialect : EscapeDialect) (rest : Text) :
    (ofUnknown dialect rest).2.length ≤ rest.length := by
  unfold ofUnknown
  split
  · simp
  · split <;> simp

theorem length_ofUniversal_le (letter : Char) (width : Nat) (rest : Text) :
    (ofUniversal letter width rest).2.length ≤ rest.length := by
  unfold ofUniversal
  dsimp only
  split
  · simp
  · exact Text.length_takeDigits_le 16 width 0 rest

theorem length_of_ofHexadecimal? {rest : Text} {read : EscapeMeaning × Text}
    (isRead : ofHexadecimal? rest = some read) : read.2.length ≤ rest.length := by
  unfold ofHexadecimal? at isRead
  dsimp only at isRead
  split at isRead
  · cases isRead
  · cases isRead
    exact Text.length_takeDigits_le 16 2 0 rest

/-- The text after a sequence is no longer than the text after the backslash. -/
theorem length_ofText_le (dialect : EscapeDialect) (text : Text) :
    (ofText dialect text).2.length ≤ text.length := by
  unfold ofText
  split
  next next rest =>
    unfold ofCharacter
    have unknown := length_ofUnknown_le dialect (.char next :: rest)
    have universal := length_ofUniversal_le next
    split
    · simp
    · split
      · simp
      · split
        · exact Nat.le_succ_of_le (universal 4 rest)
        · split
          · exact Nat.le_succ_of_le (universal 8 rest)
          · split
            · split
              next read isRead => exact Nat.le_succ_of_le (length_of_ofHexadecimal? isRead)
              next =>
                split
                · simp
                · exact unknown
            · split
              · exact Nat.le_succ_of_le (Text.length_takeOctal_le dialect _ rest)
              · exact unknown
  · exact length_ofUnknown_le dialect text

end EscapeMeaning

/-- What a text with escape sequences stands for: bytes, and what ends output after them, if
anything does. -/
structure Unescaped where
  bytes : List UInt8
  ending : Option EscapeMeaning := none
  deriving DecidableEq

namespace Unescaped

/-- Puts bytes in front. -/
def prepend (first : List UInt8) (rest : Unescaped) : Unescaped :=
  { rest with bytes := first ++ rest.bytes }

/-- Output ends after the bytes. -/
def stops (unescaped : Unescaped) : Bool :=
  unescaped.ending.isSome

end Unescaped

namespace Text

/-- What a text stands for once its escape sequences are read. -/
def unescape (dialect : EscapeDialect) : Text → Unescaped
  | [] => ⟨[], none⟩
  | symbol :: rest =>
      if symbol = .char '\\' then
        let read := EscapeMeaning.ofText dialect rest
        match read.1 with
        | .bytes bytes => (unescape dialect read.2).prepend bytes
        | .stops => ⟨[], some .stops⟩
        | .fails complaint => ⟨[], some (.fails complaint)⟩
      else (unescape dialect rest).prepend symbol.bytes
termination_by text => text.length
decreasing_by
  · exact Nat.lt_succ_of_le (EscapeMeaning.length_ofText_le dialect rest)
  · simp

end Text

end CommandChain

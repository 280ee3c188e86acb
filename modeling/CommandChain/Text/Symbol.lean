/-!
# Symbols and text

Text is a list of symbols. A symbol is a Unicode character, or a single byte of input that belongs
to no character. Keeping such stray bytes as symbols of their own lets undecodable input travel
through the shell unchanged.
-/

namespace CommandChain

/-- One position of a text. A stray byte is never an ASCII byte: those are characters. -/
inductive Symbol where
  | char (character : Char)
  | stray (byte : UInt8) (isHigh : 0x80 ≤ byte)
  deriving DecidableEq

namespace Symbol

/-- A byte on its own: an ASCII byte is its character, any other byte is stray. -/
def ofByte (byte : UInt8) : Symbol :=
  if isHigh : 0x80 ≤ byte then
    .stray byte isHigh
  else
    .char (Char.ofNat byte.toNat)

/-- The code point of a character; a stray byte has none. -/
def codePoint? : Symbol → Option Nat
  | .char character => some character.toNat
  | .stray _ _ => none

/-- A symbol has a code point in one of the given inclusive ranges. -/
def isWithin (ranges : List (Nat × Nat)) (symbol : Symbol) : Bool :=
  match symbol.codePoint? with
  | none => false
  | some code => ranges.any fun range => decide (range.1 ≤ code) && decide (code ≤ range.2)

@[simp] theorem codePoint?_char (character : Char) :
    (Symbol.char character).codePoint? = some character.toNat :=
  rfl

@[simp] theorem codePoint?_stray (byte : UInt8) (isHigh : 0x80 ≤ byte) :
    (Symbol.stray byte isHigh).codePoint? = none :=
  rfl

/-- Stray bytes lie in no range of code points, whatever their value. -/
@[simp] theorem isWithin_stray
    (ranges : List (Nat × Nat)) (byte : UInt8) (isHigh : 0x80 ≤ byte) :
    (Symbol.stray byte isHigh).isWithin ranges = false :=
  rfl

end Symbol

/-- A text is a list of symbols. -/
abbrev Text := List Symbol

namespace Text

/-- The text of a string: one symbol for each character. -/
def ofString (string : String) : Text :=
  string.toList.map Symbol.char

/-- A character that is one of the given ones. -/
def isAmong (characters : List Char) : Symbol → Bool
  | .char character => characters.contains character
  | .stray _ _ => false

/-- Texts joined with a separator between neighbours. -/
def joinWith (separator : Text) : List Text → Text
  | [] => []
  | [only] => only
  | first :: second :: rest => first ++ separator ++ joinWith separator (second :: rest)

@[simp] theorem joinWith_nil (separator : Text) : joinWith separator [] = [] :=
  rfl

@[simp] theorem joinWith_singleton (separator text : Text) :
    joinWith separator [text] = text :=
  rfl

theorem joinWith_cons_cons (separator first second : Text) (rest : List Text) :
    joinWith separator (first :: second :: rest) =
      first ++ separator ++ joinWith separator (second :: rest) :=
  rfl

/-- The pieces of a text between the occurrences of a separator, empty pieces included. -/
def cutAt (separator : Symbol) (text : Text) : List Text :=
  text.foldr
    (fun symbol pieces =>
      if symbol = separator then [] :: pieces
      else
        match pieces with
        | [] => [[symbol]]
        | first :: rest => (symbol :: first) :: rest)
    [[]]

/-- The decimal text of an integer, with a minus sign in front when it is negative. -/
def ofInt (number : Int) : Text :=
  ofString (toString number)

end Text

end CommandChain

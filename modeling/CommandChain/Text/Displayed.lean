import CommandChain.Text.Printable
import CommandChain.Text.Utf8

/-!
# Operands in messages

A message shows an operand between typographic quotation marks, or as a word that a command
interpreter would read back. Either way no byte that cannot be shown is printed as it stands.
-/

namespace CommandChain

namespace Symbol

/-- The code points that are shown as they stand although they are no letters, marks, numbers or
signs: spaces, format characters and private characters. -/
def silentRanges : List (Nat × Nat) :=
  [(0xA0, 0xA0), (0xAD, 0xAD), (0x600, 0x605), (0x61C, 0x61C), (0x6DD, 0x6DD), (0x70F, 0x70F),
    (0x890, 0x891), (0x8E2, 0x8E2), (0x1680, 0x1680), (0x180E, 0x180E), (0x2000, 0x200F),
    (0x202A, 0x202F), (0x205F, 0x2064), (0x2066, 0x206F), (0x3000, 0x3000), (0xE000, 0xF8FF),
    (0xFEFF, 0xFEFF), (0xFFF9, 0xFFFB), (0x110BD, 0x110BD), (0x110CD, 0x110CD),
    (0x13430, 0x13438), (0x1BCA0, 0x1BCA3), (0x1D173, 0x1D17A), (0xE0001, 0xE0001),
    (0xE0020, 0xE007F), (0xF0000, 0xFFFFD), (0x100000, 0x10FFFD)]

/-- A symbol that a message shows as it stands. -/
def isShown (symbol : Symbol) : Bool :=
  symbol.isPrintable || symbol.isWithin silentRanges

/-- The letters that stand for control characters after a backslash. -/
def controlLetters : List (Symbol × Char) :=
  [(.char '\x07', 'a'), (.char '\x08', 'b'), (.char '\t', 't'), (.char '\n', 'n'),
    (.char '\x0b', 'v'), (.char '\x0c', 'f'), (.char '\r', 'r')]

/-- A byte as three octal digits after a backslash. -/
def octalEscape (byte : UInt8) : Text :=
  .char '\\' ::
    [byte.toNat / 64, byte.toNat / 8 % 8, byte.toNat % 8].map fun digit =>
      .char (Char.ofNat ('0'.toNat + digit))

/-- The escape sequence of a symbol that is not shown as it stands. -/
def escaped (symbol : Symbol) : Text :=
  match controlLetters.lookup symbol with
  | some letter => [.char '\\', .char letter]
  | none => symbol.bytes.flatMap octalEscape

end Symbol

namespace Text

/-! ## Between quotation marks -/

/-- The mark that closes a quotation. -/
def closingMark : Symbol :=
  .char '\u2019'

/-- A symbol between quotation marks. -/
def displayedSymbol (symbol : Symbol) : Text :=
  if symbol = .char '\\' ∨ symbol = closingMark then [.char '\\', symbol]
  else if symbol.isShown then [symbol]
  else symbol.escaped

/-- An operand between quotation marks. -/
def displayed (operand : Text) : Text :=
  .char '\u2018' :: operand.regrouped.flatMap displayedSymbol ++ [closingMark]

/-! ## As words -/

/-- The characters that a word may hold only between quotes. -/
def wordSpecials : List Char :=
  [' ', '!', '"', '$', '&', '\'', '(', ')', '*', ';', '<', '=', '>', '?', '[', '\\', '^', '\x60',
    '|', ':']

/-- The characters that a word may not start with outside quotes. -/
def wordStartSpecials : List Char :=
  ['#', '~']

/-- The characters that have to stand between single quotes, where double quotes are not enough. -/
def singleQuoteSpecials : List Char :=
  ['!', '"', '#', '$', '&', '(', ')', '*', ';', '<', '=', '>', '?', '[', '\\', '^', '\x60', '\x7b',
    '|', '\x7d', '~']

/-- A word has to be quoted: it is empty, is one brace, or holds a special or hidden symbol. -/
def needsQuotes (word : Text) : Bool :=
  match word with
  | [] => true
  | first :: rest =>
      isAmong wordStartSpecials first || word.any (isAmong wordSpecials) ||
        word.any (fun symbol => !symbol.isShown) ||
        (rest.isEmpty && isAmong ['\x7b', '\x7d'] first)

/-- The rest of a word between single quotes. A hidden symbol leaves them for quotes in which escape
sequences are read; the flag says whether that is so. -/
def singleQuotedFrom : (isEscaping : Bool) → Text → Text
  | _, [] => [.char '\'']
  | isEscaping, symbol :: rest =>
      if symbol = .char '\'' then ofString "'\\''" ++ singleQuotedFrom false rest
      else if symbol.isShown then
        (if isEscaping then ofString "''" else []) ++ symbol :: singleQuotedFrom false rest
      else (if isEscaping then [] else ofString "'$'") ++ symbol.escaped ++
        singleQuotedFrom true rest

/-- An operand as a word. A word with single quotes and nothing else that is special stands between
double quotes. -/
def displayedWord (operand : Text) : Text :=
  let word := operand.regrouped
  if needsQuotes word then
    if word.contains (.char '\'') && word.all Symbol.isShown &&
        !word.any (isAmong singleQuoteSpecials) then
      .char '"' :: word ++ [.char '"']
    else .char '\'' :: singleQuotedFrom false word
  else word

/-- An ordinary word is shown as it stands. -/
theorem displayedWord_of_plain {operand : Text}
    (isPlain : needsQuotes operand.regrouped = false) :
    displayedWord operand = operand.regrouped := by
  simp [displayedWord, isPlain]

end Text

end CommandChain

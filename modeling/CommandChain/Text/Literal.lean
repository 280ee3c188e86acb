import CommandChain.Text.Printable
import CommandChain.Text.Radix

/-!
# Text literals

A text can be shown between quotes so that every symbol of it is visible: what is not printable is
written as an escape sequence. Single quotes are used, unless the text holds a single quote and no
double quote.
-/

namespace CommandChain

namespace Symbol

/-- The escape sequence of a code point, with as many digits as its size asks for. -/
def escapeSequence (code : Nat) : Text :=
  if code < 0x100 then Text.ofString "\\x" ++ hexadecimal 2 code
  else if code < 0x10000 then Text.ofString "\\u" ++ hexadecimal 4 code
  else Text.ofString "\\U" ++ hexadecimal 8 code

/-- A stray byte as it is shown: the code of the low surrogate that stands for it. -/
def straySequence (byte : UInt8) : Text :=
  Text.ofString "\\u" ++ hexadecimal 4 (0xDC00 + byte.toNat)

/-- A symbol inside a literal with the given quote. -/
def inLiteral (quote : Char) : Symbol → Text
  | .stray byte _ => straySequence byte
  | .char character =>
      if character = quote ∨ character = '\\' then [.char '\\', .char character]
      else if character = '\t' then Text.ofString "\\t"
      else if character = '\n' then Text.ofString "\\n"
      else if character = '\r' then Text.ofString "\\r"
      else if (Symbol.char character).isPrintable then [.char character]
      else escapeSequence character.toNat

/-- A symbol with a stray byte made visible. -/
def withStrayVisible : Symbol → Text
  | .stray byte _ => straySequence byte
  | .char character => [.char character]

end Symbol

namespace Text

/-- The quote of a text's literal. -/
def literalQuote (text : Text) : Char :=
  if .char '\'' ∈ text ∧ .char '"' ∉ text then '"' else '\''

/-- A text as a literal. -/
def literal (text : Text) : Text :=
  let quote := literalQuote text
  [.char quote] ++ text.flatMap (Symbol.inLiteral quote) ++ [.char quote]

/-- A text with its stray bytes made visible; characters stay as they are. -/
def withStraysVisible (text : Text) : Text :=
  text.flatMap Symbol.withStrayVisible

end Text

end CommandChain

import CommandChain.Text.Symbol

/-!
# Blank symbols

The blanks that separate words of a command line are the Unicode white space characters together
with the four information separators. Numerals trim the same set without the separators.
-/

namespace CommandChain

namespace Symbol

/-- The white space characters of Unicode, as inclusive ranges of code points. -/
def whiteSpaceRanges : List (Nat × Nat) :=
  [(0x09, 0x0D), (0x20, 0x20), (0x85, 0x85), (0xA0, 0xA0), (0x1680, 0x1680), (0x2000, 0x200A),
    (0x2028, 0x2029), (0x202F, 0x202F), (0x205F, 0x205F), (0x3000, 0x3000)]

/-- The file, group, record and unit separators. -/
def separatorRanges : List (Nat × Nat) :=
  [(0x1C, 0x1F)]

/-- A white space character. -/
def isWhiteSpace (symbol : Symbol) : Bool :=
  symbol.isWithin whiteSpaceRanges

/-- A symbol that separates words: white space or an information separator. -/
def isBlank (symbol : Symbol) : Bool :=
  symbol.isWithin (whiteSpaceRanges ++ separatorRanges)

theorem isBlank_of_isWhiteSpace {symbol : Symbol} (white : symbol.isWhiteSpace = true) :
    symbol.isBlank = true := by
  cases symbol with
  | char character =>
      simp only [isWhiteSpace, isBlank, isWithin, codePoint?_char, List.any_append,
        Bool.or_eq_true] at white ⊢
      exact Or.inl white
  | stray byte isHigh =>
      simp [isWhiteSpace] at white

/-- A stray byte is never blank, even where its value is the code of a blank character. -/
@[simp] theorem isBlank_stray (byte : UInt8) (isHigh : 0x80 ≤ byte) :
    (Symbol.stray byte isHigh).isBlank = false :=
  rfl

/-- The line end is blank. -/
theorem isBlank_newline : (Symbol.char '\n').isBlank = true := by
  decide

/-- The space is blank. -/
theorem isBlank_space : (Symbol.char ' ').isBlank = true := by
  decide

end Symbol

end CommandChain

import CommandChain.Runs
import CommandChain.Text.Blank

/-!
# Tokens

A command line has no quoting. A token is a maximal run of symbols that are neither blank nor a
semicolon, or a semicolon by itself. `Text.tokens` lists the tokens of a line.
-/

namespace CommandChain

namespace Symbol

/-- The symbol that always is a token by itself. -/
def semicolon : Symbol :=
  .char ';'

/-- What a symbol contributes as a boundary between words: a blank nothing, a semicolon a token.
Any other symbol is part of a word. -/
def tokenBoundary (symbol : Symbol) : Option (List Text) :=
  if symbol.isBlank then some []
  else if symbol = semicolon then some [[semicolon]]
  else none

theorem tokenBoundary_of_isBlank {symbol : Symbol} (blank : symbol.isBlank = true) :
    symbol.tokenBoundary = some [] := by
  simp [tokenBoundary, blank]

@[simp] theorem tokenBoundary_semicolon : semicolon.tokenBoundary = some [[semicolon]] := by
  have notBlank : semicolon.isBlank = false := by decide
  simp [tokenBoundary, notBlank]

theorem tokenBoundary_eq_none_iff {symbol : Symbol} :
    symbol.tokenBoundary = none ↔ symbol.isBlank = false ∧ symbol ≠ semicolon := by
  unfold tokenBoundary
  cases symbol.isBlank with
  | true => simp
  | false => simp

/-- A stray byte always is part of a word. -/
@[simp] theorem tokenBoundary_stray (byte : UInt8) (isHigh : 0x80 ≤ byte) :
    (Symbol.stray byte isHigh).tokenBoundary = none := by
  rw [tokenBoundary_eq_none_iff]
  simp [semicolon]

end Symbol

namespace Text

/-- The tokens of a line, in order. -/
def tokens (line : Text) : List Text :=
  splitRuns Symbol.tokenBoundary id line

/-- A word token: not empty, and free of blanks and semicolons. -/
structure IsWord (token : Text) : Prop where
  nonempty : token ≠ []
  unbroken : ∀ symbol ∈ token, symbol.isBlank = false ∧ symbol ≠ Symbol.semicolon

@[simp] theorem tokens_nil : tokens [] = [] :=
  rfl

/-- A blank in front changes nothing. -/
theorem tokens_blank_cons {symbol : Symbol} (blank : symbol.isBlank = true) (rest : Text) :
    tokens (symbol :: rest) = tokens rest :=
  splitRuns_boundary_cons _ _ (Symbol.tokenBoundary_of_isBlank blank) rest

/-- A semicolon cuts a line into two that are read on their own. -/
theorem tokens_append_semicolon (before after : Text) :
    tokens (before ++ Symbol.semicolon :: after) =
      tokens before ++ [Symbol.semicolon] :: tokens after :=
  splitRuns_append_boundary _ _ Symbol.tokenBoundary_semicolon before after

/-- A blank cuts a line into two that are read on their own. -/
theorem tokens_append_blank {symbol : Symbol} (blank : symbol.isBlank = true)
    (before after : Text) :
    tokens (before ++ symbol :: after) = tokens before ++ tokens after :=
  splitRuns_append_boundary _ _ (Symbol.tokenBoundary_of_isBlank blank) before after

/-- A word is the only token of the line that consists of it. -/
theorem tokens_word {word : Text} (isWord : IsWord word) : tokens word = [word] :=
  splitRuns_run _ _ isWord.nonempty fun symbol member =>
    Symbol.tokenBoundary_eq_none_iff.2 (isWord.unbroken symbol member)

end Text

end CommandChain

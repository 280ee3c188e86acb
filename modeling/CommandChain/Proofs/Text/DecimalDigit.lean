import CommandChain.Proofs.Text.Utf8
import CommandChain.Text.Blank
import CommandChain.Text.DecimalDigit
import Mathlib.Data.List.Pairwise

/-!
# The characters of decimal digits

The ten digits of a script are its zero and the nine code points behind it, and no two scripts share
one of them. So a symbol is a digit with a value exactly when it is the character of a
`DecimalDigit`, and no digit is white space.
-/

namespace CommandChain

/-- A decimal digit, by the code point of the zero of its script and its value. -/
structure DecimalDigit where
  start : Nat
  value : Nat
  isZero : start ∈ Symbol.decimalZeros
  isBelowTen : value < 10

/-- The character of a digit. -/
def DecimalDigit.symbol (digit : DecimalDigit) : Symbol :=
  .char (Char.ofNat (digit.start + digit.value))

namespace Symbol

theorem decimalZeros_apart :
    decimalZeros.Pairwise fun first second => first + 10 ≤ second := by
  decide

theorem decimalZeros_scalar :
    ∀ start ∈ decimalZeros, start + 10 ≤ 0xD800 ∨ 0xDFFF < start ∧ start + 10 < 0x110000 := by
  decide

theorem decimalZeros_solid :
    ∀ start ∈ decimalZeros, ∀ range ∈ whiteSpaceRanges, range.2 < start ∨ start + 10 ≤ range.1 := by
  decide

theorem isDigitFrom_iff {code start : Nat} :
    isDigitFrom code start = true ↔ start ≤ code ∧ code < start + 10 := by
  simp [isDigitFrom]

/-- The digits of different scripts are different characters. -/
theorem start_unique {code first second : Nat} (firstIsZero : first ∈ decimalZeros)
    (secondIsZero : second ∈ decimalZeros) (fromFirst : isDigitFrom code first = true)
    (fromSecond : isDigitFrom code second = true) : first = second := by
  rw [isDigitFrom_iff] at fromFirst fromSecond
  by_contra different
  have isSymmetric : Std.Symm fun first second : Nat =>
      first + 10 ≤ second ∨ second + 10 ≤ first := ⟨fun _ _ => Or.symm⟩
  have apart : decimalZeros.Pairwise fun first second =>
      first + 10 ≤ second ∨ second + 10 ≤ first := decimalZeros_apart.imp Or.inl
  have oneApart := apart.forall firstIsZero secondIsZero different
  omega

theorem decimalValue?_eq_some_iff {code value : Nat} :
    decimalValue? code = some value ↔
      ∃ start ∈ decimalZeros, value < 10 ∧ code = start + value := by
  constructor
  · intro found
    obtain ⟨start, isFound, rfl⟩ := Option.map_eq_some_iff.1 found
    have inRange := isDigitFrom_iff.1 (List.find?_some isFound)
    exact ⟨start, List.mem_of_find?_eq_some isFound, by omega, by omega⟩
  · rintro ⟨start, isZero, isBelowTen, rfl⟩
    have fromStart : isDigitFrom (start + value) start = true := isDigitFrom_iff.2 (by omega)
    obtain ⟨found, isFound⟩ := Option.isSome_iff_exists.1
      (List.find?_isSome.2 ⟨start, isZero, fromStart⟩)
    have same : found = start := start_unique (List.mem_of_find?_eq_some isFound) isZero
      (List.find?_some isFound) fromStart
    rw [decimalValue?, isFound, same, Option.map_some, Nat.add_sub_cancel_left]

end Symbol

namespace DecimalDigit

theorem codePoint?_symbol (digit : DecimalDigit) :
    digit.symbol.codePoint? = some (digit.start + digit.value) := by
  have isScalar := Symbol.decimalZeros_scalar digit.start digit.isZero
  have isBelowTen := digit.isBelowTen
  have isValid : (digit.start + digit.value).isValidChar := by
    unfold Nat.isValidChar
    omega
  rw [symbol, Symbol.codePoint?_char, Utf8.toNat_ofNat_of_isValidChar isValid]

theorem digit?_symbol (digit : DecimalDigit) : digit.symbol.digit? = some digit.value := by
  rw [Symbol.digit?, codePoint?_symbol, Option.bind_some]
  exact Symbol.decimalValue?_eq_some_iff.2 ⟨digit.start, digit.isZero, digit.isBelowTen, rfl⟩

theorem exists_of_digit? {symbol : Symbol} {value : Nat} (found : symbol.digit? = some value) :
    ∃ digit : DecimalDigit, digit.symbol = symbol ∧ digit.value = value := by
  cases symbol with
  | stray byte isHigh => cases found
  | char character =>
      obtain ⟨start, isZero, isBelowTen, same⟩ := Symbol.decimalValue?_eq_some_iff.1 found
      refine ⟨⟨start, value, isZero, isBelowTen⟩, ?_, rfl⟩
      rw [symbol, ← same, Char.ofNat_toNat]

/-- No digit is white space. -/
theorem isWhiteSpace_symbol (digit : DecimalDigit) : digit.symbol.isWhiteSpace = false := by
  rw [Symbol.isWhiteSpace, Symbol.isWithin, codePoint?_symbol, List.any_eq_false]
  intro range isRange
  have solid := Symbol.decimalZeros_solid digit.start digit.isZero range isRange
  have isBelowTen := digit.isBelowTen
  simp only [Bool.and_eq_true, decide_eq_true_eq]
  omega

/-- A symbol that is no digit, such as a sign, is not the symbol of one. -/
theorem symbol_ne (digit : DecimalDigit) {symbol : Symbol} (isNoDigit : symbol.digit? = none) :
    digit.symbol ≠ symbol := by
  rintro rfl
  rw [digit?_symbol] at isNoDigit
  cases isNoDigit

end DecimalDigit

end CommandChain

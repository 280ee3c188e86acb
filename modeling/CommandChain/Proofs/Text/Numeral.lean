import CommandChain.Proofs.Text.DecimalDigit
import CommandChain.Text.Numeral
import Mathlib.Data.Nat.Digits.Defs

/-!
# What numerals write

The grammar of numerals as data: an `UnsignedNumeral` of digits with single underscores between
them, a `SignedNumeral`, and a `Numeral` with white space around it. Each reader of numerals accepts
the texts of one of these and gives the positional value of its digits (`toNatural?_eq_some_iff`,
`toSigned?_eq_some_iff`, `toInteger?_eq_some_iff`).
-/

namespace CommandChain

/-! ## The grammar -/

/-- A digit after the first one, with or without an underscore in front of it. -/
structure LaterDigit extends DecimalDigit where
  afterUnderscore : Bool

def LaterDigit.text (digit : LaterDigit) : Text :=
  if digit.afterUnderscore then [.char '_', digit.symbol] else [digit.symbol]

theorem LaterDigit.eq_underscore_or_symbol_of_mem (digit : LaterDigit) {symbol : Symbol}
    (isMember : symbol ∈ digit.text) : symbol = .char '_' ∨ symbol = digit.symbol := by
  rw [text] at isMember
  split_ifs at isMember with underscore
  · simpa using isMember
  · exact Or.inr (List.mem_singleton.1 isMember)

/-- A row of at most 4300 digits, at least one, with single underscores between them. -/
structure UnsignedNumeral where
  first : DecimalDigit
  later : List LaterDigit
  isShort : later.length + 1 ≤ 4300

namespace UnsignedNumeral

def text (numeral : UnsignedNumeral) : Text :=
  numeral.first.symbol :: numeral.later.flatMap LaterDigit.text

/-- The values of the digits, the most significant first. -/
def digits (numeral : UnsignedNumeral) : List Nat :=
  numeral.first.value :: numeral.later.map fun digit => digit.value

/-- The positional value of the digits. -/
def value (numeral : UnsignedNumeral) : Nat :=
  Nat.ofDigits 10 numeral.digits.reverse

end UnsignedNumeral

/-- What may stand in front of the digits. -/
inductive Sign where
  | absent
  | plus
  | minus
  deriving DecidableEq

namespace Sign

def text : Sign → Text
  | absent => []
  | plus => [.char '+']
  | minus => [.char '-']

def apply : Sign → Nat → Int
  | minus, value => -value
  | _, value => value

end Sign

/-- A row of digits behind an optional sign. -/
structure SignedNumeral extends UnsignedNumeral where
  sign : Sign

namespace SignedNumeral

def text (numeral : SignedNumeral) : Text :=
  numeral.sign.text ++ numeral.toUnsignedNumeral.text

def value (numeral : SignedNumeral) : Int :=
  numeral.sign.apply numeral.toUnsignedNumeral.value

end SignedNumeral

/-- A signed row of digits with white space around it. -/
structure Numeral extends SignedNumeral where
  front : Text
  back : Text
  frontIsWhite : ∀ symbol ∈ front, symbol.isWhiteSpace = true
  backIsWhite : ∀ symbol ∈ back, symbol.isWhiteSpace = true

def Numeral.text (numeral : Numeral) : Text :=
  numeral.front ++ numeral.toSignedNumeral.text ++ numeral.back

namespace Text

/-! ## Reading digits -/

theorem digitsOf?_later (later : List LaterDigit) :
    digitsOf? true (later.flatMap LaterDigit.text) = some (later.map fun digit => digit.value) := by
  induction later with
  | nil => rfl
  | cons digit later inductionHypothesis =>
      have isDigit := digit.digit?_symbol
      have isNoDigit : (Symbol.char '_').digit? = none := by decide
      cases underscore : digit.afterUnderscore with
      | false =>
          simp [LaterDigit.text, underscore, digitsOf?, isDigit, inductionHypothesis]
      | true =>
          simp [LaterDigit.text, underscore, digitsOf?, isDigit, isNoDigit, inductionHypothesis]

theorem digitsOf?_text (numeral : UnsignedNumeral) :
    digitsOf? false numeral.text = some numeral.digits := by
  rw [UnsignedNumeral.text, digitsOf?_digit_cons false numeral.first.digit?_symbol,
    digitsOf?_later, Option.map_some, UnsignedNumeral.digits]

/-- The texts of which digits are found, by the flag: behind a digit there are later ones or none,
and at the start or behind an underscore there is a first one. -/
theorem exists_digits_of_digitsOf? {text : Text} :
    ∀ {values : List Nat},
      (digitsOf? true text = some values →
        ∃ later : List LaterDigit, later.flatMap LaterDigit.text = text ∧
          (later.map fun digit => digit.value) = values) ∧
      (digitsOf? false text = some values →
        ∃ (first : DecimalDigit) (later : List LaterDigit),
          first.symbol :: later.flatMap LaterDigit.text = text ∧
          (first.value :: later.map fun digit => digit.value) = values) := by
  induction text with
  | nil =>
      intro values
      constructor
      · rintro ⟨⟩
        exact ⟨[], rfl, rfl⟩
      · rintro ⟨⟩
  | cons symbol rest inductionHypothesis =>
      intro values
      cases isDigit : symbol.digit? with
      | some value =>
          obtain ⟨digit, rfl, rfl⟩ := DecimalDigit.exists_of_digit? isDigit
          simp only [digitsOf?_digit_cons _ isDigit, Option.map_eq_some_iff]
          constructor
          · rintro ⟨others, found, rfl⟩
            obtain ⟨later, rfl, rfl⟩ := inductionHypothesis.1 found
            exact ⟨⟨digit, false⟩ :: later, by simp [LaterDigit.text], rfl⟩
          · rintro ⟨others, found, rfl⟩
            obtain ⟨later, rfl, rfl⟩ := inductionHypothesis.1 found
            exact ⟨digit, later, rfl, rfl⟩
      | none =>
          simp only [digitsOf?, isDigit, true_and, Bool.false_eq_true, false_and, if_false,
            reduceCtorEq, false_imp_iff, and_true]
          intro found
          -- What is no digit is an underscore behind one, and a digit must follow it.
          split_ifs at found with isUnderscore
          obtain ⟨first, later, rfl, rfl⟩ := inductionHypothesis.2 found
          exact ⟨⟨first, true⟩ :: later, by simp [LaterDigit.text, isUnderscore], rfl⟩

theorem valueOfDigits_eq_ofDigits (digits : List Nat) :
    valueOfDigits digits = Nat.ofDigits 10 digits.reverse := by
  rw [Nat.ofDigits_eq_foldr, List.foldr_reverse, valueOfDigits]
  simp only [Nat.cast_id, Nat.add_comm]

theorem toNatural?_eq_some_iff {text : Text} {value : Nat} :
    toNatural? text = some value ↔
      ∃ numeral : UnsignedNumeral, numeral.text = text ∧ numeral.value = value := by
  constructor
  · intro found
    rw [toNatural?] at found
    split at found
    · cases found
    · next digits digitsFound =>
        obtain ⟨first, later, isText, rfl⟩ := exists_digits_of_digitsOf?.2 digitsFound
        split_ifs at found with isShort
        cases found
        refine ⟨⟨first, later, by simpa [maximalDigitCount] using isShort⟩, isText, ?_⟩
        exact (valueOfDigits_eq_ofDigits _).symm
  · rintro ⟨numeral, rfl, rfl⟩
    have isShort : numeral.digits.length ≤ maximalDigitCount := by
      simpa [UnsignedNumeral.digits, maximalDigitCount] using numeral.isShort
    rw [toNatural?, digitsOf?_text, UnsignedNumeral.value, ← valueOfDigits_eq_ofDigits]
    exact if_pos isShort

/-! ## Reading the sign -/

theorem toSigned?_text (numeral : SignedNumeral) :
    toSigned? numeral.text = some numeral.value := by
  have isNatural : toNatural? numeral.toUnsignedNumeral.text =
      some numeral.toUnsignedNumeral.value := toNatural?_eq_some_iff.2 ⟨_, rfl, rfl⟩
  -- No digit is taken for a sign.
  have isNotPlus : numeral.first.symbol ≠ .char '+' := numeral.first.symbol_ne (by decide)
  have isNotMinus : numeral.first.symbol ≠ .char '-' := numeral.first.symbol_ne (by decide)
  cases hasSign : numeral.sign with
  | absent =>
      rw [UnsignedNumeral.text] at isNatural
      simp [SignedNumeral.text, SignedNumeral.value, UnsignedNumeral.text, hasSign, Sign.text,
        Sign.apply, toSigned?, isNotPlus, isNotMinus, isNatural]
  | plus =>
      simp [SignedNumeral.text, SignedNumeral.value, hasSign, Sign.text, Sign.apply, toSigned?,
        isNatural]
  | minus =>
      simp [SignedNumeral.text, SignedNumeral.value, hasSign, Sign.text, Sign.apply, toSigned?,
        isNatural]

theorem exists_signed_of_toNatural? (sign : Sign) {rest : Text} {value : Int}
    (found : (toNatural? rest).map sign.apply = some value) :
    ∃ numeral : SignedNumeral, numeral.text = sign.text ++ rest ∧ numeral.value = value := by
  obtain ⟨natural, isNatural, rfl⟩ := Option.map_eq_some_iff.1 found
  obtain ⟨numeral, rfl, rfl⟩ := toNatural?_eq_some_iff.1 isNatural
  exact ⟨⟨numeral, sign⟩, rfl, rfl⟩

theorem toSigned?_eq_some_iff {text : Text} {value : Int} :
    toSigned? text = some value ↔
      ∃ numeral : SignedNumeral, numeral.text = text ∧ numeral.value = value := by
  constructor
  · intro found
    cases text with
    | nil => cases found
    | cons first rest =>
        rw [toSigned?] at found
        split_ifs at found with isPlus isMinus
        · rw [isPlus]
          exact exists_signed_of_toNatural? .plus found
        · rw [isMinus]
          exact exists_signed_of_toNatural? .minus found
        · exact exists_signed_of_toNatural? .absent found
  · rintro ⟨numeral, rfl, rfl⟩
    exact toSigned?_text numeral

/-! ## White space around a numeral -/

theorem exists_trim (text : Text) :
    ∃ front back : Text, text = front ++ trim text ++ back ∧
      (∀ symbol ∈ front, symbol.isWhiteSpace = true) ∧
      (∀ symbol ∈ back, symbol.isWhiteSpace = true) := by
  have takenIsWhite : ∀ text : Text, ∀ symbol ∈ text.takeWhile Symbol.isWhiteSpace,
      symbol.isWhiteSpace = true := fun _ => List.all_eq_true.1 List.all_takeWhile
  let kept := text.dropWhile Symbol.isWhiteSpace
  have keptParts : kept = trim text ++ (kept.reverse.takeWhile Symbol.isWhiteSpace).reverse := by
    rw [trim, ← List.reverse_append, List.takeWhile_append_dropWhile, List.reverse_reverse]
  refine ⟨text.takeWhile Symbol.isWhiteSpace,
    (kept.reverse.takeWhile Symbol.isWhiteSpace).reverse, ?_, takenIsWhite text, ?_⟩
  · rw [List.append_assoc, ← keptParts, List.takeWhile_append_dropWhile]
  · intro symbol isMember
    exact takenIsWhite kept.reverse symbol (List.mem_reverse.1 isMember)

theorem dropWhile_append_of_solid {front core : Text}
    (frontIsWhite : ∀ symbol ∈ front, symbol.isWhiteSpace = true)
    (headIsSolid : ∀ symbol ∈ core.head?, symbol.isWhiteSpace = false) :
    (front ++ core).dropWhile Symbol.isWhiteSpace = core := by
  rw [List.dropWhile_append_of_pos frontIsWhite]
  cases core with
  | nil => rfl
  | cons first rest =>
      rw [List.dropWhile_cons_of_neg (by simp [headIsSolid first rfl])]

theorem trim_append_of_solid {front core back : Text}
    (frontIsWhite : ∀ symbol ∈ front, symbol.isWhiteSpace = true)
    (backIsWhite : ∀ symbol ∈ back, symbol.isWhiteSpace = true)
    (nonempty : core ≠ []) (coreIsSolid : ∀ symbol ∈ core, symbol.isWhiteSpace = false) :
    trim (front ++ core ++ back) = core := by
  have headIsSolid : ∀ symbol ∈ (core ++ back).head?, symbol.isWhiteSpace = false := by
    rw [List.head?_append_of_ne_nil core nonempty]
    exact fun symbol isHead => coreIsSolid symbol (List.mem_of_mem_head? isHead)
  have lastIsSolid : ∀ symbol ∈ core.reverse.head?, symbol.isWhiteSpace = false :=
    fun symbol isLast => coreIsSolid symbol (List.mem_reverse.1 (List.mem_of_mem_head? isLast))
  have reversedIsWhite : ∀ symbol ∈ back.reverse, symbol.isWhiteSpace = true :=
    fun symbol isMember => backIsWhite symbol (List.mem_reverse.1 isMember)
  -- The back is dropped as the front of the reversed text.
  rw [trim, List.append_assoc, dropWhile_append_of_solid frontIsWhite headIsSolid,
    List.reverse_append, dropWhile_append_of_solid reversedIsWhite lastIsSolid,
    List.reverse_reverse]

theorem isSolid_of_mem_text {numeral : SignedNumeral} {symbol : Symbol}
    (isMember : symbol ∈ numeral.text) : symbol.isWhiteSpace = false := by
  have underscoreIsSolid : (Symbol.char '_').isWhiteSpace = false := by decide
  have signIsSolid : ∀ sign : Sign, ∀ symbol ∈ sign.text, symbol.isWhiteSpace = false := by
    intro sign
    cases sign <;> decide
  rw [SignedNumeral.text, UnsignedNumeral.text, List.mem_append, List.mem_cons,
    List.mem_flatMap] at isMember
  rcases isMember with isSign | rfl | ⟨digit, -, isDigit⟩
  · exact signIsSolid numeral.sign symbol isSign
  · exact numeral.first.isWhiteSpace_symbol
  · rcases digit.eq_underscore_or_symbol_of_mem isDigit with rfl | rfl
    · exact underscoreIsSolid
    · exact digit.isWhiteSpace_symbol

theorem toInteger?_eq_some_iff {text : Text} {value : Int} :
    toInteger? text = some value ↔
      ∃ numeral : Numeral, numeral.text = text ∧ numeral.value = value := by
  rw [toInteger?, toSigned?_eq_some_iff]
  constructor
  · rintro ⟨numeral, isTrimmed, rfl⟩
    obtain ⟨front, back, parts, frontIsWhite, backIsWhite⟩ := exists_trim text
    refine ⟨⟨numeral, front, back, frontIsWhite, backIsWhite⟩, ?_, rfl⟩
    rw [Numeral.text, isTrimmed, ← parts]
  · rintro ⟨numeral, rfl, rfl⟩
    have nonempty : numeral.toSignedNumeral.text ≠ [] := by
      simp [SignedNumeral.text, UnsignedNumeral.text]
    refine ⟨numeral.toSignedNumeral, ?_, rfl⟩
    rw [Numeral.text, trim_append_of_solid numeral.frontIsWhite numeral.backIsWhite nonempty
      fun _ => isSolid_of_mem_text]

end Text

/-! ## The numerals of an integer -/

/-- Zeros in front do not change the value, whatever scripts the digits are of. -/
theorem UnsignedNumeral.value_of_digits {numeral : UnsignedNumeral} {zeros number : Nat}
    (sameDigits : numeral.digits = List.replicate zeros 0 ++ (Nat.digits 10 number).reverse) :
    numeral.value = number := by
  rw [value, sameDigits, List.reverse_append, List.reverse_reverse, List.reverse_replicate,
    Nat.ofDigits_append_replicate_zero, Nat.ofDigits_digits]

theorem Sign.apply_natAbs {sign : Sign} {number : Int} (sameSign : sign = .minus ↔ number < 0) :
    sign.apply number.natAbs = number := by
  cases sign with
  | absent | plus =>
      have isNatural : ¬ number < 0 := fun isNegative => by cases sameSign.2 isNegative
      simp only [apply]
      omega
  | minus =>
      have isNegative : number < 0 := sameSign.1 rfl
      simp only [apply]
      omega

namespace Text

theorem digit?_of_isDigit {character : Char} (isDigit : character.isDigit = true) :
    (Symbol.char character).digit? = some (character.toNat - '0'.toNat) := by
  obtain ⟨least, most⟩ := Char.isDigit_iff_toNat.1 isDigit
  have isZero : '0'.toNat ∈ Symbol.decimalZeros := by decide
  have lastCode : '9'.toNat = '0'.toNat + 9 := rfl
  exact Symbol.decimalValue?_eq_some_iff.2 ⟨'0'.toNat, isZero, by omega, by omega⟩

theorem digitsOf?_characters {characters : List Char}
    (areDigits : ∀ character ∈ characters, character.isDigit = true) :
    digitsOf? true (characters.map Symbol.char) =
      some (characters.map fun character => character.toNat - '0'.toNat) := by
  induction characters with
  | nil => rfl
  | cons first rest inductionHypothesis =>
      rw [List.forall_mem_cons] at areDigits
      rw [List.map_cons, digitsOf?_digit_cons true (digit?_of_isDigit areDigits.1),
        inductionHypothesis areDigits.2, Option.map_some, List.map_cons]

theorem toNatural?_toDigits {number : Nat} (isSmall : number < 10 ^ 4300) :
    toNatural? ((Nat.toDigits 10 number).map Symbol.char) = some number := by
  have areDigits : ∀ character ∈ Nat.toDigits 10 number, character.isDigit = true :=
    fun _ => Nat.isDigit_of_mem_toDigits (by decide) (by decide)
  have isShort : (Nat.toDigits 10 number).length ≤ maximalDigitCount :=
    Nat.toDigits_length 10 number 4300 (by decide) isSmall
  have isValue : valueOfDigits
      ((Nat.toDigits 10 number).map fun character => character.toNat - '0'.toNat) = number := by
    rw [valueOfDigits, List.foldl_map, ← Nat.ofDigitChars_eq_foldl]
    exact Nat.ofDigitChars_toDigits (by decide) (by decide)
  have found : digitsOf? false ((Nat.toDigits 10 number).map Symbol.char) =
      some ((Nat.toDigits 10 number).map fun character => character.toNat - '0'.toNat) := by
    rw [← digitsOf?_characters areDigits]
    cases hasFirst : Nat.toDigits 10 number with
    | nil => exact absurd hasFirst Nat.toDigits_ne_nil
    | cons first rest =>
        have isDigit := digit?_of_isDigit (areDigits first (by simp [hasFirst]))
        rw [List.map_cons, digitsOf?_digit_cons false isDigit, digitsOf?_digit_cons true isDigit]
  rw [toNatural?, found]
  simp only [List.length_map, isShort, if_true, isValue]

theorem ofInt_eq (number : Int) :
    ofInt number = (if number < 0 then Sign.minus else Sign.absent).text ++
      (Nat.toDigits 10 number.natAbs).map Symbol.char := by
  have reprEq : ∀ natural : Nat, natural.repr.toList = Nat.toDigits 10 natural :=
    fun _ => String.toList_ofList
  cases number with
  | ofNat natural =>
      have isNatural : ¬ Int.ofNat natural < 0 := by simp
      have written : toString (Int.ofNat natural) = natural.repr := rfl
      rw [ofInt, ofString, written, reprEq, if_neg isNatural]
      rfl
  | negSucc predecessor =>
      have isNegative : Int.negSucc predecessor < 0 := Int.negSucc_lt_zero predecessor
      have written : toString (Int.negSucc predecessor) = "-" ++ (predecessor + 1).repr := rfl
      rw [ofInt, ofString, written, String.toList_append, reprEq, if_pos isNegative]
      rfl

theorem exists_numeral_ofInt {number : Int} (isSmall : number.natAbs < 10 ^ 4300) :
    ∃ numeral : Numeral, numeral.text = ofInt number ∧ numeral.value = number := by
  obtain ⟨digits, isText, isValue⟩ := toNatural?_eq_some_iff.1 (toNatural?_toDigits isSmall)
  refine ⟨⟨⟨digits, if number < 0 then .minus else .absent⟩, [], [], by simp, by simp⟩, ?_, ?_⟩
  · simp [Numeral.text, SignedNumeral.text, isText, ofInt_eq]
  · rw [SignedNumeral.value, isValue]
    exact Sign.apply_natAbs (by split_ifs <;> simp [*])

end Text

end CommandChain

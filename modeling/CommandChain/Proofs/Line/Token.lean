import CommandChain.Element
import CommandChain.Proofs.Runs
import CommandChain.Token

/-!
# Tokens of a line

Every token of a line is a semicolon or a word (`mem_tokens`), and words joined by single spaces
are the tokens of the joined line (`tokens_joinWith_space`). A line can be cut next to any symbol that
sets words apart, and its parts are read on their own (`tokens_append_of_startsApart`,
`tokens_append_of_endsApart`).
-/

namespace CommandChain

namespace Text

/-- A token is the semicolon or a word. -/
theorem mem_tokens {line token : Text} (member : token ∈ tokens line) :
    token = [Symbol.semicolon] ∨ IsWord token := by
  rcases mem_splitRuns Symbol.tokenBoundary id member with
    ⟨run, nonempty, _, noBoundary, equality⟩ | ⟨cut, _, pieces, isBoundary, inPieces⟩
  · refine Or.inr ?_
    rw [equality]
    exact
      { nonempty := nonempty
        unbroken := fun symbol inRun =>
          Symbol.tokenBoundary_eq_none_iff.1 (noBoundary symbol inRun) }
  · refine Or.inl ?_
    unfold Symbol.tokenBoundary at isBoundary
    split at isBoundary
    · cases isBoundary
      exact absurd inPieces List.not_mem_nil
    · split at isBoundary
      · cases isBoundary
        exact List.mem_singleton.1 inPieces
      · cases isBoundary

theorem ne_nil_of_mem_tokens {line token : Text} (member : token ∈ tokens line) : token ≠ [] := by
  rcases mem_tokens member with isSemicolon | isWord
  · rw [isSemicolon]
    exact List.cons_ne_nil _ _
  · exact isWord.nonempty

/-- Words joined by single spaces are read back as they are. -/
theorem tokens_joinWith_space :
    ∀ {words : List Text}, (∀ word ∈ words, IsWord word) →
      tokens (joinWith [.char ' '] words) = words
  | [], _ => rfl
  | [word], allWords => by
      rw [joinWith_singleton]
      exact tokens_word (allWords word List.mem_cons_self)
  | first :: second :: rest, allWords => by
      have firstIsWord : IsWord first := allWords first List.mem_cons_self
      have restRead : tokens (joinWith [.char ' '] (second :: rest)) = second :: rest :=
        tokens_joinWith_space fun word member => allWords word (List.mem_cons_of_mem first member)
      rw [joinWith_cons_cons, List.append_assoc, List.singleton_append,
        tokens_append_blank Symbol.isBlank_space, restRead, tokens_word firstIsWord]
      rfl

end Text

/-! ## Where words end -/

/-- A symbol that belongs to no word: it is blank or a semicolon. -/
def Symbol.SetsApart (symbol : Symbol) : Prop :=
  symbol.isBlank = true ∨ symbol = semicolon

theorem Symbol.tokenBoundary_eq_none_iff_not_setsApart {symbol : Symbol} :
    symbol.tokenBoundary = none ↔ ¬ symbol.SetsApart := by
  rw [tokenBoundary_eq_none_iff, SetsApart, not_or, Bool.not_eq_true]

theorem Symbol.setsApart_of_tokenBoundary {symbol : Symbol} {pieces : List Text}
    (isBoundary : symbol.tokenBoundary = some pieces) : symbol.SetsApart := by
  refine Classical.not_not.1 fun inWord => ?_
  rw [tokenBoundary_eq_none_iff_not_setsApart.2 inWord] at isBoundary
  cases isBoundary

namespace Text

/-- No word goes on at the start of the text. -/
def StartsApart (text : Text) : Prop :=
  ∀ symbol ∈ text.head?, symbol.SetsApart

/-- No word goes on at the end of the text. -/
def EndsApart (text : Text) : Prop :=
  ∀ symbol ∈ text.getLast?, symbol.SetsApart

@[simp] theorem startsApart_nil : StartsApart [] := by
  simp [StartsApart]

@[simp] theorem endsApart_nil : EndsApart [] := by
  simp [EndsApart]

theorem startsApart_cons {symbol : Symbol} {rest : Text} :
    StartsApart (symbol :: rest) ↔ symbol.SetsApart := by
  simp [StartsApart]

theorem endsApart_concat {symbol : Symbol} {front : Text} :
    EndsApart (front ++ [symbol]) ↔ symbol.SetsApart := by
  simp [EndsApart]

theorem IsWord.not_setsApart {word : Text} (isWord : IsWord word) {symbol : Symbol}
    (member : symbol ∈ word) : ¬ symbol.SetsApart := by
  obtain ⟨notBlank, notSemicolon⟩ := isWord.unbroken symbol member
  rintro (blank | isSemicolon)
  · rw [notBlank] at blank
    cases blank
  · exact notSemicolon isSemicolon

theorem tokens_semicolon_cons (rest : Text) :
    tokens (Symbol.semicolon :: rest) = [Symbol.semicolon] :: tokens rest :=
  tokens_append_semicolon [] rest

theorem tokens_append_setsApart {symbol : Symbol} (apart : symbol.SetsApart)
    (before after : Text) :
    tokens (before ++ symbol :: after) = tokens before ++ tokens (symbol :: after) := by
  rcases apart with blank | rfl
  · rw [tokens_append_blank blank, tokens_blank_cons blank]
  · rw [tokens_append_semicolon, tokens_semicolon_cons]

theorem tokens_setsApart_cons {symbol : Symbol} (apart : symbol.SetsApart) (rest : Text) :
    tokens (symbol :: rest) = tokens [symbol] ++ tokens rest := by
  rcases apart with blank | rfl
  · rw [tokens_blank_cons blank, tokens_blank_cons blank]
    rfl
  · rw [tokens_semicolon_cons, tokens_semicolon_cons]
    rfl

/-- A line is read in two parts where the second starts apart. -/
theorem tokens_append_of_startsApart (first : Text) {second : Text} (apart : StartsApart second) :
    tokens (first ++ second) = tokens first ++ tokens second := by
  cases second with
  | nil => rw [List.append_nil, tokens_nil, List.append_nil]
  | cons symbol rest => exact tokens_append_setsApart (startsApart_cons.1 apart) first rest

/-- A line is read in two parts where the first ends apart. -/
theorem tokens_append_of_endsApart {first : Text} (apart : EndsApart first) (second : Text) :
    tokens (first ++ second) = tokens first ++ tokens second := by
  rcases List.eq_nil_or_concat first with rfl | ⟨front, symbol, rfl⟩
  · rfl
  · rw [List.concat_eq_append] at apart ⊢
    have setsApart := endsApart_concat.1 apart
    rw [List.append_assoc, List.singleton_append, tokens_append_setsApart setsApart,
      tokens_setsApart_cons setsApart, tokens_append_setsApart setsApart, List.append_assoc]

end Text

/-! ## Operators as tokens -/

namespace Operator

theorem literal_ne_nil (operator : Operator) : operator.literal ≠ [] := by
  cases operator with
  | sequence => simp [literal]
  | connect connective => cases connective <;> simp [literal, Connective.literal]

theorem ofToken?_eq_none_iff {token : Text} :
    ofToken? token = none ↔ ∀ operator : Operator, token ≠ operator.literal := by
  constructor
  · intro spellsNone operator equality
    rw [equality, ofToken?_literal] at spellsNone
    cases spellsNone
  · intro different
    cases found : ofToken? token with
    | none => rfl
    | some operator => exact absurd (ofToken?_eq_some_iff.1 found) (different operator)

/-- The semicolon is the only operator that is not a word. -/
theorem isWord_literal {operator : Operator} (different : operator ≠ .sequence) :
    Text.IsWord operator.literal := by
  cases operator with
  | sequence => exact absurd rfl different
  | connect connective =>
      cases connective with
      | and => exact { nonempty := List.cons_ne_nil _ _, unbroken := by decide }
      | or => exact { nonempty := List.cons_ne_nil _ _, unbroken := by decide }

end Operator

end CommandChain

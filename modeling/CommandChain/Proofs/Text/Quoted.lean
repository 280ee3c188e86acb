import CommandChain.Text.Quoted

/-!
# Quoted words are read back

A shell splits the line on which words are printed into exactly these words, whatever they hold
(`wordsOfQuoted?_quotedWords`). The reader is followed word by word: over the quoted form of a word
it comes to the end of that form outside quotes, with the word under way
(`readQuoted_quoted_append`). Quoting adds quotes and the spaces between words and nothing else
(`eq_mark_of_mem_quotedWords`).
-/

namespace CommandChain

namespace Symbol

theorem ne_of_isSafe {symbol other : Symbol} (safe : symbol.isSafe = true)
    (otherUnsafe : other.isSafe = false) : symbol ≠ other := by
  rintro rfl
  rw [safe] at otherUnsafe
  cases otherUnsafe

end Symbol

namespace Text

/-! ## Safe symbols -/

theorem not_isWordBreak_of_isSafe {symbol : Symbol} (safe : symbol.isSafe = true) :
    isWordBreak symbol = false := by
  have notSpace : symbol ≠ .char ' ' := Symbol.ne_of_isSafe safe (by decide)
  have notTab : symbol ≠ .char '\t' := Symbol.ne_of_isSafe safe (by decide)
  have notNewline : symbol ≠ .char '\n' := Symbol.ne_of_isSafe safe (by decide)
  simp [isWordBreak, notSpace, notTab, notNewline]

/-- No safe symbol is one that a shell takes for something else. -/
theorem not_isAmong_unquotedMarks_of_isSafe {symbol : Symbol} (safe : symbol.isSafe = true) :
    isAmong unquotedMarks symbol = false := by
  cases symbol with
  | stray byte isHigh => rfl
  | char character =>
      have allUnsafe : unquotedMarks.all (fun mark => !(Symbol.char mark).isSafe) = true := by
        decide
      have notMember : character ∉ unquotedMarks := by
        intro member
        have isUnsafe := List.all_eq_true.1 allUnsafe character member
        rw [safe] at isUnsafe
        cases isUnsafe
      simpa [isAmong] using notMember

theorem readQuoted_safe_cons {symbol : Symbol} (safe : symbol.isSafe = true) (word : Option Text)
    (rest : Text) :
    readQuoted .outside word (symbol :: rest) =
      readQuoted .outside (some (word.getD [] ++ [symbol])) rest := by
  have notSingle : symbol ≠ .char '\'' := Symbol.ne_of_isSafe safe (by decide)
  have notDouble : symbol ≠ .char '"' := Symbol.ne_of_isSafe safe (by decide)
  have notEscape : symbol ≠ .char '\\' := Symbol.ne_of_isSafe safe (by decide)
  simp [readQuoted, not_isWordBreak_of_isSafe safe, notSingle, notDouble, notEscape,
    not_isAmong_unquotedMarks_of_isSafe safe]

/-- Outside quotes, safe symbols join the word under way. -/
theorem readQuoted_safe_append {bare : Text} (safe : ∀ symbol ∈ bare, symbol.isSafe = true)
    (word rest : Text) :
    readQuoted .outside (some word) (bare ++ rest) =
      readQuoted .outside (some (word ++ bare)) rest := by
  induction bare generalizing word with
  | nil => rw [List.nil_append, List.append_nil]
  | cons first later inductionHypothesis =>
      obtain ⟨firstSafe, laterSafe⟩ := List.forall_mem_cons.1 safe
      rw [List.cons_append, readQuoted_safe_cons firstSafe, Option.getD_some,
        inductionHypothesis laterSafe, ← List.append_cons]

/-! ## One word -/

/-- Between single quotes, the written form of a symbol adds that symbol. A quote inside leaves the
single quotes for double ones, and comes back into them. -/
theorem readQuoted_quoteSymbol_append (symbol : Symbol) (word rest : Text) :
    readQuoted .single (some word) (quoteSymbol symbol ++ rest) =
      readQuoted .single (some (word ++ [symbol])) rest := by
  by_cases isQuote : symbol = .char '\''
  · subst isQuote
    rfl
  · simp [quoteSymbol, isQuote, readQuoted]

theorem readQuoted_flatMap_quoteSymbol (content word rest : Text) :
    readQuoted .single (some word) (content.flatMap quoteSymbol ++ .char '\'' :: rest) =
      readQuoted .outside (some (word ++ content)) rest := by
  induction content generalizing word with
  | nil =>
      rw [List.flatMap_nil, List.nil_append, List.append_nil]
      rfl
  | cons first later inductionHypothesis =>
      rw [List.flatMap_cons, List.append_assoc, readQuoted_quoteSymbol_append,
        inductionHypothesis, ← List.append_cons]

/-- Over a quoted word, the reader comes to the end of the word. -/
theorem readQuoted_quoted_append (word rest : Text) :
    readQuoted .outside none (quoted word ++ rest) = readQuoted .outside (some word) rest := by
  by_cases isNil : word = []
  · -- Two quotes with nothing between them make an empty word.
    subst isNil
    rfl
  · by_cases allSafe : word.all Symbol.isSafe = true
    · rw [quoted_of_safe isNil allSafe]
      obtain ⟨first, later, rfl⟩ := List.exists_cons_of_ne_nil isNil
      obtain ⟨firstSafe, laterSafe⟩ := List.forall_mem_cons.1 (List.all_eq_true.1 allSafe)
      rw [List.cons_append, readQuoted_safe_cons firstSafe]
      exact readQuoted_safe_append laterSafe [first] rest
    · have inQuotes :
          quoted word ++ rest =
            .char '\'' :: (word.flatMap quoteSymbol ++ .char '\'' :: rest) := by
        simp [quoted, isNil, allSafe]
      have opened :
          readQuoted .outside none
              (.char '\'' :: (word.flatMap quoteSymbol ++ .char '\'' :: rest)) =
            readQuoted .single (some [])
              (word.flatMap quoteSymbol ++ .char '\'' :: rest) := rfl
      rw [inQuotes, opened, readQuoted_flatMap_quoteSymbol, List.nil_append]

/-! ## All words -/

/-- A shell splits printed words into these words. -/
theorem wordsOfQuoted?_quotedWords (words : List Text) :
    wordsOfQuoted? (quotedWords words) = some words := by
  unfold wordsOfQuoted? quotedWords
  induction words with
  | nil => rfl
  | cons first later inductionHypothesis =>
      cases later with
      | nil =>
          have alone := readQuoted_quoted_append first []
          rw [List.append_nil] at alone
          exact alone
      | cons second rest =>
          have space (remaining : Text) :
              readQuoted .outside (some first) (.char ' ' :: remaining) =
                (readQuoted .outside none remaining).map ([first] ++ ·) := rfl
          rw [List.map_cons, List.map_cons, joinWith_cons_cons, List.append_assoc,
            readQuoted_quoted_append, List.singleton_append, space, ← List.map_cons,
            inductionHypothesis]
          rfl

theorem quotedWords_injective : Function.Injective quotedWords := by
  intro first second same
  have firstRead := wordsOfQuoted?_quotedWords first
  rw [same, wordsOfQuoted?_quotedWords] at firstRead
  exact (Option.some.inj firstRead).symm

/-! ## Symbols of a printed line -/

theorem eq_mark_of_mem_quoteSymbol {symbol quotedOne : Symbol}
    (member : symbol ∈ quoteSymbol quotedOne) :
    symbol = quotedOne ∨ symbol = .char '\'' ∨ symbol = .char '"' := by
  unfold quoteSymbol at member
  split at member
  · have onlyQuotes :
        ∀ other ∈ ofString "'\"'\"'", other = .char '\'' ∨ other = .char '"' := by decide
    exact Or.inr (onlyQuotes symbol member)
  · exact Or.inl (List.mem_singleton.1 member)

theorem eq_mark_of_mem_quoted {word : Text} {symbol : Symbol} (member : symbol ∈ quoted word) :
    symbol ∈ word ∨ symbol = .char '\'' ∨ symbol = .char '"' := by
  unfold quoted at member
  split at member
  case isTrue isNil =>
      have onlyQuotes : ∀ other ∈ ofString "''", other = .char '\'' := by decide
      exact Or.inr (Or.inl (onlyQuotes symbol member))
  case isFalse nonempty =>
      split at member
      case isTrue safe => exact Or.inl member
      case isFalse notSafe =>
          rw [List.mem_append, List.mem_append, List.mem_singleton, List.mem_flatMap] at member
          rcases member with (isQuote | ⟨inner, inWord, inForm⟩) | isQuote
          · exact Or.inr (Or.inl isQuote)
          · rcases eq_mark_of_mem_quoteSymbol inForm with rfl | isMark
            · exact Or.inl inWord
            · exact Or.inr isMark
          · exact Or.inr (Or.inl isQuote)

/-- A printed line holds the symbols of its words, quotes, and spaces. -/
theorem eq_mark_of_mem_quotedWords {words : List Text} {symbol : Symbol}
    (member : symbol ∈ quotedWords words) :
    (∃ word ∈ words, symbol ∈ word) ∨ symbol = .char ' ' ∨ symbol = .char '\'' ∨
      symbol = .char '"' := by
  unfold quotedWords at member
  induction words with
  | nil => cases member
  | cons first later inductionHypothesis =>
      cases later with
      | nil =>
          rcases eq_mark_of_mem_quoted member with inFirst | isMark
          · exact Or.inl ⟨first, List.mem_cons_self, inFirst⟩
          · exact Or.inr (Or.inr isMark)
      | cons second rest =>
          rw [List.map_cons, List.map_cons, joinWith_cons_cons, List.mem_append, List.mem_append,
            List.mem_singleton] at member
          rcases member with (inQuoted | isSpace) | inLater
          · rcases eq_mark_of_mem_quoted inQuoted with inFirst | isMark
            · exact Or.inl ⟨first, List.mem_cons_self, inFirst⟩
            · exact Or.inr (Or.inr isMark)
          · exact Or.inr (Or.inl isSpace)
          · rcases inductionHypothesis inLater with ⟨word, inWords, inWord⟩ | isMark
            · exact Or.inl ⟨word, List.mem_cons_of_mem first inWords, inWord⟩
            · exact Or.inr isMark

end Text

end CommandChain

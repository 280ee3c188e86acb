import CommandChain.Proofs.Line.Token
import Mathlib.Data.List.Chain

/-!
# The spacing of a line

A line is a sequence of tokens with gaps of blanks around them. The gap between two words is not
empty; next to a semicolon any gap may be. `Text.IsSpacing` says so of a line, without scanning it.

Every line has a spacing (`exists_isSpacing`), and whatever the spacing, its tokens are those that are
read from the line (`tokens_of_isSpacing`). So the tokens of a line are the only list with which it
can be spaced.
-/

namespace CommandChain

namespace Text

/-- A text that is a token: a semicolon or a word. -/
def IsToken (token : Text) : Prop :=
  token = [Symbol.semicolon] ∨ IsWord token

/-- A text of blanks. -/
def IsGap (gap : Text) : Prop :=
  ∀ symbol ∈ gap, symbol.isBlank = true

/-- A token with the gap in front of it. -/
structure SpacedToken where
  gap : Text
  token : Text
  deriving DecidableEq

namespace SpacedToken

/-- The stretch of a line that the gap and the token take. -/
def text (entry : SpacedToken) : Text :=
  entry.gap ++ entry.token

/-- A token may follow another directly, unless both are words. -/
def MayPrecede (first second : SpacedToken) : Prop :=
  IsWord first.token → IsWord second.token → second.gap ≠ []

end SpacedToken

/-- A way to take a line apart into tokens, the gaps in front of them, and a last gap. -/
structure IsSpacing (line : Text) (entries : List SpacedToken) (last : Text) : Prop where
  whole : line = entries.flatMap SpacedToken.text ++ last
  token : ∀ entry ∈ entries, IsToken entry.token
  gap : ∀ entry ∈ entries, IsGap entry.gap
  lastGap : IsGap last
  apart : entries.IsChain SpacedToken.MayPrecede

/-! ## Gaps and tokens -/

theorem isGap_nil : IsGap [] := by
  simp [IsGap]

theorem not_isWord_semicolon : ¬ IsWord [Symbol.semicolon] := fun isWord =>
  isWord.not_setsApart List.mem_cons_self (Or.inr rfl)

theorem tokens_of_isToken {token : Text} (isToken : IsToken token) : tokens token = [token] := by
  rcases isToken with rfl | isWord
  · exact tokens_semicolon_cons []
  · exact tokens_word isWord

theorem isBlank_of_mem_isToken {token : Text} (isToken : IsToken token) {symbol : Symbol}
    (member : symbol ∈ token) : symbol.isBlank = false := by
  rcases isToken with rfl | isWord
  · rw [List.mem_singleton.1 member]
    decide
  · exact (isWord.unbroken symbol member).1

theorem tokens_gap_append {gap : Text} (isGap : IsGap gap) (rest : Text) :
    tokens (gap ++ rest) = tokens rest := by
  induction gap with
  | nil => rfl
  | cons symbol tail inductionHypothesis =>
      obtain ⟨blank, tailIsGap⟩ := List.forall_mem_cons.1 isGap
      rw [List.cons_append, tokens_blank_cons blank, inductionHypothesis tailIsGap]

theorem tokens_of_isGap {gap : Text} (isGap : IsGap gap) : tokens gap = [] := by
  rw [← List.append_nil gap, tokens_gap_append isGap, tokens_nil]

theorem startsApart_of_isGap {gap : Text} (isGap : IsGap gap) : StartsApart gap :=
  fun symbol isHead => Or.inl (isGap symbol (List.mem_of_mem_head? isHead))

/-- Behind a gap that is not empty no word goes on. -/
theorem startsApart_gap_append {gap : Text} (isGap : IsGap gap) (nonempty : gap ≠ [])
    (rest : Text) : StartsApart (gap ++ rest) := by
  obtain ⟨first, others, rfl⟩ := List.exists_cons_of_ne_nil nonempty
  exact startsApart_cons.2 (Or.inl (isGap first List.mem_cons_self))

/-! ## One token more -/

namespace IsSpacing

theorem nil : IsSpacing [] [] [] where
  whole := rfl
  token := by simp
  gap := by simp
  lastGap := isGap_nil
  apart := .nil

variable {line last : Text} {entry : SpacedToken} {entries : List SpacedToken}

theorem tail (spacing : IsSpacing line (entry :: entries) last) :
    IsSpacing (entries.flatMap SpacedToken.text ++ last) entries last where
  whole := rfl
  token := fun other member => spacing.token other (List.mem_cons_of_mem entry member)
  gap := fun other member => spacing.gap other (List.mem_cons_of_mem entry member)
  lastGap := spacing.lastGap
  apart := spacing.apart.tail

/-- Behind a word no other word goes on. -/
theorem startsApart_tail (spacing : IsSpacing line (entry :: entries) last)
    (isWord : IsWord entry.token) : StartsApart (entries.flatMap SpacedToken.text ++ last) := by
  cases entries with
  | nil => exact startsApart_of_isGap spacing.lastGap
  | cons next later =>
      have nextMember : next ∈ entry :: next :: later := by simp
      have mayPrecede := (List.isChain_cons_cons.1 spacing.apart).1 isWord
      rw [List.flatMap_cons, SpacedToken.text, List.append_assoc, List.append_assoc]
      by_cases noGap : next.gap = []
      · rcases spacing.token next nextMember with isSemicolon | nextIsWord
        · rw [noGap, isSemicolon]
          exact startsApart_cons.2 (Or.inr rfl)
        · exact absurd noGap (mayPrecede nextIsWord)
      · exact startsApart_gap_append (spacing.gap next nextMember) noGap _

/-- A blank in front belongs to the first gap. -/
theorem exists_blank_cons {symbol : Symbol} (blank : symbol.isBlank = true)
    (spacing : IsSpacing line entries last) :
    ∃ others behind, IsSpacing (symbol :: line) others behind := by
  cases entries with
  | nil =>
      refine ⟨[], symbol :: last, ?_⟩
      exact
        { whole := congrArg (symbol :: ·) spacing.whole
          token := by simp
          gap := by simp
          lastGap := List.forall_mem_cons.2 ⟨blank, spacing.lastGap⟩
          apart := .nil }
  | cons first later =>
      obtain ⟨firstIsToken, laterTokens⟩ := List.forall_mem_cons.1 spacing.token
      obtain ⟨firstIsGap, laterGaps⟩ := List.forall_mem_cons.1 spacing.gap
      refine ⟨⟨symbol :: first.gap, first.token⟩ :: later, last, ?_⟩
      exact
        { whole := congrArg (symbol :: ·) spacing.whole
          token := List.forall_mem_cons.2 ⟨firstIsToken, laterTokens⟩
          gap := List.forall_mem_cons.2 ⟨List.forall_mem_cons.2 ⟨blank, firstIsGap⟩, laterGaps⟩
          lastGap := spacing.lastGap
          apart := (List.isChain_cons.1 spacing.apart).2.cons (List.isChain_cons.1 spacing.apart).1 }

/-- A token can stand in front of a line if it is the semicolon, or if no word goes on there. -/
theorem token_append {token : Text} (isToken : IsToken token)
    (startsApart : IsWord token → StartsApart line) (spacing : IsSpacing line entries last) :
    IsSpacing (token ++ line) (⟨[], token⟩ :: entries) last where
  whole := by
    rw [List.flatMap_cons, List.append_assoc, ← spacing.whole]
    rfl
  token := List.forall_mem_cons.2 ⟨isToken, spacing.token⟩
  gap := List.forall_mem_cons.2 ⟨isGap_nil, spacing.gap⟩
  lastGap := spacing.lastGap
  apart := by
    refine spacing.apart.cons ?_
    intro next isNext isWord nextIsWord noGap
    cases entries with
    | nil => cases isNext
    | cons first later =>
        cases isNext
        obtain ⟨symbol, rest, content⟩ := List.exists_cons_of_ne_nil nextIsWord.nonempty
        have setsApart : symbol.SetsApart := by
          apply startsApart isWord
          rw [spacing.whole, List.flatMap_cons, SpacedToken.text, noGap, content]
          rfl
        exact nextIsWord.not_setsApart (by simp [content]) setsApart

end IsSpacing

/-! ## Every line has its tokens for a spacing -/

theorem exists_isSpacing_of_run {run rest : Text} {entries : List SpacedToken} {last : Text}
    (noBoundary : ∀ symbol ∈ run, symbol.tokenBoundary = none) (startsApart : StartsApart rest)
    (spacing : IsSpacing rest entries last) :
    ∃ others, IsSpacing (run ++ rest) others last := by
  by_cases isEmpty : run = []
  · exact ⟨entries, isEmpty ▸ spacing⟩
  · have isWord : IsWord run :=
      { nonempty := isEmpty
        unbroken := fun symbol member =>
          Symbol.tokenBoundary_eq_none_iff.1 (noBoundary symbol member) }
    exact ⟨_, spacing.token_append (Or.inr isWord) fun _ => startsApart⟩

theorem exists_isSpacing (line : Text) : ∃ entries last, IsSpacing line entries last := by
  induction line using runs_induction Symbol.tokenBoundary with
  | single run noBoundary =>
      obtain ⟨entries, spacing⟩ :=
        exists_isSpacing_of_run noBoundary startsApart_nil IsSpacing.nil
      exact ⟨entries, [], List.append_nil run ▸ spacing⟩
  | cut run first pieces rest noBoundary isBoundary inductionHypothesis =>
      obtain ⟨entries, last, spacing⟩ := inductionHypothesis
      have setsApart := Symbol.setsApart_of_tokenBoundary isBoundary
      have fromFirst : ∃ others behind, IsSpacing (first :: rest) others behind := by
        rcases setsApart with blank | rfl
        · exact spacing.exists_blank_cons blank
        · have isToken : IsToken [Symbol.semicolon] := Or.inl rfl
          exact
            ⟨_, last, spacing.token_append isToken fun isWord =>
              absurd isWord not_isWord_semicolon⟩
      obtain ⟨others, behind, restSpacing⟩ := fromFirst
      obtain ⟨all, wholeSpacing⟩ :=
        exists_isSpacing_of_run noBoundary (startsApart_cons.2 setsApart) restSpacing
      exact ⟨all, behind, wholeSpacing⟩

/-- The tokens of any spacing are those that are read from the line. -/
theorem tokens_of_isSpacing {line last : Text} {entries : List SpacedToken}
    (spacing : IsSpacing line entries last) : tokens line = entries.map SpacedToken.token := by
  induction entries generalizing line with
  | nil =>
      rw [spacing.whole]
      exact tokens_of_isGap spacing.lastGap
  | cons entry later inductionHypothesis =>
      have isToken := spacing.token entry List.mem_cons_self
      have laterRead := inductionHypothesis spacing.tail
      have cut :
          tokens (entry.token ++ (later.flatMap SpacedToken.text ++ last)) =
            tokens entry.token ++ tokens (later.flatMap SpacedToken.text ++ last) := by
        rcases isToken with isSemicolon | isWord
        · exact
            tokens_append_of_endsApart (by simp [EndsApart, Symbol.SetsApart, isSemicolon]) _
        · exact tokens_append_of_startsApart _ (spacing.startsApart_tail isWord)
      rw [spacing.whole, List.flatMap_cons, SpacedToken.text, List.append_assoc, List.append_assoc,
        tokens_gap_append (spacing.gap entry List.mem_cons_self), cut, laterRead,
        tokens_of_isToken isToken]
      rfl

/-- The symbols of the tokens are those of the line, in their order, without the blanks. -/
theorem flatten_tokens_of_isSpacing {line last : Text} {entries : List SpacedToken}
    (spacing : IsSpacing line entries last) :
    (entries.map SpacedToken.token).flatten = line.filter fun symbol => !symbol.isBlank := by
  have gapLeavesNothing {gap : Text} (isGap : IsGap gap) :
      gap.filter (fun symbol => !symbol.isBlank) = [] := by
    rw [List.filter_eq_nil_iff]
    intro symbol member
    simp [isGap symbol member]
  have tokenIsKept {token : Text} (isToken : IsToken token) :
      token.filter (fun symbol => !symbol.isBlank) = token := by
    rw [List.filter_eq_self]
    intro symbol member
    simp [isBlank_of_mem_isToken isToken member]
  induction entries generalizing line with
  | nil =>
      rw [spacing.whole]
      exact (gapLeavesNothing spacing.lastGap).symm
  | cons entry later inductionHypothesis =>
      rw [spacing.whole, List.flatMap_cons, SpacedToken.text, List.append_assoc, List.append_assoc,
        List.filter_append, List.filter_append,
        gapLeavesNothing (spacing.gap entry List.mem_cons_self),
        tokenIsKept (spacing.token entry List.mem_cons_self), ← inductionHypothesis spacing.tail]
      rfl

/-! ## Joined tokens -/

/-- Tokens joined by separators: the gap of each but the first separates it from the one before. -/
def joinSpaced : List SpacedToken → Text
  | [] => []
  | first :: later => first.token ++ later.flatMap SpacedToken.text

theorem isChain_of_gaps :
    ∀ {entries : List SpacedToken}, (∀ entry ∈ entries.tail, entry.gap ≠ []) →
      entries.IsChain SpacedToken.MayPrecede
  | [], _ => .nil
  | [only], _ => .singleton only
  | first :: second :: rest, nonempty => by
      obtain ⟨secondNonempty, restNonempty⟩ := List.forall_mem_cons.1 nonempty
      exact List.isChain_cons_cons.2 ⟨fun _ _ => secondNonempty, isChain_of_gaps restNonempty⟩

theorem tokens_joinSpaced {entries : List SpacedToken}
    (isToken : ∀ entry ∈ entries, IsToken entry.token)
    (separators : ∀ entry ∈ entries.tail, IsGap entry.gap ∧ entry.gap ≠ []) :
    tokens (joinSpaced entries) = entries.map SpacedToken.token := by
  cases entries with
  | nil => rfl
  | cons first later =>
      have laterSpacing : IsSpacing (later.flatMap SpacedToken.text ++ []) later [] :=
        { whole := rfl
          token := (List.forall_mem_cons.1 isToken).2
          gap := fun entry member => (separators entry member).1
          lastGap := isGap_nil
          apart := isChain_of_gaps fun entry member =>
            (separators entry (List.mem_of_mem_tail member)).2 }
      rw [List.append_nil] at laterSpacing
      have startsApart : StartsApart (later.flatMap SpacedToken.text) := by
        cases later with
        | nil => exact startsApart_nil
        | cons second rest =>
            obtain ⟨isGap, nonempty⟩ := separators second List.mem_cons_self
            rw [List.flatMap_cons, SpacedToken.text, List.append_assoc]
            exact startsApart_gap_append isGap nonempty _
      have spacing :=
        laterSpacing.token_append (isToken first List.mem_cons_self) fun _ => startsApart
      rw [joinSpaced, tokens_of_isSpacing spacing]
      rfl

theorem joinWith_eq_joinSpaced (separator : Text) :
    ∀ found : List Text, joinWith separator found = joinSpaced (found.map (⟨separator, ·⟩))
  | [] => rfl
  | [only] => (List.append_nil only).symm
  | first :: second :: rest => by
      rw [joinWith_cons_cons, joinWith_eq_joinSpaced separator (second :: rest), List.append_assoc]
      exact congrArg (first ++ ·) (List.append_assoc _ _ _).symm

/-- Tokens joined by single spaces are read back as they are. -/
theorem tokens_joinWith_space_of_isToken {found : List Text}
    (isToken : ∀ token ∈ found, IsToken token) : tokens (joinWith [.char ' '] found) = found := by
  have isGap : IsGap [.char ' '] := by simp [IsGap, Symbol.isBlank_space]
  rw [joinWith_eq_joinSpaced, tokens_joinSpaced]
  · simp [List.map_map, Function.comp_def]
  · simpa using isToken
  · intro entry member
    obtain ⟨token, _, rfl⟩ := List.mem_map.1 (List.mem_of_mem_tail member)
    exact ⟨isGap, by simp⟩

/-! ## Blanks -/

/-- The code points of the characters that separate words: white space, and the four information
separators. -/
def blankCodes : List Nat :=
  [0x09, 0x0A, 0x0B, 0x0C, 0x0D, 0x20, 0x85, 0xA0, 0x1680, 0x2000, 0x2001, 0x2002, 0x2003, 0x2004,
    0x2005, 0x2006, 0x2007, 0x2008, 0x2009, 0x200A, 0x2028, 0x2029, 0x202F, 0x205F, 0x3000, 0x1C,
    0x1D, 0x1E, 0x1F]

theorem mem_blankCodes_iff {code : Nat} :
    code ∈ blankCodes ↔
      ∃ range ∈ Symbol.whiteSpaceRanges ++ Symbol.separatorRanges,
        range.1 ≤ code ∧ code ≤ range.2 := by
  have listed :
      blankCodes =
        (Symbol.whiteSpaceRanges ++ Symbol.separatorRanges).flatMap fun range =>
          List.range' range.1 (range.2 + 1 - range.1) := by
    decide
  rw [listed, List.mem_flatMap]
  refine exists_congr fun range => and_congr_right fun _ => ?_
  rw [List.mem_range'_1]
  omega

theorem isBlank_iff_mem_blankCodes {symbol : Symbol} :
    symbol.isBlank = true ↔ ∃ code ∈ blankCodes, symbol.codePoint? = some code := by
  cases symbol with
  | stray byte isHigh => simp
  | char character =>
      simp only [Symbol.isBlank, Symbol.isWithin, Symbol.codePoint?_char, List.any_eq_true,
        Bool.and_eq_true, decide_eq_true_eq, Option.some.injEq, exists_eq_right',
        mem_blankCodes_iff]

/-- The tokens of a line are the one list with which it can be spaced: with gaps of blanks around
them, none of which is missing between two words. So the line loses nothing but blanks, and the lists
of tokens of lines are all lists of semicolons and words. Such a list is read back from every line
that joins it with blanks, and in particular with single spaces. -/
theorem tokens_unique_spacing :
    (∀ line found,
        tokens line = found ↔
          ∃ entries last, IsSpacing line entries last ∧ entries.map SpacedToken.token = found) ∧
      (∀ line, (tokens line).flatten = line.filter fun symbol => !symbol.isBlank) ∧
      (∀ found, (∃ line, tokens line = found) ↔ ∀ token ∈ found, IsToken token) ∧
      (∀ entries : List SpacedToken, (∀ entry ∈ entries, IsToken entry.token) →
        (∀ entry ∈ entries.tail, IsGap entry.gap ∧ entry.gap ≠ []) →
        tokens (joinSpaced entries) = entries.map SpacedToken.token) ∧
      (∀ line, tokens (joinWith [.char ' '] (tokens line)) = tokens line) ∧
      ∀ symbol : Symbol,
        symbol.isBlank = true ↔ ∃ code ∈ blankCodes, symbol.codePoint? = some code := by
  refine ⟨?_, ?_, ?_, ?_, ?_, ?_⟩
  · intro line found
    constructor
    · rintro rfl
      obtain ⟨entries, last, spacing⟩ := exists_isSpacing line
      exact ⟨entries, last, spacing, (tokens_of_isSpacing spacing).symm⟩
    · rintro ⟨entries, last, spacing, rfl⟩
      exact tokens_of_isSpacing spacing
  · intro line
    obtain ⟨entries, last, spacing⟩ := exists_isSpacing line
    rw [tokens_of_isSpacing spacing, flatten_tokens_of_isSpacing spacing]
  · intro found
    constructor
    · rintro ⟨line, rfl⟩ token member
      exact mem_tokens member
    · exact fun isToken => ⟨_, tokens_joinWith_space_of_isToken isToken⟩
  · exact fun _ isToken separators => tokens_joinSpaced isToken separators
  · exact fun _ => tokens_joinWith_space_of_isToken fun _ member => mem_tokens member
  · exact fun _ => isBlank_iff_mem_blankCodes

end Text

end CommandChain

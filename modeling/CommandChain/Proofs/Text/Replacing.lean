import CommandChain.Proofs.Text.Encoding

/-!
# Decoding with replacement characters

`Text.Decodes` says what a decoding is and knows nothing of lead bytes and their tables: an encoded
character stands for itself, and where no encoded character begins, the longest subpart with which
one could begin, or else a single byte, is one replacement character. The decoder does exactly that
(`Text.decodes_iff`). So it can be followed from one character to the next: characters that are
encoded among other bytes are decoded as if they stood alone.
-/

namespace CommandChain

namespace Utf8

/-! ## The segment in front -/

section Taken

theorem takeWithin_cons {range : UInt8 × UInt8} {byte : UInt8} (within : IsWithin range byte)
    (ranges : List (UInt8 × UInt8)) (rest : List UInt8) :
    takeWithin (range :: ranges) (byte :: rest) = byte :: takeWithin ranges rest :=
  if_pos within

variable {ranges : List (UInt8 × UInt8)} {following : List UInt8}

theorem takeWithin_append (within : List.Forall₂ IsWithin ranges following) (rest : List UInt8) :
    takeWithin ranges (following ++ rest) = following := by
  induction within with
  | nil => cases rest <;> rfl
  | cons firstWithin _ inductionHypothesis =>
      rw [List.cons_append, takeWithin_cons firstWithin, inductionHypothesis]

/-- Nothing longer could have been taken. -/
theorem isPrefix_takeWithin (within : List.Forall₂ IsWithin ranges following)
    {more rest : List UInt8} (ofFollowing : more <+: following) (ofRest : more <+: rest) :
    more <+: takeWithin ranges rest := by
  induction within generalizing more rest with
  | nil =>
      rw [List.prefix_nil.1 ofFollowing]
      exact List.nil_prefix
  | cons firstWithin _ inductionHypothesis =>
      cases more with
      | nil => exact List.nil_prefix
      | cons first later =>
          obtain ⟨rfl, laterOfFollowing⟩ := List.cons_prefix_cons.1 ofFollowing
          obtain ⟨others, rfl⟩ := ofRest
          rw [List.cons_append, takeWithin_cons firstWithin]
          have laterTaken :=
            inductionHypothesis laterOfFollowing (List.prefix_append later others)
          exact List.cons_prefix_cons.2 ⟨rfl, laterTaken⟩

/-- What was taken can be completed. -/
theorem exists_completion (nonempty : ∀ range ∈ ranges, range.1 ≤ range.2) (rest : List UInt8) :
    ∃ missing, List.Forall₂ IsWithin ranges (takeWithin ranges rest ++ missing) := by
  fun_induction takeWithin ranges rest with
  | case1 range ranges byte rest isWithin inductionHypothesis =>
      obtain ⟨missing, within⟩ := inductionHypothesis (List.forall_mem_cons.1 nonempty).2
      exact ⟨missing, .cons isWithin within⟩
  | case2 range ranges byte rest notWithin =>
      refine ⟨(range :: ranges).map Prod.fst, ?_⟩
      rw [List.nil_append, List.forall₂_map_right_iff, List.forall₂_same]
      exact fun other member => ⟨UInt8.le_refl _, nonempty other member⟩
  | case3 ranges =>
      refine ⟨ranges.map Prod.fst, ?_⟩
      rw [List.nil_append, List.forall₂_map_right_iff, List.forall₂_same]
      exact fun other member => ⟨UInt8.le_refl _, nonempty other member⟩

/-- A byte in none of the ranges ends what is taken. -/
theorem takeWithin_append_of_outside {next : UInt8}
    (outside : ∀ range ∈ ranges, ¬ IsWithin range next) (rest later : List UInt8) :
    takeWithin ranges (rest ++ next :: later) = takeWithin ranges rest := by
  fun_induction takeWithin ranges rest with
  | case1 range ranges byte rest isWithin inductionHypothesis =>
      rw [List.cons_append, takeWithin_cons isWithin,
        inductionHypothesis (List.forall_mem_cons.1 outside).2]
  | case2 range ranges byte rest notWithin =>
      rw [List.cons_append, takeWithin, if_neg notWithin]
  | case3 ranges rest noPair =>
      cases ranges with
      | nil => cases rest <;> rfl
      | cons range others =>
          cases rest with
          | nil => exact if_neg (List.forall_mem_cons.1 outside).1
          | cons byte bytes => exact absurd rfl (noPair range others byte bytes rfl)

end Taken

theorem firstSegment_of_within {lead : UInt8} {ranges : List (UInt8 × UInt8)}
    {following : List UInt8} (found : followers lead = some ranges)
    (within : List.Forall₂ IsWithin ranges following) (rest : List UInt8) :
    firstSegment lead (following ++ rest) =
      (.wellFormed (Char.ofNat (codePoint lead following)), rest) := by
  have full : following.length = ranges.length := within.length_eq.symm
  simp only [firstSegment, found, takeWithin_append within]
  rw [if_pos full, List.drop_left]

/-- An encoded character in front is read as that character. -/
theorem segments_encode_append (character : Char) (rest : List UInt8) :
    segments (String.utf8EncodeChar character ++ rest) =
      .wellFormed character :: segments rest := by
  obtain ⟨lead, ranges, following, encoded, found, within⟩ := exists_lead_of_encode character
  have sameEncoding := encode_codePoint (asks_of_followers found) within
  rw [← encoded] at sameEncoding
  have isCharacter := utf8EncodeChar_injective sameEncoding
  rw [encoded, List.cons_append, segments, firstSegment_of_within found within, isCharacter]

theorem firstSegment_append_of_lead {next : UInt8} {nextRanges : List (UInt8 × UInt8)}
    (starts : followers next = some nextRanges) (lead : UInt8) (rest later : List UInt8) :
    firstSegment lead (rest ++ next :: later) =
      ((firstSegment lead rest).1, (firstSegment lead rest).2 ++ next :: later) := by
  unfold firstSegment
  cases found : followers lead with
  | none => rfl
  | some ranges =>
      have taken : takeWithin ranges (rest ++ next :: later) = takeWithin ranges rest :=
        takeWithin_append_of_outside (fun range => not_isWithin_of_lead starts found) rest later
      have fits : (takeWithin ranges rest).length ≤ rest.length :=
        (takeWithin_isPrefix ranges rest).length_le
      dsimp only
      rw [taken, List.drop_append_of_le_length fits]
      split <;> rfl

/-- Bytes behind a lead byte are read as if nothing stood before it. -/
theorem segments_append_of_lead {next : UInt8} {nextRanges : List (UInt8 × UInt8)}
    (starts : followers next = some nextRanges) (input later : List UInt8) :
    segments (input ++ next :: later) = segments input ++ segments (next :: later) := by
  fun_induction segments input with
  | case1 => rfl
  | case2 lead rest inductionHypothesis =>
      rw [List.cons_append, segments, firstSegment_append_of_lead starts, inductionHypothesis,
        List.cons_append]

/-! ## Maximal subparts -/

/-- The bytes begin as the encoding of a character does. -/
def BeginsCharacter (bytes : List UInt8) : Prop :=
  ∃ character, bytes <+: String.utf8EncodeChar character

/-- Among the bytes `part ++ rest`, the part in front is a maximal subpart: no character is encoded
there, and the part is the longest with which one could begin, or a single byte if there is none. -/
structure IsMaximalSubpart (part rest : List UInt8) : Prop where
  unconvertible : ∀ character, ¬ String.utf8EncodeChar character <+: part ++ rest
  nonempty : part ≠ []
  begins : part.length = 1 ∨ BeginsCharacter part
  longest : ∀ longer, longer <+: part ++ rest → part.length < longer.length →
    ¬ BeginsCharacter longer

theorem IsMaximalSubpart.length_le {part rest other behind : List UInt8}
    (isPart : IsMaximalSubpart part rest) (isOther : IsMaximalSubpart other behind)
    (same : part ++ rest = other ++ behind) : part.length ≤ other.length := by
  by_contra shorter
  have isPrefix : part <+: other ++ behind := ⟨rest, same⟩
  have notBegun := isOther.longest part isPrefix (Nat.lt_of_not_le shorter)
  have otherPositive : 0 < other.length := List.length_pos_iff.2 isOther.nonempty
  rcases isPart.begins with single | begun
  · omega
  · exact notBegun begun

/-- There is one maximal subpart in a place. -/
theorem IsMaximalSubpart.unique {part rest other behind : List UInt8}
    (isPart : IsMaximalSubpart part rest) (isOther : IsMaximalSubpart other behind)
    (same : part ++ rest = other ++ behind) : part = other ∧ rest = behind := by
  have sameLength : part.length = other.length :=
    Nat.le_antisymm (isPart.length_le isOther same) (isOther.length_le isPart same.symm)
  exact List.append_inj same sameLength

theorem exists_firstSegment_of_isPrefix {character : Char} {lead : UInt8} {rest : List UInt8}
    (isPrefix : String.utf8EncodeChar character <+: lead :: rest) :
    ∃ found, (firstSegment lead rest).1 = .wellFormed found := by
  obtain ⟨first, ranges, following, encoded, found, within⟩ := exists_lead_of_encode character
  rw [encoded] at isPrefix
  obtain ⟨rfl, behind, rfl⟩ := List.cons_prefix_cons.1 isPrefix
  rw [firstSegment_of_within found within]
  exact ⟨_, rfl⟩

theorem length_le_of_beginsCharacter {lead : UInt8} {rest more : List UInt8}
    (ofRest : more <+: rest) (begins : BeginsCharacter (lead :: more)) :
    ∃ ranges, followers lead = some ranges ∧ more.length ≤ (takeWithin ranges rest).length := by
  obtain ⟨character, isPrefix⟩ := begins
  obtain ⟨first, ranges, following, encoded, found, within⟩ := exists_lead_of_encode character
  rw [encoded] at isPrefix
  obtain ⟨rfl, ofFollowing⟩ := List.cons_prefix_cons.1 isPrefix
  exact ⟨ranges, found, (isPrefix_takeWithin within ofFollowing ofRest).length_le⟩

theorem beginsCharacter_taken {lead : UInt8} {ranges : List (UInt8 × UInt8)}
    (found : followers lead = some ranges) (rest : List UInt8) :
    BeginsCharacter (lead :: takeWithin ranges rest) := by
  have nonempty : ∀ range ∈ ranges, range.1 ≤ range.2 :=
    fun range member => (bounds_of_mem_followers found member).1
  obtain ⟨missing, within⟩ := exists_completion nonempty rest
  have encoded := encode_codePoint (asks_of_followers found) within
  exact ⟨_, missing, encoded.symm⟩

/-- An ill-formed segment is a maximal subpart. -/
theorem isMaximalSubpart_of_firstSegment {lead : UInt8} {rest part : List UInt8}
    (isIllFormed : (firstSegment lead rest).1 = .illFormed part) :
    IsMaximalSubpart part (firstSegment lead rest).2 := by
  have whole := firstSegment_bytes lead rest
  rw [isIllFormed, Segment.bytes] at whole
  have isPart : part = [lead] ∧ followers lead = none ∨
      ∃ ranges, followers lead = some ranges ∧ part = lead :: takeWithin ranges rest := by
    unfold firstSegment at isIllFormed
    cases found : followers lead with
    | none =>
        rw [found] at isIllFormed
        cases isIllFormed
        exact Or.inl ⟨rfl, rfl⟩
    | some ranges =>
        rw [found] at isIllFormed
        dsimp only at isIllFormed
        split at isIllFormed
        · cases isIllFormed
        · cases isIllFormed
          exact Or.inr ⟨ranges, rfl, rfl⟩
  refine ⟨?_, ?_, ?_, ?_⟩
  · intro character isPrefix
    rw [whole] at isPrefix
    obtain ⟨found, isWellFormed⟩ := exists_firstSegment_of_isPrefix isPrefix
    rw [isIllFormed] at isWellFormed
    cases isWellFormed
  · rcases isPart with ⟨rfl, _⟩ | ⟨ranges, _, rfl⟩
    · exact List.cons_ne_nil _ _
    · exact List.cons_ne_nil _ _
  · rcases isPart with ⟨rfl, _⟩ | ⟨ranges, found, rfl⟩
    · exact Or.inl rfl
    · exact Or.inr (beginsCharacter_taken found rest)
  · intro longer isPrefix isLonger begins
    rw [whole] at isPrefix
    cases longer with
    | nil => cases isLonger
    | cons first more =>
        obtain ⟨rfl, ofRest⟩ := List.cons_prefix_cons.1 isPrefix
        obtain ⟨ranges, found, bounded⟩ := length_le_of_beginsCharacter ofRest begins
        rcases isPart with ⟨rfl, noRanges⟩ | ⟨others, otherFound, rfl⟩
        · rw [found] at noRanges
          cases noRanges
        · rw [found] at otherFound
          cases otherFound
          rw [List.length_cons, List.length_cons] at isLonger
          omega

end Utf8

/-! ## Decodings -/

namespace Text

/-- The bytes are decoded to the text. -/
inductive Decodes : List UInt8 → Text → Prop
  | nil : Decodes [] []
  | character (character : Char) {rest : List UInt8} {text : Text} (later : Decodes rest text) :
      Decodes (String.utf8EncodeChar character ++ rest) (.char character :: text)
  | damage {part rest : List UInt8} {text : Text} (isPart : Utf8.IsMaximalSubpart part rest)
      (later : Decodes rest text) : Decodes (part ++ rest) (replacement :: text)

/-- The symbol of a segment, whose bytes are not kept if they are ill-formed. -/
def symbolOfSegment : Utf8.Segment → Symbol
  | .wellFormed character => .char character
  | .illFormed _ => replacement

theorem ofBytesReplacing_eq_map (input : List UInt8) :
    ofBytesReplacing input = (Utf8.segments input).map symbolOfSegment :=
  rfl

theorem ofBytesReplacing_cons (lead : UInt8) (rest : List UInt8) :
    ofBytesReplacing (lead :: rest) =
      symbolOfSegment (Utf8.firstSegment lead rest).1 ::
        ofBytesReplacing (Utf8.firstSegment lead rest).2 := by
  rw [ofBytesReplacing_eq_map, Utf8.segments]
  rfl

theorem ofBytesReplacing_ne_nil {input : List UInt8} (nonempty : input ≠ []) :
    ofBytesReplacing input ≠ [] := by
  cases input with
  | nil => exact absurd rfl nonempty
  | cons lead rest =>
      rw [ofBytesReplacing_cons]
      exact List.cons_ne_nil _ _

theorem ofBytesReplacing_encode_append (character : Char) (rest : List UInt8) :
    ofBytesReplacing (String.utf8EncodeChar character ++ rest) =
      .char character :: ofBytesReplacing rest := by
  rw [ofBytesReplacing_eq_map, Utf8.segments_encode_append]
  rfl

/-- Encoded characters in front are decoded as these characters. -/
theorem ofBytesReplacing_encodings_append (characters : List Char) (rest : List UInt8) :
    ofBytesReplacing (characters.flatMap String.utf8EncodeChar ++ rest) =
      characters.map .char ++ ofBytesReplacing rest := by
  induction characters with
  | nil => rfl
  | cons first later inductionHypothesis =>
      rw [List.flatMap_cons, List.append_assoc, ofBytesReplacing_encode_append,
        inductionHypothesis]
      rfl

/-- Encoded characters are decoded as these characters wherever they stand. -/
theorem ofBytesReplacing_append_encodings_append (before : List UInt8) {characters : List Char}
    (nonempty : characters ≠ []) (rest : List UInt8) :
    ofBytesReplacing (before ++ (characters.flatMap String.utf8EncodeChar ++ rest)) =
      ofBytesReplacing before ++ (characters.map .char ++ ofBytesReplacing rest) := by
  rw [← ofBytesReplacing_encodings_append]
  cases characters with
  | nil => exact absurd rfl nonempty
  | cons first later =>
      obtain ⟨lead, ranges, following, encoded, found, _⟩ := Utf8.exists_lead_of_encode first
      rw [List.flatMap_cons, encoded]
      simp only [List.cons_append, ofBytesReplacing_eq_map]
      rw [Utf8.segments_append_of_lead found, List.map_append]

theorem decodes_ofBytesReplacing (input : List UInt8) : Decodes input (ofBytesReplacing input) := by
  induction input using Utf8.segments.induct with
  | case1 =>
      rw [ofBytesReplacing_nil]
      exact .nil
  | case2 lead rest inductionHypothesis =>
      rw [ofBytesReplacing_cons]
      have whole := Utf8.firstSegment_bytes lead rest
      cases first : (Utf8.firstSegment lead rest).1 with
      | wellFormed character =>
          rw [first] at whole
          rw [← whole]
          exact .character character inductionHypothesis
      | illFormed part =>
          rw [first] at whole
          rw [← whole]
          exact .damage (Utf8.isMaximalSubpart_of_firstSegment first) inductionHypothesis

theorem ofBytesReplacing_subpart_append {part rest : List UInt8}
    (isPart : Utf8.IsMaximalSubpart part rest) :
    ofBytesReplacing (part ++ rest) = replacement :: ofBytesReplacing rest := by
  cases cut : part ++ rest with
  | nil => exact absurd (List.append_eq_nil_iff.1 cut).1 isPart.nonempty
  | cons lead behind =>
      have whole := Utf8.firstSegment_bytes lead behind
      rw [ofBytesReplacing_cons]
      cases first : (Utf8.firstSegment lead behind).1 with
      | wellFormed character =>
          rw [first] at whole
          have isPrefix : String.utf8EncodeChar character <+: part ++ rest := by
            rw [cut]
            exact ⟨_, whole⟩
          exact absurd isPrefix (isPart.unconvertible character)
      | illFormed other =>
          rw [first, ← cut] at whole
          have isOther := Utf8.isMaximalSubpart_of_firstSegment first
          obtain ⟨_, sameRest⟩ := isOther.unique isPart whole
          rw [sameRest]
          rfl

/-- The decoder finds the one decoding that there is. -/
theorem decodes_iff {input : List UInt8} {text : Text} :
    Decodes input text ↔ text = ofBytesReplacing input := by
  constructor
  · intro decodes
    induction decodes with
    | nil => exact ofBytesReplacing_nil.symm
    | character character _ inductionHypothesis =>
        rw [ofBytesReplacing_encode_append, inductionHypothesis]
    | damage isPart _ inductionHypothesis =>
        rw [ofBytesReplacing_subpart_append isPart, inductionHypothesis]
  · rintro rfl
    exact decodes_ofBytesReplacing input

-- An encoded surrogate is three subparts of one byte. A sequence of four bytes that breaks off
-- after the second is one subpart, whether a lead byte or the end comes next.
example :
    ofBytesReplacing [0xED, 0xA0, 0x80, 0xF0, 0x9F, 0x41, 0xF0, 0x9F] =
      [replacement, replacement, replacement, replacement, .char 'A', replacement] := by
  cbv

end Text

end CommandChain

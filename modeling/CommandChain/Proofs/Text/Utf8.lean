import CommandChain.Text.Utf8
import Mathlib.Data.List.Forall2

/-!
# Decoding loses no byte

Bytes that are decoded and encoded again are the same bytes, whatever they are (`bytes_ofBytes`).
A well-formed sequence is the encoding of its character (`encode_codePoint`), and the bytes of an
ill-formed subpart, none of which is ASCII, stand for themselves. So every byte has its place in
the text: an undecodable byte is a stray symbol of its own there (`exists_stray_of_isUndecodable`).
-/

namespace CommandChain

namespace Utf8

/-! ## Lead bytes -/

/-- A byte in a range. -/
def IsWithin (range : UInt8 × UInt8) (byte : UInt8) : Prop :=
  range.1 ≤ byte ∧ byte ≤ range.2

/-- What the lead bytes ask for, by the length of their sequences. Only the first of the ranges may
be tighter than that of every continuation. -/
inductive Asks (lead : UInt8) : List (UInt8 × UInt8) → Prop
  | one (ascii : lead.toNat < 0x80) : Asks lead []
  | two (least : 0xC2 ≤ lead.toNat) (most : lead.toNat < 0xE0) : Asks lead [continuation]
  | three (second : UInt8 × UInt8) (least : 0xE0 ≤ lead.toNat) (most : lead.toNat < 0xF0)
      (low : 0x80 ≤ second.1.toNat) (high : second.2.toNat ≤ 0xBF)
      (notOverlong : lead.toNat = 0xE0 → 0xA0 ≤ second.1.toNat)
      (notSurrogate : lead.toNat = 0xED → second.2.toNat ≤ 0x9F) :
      Asks lead [second, continuation]
  | four (second : UInt8 × UInt8) (least : 0xF0 ≤ lead.toNat) (most : lead.toNat ≤ 0xF4)
      (low : 0x80 ≤ second.1.toNat) (high : second.2.toNat ≤ 0xBF)
      (notOverlong : lead.toNat = 0xF0 → 0x90 ≤ second.1.toNat)
      (notBeyond : lead.toNat = 0xF4 → second.2.toNat ≤ 0x8F) :
      Asks lead [second, continuation, continuation]

theorem asks_of_followers {lead : UInt8} {ranges : List (UInt8 × UInt8)}
    (found : followers lead = some ranges) : Asks lead ranges := by
  unfold followers at found
  simp only [UInt8.lt_iff_toNat_lt, ← UInt8.toNat_inj, UInt8.reduceToNat] at found
  split_ifs at found <;> cases found
  · exact .one (by omega)
  · exact .two (by omega) (by omega)
  · exact .three _ (by omega) (by omega) (by decide) (by decide) (by simp) (by omega)
  · exact .three _ (by omega) (by omega) (by decide) (by decide) (by omega) (by simp)
  · exact .three _ (by omega) (by omega) (by decide) (by decide) (by omega) (by omega)
  · exact .four _ (by omega) (by omega) (by decide) (by decide) (by simp) (by omega)
  · exact .four _ (by omega) (by omega) (by decide) (by decide) (by omega) (by omega)
  · exact .four _ (by omega) (by omega) (by decide) (by decide) (by omega) (by simp)

/-- A byte that starts no sequence is not ASCII. -/
theorem high_of_followers_none {lead : UInt8} (found : followers lead = none) : 0x80 ≤ lead := by
  by_contra isLow
  have ascii : lead < 0x80 := UInt8.not_le.1 isLow
  simp [followers, ascii] at found

/-- A byte that asks for others is not ASCII, and neither are those that it asks for. -/
theorem Asks.high {lead : UInt8} {ranges : List (UInt8 × UInt8)} (asks : Asks lead ranges)
    (nonempty : ranges ≠ []) : 0x80 ≤ lead := by
  rw [UInt8.le_iff_toNat_le]
  show 0x80 ≤ lead.toNat
  cases asks with
  | one ascii => exact absurd rfl nonempty
  | two least => omega
  | three second least => omega
  | four second least => omega

theorem Asks.high_range {lead : UInt8} {ranges : List (UInt8 × UInt8)} (asks : Asks lead ranges)
    {range : UInt8 × UInt8} (member : range ∈ ranges) : 0x80 ≤ range.1 := by
  have continues : 0x80 ≤ continuation.1 := by decide
  cases asks with
  | one ascii => cases member
  | two least most =>
      rw [List.mem_singleton.1 member]
      exact continues
  | three second least most low =>
      rcases List.mem_pair.1 member with rfl | rfl
      · exact UInt8.le_iff_toNat_le.2 low
      · exact continues
  | four second least most low =>
      rcases List.mem_cons.1 member with rfl | later
      · exact UInt8.le_iff_toNat_le.2 low
      · rcases List.mem_pair.1 later with rfl | rfl
        · exact continues
        · exact continues

/-! ## Following bytes -/

theorem takeWithin_isPrefix (ranges : List (UInt8 × UInt8)) (bytes : List UInt8) :
    takeWithin ranges bytes <+: bytes := by
  fun_induction takeWithin ranges bytes with
  | case1 range ranges byte rest isWithin inductionHypothesis =>
      exact (List.prefix_cons_inj byte).2 inductionHypothesis
  | case2 => exact List.nil_prefix
  | case3 => exact List.nil_prefix

theorem exists_range_of_mem_takeWithin {ranges : List (UInt8 × UInt8)} {bytes : List UInt8}
    {byte : UInt8} (member : byte ∈ takeWithin ranges bytes) :
    ∃ range ∈ ranges, IsWithin range byte := by
  fun_induction takeWithin ranges bytes with
  | case1 range ranges first rest isWithin inductionHypothesis =>
      rcases List.mem_cons.1 member with rfl | later
      · exact ⟨range, List.mem_cons_self, isWithin⟩
      · obtain ⟨other, otherMember, within⟩ := inductionHypothesis later
        exact ⟨other, List.mem_cons_of_mem range otherMember, within⟩
  | case2 => cases member
  | case3 => cases member

theorem forall₂_takeWithin {ranges : List (UInt8 × UInt8)} {bytes : List UInt8}
    (full : (takeWithin ranges bytes).length = ranges.length) :
    List.Forall₂ IsWithin ranges (takeWithin ranges bytes) := by
  fun_induction takeWithin ranges bytes with
  | case1 range ranges byte rest isWithin inductionHypothesis =>
      rw [List.length_cons, List.length_cons, Nat.add_right_cancel_iff] at full
      exact .cons isWithin (inductionHypothesis full)
  | case2 => cases full
  | case3 ranges =>
      rw [List.eq_nil_of_length_eq_zero full.symm]
      exact .nil

/-! ## Well-formed sequences -/

theorem toNat_ofNat_of_isValidChar {code : Nat} (isScalar : code.isValidChar) :
    (Char.ofNat code).toNat = code := by
  have valid : Char.ofNat code = Char.ofNatAux code isScalar := dif_pos isScalar
  rw [valid]
  rfl

theorem ofNat_eq_of_eq_toNat (byte : UInt8) {value : Nat} (same : value = byte.toNat) :
    UInt8.ofNat value = byte := by
  rw [same, UInt8.ofNat_toNat]

theorem toNat_bounds {range : UInt8 × UInt8} {byte : UInt8} (within : IsWithin range byte) :
    range.1.toNat ≤ byte.toNat ∧ byte.toNat ≤ range.2.toNat :=
  ⟨UInt8.le_iff_toNat_le.1 within.1, UInt8.le_iff_toNat_le.1 within.2⟩

section Sequences

variable {lead second third fourth : UInt8}

theorem leadBits_of_ascii (ascii : lead.toNat < 0x80) : leadBits lead = lead.toNat :=
  if_pos (UInt8.lt_iff_toNat_lt.2 ascii)

theorem leadBits_of_two (least : 0xC2 ≤ lead.toNat) (most : lead.toNat < 0xE0) :
    leadBits lead = lead.toNat % 32 := by
  simp only [leadBits, UInt8.lt_iff_toNat_lt, UInt8.reduceToNat]
  rw [if_neg (by omega), if_pos most]

theorem leadBits_of_three (least : 0xE0 ≤ lead.toNat) (most : lead.toNat < 0xF0) :
    leadBits lead = lead.toNat % 16 := by
  simp only [leadBits, UInt8.lt_iff_toNat_lt, UInt8.reduceToNat]
  rw [if_neg (by omega), if_neg (by omega), if_pos most]

theorem leadBits_of_four (least : 0xF0 ≤ lead.toNat) : leadBits lead = lead.toNat % 8 := by
  simp only [leadBits, UInt8.lt_iff_toNat_lt, UInt8.reduceToNat]
  rw [if_neg (by omega), if_neg (by omega), if_neg (by omega)]

theorem encode_ascii (ascii : lead.toNat < 0x80) :
    String.utf8EncodeChar (Char.ofNat lead.toNat) = [lead] := by
  have value : (Char.ofNat lead.toNat).val.toNat = lead.toNat :=
    toNat_ofNat_of_isValidChar (Or.inl (by omega))
  simp only [String.utf8EncodeChar]
  rw [value, if_pos (by omega), UInt8.ofNat_toNat]

theorem encode_two (least : 0xC2 ≤ lead.toNat) (most : lead.toNat < 0xE0)
    (secondBounds : 0x80 ≤ second.toNat ∧ second.toNat ≤ 0xBF) :
    String.utf8EncodeChar (Char.ofNat (lead.toNat % 32 * 64 + second.toNat % 64)) =
      [lead, second] := by
  generalize isCode : lead.toNat % 32 * 64 + second.toNat % 64 = code
  have value : (Char.ofNat code).val.toNat = code :=
    toNat_ofNat_of_isValidChar (Or.inl (by omega))
  simp only [String.utf8EncodeChar]
  rw [value, if_neg (by omega), if_pos (by omega),
    ofNat_eq_of_eq_toNat lead (by omega),
    ofNat_eq_of_eq_toNat second (by omega)]

theorem encode_three (least : 0xE0 ≤ lead.toNat) (most : lead.toNat < 0xF0)
    (secondBounds : 0x80 ≤ second.toNat ∧ second.toNat ≤ 0xBF)
    (thirdBounds : 0x80 ≤ third.toNat ∧ third.toNat ≤ 0xBF)
    (notOverlong : lead.toNat = 0xE0 → 0xA0 ≤ second.toNat)
    (notSurrogate : lead.toNat = 0xED → second.toNat ≤ 0x9F) :
    String.utf8EncodeChar
        (Char.ofNat ((lead.toNat % 16 * 64 + second.toNat % 64) * 64 + third.toNat % 64)) =
      [lead, second, third] := by
  generalize isCode : (lead.toNat % 16 * 64 + second.toNat % 64) * 64 + third.toNat % 64 = code
  have isScalar : code.isValidChar := by
    by_cases isBelow : code < 0xD800
    · exact Or.inl isBelow
    · exact Or.inr (by omega)
  have value : (Char.ofNat code).val.toNat = code := toNat_ofNat_of_isValidChar isScalar
  simp only [String.utf8EncodeChar]
  rw [value, if_neg (by omega), if_neg (by omega), if_pos (by omega),
    ofNat_eq_of_eq_toNat lead (by omega),
    ofNat_eq_of_eq_toNat second (by omega),
    ofNat_eq_of_eq_toNat third (by omega)]

theorem encode_four (least : 0xF0 ≤ lead.toNat) (most : lead.toNat ≤ 0xF4)
    (secondBounds : 0x80 ≤ second.toNat ∧ second.toNat ≤ 0xBF)
    (thirdBounds : 0x80 ≤ third.toNat ∧ third.toNat ≤ 0xBF)
    (fourthBounds : 0x80 ≤ fourth.toNat ∧ fourth.toNat ≤ 0xBF)
    (notOverlong : lead.toNat = 0xF0 → 0x90 ≤ second.toNat)
    (notBeyond : lead.toNat = 0xF4 → second.toNat ≤ 0x8F) :
    String.utf8EncodeChar
        (Char.ofNat
          (((lead.toNat % 8 * 64 + second.toNat % 64) * 64 + third.toNat % 64) * 64 +
            fourth.toNat % 64)) =
      [lead, second, third, fourth] := by
  generalize isCode :
    ((lead.toNat % 8 * 64 + second.toNat % 64) * 64 + third.toNat % 64) * 64 +
      fourth.toNat % 64 = code
  have value : (Char.ofNat code).val.toNat = code :=
    toNat_ofNat_of_isValidChar (Or.inr (by omega))
  simp only [String.utf8EncodeChar]
  rw [value, if_neg (by omega), if_neg (by omega), if_neg (by omega),
    ofNat_eq_of_eq_toNat lead (by omega),
    ofNat_eq_of_eq_toNat second (by omega),
    ofNat_eq_of_eq_toNat third (by omega),
    ofNat_eq_of_eq_toNat fourth (by omega)]

end Sequences

/-- The character of a well-formed sequence is encoded as that sequence. -/
theorem encode_codePoint {lead : UInt8} {ranges : List (UInt8 × UInt8)} {following : List UInt8}
    (asks : Asks lead ranges) (within : List.Forall₂ IsWithin ranges following) :
    String.utf8EncodeChar (Char.ofNat (codePoint lead following)) = lead :: following := by
  -- In the longer forms it takes the bounds of the second byte to know the length of the encoding.
  cases asks with
  | one ascii =>
      cases within
      rw [codePoint, List.foldl_nil, leadBits_of_ascii ascii]
      exact encode_ascii ascii
  | two least most =>
      obtain - | ⟨secondWithin, - | -⟩ := within
      simp only [codePoint, List.foldl_cons, List.foldl_nil, leadBits_of_two least most]
      exact encode_two least most (toNat_bounds secondWithin)
  | three range least most low high notOverlong notSurrogate =>
      obtain - | ⟨secondWithin, - | ⟨thirdWithin, - | -⟩⟩ := within
      have secondBounds := toNat_bounds secondWithin
      simp only [codePoint, List.foldl_cons, List.foldl_nil, leadBits_of_three least most]
      refine encode_three least most ⟨by omega, by omega⟩ (toNat_bounds thirdWithin) ?_ ?_
      · intro isFirst
        exact Nat.le_trans (notOverlong isFirst) secondBounds.1
      · intro isSurrogate
        exact Nat.le_trans secondBounds.2 (notSurrogate isSurrogate)
  | four range least most low high notOverlong notBeyond =>
      obtain - | ⟨secondWithin, - | ⟨thirdWithin, - | ⟨fourthWithin, - | -⟩⟩⟩ := within
      have secondBounds := toNat_bounds secondWithin
      simp only [codePoint, List.foldl_cons, List.foldl_nil, leadBits_of_four least]
      refine
        encode_four least most ⟨by omega, by omega⟩ (toNat_bounds thirdWithin)
          (toNat_bounds fourthWithin) ?_ ?_
      · intro isFirst
        exact Nat.le_trans (notOverlong isFirst) secondBounds.1
      · intro isLast
        exact Nat.le_trans secondBounds.2 (notBeyond isLast)

/-! ## Segments -/

/-- What is decoded first and what is left make up the bytes. -/
theorem firstSegment_bytes (lead : UInt8) (rest : List UInt8) :
    (firstSegment lead rest).1.bytes ++ (firstSegment lead rest).2 = lead :: rest := by
  unfold firstSegment
  cases found : followers lead with
  | none => rfl
  | some ranges =>
      have resumed :
          takeWithin ranges rest ++ rest.drop (takeWithin ranges rest).length = rest :=
        List.prefix_iff_eq_append.1 (takeWithin_isPrefix ranges rest)
      dsimp only
      split
      case isTrue full =>
          have encoded := encode_codePoint (asks_of_followers found) (forall₂_takeWithin full)
          show String.utf8EncodeChar _ ++ _ = _
          rw [encoded, List.cons_append, resumed]
      case isFalse =>
          show lead :: takeWithin ranges rest ++ _ = _
          rw [List.cons_append, resumed]

theorem high_of_firstSegment {lead : UInt8} {rest bytes : List UInt8}
    (isIllFormed : (firstSegment lead rest).1 = .illFormed bytes) : ∀ byte ∈ bytes, 0x80 ≤ byte := by
  unfold firstSegment at isIllFormed
  cases found : followers lead with
  | none =>
      rw [found] at isIllFormed
      cases isIllFormed
      exact List.forall_mem_singleton.2 (high_of_followers_none found)
  | some ranges =>
      have asks := asks_of_followers found
      rw [found] at isIllFormed
      dsimp only at isIllFormed
      split at isIllFormed
      case isTrue => cases isIllFormed
      case isFalse missing =>
          cases isIllFormed
          have nonempty : ranges ≠ [] := by
            rintro rfl
            exact missing (by simp [takeWithin])
          refine List.forall_mem_cons.2 ⟨asks.high nonempty, ?_⟩
          intro byte member
          obtain ⟨range, inRanges, within⟩ := exists_range_of_mem_takeWithin member
          exact UInt8.le_trans (asks.high_range inRanges) within.1

theorem flatMap_bytes_segments (input : List UInt8) :
    (segments input).flatMap Segment.bytes = input := by
  fun_induction segments input with
  | case1 => rfl
  | case2 lead rest inductionHypothesis =>
      rw [List.flatMap_cons, inductionHypothesis, firstSegment_bytes]

theorem high_of_mem_segments {input bytes : List UInt8}
    (member : .illFormed bytes ∈ segments input) : ∀ byte ∈ bytes, 0x80 ≤ byte := by
  fun_induction segments input with
  | case1 => cases member
  | case2 lead rest inductionHypothesis =>
      rcases List.mem_cons.1 member with isFirst | later
      · exact high_of_firstSegment isFirst.symm
      · exact inductionHypothesis later

/-- In the bytes `before ++ byte :: after`, the byte in the middle belongs to no character: it lies
in an ill-formed subpart. -/
def IsUndecodable (before : List UInt8) (byte : UInt8) (after : List UInt8) : Prop :=
  ∃ earlier front back later,
    segments (before ++ byte :: after) = earlier ++ .illFormed (front ++ byte :: back) :: later ∧
      earlier.flatMap Segment.bytes ++ front = before ∧
      back ++ later.flatMap Segment.bytes = after

end Utf8

/-! ## Decoded text -/

theorem Symbol.ofByte_of_high {byte : UInt8} (isHigh : 0x80 ≤ byte) :
    Symbol.ofByte byte = .stray byte isHigh :=
  dif_pos isHigh

theorem Symbol.bytes_ofByte_of_high {byte : UInt8} (isHigh : 0x80 ≤ byte) :
    (Symbol.ofByte byte).bytes = [byte] := by
  rw [Symbol.ofByte_of_high isHigh]
  rfl

namespace Text

theorem bytes_map_ofByte {bytes : List UInt8} (high : ∀ byte ∈ bytes, 0x80 ≤ byte) :
    Text.bytes (bytes.map Symbol.ofByte) = bytes := by
  induction bytes with
  | nil => rfl
  | cons first rest inductionHypothesis =>
      obtain ⟨firstHigh, restHigh⟩ := List.forall_mem_cons.1 high
      rw [List.map_cons, Text.bytes, List.flatMap_cons, Symbol.bytes_ofByte_of_high firstHigh]
      exact congrArg (first :: ·) (inductionHypothesis restHigh)

/-- The symbols of a segment. -/
def ofSegment : Utf8.Segment → Text
  | .wellFormed character => [.char character]
  | .illFormed bytes => bytes.map Symbol.ofByte

theorem ofBytes_eq_flatMap (input : List UInt8) :
    ofBytes input = (Utf8.segments input).flatMap ofSegment :=
  rfl

theorem bytes_flatMap_ofSegment {found : List Utf8.Segment}
    (high : ∀ bytes, .illFormed bytes ∈ found → ∀ byte ∈ bytes, 0x80 ≤ byte) :
    Text.bytes (found.flatMap ofSegment) = found.flatMap Utf8.Segment.bytes := by
  induction found with
  | nil => rfl
  | cons first rest inductionHypothesis =>
      have restBytes := inductionHypothesis fun bytes member =>
        high bytes (List.mem_cons_of_mem first member)
      rw [List.flatMap_cons, bytes_append, restBytes, List.flatMap_cons]
      cases first with
      | wellFormed character =>
          show String.utf8EncodeChar character ++ [] ++ _ = String.utf8EncodeChar character ++ _
          rw [List.append_nil]
      | illFormed bytes =>
          exact congrArg (· ++ _) (bytes_map_ofByte (high bytes List.mem_cons_self))

theorem bytes_ofBytes (input : List UInt8) : Text.bytes (ofBytes input) = input := by
  rw [ofBytes_eq_flatMap, bytes_flatMap_ofSegment fun _ => Utf8.high_of_mem_segments,
    Utf8.flatMap_bytes_segments]

/-- An undecodable byte is a stray symbol in the place that the byte has among the bytes. -/
theorem exists_stray_of_isUndecodable {before after : List UInt8} {byte : UInt8}
    (undecodable : Utf8.IsUndecodable before byte after) :
    ∃ isHigh earlier later,
      ofBytes (before ++ byte :: after) = earlier ++ .stray byte isHigh :: later ∧
        Text.bytes earlier = before ∧ Text.bytes later = after := by
  obtain ⟨earlier, front, back, later, cut, rfl, rfl⟩ := undecodable
  have high : ∀ bytes, .illFormed bytes ∈ earlier ++ .illFormed (front ++ byte :: back) :: later →
      ∀ other ∈ bytes, 0x80 ≤ other := by
    intro bytes member
    rw [← cut] at member
    exact Utf8.high_of_mem_segments member
  have subpartHigh := high (front ++ byte :: back) (by simp)
  obtain ⟨frontHigh, byteHigh, backHigh⟩ :
      (∀ other ∈ front, 0x80 ≤ other) ∧ 0x80 ≤ byte ∧ ∀ other ∈ back, 0x80 ≤ other := by
    rw [List.forall_mem_append, List.forall_mem_cons] at subpartHigh
    exact subpartHigh
  refine
    ⟨byteHigh, earlier.flatMap ofSegment ++ front.map Symbol.ofByte,
      back.map Symbol.ofByte ++ later.flatMap ofSegment, ?_, ?_, ?_⟩
  · rw [ofBytes_eq_flatMap, cut]
    simp [ofSegment, Symbol.ofByte_of_high byteHigh]
  · rw [bytes_append, bytes_map_ofByte frontHigh, bytes_flatMap_ofSegment]
    exact fun bytes member => high bytes (List.mem_append_left _ member)
  · rw [bytes_append, bytes_map_ofByte backHigh, bytes_flatMap_ofSegment]
    exact fun bytes member => high bytes (by simp [member])

end Text

end CommandChain

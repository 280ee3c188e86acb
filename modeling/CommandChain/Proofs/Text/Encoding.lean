import CommandChain.Proofs.Text.Utf8

/-!
# The bytes of a character

Every character is encoded as a lead byte and bytes for which that lead byte asks
(`exists_lead_of_encode`), so the tables of the decoder leave out no character. A lead byte lies in
none of their ranges and cannot be taken for a byte that follows.
-/

namespace CommandChain

namespace Utf8

theorem isWithin_of_bounds {range : UInt8 × UInt8} {byte : UInt8}
    (least : range.1.toNat ≤ byte.toNat) (most : byte.toNat ≤ range.2.toNat) :
    IsWithin range byte :=
  ⟨UInt8.le_iff_toNat_le.2 least, UInt8.le_iff_toNat_le.2 most⟩

section Leads

variable {lead : UInt8}

theorem followers_of_ascii (ascii : lead.toNat < 0x80) : followers lead = some [] :=
  if_pos (UInt8.lt_iff_toNat_lt.2 ascii)

theorem followers_of_two (least : 0xC2 ≤ lead.toNat) (most : lead.toNat < 0xE0) :
    followers lead = some [continuation] := by
  simp only [followers, UInt8.lt_iff_toNat_lt, UInt8.reduceToNat]
  rw [if_neg (by omega), if_neg (by omega), if_pos most]

theorem followers_of_three (least : 0xE0 ≤ lead.toNat) (most : lead.toNat < 0xF0) :
    ∃ second, followers lead = some [second, continuation] ∧
      ∀ byte : UInt8, 0x80 ≤ byte.toNat → byte.toNat ≤ 0xBF →
        (lead.toNat = 0xE0 → 0xA0 ≤ byte.toNat) → (lead.toNat = 0xED → byte.toNat ≤ 0x9F) →
        IsWithin second byte := by
  simp only [followers, UInt8.lt_iff_toNat_lt, ← UInt8.toNat_inj, UInt8.reduceToNat]
  rw [if_neg (by omega), if_neg (by omega), if_neg (by omega)]
  by_cases isFirst : lead.toNat = 0xE0
  · rw [if_pos isFirst]
    exact ⟨_, rfl, fun byte _ high notOverlong _ => isWithin_of_bounds (notOverlong isFirst) high⟩
  · by_cases isSurrogate : lead.toNat = 0xED
    · rw [if_neg isFirst, if_pos isSurrogate]
      exact
        ⟨_, rfl, fun byte low _ _ notSurrogate =>
          isWithin_of_bounds low (notSurrogate isSurrogate)⟩
    · rw [if_neg isFirst, if_neg isSurrogate, if_pos most]
      exact ⟨_, rfl, fun byte low high _ _ => isWithin_of_bounds low high⟩

theorem followers_of_four (least : 0xF0 ≤ lead.toNat) (most : lead.toNat ≤ 0xF4) :
    ∃ second, followers lead = some [second, continuation, continuation] ∧
      ∀ byte : UInt8, 0x80 ≤ byte.toNat → byte.toNat ≤ 0xBF →
        (lead.toNat = 0xF0 → 0x90 ≤ byte.toNat) → (lead.toNat = 0xF4 → byte.toNat ≤ 0x8F) →
        IsWithin second byte := by
  simp only [followers, UInt8.lt_iff_toNat_lt, ← UInt8.toNat_inj, UInt8.reduceToNat]
  rw [if_neg (by omega), if_neg (by omega), if_neg (by omega), if_neg (by omega),
    if_neg (by omega), if_neg (by omega)]
  by_cases isFirst : lead.toNat = 0xF0
  · rw [if_pos isFirst]
    exact ⟨_, rfl, fun byte _ high notOverlong _ => isWithin_of_bounds (notOverlong isFirst) high⟩
  · by_cases isBelow : lead.toNat < 0xF4
    · rw [if_neg isFirst, if_pos isBelow]
      exact ⟨_, rfl, fun byte low high _ _ => isWithin_of_bounds low high⟩
    · have isLast : lead.toNat = 0xF4 := by omega
      rw [if_neg isFirst, if_neg isBelow, if_pos isLast]
      exact
        ⟨_, rfl, fun byte low _ _ notBeyond => isWithin_of_bounds low (notBeyond isLast)⟩

variable {ranges : List (UInt8 × UInt8)} {range : UInt8 × UInt8}

/-- A range of the tables is not empty, and it holds continuations only. -/
theorem bounds_of_mem_followers (found : followers lead = some ranges) (member : range ∈ ranges) :
    range.1 ≤ range.2 ∧ 0x80 ≤ range.1 ∧ range.2 ≤ 0xBF := by
  have allHold :
      ranges.all (fun other =>
        decide (other.1 ≤ other.2 ∧ 0x80 ≤ other.1 ∧ other.2 ≤ 0xBF)) = true := by
    unfold followers at found
    split_ifs at found <;> cases found <;> rfl
  exact of_decide_eq_true (List.all_eq_true.1 allHold range member)

/-- A lead byte continues nothing. -/
theorem not_isWithin_of_lead {next : UInt8} {nextRanges : List (UInt8 × UInt8)}
    (starts : followers next = some nextRanges) (found : followers lead = some ranges)
    (member : range ∈ ranges) : ¬ IsWithin range next := by
  intro within
  obtain ⟨_, low, high⟩ := bounds_of_mem_followers found member
  have least : 0x80 ≤ next.toNat := UInt8.le_iff_toNat_le.1 (UInt8.le_trans low within.1)
  have most : next.toNat ≤ 0xBF := UInt8.le_iff_toNat_le.1 (UInt8.le_trans within.2 high)
  have outside : next.toNat < 0x80 ∨ 0xC2 ≤ next.toNat := by
    cases asks_of_followers starts with
    | one ascii => exact Or.inl ascii
    | two => omega
    | three => omega
    | four => omega
  omega

end Leads

theorem isWithin_continuation {value : Nat} (small : value < 64) :
    IsWithin continuation (UInt8.ofNat (value + 128)) := by
  have reduced : (UInt8.ofNat (value + 128)).toNat = value + 128 :=
    UInt8.toNat_ofNat_of_lt' (show _ < 256 by omega)
  apply isWithin_of_bounds
  · rw [reduced]
    exact Nat.le_add_left 128 value
  · rw [reduced]
    exact Nat.add_le_add_right (Nat.le_of_lt_succ small) 128

/-- A character is encoded as a lead byte and bytes for which it asks. -/
theorem exists_lead_of_encode (character : Char) :
    ∃ lead ranges following,
      String.utf8EncodeChar character = lead :: following ∧
        followers lead = some ranges ∧ List.Forall₂ IsWithin ranges following := by
  have isScalar : character.val.toNat.isValidChar := character.valid
  unfold String.utf8EncodeChar
  generalize character.val.toNat = code at isScalar ⊢
  have below : code < 0x110000 := by
    rcases isScalar with isLow | ⟨_, isHigh⟩
    · omega
    · exact isHigh
  dsimp only
  split_ifs with isOne isTwo isThree
  · have value : (UInt8.ofNat code).toNat = code := UInt8.toNat_ofNat_of_lt' (show _ < 256 by omega)
    exact ⟨_, [], [], rfl, followers_of_ascii (by omega), .nil⟩
  · have leadValue : (UInt8.ofNat (code / 64 % 32 + 192)).toNat = code / 64 % 32 + 192 :=
      UInt8.toNat_ofNat_of_lt' (show _ < 256 by omega)
    have secondWithin := isWithin_continuation (Nat.mod_lt code (by decide : 0 < 64))
    exact
      ⟨_, _, _, rfl, followers_of_two (by omega) (by omega), .cons secondWithin .nil⟩
  · have leadValue : (UInt8.ofNat (code / 4096 % 16 + 224)).toNat = code / 4096 % 16 + 224 :=
      UInt8.toNat_ofNat_of_lt' (show _ < 256 by omega)
    have secondValue : (UInt8.ofNat (code / 64 % 64 + 128)).toNat = code / 64 % 64 + 128 :=
      UInt8.toNat_ofNat_of_lt' (show _ < 256 by omega)
    have thirdWithin := isWithin_continuation (Nat.mod_lt code (by decide : 0 < 64))
    obtain ⟨second, found, allows⟩ :=
      @followers_of_three (UInt8.ofNat (code / 4096 % 16 + 224)) (by omega) (by omega)
    have notSurrogate : ¬(0xD800 ≤ code ∧ code ≤ 0xDFFF) := by
      rcases isScalar with isLow | ⟨isHigh, _⟩ <;> omega
    have secondWithin := allows (UInt8.ofNat (code / 64 % 64 + 128)) (by omega) (by omega)
      (by omega) (by omega)
    exact ⟨_, _, _, rfl, found, .cons secondWithin (.cons thirdWithin .nil)⟩
  · have leadValue : (UInt8.ofNat (code / 262144 % 8 + 240)).toNat = code / 262144 % 8 + 240 :=
      UInt8.toNat_ofNat_of_lt' (show _ < 256 by omega)
    have secondValue : (UInt8.ofNat (code / 4096 % 64 + 128)).toNat = code / 4096 % 64 + 128 :=
      UInt8.toNat_ofNat_of_lt' (show _ < 256 by omega)
    have thirdWithin := isWithin_continuation (Nat.mod_lt (code / 64) (by decide : 0 < 64))
    have fourthWithin := isWithin_continuation (Nat.mod_lt code (by decide : 0 < 64))
    obtain ⟨second, found, allows⟩ :=
      @followers_of_four (UInt8.ofNat (code / 262144 % 8 + 240)) (by omega) (by omega)
    have secondWithin := allows (UInt8.ofNat (code / 4096 % 64 + 128)) (by omega) (by omega)
      (by omega) (by omega)
    exact
      ⟨_, _, _, rfl, found, .cons secondWithin (.cons thirdWithin (.cons fourthWithin .nil))⟩

theorem utf8EncodeChar_injective : Function.Injective String.utf8EncodeChar := by
  intro first second same
  have firstDecoded := ByteArray.utf8DecodeChar?_utf8EncodeChar_append (b := ByteArray.empty)
    (c := first)
  rw [same, ByteArray.utf8DecodeChar?_utf8EncodeChar_append] at firstDecoded
  exact (Option.some.inj firstDecoded).symm

end Utf8

end CommandChain

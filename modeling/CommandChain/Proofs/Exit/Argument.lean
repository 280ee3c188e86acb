import CommandChain.Builtin
import CommandChain.Proofs.Text.Numeral

/-!
# The argument of exit

One argument of `exit` is read by the grammar of numerals and nothing else: the texts of numerals
end the shell with their value, every other text is complained about.
-/

namespace CommandChain

theorem exitReply_eq_exited_iff {argument : Text} {code : Int} :
    exitReply [argument] = { ending := .exited code } ↔ argument.toInteger? = some code := by
  cases found : argument.toInteger? with
  | none => simp [exitReply, found]
  | some number => simp [exitReply, found]

theorem exitReply_eq_refused_iff {argument : Text} :
    exitReply [argument] =
        { diagnostics :=
            Text.ofString "exit: " ++ argument ++ Text.ofString ": numeric argument required" ++
              [Text.newline]
          ending := .exited 2 } ↔
      argument.toInteger? = none := by
  cases found : argument.toInteger? with
  | none => simp [exitReply, found]
  | some number => simp [exitReply, found]

/-- With one argument `exit` ends the shell without a word, with the integer that the argument
writes as a numeral; any other argument is complained about, with code two. In particular an integer
is read back from each of its numerals: with zeros in front, with underscores between the digits,
with digits of any scripts, and as it is displayed. -/
theorem exitReply_reads_numerals :
    (∀ (argument : Text) (code : Int),
      exitReply [argument] = { ending := .exited code } ↔
        ∃ numeral : Numeral, numeral.text = argument ∧ numeral.value = code) ∧
    (∀ argument : Text,
      exitReply [argument] =
          { diagnostics :=
              Text.ofString "exit: " ++ argument ++ Text.ofString ": numeric argument required" ++
                [Text.newline]
            ending := .exited 2 } ↔
        ∀ numeral : Numeral, numeral.text ≠ argument) ∧
    (∀ (number : Int) (zeros : Nat) (numeral : Numeral),
      numeral.digits = List.replicate zeros 0 ++ (Nat.digits 10 number.natAbs).reverse →
      (numeral.sign = .minus ↔ number < 0) →
        exitReply [numeral.text] = { ending := .exited number }) ∧
    (∀ number : Int, number.natAbs < 10 ^ 4300 →
      exitReply [Text.ofInt number] = { ending := .exited number }) := by
  have exits : ∀ {argument : Text} {code : Int},
      exitReply [argument] = { ending := .exited code } ↔
        ∃ numeral : Numeral, numeral.text = argument ∧ numeral.value = code :=
    exitReply_eq_exited_iff.trans Text.toInteger?_eq_some_iff
  refine ⟨fun _ _ => exits, ?refused, ?everyNumeral, ?displayed⟩
  case refused =>
    intro argument
    rw [exitReply_eq_refused_iff, Option.eq_none_iff_forall_ne_some]
    constructor
    · intro unread numeral isText
      exact unread numeral.value (Text.toInteger?_eq_some_iff.2 ⟨numeral, isText, rfl⟩)
    · intro noNumeral value isRead
      obtain ⟨numeral, isText, -⟩ := Text.toInteger?_eq_some_iff.1 isRead
      exact noNumeral numeral isText
  case everyNumeral =>
    intro number zeros numeral sameDigits sameSign
    have isValue : numeral.value = number := by
      rw [SignedNumeral.value, UnsignedNumeral.value_of_digits sameDigits,
        Sign.apply_natAbs sameSign]
    exact exits.2 ⟨numeral, rfl, isValue⟩
  case displayed =>
    intro number isSmall
    exact exits.2 (Text.exists_numeral_ofInt isSmall)

/-- A numeral of minus forty-two: a zero in front, then an underscore and an Arabic digit. -/
def mixedNumeral : Numeral where
  front := [.char '\t']
  sign := .minus
  first := ⟨0x30, 0, by decide, by decide⟩
  later := [⟨⟨0x660, 4, by decide, by decide⟩, true⟩, ⟨⟨0x30, 2, by decide, by decide⟩, false⟩]
  back := [.char ' ']
  isShort := by decide
  frontIsWhite := by decide
  backIsWhite := by decide

theorem exitReply_reads_numerals_of_mixed :
    exitReply [Text.ofString "\t-0_\u06642 "] = { ending := .exited (-42) } ∧
      exitReply [Text.ofInt (-42)] = { ending := .exited (-42) } := by
  obtain ⟨-, -, everyNumeral, displayed⟩ := exitReply_reads_numerals
  have isText : Text.ofString "\t-0_\u06642 " = mixedNumeral.text := by decide
  have isSmall : (-42 : Int).natAbs < 10 ^ 4300 :=
    calc (-42 : Int).natAbs
      _ < 10 ^ 2 := by decide
      _ ≤ 10 ^ 4300 := pow_le_pow_right₀ (by decide) (by decide)
  constructor
  · rw [isText]
    exact everyNumeral (-42) 1 mixedNumeral (by simp [UnsignedNumeral.digits, mixedNumeral])
      (by decide)
  · exact displayed (-42) isSmall

end CommandChain

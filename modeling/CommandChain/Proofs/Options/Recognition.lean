import CommandChain.Options.Argument
import Mathlib.Data.List.Infix
import Mathlib.Data.List.TakeWhile

/-!
# How names of options are recognised

An option has several names: its spellings, and whatever a long spelling begins with, as long as at
least one letter stands behind the dashes. An argument that is such a name mentions the option, also
with an equals sign and a value behind it (`ofText_spelled`). To the spelling of a short option a
value may be attached as it is (`ofText_attached`).

What is needed of the names themselves is read off their table. All else holds of whatever text
stands behind them.
-/

namespace CommandChain

namespace CommandOption

/-- The names of an option: its spellings, and the beginnings of the long ones. -/
def allNames (option : CommandOption) : List Text :=
  option.names ++ option.names.flatMap fun full => full.inits.filter fun start => 3 ≤ start.length

theorem mem_allNames_of_mem {option : CommandOption} {name : Text} (isName : name ∈ option.names) :
    name ∈ option.allNames :=
  List.mem_append_left _ isName

theorem mem_allNames_of_isPrefix {option : CommandOption} {name full : Text}
    (isName : full ∈ option.names) (begins : name <+: full) (hasLetter : 3 ≤ name.length) :
    name ∈ option.allNames := by
  refine List.mem_append_right _ (List.mem_flatMap.2 ⟨full, isName, List.mem_filter.2 ⟨?_, ?_⟩⟩)
  · exact (List.mem_inits name full).2 begins
  · exact decide_eq_true hasLetter

theorem mem_names_of_ofName? {option : CommandOption} {name : Text}
    (found : ofName? name = some option) : name ∈ option.names := by
  obtain ⟨⟨spelling, owner⟩, isFound, rfl⟩ := Option.map_eq_some_iff.1 found
  have sameName := List.find?_some isFound
  simp only [beq_iff_eq] at sameName
  obtain ⟨owner, -, isSpelling⟩ := List.mem_flatMap.1 (List.mem_of_find?_eq_some isFound)
  obtain ⟨listed, isName, same⟩ := List.mem_map.1 isSpelling
  cases same
  exact sameName ▸ isName

/-! ## The table of names -/

section Table

variable {option : CommandOption} {name : Text}

theorem dashed_of_mem_allNames (isName : name ∈ option.allNames) :
    name.head? = some Argument.dash ∧ 2 ≤ name.length := by
  revert isName name
  cases option <;> decide

theorem equalsSign_not_mem (isName : name ∈ option.allNames) : Argument.equalsSign ∉ name := by
  revert isName name
  cases option <;> decide

theorem length_of_isShortName (isName : name ∈ option.names)
    (isShort : Argument.isShortName name = true) : name.length = 2 := by
  revert isShort isName name
  cases option <;> decide

theorem filter_spellings_beq (isName : name ∈ option.names) :
    (spellings.filter fun spelling => spelling.1 == name) = [(name, option)] := by
  revert isName name
  cases option <;> decide

/-- A name that is cut short begins a single spelling. -/
theorem ofName?_or_filter_spellings (isName : name ∈ option.allNames) :
    ofName? name = some option ∨
      ofName? name = none ∧ Argument.isShortName name = false ∧
        (spellings.filter fun spelling => name.isPrefixOf spelling.1).map Prod.snd = [option] := by
  revert isName name
  cases option <;> decide

end Table

end CommandOption

namespace Argument

open CommandOption

/-! ## Behind an equals sign -/

/-- A name with the value that is attached to it by an equals sign, if any. -/
def spelled (name : Text) : (attached : Option Text) → Text
  | none => name
  | some value => name ++ equalsSign :: value

section Spelled

variable {name : Text}

theorem bne_equalsSign_of_mem (noEquals : equalsSign ∉ name) :
    ∀ symbol ∈ name, (symbol != equalsSign) = true := by
  intro symbol member
  exact bne_iff_ne.2 fun same => noEquals (same ▸ member)

theorem nameOf_spelled (noEquals : equalsSign ∉ name) (attached : Option Text) :
    nameOf (spelled name attached) = name := by
  have kept := bne_equalsSign_of_mem noEquals
  cases attached with
  | none => exact List.takeWhile_eq_self_iff.2 kept
  | some value => simp [nameOf, spelled, List.takeWhile_append_of_pos kept]

theorem attachedOf_spelled (noEquals : equalsSign ∉ name) (attached : Option Text) :
    attachedOf (spelled name attached) = attached := by
  have dropped := bne_equalsSign_of_mem noEquals
  cases attached with
  | none => rw [attachedOf, spelled, List.dropWhile_eq_nil_iff.2 dropped]
  | some value => simp [attachedOf, spelled, List.dropWhile_append_of_pos dropped]

theorem isShortName_append (isLong : 2 ≤ name.length) (rest : Text) :
    isShortName (name ++ rest) = isShortName name := by
  match name, isLong with
  | _ :: _ :: _, _ => rfl

theorem isShortName_spelled (isLong : 2 ≤ name.length) (attached : Option Text) :
    isShortName (spelled name attached) = isShortName name := by
  cases attached with
  | none => rfl
  | some value => exact isShortName_append isLong _

theorem exactMention?_spelled (noEquals : equalsSign ∉ name) (isLong : 2 ≤ name.length)
    (attached : Option Text) :
    exactMention? (spelled name attached) =
      (ofName? name).map fun option => ⟨option, isShortName name, attached⟩ := by
  unfold exactMention?
  rw [nameOf_spelled noEquals, attachedOf_spelled noEquals, isShortName_spelled isLong]
  cases attached with
  | none => cases found : ofName? name <;> simp [spelled, found]
  | some value =>
      have notFound : ofName? (spelled name (some value)) = none := by
        rw [Option.eq_none_iff_forall_ne_some]
        intro option found
        have isName := mem_allNames_of_mem (mem_names_of_ofName? found)
        exact equalsSign_not_mem isName (by simp [spelled])
      rw [notFound]
      cases ofName? name <;> rfl

theorem ofText_of_dashed {text : Text} (isDashed : text.head? = some dash)
    (isLong : 2 ≤ text.length) : ofText text = ofDashed text := by
  match text, isLong with
  | first :: _ :: _, _ => exact if_pos (Option.some.inj isDashed)

theorem ofText_of_head?_ne {text : Text} (isPlain : text.head? ≠ some dash) :
    ofText text = .ok (.plain text) := by
  match text with
  | [] => rfl
  | [_] => rfl
  | first :: _ :: _ => exact if_neg fun same => isPlain (congrArg some same)

/-- A name, with or without a value behind an equals sign, mentions its option. -/
theorem ofText_spelled {option : CommandOption} (isName : name ∈ option.allNames)
    (attached : Option Text) :
    ofText (spelled name attached) = .ok (.mention ⟨option, isShortName name, attached⟩) := by
  obtain ⟨isDashed, isLong⟩ := dashed_of_mem_allNames isName
  have noEquals := equalsSign_not_mem isName
  have spelledDashed : (spelled name attached).head? = some dash := by
    cases attached with
    | none => exact isDashed
    | some value => simp [spelled, isDashed]
  have spelledLong : 2 ≤ (spelled name attached).length := by
    cases attached with
    | none => exact isLong
    | some value =>
        simp only [spelled, List.length_append]
        omega
  rw [ofText_of_dashed spelledDashed spelledLong, ofDashed,
    exactMention?_spelled noEquals isLong attached]
  rcases ofName?_or_filter_spellings isName with found | ⟨notFound, notShort, isOnly⟩
  · rw [found]
    rfl
  · obtain ⟨⟨full, owner⟩, isFiltered, rfl⟩ := List.map_eq_singleton_iff.1 isOnly
    have isMeant : mentions (spelled name attached) = [(full, ⟨owner, false, attached⟩)] := by
      rw [mentions, isShortName_spelled isLong, notShort, longMentions, nameOf_spelled noEquals,
        attachedOf_spelled noEquals, isFiltered]
      rfl
    rw [notFound, isMeant, notShort]
    rfl

end Spelled

/-! ## Right behind the letter -/

section Attached

variable {option : CommandOption} {name value : Text}

theorem ofName?_eq_none_of_isShortName {text : Text} (isShort : isShortName text = true)
    (isLonger : 3 ≤ text.length) : ofName? text = none := by
  rw [Option.eq_none_iff_forall_ne_some]
  intro owner found
  have textLength := length_of_isShortName (mem_names_of_ofName? found) isShort
  omega

theorem exactMention?_attached (nameNoEquals : equalsSign ∉ name) (nameLength : name.length = 2)
    (isShort : isShortName name = true) (nonempty : value ≠ [])
    (noEquals : value.head? ≠ some equalsSign) : exactMention? (name ++ value) = none := by
  obtain ⟨first, rest, rfl⟩ := List.exists_cons_of_ne_nil nonempty
  -- The part before the first equals sign goes beyond the name, so it is no name either.
  have notName : ∀ behind, ofName? (name ++ first :: behind) = none := by
    intro behind
    apply ofName?_eq_none_of_isShortName
    · rw [isShortName_append nameLength.ge, isShort]
    · simp only [List.length_append, List.length_cons]
      omega
  have kept := bne_equalsSign_of_mem nameNoEquals
  have firstKept : (first != equalsSign) = true :=
    bne_iff_ne.2 fun same => noEquals (congrArg some same)
  have wholeNameOf : nameOf (name ++ first :: rest) =
      name ++ first :: rest.takeWhile (· != equalsSign) := by
    rw [nameOf, List.takeWhile_append_of_pos kept, List.takeWhile_cons, if_pos firstKept]
  unfold exactMention?
  rw [wholeNameOf, notName, notName]
  cases attachedOf (name ++ first :: rest) <;> rfl

/-- What stands right behind the letter of a short option is attached to it. -/
theorem ofText_attached (isName : name ∈ option.names) (isShort : isShortName name = true)
    (nonempty : value ≠ []) (noEquals : value.head? ≠ some equalsSign) :
    ofText (name ++ value) = .ok (.mention ⟨option, true, some value⟩) := by
  have nameLength := length_of_isShortName isName isShort
  obtain ⟨isDashed, isLong⟩ := dashed_of_mem_allNames (mem_allNames_of_mem isName)
  have nameNoEquals := equalsSign_not_mem (mem_allNames_of_mem isName)
  have textDashed : (name ++ value).head? = some dash := by simp [isDashed]
  have textLong : 2 ≤ (name ++ value).length := by
    rw [List.length_append]
    omega
  have isMeant : mentions (name ++ value) = [(name, ⟨option, true, some value⟩)] := by
    rw [mentions, isShortName_append isLong, if_pos isShort, shortMentions,
      List.take_left' nameLength, List.drop_left' nameLength, filter_spellings_beq isName]
    rfl
  rw [ofText_of_dashed textDashed textLong, ofDashed,
    exactMention?_attached nameNoEquals nameLength isShort nonempty noEquals, isMeant]

end Attached

end Argument

end CommandChain

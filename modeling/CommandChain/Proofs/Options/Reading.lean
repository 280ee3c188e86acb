import CommandChain.Options.Settings
import Mathlib.Data.List.Forall2

/-!
# Reading arguments in context

What an argument in front of the separator is recognised as depends on no other argument
(`ofTexts_append`). While arguments are read, only a plain one can be taken as the value of an
option before it. So if two lists of arguments both start with an option and are read alike from
all settings, they are read alike between any others (`read_append_congr`, `ofArguments_congr`).
-/

namespace CommandChain

namespace Argument

/-! ## Recognising arguments together -/

/-- A text that is recognised is not the separator: that one starts like several options. -/
theorem ne_separatorText_of_ofText {text : Text} {argument : Argument}
    (isRecognised : ofText text = .ok argument) : text ≠ separatorText := by
  rintro rfl
  have isRefused : (ofText separatorText).isOk = false := by decide
  rw [isRecognised] at isRefused
  cases isRefused

theorem ofTexts_of_ne {text : Text} (notSeparator : text ≠ separatorText) (rest : List Text) :
    ofTexts (text :: rest) =
      (do
        let argument ← ofText text
        let later ← ofTexts rest
        pure (argument :: later)) :=
  if_neg notSeparator

theorem ofTexts_cons {text : Text} {argument : Argument} (isRecognised : ofText text = .ok argument)
    (rest : List Text) : ofTexts (text :: rest) = (ofTexts rest).map (argument :: ·) := by
  rw [ofTexts_of_ne (ne_separatorText_of_ofText isRecognised), isRecognised]
  cases ofTexts rest <;> rfl

/-- Each text is recognised as the argument at its place. -/
abbrev AreRecognised (texts : List Text) (arguments : List Argument) : Prop :=
  List.Forall₂ (fun text argument => ofText text = .ok argument) texts arguments

theorem ofTexts_append_of_recognised {texts : List Text} {arguments : List Argument}
    (areRecognised : AreRecognised texts arguments) (after : List Text) :
    ofTexts (texts ++ after) = (ofTexts after).map (arguments ++ ·) := by
  induction areRecognised with
  | nil =>
      show ofTexts after = (ofTexts after).map fun later => later
      cases ofTexts after <;> rfl
  | cons isRecognised _ inductionHypothesis =>
      rw [List.cons_append, ofTexts_cons isRecognised, inductionHypothesis]
      cases ofTexts after <;> rfl

/-- Arguments in front of the separator are recognised on their own. -/
theorem ofTexts_append {before : List Text} (noSeparator : separatorText ∉ before)
    (rest : List Text) :
    ofTexts (before ++ rest) =
      (do
        let earlier ← ofTexts before
        let later ← ofTexts rest
        pure (earlier ++ later)) := by
  induction before with
  | nil =>
      show ofTexts rest = ofTexts rest >>= fun later => .ok later
      cases ofTexts rest <;> rfl
  | cons text before inductionHypothesis =>
      obtain ⟨notFirst, notLater⟩ := List.ne_and_not_mem_of_not_mem_cons noSeparator
      rw [List.cons_append, ofTexts_of_ne notFirst.symm, ofTexts_of_ne notFirst.symm,
        inductionHypothesis notLater]
      cases ofText text with
      | error error => rfl
      | ok argument =>
          cases ofTexts before with
          | error error => rfl
          | ok earlier => cases ofTexts rest <;> rfl

end Argument

namespace OptionValue

variable {value : Text}

/-- A value is taken away where it spells the separator, and only there. -/
theorem ofText_eq_text_iff : ofText value = .text value ↔ value ≠ Argument.separatorText := by
  by_cases isSeparator : value = Argument.separatorText
  · simp [ofText, isSeparator]
  · simp [ofText, isSeparator]

theorem ofText_of_head?_ne (isPlain : value.head? ≠ some Argument.dash) :
    ofText value = .text value := by
  rw [ofText_eq_text_iff]
  rintro rfl
  exact isPlain rfl

end OptionValue

/-! ## Clusters -/

namespace Cluster

variable {option : CommandOption} (flags : List CommandOption)

theorem lacksValue_attached (text : Text) : lacksValue ⟨flags, option, some text⟩ = false :=
  Bool.and_false option.takesValue

theorem lacksValue_bare : lacksValue ⟨flags, option, none⟩ = option.takesValue :=
  Bool.and_true option.takesValue

theorem ofAttached_of_takesValue (takesValue : option.takesValue = true) (isShort : Bool)
    (text : Text) : ofAttached option isShort text = .ok ⟨[], option, some text⟩ := by
  rw [ofAttached.eq_def, if_pos takesValue]

end Cluster

namespace Settings

variable (settings : Settings) (strays : List Text)

theorem withFlags_singleton (option : CommandOption) :
    settings.withFlags [option] = settings.withFlag option := by
  rw [withFlags, List.foldlM_cons]
  cases settings.withFlag option <;> rfl

/-! ## One argument that mentions an option -/

section Mention

variable {mention : Mention} {cluster : Cluster} (rest : List Argument)

theorem read_of_refused {error : UsageError}
    (isRefused : Cluster.ofMention mention = .error error) :
    read settings strays (.mention mention :: rest) = .error (.usage error) := by
  rw [read, isRefused]

/-- How a cluster is read. If its last option lacks a value, that is the next argument, which must
be plain. -/
theorem read_of_cluster (isCluster : Cluster.ofMention mention = .ok cluster) :
    read settings strays (.mention mention :: rest) =
      (if cluster.lacksValue then
        match rest with
        | .plain value :: later => do
            let changed ← settings.withCluster cluster (some (.text value))
            read changed strays later
        | _ => .error (.usage (.missingValue cluster.last))
      else do
        let changed ← settings.withCluster cluster (cluster.attached.map OptionValue.ofText)
        read changed strays rest) := by
  simp only [read, isCluster]
  by_cases lacksValue : cluster.lacksValue = true
  · rw [if_pos lacksValue, if_pos lacksValue]
    cases rest with
    | nil => rfl
    | cons next later =>
        cases next with
        | plain value =>
            dsimp only
            cases settings.withCluster cluster (some (.text value)) <;> rfl
        | separator => rfl
        | mention other => rfl
        | unknownOption text => rfl
  · rw [if_neg lacksValue, if_neg lacksValue]
    cases settings.withCluster cluster (cluster.attached.map OptionValue.ofText) <;> rfl

theorem read_of_complete (isCluster : Cluster.ofMention mention = .ok cluster)
    (isComplete : cluster.lacksValue = false) :
    read settings strays (.mention mention :: rest) =
      (do
        let changed ← settings.withCluster cluster (cluster.attached.map OptionValue.ofText)
        read changed strays rest) := by
  rw [read_of_cluster settings strays rest isCluster, isComplete]
  rfl

theorem read_of_lacking (isCluster : Cluster.ofMention mention = .ok cluster)
    (lacksValue : cluster.lacksValue = true) (value : Text) :
    read settings strays (.mention mention :: .plain value :: rest) =
      (do
        let changed ← settings.withCluster cluster (some (.text value))
        read changed strays rest) := by
  rw [read_of_cluster settings strays _ isCluster, if_pos lacksValue]

theorem read_of_missing {rest : List Argument} (isCluster : Cluster.ofMention mention = .ok cluster)
    (lacksValue : cluster.lacksValue = true) (notPlain : ∀ text, rest.head? ≠ some (.plain text)) :
    read settings strays (.mention mention :: rest) =
      .error (.usage (.missingValue cluster.last)) := by
  rw [read_of_cluster settings strays rest isCluster, if_pos lacksValue]
  split
  · exact absurd rfl (notPlain _)
  · rfl

end Mention

section Option

variable {option : CommandOption} (isShort : Bool) (rest : List Argument)

theorem read_value_attached (takesValue : option.takesValue = true) (value : Text) :
    read settings strays (.mention ⟨option, isShort, some value⟩ :: rest) =
      read (settings.withValue option (.ofText value)) strays rest := by
  have isCluster : Cluster.ofMention ⟨option, isShort, some value⟩ =
      .ok ⟨[], option, some value⟩ :=
    Cluster.ofAttached_of_takesValue takesValue isShort value
  rw [read_of_complete settings strays rest isCluster (Cluster.lacksValue_attached [] value)]
  rfl

theorem read_value_next (takesValue : option.takesValue = true) (value : Text) :
    read settings strays (.mention ⟨option, isShort, none⟩ :: .plain value :: rest) =
      read (settings.withValue option (.text value)) strays rest := by
  have lacksValue : Cluster.lacksValue ⟨[], option, none⟩ = true :=
    (Cluster.lacksValue_bare []).trans takesValue
  rw [read_of_lacking settings strays rest rfl lacksValue]
  rfl

theorem read_flag (takesNone : option.takesValue = false) :
    read settings strays (.mention ⟨option, isShort, none⟩ :: rest) =
      (do
        let flagged ← settings.withFlag option
        read flagged strays rest) := by
  have isComplete : Cluster.lacksValue ⟨[], option, none⟩ = false :=
    (Cluster.lacksValue_bare []).trans takesNone
  rw [read_of_complete settings strays rest rfl isComplete]
  rfl

/-- An option without value and one with a value in the same argument are read one after the
other. -/
theorem read_flag_value {flag : CommandOption} {letter : Symbol} {value : Text}
    (takesNone : flag.takesValue = false) (takesValue : option.takesValue = true)
    (isLetter : CommandOption.ofName? [Argument.dash, letter] = some option)
    (nonempty : value ≠ []) :
    read settings strays (.mention ⟨flag, true, some (letter :: value)⟩ :: rest) =
      (do
        let flagged ← settings.withFlag flag
        read (flagged.withValue option (.ofText value)) strays rest) := by
  have isCluster : Cluster.ofMention ⟨flag, true, some (letter :: value)⟩ =
      .ok ⟨[flag], option, some value⟩ := by
    simp only [Cluster.ofMention]
    rw [Cluster.ofAttached.eq_def, if_neg (by simp [takesNone])]
    simp only [isLetter, if_neg nonempty]
    rw [Cluster.ofAttached_of_takesValue takesValue]
    rfl
  rw [read_of_complete settings strays rest isCluster (Cluster.lacksValue_attached [flag] value)]
  unfold withCluster
  rw [withFlags_singleton]
  cases settings.withFlag flag <;> rfl

end Option

/-! ## Behind other arguments -/

/-- Arguments that start with an option and are read alike from all settings are read alike behind
others: what stands before cannot take the option for its value. -/
theorem read_append_congr {mention other : Mention} {rest otherRest : List Argument}
    (alike : ∀ settings strays,
      read settings strays (.mention mention :: rest) =
        read settings strays (.mention other :: otherRest)) :
    ∀ (before : List Argument) (settings : Settings) (strays : List Text),
      read settings strays (before ++ .mention mention :: rest) =
        read settings strays (before ++ .mention other :: otherRest)
  | [], settings, strays => alike settings strays
  | .plain text :: before, settings, strays =>
      read_append_congr alike before settings (strays ++ [text])
  | .separator :: before, settings, strays =>
      read_append_congr alike before settings (strays ++ [Argument.separatorText])
  | .unknownOption text :: before, settings, strays =>
      read_append_congr alike before settings (strays ++ [text])
  | .mention first :: before, settings, strays => by
      cases isCluster : Cluster.ofMention first with
      | error error =>
          rw [List.cons_append, List.cons_append, read_of_refused settings strays _ isCluster,
            read_of_refused settings strays _ isCluster]
      | ok cluster =>
          by_cases lacksValue : cluster.lacksValue = true
          · match before with
            | .plain value :: before =>
                simp only [List.cons_append]
                rw [read_of_lacking settings strays _ isCluster lacksValue,
                  read_of_lacking settings strays _ isCluster lacksValue]
                exact bind_congr fun changed => read_append_congr alike before changed strays
            -- Whatever comes next, be it one of the two options, is no value.
            | [] | .separator :: _ | .mention _ :: _ | .unknownOption _ :: _ =>
                simp only [List.nil_append, List.cons_append]
                rw [read_of_missing settings strays isCluster lacksValue (by simp),
                  read_of_missing settings strays isCluster lacksValue (by simp)]
          · rw [Bool.not_eq_true] at lacksValue
            simp only [List.cons_append]
            rw [read_of_complete settings strays _ isCluster lacksValue,
              read_of_complete settings strays _ isCluster lacksValue]
            exact bind_congr fun changed => read_append_congr alike before changed strays

/-! ## Between other arguments -/

/-- Arguments that start with an option, and that are recognised and read alike, can stand for each
other between any others, as long as the separator is not in front. -/
theorem ofArguments_congr {first second : List Text} {mention other : Mention}
    {rest otherRest : List Argument}
    (firstRecognised : Argument.AreRecognised first (.mention mention :: rest))
    (secondRecognised : Argument.AreRecognised second (.mention other :: otherRest))
    (alike : ∀ settings strays later,
      read settings strays (.mention mention :: rest ++ later) =
        read settings strays (.mention other :: otherRest ++ later))
    {before : List Text} (noSeparator : Argument.separatorText ∉ before) (after : List Text) :
    ofArguments (before ++ first ++ after) = ofArguments (before ++ second ++ after) := by
  unfold ofArguments
  rw [List.append_assoc, List.append_assoc, Argument.ofTexts_append noSeparator,
    Argument.ofTexts_append noSeparator, Argument.ofTexts_append_of_recognised firstRecognised,
    Argument.ofTexts_append_of_recognised secondRecognised]
  cases Argument.ofTexts before with
  | error error => rfl
  | ok earlier =>
      cases Argument.ofTexts after with
      | error error => rfl
      | ok later =>
          exact read_append_congr (fun settings strays => alike settings strays later) earlier {} []

end Settings

end CommandChain

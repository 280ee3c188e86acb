import CommandChain.CommandLine
import CommandChain.Proofs.Options.Reading
import CommandChain.Proofs.Options.Recognition

/-!
# Settings in any order

Every setting can be chosen by an argument of its own, with its value behind an equals sign. Choices
of different options do not disturb each other (`choose_comm`), and of the same option only the last
one counts (`choose_choose_of_same`). So their order does not matter, and what is replaced does not
count. Whatever symbols a value has, it arrives as it is, with one exception: a value that spells
the separator is taken away.
-/

namespace CommandChain

/-- A setting that is chosen by one argument. -/
inductive Choice where
  | command (text : Text)
  | prompt (text : Text)
  | trace
  | capture
  deriving DecidableEq

namespace Choice

/-- The argument that makes a choice. -/
def argument : Choice → Text
  | .command text => Text.ofString "-c=" ++ text
  | .prompt text => Text.ofString "--prompt=" ++ text
  | .trace => Text.ofString "-x"
  | .capture => Text.ofString "--capture"

/-- The option of a choice. -/
def option : Choice → CommandOption
  | .command _ => .command
  | .prompt _ => .prompt
  | .trace => .trace
  | .capture => .capture

/-- The choices of a command if there is to be one, of a prompt, and of tracing and capturing where
they are wanted. -/
def ofSettings (command : Option Text) (prompt : Text) (trace capture : Bool) : List Choice :=
  (command.map Choice.command).toList ++ [.prompt prompt] ++
    (if trace then [.trace] else []) ++ (if capture then [.capture] else [])

/-- Further choices are put in anywhere before a choice of the same option. -/
inductive AddsReplaced (given : List Choice) : List Choice → Prop where
  | none : AddsReplaced given given
  | more {before after : List Choice} {extra : Choice}
      (earlier : AddsReplaced given (before ++ after))
      (isReplaced : ∃ other ∈ after, other.option = extra.option) :
      AddsReplaced given (before ++ extra :: after)

end Choice

/-- Settings after a choice. -/
def Settings.choose (settings : Settings) : Choice → Settings
  | .command text => { settings with command := some (.ofText text) }
  | .prompt text => { settings with prompt := .ofText text }
  | .trace => { settings with trace := true }
  | .capture => { settings with capture := true }

/-! ## Choices one after the other -/

namespace Settings

variable (settings : Settings) {first second : Choice}

theorem choose_choose_of_same (same : second.option = first.option) :
    (settings.choose first).choose second = settings.choose second := by
  cases first <;> cases second <;> cases same <;> rfl

theorem choose_comm (apart : second.option ≠ first.option) :
    (settings.choose first).choose second = (settings.choose second).choose first := by
  cases first <;> cases second <;> simp [Choice.option] at apart <;> rfl

theorem foldl_choose_of_replaced {later : List Choice}
    (isReplaced : ∃ other ∈ later, other.option = first.option) :
    later.foldl choose (settings.choose first) = later.foldl choose settings := by
  induction later generalizing settings with
  | nil => simp at isReplaced
  | cons next later inductionHypothesis =>
      rw [List.foldl_cons, List.foldl_cons]
      by_cases same : next.option = first.option
      · rw [choose_choose_of_same settings same]
      · obtain ⟨other, member, isSame⟩ := isReplaced
        have isLater : other ∈ later := by
          rcases List.mem_cons.1 member with rfl | isLater
          · exact absurd isSame same
          · exact isLater
        rw [choose_comm settings same,
          inductionHypothesis (settings.choose next) ⟨other, isLater, isSame⟩]

/-- Choices that are replaced do not count. -/
theorem foldl_choose_of_addsReplaced {given whole : List Choice}
    (added : Choice.AddsReplaced given whole) :
    whole.foldl choose settings = given.foldl choose settings := by
  induction added with
  | none => rfl
  | more _ isReplaced inductionHypothesis =>
      rw [← inductionHypothesis, List.foldl_append, List.foldl_append, List.foldl_cons,
        foldl_choose_of_replaced _ isReplaced]

end Settings

/-! ## One choice for each setting -/

namespace Choice

variable {command : Option Text} {prompt : Text} {trace capture : Bool}

theorem eq_of_mem_ofSettings {first second : Choice}
    (isFirst : first ∈ ofSettings command prompt trace capture)
    (isSecond : second ∈ ofSettings command prompt trace capture)
    (same : second.option = first.option) : second = first := by
  cases first <;> cases second <;> cases same <;> simp_all [ofSettings]

/-- Choices of different options can be made in any order. -/
theorem foldl_choose_of_perm {given : List Choice}
    (isPerm : given.Perm (ofSettings command prompt trace capture)) (settings : Settings) :
    given.foldl Settings.choose settings =
      (ofSettings command prompt trace capture).foldl Settings.choose settings := by
  refine (isPerm.symm.foldl_eq' ?_ settings).symm
  intro first isFirst second isSecond reached
  by_cases same : second.option = first.option
  · rw [eq_of_mem_ofSettings isFirst isSecond same]
  · exact Settings.choose_comm reached same

theorem foldl_choose_ofSettings :
    (ofSettings command prompt trace capture).foldl Settings.choose {} =
      { command := command.map OptionValue.ofText
        prompt := .ofText prompt
        trace := trace
        capture := capture } := by
  cases command <;> cases trace <;> cases capture <;> rfl

end Choice

/-! ## Reading choices -/

namespace Choice

/-- The name by which the argument of a choice calls the option. -/
def name : Choice → Text
  | .command _ => Text.ofString "-c"
  | .prompt _ => Text.ofString "--prompt"
  | .trace => Text.ofString "-x"
  | .capture => Text.ofString "--capture"

/-- The value that a choice gives to the option. -/
def value? : Choice → Option Text
  | .command text => some text
  | .prompt text => some text
  | .trace => none
  | .capture => none

/-- The argument of a choice once it is recognised. -/
def recognised (choice : Choice) : Argument :=
  .mention ⟨choice.option, Argument.isShortName choice.name, choice.value?⟩

theorem argument_eq_spelled (choice : Choice) :
    choice.argument = Argument.spelled choice.name choice.value? := by
  cases choice with
  | command text =>
      have isSplit : Text.ofString "-c=" = Text.ofString "-c" ++ [Argument.equalsSign] := by decide
      rw [argument, isSplit, List.append_assoc]
      rfl
  | prompt text =>
      have isSplit : Text.ofString "--prompt=" =
          Text.ofString "--prompt" ++ [Argument.equalsSign] := by decide
      rw [argument, isSplit, List.append_assoc]
      rfl
  | trace => rfl
  | capture => rfl

theorem name_mem_names (choice : Choice) : choice.name ∈ choice.option.names := by
  cases choice <;> simp [name, option, CommandOption.names]

theorem areRecognised (given : List Choice) :
    Argument.AreRecognised (given.map argument) (given.map recognised) := by
  refine List.forall₂_map_left_iff.2 (List.forall₂_map_right_iff.2 (List.forall₂_same.2 ?_))
  intro choice _
  rw [argument_eq_spelled]
  exact Argument.ofText_spelled (CommandOption.mem_allNames_of_mem choice.name_mem_names)
    choice.value?

theorem read_recognised_cons (choice : Choice) (settings : Settings) (strays : List Text)
    (rest : List Argument) :
    Settings.read settings strays (choice.recognised :: rest) =
      Settings.read (settings.choose choice) strays rest := by
  cases choice with
  | command text => exact Settings.read_value_attached settings strays _ rest rfl text
  | prompt text => exact Settings.read_value_attached settings strays _ rest rfl text
  | trace => exact Settings.read_flag settings strays _ rest rfl
  | capture => exact Settings.read_flag settings strays _ rest rfl

theorem read_recognised (given : List Choice) (settings : Settings) :
    Settings.read settings [] (given.map recognised) =
      .ok (given.foldl Settings.choose settings) := by
  induction given generalizing settings with
  | nil => rfl
  | cons choice later inductionHypothesis =>
      rw [List.map_cons, read_recognised_cons, inductionHypothesis, List.foldl_cons]

/-- Choices act in the order in which they are made. -/
theorem ofArguments_choices (given : List Choice) :
    Settings.ofArguments (given.map argument) = .ok (given.foldl Settings.choose {}) := by
  have areOnly := Argument.ofTexts_append_of_recognised (areRecognised given) []
  rw [List.append_nil] at areOnly
  rw [Settings.ofArguments, areOnly]
  show Settings.read {} [] (given.map recognised ++ []) = _
  rw [List.append_nil, read_recognised]

end Choice

namespace CommandLine

open Argument

variable {command : Option Text} {prompt : Text} {trace capture : Bool}
  {given whole : List Choice}

theorem map_ofText_eq_map_text_iff :
    command.map OptionValue.ofText = command.map OptionValue.text ↔
      command ≠ some separatorText := by
  cases command with
  | none => simp
  | some text => simp [OptionValue.ofText_eq_text_iff]

/-- Settings can be chosen in any order, and further choices that later ones replace do not count.
Nothing is printed and the program goes on, with just the settings that were chosen and each value
as it was written, unless the text of the command or the prompt spells the separator. Such a text is
lost. -/
theorem choices_lead_to_settings (program : Text)
    (isOrder : given.Perm (Choice.ofSettings command prompt trace capture))
    (added : Choice.AddsReplaced given whole) :
    settingsOrReport program (whole.map Choice.argument) =
        .ok
          { command := command.map OptionValue.ofText
            prompt := .ofText prompt
            trace := trace
            capture := capture } ∧
      (settingsOrReport program (whole.map Choice.argument) =
          .ok
            { command := command.map OptionValue.text
              prompt := .text prompt
              trace := trace
              capture := capture } ↔
        command ≠ some separatorText ∧ prompt ≠ separatorText) := by
  have reached : settingsOrReport program (whole.map Choice.argument) =
      .ok
        { command := command.map OptionValue.ofText
          prompt := .ofText prompt
          trace := trace
          capture := capture } := by
    rw [settingsOrReport, Choice.ofArguments_choices,
      Settings.foldl_choose_of_addsReplaced {} added, Choice.foldl_choose_of_perm isOrder,
      Choice.foldl_choose_ofSettings]
    rfl
  refine ⟨reached, ?_⟩
  rw [reached, ← map_ofText_eq_map_text_iff, ← OptionValue.ofText_eq_text_iff]
  simp only [Except.ok.injEq, Settings.mk.injEq, and_true]

/-- A prompt that looks like an option, and a command with an equals sign that replaces the
separator. -/
theorem choices_lead_to_settings_of_replaced :
    let program := Text.ofString "shell"
    let command := Text.ofString "a=b ;\n--"
    let prompt := Text.ofString "-x"
    let given : List Choice := [.trace, .command command, .prompt prompt]
    let whole : List Choice :=
      [.trace] ++ .command separatorText :: [.command command, .prompt prompt]
    given.Perm (Choice.ofSettings (some command) prompt true false) ∧
      Choice.AddsReplaced given whole ∧
      settingsOrReport program (whole.map Choice.argument) =
        .ok { command := some (.text command), prompt := .text prompt, trace := true } := by
  intro program command prompt given whole
  have isOrder : given.Perm (Choice.ofSettings (some command) prompt true false) := by
    decide
  have added : Choice.AddsReplaced given whole :=
    .more .none ⟨.command command, List.mem_cons_self, rfl⟩
  have arrives : some command ≠ some separatorText ∧ prompt ≠ separatorText := by decide
  exact ⟨isOrder, added, (choices_lead_to_settings program isOrder added).2.2 arrives⟩

/-- A command that spells the separator does not arrive, although nothing else is chosen. -/
theorem separator_is_taken_from_command :
    let program := Text.ofString "shell"
    let given : List Choice := [.command separatorText, .prompt defaultPrompt]
    given.map Choice.argument = [Text.ofString "-c=--", Text.ofString "--prompt=> "] ∧
      given.Perm (Choice.ofSettings (some separatorText) defaultPrompt false false) ∧
      settingsOrReport program (given.map Choice.argument) = .ok { command := some .removed } ∧
      settingsOrReport program (given.map Choice.argument) ≠
        .ok { command := some (.text separatorText) } := by
  decide

end CommandLine

end CommandChain

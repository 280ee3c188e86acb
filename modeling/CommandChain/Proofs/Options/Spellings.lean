import CommandChain.CommandLine
import CommandChain.Proofs.Options.Reading
import CommandChain.Proofs.Options.Recognition

/-!
# Spellings of options

Whichever way an option and its value are written, they lead to the same answer, whatever arguments
stand around them. It makes no difference whether a value is an argument of its own or attached,
whether a name is cut short, or whether two short options share a dash. Each of these laws holds of
all options of its kind.
-/

namespace CommandChain

namespace CommandLine

open Argument

/-- Two pieces of a command line lead to the same answer, be it settings or a report, between any
other arguments, as long as the separator is not in front of them. -/
def Interchangeable (first second : List Text) : Prop :=
  ∀ (program : Text) (before after : List Text), separatorText ∉ before →
    settingsOrReport program (before ++ first ++ after) =
      settingsOrReport program (before ++ second ++ after)

theorem interchangeable_of_alike {first second : List Text} {mention other : Mention}
    {rest otherRest : List Argument}
    (firstRecognised : AreRecognised first (.mention mention :: rest))
    (secondRecognised : AreRecognised second (.mention other :: otherRest))
    (alike : ∀ settings strays later,
      Settings.read settings strays (.mention mention :: rest ++ later) =
        Settings.read settings strays (.mention other :: otherRest ++ later)) :
    Interchangeable first second := by
  intro program before after noSeparator
  unfold settingsOrReport
  rw [Settings.ofArguments_congr firstRecognised secondRecognised alike noSeparator after]

/-! ## One option -/

section Option

variable {option : CommandOption} {name value : Text}

/-- A value that is an argument of its own can be attached in any way that is recognised. -/
theorem interchangeable_of_attached {text : Text} {isShort : Bool}
    (takesValue : option.takesValue = true) (isName : name ∈ option.allNames)
    (isPlain : value.head? ≠ some dash)
    (isAttached : ofText text = .ok (.mention ⟨option, isShort, some value⟩)) :
    Interchangeable [name, value] [text] := by
  refine interchangeable_of_alike
    (.cons (ofText_spelled isName none) (.cons (ofText_of_head?_ne isPlain) .nil))
    (.cons isAttached .nil) ?_
  intro settings strays later
  simp only [List.cons_append, List.nil_append]
  rw [Settings.read_value_next settings strays _ _ takesValue,
    Settings.read_value_attached settings strays _ _ takesValue,
    OptionValue.ofText_of_head?_ne isPlain]

theorem interchangeable_equals (takesValue : option.takesValue = true)
    (isName : name ∈ option.allNames) (isPlain : value.head? ≠ some dash) :
    Interchangeable [name, value] [name ++ equalsSign :: value] :=
  interchangeable_of_attached takesValue isName isPlain (ofText_spelled isName (some value))

theorem interchangeable_attached (takesValue : option.takesValue = true)
    (isName : name ∈ option.names) (isShort : isShortName name = true)
    (isPlain : value.head? ≠ some dash) (nonempty : value ≠ [])
    (noEquals : value.head? ≠ some equalsSign) :
    Interchangeable [name, value] [name ++ value] :=
  interchangeable_of_attached takesValue (CommandOption.mem_allNames_of_mem isName) isPlain
    (ofText_attached isName isShort nonempty noEquals)

/-- All names of an option without value mean the same. -/
theorem interchangeable_names {other : Text} (takesNone : option.takesValue = false)
    (isName : name ∈ option.allNames) (otherIsName : other ∈ option.allNames) :
    Interchangeable [name] [other] := by
  refine interchangeable_of_alike (.cons (ofText_spelled isName none) .nil)
    (.cons (ofText_spelled otherIsName none) .nil) ?_
  intro settings strays later
  simp only [List.cons_append, List.nil_append]
  rw [Settings.read_flag settings strays _ _ takesNone,
    Settings.read_flag settings strays _ _ takesNone]

end Option

/-- A short option with an attached value can go on behind a short option without value. -/
theorem interchangeable_cluster {flag option : CommandOption} {name value : Text} {letter : Symbol}
    (takesNone : flag.takesValue = false) (takesValue : option.takesValue = true)
    (isFlag : name ∈ flag.names) (isShortFlag : isShortName name = true)
    (isName : [dash, letter] ∈ option.names) (isShort : letter ≠ dash)
    (nonempty : value ≠ []) (noEquals : value.head? ≠ some equalsSign) :
    Interchangeable [name, [dash, letter] ++ value] [name ++ letter :: value] := by
  have isShortLetter : isShortName [dash, letter] = true := bne_iff_ne.2 isShort
  have letterNoEquals : (letter :: value).head? ≠ some equalsSign := by
    intro same
    have isEquals : letter = equalsSign := Option.some.inj same
    exact CommandOption.equalsSign_not_mem (CommandOption.mem_allNames_of_mem isName)
      (by simp [isEquals])
  refine interchangeable_of_alike
    (.cons (ofText_spelled (CommandOption.mem_allNames_of_mem isFlag) none)
      (.cons (ofText_attached isName isShortLetter nonempty noEquals) .nil))
    (.cons (ofText_attached isFlag isShortFlag (List.cons_ne_nil letter value) letterNoEquals)
      .nil) ?_
  intro settings strays later
  simp only [List.cons_append, List.nil_append]
  rw [Settings.read_flag settings strays _ _ takesNone,
    Settings.read_flag_value settings strays _ takesNone takesValue
      (CommandOption.ofName?_of_mem isName) nonempty]
  exact bind_congr fun flagged =>
    Settings.read_value_attached flagged strays _ _ takesValue value

/-! ## The options of the program -/

/-- All spellings of an option agree, whatever arguments stand before and behind: the answer, be it
settings or the end of the program with its code and its text, is the same. A command that starts
with no dash can be the next argument, stand behind an equals sign, or be attached to the letter as
it is. A prompt can be the next argument or stand behind an equals sign, and the name of its option
can be cut short, as those of tracing and capturing can. The letters of tracing and of the command
can share a dash. -/
theorem spellings_agree :
    (∀ value : Text, value.head? ≠ some dash →
      Interchangeable [Text.ofString "-c", value] [Text.ofString "-c=" ++ value] ∧
      (∀ name : Text, name <+: Text.ofString "--prompt" → 3 ≤ name.length →
        Interchangeable [name, value] [name ++ equalsSign :: value]) ∧
      (value ≠ [] → value.head? ≠ some equalsSign →
        Interchangeable [Text.ofString "-c", value] [Text.ofString "-c" ++ value] ∧
        Interchangeable [Text.ofString "-x", Text.ofString "-c" ++ value]
          [Text.ofString "-xc" ++ value])) ∧
      (∀ name : Text, name <+: Text.ofString "--trace" → 3 ≤ name.length →
        Interchangeable [Text.ofString "-x"] [name]) ∧
      (∀ name : Text, name <+: Text.ofString "--capture" → 3 ≤ name.length →
        Interchangeable [Text.ofString "--capture"] [name]) := by
  have isCommand : Text.ofString "-c" ∈ CommandOption.command.names := by decide
  have isPrompt : Text.ofString "--prompt" ∈ CommandOption.prompt.names := by decide
  have isTrace : Text.ofString "-x" ∈ CommandOption.trace.names := by decide
  have isLongTrace : Text.ofString "--trace" ∈ CommandOption.trace.names := by decide
  have isCapture : Text.ofString "--capture" ∈ CommandOption.capture.names := by decide
  refine ⟨?values, ?tracing, ?capturing⟩
  case values =>
    intro value isPlain
    refine ⟨?behindEquals, ?prompts, ?attached⟩
    case behindEquals =>
      have isSplit : Text.ofString "-c=" = Text.ofString "-c" ++ [equalsSign] := by decide
      rw [isSplit, List.append_assoc]
      exact interchangeable_equals rfl (CommandOption.mem_allNames_of_mem isCommand) isPlain
    case prompts =>
      intro name begins hasLetter
      exact interchangeable_equals rfl
        (CommandOption.mem_allNames_of_isPrefix isPrompt begins hasLetter) isPlain
    case attached =>
      intro nonempty noEquals
      have isLetter : Text.ofString "-c" = [dash, .char 'c'] := by decide
      have isSplit : Text.ofString "-xc" = Text.ofString "-x" ++ [.char 'c'] := by decide
      refine ⟨interchangeable_attached rfl isCommand (by decide) isPlain nonempty noEquals, ?_⟩
      rw [isSplit, List.append_assoc]
      rw [isLetter] at isCommand ⊢
      exact interchangeable_cluster rfl rfl isTrace (by decide) isCommand (by decide) nonempty
        noEquals
  case tracing =>
    intro name begins hasLetter
    exact interchangeable_names rfl (CommandOption.mem_allNames_of_mem isTrace)
      (CommandOption.mem_allNames_of_isPrefix isLongTrace begins hasLetter)
  case capturing =>
    intro name begins hasLetter
    exact interchangeable_names rfl (CommandOption.mem_allNames_of_mem isCapture)
      (CommandOption.mem_allNames_of_isPrefix isCapture begins hasLetter)

/-- A command and a prompt between a stray argument and the separator. -/
theorem spellings_agree_of_stray :
    let program := Text.ofString "shell"
    let value := Text.ofString "exit 3"
    let name := Text.ofString "--pr"
    let before := [Text.ofString "stray", Text.ofString "--trac"]
    let after := [separatorText, Text.ofString "-x"]
    (value.head? ≠ some dash ∧ value ≠ [] ∧ value.head? ≠ some equalsSign) ∧
      (name <+: Text.ofString "--prompt" ∧ 3 ≤ name.length) ∧ separatorText ∉ before ∧
      settingsOrReport program (before ++ [Text.ofString "-x", Text.ofString "-cexit 3"] ++ after) =
        settingsOrReport program (before ++ [Text.ofString "-xcexit 3"] ++ after) ∧
      settingsOrReport program (before ++ [name, value] ++ after) =
        settingsOrReport program (before ++ [Text.ofString "--pr=exit 3"] ++ after) := by
  intro program value name before after
  have isPlain : value.head? ≠ some dash := by decide
  have isAttachable : value ≠ [] ∧ value.head? ≠ some equalsSign := by decide
  have begins : name <+: Text.ofString "--prompt" := by decide
  have hasLetter : 3 ≤ name.length := by decide
  have noSeparator : separatorText ∉ before := by decide
  obtain ⟨-, prompts, attached⟩ := spellings_agree.1 value isPlain
  obtain ⟨-, clusters⟩ := attached isAttachable.1 isAttachable.2
  exact ⟨⟨isPlain, isAttachable⟩, ⟨begins, hasLetter⟩, noSeparator,
    clusters program before after noSeparator,
    prompts name begins hasLetter program before after noSeparator⟩

end CommandLine

end CommandChain

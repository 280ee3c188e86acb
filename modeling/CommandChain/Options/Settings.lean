import CommandChain.Options.Argument

/-!
# Settings from arguments

The options act in the order of the arguments, so a later value replaces an earlier one. Help ends
the reading at once. Arguments that belong to no option are collected and refused at the end.
-/

namespace CommandChain

/-- The value given to an option. An attached value that spells the separator is taken away by it,
so that nothing is left. -/
inductive OptionValue where
  | text (value : Text)
  | removed
  deriving DecidableEq

namespace OptionValue

/-- The value that a text gives. -/
def ofText (text : Text) : OptionValue :=
  if text = Argument.separatorText then .removed else .text text

/-- The text of a value. -/
def toText : OptionValue → Text
  | .text value => value
  | .removed => []

end OptionValue

/-- What the arguments ask for. -/
structure Settings where
  command : Option OptionValue := none
  prompt : OptionValue := .text defaultPrompt
  trace : Bool := false
  capture : Bool := false
  deriving DecidableEq

/-- Why there are no settings: help was asked for, or the arguments are wrong. -/
inductive ReadingStop where
  | help
  | usage (error : UsageError)
  deriving DecidableEq

namespace Settings

/-- Lets an option without value act. -/
def withFlag (settings : Settings) : CommandOption → Except ReadingStop Settings
  | .help => .error .help
  | .trace => .ok { settings with trace := true }
  | .capture => .ok { settings with capture := true }
  | .command => .ok settings
  | .prompt => .ok settings

/-- Lets options without value act in order. -/
def withFlags (settings : Settings) (options : List CommandOption) : Except ReadingStop Settings :=
  options.foldlM withFlag settings

/-- Lets an option act that was given a value. -/
def withValue (settings : Settings) (option : CommandOption) (value : OptionValue) : Settings :=
  match option with
  | .command => { settings with command := some value }
  | .prompt => { settings with prompt := value }
  | _ => settings

end Settings

/-! ## Clusters -/

/-- What one argument mentions: options without value, then a last option with the text that is
attached to it. -/
structure Cluster where
  flags : List CommandOption
  last : CommandOption
  attached : Option Text
  deriving DecidableEq

namespace Cluster

/-- Puts an option without value in front. -/
def consFlag (option : CommandOption) (cluster : Cluster) : Cluster :=
  { cluster with flags := option :: cluster.flags }

/-- The cluster of an option with attached text. An option that takes a value takes all of the
text; after a short option without value, the text goes on with another short option. -/
def ofAttached (option : CommandOption) (isShort : Bool) (text : Text) :
    Except UsageError Cluster :=
  if option.takesValue then .ok ⟨[], option, some text⟩
  else
    match isShort, text with
    | true, letter :: rest =>
        match CommandOption.ofName? [Argument.dash, letter] with
        | none => .error (.unexpectedValue option text)
        | some next =>
            if rest = [] then .ok ⟨[option], next, none⟩
            else (ofAttached next true rest).map (consFlag option)
    | _, _ => .error (.unexpectedValue option text)

/-- The last option takes a value and has none attached. -/
def lacksValue (cluster : Cluster) : Bool :=
  cluster.last.takesValue && cluster.attached.isNone

/-- The cluster of a mention. -/
def ofMention (mention : Mention) : Except UsageError Cluster :=
  match mention.attached with
  | none => .ok ⟨[], mention.option, none⟩
  | some text => ofAttached mention.option mention.isShort text

end Cluster

/-! ## Reading -/

namespace Settings

/-- Lets a cluster act, given the value of its last option if that takes one. -/
def withCluster (settings : Settings) (cluster : Cluster) (value : Option OptionValue) :
    Except ReadingStop Settings := do
  let flagged ← settings.withFlags cluster.flags
  match value with
  | some given => pure (flagged.withValue cluster.last given)
  | none => flagged.withFlag cluster.last

/-- Reads recognised arguments, given the settings so far and the arguments that belong to no
option. An option that takes a value and has none attached takes the next argument, which must be
plain. -/
def read : Settings → (strays : List Text) → List Argument → Except ReadingStop Settings
  | settings, strays, [] =>
      if strays = [] then .ok settings else .error (.usage (.unrecognized strays))
  | settings, strays, .plain text :: rest => read settings (strays ++ [text]) rest
  | settings, strays, .separator :: rest =>
      read settings (strays ++ [Argument.separatorText]) rest
  | settings, strays, .unknownOption text :: rest => read settings (strays ++ [text]) rest
  | settings, strays, .mention mention :: rest =>
      match Cluster.ofMention mention with
      | .error error => .error (.usage error)
      | .ok cluster =>
          if cluster.lacksValue then
            match rest with
            | .plain text :: later =>
                match settings.withCluster cluster (some (.text text)) with
                | .error stop => .error stop
                | .ok changed => read changed strays later
            | _ => .error (.usage (.missingValue cluster.last))
          else
            match settings.withCluster cluster (cluster.attached.map OptionValue.ofText) with
            | .error stop => .error stop
            | .ok changed => read changed strays rest

/-- The settings that arguments ask for. -/
def ofArguments (arguments : List Text) : Except ReadingStop Settings :=
  match Argument.ofTexts arguments with
  | .error error => .error (.usage error)
  | .ok recognised => read {} [] recognised

end Settings

end CommandChain

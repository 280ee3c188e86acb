import CommandChain.Options.Basic
import CommandChain.Text.DecimalDigit

/-!
# Arguments of the command line

Before any option acts, every argument is recognised on its own: as an option, perhaps with a value
attached to it, as the separator after which there are no options, or as a plain argument. A long
option may be cut short as long as only one option starts that way.
-/

namespace CommandChain

/-- What can be wrong with the arguments. -/
inductive UsageError where
  /-- an argument starts like several options -/
  | ambiguous (argument : Text) (names : List Text)
  /-- an option lacks its value -/
  | missingValue (option : CommandOption)
  /-- an option that takes no value was given one -/
  | unexpectedValue (option : CommandOption) (value : Text)
  /-- arguments that belong to no option -/
  | unrecognized (arguments : List Text)
  deriving DecidableEq

/-- The text of a usage error. -/
def UsageError.message : UsageError → Text
  | .ambiguous argument names =>
      Text.ofString "ambiguous option: " ++ argument ++ Text.ofString " could match " ++
        Text.joinWith (Text.ofString ", ") names
  | .missingValue option =>
      Text.ofString "argument " ++ option.displayName ++ Text.ofString ": expected one argument"
  | .unexpectedValue option value =>
      Text.ofString "argument " ++ option.displayName ++
        Text.ofString ": ignored explicit argument " ++ value.literal
  | .unrecognized arguments =>
      Text.ofString "unrecognized arguments: " ++ Text.joinWith [.char ' '] arguments

/-- An option as an argument mentions it. -/
structure Mention where
  option : CommandOption
  /-- it is spelled with one dash -/
  isShort : Bool
  /-- the text after the spelling, if any -/
  attached : Option Text
  deriving DecidableEq

/-- An argument once it is recognised. -/
inductive Argument where
  | plain (text : Text)
  | separator
  | mention (mention : Mention)
  /-- it looks like an option, but is none -/
  | unknownOption (text : Text)
  deriving DecidableEq

namespace Argument

/-- The symbol that starts an option. -/
def dash : Symbol :=
  .char '-'

/-- The symbol between an option and an attached value. -/
def equalsSign : Symbol :=
  .char '='

/-- The argument after which there are no options. -/
def separatorText : Text :=
  [dash, dash]

/-- The part of an argument before its first equals sign. -/
def nameOf (text : Text) : Text :=
  text.takeWhile (· != equalsSign)

/-- The part of an argument after its first equals sign, if it has one. -/
def attachedOf (text : Text) : Option Text :=
  match text.dropWhile (· != equalsSign) with
  | [] => none
  | _ :: value => some value

/-- A spelling has one dash only. -/
def isShortName : Text → Bool
  | _ :: second :: _ => second != dash
  | _ => false

/-- The option that an argument spells in full, before an attached value if it has one. -/
def exactMention? (text : Text) : Option Mention :=
  match CommandOption.ofName? text with
  | some option => some ⟨option, isShortName text, none⟩
  | none =>
      match attachedOf text, CommandOption.ofName? (nameOf text) with
      | some value, some option => some ⟨option, isShortName text, some value⟩
      | _, _ => none

/-- The long options that start like an argument with two dashes. -/
def longMentions (text : Text) : List (Text × Mention) :=
  (CommandOption.spellings.filter fun spelling => (nameOf text).isPrefixOf spelling.1).map
    fun spelling => (spelling.1, ⟨spelling.2, false, attachedOf text⟩)

/-- The short options with which an argument with one dash starts; the rest is attached. -/
def shortMentions (text : Text) : List (Text × Mention) :=
  (CommandOption.spellings.filter fun spelling => spelling.1 == text.take 2).map
    fun spelling => (spelling.1, ⟨spelling.2, true, some (text.drop 2)⟩)

/-- The options that an argument may mean, with their spellings. -/
def mentions (text : Text) : List (Text × Mention) :=
  if isShortName text then shortMentions text else longMentions text

/-- At least one decimal digit and nothing else. -/
def isDigits (text : Text) : Bool :=
  !text.isEmpty && text.all fun symbol => symbol.digit?.isSome

/-- Digits, or digits with a point before the last of them. -/
def isDecimal (text : Text) : Bool :=
  isDigits text ||
    match text.dropWhile fun symbol => symbol.digit?.isSome with
    | .char '.' :: fraction => isDigits fraction
    | _ => false

/-- An argument that is a negative number. A newline may end it. -/
def isNegativeNumber : Text → Bool
  | first :: rest =>
      first == dash &&
        (isDecimal rest || (rest.getLast? == some (.char '\n') && isDecimal rest.dropLast))
  | [] => false

/-- An argument that means no option is plain if it is a negative number or holds a space. -/
def ofUnknown (text : Text) : Argument :=
  if isNegativeNumber text || text.contains (.char ' ') then .plain text else .unknownOption text

/-- Recognises an argument that starts with a dash and has more than that. -/
def ofDashed (text : Text) : Except UsageError Argument :=
  match exactMention? text with
  | some found => .ok (.mention found)
  | none =>
      match mentions text with
      | [] => .ok (ofUnknown text)
      | [only] => .ok (.mention only.2)
      | several => .error (.ambiguous text (several.map Prod.fst))

/-- Recognises an argument. -/
def ofText (text : Text) : Except UsageError Argument :=
  match text with
  | first :: _ :: _ => if first = dash then ofDashed text else .ok (.plain text)
  | _ => .ok (.plain text)

/-- Recognises arguments in order. After the separator all of them are plain. -/
def ofTexts : List Text → Except UsageError (List Argument)
  | [] => .ok []
  | text :: rest =>
      if text = separatorText then .ok (.separator :: rest.map .plain)
      else do
        let argument ← ofText text
        let later ← ofTexts rest
        pure (argument :: later)

end Argument

end CommandChain

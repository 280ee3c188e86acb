import CommandChain.Options.Argument
import CommandChain.Text.Layout

/-!
# Usage and help

The usage line lists all options; it is wrapped where it is too wide. The help adds what the program
does and what each option is for.
-/

namespace CommandChain

namespace Help

/-- The width of a line. -/
def width : Nat :=
  80

/-- What stands before the usage. -/
def usageLabel : Text :=
  Text.ofString "usage: "

/-- What the program does. -/
def description : Text :=
  Text.ofString "A minimal shell that runs simple commands joined by ';', '&&' and '||'. " ++
    Text.ofString
      "There is no quoting, so an argument can never be one of those operators."

/-- A spelling with the value after it, if there is one. -/
def withValueName (option : CommandOption) (name : Text) : Text :=
  match option.valueName? with
  | some valueName => name ++ [.char ' '] ++ valueName
  | none => name

/-- An option in the usage line: its first spelling, in brackets since it may be left out. -/
def usageOf (option : CommandOption) : Text :=
  [.char '['] ++ withValueName option (option.names.headD []) ++ [.char ']']

/-- The options in the usage line. -/
def usageParts : List Text :=
  CommandOption.all.map usageOf

/-- The usage after its label. A line that is too wide is broken between options, which are lined up
behind the program's name, or under it if the name takes most of the line. -/
def usageBody (program : Text) : Text :=
  let oneLine := Text.joinWith [.char ' '] ((program :: usageParts).filter (· ≠ []))
  let label := usageLabel.length
  if label + oneLine.length ≤ width then oneLine
  else if 4 * (label + program.length) ≤ 3 * width then
    let margin := label + program.length + 1
    Text.hangingLines margin (Text.packWords width margin label [] (program :: usageParts))
  else
    Text.joinWith (Text.newline :: Text.spaces label)
      (program ::
        (Text.packWords width label label [] usageParts).map (Text.joinWith [.char ' ']))

/-- The usage with its label and a blank line after it. -/
def usageBlock (program : Text) : Text :=
  usageLabel ++ usageBody program ++ [Text.newline, Text.newline]

/-- The usage as it is printed. -/
def usage (program : Text) : Text :=
  (usageBlock program).tidy

/-- An option in the help: all its spellings. -/
def spellingsOf (option : CommandOption) : Text :=
  Text.joinWith (Text.ofString ", ") (option.names.map (withValueName option))

/-- The column of the purposes: two columns behind the widest option, and not beyond a limit. -/
def purposeColumn : Nat :=
  min 24 ((CommandOption.all.map fun option => (spellingsOf option).length).foldl max 0 + 4)

/-- An option with its purpose. -/
def entryOf (option : CommandOption) : Text :=
  let spelled := spellingsOf option
  Text.spaces 2 ++ spelled ++ Text.spaces (purposeColumn - 2 - spelled.length) ++
    Text.fill (width - purposeColumn) purposeColumn option.purpose ++ [Text.newline]

/-- The help as it is printed. -/
def help (program : Text) : Text :=
  (usageBlock program ++ Text.fill width 0 description ++ [Text.newline, Text.newline] ++
    Text.ofString "options:\n" ++ CommandOption.all.flatMap entryOf).tidy

/-- What is printed for a usage error. -/
def complaint (program : Text) (error : UsageError) : Text :=
  usage program ++ program ++ Text.ofString ": error: " ++ error.message ++ [Text.newline]

end Help

end CommandChain

import CommandChain.Script.Builtin.Basic
import CommandChain.Script.Expansion

/-!
# Builtin commands on variables and parameters

These commands read lines into variables, export, protect, remove and localise variables, and set
options and positional parameters.
-/

namespace CommandChain

namespace Script

namespace Builtin

/-! ## Names -/

/-- Complains about a name that no variable can have. -/
def failName {result : Type} (name : Text) : Run result :=
  Run.fail (name ++ Text.ofString ": bad variable name")

/-- The name and the value of an operand that may assign. -/
def nameAndValue (operand : Text) : Run (Text × Option Text) := do
  let (name, value) := operand.span (· != .char '=')
  if isName name then
    return (name, if value = [] then none else some value.tail)
  else failName name

/-- The name that an operand starts with. -/
def variableName (operand : Text) : Run Text := do
  return (← nameAndValue operand).1

/-- Lists variables as commands that would set them. -/
def listVariables (command : Text) (entries : List (Text × Variable)) : Run Nat :=
  let lines :=
    entries.map fun entry =>
      (if command = [] then [] else command ++ [.char ' ']) ++ entry.1 ++
        (match entry.2.value with
          | some value => .char '=' :: singleQuoted value
          | none => []) ++
        [.char '\n']
  print (Text.bytes (sortedTexts lines).flatten)

/-- Changes the marks of variables, which are assigned if a value is given. -/
def mark (command : Text) (isListed : Variable → Bool) (change : Variable → Variable) : Builtin :=
  fun arguments => do
    let (given, operands) ← options ['p'] arguments
    if given ≠ [] ∨ operands = [] then
      listVariables command ((← Run.process).bindings.filter fun entry => isListed entry.2)
    else
      for operand in operands do
        let (name, value) ← nameAndValue operand
        match value with
        | some new => Run.assign name new
        | none => pure ()
        let old := (← Run.variableNamed? name).getD { value := none }
        Run.putVariable name (some (change old))
      return 0

/-- Lets programs that are started see variables. -/
def exportVariables : Builtin :=
  mark (Text.ofString "export") Variable.isExported fun old => { old with isExported := true }

/-- Protects variables from being changed. -/
def protect : Builtin :=
  mark (Text.ofString "readonly") Variable.isReadOnly fun old => { old with isReadOnly := true }

/-- Saves the options, so that the innermost scope gives them back. -/
def saveOptions : Run Unit :=
  Run.changeProcess fun process =>
    { process with
      savedOptions :=
        match process.savedOptions with
        | none :: outer => some process.options :: outer
        | saved => saved }

/-- Gives variables a value in the function that runs. A minus sign stands for the options. -/
def localVariables : Builtin := fun operands => do
  if (← Run.process).functionDepth = 0 then
    Run.fail (Text.ofString "not in a function")
  for operand in operands do
    if operand = [.char '-'] then saveOptions
    else
      let (name, value) ← nameAndValue operand
      Run.remember name
      match value with
      | some new => Run.assign name new
      | none => pure ()
  return 0

/-- Removes variables or functions. -/
def unset : Builtin := fun arguments => do
  let (given, operands) ← options ['v', 'f'] arguments
  for operand in operands do
    if (given.getLast?.map Prod.fst) = some 'f' then
      Run.changeProcess fun process =>
        { process with functions := process.functions.filter fun entry => entry.1 != operand }
    else
      let name ← variableName operand
      if (← Run.variableNamed? name).any Variable.isReadOnly then Run.failReadOnly name
      else
        Run.noticeValue name []
        Run.putVariable name none
  return 0

/-! ## Reading -/

/-- A line as marks, what is left after it, and whether it was ended. A backslash quotes the next
symbol, and is dropped with a line end. -/
def lineMarks (isRaw : Bool) : List UInt8 → List Mark × List UInt8 × Bool
  | [] => ([], [], false)
  | byte :: rest =>
      let plain := fun (_ : Unit) =>
        let read := lineMarks isRaw rest
        if byte = 0 then read
        else (.symbol (Symbol.ofByte byte) false true :: read.1, read.2)
      if byte = 0x0A then ([], rest, true)
      else if byte = 0x5C ∧ isRaw = false then
        match rest with
        | [] => ([], [], false)
        | next :: later =>
            let read := lineMarks isRaw later
            if next = 0x0A ∨ next = 0 then read
            else (.symbol (Symbol.ofByte next) true false :: read.1, read.2)
      else plain ()

/-- Assigns fields to names; names without a field become empty. -/
def assignFields : List Text → List Text → Run Unit
  | [], _ => return ()
  | operand :: operands, fields => do
      Run.assign (← variableName operand) (fields.headD [])
      assignFields operands fields.tail

/-- Reads a line into variables. -/
def read : Builtin := fun arguments => do
  let (given, names) ← takeOptions [('p', true), ('r', false)] arguments.length arguments
  if names = [] then Run.fail (Text.ofString "arg count")
  else
    let isRaw := given.any fun option => option.1 == 'r'
    let bytes ← Run.available 0
    let (marks, rest, isEnded) := lineMarks isRaw bytes
    Run.skip 0 (bytes.length - rest.length)
    assignFields names (limitedFields (← Run.separators) names.length marks)
    return if isEnded then 0 else 1

/-! ## Options and parameters -/

/-- The names of the options, with their letters. -/
def optionNames : List (String × Char) :=
  [("errexit", 'e'), ("noglob", 'f'), ("ignoreeof", 'I'), ("interactive", 'i'), ("monitor", 'm'),
    ("noexec", 'n'), ("stdin", 's'), ("xtrace", 'x'), ("verbose", 'v'), ("vi", 'V'),
    ("emacs", 'E'), ("noclobber", 'C'), ("allexport", 'a'), ("notify", 'b'), ("nounset", 'u'),
    ("privileged", 'p'), ("nolog", '\x01'), ("debug", '\x02')]

/-- Sets an option or takes it back. -/
def setOption (isOn : Bool) (letter : Char) : Run Unit :=
  Run.changeProcess fun process =>
    let others := process.options.filter (· != letter)
    { process with options := if isOn then letter :: others else others }

/-- Takes the control of jobs back if it was asked for, since there is no terminal. -/
def settleJobControl (isAskedFor : Bool) : Run Unit := do
  if isAskedFor then
    Run.complain (Text.ofString "can't access tty; job control turned off")
    setOption false 'm'

/-- The options that an option takes back where it is set by its letter. -/
def excludedBy : Char → List Char
  | 'V' => ['E']
  | 'E' => ['V']
  | _ => []

/-- Sets an option that is given by its letter. -/
def setLetter (isOn : Bool) (letter : Symbol) : Run Unit := do
  match optionLetters.find? fun known => letter == .char known with
  | some known => do
      if isOn then
        for other in excludedBy known do
          setOption false other
      setOption isOn known
  | none => failOption letter

/-- Lists which options are set: as a table, or as commands that would set them. -/
def listOptions (isTable : Bool) (set : List Char) : Run Unit := do
  let lines :=
    optionNames.map fun entry =>
      let isOn := set.contains entry.2
      if isTable then
        Text.ofString entry.1 ++ List.replicate (16 - entry.1.length) (.char ' ') ++
          Text.ofString (if isOn then "on\n" else "off\n")
      else Text.ofString (if isOn then "set -o " else "set +o ") ++ Text.ofString entry.1 ++
        [.char '\n']
  let header := if isTable then Text.ofString "Current option settings\n" else []
  let _ ← print (Text.bytes (header ++ lines.flatten))

/-- Sets an option that is given by its name. -/
def setNamed (isOn : Bool) (name : Text) : Run Unit := do
  match optionNames.find? fun entry => Text.ofString entry.1 == name with
  | some entry => setOption isOn entry.2
  | none => Run.fail (Text.ofString "Illegal option -o " ++ name)

/-- Sets the options of one argument. The option for a name takes the next argument. -/
def setLetters (isOn : Bool) (arguments : List Text) : Text → Run (List Text)
  | [] => return arguments
  | letter :: letters => do
      if letter = .char 'o' then
        match arguments with
        | [] =>
            listOptions isOn (← Run.process).options
            setLetters isOn [] letters
        | name :: rest =>
            setNamed isOn name
            setLetters isOn rest letters
      else
        setLetter isOn letter
        setLetters isOn arguments letters

/-- Sets the positional parameters. -/
def setParameters (parameters : List Text) : Run Unit :=
  Run.changeProcess fun process => { process with parameters := parameters, optionIndex := some 1, optionOffset := none }

/-- Sets options, and the positional parameters if operands are given. -/
def setAll : Nat → Builtin
  | 0, _ => return 0
  | fuel + 1, arguments => do
      match arguments with
      | [] => return 0
      | [.char '-'] :: rest => do
          setOption false 'x'
          setOption false 'v'
          unless rest = [] do
            setParameters rest
          return 0
      | [.char '-', .char '-'] :: rest => do
          setParameters rest
          return 0
      | (.char '-' :: letters) :: rest => setAll fuel (← setLetters true rest letters)
      | (.char '+' :: letters) :: rest => setAll fuel (← setLetters false rest letters)
      | operands => do
          setParameters operands
          return 0

/-- Sets options and parameters; without arguments it lists the variables. -/
def setOptions : Builtin := fun arguments => do
  if arguments = [] then
    listVariables [] ((← Run.process).bindings.filter fun entry => entry.2.value.isSome)
  else
    let status ← setAll (arguments.length + 1) arguments
    settleJobControl (← Run.hasOption 'm')
    return status

/-- Drops positional parameters from the front. -/
def shift : Builtin := fun arguments => do
  let count ←
    match arguments with
    | [] => pure 1
    | word :: _ => Run.number word
  let parameters := (← Run.process).parameters
  if parameters.length < count then Run.fail (Text.ofString "can't shift that many")
  else
    setParameters (parameters.drop count)
    return 0

/-! ## Options of scripts -/

/-- What was found where the next option is looked for. -/
inductive NextOption where
  | none
  | plain (letter : Symbol)
  | valued (letter : Symbol) (value : Text)
  | missing (letter : Symbol)
  | illegal (letter : Symbol)

/-- What follows a letter among the permitted ones, of which some are marked with a colon. -/
def afterPermitted? (letter : Symbol) : Text → Option Text
  | [] => none
  | permitted :: .char ':' :: rest =>
      if permitted = letter then some (.char ':' :: rest) else afterPermitted? letter rest
  | permitted :: rest => if permitted = letter then some rest else afterPermitted? letter rest

/-- The letters that are left of an argument that was begun, or else of the next argument, and how
many arguments are begun then. -/
def findLetters (operands : List Text) (index : Nat) (offset : Option Nat) :
    Option Text × Nat :=
  let begun :=
    match offset with
    | some offset => if index ≤ 1 then [] else ((operands[index - 2]?).getD []).drop offset
    | none => []
  if begun ≠ [] then (some begun, index - 1)
  else
    match operands[index - 1]? with
    | some [.char '-', .char '-'] => (none, index)
    | some (.char '-' :: letter :: letters) => (some (letter :: letters), index)
    | _ => (none, index - 1)

/-- Looks for the next option. The result also tells how many arguments are begun, and the letters
that are left of the last one. -/
def findOption (permitted : Text) (operands : List Text) (index : Nat) (offset : Option Nat) :
    NextOption × Nat × Option Text :=
  match findLetters operands index offset with
  | (some (letter :: rest), begun) =>
      match afterPermitted? letter permitted with
      | none => (.illegal letter, begun, some rest)
      | some (.char ':' :: _) =>
          if rest ≠ [] then (.valued letter rest, begun, none)
          else
            match operands[begun]? with
            | some value => (.valued letter value, begun + 1, none)
            | none => (.missing letter, begun, none)
      | some _ => (.plain letter, begun, some rest)
  | (_, begun) => (.none, begun, none)

/-- Prints a message of the option reader. -/
def printOptionMessage (text : Text) (letter : Symbol) (more : Text) : Run Unit := do
  let _ ← Run.write 2 (Text.bytes (text ++ [letter] ++ more ++ [.char '\n']))

/-- The variable with the value of an option. -/
def optionValueName : Text :=
  Text.ofString "OPTARG"

/-- Sets the value of an option that is not as it should be, or complains about it. The result is what
the option reader gives in its place. -/
def noteBadOption (isSilent : Bool) (letter silently : Symbol) (text more : String) :
    Run Symbol := do
  if isSilent then
    Run.assign optionValueName [letter]
    return silently
  else
    printOptionMessage (Text.ofString text) letter (Text.ofString more)
    Run.putVariable optionValueName none
    return .char '?'

/-- Takes the next option of a script into a variable. -/
def takeOption : Builtin := fun arguments => do
  match arguments with
  | permitted :: name :: given => do
      let process ← Run.process
      let operands := if given = [] then process.parameters else given
      let (index, offset) :=
        match process.optionIndex with
        | some index =>
            if operands.length + 1 < index then (1, none) else (index, process.optionOffset)
        | none => (1, none)
      Run.changeProcess fun process => { process with optionIndex := none }
      let (found, begun, left) := findOption permitted operands index offset
      let isSilent := permitted.head? == some (.char ':')
      let result ←
        match found with
        | .none => pure (Symbol.char '?')
        | .plain letter => do
            Run.assign optionValueName []
            pure letter
        | .valued letter value => do
            Run.assign optionValueName value
            pure letter
        | .missing letter => noteBadOption isSilent letter (.char ':') "No arg for -" " option"
        | .illegal letter => noteBadOption isSilent letter (.char '?') "Illegal option -" ""
      Run.assignQuietly Run.optionIndexName (Text.ofInt (begun + 1))
      Run.assign (← variableName name) [result]
      let length := ((operands[begun - 1]?).getD []).length
      Run.changeProcess fun process =>
        { process with
          optionIndex := some (begun + 1)
          optionOffset := left.map fun rest => length - rest.length }
      return match found with
        | .none => 1
        | _ => 0
  | _ => Run.fail (Text.ofString "Usage: getopts optstring var [arg...]")

end Builtin

end Script

end CommandChain

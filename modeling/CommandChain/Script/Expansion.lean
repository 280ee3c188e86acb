import CommandChain.Script.Arithmetic
import CommandChain.Script.Pathname
import CommandChain.Script.Supply

/-!
# Expansion

Before a command runs, its words are expanded: parameters are replaced by their values, substituted
commands by what they print, and arithmetic expressions by their results. What comes from outside
quotes is then split into fields.
-/

namespace CommandChain

namespace Script

/-- How a command is run: whether nothing comes after it in its process, and whether its failure is
looked at by another command. -/
structure Mode where
  isLast : Bool := false
  isTested : Bool := false
  deriving DecidableEq

/-- How a word is expanded: whether it becomes fields, and whether what stands in it literally is
split as well. -/
structure Splits where
  values : Bool
  literals : Bool
  deriving DecidableEq

/-- The steps of the depth below. -/
structure Inner where
  run : Tree → Mode → Run Unit
  expand : Splits → Word → Run (List Mark)
  /-- runs a command in a process of its own and returns what it prints -/
  capture : Tree → Run (List UInt8)
  /-- runs a script in the process, of which some text is at hand -/
  evaluate : Supply → Text → (isTested : Bool) → Run Unit
  /-- starts an interpreter under a name with arguments; the result is its raw status -/
  start : Text → List Text → Run Int

/-! ## Parameters -/

/-- The letters of the options, in the order in which they are listed. -/
def optionLetters : List Char :=
  ['u', 'p', 'b', 'a', 'C', 'E', 'V', 'v', 'x', 's', 'n', 'm', 'i', 'I', 'f', 'e']

/-- The value of a parameter other than all positional ones, if it is set. -/
def parameterValue? (process : Process) (name : Text) : Option Text :=
  if name = [.char '#'] then some (Text.ofInt process.parameters.length)
  else if name = [.char '?'] then some (Text.ofInt process.status)
  else if name = [.char '$'] then some (Text.ofInt process.number)
  else if name = [.char '!'] then process.background.map fun number => Text.ofInt number
  else if name = [.char '-'] then
    some ((optionLetters.filter process.options.contains).map Symbol.char)
  else
    match name.toDecimal? with
    | some 0 => some process.name
    | some (position + 1) => process.parameters[position]?
    | none => (process.bindings.lookup name).bind Variable.value

/-- A name that stands for all positional parameters. -/
def standsForAll (name : Text) : Bool :=
  name == [.char '@'] || name == [.char '*']

/-- The zero byte, which no value holds, where the positional parameters of a joined value end. -/
def parameterEnd : Symbol :=
  .char (Char.ofNat 0)

/-- Puts field ends between marks. -/
def separated : List (List Mark) → List Mark
  | [] => []
  | [only] => only
  | first :: second :: rest => first ++ .fieldEnd :: separated (second :: rest)

/-- The positional parameters as one text. Where they become fields, zero bytes stand between
them. -/
def joinedParameters (splits isQuoted : Bool) (name : Text) : Run Text := do
  let hasSeparators := (← Run.value? (Text.ofString "IFS")).isSome
  let joiner ←
    if splits = true ∧ isQuoted = true ∧ name = [.char '@'] then pure [parameterEnd]
    else if splits = true ∧ isQuoted = false ∧ hasSeparators = true then pure [parameterEnd]
    else Run.joiner
  return Text.joinWith joiner (← Run.process).parameters

/-- The marks of a text that joins positional parameters. Quoted ones are fields even if they are
empty, but where there are none, there is no field. -/
def joinedMarks (splits isQuoted isNone : Bool) (text : Text) : List Mark :=
  let pieces := text.cutAt parameterEnd
  if isQuoted then
    if isNone then []
    else if splits then separated (pieces.map fun value => .quotation :: marksOf true false value)
    else marksOf true false text
  else separated (pieces.map fun value => marksOf false splits value)

/-- The marks of all positional parameters, as a step changes their text. -/
def allParameterMarks (splits isQuoted : Bool) (name : Text) (change : Text → Text) :
    Run (List Mark) := do
  let text ← joinedParameters splits isQuoted name
  let isField := splits && name == [.char '@']
  let isNone := isField && (← Run.process).parameters.isEmpty
  return joinedMarks (if isQuoted then isField else splits) isQuoted isNone (change text)

/-- The value of a parameter as one text, if it is set. -/
def wholeValue? (name : Text) : Run (Option Text) := do
  let process ← Run.process
  if standsForAll name then
    return if process.parameters = [] then some []
      else some (Text.joinWith [.char ' '] process.parameters)
  else return parameterValue? process name

/-- Complains that a parameter has no value. -/
def failUnset {result : Type} (name message : Text) : Run result :=
  Run.fail (name ++ Text.ofString ": " ++ message)

/-- The complaint about a parameter without value. -/
def unsetMessage : Text :=
  Text.ofString "parameter not set"

/-- The value of a parameter that has to be set where the options ask for that. -/
def requiredValue (name : Text) : Run Text := do
  match ← wholeValue? name with
  | some value => return value
  | none =>
      if ← Run.hasOption 'u' then failUnset name unsetMessage
      else return []

/-- The marks of a parameter's value. -/
def valueMarks (splits : Splits) (name : Text) (isQuoted : Bool) : Run (List Mark) := do
  if standsForAll name then allParameterMarks splits.values isQuoted name id
  else
    let value ← requiredValue name
    return marksOf isQuoted (splits.values && !isQuoted) value

/-- Expands a word to one text. -/
def expandText (inner : Inner) (word : Word) : Run Text := do
  return textOf (← inner.expand ⟨false, false⟩ word)

/-- Uses something in place of the value of a parameter. -/
def substitute (inner : Inner) (splits : Splits) (name : Text) (isQuoted : Bool)
    (kind : Substitute) (countsEmpty : Bool) (word : Word) : Run (List Mark) := do
  let value ← wholeValue? name
  let hasValue :=
    match value with
    | none => false
    | some text => !(countsEmpty && text.isEmpty)
  match kind, hasValue with
  | .useAlternative, true => inner.expand { splits with literals := splits.values } word
  | .useAlternative, false => return []
  | _, true => valueMarks splits name isQuoted
  | .useDefault, false => inner.expand { splits with literals := splits.values } word
  | .assignDefault, false => do
      let new ← expandText inner word
      if isName name then
        Run.assign name new
        valueMarks splits name isQuoted
      else Run.fail (name ++ Text.ofString ": bad variable name")
  | .complain, false => do
      if word.isEmpty then
        failUnset name
          (unsetMessage ++ if countsEmpty then Text.ofString " or null" else [])
      else failUnset name (← expandText inner word)

/-- Expands a parameter. -/
def expandParameter (inner : Inner) (splits : Splits) (name : Text) (use : ParameterUse)
    (isQuoted : Bool) : Run (List Mark) := do
  let isSplit := splits.values && !isQuoted
  match use with
  | .value => valueMarks splits name isQuoted
  | .length => do
      let value ← requiredValue name
      return marksOf isQuoted isSplit (Text.ofInt value.length)
  | .substitute kind countsEmpty word =>
      substitute inner splits name isQuoted kind countsEmpty word
  | .trim kind pattern => do
      if standsForAll name then
        let cutting := Pattern.ofMarks (← inner.expand ⟨false, false⟩ pattern)
        allParameterMarks splits.values isQuoted name (cutting.cut kind)
      else
        let value ← requiredValue name
        let cutting := Pattern.ofMarks (← inner.expand ⟨false, false⟩ pattern)
        return marksOf isQuoted isSplit (cutting.cut kind value)
  | .malformed => Run.fail (Text.ofString "Bad substitution")

/-! ## Words -/

/-- The home directory that a name after a tilde means, if there is one. -/
def homeOf? (name : Text) : Run (Option Text) := do
  if name = [] then Run.value? (Text.ofString "HOME")
  else if name = Text.ofString "root" then return some (Text.ofString "/root")
  else return none

/-- A piece of a word with the home directory in place of a tilde at its start. A piece that the
word goes on after has to say where the name ends. -/
def homePiece (goesOn : Bool) (piece : Text) : Run Word := do
  match piece with
  | .char '~' :: text =>
      let (name, path) := text.span (· != FileTree.slash)
      if path = [] ∧ goesOn = true then return [.literal piece false]
      else
        match ← homeOf? name with
        | some home =>
            return [.quotation, .literal home true] ++
              if path = [] then [] else [.literal path false]
        | none => return [.literal piece false]
  | _ => return [.literal piece false]

/-- A word with the home directory in place of a tilde at its start. -/
def withHome (word : Word) : Run Word := do
  match word with
  | .literal text false :: rest => return (← homePiece (!rest.isEmpty) text) ++ rest
  | _ => return word

/-- The separator of the paths in an assigned value. -/
def homeSeparator : Symbol :=
  .char ':'

/-- Pieces of a word that separators are put between, with home directories. -/
def homePieces (goesOn : Bool) : List Text → Run Word
  | [] => return []
  | [last] => homePiece goesOn last
  | piece :: rest => do
      let first ← homePiece false piece
      return first ++ .literal [homeSeparator] false :: (← homePieces goesOn rest)

/-- An assigned word with home directories, at its start and after each separator. -/
def withAssignedHomes : (isStart : Bool) → Word → Run Word
  | _, [] => return []
  | isStart, .literal text false :: rest => do
      let (first, later) := if isStart then ([], text) else text.span (· != homeSeparator)
      let pieces ← homePieces (!rest.isEmpty) (later.cutAt homeSeparator)
      return .literal first false :: pieces ++ (← withAssignedHomes false rest)
  | _, part :: rest => do return part :: (← withAssignedHomes false rest)

/-- Evaluates an arithmetic expression and assigns the variables that it assigns. -/
def evaluateArithmetic (expression : Text) : Run Int := do
  let process ← Run.process
  match Arithmetic.evaluate (parameterValue? process) expression with
  | .error failure => Run.fail (failure.message expression)
  | .ok (value, assigned) => do
      for entry in assigned do
        Run.assign entry.1 (Text.ofInt entry.2)
      return value

/-- What a command printed, as a value: without zero bytes and without line ends at its end. -/
def printedValue (bytes : List UInt8) : Text :=
  let text := (bytes.filter (· != 0)).map Symbol.ofByte
  (text.reverse.dropWhile (· == .char '\n')).reverse

/-- Expands a part of a word. -/
def expandPart (inner : Inner) (splits : Splits) : WordPart → Run (List Mark)
  | .literal text isQuoted => return marksOf isQuoted (splits.literals && !isQuoted) text
  | .quotation => return [.quotation]
  | .parameter name use isQuoted => expandParameter inner splits name use isQuoted
  | .substitution body isQuoted => do
      let value := printedValue (← inner.capture body)
      return marksOf isQuoted (splits.values && !isQuoted) value
  | .arithmetic expression isQuoted => do
      let value ← evaluateArithmetic (← expandText inner expression)
      return marksOf isQuoted (splits.values && !isQuoted) (Text.ofInt value)

/-- Expands the parts of a word in order. -/
def expandParts (inner : Inner) (splits : Splits) : Word → Run (List Mark)
  | [] => return []
  | part :: rest => do
      let first ← expandPart inner splits part
      return first ++ (← expandParts inner splits rest)

/-- Expands a word to marks. -/
def expandMarks (inner : Inner) (splits : Splits) (word : Word) : Run (List Mark) := do
  expandParts inner splits (← withHome word)

/-- Expands the words of a command to fields. A field that is a pattern for the names of files becomes
those names, if there are any and the options do not forbid that. -/
def expandWord (inner : Inner) (word : Word) : Run (List Text) := do
  let marks ← expandMarks inner ⟨true, false⟩ word
  let fields := fieldsOf (← Run.separators) marks
  if ← Run.hasOption 'f' then return fields.map textOf
  else
    let place ← Run.place
    return fields.flatMap (Pathname.expand place)

/-- Expands words to fields, in order. -/
def expandWords (inner : Inner) : List Word → Run (List Text)
  | [] => return []
  | word :: rest => do
      let fields ← expandWord inner word
      return fields ++ (← expandWords inner rest)

/-- Expands a word that stays one text. -/
def expandWhole (inner : Inner) (word : Word) : Run Text := do
  return textOf (← expandMarks inner ⟨false, false⟩ word)

/-- Expands a word that is assigned. -/
def expandAssigned (inner : Inner) (word : Word) : Run Text := do
  return textOf (← expandParts inner ⟨false, false⟩ (← withAssignedHomes true word))

/-- Expands a pattern. -/
def expandPattern (inner : Inner) (word : Word) : Run Pattern := do
  return Pattern.ofMarks (← expandMarks inner ⟨false, false⟩ word)

end Script

end CommandChain

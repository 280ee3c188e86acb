import CommandChain.Program.Cat
import CommandChain.Program.Echo
import CommandChain.Program.Printf
import CommandChain.Script.Builtin.Aliases
import CommandChain.Script.Builtin.Control
import CommandChain.Script.Builtin.Directory
import CommandChain.Script.Builtin.Jobs
import CommandChain.Script.Builtin.Printing
import CommandChain.Script.Builtin.Variables
import CommandChain.Script.Grammar
import CommandChain.Script.Redirection

/-!
# Simple commands

A simple command assigns variables, or calls a function, a builtin command or a program. Its words
are expanded first, then its redirections act, and then its variables are assigned. Assignments in
front of a call last as long as the call, unless that is a special builtin command.
-/

namespace CommandChain

/-- The program of a utility. What the interpreter does is given. -/
def Utility.program (interpreter : Program) : Utility → Program
  | .succeed => Program.ending 0
  | .fail => Program.ending 1
  | .echo => Program.echo
  | .printf => Program.printf
  | .cat => Program.cat
  | .interpreter => interpreter

namespace Script

/-! ## Programs -/

/-- Runs a utility in place of the process, under the name that it is called by. The result is its
raw status. -/
def runUtility (inner : Inner) (utility : Utility) (name : Text) (arguments : List Text) :
    Run Int := do
  if utility = .interpreter then inner.start name arguments
  else
    let process ← Run.process
    Run.onFiles
      (utility.program (Program.ending 0)
        { ownName := name.regrouped
          arguments := arguments.map Text.regrouped
          descriptors := process.descriptors
          directory := process.directory })

/-- Replaces the process by the program that a path leads to. -/
def execute (inner : Inner) (name path : Text) (arguments : List Text) : Run Unit := do
  match (← Run.place).resolve path >>= fun found => FileTree.start found.1 with
  | .ok utility => throw (.replaced (← runUtility inner utility name arguments))
  | .error number => do
      Meaning.complain name number
      Run.setStatus (Meaning.status number)
      throw .ends

/-- Runs the program that a path leads to. The last one of a process takes its place. -/
def runProgram (inner : Inner) (mode : Mode) (name path : Text) (arguments : List Text) :
    Run Unit := do
  unless FileTree.slash ∈ name do
    Meaning.rememberFound name path
  if mode.isLast && !(← Run.hasTraps) then execute inner name path arguments
  else runAndWait inner (execute inner name path arguments)

/-! ## Functions -/

/-- The most functions that may be open. -/
def mostFunctions : Nat :=
  1000

/-- Calls a function. -/
def runFunction (inner : Inner) (mode : Mode) (body : Tree) (arguments : List Text) :
    Run Unit := do
  let outer ← Run.process
  if mostFunctions ≤ outer.functionDepth then
    Run.fail
      (Text.ofString "Maximum function recursion depth (" ++ Text.ofInt mostFunctions ++
        Text.ofString ") reached")
  else
    Run.changeProcess fun process =>
      { process with
        parameters := arguments
        optionIndex := some 1
        optionOffset := none
        loops := 0
        functionDepth := outer.functionDepth + 1 }
    let outcome ← Run.attempt (inner.run body { isTested := mode.isTested })
    Run.changeProcess fun process =>
      { process with
        parameters := outer.parameters
        optionIndex := outer.optionIndex
        optionOffset := outer.optionOffset
        loops := outer.loops
        functionDepth := outer.functionDepth }
    match outcome with
    | .error .returns => return ()
    | other => Run.resume other

/-! ## Builtin commands that run others -/

/-- Runs a script that is given in pieces. -/
def evaluateAll (inner : Inner) (mode : Mode) : Builtin := fun arguments => do
  if arguments = [] then return 0
  else
    inner.evaluate .nothing (Text.joinWith [.char ' '] arguments) mode.isTested
    return (← Run.process).status

/-- The path of a script with a name, for which directories are searched. -/
def scriptPath (name : Text) : Run Text := do
  if FileTree.slash ∈ name then return name
  else
    let process ← Run.process
    let files := (← Run.world).files
    let isScript := fun (path : Text) =>
      (files.statusOfPath process.descriptors process.directory true path).any fun status =>
        status.kind == .regular
    let paths := (← Meaning.searchedDirectories false).map (Meaning.pathIn · name)
    match paths.find? isScript with
    | some path => return path
    | none => Run.fail (name ++ Text.ofString ": not found")

/-- Runs the script in a file. -/
def runFile (inner : Inner) (mode : Mode) : Builtin := fun arguments => do
  let (_, operands) ← Builtin.options [] arguments
  match operands with
  | [] => return 0
  | name :: _ => do
      let path ← scriptPath name
      let stream ← ExpandedRedirect.openFile .reading path
      Run.changeProcess fun process => { process with command := some path }
      match ← Run.attempt (inner.evaluate (.opened stream) [] mode.isTested) with
      | .error .returns => return (← Run.process).status
      | outcome => do
          Run.resume outcome
          return (← Run.process).status

/-- Replaces the process by a program, if one is given. -/
def replace (inner : Inner) (isStandard : Bool) : Builtin := fun arguments => do
  match arguments with
  | [] => return 0
  | name :: rest => do
      let found ←
        if FileTree.slash ∈ name then pure (.ok name)
        else do
          let directories ← Meaning.searchedDirectories isStandard
          pure (Meaning.search (← Run.place) name directories SystemError.noEntry)
      match found with
      | .ok path => execute inner name path rest
      | .error number => do
          Meaning.complain name number
          Run.setStatus (Meaning.status number)
          throw .ends
      return 0

/-- Tells what the name of a command stands for, if that is asked for. -/
def describeCommand : Builtin := fun arguments => do
  let (given, operands) ← Builtin.options ['p', 'v', 'V'] arguments
  let isGiven := fun (letter : Char) => given.any fun option => option.1 == letter
  match operands with
  | [] => return 0
  | name :: _ =>
      if isGiven 'v' || isGiven 'V' then Meaning.describe (isGiven 'V') (isGiven 'p') name
      else return 0

/-- The builtin commands that run no other command, by name. -/
def plainBuiltins : List (String × Builtin) :=
  [(":", Builtin.ending 0), ("true", Builtin.ending 0), ("times", Builtin.times),
    ("ulimit", Builtin.ulimit), ("false", Builtin.ending 1), ("echo", Builtin.echo), ("printf", Builtin.printf),
    ("exit", Builtin.exit), ("return", Builtin.returnFrom),
    ("break", Builtin.leaveLoops Stop.breaks), ("continue", Builtin.leaveLoops Stop.continues),
    ("shift", Builtin.shift), ("set", Builtin.setOptions), ("export", Builtin.exportVariables),
    ("readonly", Builtin.protect), ("local", Builtin.localVariables), ("unset", Builtin.unset),
    ("trap", Builtin.trap), ("read", Builtin.read), ("getopts", Builtin.takeOption),
    ("kill", Builtin.kill), ("jobs", Builtin.jobs), ("fg", Builtin.moveJob),
    ("bg", Builtin.moveJob), ("cd", Builtin.changeDirectory),
    ("chdir", Builtin.changeDirectory), ("pwd", Builtin.printDirectory), ("umask", Builtin.umask),
    ("test", Builtin.conditionStatus), ("[", Builtin.bracket), ("hash", Meaning.hash),
    ("type", Meaning.describeAll 0), ("command", describeCommand), ("alias", Builtin.defineAliases),
    ("unalias", Builtin.unalias)]

/-- The builtin command with a name. One that is left out does nothing. -/
def builtinNamed (inner : Inner) (mode : Mode) (isStandard : Bool) (name : Text) : Builtin :=
  if name = Text.ofString "eval" then evaluateAll inner mode
  else if name = Text.ofString "." then runFile inner mode
  else if name = Text.ofString "wait" then Builtin.wait inner
  else if name = Text.ofString "exec" then replace inner isStandard
  else
    match plainBuiltins.find? fun entry => Text.ofString entry.1 == name with
    | some entry => entry.2
    | none => Builtin.ending 0

/-- Runs a builtin command. An error in one that is not special leaves nothing but a status. -/
def runBuiltin (builtin : Builtin) (isSpecial : Bool) (name : Text) (arguments : List Text) :
    Run Unit := do
  let outer := (← Run.process).command
  Run.changeProcess fun process => { process with command := some name }
  let outcome ← Run.attempt (builtin arguments)
  Run.changeProcess fun process => { process with command := outer }
  match outcome with
  | .ok status => Run.setStatus status
  | .error .fails => if isSpecial then throw .fails else return ()
  | .error stop => throw stop

/-! ## Calls -/

/-- A call of a command: its words, and how the first one is looked up. -/
structure Call where
  words : List Text
  skipsFunctions : Bool := false
  isStandard : Bool := false

namespace Call

/-- The name of the command that runs another one without functions. -/
def plainCommand : Text :=
  Text.ofString "command"

/-- What follows the options of `command`, if they only ask for how another command is run, and
whether the standard utilities are asked for. -/
def afterOptions? : List Text → Option (Bool × List Text)
  | [] => none
  | [.char '-', .char '-'] :: rest => if rest = [] then none else some (false, rest)
  | (.char '-' :: letter :: letters) :: rest =>
      if (letter :: letters).all (· == .char 'p') then
        (afterOptions? rest).map fun found => (true, found.2)
      else none
  | words => some (false, words)

/-- Takes `command` away from the front of the words, as often as it stands there. -/
def unwrapped : Nat → Call → Call
  | 0, call => call
  | fuel + 1, call =>
      match call.words with
      | [] => call
      | name :: rest =>
          if name = plainCommand then
            match afterOptions? rest with
            | some (isStandard, words) =>
                unwrapped fuel
                  { words := words
                    skipsFunctions := true
                    isStandard := call.isStandard || isStandard }
            | none => call
          else call

/-- The call that words make. -/
def ofWords (words : List Text) : Call :=
  unwrapped words.length { words := words }

/-- The call is that of a special builtin command. An error in it ends the script. -/
def isSpecial (call : Call) : Bool :=
  !call.skipsFunctions && call.words.head?.any Builtin.specialNames.contains

/-- The call is the one that replaces the process, or keeps its redirections. -/
def isReplacement (call : Call) : Bool :=
  call.words.head? == some (Text.ofString "exec")

/-- Runs a call. Without words, the status is that of the last substitution. -/
def run (inner : Inner) (mode : Mode) (call : Call) : Run Unit := do
  match call.words with
  | [] => Run.setStatus (← Run.process).substituted
  | name :: arguments =>
      match ← Meaning.ofName call.skipsFunctions call.isStandard name with
      | .function body => runFunction inner mode body arguments
      | .builtin _ =>
          runBuiltin (builtinNamed inner mode call.isStandard name) call.isSpecial name arguments
      | .program path => runProgram inner mode name path arguments
      | .missing number => do
          Meaning.complain name number
          Run.setStatus Meaning.notFoundStatus

end Call

/-! ## Words, assignments and redirections -/

/-- Expands the words of a command. Where the command assigns, words that are assignments are not
split. -/
def expandCommand (inner : Inner) : (done : List Text) → List Word → Run (List Text)
  | done, [] => return done
  | done, word :: rest => do
      let assigns := (Call.ofWords done).words.head?.any Builtin.assigningNames.contains
      let fields ←
        match assigns, assignment? word with
        | true, some (name, value) => do
            pure [name ++ .char '=' :: (← expandAssigned inner value)]
        | _, _ => expandWord inner word
      expandCommand inner (done ++ fields) rest

/-- Assigns variables in order, and returns what was assigned. In a scope of its own, the variables
are exported. -/
def assignAll (inner : Inner) (isScoped isExported : Bool) : List Word → Run (List Text)
  | [] => return []
  | word :: rest => do
      match assignment? word with
      | none => assignAll inner isScoped isExported rest
      | some (name, valueWord) => do
          let value ← expandAssigned inner valueWord
          if isScoped then
            Run.remember name
          Run.assign name value
          if isScoped || isExported then
            Run.putVariable name
              ((← Run.variableNamed? name).map fun entry => { entry with isExported := true })
          return (name ++ .char '=' :: value) :: (← assignAll inner isScoped isExported rest)

/-- Prints a command on a stream, if the options ask for that. -/
def trace (inner : Inner) (errors : Option Endpoint) (words : List Text) : Run Unit := do
  match ← Run.hasOption 'x', errors with
  | true, some stream => do
      let lead ← Run.value? (Text.ofString "PS4")
      let expanded ← expandText inner (Source.quotedWord (lead.getD []))
      let _ ← Run.writeTo stream
        (Text.bytes (expanded ++ Text.joinWith [.char ' '] words ++ [.char '\n']))
  | _, _ => return ()

/-- Runs a simple command. -/
def runSimple (inner : Inner) (mode : Mode) (line : Nat) (assignments words : List Word)
    (redirects : List Redirect) : Run Unit := do
  Run.changeProcess fun process => { process with line := line, substituted := 0 }
  let fields ← expandCommand inner [] words
  let call :=
    if ((← Run.process).functions.lookup Call.plainCommand).isSome then { words := fields }
    else Call.ofWords fields
  let isScoped := !fields.isEmpty && !call.isSpecial
  let step : Run Unit := do
    let expanded ← Redirect.expandedAll inner redirects
    let errors ← Run.endpointAt 2
    let onFailure : Run Unit := if call.isSpecial then throw .fails else return ()
    ExpandedRedirect.runWith expanded call.isReplacement onFailure do
      let isExported := call.isReplacement && decide (1 < call.words.length)
      let assigned ← assignAll inner isScoped isExported assignments
      trace inner errors (assigned ++ fields)
      call.run inner mode
  if isScoped then Run.inScope step else step

end Script

end CommandChain

import CommandChain.Script.Mark
import CommandChain.Script.Signal
import CommandChain.Text.Integral

/-!
# Machines

A machine runs scripts. Its world is what all processes share: the input, what was written, the
buffers between commands, and the signals under way. Its process is what a subshell has a copy of
its own of: parameters, variables, functions, traps and open descriptors. A `Run` is a step of a machine
that may stop the process.
-/

namespace CommandChain

namespace Script

/-! ## State -/

/-- A variable. One that was only exported or protected has no value. -/
structure Variable where
  value : Option Text
  isExported : Bool := false
  isReadOnly : Bool := false
  deriving DecidableEq

/-- A program that was found by a search, with its path. -/
structure Found where
  name : Text
  path : Text
  /-- the working directory changed after the search -/
  isStale : Bool := false
  deriving DecidableEq

/-- A job: a process in the background, by number, in a place of the list of jobs. -/
structure Job where
  slot : Nat
  number : Nat
  /-- its end was waited for -/
  isWaited : Bool := false
  deriving DecidableEq

/-- What belongs to one process. -/
structure Process where
  /-- the name of the script, which stands in front of complaints -/
  name : Text
  /-- the number of the interpreter, which its subshells share -/
  number : Nat
  /-- the number of the process itself -/
  ownNumber : Nat
  /-- the processes that started this one, the nearest first -/
  ancestors : List Nat := []
  parameters : List Text := []
  bindings : List (Text × Variable) := []
  functions : List (Text × Tree) := []
  /-- the words that are replaced where a command starts, in the order in which they were set -/
  aliases : List (Text × Text) := []
  documents : List (Nat × Word) := []
  /-- the number of the next document -/
  nextDocument : Nat := 0
  status : Nat := 0
  /-- the status of the last substitution in the words of a command -/
  substituted : Nat := 0
  options : List Char := []
  /-- what is done at a signal, or at the end; an empty action ignores the signal -/
  traps : List (Nat × Text) := []
  /-- the signals that were ignored from the start, which stay so -/
  ignored : List Nat := []
  descriptors : Descriptors
  directory : FileTree.Path := FileTree.workingDirectory
  /-- the working directory as it was asked for, where links keep their names -/
  directoryText : Text := FileTree.pathText FileTree.workingDirectory
  mask : Nat := 18
  /-- the line that complaints name -/
  line : Nat := 0
  /-- the builtin command that runs, which complaints name too -/
  command : Option Text := none
  /-- how many loops are open -/
  loops : Nat := 0
  /-- how many functions are open -/
  functionDepth : Nat := 0
  /-- the variables that the open scopes give back when they end, the inner scope first -/
  scopes : List (List (Text × Option Variable)) := []
  /-- the options that the open scopes give back when they end, the inner scope first -/
  savedOptions : List (Option (List Char)) := []
  background : Option Nat := none
  /-- the jobs, the last one first -/
  jobs : List Job := []
  /-- the programs that were found, the last one first -/
  found : List Found := []
  /-- the number of the argument from which the next option is taken, unless that has to start
  again -/
  optionIndex : Option Nat := some 1
  /-- how much of the argument before that is read -/
  optionOffset : Option Nat := none
  /-- the status before the action at a signal or at the end, while that runs -/
  interrupted : Option Nat := none

/-- A command in the background that has not run yet. -/
structure Pending where
  process : Process
  command : Tree

/-- What all processes share. -/
structure World where
  files : Files
  /-- the next number for a process -/
  nextProcess : Nat
  /-- signals that a process has not taken yet, with the number of the process -/
  signals : List (Nat × Nat) := []
  /-- the commands in the background that have not run yet, in order -/
  pending : List Pending := []
  /-- the raw statuses of processes in the background -/
  finished : List (Nat × Int) := []

/-- The state of a machine. -/
structure Machine where
  world : World
  process : Process

/-- Why a process does not go on where it was. -/
inductive Stop where
  /-- the process ends with its status -/
  | ends
  /-- a signal ends the process -/
  | killed (signal : Nat)
  /-- another program ran in place of the process -/
  | replaced (rawStatus : Int)
  /-- a complaint was made -/
  | fails
  /-- loops are left -/
  | breaks (count : Nat)
  /-- a loop goes on with its next turn, after the loops inside it are left -/
  | continues (count : Nat)
  /-- a function or a script returns -/
  | returns
  deriving DecidableEq

/-- A step of a machine. -/
abbrev Run (result : Type) : Type :=
  ExceptT Stop (StateM Machine) result

namespace Run

/-! ## The process and its world -/

/-- The process. -/
def process : Run Process := do
  return (← get).process

/-- The world. -/
def world : Run World := do
  return (← get).world

/-- Changes the process. -/
def changeProcess (change : Process → Process) : Run Unit :=
  modify fun machine => { machine with process := change machine.process }

/-- Changes the world. -/
def changeWorld (change : World → World) : Run Unit :=
  modify fun machine => { machine with world := change machine.world }

/-- Sets the status. -/
def setStatus (status : Nat) : Run Unit :=
  changeProcess fun process => { process with status := status }

/-- Runs a step on the files. -/
def onFiles {result : Type} (step : FileStep result) : Run result := do
  let (value, files) := step (← world).files
  changeWorld fun world => { world with files := files }
  return value

/-- A number for a new process. -/
def freshProcess : Run Nat := do
  let number := (← world).nextProcess
  changeWorld fun world => { world with nextProcess := number + 1 }
  return number

/-- Runs a step and returns how it stopped, if it did. -/
def attempt {result : Type} (run : Run result) : Run (Except Stop result) := fun machine =>
  match run machine with
  | (outcome, after) => (.ok outcome, after)

/-- Goes on with the outcome of a step that was attempted. -/
def resume {result : Type} : Except Stop result → Run result
  | .ok value => return value
  | .error stop => throw stop

/-- The place of the process in the file tree. -/
def place : Run FileTree.Place := do
  let machine ← get
  return machine.world.files.place machine.process.descriptors machine.process.directory

/-- The status of what a path leads to. -/
def statusOfPath (followsLast : Bool) (path : Text) : Run (Option Files.FileStatus) := do
  let machine ← get
  let process := machine.process
  return machine.world.files.statusOfPath process.descriptors process.directory followsLast path

/-! ## Descriptors -/

/-- Where a descriptor leads, if it is open. -/
def endpointAt (descriptor : Nat) : Run (Option Endpoint) := do
  return (← process).descriptors.lookup descriptor

/-- Lets a descriptor lead somewhere, or closes it. -/
def setEndpoint (descriptor : Nat) (stream : Option Endpoint) : Run Unit :=
  changeProcess fun process =>
    let others := process.descriptors.filter fun entry => entry.1 != descriptor
    { process with descriptors := stream.toList.map (fun target => (descriptor, target)) ++ others }

/-- Opens a path. -/
def openPath (opening : Opening) (path : Text) : Run (Except Int Endpoint) := do
  let current ← process
  onFiles
    (Files.openPath current.descriptors current.directory (current.options.contains 'C') opening path)

/-- The signal of a process that writes to a pipe which is read no more. -/
def brokenPipeSignal : Nat :=
  13

/-- Writes bytes to a stream. The result tells whether they were taken. A pipe that is read no more
ends the process, unless the signal for that is taken care of. -/
def writeTo (stream : Endpoint) (bytes : List UInt8) : Run Bool := do
  if bytes = [] then return true
  else
    match ← onFiles (Files.write stream bytes) with
    | .ok () => return true
    | .error number =>
        let current ← process
        let isTaken :=
          current.ignored.contains brokenPipeSignal ||
            (current.traps.lookup brokenPipeSignal).isSome
        if number = SystemError.brokenPipe ∧ isTaken = false then throw (.killed brokenPipeSignal)
        else return false

/-- Writes bytes to a descriptor. The result tells whether they were taken. -/
def write (descriptor : Nat) (bytes : List UInt8) : Run Bool := do
  match ← endpointAt descriptor with
  | some stream => writeTo stream bytes
  | none => return decide (bytes = [])

/-- The bytes that a descriptor still gives. -/
def available (descriptor : Nat) : Run (List UInt8) := do
  match ← endpointAt descriptor with
  | some stream =>
      match (← world).files.available stream with
      | .ok bytes => return bytes
      | .error _ => return []
  | none => return []

/-- Takes bytes from a descriptor. -/
def skip (descriptor count : Nat) : Run Unit := do
  match ← endpointAt descriptor with
  | some stream => onFiles (Files.skip stream count)
  | none => return ()

/-- Drops the open files and pipes that a step made and that nothing leads to any more. While
commands wait in the background, everything is kept for them. -/
def dropUnused (before : Nat) : Run Unit := do
  if (← world).pending.isEmpty then
    let descriptors := (← process).descriptors
    changeWorld fun world => { world with files := world.files.dropFrom before descriptors }

/-! ## Complaints -/

/-- A complaint as it is printed: the name of the script, the line, and the builtin command that
runs stand in front of it. -/
def complaintLine (process : Process) (text : Text) : Text :=
  process.name ++ Text.ofString ": " ++ Text.ofInt process.line ++ Text.ofString ": " ++
    (match process.command with
      | some command => command ++ Text.ofString ": "
      | none => []) ++
    text ++ [.char '\n']

/-- Complains. -/
def complain (text : Text) : Run Unit := do
  let _ ← write 2 (complaintLine (← process) text).bytes

/-- The status after a complaint. -/
def failureStatus : Nat :=
  2

/-- Complains and stops. -/
def fail {result : Type} (text : Text) : Run result := do
  complain text
  setStatus failureStatus
  throw .fails

/-! ## Options and variables -/

/-- An option is set. -/
def hasOption (letter : Char) : Run Bool := do
  return (← process).options.contains letter

/-- A variable, if there is one with the name. -/
def variableNamed? (name : Text) : Run (Option Variable) := do
  return (← process).bindings.lookup name

/-- The value of a variable, if it has one. -/
def value? (name : Text) : Run (Option Text) := do
  return (← variableNamed? name).bind Variable.value

/-- Complains about a variable that may not be changed. -/
def failReadOnly {result : Type} (name : Text) : Run result :=
  fail (name ++ Text.ofString ": is read only")

/-- Puts a variable in place of the one with its name, or takes that away. -/
def putVariable (name : Text) (new : Option Variable) : Run Unit :=
  changeProcess fun process =>
    let others := process.bindings.filter fun entry => entry.1 != name
    { process with bindings := new.toList.map (fun entry => (name, entry)) ++ others }

/-- Complains about a number. -/
def failNumber {result : Type} (word : Text) : Run result :=
  fail (Text.ofString "Illegal number: " ++ word)

/-- The largest number that is taken. -/
def largestNumber : Int :=
  Int.pow 2 31 - 1

/-- Reads a number that is not negative. -/
def number (word : Text) : Run Nat := do
  let signed := Text.takeSign (word.dropWhile Symbol.isAsciiBlank)
  match Text.takeNumber? 10 signed.2 with
  | some (value, rest) =>
      let isNegative := signed.1 && value != 0
      if rest.all Symbol.isAsciiBlank ∧ isNegative = false ∧ Int.ofNat value ≤ largestNumber then
        return value
      else failNumber word
  | none => failNumber word

/-- The variable with the directories that are searched. -/
def pathName : Text :=
  Text.ofString "PATH"

/-- The variable with the number of the next argument that is looked at for options. -/
def optionIndexName : Text :=
  Text.ofString "OPTIND"

/-- Does what a new value of a variable brings with it: other directories are searched anew, and
options are taken from another argument on. -/
def noticeValue (name value : Text) : Run Unit := do
  if name = pathName then
    changeProcess fun process => { process with found := [] }
  else if name = optionIndexName then
    let index ← number value
    changeProcess fun process =>
      { process with optionIndex := some (max index 1), optionOffset := none }

/-- Gives a variable a value, without doing what that brings with it. -/
def assignQuietly (name value : Text) : Run Unit := do
  let old := (← variableNamed? name).getD { value := none }
  if old.isReadOnly then failReadOnly name
  else
    let isExported := old.isExported || (← hasOption 'a')
    putVariable name (some { old with value := some value, isExported := isExported })

/-- Gives a variable a value. -/
def assign (name value : Text) : Run Unit := do
  if ((← variableNamed? name).any Variable.isReadOnly) then failReadOnly name
  else
    noticeValue name value
    assignQuietly name value

/-- Gives a variable a value and exports it. -/
def assignExported (name value : Text) : Run Unit := do
  assign name value
  putVariable name ((← variableNamed? name).map fun entry => { entry with isExported := true })

/-- The separators at which values are split. -/
def separators : Run Text := do
  return (← value? (Text.ofString "IFS")).getD blankSeparators

/-- The text that joins the positional parameters to one value: the first separator. -/
def joiner : Run Text := do
  return match ← value? (Text.ofString "IFS") with
    | some value => value.take 1
    | none => [.char ' ']

/-- Remembers a variable, so that the innermost scope gives it back. -/
def remember (name : Text) : Run Unit := do
  let old ← variableNamed? name
  changeProcess fun process =>
    { process with
      scopes :=
        match process.scopes with
        | scope :: outer =>
            (if (scope.lookup name).isSome then scope else (name, old) :: scope) :: outer
        | [] => [] }

/-- Gives back the variables of a scope. -/
def giveBack : List (Text × Option Variable) → Run Unit
  | [] => return ()
  | (name, old) :: rest => do
      putVariable name old
      noticeValue name ((old.bind Variable.value).getD [])
      giveBack rest

/-- Runs a step in a scope of its own: the variables that it remembers are given back after it, and
so are the options if they were saved. -/
def inScope {result : Type} (run : Run result) : Run result := do
  changeProcess fun process =>
    { process with
      scopes := [] :: process.scopes
      savedOptions := none :: process.savedOptions }
  let outcome ← attempt run
  let ended ← process
  changeProcess fun process =>
    { process with
      scopes := process.scopes.tail
      savedOptions := process.savedOptions.tail
      options := (ended.savedOptions.headD none).getD process.options }
  giveBack (ended.scopes.headD [])
  resume outcome

/-! ## Signals -/

/-- Some signal has an action other than being ignored. -/
def hasTraps : Run Bool := do
  return (← process).traps.any fun trap => trap.2 != []

/-- Sends a signal to a process that runs. One that was sent and not taken yet is not sent again. -/
def addSignal (target signal : Nat) : Run Unit :=
  changeWorld fun world =>
    if world.signals.contains (target, signal) then world
    else { world with signals := world.signals ++ [(target, signal)] }

/-- A process ignores a signal. -/
def ignores (process : Process) (signal : Nat) : Bool :=
  !Signal.irresistible.contains signal &&
    (process.ignored.contains signal || process.traps.lookup signal == some [])

/-- A process has an action for a signal. -/
def traps (process : Process) (signal : Nat) : Bool :=
  !Signal.irresistible.contains signal && !process.ignored.contains signal &&
    (process.traps.lookup signal).any fun action => !action.isEmpty

/-- A signal ends a process. -/
def isFatal (process : Process) (signal : Nat) : Bool :=
  !Signal.harmless.contains signal && !ignores process signal && !traps process signal

/-- Sends a signal to a process. The result tells whether there is such a process. -/
def sendSignal (target signal : Nat) : Run Bool := do
  let machine ← get
  let current := machine.process
  let world := machine.world
  if target = current.ownNumber ∨ target ∈ current.ancestors then
    unless signal = 0 do
      addSignal target signal
    return true
  else
    match world.pending.find? fun entry => entry.process.ownNumber == target with
    | some entry => do
        if isFatal entry.process signal then
          changeWorld fun world =>
            { world with
              pending := world.pending.filter fun other => other.process.ownNumber != target
              finished := (target, -Int.ofNat signal) :: world.finished }
        return true
    | none =>
        return current.jobs.any fun job =>
          job.number == target && !job.isWaited && (world.finished.lookup target).isSome

/-- Takes the signals of the process that end it unless they are trapped or harmless. Those with an
action stay for later. -/
def takeFatalSignals : Run Unit := do
  let current ← process
  let mine := (← world).signals.filter fun entry => entry.1 == current.ownNumber
  for entry in mine do
    if !traps current entry.2 then
      changeWorld fun world => { world with signals := world.signals.erase entry }
      if isFatal current entry.2 then
        throw (.killed entry.2)

/-- Takes the next signal of the process, which has an action. -/
def nextTrapped? : Run (Option Nat) := do
  let current ← process
  match (← world).signals.find? fun entry => entry.1 == current.ownNumber with
  | none => return none
  | some entry =>
      changeWorld fun world => { world with signals := world.signals.erase entry }
      return some entry.2

end Run

end Script

end CommandChain

import CommandChain.Script.Prompted

/-!
# Invocations of the interpreter

The interpreter reads its options, then the script: an argument, a file, or its input. A script may
start interpreters itself; `Inner.ofDepth` says how deeply they and everything else in scripts may
be nested. `Script.program` is the interpreter as a program.
-/

namespace CommandChain

namespace Script

/-! ## Processes of interpreters -/

/-- The prompts of a new interpreter that is not given others. -/
def prompts : List (String × String) :=
  [("PS1", "# "), ("PS2", "> "), ("PS4", "+ ")]

/-- The process after an interpreter took its place. It keeps the variables that were exported, and
goes on ignoring the signals that are ignored. -/
def Process.interpreter (process : Process) (name : Text) : Process :=
  let exported := process.bindings.filter fun entry => entry.2.isExported
  let kept := exported.map fun entry => (entry.1, { entry.2 with isReadOnly := false })
  let defaults := prompts.map fun entry =>
    (Text.ofString entry.1, ({ value := some (Text.ofString entry.2) } : Variable))
  { name := name
    number := process.ownNumber
    ownNumber := process.ownNumber
    ancestors := process.ancestors
    bindings := kept ++ defaults.filter fun entry => (kept.lookup entry.1).isNone
    ignored :=
      process.ignored ++
        (process.traps.filter fun trap => trap.2 == [] && trap.1 != Signal.exit).map Prod.fst
    descriptors := process.descriptors
    directory := process.directory
    mask := process.mask }

/-- The working directory as a new interpreter names it: as the variable for that does, if it leads
there from the root. -/
def givenDirectory (process : Process) (place : FileTree.Place) : Text :=
  match (process.bindings.lookup Builtin.currentName).bind Variable.value with
  | some text =>
      if text.head? = some FileTree.slash ∧ place.directoryAt? text = some process.directory then
        text
      else FileTree.pathText process.directory
  | none => FileTree.pathText process.directory

/-- Sets the variables that every new interpreter has. -/
def setInitialVariables : Run Unit := do
  let process ← Run.process
  let directory := givenDirectory process (← Run.place)
  Run.changeProcess fun process => { process with directoryText := directory }
  Run.assign (Text.ofString "IFS") blankSeparators
  Run.assign Run.optionIndexName (Text.ofString "1")
  Run.assign (Text.ofString "PPID") (Text.ofInt (process.ancestors.headD 1))
  Run.assignExported Builtin.currentName directory

/-! ## Arguments -/

/-- Reads the letters of one argument with options. The result is whether the script is an argument,
and the arguments that are left. Options that nothing is known of yet are listed as if they were
set. -/
def readLetters (isOn : Bool) : (arguments : List Text) → Text → Run (Bool × List Text)
  | arguments, [] => return (false, arguments)
  | arguments, letter :: letters => do
      if letter = .char 'c' then
        let (_, left) ← readLetters isOn arguments letters
        return (true, left)
      else if letter = .char 'l' then readLetters isOn arguments letters
      else if letter = .char 'o' then
        match arguments with
        | [] => do
            Builtin.listOptions isOn (Builtin.optionNames.map Prod.snd)
            readLetters isOn [] letters
        | name :: rest => do
            Builtin.setNamed isOn name
            readLetters isOn rest letters
      else do
        Builtin.setLetter isOn letter
        readLetters isOn arguments letters

/-- Reads the options of the interpreter. The result is whether the script is an argument, and the
operands. -/
def readOptions : Nat → List Text → Run (Bool × List Text)
  | 0, arguments => return (false, arguments)
  | fuel + 1, arguments => do
      match arguments with
      | [.char '-'] :: rest => return (false, rest)
      | [.char '-', .char '-'] :: rest => return (false, rest)
      | (.char sign :: letters) :: rest =>
          if sign = '-' ∨ sign = '+' then
            let (isGiven, left) ← readLetters (sign == '-') rest letters
            let (isGivenLater, operands) ← readOptions fuel left
            return (isGiven || isGivenLater, operands)
          else return (false, arguments)
      | operands => return (false, operands)

/-! ## Runs -/

/-- Runs the script that is the input. -/
def runInput (inner : Inner) : Run Unit :=
  runSupplied inner (.descriptor 0)

/-- Runs the script in a file. -/
def runScriptFile (inner : Inner) (path : Text) : Run Unit := do
  let stream ← ExpandedRedirect.openFile .reading path
  Run.changeProcess fun process => { process with name := path }
  runSupplied inner (.opened stream)

/-- Runs the script that is an argument, and then the input if that is asked for. After an error, an
interactive interpreter goes on with the input. -/
def runArgument (inner : Inner) (script : Text) : Run Unit := do
  let outcome ← Run.attempt (runScript inner {} .nothing script)
  match outcome, ← Run.hasOption 'i' with
  | .error .fails, true => runInput inner
  | _, _ => do
      let _ ← Run.resume outcome
      if ← Run.hasOption 's' then runInput inner

/-- Runs the script that the arguments ask for, after the options. -/
def runOperands (inner : Inner) : (isGiven : Bool) → List Text → Run Unit
  | true, [] => Run.fail (Text.ofString "-c requires an argument")
  | true, script :: rest => do
      match rest with
      | [] => pure ()
      | name :: parameters =>
          Run.changeProcess fun process => { process with name := name, parameters := parameters }
      runArgument inner script
  | false, [] => do
      Builtin.setOption true 's'
      runInput inner
  | false, path :: parameters => do
      if ← Run.hasOption 's' then
        Builtin.setParameters (path :: parameters)
        runInput inner
      else
        Builtin.setParameters parameters
        runScriptFile inner path

/-- Reads the arguments and runs the script that they ask for. -/
def runInvocation (inner : Inner) (arguments : List Text) : Run Unit := do
  let (isGiven, operands) ← readOptions (arguments.length + 1) arguments
  Builtin.settleJobControl ((← Run.hasOption 'm') || (← Run.hasOption 'i'))
  runOperands inner isGiven operands

/-- Starts an interpreter in place of the process. The result is its raw status. -/
def startInterpreter (inner : Inner) (name : Text) (arguments : List Text) : Run Int := do
  Run.changeProcess fun process => process.interpreter name
  runToEnd inner do
    setInitialVariables
    runInvocation inner arguments

/-! ## Depths -/

/-- The signal that ends a process that is nested too deeply. -/
def tooDeep : Stop :=
  .killed 11

/-- The steps of a depth. -/
def Inner.ofDepth : Nat → Inner
  | 0 =>
      { run := fun _ _ => throw tooDeep
        expand := fun _ _ => throw tooDeep
        capture := fun _ => throw tooDeep
        evaluate := fun _ _ _ => throw tooDeep
        start := fun _ _ => throw tooDeep }
  | depth + 1 =>
      { run := fun tree mode => runTree (Inner.ofDepth depth) tree mode
        expand := fun splits word => expandMarks (Inner.ofDepth depth) splits word
        capture := fun tree => Script.capture (Inner.ofDepth depth) tree
        evaluate := fun supply script isTested =>
          Script.evaluate (Inner.ofDepth depth) supply script isTested
        start := fun name arguments => startInterpreter (Inner.ofDepth depth) name arguments }

/-- How deeply scripts may be nested. -/
def mostDepth : Nat :=
  20000

/-- The variables that the interpreter is given where it is started first. -/
def environment : List (Text × Variable) :=
  [("PATH", "/usr/local/sbin:/usr/local/bin:/usr/sbin:/usr/bin:/sbin:/bin"),
      ("HOME", "/root")].map
    fun entry =>
      (Text.ofString entry.1, { value := some (Text.ofString entry.2), isExported := true })

/-- The number of the interpreter that is started first. -/
def firstProcess : Nat :=
  1000

/-- The machine before the interpreter is started first. -/
def initialMachine (start : Start) (files : Files) : Machine where
  world := { files := files, nextProcess := 2 * firstProcess }
  process :=
    { name := []
      number := firstProcess
      ownNumber := firstProcess
      bindings := environment
      descriptors := start.descriptors
      directory := start.directory }

/-- The interpreter as a program. -/
def program : Program := fun start files =>
  let started :=
    (Inner.ofDepth mostDepth).start start.ownName.bytewise (start.arguments.map Text.bytewise)
  match started (initialMachine start files) with
  | (outcome, after) =>
      (match outcome with
        | .ok rawStatus => rawStatus
        | .error _ => 0,
        after.world.files)

end Script

end CommandChain

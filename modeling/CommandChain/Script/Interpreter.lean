import CommandChain.Script.SimpleCommand
import CommandChain.Text.Lines

/-!
# Running trees

Trees are run with the steps of the depth below, so that running always ends. Scripts are read line
by line, and each line runs before the next one is read. `Inner.ofDepth` closes the circle between
trees, words, scripts and interpreters that scripts start.
-/

namespace CommandChain

namespace Script

/-! ## Loops -/

/-- The most turns of a loop. -/
def mostTurns : Nat :=
  1000000

/-- How a part of a turn of a loop ended. -/
inductive TurnEnd where
  | finished
  /-- the loop goes on with its next turn -/
  | skipped
  | left
  deriving DecidableEq

/-- Runs a part of a turn. What concerns outer loops is handed on to them. -/
def runTurn (part : Run Unit) : Run TurnEnd := do
  match ← Run.attempt part with
  | .ok _ => return .finished
  | .error (.breaks count) => if count ≤ 1 then return .left else throw (.breaks (count - 1))
  | .error (.continues count) =>
      if count ≤ 1 then return .skipped else throw (.continues (count - 1))
  | .error stop => throw stop

/-- Runs a step as a loop, which other commands may leave. -/
def runInLoop (step : Run Unit) : Run Unit := do
  Run.changeProcess fun process => { process with loops := process.loops + 1 }
  let outcome ← Run.attempt step
  Run.changeProcess fun process => { process with loops := process.loops - 1 }
  Run.resume outcome

/-- Runs a loop with a test. Its status is that of the last turn. -/
def runWhile (endsOnSuccess : Bool) (test body : Run Unit) :
    (turns : Nat) → (status : Nat) → Run Unit
  | 0, status => Run.setStatus status
  | turns + 1, status => do
      match ← runTurn test with
      | .left => Run.setStatus status
      | .skipped => runWhile endsOnSuccess test body turns status
      | .finished =>
          if endsOnSuccess = decide ((← Run.process).status = 0) then Run.setStatus status
          else
            let ending ← runTurn body
            unless ending = .left do
              runWhile endsOnSuccess test body turns (← Run.process).status

/-- Runs a loop over values, which a variable takes one after the other. -/
def runEach (name : Text) (body : Run Unit) : (values : List Text) → Run Unit
  | [] => return ()
  | value :: rest => do
      Run.assign name value
      let ending ← runTurn body
      unless ending = .left do
        runEach name body rest

/-! ## Choices -/

/-- One of some patterns matches a subject. Patterns after that are not expanded. -/
def matchesAny (inner : Inner) (subject : Text) : List Word → Run Bool
  | [] => return false
  | word :: rest => do
      if (← expandPattern inner word).accepts subject then return true
      else matchesAny inner subject rest

/-- Runs the first case of which a pattern matches. -/
def runCases (inner : Inner) (mode : Mode) (subject : Text) :
    List (List Word × Tree) → Run Unit
  | [] => Run.setStatus 0
  | (patterns, body) :: rest => do
      if ← matchesAny inner subject patterns then
        match body with
        | .nothing => Run.setStatus 0
        | command => inner.run command mode
      else runCases inner mode subject rest

/-! ## Trees -/

/-- Sets the line of the command that runs. -/
def setLine (line : Nat) : Run Unit :=
  Run.changeProcess fun process => { process with line := line }

/-- Runs a command in a process of its own. The last one of a process runs in that process. -/
def runSubshell (inner : Inner) (mode : Mode) (line : Nat) (body : Tree)
    (redirects : List Redirect) : Run Unit := do
  setLine line
  let expanded ← Redirect.expandedAll inner redirects
  let step : Run Unit := do
    ExpandedRedirect.applyAll false expanded
    inner.run body { mode with isLast := true }
  if mode.isLast && !(← Run.hasTraps) then step else runAndWait inner step

/-- Ends the process after a failure that nothing looks at, where the options ask for that. -/
def endAfterFailure (mode : Mode) (status : Nat) : Run Unit := do
  if !mode.isTested && decide (status ≠ 0) && (← Run.hasOption 'e') then throw .ends

/-- Runs what a tree says, apart from what comes after each command. -/
def runNode (inner : Inner) (mode : Mode) (tree : Tree) : Run Unit := do
  let part : Mode := { isTested := mode.isTested }
  let tested : Mode := { isTested := true }
  match tree with
  | .nothing => return ()
  | .simple line assignments words redirects =>
      runSimple inner mode line assignments words redirects
  | .pipeline commands => runPipeline inner mode commands
  | .background line command => do
      setLine line
      runInBackground command
  | .conjunction first second => do
      inner.run first tested
      if (← Run.process).status = 0 then inner.run second mode
  | .disjunction first second => do
      inner.run first tested
      if (← Run.process).status ≠ 0 then inner.run second mode
  | .sequence first second => do
      inner.run first part
      inner.run second mode
  | .negation command => do
      inner.run command tested
      Run.setStatus (if (← Run.process).status = 0 then 1 else 0)
  | .subshell line body redirects => runSubshell inner mode line body redirects
  | .redirected line body redirects => do
      setLine line
      let expanded ← Redirect.expandedAll inner redirects
      let onFailure : Run Unit := do endAfterFailure mode (← Run.process).status
      ExpandedRedirect.runWith expanded false onFailure (inner.run body part)
  | .conditional test thenPart elsePart => do
      inner.run test tested
      if (← Run.process).status = 0 then inner.run thenPart mode
      else
        match elsePart with
        | .nothing => Run.setStatus 0
        | command => inner.run command mode
  | .loop endsOnSuccess test body =>
      runInLoop (runWhile endsOnSuccess (inner.run test tested) (inner.run body part) mostTurns 0)
  | .each line name words body => do
      setLine line
      let values ← expandWords inner words
      if values = [] then Run.setStatus 0
      else runInLoop (runEach name (inner.run body part) values)
  | .choice line subject cases => do
      setLine line
      runCases inner mode (← expandWhole inner subject) cases
  | .function name body => do
      Run.changeProcess fun process =>
        { process with functions := updated process.functions name body }
      Run.setStatus 0

/-- The failure of a tree ends the process where the options ask for that. -/
def isChecked : Tree → Bool
  | .simple _ _ _ _ => true
  | .subshell _ _ _ => true
  | .background _ _ => true
  | .pipeline _ => true
  | _ => false

/-- Runs a tree, takes the signals that came, and ends the process after a failure where the options
ask for that. -/
def runTree (inner : Inner) (tree : Tree) (mode : Mode) : Run Unit := do
  unless ← Run.hasOption 'n' do
    runNode inner mode tree
    let status := (← Run.process).status
    takeSignals inner
    if isChecked tree then endAfterFailure mode status

/-! ## Scripts -/

/-- The lines that were read when only some text is left of another one. -/
def readLines (before left : Text) : List Text :=
  let taken := before.length - left.length
  let read := before.take taken
  let restOfLine :=
    if read.getLast? = some Reader.lineEnd then []
    else (Text.lines (before.drop taken)).headD []
  Text.lines (read ++ restOfLine)

/-- Shows lines that were read, if the options ask for that. -/
def showLines (lines : List Text) : Run Unit := do
  if ← Run.hasOption 'v' then
    let _ ← Run.write 2 (Text.bytes lines.flatten)

/-- A source as the process goes on with it: with its documents, and with the aliases that are set
by now. -/
def refreshed (source : Source) : Run Source := do
  let process ← Run.process
  return { source with
    documents := process.documents
    nextDocument := process.nextDocument
    aliases := process.aliases }

/-- Keeps the documents that a source has read. -/
def keepDocuments (source : Source) : Run Unit :=
  Run.changeProcess fun process =>
    { process with documents := source.documents, nextDocument := source.nextDocument }

/-- The end of the text was met in the middle of a line. -/
def isCut : Except Complaint (Tree × Source) → Bool
  | .error complaint => complaint.left.isEmpty && !complaint.isAtLineEnd
  | .ok (_, after) => after.endedAtOnce

/-- How often a command is read again at most since there is more of it. -/
def mostReadings : Nat :=
  1000000

/-- Reads the next line of commands, and takes as much of the script as it needs. The result includes
the source with all that was taken. -/
def readNext (supply : Supply) : Nat → Source → Run (Source × Except Complaint (Tree × Source))
  | 0, source => return (source, source.next)
  | fuel + 1, source => do
      let result := source.next
      if isCut result then
        match ← supply.more with
        | [] => return (source, result)
        | text => readNext supply fuel { source with rest := source.rest ++ text }
      else return (source, result)

/-- Reads lines and runs each of them. The last command may take the place of the process, and what
is read from a stream may be shown. The result tells whether there was any command. -/
def runLines (inner : Inner) (mode : Mode) (supply : Supply) : Nat → Source → Run Bool
  | 0, _ => return false
  | fuel + 1, source => do
      let (reached, result) ← readNext supply mostReadings (← refreshed source)
      if reached.rest.isEmpty then return false
      else
        match result with
        | .error complaint => do
            if supply ≠ .nothing then showLines (readLines reached.rest complaint.left)
            setLine complaint.line
            Run.fail complaint.text
        | .ok (tree, after) => do
            if supply ≠ .nothing then showLines (readLines reached.rest after.rest)
            keepDocuments after
            inner.run tree { mode with isLast := mode.isLast && after.endedAtOnce }
            let others ← runLines inner mode supply fuel after
            return others ||
              match tree with
              | .nothing => false
              | _ => true

/-- The most lines of commands in a script. -/
def mostLines : Nat :=
  1000000

/-- Runs a script, of which some text is at hand. The result tells whether there was any command. -/
def runScript (inner : Inner) (mode : Mode) (supply : Supply) (script : Text) : Run Bool :=
  runLines inner mode supply mostLines { rest := script }

/-- Runs a script inside another one. Without a command in it, the status is zero. -/
def evaluate (inner : Inner) (supply : Supply) (script : Text) (isTested : Bool) : Run Unit := do
  unless ← runScript inner { isTested := isTested } supply script do
    Run.setStatus 0

end Script

end CommandChain

import CommandChain.Script.Builtin.Basic
import CommandChain.Script.Subprocess

/-!
# Builtin commands on jobs

Jobs are the processes in the background. They are named by their place in the list of jobs, or by
their age: the last one is the current job, the one before it the previous job.
-/

namespace CommandChain

namespace Script

namespace Jobs

/-- Complains about the name of a job. -/
def failName {result : Type} (complaint : String) (name : Text) : Run result :=
  Run.fail (Text.ofString complaint ++ name)

/-- The job that a name stands for. What jobs run is not known, so no name by that fits. -/
def named (name : Text) : Run Job := do
  let jobs := (← Run.process).jobs
  let current := fun (found : Option Job) (complaint : String) =>
    match found with
    | some job => pure job
    | none => Run.fail (Text.ofString complaint)
  match name with
  | [.char '%'] => current jobs.head? "No current job"
  | [.char '%', .char '%'] => current jobs.head? "No current job"
  | [.char '%', .char '+'] => current jobs.head? "No current job"
  | [.char '%', .char '-'] => current jobs[1]? "No previous job"
  | [.char '%', .char '?'] =>
      match jobs with
      | [job] => pure job
      | [] => failName "No such job: " name
      | _ => Run.fail (name ++ Text.ofString ": ambiguous")
  | .char '%' :: digits =>
      match (Text.toDecimal? digits).bind fun slot => jobs.find? fun job => job.slot == slot with
      | some job => pure job
      | none => failName "No such job: " name
  | _ => failName "No such job: " name

/-- How a job goes, in words. -/
def state (world : World) (job : Job) : Text :=
  match world.finished.lookup job.number with
  | none => Text.ofString "Running"
  | some rawStatus =>
      if rawStatus < 0 then Signal.description rawStatus.natAbs
      else if rawStatus = 0 then Text.ofString "Done"
      else Text.ofString "Done(" ++ Text.ofInt rawStatus ++ [.char ')']

/-- The column at which what a job runs would be shown. -/
def commandColumn : Nat :=
  33

/-- A job in the list of jobs. -/
def line (world : World) (jobs : List Job) (showsNumber : Bool) (job : Job) : Text :=
  let mark : Symbol :=
    if jobs.head? = some job then .char '+'
    else if jobs[1]? = some job then .char '-'
    else .char ' '
  let slot := .char '[' :: Text.ofInt job.slot ++ [.char ']', .char ' ', mark, .char ' ']
  let number := if showsNumber then Text.ofInt job.number ++ [.char ' '] else []
  let shown := slot ++ number ++ state world job
  shown ++ List.replicate (max 1 (commandColumn - shown.length)) (.char ' ') ++ [.char '\n']

/-- Forgets a job that has ended. -/
def forgetEnded (job : Job) : Run Unit := do
  if job.hasEnded (← Run.world) then
    Run.changeProcess fun process =>
      { process with jobs := process.jobs.filter fun other => other.slot != job.slot }

/-- Shows jobs in order. Those that have ended are shown once. -/
def listed (given : List Char) : List Job → Run Text
  | [] => return []
  | job :: rest => do
      let text ←
        if given.contains 'p' then pure (Text.ofInt job.number ++ [.char '\n'])
        else do
          let text := line (← Run.world) (← Run.process).jobs (given.contains 'l') job
          forgetEnded job
          pure text
      return text ++ (← listed given rest)

/-- Marks that the end of a job was waited for. -/
def markWaited (isMarked : Job → Bool) : Run Unit :=
  Run.changeProcess fun process =>
    { process with
      jobs := process.jobs.map fun job =>
        if isMarked job then { job with isWaited := true } else job }

/-- Waits for jobs in order. The result is the status of the last one. -/
def waitFor (inner : Inner) : (status : Nat) → List Text → Run Nat
  | status, [] => return status
  | _, word :: rest => do
      let found ←
        match word with
        | .char '%' :: _ => do pure (some (← named word))
        | _ => do
            let number ← Run.number word
            pure ((← Run.process).jobs.find? fun job => job.number == number)
      match found with
      | none => waitFor inner 127 rest
      | some job => do
          runPending inner
          let rawStatus := ((← Run.world).finished.lookup job.number).getD 0
          unless job.isWaited do
            describeEnd rawStatus
          markWaited fun other => other.slot == job.slot
          waitFor inner (statusOfRaw rawStatus) rest

end Jobs

namespace Builtin

/-- Waits for jobs, or for all of them. -/
def wait (inner : Inner) : Builtin := fun arguments => do
  let (_, operands) ← options [] arguments
  if operands = [] then
    runPending inner
    Jobs.markWaited fun _ => true
    return 0
  else Jobs.waitFor inner 0 operands

/-- Lists jobs. -/
def jobs : Builtin := fun arguments => do
  let (given, operands) ← options ['l', 'p'] arguments
  let last := (given.getLast?.map Prod.fst).toList
  let chosen ← if operands = [] then do pure (← Run.process).jobs else operands.mapM Jobs.named
  print (Text.bytes (← Jobs.listed last chosen))

/-- No job can be brought to the front or to the back. -/
def moveJob : Builtin := fun arguments => do
  let (_, operands) ← options [] arguments
  let name := operands.headD [.char '%']
  let _ ← Jobs.named name
  Run.fail (Text.ofString "job " ++ operands.headD (Text.ofString "(null)") ++
    Text.ofString " not created under job control")

end Builtin

end Script

end CommandChain

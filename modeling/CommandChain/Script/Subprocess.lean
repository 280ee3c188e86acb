import CommandChain.Script.Expansion

/-!
# Processes of a script

A process starts others that have a copy of everything it has, but of its traps only those that
ignore signals. Each runs to its end before the next one starts, so pipes are written first and read
afterwards. Commands in the background run when their process next waits for another one, or ends.
-/

namespace CommandChain

namespace Script

/-! ## Signals with an action -/

/-- Does what is to be done at the signals that came, one after the other. The status is then what
it was before. -/
def deliverSignals (inner : Inner) : Nat → Run Unit
  | 0 => return ()
  | fuel + 1 => do
      Run.takeFatalSignals
      match ← Run.nextTrapped? with
      | none => return ()
      | some signal => do
          let before ← Run.process
          match before.traps.lookup signal with
          | none => deliverSignals inner fuel
          | some action => do
              Run.changeProcess fun process =>
                { process with interrupted := some (before.interrupted.getD before.status) }
              let outcome ← Run.attempt (inner.evaluate .nothing action false)
              Run.changeProcess fun process => { process with interrupted := before.interrupted }
              Run.resume outcome
              Run.setStatus before.status
              deliverSignals inner fuel

/-- The most signals that are taken at one time. -/
def mostSignals : Nat :=
  10000

/-- Takes all signals that came. -/
def takeSignals (inner : Inner) : Run Unit :=
  deliverSignals inner mostSignals

/-! ## Ends -/

/-- Does what is to be done at the end of a process. Unless that ends it with another status, the
status is kept. -/
def runEndAction (inner : Inner) : Run Unit := do
  let before ← Run.process
  match before.traps.lookup Signal.exit with
  | none => return ()
  | some action => do
      Run.changeProcess fun process =>
        { process with
          traps := process.traps.filter fun trap => trap.1 != Signal.exit
          interrupted := some before.status }
      inner.evaluate .nothing action false
      Run.setStatus before.status

/-- The number of statuses that a process can end with. -/
def statusCount : Nat :=
  256

/-- Runs a step as the last one of its process, and what is to be done at the end. A process that is
killed or replaced does nothing more. The result is the raw status. -/
def finish (inner : Inner) (step : Run Unit) : Run Int := do
  let withEnd : Run Unit := do
    match ← Run.attempt step with
    | .error (.killed signal) => throw (.killed signal)
    | .error (.replaced rawStatus) => throw (.replaced rawStatus)
    | _ => runEndAction inner
  match ← Run.attempt withEnd with
  | .error (.killed signal) => return -Int.ofNat signal
  | .error (.replaced rawStatus) => return rawStatus
  | _ => return Int.ofNat ((← Run.process).status % statusCount)

/-- The signal that tells a process of the end of another one that it started. -/
def endedSignal : Nat :=
  17

/-- Tells the process that one that it started has ended. -/
def noticeEnd : Run Unit := do
  let process ← Run.process
  if Run.traps process endedSignal then Run.addSignal process.ownNumber endedSignal

/-- Runs the commands that wait in the background, up to a number of them. -/
def runPendingFuel (inner : Inner) : Nat → Run Unit
  | 0 => return ()
  | fuel + 1 => do
      match (← Run.world).pending with
      | [] => return ()
      | next :: rest => do
          Run.changeWorld fun world => { world with pending := rest }
          let current ← Run.process
          Run.changeProcess fun _ => next.process
          let rawStatus ← finish inner (inner.run next.command { isLast := true })
          Run.changeProcess fun _ => current
          Run.changeWorld fun world =>
            { world with finished := (next.process.ownNumber, rawStatus) :: world.finished }
          if next.process.ancestors.head? = some current.ownNumber then
            noticeEnd
          runPendingFuel inner fuel

/-- The most commands that run in the background one after the other. -/
def mostPending : Nat :=
  10000

/-- Runs the commands that wait in the background. -/
def runPending (inner : Inner) : Run Unit := do
  unless (← Run.world).pending.isEmpty do
    runPendingFuel inner mostPending

/-- Runs a step as the last one of its process, and then what waits in the background. -/
def runToEnd (inner : Inner) (step : Run Unit) : Run Int := do
  let rawStatus ← finish inner step
  runPending inner
  return rawStatus

/-! ## Jobs -/

/-- The end of a job was told to the process. -/
def Job.hasEnded (world : World) (job : Job) : Bool :=
  (world.finished.lookup job.number).isSome

/-- Looks for a place for a new job, from a place on. One whose end was waited for gives its place
up. -/
def freeSlot (world : World) (jobs : List Job) : Nat → (slot : Nat) → Nat × List Job
  | 0, slot => (slot, jobs)
  | fuel + 1, slot =>
      match jobs.find? fun job => job.slot == slot with
      | none => (slot, jobs)
      | some job =>
          if job.isWaited && job.hasEnded world then
            (slot, jobs.filter fun other => other.slot != slot)
          else freeSlot world jobs fuel (slot + 1)

/-- Takes a place for a new job. -/
def takeSlot : Run Nat := do
  let jobs := (← Run.process).jobs
  if jobs.isEmpty then return 1
  else
    let (slot, others) := freeSlot (← Run.world) jobs jobs.length 1
    Run.changeProcess fun process => { process with jobs := others }
    return slot

/-! ## Children -/

/-- The process that a process starts. -/
def Process.child (parent : Process) (number : Nat) : Process :=
  { parent with
    ownNumber := number
    ancestors := parent.ownNumber :: parent.ancestors
    traps := parent.traps.filter fun trap => trap.2 == []
    jobs := [] }

/-- Runs a step in a process of its own, after what waits in the background. The result is the raw
status. -/
def runInChild (inner : Inner) (step : Run Unit) : Run Int := do
  runPending inner
  let _ ← takeSlot
  let parent ← Run.process
  let firstNumber := (← Run.world).files.nextNumber
  let number ← Run.freshProcess
  Run.changeProcess fun process => process.child number
  let rawStatus ← runToEnd inner step
  Run.changeProcess fun _ => parent
  Run.dropUnused firstNumber
  noticeEnd
  return rawStatus

/-- Says what signal ended a process, where that matters. -/
def describeEnd (rawStatus : Int) : Run Unit := do
  if rawStatus < 0 ∧ rawStatus.natAbs ∉ Signal.silent then
    let _ ← Run.write 2 (Text.bytes (Signal.description rawStatus.natAbs ++ [.char '\n']))

/-- The status of a process with a raw status. -/
def statusOfRaw (rawStatus : Int) : Nat :=
  if rawStatus < 0 then 128 + rawStatus.natAbs else rawStatus.toNat

/-- The status of a child that was waited for. -/
def statusOfChild (rawStatus : Int) : Run Nat := do
  describeEnd rawStatus
  return statusOfRaw rawStatus

/-- Runs a step in a process of its own and waits for it. -/
def runAndWait (inner : Inner) (step : Run Unit) : Run Unit := do
  let rawStatus ← runInChild inner step
  let status ← statusOfChild rawStatus
  Run.takeFatalSignals
  Run.setStatus status

/-- Runs a command in a process of its own and returns what it prints. -/
def capture (inner : Inner) : Tree → Run (List UInt8)
  | .nothing => return []
  | command => do
      let pipe ← Run.onFiles (Files.addPipe [])
      let rawStatus ← runInChild inner do
        Run.setEndpoint 1 (some (.pipe pipe true))
        inner.run command { isLast := true }
      let status ← statusOfChild rawStatus
      Run.takeFatalSignals
      Run.changeProcess fun process => { process with substituted := status }
      let printed ← Run.onFiles (Files.takeAll (.pipe pipe false))
      Run.dropUnused pipe
      return printed.toOption.getD []

/-- Runs commands in processes of their own, each of which reads what the one before it printed. The
result is the status of the last one. -/
def runPiped (inner : Inner) (mode : Mode) : (source : Option Nat) → List Tree → Run Nat
  | _, [] => return 0
  | source, command :: rest => do
      let target ← if rest.isEmpty then pure none else do pure (some (← Run.onFiles (Files.addPipe [])))
      let rawStatus ← runInChild inner do
        match source with
        | some pipe => Run.setEndpoint 0 (some (.pipe pipe false))
        | none => pure ()
        match target with
        | some pipe => Run.setEndpoint 1 (some (.pipe pipe true))
        | none => pure ()
        inner.run command { mode with isLast := true }
      let status ← statusOfChild rawStatus
      if target.isNone then return status else runPiped inner mode target rest

/-- Runs a pipeline. -/
def runPipeline (inner : Inner) (mode : Mode) (commands : List Tree) : Run Unit := do
  let firstNumber := (← Run.world).files.nextNumber
  let status ← runPiped inner mode none commands
  Run.dropUnused firstNumber
  Run.takeFatalSignals
  Run.setStatus status

/-- The signals that a process in the background ignores, since they are meant for the others. -/
def foregroundSignals : List Nat :=
  [2, 3]

/-- Starts a command in the background, where it finds no input. It runs later. -/
def runInBackground (command : Tree) : Run Unit := do
  let slot ← takeSlot
  let number ← Run.freshProcess
  let parent ← Run.process
  let descriptors := parent.descriptors.filter fun entry => entry.1 != 0
  let child : Process :=
    { parent.child number with
      descriptors := (0, .device .null) :: descriptors
      ignored := parent.ignored ++ foregroundSignals }
  Run.changeWorld fun world => { world with pending := world.pending ++ [⟨child, command⟩] }
  Run.changeProcess fun process =>
    { process with
      background := some number
      jobs := { slot := slot, number := number } :: process.jobs }
  Run.setStatus 0

end Script

end CommandChain

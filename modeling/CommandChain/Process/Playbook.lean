import CommandChain.Shell.Basic

/-!
# Process layers from a playbook

A playbook lists, for each command name, what happens at the first, second and later attempts to
start it. It makes a process layer that starts no process.
-/

namespace CommandChain

/-- What happens at one attempt to start a command. -/
inductive Attempt where
  /-- the start fails -/
  | failing (reason : Text)
  /-- the start succeeds and the wait is interrupted -/
  | interrupted
  /-- the process ends with a status -/
  | finishing (status : ExitStatus)
  deriving DecidableEq

/-- The attempts of each name that is listed, and the one of all other names. The last attempt that
is listed for a name repeats. -/
structure Playbook where
  listed : List (Text × List Attempt) := []
  otherwise : Attempt := .finishing { code := 0 }

/-- How often each name was tried, and how many starts succeeded. -/
structure PlaybookState where
  tried : List (Text × Nat) := []
  started : Nat := 0
  deriving DecidableEq

/-- A process that was started: how many were started before it, and how it will end. -/
structure PlaybookProcess where
  number : Nat
  ending : Option ExitStatus
  deriving DecidableEq

/-- How often a name was tried. -/
def PlaybookState.triedCount (world : PlaybookState) (name : Text) : Nat :=
  (world.tried.lookup name).getD 0

/-- The state after one more attempt for a name. -/
def PlaybookState.recordAttempt (world : PlaybookState) (name : Text) : PlaybookState :=
  { world with
    tried := (name, world.triedCount name + 1) :: world.tried.filter fun entry => entry.1 != name }

namespace Playbook

/-- The attempt with a given number for a name. -/
def attempt (playbook : Playbook) (name : Text) (number : Nat) : Attempt :=
  match playbook.listed.lookup name with
  | none => playbook.otherwise
  | some attempts => attempts[number]?.getD (attempts.getLastD playbook.otherwise)

/-- Starts a command as the playbook says. -/
def spawn (playbook : Playbook) (name : Text) (world : PlaybookState) :
    Except SpawnFailure PlaybookProcess × PlaybookState :=
  let after := world.recordAttempt name
  let started : PlaybookState := { after with started := after.started + 1 }
  match playbook.attempt name (world.triedCount name) with
  | .failing reason => (.error ⟨name, reason⟩, after)
  | .interrupted => (.ok ⟨after.started, none⟩, started)
  | .finishing status => (.ok ⟨after.started, some status⟩, started)

/-- The process layer of a playbook. -/
def processLayer (playbook : Playbook) : ProcessLayer PlaybookState PlaybookProcess where
  spawn name _ world := playbook.spawn name world
  wait process world := (process.ending, world)

end Playbook

end CommandChain

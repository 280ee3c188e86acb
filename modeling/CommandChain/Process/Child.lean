import CommandChain.Script.Invocation
import CommandChain.Shell.Basic

/-!
# Child processes

A system starts a command as a child process, or refuses. `childLayer` makes a process layer of any
system: a refusal becomes a reason, a raw status becomes a code, and a child either hands what it
writes to the shell or passes it on to the shell's own streams.
-/

namespace CommandChain

/-- A finished run of a program: its raw status, which is the negated number of a signal that ended
it, and its writes in order. -/
structure ProgramRun where
  rawStatus : Int := 0
  writes : List Write := []
  deriving DecidableEq

/-- What a run wrote to one channel. -/
def ProgramRun.written (run : ProgramRun) (channel : Channel) : List UInt8 :=
  Write.contentOf channel run.writes

/-- A child process: its run, and whether the shell captures what it writes. -/
structure Child where
  run : ProgramRun
  isCaptured : Bool
  deriving DecidableEq

namespace Child

/-- The writes of a child that go to the shell's own streams. -/
def passedWrites (child : Child) : List Write :=
  if child.isCaptured then [] else child.run.writes

/-- What a child leaves in the shell's own output stream. -/
def passedOutput (child : Child) : List UInt8 :=
  Write.contentOf .output child.passedWrites

/-- What a child leaves in the shell's own diagnostics stream. -/
def passedErrors (child : Child) : List UInt8 :=
  Write.contentOf .errors child.passedWrites

end Child

/-- The status that the shell reports for a raw status and what was captured. -/
def ExitStatus.ofRaw (rawStatus : Int) (output errors : Option (List UInt8)) : ExitStatus :=
  ⟨ExitStatus.codeOfRaw rawStatus, output, errors⟩

/-- The status that the shell reports for a child. -/
def Child.exitStatus (child : Child) : ExitStatus :=
  if child.isCaptured then
    .ofRaw child.run.rawStatus (some (child.run.written .output))
      (some (child.run.written .errors))
  else
    .ofRaw child.run.rawStatus none none

/-- What starts commands: the run of a child, or a fault. -/
abbrev System (state : Type) : Type :=
  Text → List Text → state → Except SpawnFault ProgramRun × state

/-- The process layer of a system. Waiting for a child is never interrupted. -/
def childLayer {state : Type} (system : System state) (captures : Bool) :
    ProcessLayer state Child where
  spawn name arguments world :=
    match system name arguments world with
    | (.error fault, after) => (.error ⟨name, fault.reason⟩, after)
    | (.ok run, after) => (.ok ⟨run, captures⟩, after)
  wait child world := (some child.exitStatus, world)

/-! ## The system of the small file tree -/

/-- The byte that ends a name or an argument for the system. -/
def terminator : Symbol :=
  .char (Char.ofNat 0)

/-- The most bytes of one argument. -/
def longestArgument : Nat :=
  131071

/-- The open files of the shell. Its children share the input, which is read from an offset on. -/
def Files.given (input : List UInt8) (offset : Nat) : Files :=
  let channelFile := fun (channel : Channel) =>
    ({ target := .channel channel, canWrite := true, isGiven := true } : OpenFile)
  { input := input
    opened :=
      [(0, { target := .input, offset := offset, canRead := true, isGiven := true }),
        (1, channelFile .output), (2, channelFile .errors)]
    nextNumber := 3 }

/-- The descriptors of a child: its input, and pipes or the shell's own streams to write to. -/
def Child.descriptors (isCaptured : Bool) : Descriptors :=
  if isCaptured then [(0, .file 0), (1, .outlet .output), (2, .outlet .errors)]
  else [(0, .file 0), (1, .file 1), (2, .file 2)]

/-- The number up to which open files belong to the shell. -/
def ownFiles : Nat :=
  3

/-- Runs a program on the files of the shell. The files that it opened are closed after it. -/
def runProgram (program : Program) (start : Start) (files : Files) : ProgramRun × Files :=
  match program start files with
  | (rawStatus, after) =>
      ({ rawStatus := rawStatus, writes := after.writes.reverse },
        { after.dropFrom ownFiles [] with writes := [] })

/-- Starts the program that a name finds in the file tree. -/
def treeSystem (captures : Bool) : System Files := fun name arguments files =>
  if (name :: arguments).any (List.contains · terminator) then
    (.error (.refused (Text.ofString "embedded null byte")), files)
  else
    let descriptors := Child.descriptors captures
    let place := files.place descriptors FileTree.workingDirectory
    match place.utilityOf name with
    | .error number => (.error (.system (some number) none), files)
    | .ok utility =>
        if (name :: arguments).any fun word => decide (longestArgument < (Text.bytes word).length)
        then
          (.error (.system (some SystemError.argumentsTooLong) none), files)
        else
          let start : Start :=
            { ownName := name, arguments := arguments, descriptors := descriptors
              directory := FileTree.workingDirectory }
          match runProgram (utility.program Script.program) start files with
          | (run, after) => (.ok run, after)

end CommandChain

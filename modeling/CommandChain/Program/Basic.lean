import CommandChain.Process.OpenFile

/-!
# Programs

A program is started under some name with arguments, open descriptors and a working directory. It
runs to its end as a step on the files, and its result is a raw status: a negative one is the
negated number of the signal that ended it.
-/

namespace CommandChain

/-- What a program is started with. -/
structure Start where
  ownName : Text
  arguments : List Text
  descriptors : Descriptors
  directory : FileTree.Path

/-- A program. -/
abbrev Program : Type :=
  Start → FileStep Int

namespace Program

/-- The program that does nothing and ends with a status. -/
def ending (rawStatus : Int) : Program := fun _ =>
  return rawStatus

/-- The message of a program, which names itself in front. -/
def message (ownName text : Text) : List UInt8 :=
  Text.bytes (ownName ++ Text.ofString ": " ++ text ++ [.char '\n'])

/-- The advice that follows the complaint about wrong arguments. -/
def advice (ownName : Text) : List UInt8 :=
  Text.bytes (Text.ofString "Try '" ++ ownName ++ Text.ofString " --help' for more information.\n")

/-- Complains. -/
def complain (start : Start) (text : Text) : FileStep Unit := do
  let _ ← Files.writeTo start.descriptors 2 (message start.ownName text)

/-- Complains about wrong arguments. -/
def refuse (start : Start) (text : Text) : FileStep Int := do
  complain start text
  let _ ← Files.writeTo start.descriptors 2 (advice start.ownName)
  return 1

/-- The raw status of a program that writes to a pipe which is read no more. -/
def brokenPipeStatus : Int :=
  -13

/-- Ends a program that could not write. -/
def failWriting (start : Start) (number : Int) : FileStep Int := do
  if number = SystemError.brokenPipe then return brokenPipeStatus
  else
    complain start (Text.ofString "write error: " ++ SystemError.message number)
    return 1

/-- Writes the output of a program and ends it with a status. -/
def finish (start : Start) (output : List UInt8) (rawStatus : Int) : FileStep Int := do
  if output = [] then return rawStatus
  else
    match ← Files.writeTo start.descriptors 1 output with
    | .ok () => return rawStatus
    | .error number => failWriting start number

end Program

end CommandChain

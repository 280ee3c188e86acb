import CommandChain.CommandLine

/-!
# The program

Reads the arguments and the standard input, runs the command line, and writes what it reports.
-/

namespace CommandChain

namespace Main

/-- The name under which the program speaks of itself. -/
def programPath : Text :=
  Text.ofString "chain-shell"

/-- All bytes of a stream. -/
partial def readAll (stream : IO.FS.Stream) (read : ByteArray) : IO ByteArray := do
  let chunk ← stream.read 65536
  if chunk.isEmpty then
    return read
  readAll stream (read ++ chunk)

end Main

end CommandChain

open CommandChain

/-- Runs the command line on the standard streams. -/
def main (arguments : List String) : IO UInt32 := do
  let input ← Main.readAll (← IO.getStdin) .empty
  let report := CommandLine.run Main.programPath (arguments.map Text.ofString) input.toList
  (← IO.getStdout).write ⟨report.output.toArray⟩
  (← IO.getStderr).write ⟨report.errors.toArray⟩
  return UInt32.ofNat ((CommandLine.codeOfEnd report.ending) % 256).toNat

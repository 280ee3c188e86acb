import CommandChain.Script.Interpreter

/-!
# Prompted scripts

An interactive interpreter prompts for every line that it reads, and after an error it goes on. What
it has read ahead by then is lost.
-/

namespace CommandChain

namespace Script

/-- Prints a prompt, which is the value of a variable, on the diagnostics stream. -/
def prompt (inner : Inner) (name : String) : Run Unit := do
  let text := ((← Run.value? (Text.ofString name))).getD []
  let expanded ← expandText inner (Source.quotedWord text)
  let _ ← Run.write 2 (Text.bytes expanded)

/-- Shows lines that were read, with a prompt after each of the first ones. There may be more prompts
than lines. -/
def showPrompted (inner : Inner) : (prompts : Nat) → List Text → Run Unit
  | 0, lines => showLines lines
  | count + 1, lines => do
      showLines (lines.take 1)
      prompt inner "PS2"
      showPrompted inner count (lines.drop 1)

/-- How many line ends were read in the middle of a command. -/
def innerLineEnds (text : Text) : Nat :=
  let lineEnds := (text.filter (· == Reader.lineEnd)).length
  if text.getLast? = some Reader.lineEnd then lineEnds - 1 else lineEnds

/-- How often the end of the input may be met before it counts, where it is to be ignored. -/
def mostEnds : Nat :=
  50

/-- Advises how to leave, as often as the end of the input may be met. -/
def adviseAtEnds (inner : Inner) : (count : Nat) → Run Unit
  | 0 => return ()
  | count + 1 => do
      let _ ← Run.write 2 (Text.bytes (Text.ofString "\nUse \"exit\" to leave shell.\n"))
      prompt inner "PS1"
      adviseAtEnds inner count

/-- Ends prompting at the end of the input. -/
def endPrompting (inner : Inner) : Run Unit := do
  if ← Run.hasOption 'I' then adviseAtEnds inner mostEnds
  else
    let _ ← Run.write 2 (Text.bytes [Reader.lineEnd])

/-- How many prompts a complaint comes after, in a command that starts at a line. -/
def Complaint.prompts (complaint : Complaint) (firstLine : Nat) : Nat :=
  complaint.line - firstLine - if complaint.isAtLineEnd then 1 else 0

/-- Reads lines after prompts and runs each of them. -/
def runPrompted (inner : Inner) (supply : Supply) : Nat → Source → Run Unit
  | 0, _ => return ()
  | fuel + 1, source => do
      prompt inner "PS1"
      let (reached, result) ← readNext supply mostReadings (← refreshed source)
      let ended := { source with rest := [] }
      if reached.rest.isEmpty then endPrompting inner
      else
        match result with
        | .error complaint => do
            let lines := readLines reached.rest complaint.left
            showPrompted inner (complaint.prompts source.line) lines
            setLine complaint.line
            Run.complain complaint.text
            Run.setStatus Run.failureStatus
            runPrompted inner supply fuel ended
        | .ok (tree, after) => do
            let lines := readLines reached.rest after.rest
            showPrompted inner (innerLineEnds lines.flatten) lines
            keepDocuments after
            match ← Run.attempt (inner.run tree {}) with
            | .error .fails => runPrompted inner supply fuel ended
            | outcome => do
                Run.resume outcome
                runPrompted inner supply fuel after

/-- Runs a script that is read in blocks, after prompts if the interpreter is interactive. -/
def runSupplied (inner : Inner) (supply : Supply) : Run Unit := do
  if ← Run.hasOption 'i' then runPrompted inner supply mostLines { rest := [] }
  else
    let _ ← runScript inner {} supply []

end Script

end CommandChain

import CommandChain.Shell.RunLine

/-!
# The read loop

The loop reads lines and runs each as it comes, until the input ends or a line exits the shell. An
interrupt during a read only starts a new read; an interrupt during a line abandons that line.

`ReadSource.reads` lists what the successive reads find, which depends on the input and on the
interrupted reads alone. `Shell.readLoop` goes through that list.
-/

namespace CommandChain

/-- A read that happens before the input ends. -/
inductive Read where
  | line (text : Text)
  | interrupted
  deriving DecidableEq

/-- The text that a read takes from the input. -/
def Read.consumed : Read → Text
  | .line text => text
  | .interrupted => []

/-- Where the loop reads from: the text to be read, the numbers of the reads that are interrupted,
counted from zero over all reads, and whether the loop writes to a terminal. -/
structure ReadSource where
  input : Text
  interruptedReads : List Nat := []
  isTerminal : Bool := false

/-! ## The reads to come -/

/-- Of some numbers, those from the next number on are no more than those from a number on. -/
theorem countP_succ_le (numbers : List Nat) (number : Nat) :
    numbers.countP (number + 1 ≤ ·) ≤ numbers.countP (number ≤ ·) :=
  List.countP_mono_left fun other _ later => by
    simp only [decide_eq_true_eq] at later ⊢
    omega

/-- They are fewer if the number itself is among them. -/
theorem countP_succ_lt {numbers : List Nat} {number : Nat} (member : number ∈ numbers) :
    numbers.countP (number + 1 ≤ ·) < numbers.countP (number ≤ ·) := by
  induction numbers with
  | nil => simp at member
  | cons head tail inductionHypothesis =>
      have tailFewer := countP_succ_le tail number
      rw [List.countP_cons, List.countP_cons]
      by_cases isHead : number = head
      · subst isHead
        simp only [decide_eq_true_eq, Nat.le_refl, if_true]
        rw [if_neg (by omega)]
        omega
      · have tailMember : number ∈ tail :=
          (List.mem_cons.1 member).resolve_left isHead
        have fewer := inductionHypothesis tailMember
        simp only [decide_eq_true_eq]
        split <;> split <;> omega

/-- The reads of the given lines, from a read number on: an interrupted read takes nothing, any
other takes one line. -/
def readsFrom (interruptedReads : List Nat) (number : Nat) (lines : List Text) : List Read :=
  if isInterrupted : number ∈ interruptedReads then
    .interrupted :: readsFrom interruptedReads (number + 1) lines
  else
    match lines with
    | [] => []
    | line :: rest => .line line :: readsFrom interruptedReads (number + 1) rest
termination_by lines.length + interruptedReads.countP (number ≤ ·)
decreasing_by
  · exact Nat.add_lt_add_left (countP_succ_lt isInterrupted) lines.length
  · have fewer := countP_succ_le interruptedReads number
    simp only [List.length_cons]
    omega

/-- All reads before the end of the input. -/
def ReadSource.reads (source : ReadSource) : List Read :=
  readsFrom source.interruptedReads 0 source.input.lines

/-! ## The loop -/

variable {state handle : Type}

/-- How the loop ends: its code, and the input that was not read. -/
structure LoopEnd where
  code : Int
  unread : Text
  deriving DecidableEq

namespace Shell

/-- The code of a line that was interrupted. -/
def interruptedCode : Int :=
  130

/-- Writes a newline to the terminal, so that what follows an interrupt starts on a new line. -/
def breakLine : Action state handle Unit :=
  Action.emit (.terminal [Text.newline])

/-- Goes through the reads to come. The code is that of the last line run. -/
def loop (shell : Shell state handle) (isTerminal : Bool) :
    (code : Int) → List Read → Action state handle LoopEnd
  | code, [] => do
      Action.emitIf isTerminal (.terminal shell.prompt)
      Action.emit (.read .endOfInput)
      pure ⟨code, []⟩
  | code, .interrupted :: later => do
      Action.emitIf isTerminal (.terminal shell.prompt)
      Action.emit (.read .interrupted)
      breakLine
      shell.loop isTerminal code later
  | _, .line line :: later => do
      Action.emitIf isTerminal (.terminal shell.prompt)
      Action.emit (.read (.line line))
      let outcome ← (shell.runLine line).observe
      match outcome with
      | .returned code => shell.loop isTerminal code later
      | .exited code => pure ⟨code, later.flatMap Read.consumed⟩
      | .interrupted => do
          breakLine
          shell.loop isTerminal interruptedCode later
      | .failed error => Action.finish (.failed error)

/-- Reads and runs lines until the input ends or a line exits. It returns the code of the exit or of
the last line, or zero if there was no line. -/
def readLoop (shell : Shell state handle) (source : ReadSource) : Action state handle LoopEnd :=
  shell.loop source.isTerminal 0 source.reads

end Shell

end CommandChain

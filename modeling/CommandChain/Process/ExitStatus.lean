/-!
# Exit statuses

How a finished process is reported to the shell. The code of a process killed by a signal is 128
plus the number of the signal, so a code is never negative and only a regular end with code zero is
a success.
-/

namespace CommandChain

/-- The outcome of a finished process, with what it wrote where that was captured. -/
structure ExitStatus where
  code : Int
  output : Option (List UInt8) := none
  errors : Option (List UInt8) := none
  deriving DecidableEq

/-- A command succeeds when its code is zero. -/
def isSuccessCode (code : Int) : Bool :=
  code == 0

namespace ExitStatus

/-- A process succeeds when its code is zero. -/
def succeeded (status : ExitStatus) : Bool :=
  isSuccessCode status.code

/-- The code that the shell reports for a raw status: a negative raw status is the negated number of
the signal that killed the process. -/
def codeOfRaw (raw : Int) : Int :=
  if raw < 0 then 128 - raw else raw

theorem codeOfRaw_nonneg (raw : Int) : 0 ≤ codeOfRaw raw := by
  unfold codeOfRaw
  split <;> omega

/-- Exactly the raw status zero is reported as zero. -/
theorem codeOfRaw_eq_zero_iff (raw : Int) : codeOfRaw raw = 0 ↔ raw = 0 := by
  unfold codeOfRaw
  split <;> omega

end ExitStatus

end CommandChain

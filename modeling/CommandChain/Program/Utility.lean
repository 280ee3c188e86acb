/-!
# Installed utilities

The utilities that are installed in the program directories, by name.
-/

namespace CommandChain

/-- A utility that can be started by its name. -/
inductive Utility where
  | succeed
  | fail
  | echo
  | printf
  | cat
  | interpreter
  deriving DecidableEq

namespace Utility

/-- All utilities. -/
def all : List Utility :=
  [.succeed, .fail, .echo, .printf, .cat, .interpreter]

/-- The names of a utility, its own name first. -/
def names : Utility → List String
  | .succeed => ["true"]
  | .fail => ["false"]
  | .echo => ["echo"]
  | .printf => ["printf"]
  | .cat => ["cat"]
  | .interpreter => ["dash", "sh"]

theorem mem_all (utility : Utility) : utility ∈ all := by
  cases utility <;> simp [all]

end Utility

end CommandChain

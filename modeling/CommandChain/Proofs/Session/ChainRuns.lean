import CommandChain.Proofs.Session.Log

/-!
# The chains behind a log

Builtins and processes are only called while a chain is run. `RunsChains` says so of a log: it is
put together from runs of the given chains, in their order, and from events of the shell's own.
Every step of a session has such a log, for the chains of the lines that it reads
(`runsChains_perform`).
-/

namespace CommandChain

open CommandChain.Action

variable {state handle value : Type}

theorem Action.emit_bind_apply (event : Event handle)
    (onward : Unit → Action state handle value) (initial : state) :
    (emit event >>= onward) initial =
      ⟨(onward () initial).outcome, event :: (onward () initial).events,
        (onward () initial).final⟩ :=
  rfl

/-! ## What a step may run -/

/-- The elements of the chains of a line. -/
def chainsOfLine (line : Text) : List (List Element) :=
  match parseLine line with
  | .error _ => []
  | .ok chains => chains.map Chain.elements

/-- The line that a read finds, if it is not interrupted. -/
def Read.line? : Read → Option Text
  | .line text => some text
  | .interrupted => none

/-- The elements that a step may evaluate, one chain after another. -/
def Step.chains : Step → List (List Element)
  | .line text => chainsOfLine text
  | .chain given => [given]
  | .elements given => [given]
  | .loop source => source.input.lines.flatMap chainsOfLine

/-- The lines that are read are the lines of the input, each once, whichever reads are
interrupted. -/
theorem filterMap_readsFrom (interruptedReads : List Nat) (number : Nat) (lines : List Text) :
    (readsFrom interruptedReads number lines).filterMap Read.line? = lines := by
  induction number, lines using readsFrom.induct interruptedReads with
  | case1 number lines isInterrupted inductionHypothesis =>
      rw [readsFrom.eq_def, dif_pos isInterrupted]
      exact inductionHypothesis
  | case2 number notInterrupted =>
      rw [readsFrom.eq_def, dif_neg notInterrupted]
      rfl
  | case3 number notInterrupted line rest inductionHypothesis =>
      rw [readsFrom.eq_def, dif_neg notInterrupted]
      exact congrArg (line :: ·) inductionHypothesis

/-! ## Logs of chains -/

/-- A log that is put together from runs of the given chains, in their order and each at most once,
and from events that call neither a process nor a builtin. -/
inductive RunsChains (shell : Shell state handle) :
    List (List Element) → List (Event handle) → Prop
  | nil : RunsChains shell [] []
  | skip (elements : List Element) {later : List (List Element)} {log : List (Event handle)} :
      RunsChains shell later log → RunsChains shell (elements :: later) log
  | own {event : Event handle} {chains : List (List Element)} {log : List (Event handle)} :
      event.isCall = false → RunsChains shell chains log → RunsChains shell chains (event :: log)
  | run (elements : List Element) (initial : state) {later : List (List Element)}
      {log : List (Event handle)} :
      RunsChains shell later log →
      RunsChains shell (elements :: later) ((shell.runElements elements initial).events ++ log)

namespace RunsChains

variable {shell : Shell state handle}

theorem append {first later : List (List Element)} {log more : List (Event handle)}
    (firstRuns : RunsChains shell first log) (laterRuns : RunsChains shell later more) :
    RunsChains shell (first ++ later) (log ++ more) := by
  induction firstRuns with
  | nil => exact laterRuns
  | skip elements _ inductionHypothesis => exact .skip elements inductionHypothesis
  | own notCall _ inductionHypothesis => exact .own notCall inductionHypothesis
  | run elements initial _ inductionHypothesis =>
      rw [List.append_assoc]
      exact .run elements initial inductionHypothesis

/-- Any chains may be left out at the end. -/
theorem empty : ∀ chains : List (List Element), RunsChains shell chains []
  | [] => .nil
  | elements :: later => .skip elements (empty later)

theorem append_empty {first : List (List Element)} {log : List (Event handle)}
    (runs : RunsChains shell first log) (later : List (List Element)) :
    RunsChains shell (first ++ later) log := by
  rw [← List.append_nil log]
  exact runs.append (empty later)

theorem single (elements : List Element) (initial : state) :
    RunsChains shell [elements] (shell.runElements elements initial).events := by
  rw [← List.append_nil (shell.runElements elements initial).events]
  exact .run elements initial .nil

/-- Events of the shell's own may stand in front. -/
theorem own_append {events : List (Event handle)} {chains : List (List Element)}
    {log : List (Event handle)} (notCalls : ∀ event ∈ events, event.isCall = false)
    (runs : RunsChains shell chains log) : RunsChains shell chains (events ++ log) := by
  induction events with
  | nil => exact runs
  | cons first rest inductionHypothesis =>
      obtain ⟨firstNotCall, restNotCalls⟩ := List.forall_mem_cons.1 notCalls
      exact .own firstNotCall (inductionHypothesis restNotCalls)

end RunsChains

/-! ## Logs of steps -/

namespace Shell

variable (shell : Shell state handle)

theorem runsChains_runChainRecovering (chain : Chain) (initial : state) :
    RunsChains shell [chain.elements] (shell.runChainRecovering chain initial).events := by
  have chainRuns : RunsChains shell [chain.elements] (shell.runChain chain initial).events :=
    RunsChains.single chain.elements initial
  apply events_bind_induction
  · exact chainRuns
  · intro outcome _
    rw [← List.append_nil [chain.elements]]
    apply RunsChains.append chainRuns
    split
    · exact .own rfl .nil
    · exact .nil

theorem runsChains_runChains :
    ∀ (chains : List Chain) (code : Int) (initial : state),
      RunsChains shell (chains.map Chain.elements) (shell.runChains code chains initial).events
  | [], _, _ => .nil
  | chain :: rest, _, initial => by
      have firstRuns := shell.runsChains_runChainRecovering chain initial
      apply events_bind_induction
      · exact firstRuns.append_empty (rest.map Chain.elements)
      · intro code _
        exact firstRuns.append (runsChains_runChains rest code _)

theorem runsChains_runLine (line : Text) (initial : state) :
    RunsChains shell (chainsOfLine line) (shell.runLine line initial).events := by
  simp only [runLine, chainsOfLine]
  cases parseLine line with
  | error error => exact .nil
  | ok chains => exact shell.runsChains_runChains chains 0 initial

/-- The event with which the loop asks for a line, if it writes to a terminal. -/
theorem notCall_of_mem_prompt {isTerminal : Bool} {event : Event handle}
    (member : event ∈ if isTerminal then [.terminal shell.prompt] else []) :
    event.isCall = false := by
  cases isTerminal with
  | false => cases member
  | true =>
      rw [List.mem_singleton.1 member]
      rfl

theorem runsChains_loop (isTerminal : Bool) :
    ∀ (reads : List Read) (code : Int) (initial : state),
      RunsChains shell ((reads.filterMap Read.line?).flatMap chainsOfLine)
        (shell.loop isTerminal code reads initial).events
  | [], _, _ => by
      simp only [loop, emitIf_bind_apply, emit_bind_apply]
      exact .own_append (fun _ => shell.notCall_of_mem_prompt) (.own rfl .nil)
  | .interrupted :: later, code, initial => by
      simp only [loop, breakLine, emitIf_bind_apply, emit_bind_apply]
      apply RunsChains.own_append fun _ => shell.notCall_of_mem_prompt
      exact .own rfl (.own rfl (runsChains_loop isTerminal later code initial))
  | .line line :: later, _, initial => by
      simp only [loop, emitIf_bind_apply, emit_bind_apply]
      apply RunsChains.own_append fun _ => shell.notCall_of_mem_prompt
      apply RunsChains.own rfl
      have lineRuns := shell.runsChains_runLine line initial
      show RunsChains shell
        (chainsOfLine line ++ (later.filterMap Read.line?).flatMap chainsOfLine) _
      apply events_bind_induction
      · exact lineRuns.append_empty _
      · intro outcome _
        apply lineRuns.append
        cases outcome with
        | returned code => exact runsChains_loop isTerminal later code _
        | exited code => exact .empty _
        | interrupted => exact .own rfl (runsChains_loop isTerminal later interruptedCode _)
        | failed error => exact .empty _

/-- Every step runs its chains in order, and calls nothing but in these runs. -/
theorem runsChains_perform (step : Step) (initial : state) :
    RunsChains shell step.chains (shell.perform step initial).events := by
  cases step with
  | line text =>
      simp only [perform, events_bind_pure]
      exact shell.runsChains_runLine text initial
  | chain elements =>
      simp only [perform]
      cases built : Chain.ofElements elements with
      | error error => exact .empty [elements]
      | ok chain =>
          simp only [events_bind_pure]
          rw [Step.chains, ← Chain.elements_eq_of_ofElements built]
          exact RunsChains.single chain.elements initial
  | elements elements =>
      simp only [perform, events_bind_pure]
      exact RunsChains.single elements initial
  | loop source =>
      simp only [perform, events_bind_pure]
      have loopRuns := shell.runsChains_loop source.isTerminal source.reads 0 initial
      rw [ReadSource.reads, filterMap_readsFrom] at loopRuns
      exact loopRuns

end Shell

end CommandChain

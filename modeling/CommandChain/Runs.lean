/-!
# Runs between boundaries

Some items of a list are boundaries. The maximal non-empty stretches without a boundary are the runs
of the list. `splitRuns` walks over a list and lists, in order, what each boundary and each run
stands for. Its main laws are that a boundary cuts the list into two independent parts
(`splitRuns_append_boundary`) and that a non-empty stretch without boundary is one run
(`splitRuns_run`).
-/

namespace CommandChain

universe u v

variable {item : Type u} {piece : Type v}

/-- What is known of the items from some position on: the run that starts at that position, if any,
and the pieces after it. -/
structure RunScan (item : Type u) (piece : Type v) where
  openRun : List item
  pieces : List piece

namespace RunScan

/-- The pieces once the open run is known to be complete. An empty run leaves nothing. -/
def close (ofRun : List item → piece) (scan : RunScan item piece) : List piece :=
  match scan.openRun with
  | [] => scan.pieces
  | first :: rest => ofRun (first :: rest) :: scan.pieces

/-- Pieces that follow stay behind when the open run is closed. -/
theorem close_append (ofRun : List item → piece) (openRun : List item)
    (pieces later : List piece) :
    close ofRun ⟨openRun, pieces ++ later⟩ = close ofRun ⟨openRun, pieces⟩ ++ later := by
  cases openRun <;> rfl

/-- Takes one more item in front: a boundary completes the open run, any other item joins it. -/
def extend (boundary : item → Option (List piece)) (ofRun : List item → piece)
    (next : item) (scan : RunScan item piece) : RunScan item piece :=
  match boundary next with
  | none => ⟨next :: scan.openRun, scan.pieces⟩
  | some pieces => ⟨[], pieces ++ scan.close ofRun⟩

end RunScan

/-- The pieces of a list, in order: `boundary` gives the pieces of a boundary item and is `none` at
any other item, `ofRun` gives the piece of a run. -/
def splitRuns (boundary : item → Option (List piece)) (ofRun : List item → piece)
    (items : List item) : List piece :=
  (items.foldr (RunScan.extend boundary ofRun) ⟨[], []⟩).close ofRun

/-! ## Laws -/

section Laws

variable (boundary : item → Option (List piece)) (ofRun : List item → piece)

@[simp] theorem splitRuns_nil : splitRuns boundary ofRun [] = [] :=
  rfl

/-- A boundary in front contributes its pieces and nothing else. -/
theorem splitRuns_boundary_cons {cut : item} {pieces : List piece}
    (isBoundary : boundary cut = some pieces) (rest : List item) :
    splitRuns boundary ofRun (cut :: rest) = pieces ++ splitRuns boundary ofRun rest := by
  simp [splitRuns, RunScan.extend, RunScan.close, isBoundary]

/-- Scanning from an empty open run only adds pieces behind. -/
theorem foldr_extend_of_pieces (items : List item) (pieces : List piece) :
    items.foldr (RunScan.extend boundary ofRun) ⟨[], pieces⟩ =
      ⟨(items.foldr (RunScan.extend boundary ofRun) ⟨[], []⟩).openRun,
        (items.foldr (RunScan.extend boundary ofRun) ⟨[], []⟩).pieces ++ pieces⟩ := by
  induction items with
  | nil => rfl
  | cons head tail inductionHypothesis =>
      simp only [List.foldr_cons]
      rw [inductionHypothesis]
      cases cut : boundary head with
      | none => simp [RunScan.extend, cut]
      | some headPieces =>
          simp [RunScan.extend, cut, RunScan.close_append]

/-- A boundary makes the items before it independent of the items after it. -/
theorem splitRuns_append_boundary {cut : item} {pieces : List piece}
    (isBoundary : boundary cut = some pieces) (before after : List item) :
    splitRuns boundary ofRun (before ++ cut :: after) =
      splitRuns boundary ofRun before ++ (pieces ++ splitRuns boundary ofRun after) := by
  have scanned :
      (cut :: after).foldr (RunScan.extend boundary ofRun) ⟨[], []⟩ =
        ⟨[], pieces ++ splitRuns boundary ofRun after⟩ := by
    simp [splitRuns, RunScan.extend, isBoundary]
  rw [splitRuns, List.foldr_append, scanned, foldr_extend_of_pieces, RunScan.close_append]
  rfl

/-- Items without boundary join the open run. -/
theorem foldr_extend_run (run : List item) (noBoundary : ∀ entry ∈ run, boundary entry = none)
    (scan : RunScan item piece) :
    run.foldr (RunScan.extend boundary ofRun) scan = ⟨run ++ scan.openRun, scan.pieces⟩ := by
  induction run with
  | nil => rfl
  | cons head tail inductionHypothesis =>
      have tailNoBoundary : ∀ entry ∈ tail, boundary entry = none := fun entry member =>
        noBoundary entry (List.mem_cons_of_mem head member)
      simp [RunScan.extend, noBoundary head List.mem_cons_self,
        inductionHypothesis tailNoBoundary]

/-- A non-empty stretch without boundary is a single run. -/
theorem splitRuns_run {run : List item} (nonempty : run ≠ [])
    (noBoundary : ∀ entry ∈ run, boundary entry = none) :
    splitRuns boundary ofRun run = [ofRun run] := by
  unfold splitRuns
  rw [foldr_extend_run boundary ofRun run noBoundary]
  cases run with
  | nil => exact absurd rfl nonempty
  | cons head tail => simp [RunScan.close]

end Laws

end CommandChain

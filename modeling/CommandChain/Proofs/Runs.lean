import CommandChain.Runs

/-!
# Induction over runs

Every list is a run without boundary, or such a run, a boundary and a shorter list. Reasoning along
this decomposition (`runs_induction`) needs only the two laws of `splitRuns` for a boundary and for
a single run, whatever the stage of reading a line. `mem_splitRuns` says where pieces come from.

Pieces that keep what they stand for give the list back (`flatMap_splitRuns`), and an item of the
list then has its place in one of them (`exists_place_of_flatMap`).
-/

namespace CommandChain

universe u v

variable {item : Type u} {piece : Type v}

section Decomposition

variable (boundary : item → Option (List piece))

/-- A list without boundary, or the run before its first boundary. -/
theorem exists_first_boundary (items : List item) :
    (∀ entry ∈ items, boundary entry = none) ∨
      ∃ run cut pieces rest,
        items = run ++ cut :: rest ∧ (∀ entry ∈ run, boundary entry = none) ∧
          boundary cut = some pieces := by
  induction items with
  | nil => exact Or.inl (by simp)
  | cons head tail inductionHypothesis =>
      cases cut : boundary head with
      | some pieces => exact Or.inr ⟨[], head, pieces, tail, rfl, by simp, cut⟩
      | none =>
          rcases inductionHypothesis with
            noBoundary | ⟨run, first, pieces, rest, equality, noBoundary, isBoundary⟩
          · exact Or.inl (List.forall_mem_cons.2 ⟨cut, noBoundary⟩)
          · refine Or.inr ⟨head :: run, first, pieces, rest, ?_, ?_, isBoundary⟩
            · rw [equality, List.cons_append]
            · exact List.forall_mem_cons.2 ⟨cut, noBoundary⟩

/-- What holds of runs, and of a run and a boundary in front of a list of which it holds, holds of
every list. -/
theorem runs_induction {motive : List item → Prop}
    (single : ∀ run, (∀ entry ∈ run, boundary entry = none) → motive run)
    (cut : ∀ run first pieces rest, (∀ entry ∈ run, boundary entry = none) →
      boundary first = some pieces → motive rest → motive (run ++ first :: rest))
    (items : List item) : motive items := by
  rcases exists_first_boundary boundary items with
    noBoundary | ⟨run, first, pieces, rest, equality, noBoundary, isBoundary⟩
  · exact single items noBoundary
  · have restHolds : motive rest := runs_induction single cut rest
    rw [equality]
    exact cut run first pieces rest noBoundary isBoundary restHolds
termination_by items.length
decreasing_by
  rw [equality, List.length_append, List.length_cons]
  omega

end Decomposition

section Pieces

variable (boundary : item → Option (List piece)) (ofRun : List item → piece)

/-- A stretch without boundary is a single run, or empty. -/
theorem splitRuns_of_noBoundary {run : List item}
    (noBoundary : ∀ entry ∈ run, boundary entry = none) :
    (run = [] ∧ splitRuns boundary ofRun run = []) ∨
      (run ≠ [] ∧ splitRuns boundary ofRun run = [ofRun run]) := by
  by_cases isEmpty : run = []
  · subst isEmpty
    exact Or.inl ⟨rfl, rfl⟩
  · exact Or.inr ⟨isEmpty, splitRuns_run boundary ofRun isEmpty noBoundary⟩

theorem mem_splitRuns_run {run : List item} (noBoundary : ∀ entry ∈ run, boundary entry = none)
    {found : piece} :
    found ∈ splitRuns boundary ofRun run ↔ run ≠ [] ∧ found = ofRun run := by
  rcases splitRuns_of_noBoundary boundary ofRun noBoundary with
    ⟨isEmpty, isNil⟩ | ⟨nonempty, isRun⟩
  · simp [isEmpty]
  · simp [nonempty, isRun]

/-- Every piece stands for a non-empty run of the list, or belongs to a boundary. -/
theorem mem_splitRuns {items : List item} {found : piece}
    (member : found ∈ splitRuns boundary ofRun items) :
    (∃ run, run ≠ [] ∧ run <:+: items ∧ (∀ entry ∈ run, boundary entry = none) ∧
        found = ofRun run) ∨
      ∃ cut ∈ items, ∃ pieces, boundary cut = some pieces ∧ found ∈ pieces := by
  induction items using runs_induction boundary with
  | single run noBoundary =>
      obtain ⟨nonempty, equality⟩ := (mem_splitRuns_run boundary ofRun noBoundary).1 member
      exact Or.inl ⟨run, nonempty, List.infix_refl run, noBoundary, equality⟩
  | cut run first pieces rest noBoundary isBoundary inductionHypothesis =>
      rw [splitRuns_append_boundary boundary ofRun isBoundary, List.mem_append,
        List.mem_append] at member
      rcases member with inRun | inPieces | inRest
      · obtain ⟨nonempty, equality⟩ := (mem_splitRuns_run boundary ofRun noBoundary).1 inRun
        refine Or.inl ⟨run, nonempty, ?_, noBoundary, equality⟩
        exact (List.prefix_append run (first :: rest)).isInfix
      · refine Or.inr ⟨first, ?_, pieces, isBoundary, inPieces⟩
        exact List.mem_append_right run List.mem_cons_self
      · have restInfix : rest <:+: run ++ first :: rest :=
          ((List.suffix_cons first rest).trans (List.suffix_append run (first :: rest))).isInfix
        rcases inductionHypothesis inRest with
          ⟨later, nonempty, laterInfix, laterNoBoundary, equality⟩ |
            ⟨cut, cutMember, others, cutIsBoundary, inOthers⟩
        · exact
            Or.inl ⟨later, nonempty, laterInfix.trans restInfix, laterNoBoundary, equality⟩
        · exact Or.inr ⟨cut, restInfix.subset cutMember, others, cutIsBoundary, inOthers⟩

end Pieces

section Contents

variable {found : Type v} (boundary : item → Option (List piece)) (ofRun : List item → piece)

/-- Pieces that hold the items which they stand for hold all items of the list. -/
theorem flatMap_splitRuns (content : piece → List item)
    (cutContent : ∀ cut pieces, boundary cut = some pieces → pieces.flatMap content = [cut])
    (runContent : ∀ run, content (ofRun run) = run) (items : List item) :
    (splitRuns boundary ofRun items).flatMap content = items := by
  have single (run : List item) (noBoundary : ∀ entry ∈ run, boundary entry = none) :
      (splitRuns boundary ofRun run).flatMap content = run := by
    rcases splitRuns_of_noBoundary boundary ofRun noBoundary with ⟨rfl, isNil⟩ | ⟨_, isRun⟩
    · rfl
    · rw [isRun, List.flatMap_singleton, runContent]
  induction items using runs_induction boundary with
  | single run noBoundary => exact single run noBoundary
  | cut run first pieces rest noBoundary isBoundary inductionHypothesis =>
      rw [splitRuns_append_boundary boundary ofRun isBoundary, List.flatMap_append,
        List.flatMap_append, single run noBoundary, cutContent first pieces isBoundary,
        inductionHypothesis]
      rfl

/-- Where a selection keeps every run, it can be made at the boundaries. -/
theorem filterMap_splitRuns (select : piece → Option found) (asRun : List item → found)
    (keepsRun : ∀ run, select (ofRun run) = some (asRun run)) (items : List item) :
    (splitRuns boundary ofRun items).filterMap select =
      splitRuns (fun entry => (boundary entry).map (List.filterMap select)) asRun items := by
  let selected (entry : item) : Option (List found) :=
    (boundary entry).map (List.filterMap select)
  have single (run : List item) (noBoundary : ∀ entry ∈ run, boundary entry = none) :
      (splitRuns boundary ofRun run).filterMap select = splitRuns selected asRun run := by
    rcases splitRuns_of_noBoundary boundary ofRun noBoundary with ⟨rfl, _⟩ | ⟨nonempty, isRun⟩
    · rfl
    · have noneSelected : ∀ entry ∈ run, selected entry = none := fun entry member =>
        Option.map_eq_none_iff.2 (noBoundary entry member)
      rw [isRun, splitRuns_run selected asRun nonempty noneSelected,
        List.filterMap_cons_some (keepsRun run), List.filterMap_nil]
  induction items using runs_induction boundary with
  | single run noBoundary => exact single run noBoundary
  | cut run first pieces rest noBoundary isBoundary inductionHypothesis =>
      have isSelected : selected first = some (pieces.filterMap select) :=
        congrArg (Option.map (List.filterMap select)) isBoundary
      rw [splitRuns_append_boundary boundary ofRun isBoundary, List.filterMap_append,
        List.filterMap_append, single run noBoundary, inductionHypothesis]
      exact (splitRuns_append_boundary selected asRun isSelected run rest).symm

end Contents

/-! ## Places -/

/-- An item of a list that is cut at one of its items is in front of the cut, the cut itself, or
behind it. -/
theorem append_cons_eq_append_cons_iff {run rest before after : List item} {cut entry : item} :
    run ++ cut :: rest = before ++ entry :: after ↔
      (∃ skipped, run = before ++ entry :: skipped ∧ after = skipped ++ cut :: rest) ∨
        (before = run ∧ entry = cut ∧ after = rest) ∨
        ∃ skipped, before = run ++ cut :: skipped ∧ rest = skipped ++ entry :: after := by
  constructor
  · intro whole
    rcases List.append_eq_append_iff.1 whole with
      ⟨shared, rfl, restWhole⟩ | ⟨shared, rfl, afterWhole⟩
    · rcases List.cons_eq_append_iff.1 restWhole with ⟨rfl, same⟩ | ⟨skipped, rfl, isRest⟩
      · cases same
        exact Or.inr (Or.inl ⟨List.append_nil run, rfl, rfl⟩)
      · exact Or.inr (Or.inr ⟨skipped, rfl, isRest⟩)
    · rcases List.cons_eq_append_iff.1 afterWhole with ⟨rfl, same⟩ | ⟨skipped, rfl, isAfter⟩
      · cases same
        exact Or.inr (Or.inl ⟨(List.append_nil before).symm, rfl, rfl⟩)
      · exact Or.inl ⟨skipped, rfl, isAfter⟩
  · rintro (⟨skipped, rfl, rfl⟩ | ⟨rfl, rfl, rfl⟩ | ⟨skipped, rfl, rfl⟩)
    · rw [List.append_assoc, List.cons_append]
    · rfl
    · rw [List.append_assoc, List.cons_append]

/-- An item of a concatenation has its place in one of the lists. -/
theorem exists_place_of_flatMap {content : piece → List item} {pieces : List piece}
    {before after : List item} {entry : item}
    (whole : pieces.flatMap content = before ++ entry :: after) :
    ∃ earlier found later front back,
      pieces = earlier ++ found :: later ∧ content found = front ++ entry :: back ∧
        before = earlier.flatMap content ++ front ∧ after = back ++ later.flatMap content := by
  induction pieces generalizing before with
  | nil => simp at whole
  | cons first rest inductionHypothesis =>
      rw [List.flatMap_cons, List.append_eq_append_iff] at whole
      -- The first list ends before the item, or the item may be in it.
      rcases whole with ⟨skipped, rfl, restWhole⟩ | ⟨shared, firstWhole, entryPlace⟩
      · obtain ⟨earlier, found, later, front, back, rfl, place, rfl, rfl⟩ :=
          inductionHypothesis restWhole
        exact
          ⟨first :: earlier, found, later, front, back, rfl, place, by simp, rfl⟩
      · rcases List.append_eq_cons_iff.1 entryPlace.symm with ⟨rfl, restWhole⟩ | ⟨back, rfl, rfl⟩
        · obtain ⟨earlier, found, later, front, back, rfl, place, isBefore, rfl⟩ :=
            inductionHypothesis (show rest.flatMap content = [] ++ entry :: after from restWhole)
          refine ⟨first :: earlier, found, later, front, back, rfl, place, ?_, rfl⟩
          rw [List.append_nil] at firstWhole
          rw [List.flatMap_cons, List.append_assoc, ← isBefore, List.append_nil, firstWhole]
        · exact ⟨[], first, rest, before, back, rfl, firstWhole, rfl, rfl⟩

end CommandChain

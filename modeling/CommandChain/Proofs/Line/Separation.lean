import CommandChain.Proofs.Line.Chain

/-!
# The separation of elements by semicolons

Cutting elements into chains is taking their maximal stretches without semicolon, each at its place:
such a stretch is one of the chains (`IsMaximalRun.cutChains_eq`), and there are no others
(`exists_isMaximalRun`). Chains that are separated by semicolons come back, whatever the number of
semicolons between, before and behind them (`cutChains_joinSeparated`).

All of this follows from the law of a single semicolon, which makes the elements before it
independent of those behind it.
-/

namespace CommandChain

/-- A stretch of elements without semicolon that cannot be made longer: a semicolon stands directly
before it and behind it, unless nothing does. -/
structure IsMaximalRun (elements front run back : List Element) : Prop where
  whole : elements = front ++ run ++ back
  nonempty : run ≠ []
  unbroken : Element.operator .sequence ∉ run
  frontApart : front = [] ∨ ∃ earlier, front = earlier ++ [.operator .sequence]
  backApart : back = [] ∨ ∃ later, back = .operator .sequence :: later

/-- A chain with the number of semicolons in front of it. -/
structure SeparatedChain where
  gap : Nat
  chain : Chain
  deriving DecidableEq

/-- A number of semicolons. -/
def semicolons (count : Nat) : List Element :=
  List.replicate count (.operator .sequence)

/-- The elements that a chain and the semicolons in front of it take. -/
def SeparatedChain.elements (entry : SeparatedChain) : List Element :=
  semicolons entry.gap ++ entry.chain.elements

/-- The elements that separated chains take, with some semicolons behind the last. -/
def joinSeparated (entries : List SeparatedChain) (last : Nat) : List Element :=
  entries.flatMap SeparatedChain.elements ++ semicolons last

/-! ## One semicolon -/

/-- The chains into which elements are cut. -/
def cutChains (elements : List Element) : List Chain :=
  match chainsOfElements elements with
  | .error _ => []
  | .ok chains => chains

theorem chainsOfElements_eq_cutChains (elements : List Element) :
    chainsOfElements elements = .ok (cutChains elements) := by
  obtain ⟨chains, isCut, _⟩ := exists_chains elements
  simp only [cutChains, isCut]

theorem cutChains_of_ok {elements : List Element} {chains : List Chain}
    (isCut : chainsOfElements elements = .ok chains) : cutChains elements = chains := by
  simp only [cutChains, isCut]

theorem cutChains_nil : cutChains [] = [] :=
  rfl

theorem cutChains_elements (chain : Chain) : cutChains chain.elements = [chain] :=
  cutChains_of_ok (chainsOfElements_elements chain)

theorem cutChains_append_sequence (before after : List Element) :
    cutChains (before ++ .operator .sequence :: after) = cutChains before ++ cutChains after := by
  apply cutChains_of_ok
  rw [chainsOfElements_append_sequence, chainsOfElements_eq_cutChains before,
    chainsOfElements_eq_cutChains after]
  rfl

theorem cutChains_sequence_cons (later : List Element) :
    cutChains (.operator .sequence :: later) = cutChains later :=
  cutChains_append_sequence [] later

theorem cutChains_semicolons_append (count : Nat) (later : List Element) :
    cutChains (semicolons count ++ later) = cutChains later := by
  induction count with
  | zero => rfl
  | succ count inductionHypothesis =>
      rw [semicolons, List.replicate_succ, List.cons_append, cutChains_sequence_cons]
      exact inductionHypothesis

theorem cutChains_chain_append (chain : Chain) {back : List Element}
    (backApart : back = [] ∨ ∃ later, back = .operator .sequence :: later) :
    cutChains (chain.elements ++ back) = chain :: cutChains back := by
  rcases backApart with rfl | ⟨later, rfl⟩
  · rw [List.append_nil, cutChains_elements, cutChains_nil]
  · rw [cutChains_append_sequence, cutChains_sequence_cons, cutChains_elements,
      List.singleton_append]

/-! ## Maximal runs -/

/-- A maximal run is one of the chains, behind those of the elements in front of it. -/
theorem IsMaximalRun.cutChains_eq {elements front back : List Element} {chain : Chain}
    (isRun : IsMaximalRun elements front chain.elements back) :
    cutChains elements = cutChains front ++ chain :: cutChains back := by
  have fromRun := cutChains_chain_append chain isRun.backApart
  rw [isRun.whole, List.append_assoc]
  rcases isRun.frontApart with rfl | ⟨earlier, rfl⟩
  · exact fromRun
  · rw [List.append_assoc, List.singleton_append, cutChains_append_sequence,
      cutChains_append_sequence, fromRun]
    exact congrArg (· ++ _) (List.append_nil (cutChains earlier)).symm

theorem IsMaximalRun.first (chain : Chain) {back : List Element}
    (backApart : back = [] ∨ ∃ later, back = .operator .sequence :: later) :
    IsMaximalRun (chain.elements ++ back) [] chain.elements back where
  whole := rfl
  nonempty := chain.elements_ne_nil
  unbroken := chain.sequence_not_mem
  frontApart := Or.inl rfl
  backApart := backApart

theorem IsMaximalRun.append_sequence {rest front run back : List Element}
    (isRun : IsMaximalRun rest front run back) (before : List Element) :
    IsMaximalRun (before ++ .operator .sequence :: rest) (before ++ .operator .sequence :: front)
      run back where
  whole := by simp [isRun.whole]
  nonempty := isRun.nonempty
  unbroken := isRun.unbroken
  frontApart := by
    rcases isRun.frontApart with rfl | ⟨earlier, rfl⟩
    · exact Or.inr ⟨before, rfl⟩
    · exact Or.inr ⟨before ++ .operator .sequence :: earlier, by simp⟩
  backApart := isRun.backApart

/-- A chain of a list that starts with a chain is that one, or one of those behind it. -/
theorem first_or_later_of_cutChains {first chain : Chain} {back : List Element}
    {earlier later : List Chain}
    (backApart : back = [] ∨ ∃ others, back = .operator .sequence :: others)
    (isCut : cutChains (first.elements ++ back) = earlier ++ chain :: later) :
    (earlier = [] ∧ chain = first ∧ cutChains back = later) ∨
      ∃ between, earlier = first :: between ∧ cutChains back = between ++ chain :: later := by
  rw [cutChains_chain_append first backApart] at isCut
  rcases List.cons_eq_append_iff.1 isCut with ⟨rfl, same⟩ | ⟨between, rfl, isBack⟩
  · cases same
    exact Or.inl ⟨rfl, rfl, rfl⟩
  · exact Or.inr ⟨between, rfl, isBack⟩

/-- Every chain is a maximal run, between those of the elements before it and behind it. -/
theorem exists_isMaximalRun {elements : List Element} {earlier later : List Chain} {chain : Chain}
    (isCut : cutChains elements = earlier ++ chain :: later) :
    ∃ front back, IsMaximalRun elements front chain.elements back ∧ cutChains front = earlier ∧
      cutChains back = later := by
  induction elements using runs_induction Chain.boundary generalizing earlier with
  | single run noBoundary =>
      rcases eq_nil_or_exists_chain noBoundary with rfl | ⟨first, rfl⟩
      · exact absurd isCut.symm (by simp [cutChains_nil])
      · rw [← List.append_nil first.elements] at isCut ⊢
        rcases first_or_later_of_cutChains (Or.inl rfl) isCut with
          ⟨rfl, rfl, isLater⟩ | ⟨between, _, isBack⟩
        · exact ⟨[], [], .first chain (Or.inl rfl), cutChains_nil, isLater⟩
        · exact absurd isBack.symm (by simp [cutChains_nil])
  | cut run first pieces rest noBoundary isBoundary inductionHypothesis =>
      obtain rfl := eq_sequence_of_chainBoundary isBoundary
      -- The chain is the run before the first semicolon, or lies behind that.
      have behind {between : List Chain} (isBehind : cutChains rest = between ++ chain :: later) :
          ∃ front back,
            IsMaximalRun (run ++ .operator .sequence :: rest) front chain.elements back ∧
              cutChains front = cutChains run ++ between ∧ cutChains back = later := by
        obtain ⟨front, back, isRun, isFront, isBack⟩ := inductionHypothesis isBehind
        refine ⟨run ++ .operator .sequence :: front, back, isRun.append_sequence run, ?_, isBack⟩
        rw [cutChains_append_sequence, isFront]
      rcases eq_nil_or_exists_chain noBoundary with rfl | ⟨first, rfl⟩
      · exact behind isCut
      · rcases first_or_later_of_cutChains (Or.inr ⟨rest, rfl⟩) isCut with
          ⟨rfl, rfl, isLater⟩ | ⟨between, rfl, isBack⟩
        · refine ⟨[], .operator .sequence :: rest, .first chain (Or.inr ⟨rest, rfl⟩), ?_, isLater⟩
          exact cutChains_nil
        · rw [cutChains_sequence_cons] at isBack
          obtain ⟨front, back, isRun, isFront, backCut⟩ := behind isBack
          refine ⟨front, back, isRun, ?_, backCut⟩
          rw [isFront, cutChains_elements]
          rfl

/-! ## Separated chains -/

theorem cutChains_joinSeparated {entries : List SeparatedChain} (last : Nat)
    (apart : ∀ entry ∈ entries.tail, 0 < entry.gap) :
    cutChains (joinSeparated entries last) = entries.map SeparatedChain.chain := by
  induction entries with
  | nil =>
      rw [joinSeparated, List.flatMap_nil, List.nil_append, ← List.append_nil (semicolons last),
        cutChains_semicolons_append]
      rfl
  | cons entry later inductionHypothesis =>
      have restApart : ∀ other ∈ later.tail, 0 < other.gap := fun other member =>
        apart other (List.mem_of_mem_tail member)
      have backApart : joinSeparated later last = [] ∨
          ∃ others, joinSeparated later last = .operator .sequence :: others := by
        cases later with
        | nil =>
            cases last with
            | zero => exact Or.inl rfl
            | succ count => exact Or.inr ⟨semicolons count, rfl⟩
        | cons next others =>
            obtain ⟨count, isSucc⟩ := Nat.exists_eq_succ_of_ne_zero (apart next (by simp)).ne'
            refine Or.inr ⟨semicolons count ++ next.chain.elements ++ joinSeparated others last, ?_⟩
            simp [joinSeparated, SeparatedChain.elements, isSucc, semicolons, List.replicate_succ]
      have whole : joinSeparated (entry :: later) last =
          semicolons entry.gap ++ (entry.chain.elements ++ joinSeparated later last) := by
        simp [joinSeparated, SeparatedChain.elements]
      rw [whole, cutChains_semicolons_append, cutChains_chain_append entry.chain backApart,
        inductionHypothesis restApart]
      rfl

/-- Cutting elements into chains never fails. It takes the maximal stretches without semicolon, in
their order: a chain stands in the result between some others if and only if it is such a stretch of
the elements, those before it are the chains of what stands in front of the stretch, and those after
it the chains of what stands behind. Only the semicolons are lost. A semicolon cuts elements into two
that are cut on their own, and chains with at least one semicolon between neighbours, and any number
in front of the first and behind the last, come back as they are. -/
theorem chainsOfElements_maximal_runs :
    (∀ elements, ∃ chains, chainsOfElements elements = .ok chains ∧
        chains.flatMap Chain.elements = elements.filter (· ≠ .operator .sequence) ∧
        ∀ earlier chain later,
          chains = earlier ++ chain :: later ↔
            ∃ front back, IsMaximalRun elements front chain.elements back ∧
              chainsOfElements front = .ok earlier ∧ chainsOfElements back = .ok later) ∧
      (∀ before after,
        chainsOfElements (before ++ .operator .sequence :: after) =
          (do
            let first ← chainsOfElements before
            let later ← chainsOfElements after
            pure (first ++ later))) ∧
      (∀ (entries : List SeparatedChain) (last : Nat), (∀ entry ∈ entries.tail, 0 < entry.gap) →
        chainsOfElements (joinSeparated entries last) =
          .ok (entries.map SeparatedChain.chain)) := by
  refine ⟨?_, chainsOfElements_append_sequence, ?_⟩
  · intro elements
    obtain ⟨chains, isCut, flatten, _⟩ := exists_chains elements
    refine ⟨chains, isCut, flatten, ?_⟩
    intro earlier chain later
    constructor
    · rintro rfl
      obtain ⟨front, back, isRun, rfl, rfl⟩ := exists_isMaximalRun (cutChains_of_ok isCut)
      exact
        ⟨front, back, isRun, chainsOfElements_eq_cutChains front,
          chainsOfElements_eq_cutChains back⟩
    · rintro ⟨front, back, isRun, frontCut, backCut⟩
      rw [← cutChains_of_ok isCut, isRun.cutChains_eq, cutChains_of_ok frontCut,
        cutChains_of_ok backCut]
  · intro entries last apart
    rw [chainsOfElements_eq_cutChains, cutChains_joinSeparated last apart]

/-- Two chains with a semicolon in front, two between and one behind. -/
theorem chainsOfElements_maximal_runs_of_spread :
    let command : Element := .command ⟨[.char 'a'], [], by decide⟩
    let first : Chain := ⟨[command], by simp, by decide⟩
    let second : Chain := ⟨[command, .operator (.connect .and)], by simp, by decide⟩
    let entries : List SeparatedChain := [⟨1, first⟩, ⟨2, second⟩]
    (∀ entry ∈ entries.tail, 0 < entry.gap) ∧
      chainsOfElements (joinSeparated entries 1) = .ok [first, second] := by
  intro command first second entries
  have apart : ∀ entry ∈ entries.tail, 0 < entry.gap := by simp [entries]
  exact ⟨apart, chainsOfElements_maximal_runs.2.2 entries 1 apart⟩

end CommandChain

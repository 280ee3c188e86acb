import CommandChain.Proofs.Line.Chain

/-!
# Reading and writing chains

Reading a line undoes writing chains exactly where the chains are well formed, and every line is
read into well-formed chains. So writing well-formed chains is injective, and a line is read in the
same way after it was read and written once.
-/

namespace CommandChain

/-- Chains that a line can hold. -/
def AreWellFormed (chains : List Chain) : Prop :=
  ∀ chain ∈ chains, chain.IsWellFormed

/-- Whatever is read from a line is well formed. -/
theorem areWellFormed_of_parseLine {line : Text} {chains : List Chain}
    (isRead : parseLine line = .ok chains) : AreWellFormed chains := by
  obtain ⟨others, othersRead, othersWellFormed⟩ := exists_parseLine line
  rw [isRead] at othersRead
  cases othersRead
  exact othersWellFormed

namespace Chain

/-- Every token of a well-formed chain is a word: its operators are connectives. -/
theorem isWord_of_mem_tokens {chain : Chain} (wellFormed : chain.IsWellFormed) :
    ∀ token ∈ chain.tokens, Text.IsWord token := by
  intro token member
  obtain ⟨element, elementMember, inTokens⟩ := List.mem_flatMap.1 member
  cases element with
  | operator operator =>
      have different : operator ≠ .sequence := by
        rintro rfl
        exact chain.sequence_not_mem elementMember
      rw [List.mem_singleton.1 inTokens]
      exact Operator.isWord_literal different
  | command command => exact (wellFormed.plainWords command elementMember token inTokens).1

/-- A well-formed chain is read back from its line. -/
theorem parseLine_render {chain : Chain} (wellFormed : chain.IsWellFormed) :
    parseLine chain.render = .ok [chain] := by
  have tokensRead : chain.render.tokens = chain.tokens :=
    Text.tokens_joinWith_space (isWord_of_mem_tokens wellFormed)
  have elementsRead : elementsOfTokens chain.tokens = .ok chain.elements :=
    elementsOfTokens_flatMap_tokens wellFormed.apart fun command member word inWords =>
      (wellFormed.plainWords command member word inWords).2
  rw [parseLine, tokensRead, elementsRead]
  exact chainsOfElements_elements chain

/-- Well-formed chains are read back from their line. -/
theorem parseLine_renderAll_of_wellFormed :
    ∀ {chains : List Chain}, AreWellFormed chains → parseLine (renderAll chains) = .ok chains
  | [], _ => rfl
  | [only], wellFormed => parseLine_render (wellFormed only List.mem_cons_self)
  | first :: second :: rest, wellFormed => by
      have firstRead : parseLine first.render = .ok [first] :=
        parseLine_render (wellFormed first List.mem_cons_self)
      have restRead : parseLine (renderAll (second :: rest)) = .ok (second :: rest) :=
        parseLine_renderAll_of_wellFormed fun chain member =>
          wellFormed chain (List.mem_cons_of_mem first member)
      have rendered :
          renderAll (first :: second :: rest) =
            first.render ++ Symbol.semicolon :: renderAll (second :: rest) := by
        simp [renderAll, Text.joinWith_cons_cons]
      rw [rendered]
      exact parseLine_append_semicolon firstRead restRead

end Chain

/-- Reading accepts exactly what writing well-formed chains produces, up to the spelling of a line:
every line is read into well-formed chains, and chains are read back from their line if and only if
they are well formed. Hence different well-formed chains have different lines, and what was read
from a line is read again from the line that it is written on. -/
theorem parseLine_renderAll :
    (∀ line, ∃ chains, parseLine line = .ok chains ∧ AreWellFormed chains) ∧
      (∀ chains, parseLine (Chain.renderAll chains) = .ok chains ↔ AreWellFormed chains) ∧
      (∀ first second, AreWellFormed first → AreWellFormed second →
        Chain.renderAll first = Chain.renderAll second → first = second) ∧
      (∀ line chains, parseLine line = .ok chains →
        parseLine (Chain.renderAll chains) = .ok chains) := by
  refine ⟨exists_parseLine, ?_, ?_, ?_⟩
  · intro chains
    exact ⟨areWellFormed_of_parseLine, Chain.parseLine_renderAll_of_wellFormed⟩
  · intro first second firstWellFormed secondWellFormed sameLine
    have firstRead := Chain.parseLine_renderAll_of_wellFormed firstWellFormed
    rw [sameLine, Chain.parseLine_renderAll_of_wellFormed secondWellFormed] at firstRead
    cases firstRead
    rfl
  · intro line chains isRead
    exact Chain.parseLine_renderAll_of_wellFormed (areWellFormed_of_parseLine isRead)

end CommandChain

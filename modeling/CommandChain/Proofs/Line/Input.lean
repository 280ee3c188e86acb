import CommandChain.Proofs.Line.Chain
import CommandChain.Text.Lines

/-!
# Lines of an input

The lines of a text are the only way to cut it into lines (`lines_eq_iff`): every line ends with its
only newline, but the last may lack one. The newline is blank, so a line has the same chains with
and without it (`parseLine_append_newline`).
-/

namespace CommandChain

namespace Text

/-! ## Cutting a text into lines -/

/-- A line that ends with its only newline. -/
def IsEnded (line : Text) : Prop :=
  ∃ body, newline ∉ body ∧ line = body ++ [newline]

/-- The lines that a text can have: each is ended, but the last may be a rest without newline that
is not empty. -/
def AreLines : List Text → Prop
  | [] => True
  | [last] => IsEnded last ∨ (last ≠ [] ∧ newline ∉ last)
  | first :: second :: rest => IsEnded first ∧ AreLines (second :: rest)

theorem AreLines.cons {first : Text} {rest : List Text} (ended : IsEnded first)
    (restLines : AreLines rest) : AreLines (first :: rest) := by
  cases rest with
  | nil => exact Or.inl ended
  | cons second later => exact ⟨ended, restLines⟩

/-- Only the last line may lack its newline. -/
theorem AreLines.cons_inv {first : Text} {rest : List Text} (areLines : AreLines (first :: rest)) :
    (IsEnded first ∧ AreLines rest) ∨ (rest = [] ∧ first ≠ [] ∧ newline ∉ first) := by
  cases rest with
  | nil =>
      rcases areLines with ended | unended
      · exact Or.inl ⟨ended, trivial⟩
      · exact Or.inr ⟨rfl, unended⟩
  | cons second later => exact Or.inl areLines

theorem lines_newline_cons (rest : Text) : lines (newline :: rest) = [newline] :: lines rest := by
  simp [lines, consLine]

theorem lines_cons_of_ne {symbol : Symbol} (different : symbol ≠ newline) (rest : Text) :
    lines (symbol :: rest) =
      match lines rest with
      | [] => [[symbol]]
      | first :: later => (symbol :: first) :: later := by
  show consLine symbol (lines rest) = _
  unfold consLine
  exact if_neg different

theorem lines_append_newline {body : Text} (noNewline : newline ∉ body) (rest : Text) :
    lines (body ++ newline :: rest) = (body ++ [newline]) :: lines rest := by
  induction body with
  | nil => exact lines_newline_cons rest
  | cons head tail inductionHypothesis =>
      obtain ⟨headDifferent, tailNoNewline⟩ := List.ne_and_not_mem_of_not_mem_cons noNewline
      rw [List.cons_append, lines_cons_of_ne headDifferent.symm, inductionHypothesis tailNoNewline]
      rfl

theorem lines_of_not_mem {text : Text} (nonempty : text ≠ []) (noNewline : newline ∉ text) :
    lines text = [text] := by
  induction text with
  | nil => exact absurd rfl nonempty
  | cons head tail inductionHypothesis =>
      obtain ⟨headDifferent, tailNoNewline⟩ := List.ne_and_not_mem_of_not_mem_cons noNewline
      rw [lines_cons_of_ne headDifferent.symm]
      by_cases isLast : tail = []
      · subst isLast
        rfl
      · rw [inductionHypothesis isLast tailNoNewline]

theorem areLines_consLine {symbol : Symbol} {found : List Text} (areLines : AreLines found) :
    AreLines (consLine symbol found) := by
  unfold consLine
  split
  -- A newline is a line of its own in front; any other symbol joins the first line.
  case isTrue isNewline =>
      exact AreLines.cons ⟨[], by simp, by simp [isNewline]⟩ areLines
  case isFalse different =>
      have headDifferent : newline ≠ symbol := fun same => different same.symm
      cases found with
      | nil => exact Or.inr ⟨by simp, by simp [headDifferent]⟩
      | cons first rest =>
          rcases areLines.cons_inv with ⟨⟨body, noNewline, rfl⟩, restLines⟩ | ⟨rfl, _, noNewline⟩
          · refine AreLines.cons ⟨symbol :: body, ?_, rfl⟩ restLines
            exact List.not_mem_cons_of_ne_of_not_mem headDifferent noNewline
          · refine Or.inr ⟨by simp, ?_⟩
            exact List.not_mem_cons_of_ne_of_not_mem headDifferent noNewline

theorem areLines_lines (text : Text) : AreLines (lines text) := by
  induction text with
  | nil => trivial
  | cons head tail inductionHypothesis => exact areLines_consLine inductionHypothesis

theorem lines_flatten {found : List Text} (areLines : AreLines found) :
    lines found.flatten = found := by
  induction found with
  | nil => rfl
  | cons first rest inductionHypothesis =>
      rcases areLines.cons_inv with
        ⟨⟨body, noNewline, rfl⟩, restLines⟩ | ⟨rfl, nonempty, noNewline⟩
      · have restCut : lines rest.flatten = rest := inductionHypothesis restLines
        rw [List.flatten_cons, List.append_assoc, List.singleton_append,
          lines_append_newline noNewline, restCut]
      · rw [List.flatten_cons, List.flatten_nil, List.append_nil]
        exact lines_of_not_mem nonempty noNewline

/-- A text has its lines and no others. -/
theorem lines_eq_iff {text : Text} {found : List Text} :
    lines text = found ↔ found.flatten = text ∧ AreLines found := by
  constructor
  · rintro rfl
    exact ⟨flatten_lines text, areLines_lines text⟩
  · rintro ⟨rfl, areLines⟩
    exact lines_flatten areLines

end Text

/-! ## Chains of an ended line -/

theorem parseLine_append_newline (line : Text) :
    parseLine (line ++ [Text.newline]) = parseLine line := by
  have sameTokens : (line ++ [Text.newline]).tokens = line.tokens := by
    rw [Text.newline, Text.tokens_append_blank Symbol.isBlank_newline, Text.tokens_nil,
      List.append_nil]
  rw [parseLine, parseLine, sameTokens]

theorem readChains_append_newline (line : Text) :
    readChains (line ++ [Text.newline]) = readChains line := by
  simp only [readChains, parseLine_append_newline]

/-! ## Inputs that are made of lines -/

/-- A text that consists of the given lines, each with a newline behind it. The last newline may be
missing if the last line is not empty. -/
def IsMadeOf (lines : List Text) (input : Text) : Prop :=
  input = lines.flatMap (· ++ [Text.newline]) ∨
    (lines.getLast? ≠ some [] ∧ input = Text.joinWith [Text.newline] lines)

theorem map_readChains_of_ended {lines : List Text}
    (noNewline : ∀ line ∈ lines, Text.newline ∉ line) :
    (Text.lines (lines.flatMap (· ++ [Text.newline]))).map readChains = lines.map readChains := by
  induction lines with
  | nil => rfl
  | cons first rest inductionHypothesis =>
      obtain ⟨firstNoNewline, restNoNewline⟩ := List.forall_mem_cons.1 noNewline
      rw [List.flatMap_cons, List.append_assoc, List.singleton_append,
        Text.lines_append_newline firstNoNewline, List.map_cons, List.map_cons,
        readChains_append_newline, inductionHypothesis restNoNewline]

theorem map_readChains_of_joined :
    ∀ {lines : List Text}, (∀ line ∈ lines, Text.newline ∉ line) → lines.getLast? ≠ some [] →
      (Text.joinWith [Text.newline] lines).lines.map readChains = lines.map readChains
  | [], _, _ => rfl
  | [only], noNewline, lastNonempty => by
      have nonempty : only ≠ [] := fun isEmpty => lastNonempty (congrArg some isEmpty)
      rw [Text.joinWith_singleton,
        Text.lines_of_not_mem nonempty (noNewline only List.mem_cons_self)]
  | first :: second :: rest, noNewline, lastNonempty => by
      obtain ⟨firstNoNewline, restNoNewline⟩ := List.forall_mem_cons.1 noNewline
      rw [List.getLast?_cons_cons] at lastNonempty
      have restRead := map_readChains_of_joined restNoNewline lastNonempty
      rw [Text.joinWith_cons_cons, List.append_assoc, List.singleton_append,
        Text.lines_append_newline firstNoNewline, List.map_cons, readChains_append_newline, restRead]
      rfl

/-- The chains of an input, line by line, are those of the lines that it is made of. -/
theorem map_readChains_of_isMadeOf {lines : List Text} {input : Text}
    (noNewline : ∀ line ∈ lines, Text.newline ∉ line) (madeOf : IsMadeOf lines input) :
    input.lines.map readChains = lines.map readChains := by
  rcases madeOf with rfl | ⟨lastNonempty, rfl⟩
  · exact map_readChains_of_ended noNewline
  · exact map_readChains_of_joined noNewline lastNonempty

end CommandChain

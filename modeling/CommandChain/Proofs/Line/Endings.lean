import CommandChain.Proofs.Line.Input
import CommandChain.Proofs.Line.Pieces

/-!
# Line ends of an input

A line of an input ends in one of three ways, and the last line may lack an end. `Text.inputLines`
keeps the end of each line, so the lines make up the input (`flatMap_whole_inputLines`). The loop
reads the same lines, with every end that there is replaced by a newline (`map_read_inputLines`).
-/

namespace CommandChain

/-- How a line of an input ends. -/
inductive LineEnd where
  | newline
  | carriageReturn
  | both
  | missing
  deriving DecidableEq

/-- The symbols that end a line. -/
def LineEnd.text : LineEnd → Text
  | .newline => [.char '\n']
  | .carriageReturn => [.char '\r']
  | .both => [.char '\r', .char '\n']
  | .missing => []

/-- The end of a line as the loop reads it. -/
def LineEnd.unified : LineEnd → Text
  | .missing => []
  | _ => [Text.newline]

/-- A line of an input, apart from its end. -/
structure InputLine where
  content : Text
  ending : LineEnd
  deriving DecidableEq

namespace InputLine

/-- A line with its end. -/
def whole (line : InputLine) : Text :=
  line.content ++ line.ending.text

/-- The bytes of a line with its end. -/
def bytes (line : InputLine) : List UInt8 :=
  Text.bytes line.content ++ Text.bytes line.ending.text

/-- A line as the loop reads it. -/
def read (line : InputLine) : Text :=
  line.content ++ line.ending.unified

theorem bytes_flatMap_whole (lines : List InputLine) :
    Text.bytes (lines.flatMap whole) = lines.flatMap bytes := by
  rw [Text.bytes, List.flatMap_assoc]
  congr 1
  funext line
  exact Text.bytes_append line.content line.ending.text

/-- No symbol of the content ends a line. -/
def IsUnbroken (line : InputLine) : Prop :=
  Text.newline ∉ line.content ∧ Symbol.char '\r' ∉ line.content

/-- Puts one more symbol in front of the first line. -/
def consContent (symbol : Symbol) : List InputLine → List InputLine
  | [] => [⟨[symbol], .missing⟩]
  | first :: rest => { first with content := symbol :: first.content } :: rest

theorem flatMap_whole_consContent (symbol : Symbol) (lines : List InputLine) :
    (consContent symbol lines).flatMap whole = symbol :: lines.flatMap whole := by
  cases lines with
  | nil => rfl
  | cons first rest => rfl

theorem map_read_consContent {symbol : Symbol} (different : symbol ≠ Text.newline)
    (lines : List InputLine) :
    (consContent symbol lines).map read = Text.consLine symbol (lines.map read) := by
  unfold Text.consLine
  rw [if_neg different]
  cases lines with
  | nil => rfl
  | cons first rest => rfl

theorem unbroken_consContent {symbol : Symbol} {lines : List InputLine}
    (notReturn : symbol ≠ .char '\r') (notNewline : symbol ≠ Text.newline)
    (unbroken : ∀ line ∈ lines, line.IsUnbroken) :
    ∀ line ∈ consContent symbol lines, line.IsUnbroken := by
  cases lines with
  | nil =>
      refine List.forall_mem_singleton.2 ⟨?_, ?_⟩
      · simpa using notNewline.symm
      · simpa using notReturn.symm
  | cons first rest =>
      obtain ⟨⟨noNewline, noReturn⟩, restUnbroken⟩ := List.forall_mem_cons.1 unbroken
      refine List.forall_mem_cons.2 ⟨⟨?_, ?_⟩, restUnbroken⟩
      · exact List.not_mem_cons_of_ne_of_not_mem notNewline.symm noNewline
      · exact List.not_mem_cons_of_ne_of_not_mem notReturn.symm noReturn

end InputLine

namespace Text

/-- The lines of an input. A carriage return and a newline right behind it end the same line. -/
def inputLines : Text → List InputLine
  | [] => []
  | [only] =>
      if only = .char '\r' then [⟨[], .carriageReturn⟩]
      else if only = newline then [⟨[], .newline⟩]
      else [⟨[only], .missing⟩]
  | first :: second :: rest =>
      if first = .char '\r' then
        if second = newline then ⟨[], .both⟩ :: inputLines rest
        else ⟨[], .carriageReturn⟩ :: inputLines (second :: rest)
      else if first = newline then ⟨[], .newline⟩ :: inputLines (second :: rest)
      else InputLine.consContent first (inputLines (second :: rest))

theorem flatMap_whole_inputLines (input : Text) :
    (inputLines input).flatMap InputLine.whole = input := by
  fun_induction inputLines input with
  | case1 => rfl
  | case2 => rfl
  | case3 => rfl
  | case4 => rfl
  | case5 rest inductionHypothesis =>
      exact congrArg (Symbol.char '\r' :: newline :: ·) inductionHypothesis
  | case6 second rest _ inductionHypothesis =>
      exact congrArg (Symbol.char '\r' :: ·) inductionHypothesis
  | case7 second rest _ inductionHypothesis =>
      exact congrArg (newline :: ·) inductionHypothesis
  | case8 first second rest _ _ inductionHypothesis =>
      rw [InputLine.flatMap_whole_consContent, inductionHypothesis]

theorem unifyLineEnds_cons {first : Symbol} (notReturn : first ≠ .char '\r') (rest : Text) :
    unifyLineEnds (first :: rest) = first :: unifyLineEnds rest := by
  cases rest with
  | nil => exact if_neg notReturn
  | cons second later => exact if_neg notReturn

theorem unifyLineEnds_return_newline (rest : Text) :
    unifyLineEnds (.char '\r' :: newline :: rest) = newline :: unifyLineEnds rest :=
  rfl

theorem unifyLineEnds_return {second : Symbol} (different : second ≠ newline) (rest : Text) :
    unifyLineEnds (.char '\r' :: second :: rest) = newline :: unifyLineEnds (second :: rest) :=
  (if_pos rfl).trans (if_neg different)

theorem map_read_inputLines (input : Text) :
    (inputLines input).map InputLine.read = (unifyLineEnds input).lines := by
  fun_induction inputLines input with
  | case1 => rfl
  | case2 => rfl
  | case3 => rfl
  | case4 only notReturn notNewline =>
      rw [unifyLineEnds_cons notReturn]
      have noNewline : newline ∉ [only] := fun member =>
        notNewline (List.mem_singleton.1 member).symm
      exact (lines_of_not_mem (List.cons_ne_nil only []) noNewline).symm
  | case5 rest inductionHypothesis =>
      rw [unifyLineEnds_return_newline, lines_newline_cons, ← inductionHypothesis]
      rfl
  | case6 second rest different inductionHypothesis =>
      rw [unifyLineEnds_return different, lines_newline_cons, ← inductionHypothesis]
      rfl
  | case7 second rest different inductionHypothesis =>
      rw [unifyLineEnds_cons different, lines_newline_cons, ← inductionHypothesis]
      rfl
  | case8 first second rest notReturn notNewline inductionHypothesis =>
      rw [InputLine.map_read_consContent notNewline, inductionHypothesis,
        unifyLineEnds_cons notReturn]
      rfl

theorem unbroken_inputLines (input : Text) : ∀ line ∈ inputLines input, line.IsUnbroken := by
  have empty (ending : LineEnd) : InputLine.IsUnbroken ⟨[], ending⟩ :=
    ⟨List.not_mem_nil, List.not_mem_nil⟩
  fun_induction inputLines input with
  | case1 => simp
  | case2 => exact List.forall_mem_singleton.2 (empty .carriageReturn)
  | case3 => exact List.forall_mem_singleton.2 (empty .newline)
  | case4 only notReturn notNewline =>
      exact InputLine.unbroken_consContent notReturn notNewline (List.forall_mem_nil _)
  | case5 rest inductionHypothesis =>
      exact List.forall_mem_cons.2 ⟨empty .both, inductionHypothesis⟩
  | case6 second rest _ inductionHypothesis =>
      exact List.forall_mem_cons.2 ⟨empty .carriageReturn, inductionHypothesis⟩
  | case7 second rest _ inductionHypothesis =>
      exact List.forall_mem_cons.2 ⟨empty .newline, inductionHypothesis⟩
  | case8 first second rest notReturn notNewline inductionHypothesis =>
      exact InputLine.unbroken_consContent notReturn notNewline inductionHypothesis

end Text

/-! ## Stray symbols -/

theorem LineEnd.stray_not_mem_text (ending : LineEnd) (byte : UInt8) (isHigh : 0x80 ≤ byte) :
    Symbol.stray byte isHigh ∉ ending.text := by
  cases ending <;> simp [LineEnd.text]

namespace InputLine

theorem exists_content_of_stray {line : InputLine} {before after : Text} {byte : UInt8}
    {isHigh : 0x80 ≤ byte} (place : line.whole = before ++ .stray byte isHigh :: after) :
    ∃ behind, line.content = before ++ .stray byte isHigh :: behind ∧
      after = behind ++ line.ending.text := by
  rcases List.append_eq_append_iff.1 place with ⟨skipped, _, inEnding⟩ | ⟨shared, content, ending⟩
  · refine absurd ?_ (line.ending.stray_not_mem_text byte isHigh)
    rw [inEnding]
    exact List.mem_append_right skipped List.mem_cons_self
  · rcases List.append_eq_cons_iff.1 ending.symm with ⟨_, inEnding⟩ | ⟨behind, rfl, isAfter⟩
    · refine absurd ?_ (line.ending.stray_not_mem_text byte isHigh)
      rw [inEnding]
      exact List.mem_cons_self
    · exact ⟨behind, content, isAfter⟩

end InputLine

/-- With and without its end, a line has the same commands. -/
theorem commandsOfLine_read (line : InputLine) :
    commandsOfLine line.read = commandsOfLine line.content := by
  have ended : commandsOfLine (line.content ++ [Text.newline]) = commandsOfLine line.content := by
    rw [commandsOfLine, commandsOfLine, readChains_append_newline]
  rw [InputLine.read]
  cases line.ending with
  | missing => rw [LineEnd.unified, List.append_nil]
  | _ => exact ended

end CommandChain

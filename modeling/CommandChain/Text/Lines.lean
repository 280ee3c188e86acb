import CommandChain.Text.Symbol

/-!
# Lines

A line ends with its newline; only the last line of a text may lack one. Input from a file may end
its lines in three ways, which `Text.unifyLineEnds` reduces to one.
-/

namespace CommandChain

namespace Text

/-- The symbol that ends a line. -/
def newline : Symbol :=
  .char '\n'

/-- Puts one more symbol in front of the lines of a text. A newline is a line of its own, any other
symbol joins the line that follows it. -/
def consLine (symbol : Symbol) (lines : List Text) : List Text :=
  if symbol = newline then
    [symbol] :: lines
  else
    match lines with
    | [] => [[symbol]]
    | first :: rest => (symbol :: first) :: rest

/-- The lines of a text, each with its newline. -/
def lines (text : Text) : List Text :=
  text.foldr consLine []

/-- A carriage return, alone or before a newline, ends a line like a newline. -/
def unifyLineEnds : Text → Text
  | [] => []
  | [only] => if only = .char '\r' then [newline] else [only]
  | first :: second :: rest =>
      if first = .char '\r' then
        if second = newline then newline :: unifyLineEnds rest
        else newline :: unifyLineEnds (second :: rest)
      else first :: unifyLineEnds (second :: rest)

theorem flatten_consLine (symbol : Symbol) (lines : List Text) :
    (consLine symbol lines).flatten = symbol :: lines.flatten := by
  unfold consLine
  split
  · simp
  · cases lines <;> simp

/-- No input is lost in the lines. -/
@[simp] theorem flatten_lines (text : Text) : (lines text).flatten = text := by
  induction text with
  | nil => rfl
  | cons head tail inductionHypothesis =>
      show (consLine head (lines tail)).flatten = head :: tail
      rw [flatten_consLine, inductionHypothesis]

theorem ne_nil_of_mem_consLine {symbol : Symbol} {lines : List Text}
    (nonempty : ∀ line ∈ lines, line ≠ []) :
    ∀ line ∈ consLine symbol lines, line ≠ [] := by
  intro line member
  unfold consLine at member
  split at member
  · rcases List.mem_cons.1 member with rfl | later
    · simp
    · exact nonempty line later
  · cases lines with
    | nil =>
        rcases List.mem_singleton.1 member with rfl
        simp
    | cons first rest =>
        rcases List.mem_cons.1 member with rfl | later
        · simp
        · exact nonempty line (List.mem_cons_of_mem first later)

/-- No line is empty. -/
theorem ne_nil_of_mem_lines {text line : Text} (member : line ∈ lines text) : line ≠ [] := by
  induction text generalizing line with
  | nil => simp [lines] at member
  | cons head tail inductionHypothesis =>
      exact ne_nil_of_mem_consLine (fun _ => inductionHypothesis) line member

end Text

end CommandChain

import CommandChain.Text.Lines

/-!
# Layout of words in lines

Words are put on lines of limited width, as many on each as fit; a word that is too wide for a line
stands alone.
-/

namespace CommandChain

namespace Text

/-- Puts words on lines. `used` is the number of columns that are taken on the current line,
including the space before the next word, and `margin` is that number at the start of each later
line. -/
def packWords (width margin : Nat) : (used : Nat) → (line : List Text) → List Text →
    List (List Text)
  | _, line, [] => if line = [] then [] else [line]
  | used, line, word :: rest =>
      if width < used + word.length ∧ line ≠ [] then
        line :: packWords width margin (margin + word.length + 1) [word] rest
      else
        packWords width margin (used + word.length + 1) (line ++ [word]) rest

/-- Spaces. -/
def spaces (count : Nat) : Text :=
  List.replicate count (.char ' ')

/-- The words of a text, between single spaces. -/
def spacedWords (text : Text) : List Text :=
  (text.cutAt (.char ' ')).filter (· ≠ [])

/-- Lines of words, each line indented but for the first, with newlines between them. -/
def hangingLines (indentation : Nat) (packed : List (List Text)) : Text :=
  joinWith (newline :: spaces indentation) (packed.map (joinWith [.char ' ']))

/-- A text broken into lines of limited width, each indented but for the first. -/
def fill (width indentation : Nat) (text : Text) : Text :=
  hangingLines indentation (packWords width 0 0 [] (spacedWords text))

/-- Reduces three or more newlines in a row to two. The flag counts the newlines just before, up to
two. -/
def limitNewlines : (before : Nat) → Text → Text
  | _, [] => []
  | before, symbol :: rest =>
      if symbol = newline then
        if before < 2 then symbol :: limitNewlines (before + 1) rest
        else limitNewlines before rest
      else symbol :: limitNewlines 0 rest

/-- A text as it is printed: blank lines are single, none stands at either end, and one newline ends
the text. -/
def tidy (text : Text) : Text :=
  let limited := (limitNewlines 0 text).dropWhile (· = newline)
  (limited.reverse.dropWhile (· = newline)).reverse ++ [newline]

end Text

end CommandChain

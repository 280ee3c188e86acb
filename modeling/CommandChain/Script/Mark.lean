import CommandChain.Script.Source

/-!
# Expanded words

An expanded word is a list of marks: symbols that remember whether they were quoted and whether they
come from a value that is split, and the places of quotes and of field ends. `fieldsOf` makes fields
of it: separators that are blanks run together, any other separator ends a field by itself.
-/

namespace CommandChain

namespace Script

/-- A mark of an expanded word. -/
inductive Mark where
  | symbol (symbol : Symbol) (isQuoted isSplit : Bool)
  /-- quotes stood here, so that there is a field even if it is empty -/
  | quotation
  | fieldEnd
  deriving DecidableEq

/-- The text of marks. -/
def textOf (marks : List Mark) : Text :=
  marks.filterMap fun
    | .symbol symbol _ _ => some symbol
    | _ => none

/-- The marks of a text. -/
def marksOf (isQuoted isSplit : Bool) (text : Text) : List Mark :=
  text.map fun symbol => .symbol symbol isQuoted isSplit

/-- No symbol of a text is lost in its marks. -/
@[simp] theorem textOf_marksOf (isQuoted isSplit : Bool) (text : Text) :
    textOf (marksOf isQuoted isSplit text) = text := by
  induction text with
  | nil => rfl
  | cons symbol rest inductionHypothesis =>
      simp only [marksOf, textOf, List.map_cons, List.filterMap_cons] at *
      rw [inductionHypothesis]

/-- The separators that run together, and that separate values unless others are set. -/
def blankSeparators : Text :=
  [.char ' ', .char '\t', .char '\n']

/-- What stood before a place without a symbol of a field between: nothing, a blank separator, or
another separator. -/
inductive Separation where
  | nothing
  | blank
  | mark
  deriving DecidableEq

/-- A field with the marks from its start to the end of its word. -/
structure FoundField where
  marks : List Mark
  onwards : List Mark

/-- Where splitting stands: the field under way, if there is one, whose last mark comes first, and
the separator before. -/
structure Splitting where
  current : Option FoundField := none
  separation : Separation := .nothing

namespace Splitting

/-- Adds a mark to the field under way, which starts here if there is none. -/
def add (splitting : Splitting) (mark : Mark) (rest : List Mark) : Splitting :=
  match splitting.current with
  | some field => { splitting with current := some { field with marks := mark :: field.marks } }
  | none => { current := some ⟨[mark], mark :: rest⟩, separation := .nothing }

/-- The field under way, if there is one, with its marks in order. -/
def finished (splitting : Splitting) : List FoundField :=
  splitting.current.toList.map fun field => { field with marks := field.marks.reverse }

/-- Splits marks at separators and at field ends. -/
def split (separators : Text) : Splitting → List Mark → List FoundField
  | splitting, [] => splitting.finished
  | splitting, .fieldEnd :: rest => splitting.finished ++ split separators {} rest
  | splitting, .quotation :: rest => split separators (splitting.add .quotation rest) rest
  | splitting, .symbol symbol isQuoted isSplit :: rest =>
      let mark := Mark.symbol symbol isQuoted isSplit
      if isSplit = true ∧ symbol ∈ separators then
        let isBlank := blankSeparators.contains symbol
        let after : Separation := if isBlank then .blank else .mark
        if splitting.current.isSome then
          splitting.finished ++ split separators { separation := after } rest
        else if isBlank then split separators splitting rest
        else if splitting.separation = .blank then split separators { separation := .mark } rest
        else ⟨[], mark :: rest⟩ :: split separators { separation := .mark } rest
      else split separators (splitting.add mark rest) rest

end Splitting

/-- The fields of an expanded word. -/
def fieldsOf (separators : Text) (marks : List Mark) : List (List Mark) :=
  (Splitting.split separators {} marks).map FoundField.marks

/-- Drops blank separators from the end of marks. -/
def trimmedEnd (separators : Text) (marks : List Mark) : List Mark :=
  (marks.reverse.dropWhile fun
    | .symbol symbol _ isSplit =>
        isSplit && separators.contains symbol && blankSeparators.contains symbol
    | _ => false).reverse

/-- At most the given number of fields of a line. Where there are more, the last one takes all that
is left. -/
def limitedFields (separators : Text) (most : Nat) (marks : List Mark) : List Text :=
  let found := Splitting.split separators {} marks
  if found.length ≤ most then found.map fun field => textOf field.marks
  else
    (found.take (most - 1)).map (fun field => textOf field.marks) ++
      (found.drop (most - 1)).head?.toList.map fun field =>
        textOf (trimmedEnd separators field.onwards)

end Script

end CommandChain

import CommandChain.Process.FileTree
import CommandChain.Script.Pattern

/-!
# Names of files

A field may be a pattern for the names of files. Its components between slashes are matched against
the entries of directories one after the other; those without pattern characters are taken as they
are. Where nothing matches, the field stands for itself.
-/

namespace CommandChain

namespace Script

namespace Pathname

open PatternItem (Letter active)

/-- The components of a pattern, between its slashes. -/
def components (letters : List Letter) : List (List Letter) :=
  letters.foldr
    (fun letter pieces =>
      if letter.1 = FileTree.slash then [] :: pieces
      else
        match pieces with
        | [] => [[letter]]
        | first :: rest => (letter :: first) :: rest)
    [[]]

/-- Brackets that were opened are closed again, after at least one member. -/
def closesBrackets (letters : List Letter) : Bool :=
  let members := if letters.head? = some (active '!') then letters.tail else letters
  (members.drop 1).contains (active ']')

/-- Some letter has a meaning as a part of a pattern. -/
def isPattern : List Letter → Bool
  | [] => false
  | letter :: rest =>
      letter == active '*' || letter == active '?' ||
        (letter == active '[' && closesBrackets rest) || isPattern rest

/-- The text of letters. -/
def plainText (letters : List Letter) : Text :=
  letters.map Prod.fst

/-- A component matches a name. A period at the start of a name has to be written. -/
def acceptsName (component : List Letter) (name : Text) : Bool :=
  let isHidden := name.head? == some (.char '.')
  let writesPeriod := (component.head?.map Prod.fst) == some (.char '.')
  (!isHidden || writesPeriod) &&
    Pattern.accepts (PatternItem.ofLetters (component.length + 1) component) name

/-- The names in a directory, with the two that every directory has. The empty path is the working
directory. -/
def namesAt (place : FileTree.Place) (path : Text) : List Text :=
  let found := if path = [] then some place.directory else place.directoryAt? path
  match found with
  | some directory => [.char '.'] :: [.char '.', .char '.'] :: place.namesIn directory
  | none => []

/-- The paths that components match, after a part of the path that is known. Without any pattern in
them, the path has to be there. -/
def matchFrom (place : FileTree.Place) :
    (known : Text) → (hasMatched : Bool) → List (List Letter) → List Text
  | _, _, [] => []
  | known, hasMatched, component :: rest =>
      if (component :: rest).any isPattern = false then
        let path :=
          known ++ Text.joinWith [FileTree.slash] ((component :: rest).map plainText)
        match hasMatched, place.find false path with
        | true, .ok _ => [path]
        | _, _ => []
      else if isPattern component = false then
        matchFrom place (known ++ plainText component ++ [FileTree.slash]) hasMatched rest
      else
        let names := (namesAt place known).filter (acceptsName component)
        if rest.isEmpty then names.map fun name => known ++ name
        else
          names.flatMap fun name =>
            matchFrom place (known ++ name ++ [FileTree.slash]) true rest

/-- What a field stands for: the paths that it matches, in order, or itself. -/
def expand (place : FileTree.Place) (marks : List Mark) : List Text :=
  let letters := PatternItem.lettersOf marks
  if isPattern letters then
    match sortedTexts (matchFrom place [] false (components letters)) with
    | [] => [textOf marks]
    | paths => paths
  else [textOf marks]

end Pathname

end Script

end CommandChain

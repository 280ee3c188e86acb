import CommandChain.Script.Builtin.Basic

/-!
# The working directory

The interpreter remembers the working directory as it was asked for, so that double dots take the
name before them away even if that is the name of a link. A physical directory has no links in it.
-/

namespace CommandChain

namespace Script

namespace Builtin

/-- The names of a directory as it is asked for, from a start, which are given the last one first.
Double dots take the name before them away. -/
def logicalNames (start : List Text) (path : Text) : List Text :=
  (path.cutAt FileTree.slash).foldl
    (fun names name =>
      if name = [] ∨ name = [.char '.'] then names
      else if name = [.char '.', .char '.'] then names.tail
      else name :: names)
    start

/-- Two slashes, and no third one, stand at the start of a path. -/
def startsDouble : Text → Bool
  | .char '/' :: .char '/' :: .char '/' :: _ => false
  | .char '/' :: .char '/' :: _ => true
  | _ => false

/-- The directory that a path asks for from a directory, in one spelling. Two slashes at the start
stay. -/
def logicalPath (current path : Text) : Text :=
  let isAbsolute := path.head? == some FileTree.slash
  let root := if isAbsolute then path else current
  let start := if isAbsolute then [] else logicalNames [] current
  let names := (logicalNames start path).reverse
  (if startsDouble root then [FileTree.slash] else []) ++ FileTree.pathText names

/-- The last of two options that exclude each other is the physical one. -/
def isPhysical (given : List (Char × Text)) : Bool :=
  (given.getLast?.map Prod.fst) == some 'P'

/-- The variable with the working directory before the last change. -/
def previousName : Text :=
  Text.ofString "OLDPWD"

/-- The variable with the working directory. -/
def currentName : Text :=
  Text.ofString "PWD"

/-- The paths at which a directory is looked for, each with whether it is shown. One that starts at
the root or with dots is not looked for elsewhere. -/
def searchedPaths (searched : Option Text) (target : Text) : List (Text × Bool) :=
  let isFixed :=
    match target with
    | .char '/' :: _ => true
    | [.char '.'] => true
    | .char '.' :: .char '/' :: _ => true
    | [.char '.', .char '.'] => true
    | .char '.' :: .char '.' :: .char '/' :: _ => true
    | _ => false
  match isFixed, searched with
  | false, some directories =>
      (directories.cutAt (.char ':')).map fun directory =>
        if directory = [] then (target, false)
        else (directory ++ FileTree.slash :: target, true)
  | _, _ => []

/-- Changes the working directory to a path. The result tells whether that is a directory. -/
def enter (isPhysical : Bool) (path : Text) : Run Bool := do
  let process ← Run.process
  let asked := if isPhysical then path else logicalPath process.directoryText path
  match (← Run.place).directoryAt? asked with
  | none => return false
  | some directory => do
      let text := if isPhysical then FileTree.pathText directory else asked
      Run.assignExported previousName process.directoryText
      Run.changeProcess fun process =>
        { process with
          directory := directory
          directoryText := text
          found := process.found.map fun entry => { entry with isStale := true } }
      Run.assignExported currentName text
      return true

/-- Changes the working directory. -/
def changeDirectory : Builtin := fun arguments => do
  let (given, operands) ← options ['L', 'P'] arguments
  let isBack := operands.head? == some [.char '-']
  let target ←
    match operands with
    | [] => Run.value? (Text.ofString "HOME")
    | operand :: _ => if isBack then Run.value? previousName else pure (some operand)
  let named := if target.getD [] = [] then [.char '.'] else target.getD []
  let place ← Run.place
  let candidates := searchedPaths (← Run.value? (Text.ofString "CDPATH")) named
  let found := candidates.find? fun entry => (place.directoryAt? entry.1).isSome
  let (path, isShown) := found.getD (named, false)
  if ← enter (isPhysical given) path then
    if isBack || isShown then printLine (← Run.process).directoryText else return 0
  else Run.fail (Text.ofString "can't cd to " ++ named)

/-- Prints the working directory. -/
def printDirectory : Builtin := fun arguments => do
  let (given, _) ← options ['L', 'P'] arguments
  let process ← Run.process
  printLine
    (if isPhysical given then FileTree.pathText process.directory else process.directoryText)

end Builtin

end Script

end CommandChain

import CommandChain.Script.Builtin.Basic
import CommandChain.Script.Pattern

/-!
# Command names

The name of a command stands for a function, a builtin command, or a program that is found in the
file tree. A name with a slash is a path; any other one is searched for in the directories of
`PATH`.
-/

namespace CommandChain

namespace Script

/-- What the name of a command stands for. -/
inductive Meaning where
  | function (body : Tree)
  | builtin (isSpecial : Bool)
  | program (path : Text)
  /-- nothing, with the error that the search ends with -/
  | missing (number : Int)

namespace Meaning

/-- The status after a command that is not found. -/
def notFoundStatus : Nat :=
  127

/-- The status after a command that cannot be started. -/
def notStartedStatus : Nat :=
  126

/-- What a complaint says about a name that an error keeps from being started. -/
def reason (number : Int) : Text :=
  if number = SystemError.noEntry ∨ number = SystemError.notDirectory then
    Text.ofString "not found"
  else SystemError.message number

/-- The status after an error that keeps a path from being started. -/
def status (number : Int) : Nat :=
  if number = SystemError.noEntry ∨ number = SystemError.notDirectory ∨
      number = SystemError.nameTooLong then notFoundStatus
  else notStartedStatus

/-- Complains about a name that cannot be started. -/
def complain (name : Text) (number : Int) : Run Unit :=
  Run.complain (name ++ Text.ofString ": " ++ reason number)

/-- The path of a name in a directory, which is given by its path. -/
def pathIn (directory name : Text) : Text :=
  if directory = [] then name else directory ++ FileTree.slash :: name

/-- Searches directories, which are given by their paths, for a program. What is there and is no
program makes a different error than what is missing. -/
def search (place : FileTree.Place) (name : Text) : List Text → (failure : Int) → Except Int Text
  | [], failure => .error failure
  | directory :: rest, failure =>
      let path := pathIn directory name
      match place.resolve path with
      | .ok (.executable _, _) => .ok path
      | .ok _ => search place name rest SystemError.accessDenied
      | .error number =>
          search place name rest (if FileTree.isDecisive number then number else failure)

/-- The separator of the directories in `PATH`. -/
def pathSeparator : Symbol :=
  .char ':'

/-- The value of `PATH` where the standard utilities are asked for. -/
def standardPath : Text :=
  Text.ofString "/usr/sbin:/usr/bin:/sbin:/bin"

/-- The directories that are searched. -/
def searchedDirectories (isStandard : Bool) : Run (List Text) := do
  let path ←
    if isStandard then pure standardPath
    else do pure ((← Run.value? (Text.ofString "PATH")).getD [])
  return path.cutAt pathSeparator

/-- What a name stands for. A path is not looked at before it is started. -/
def ofName (skipsFunctions isStandard : Bool) (name : Text) : Run Meaning := do
  if FileTree.slash ∈ name then return .program name
  else
    match skipsFunctions, (← Run.process).functions.lookup name with
    | false, some body => return .function body
    | _, _ =>
        if Builtin.specialNames.contains name then return .builtin true
        else if Builtin.regularNames.contains name then return .builtin false
        else
          let directories ← searchedDirectories isStandard
          match search (← Run.place) name directories SystemError.noEntry with
          | .ok path => return .program path
          | .error number => return .missing number

/-! ## Found programs -/

/-- Remembers a program that a search found. -/
def rememberFound (name path : Text) : Run Unit :=
  Run.changeProcess fun process =>
    { process with
      found :=
        match process.found.find? fun entry => entry.name == name with
        | some _ =>
            process.found.map fun entry => if entry.name = name then ⟨name, path, false⟩ else entry
        | none => ⟨name, path, false⟩ :: process.found }

/-- Forgets a program that a search found. -/
def forgetFound (name : Text) : Run Unit :=
  Run.changeProcess fun process =>
    { process with found := process.found.filter fun entry => entry.name != name }

/-- The program that an earlier search found, with its path. -/
def found? (name : Text) : Run (Option Found) := do
  return (← Run.process).found.find? fun entry => entry.name == name

/-- Names fall into classes by their first byte and the sum of their bytes. -/
def nameClass (classes : Nat) (name : Text) : Nat :=
  let codes := name.map symbolOrder
  (codes.headD 0 * 16 + codes.foldl Nat.add 0) % 32768 % classes

/-- Entries in the order in which they are listed: by the classes of their names, and then in their
order. -/
def byClass {entry : Type} (classes : Nat) (nameOf : entry → Text) (entries : List entry) :
    List entry :=
  (List.range classes).flatMap fun number =>
    entries.filter fun found => nameClass classes (nameOf found) == number

/-- How many classes the names of programs fall into. -/
def programClasses : Nat :=
  31

/-- How many classes the names of aliases fall into. -/
def aliasClasses : Nat :=
  39

/-- Lists the programs that were found. -/
def listFound : Run Nat := do
  let entries := byClass programClasses Found.name (← Run.process).found.reverse
  Builtin.print (Text.bytes (entries.flatMap fun entry =>
    entry.path ++ (if entry.isStale then [.char '*'] else []) ++ [.char '\n']))

/-- Looks for programs, so that they are known from then on. -/
def lookUpAll : (status : Nat) → Builtin
  | status, [] => return status
  | status, name :: rest => do
      forgetFound name
      match ← ofName false false name with
      | .missing number => do
          complain name number
          lookUpAll 1 rest
      | .program path => do
          unless FileTree.slash ∈ name do
            rememberFound name path
          lookUpAll status rest
      | _ => lookUpAll status rest

/-- Looks for programs, forgets those that were found, or lists them. -/
def hash : Builtin := fun arguments => do
  let (given, operands) ← Builtin.options ['r'] arguments
  if given ≠ [] then
    Run.changeProcess fun process => { process with found := [] }
    return 0
  else if operands = [] then listFound
  else lookUpAll 0 operands

/-! ## Descriptions -/

/-- Prints what a program name stands for. -/
def describeProgram (isVerbose : Bool) (name path : Text) (isKnown : Bool) : Run Nat := do
  match (← Run.place).resolve path with
  | .error _ => do
      if isVerbose then
        let _ ← Builtin.printLine (name ++ Text.ofString ": not found")
      return notFoundStatus
  | .ok _ => do
      let words := if isKnown then " is a tracked alias for " else " is "
      Builtin.printLine (if isVerbose then name ++ Text.ofString words ++ path else path)

/-- Prints what a name stands for, in words or briefly. The result is the status. -/
def describe (isVerbose isStandard : Bool) (name : Text) : Run Nat := do
  let say := fun (words : String) (brief : Text) =>
    Builtin.printLine (if isVerbose then name ++ Text.ofString words else brief)
  match Reserved.ofText? name, (← Run.process).aliases.lookup name, ← found? name with
  | some _, _, _ => say " is a shell keyword" name
  | none, some text, _ =>
      Builtin.printLine
        (if isVerbose then name ++ Text.ofString " is an alias for " ++ text
        else Text.ofString "alias " ++ name ++ .char '=' :: Builtin.singleQuoted text)
  | none, none, known => do
      match ← ofName false isStandard name with
      | .function _ => say " is a shell function" name
      | .builtin true => say " is a special shell builtin" name
      | .builtin false => say " is a shell builtin" name
      | .missing _ => do
          if isVerbose then
            let _ ← say ": not found" []
          return notFoundStatus
      | .program path => describeProgram isVerbose name path (known.isSome && !isStandard)

/-- Describes several names in words. -/
def describeAll : (status : Nat) → Builtin
  | status, [] => return status
  | status, name :: rest => do
      let found ← describe true false name
      describeAll (status ||| found) rest

end Meaning

end Script

end CommandChain

import CommandChain.Process.FileTree
import CommandChain.Process.Write

/-!
# Open files

Descriptors lead to endpoints: to files with an offset, to pipes, devices and directories, and out of
the program. `Files` is what processes share of them: the contents of files, the open files, what is
on its way through pipes, and what was written to the channels of the program.
-/

namespace CommandChain

/-! ## Descriptors -/

/-- What holds the bytes of an open file. -/
inductive FileTarget where
  /-- the input that the program was given -/
  | input
  /-- the file of a channel of the program -/
  | channel (channel : Channel)
  /-- a file of the tree -/
  | named (path : FileTree.Path)
  deriving DecidableEq

/-- An open file. Descriptors that were copied share it with its offset. -/
structure OpenFile where
  target : FileTarget
  offset : Nat := 0
  canRead : Bool := false
  canWrite : Bool := false
  appends : Bool := false
  /-- the program was given this file open -/
  isGiven : Bool := false
  deriving DecidableEq

/-- Where a descriptor leads. -/
inductive Endpoint where
  /-- an open file, by number -/
  | file (number : Nat)
  /-- one end of a pipe, by number -/
  | pipe (number : Nat) (canWrite : Bool)
  | device (device : Device)
  | directory (path : FileTree.Path)
  /-- a pipe that leads out of the program -/
  | outlet (channel : Channel)
  deriving DecidableEq

/-- The open descriptors of a process with their endpoints. -/
abbrev Descriptors : Type :=
  List (Nat × Endpoint)

/-- How a file is opened. -/
inductive Opening where
  | reading
  /-- to be written from its start, if it may be replaced -/
  | writing
  /-- to be written from its start in any case -/
  | replacing
  | appending
  /-- to be read and written as it is -/
  | both
  deriving DecidableEq

namespace Opening

/-- The file is made where there is none. -/
def makes : Opening → Bool
  | .reading => false
  | _ => true

/-- The file is read. -/
def reads : Opening → Bool
  | .reading | .both => true
  | _ => false

/-- The file is emptied. -/
def empties : Opening → Bool
  | .writing | .replacing => true
  | _ => false

end Opening

/-! ## Pipes -/

/-- Bytes on their way between processes. -/
structure Pipe where
  front : List UInt8 := []
  /-- what came after that, the last part first -/
  back : List (List UInt8) := []
  /-- how many bytes were ever put in -/
  total : Nat := 0

namespace Pipe

/-- The bytes in a pipe, in order. -/
def bytes (pipe : Pipe) : List UInt8 :=
  pipe.front ++ pipe.back.reverse.flatten

/-- A pipe that holds some bytes. -/
def holding (bytes : List UInt8) : Pipe :=
  { front := bytes, total := bytes.length }

/-- Puts bytes into a pipe. -/
def put (pipe : Pipe) (bytes : List UInt8) : Pipe :=
  { pipe with back := bytes :: pipe.back, total := pipe.total + bytes.length }

/-- Takes bytes from the front of a pipe. -/
def drop (pipe : Pipe) (count : Nat) : Pipe :=
  { pipe with front := pipe.bytes.drop count, back := [] }

@[simp] theorem bytes_put (pipe : Pipe) (bytes : List UInt8) :
    (pipe.put bytes).bytes = pipe.bytes ++ bytes := by
  simp [put, Pipe.bytes]

@[simp] theorem bytes_drop (pipe : Pipe) (count : Nat) :
    (pipe.drop count).bytes = pipe.bytes.drop count := by
  simp [drop, Pipe.bytes]

end Pipe

/-! ## Files -/

/-- What processes share. -/
structure Files where
  /-- the input that the program was given, from its start -/
  input : List UInt8 := []
  /-- the files that were written -/
  written : List (FileTree.Path × List UInt8) := []
  opened : List (Nat × OpenFile) := []
  pipes : List (Nat × Pipe) := []
  /-- what was written to the channels, the last write first -/
  writes : List Write := []
  /-- the next number for a file, a pipe or a process -/
  nextNumber : Nat := 0

/-- A step on files. -/
abbrev FileStep (result : Type) : Type :=
  StateM Files result

/-- Replaces the entry of a key in a table. -/
def updated {key value : Type} [BEq key] (table : List (key × value)) (entry : key) (new : value) :
    List (key × value) :=
  (entry, new) :: table.filter fun other => other.1 != entry

namespace Files

/-- The place of a process with some descriptors. -/
def place (files : Files) (descriptors : Descriptors) (directory : FileTree.Path) : FileTree.Place where
  directory := directory
  written := files.written.map Prod.fst
  descriptors := descriptors.map Prod.fst

/-- The bytes of a file. Those of a file of the tree are not known before it is written. -/
def content (files : Files) : FileTarget → List UInt8
  | .input => files.input
  | .channel channel => Write.contentOf channel files.writes.reverse
  | .named path => (files.written.lookup path).getD []

/-- A number that is not in use. -/
def freshNumber : FileStep Nat := do
  let number := (← get).nextNumber
  modify fun files => { files with nextNumber := number + 1 }
  return number

/-- Opens a file. -/
def addOpened (file : OpenFile) : FileStep Endpoint := do
  let number ← freshNumber
  modify fun files => { files with opened := (number, file) :: files.opened }
  return .file number

/-- Makes a pipe that holds some bytes. -/
def addPipe (bytes : List UInt8) : FileStep Nat := do
  let number ← freshNumber
  modify fun files => { files with pipes := (number, Pipe.holding bytes) :: files.pipes }
  return number

/-- Drops the files and pipes from a number on, apart from those that descriptors lead to. -/
def dropFrom (files : Files) (number : Nat) (descriptors : Descriptors) : Files :=
  let isKept := fun (entry : Nat) =>
    decide (entry < number) || descriptors.any fun found =>
      match found.2 with
      | .file other => other == entry
      | .pipe other _ => other == entry
      | _ => false
  { files with
    opened := files.opened.filter fun entry => isKept entry.1
    pipes := files.pipes.filter fun entry => isKept entry.1 }

/-! ## Reading -/

/-- The bytes that a stream still gives. Devices without an end give nothing. -/
def available (files : Files) : Endpoint → Except Int (List UInt8)
  | .file number =>
      match files.opened.lookup number with
      | some file =>
          if file.canRead then .ok ((files.content file.target).drop file.offset)
          else .error SystemError.badDescriptor
      | none => .error SystemError.badDescriptor
  | .pipe number false => .ok (((files.pipes.lookup number).map Pipe.bytes).getD [])
  | .pipe _ true => .error SystemError.badDescriptor
  | .device _ => .ok []
  | .directory _ => .error SystemError.isDirectory
  | .outlet _ => .error SystemError.badDescriptor

/-- Takes bytes from a stream. -/
def skip (stream : Endpoint) (count : Nat) : FileStep Unit :=
  modify fun files =>
    match stream with
    | .file number =>
        match files.opened.lookup number with
        | some file =>
            { files with
              opened := updated files.opened number { file with offset := file.offset + count } }
        | none => files
    | .pipe number _ =>
        match files.pipes.lookup number with
        | some pipe => { files with pipes := updated files.pipes number (pipe.drop count) }
        | none => files
    | _ => files

/-- Takes some of the bytes that a stream still gives. -/
def take (stream : Endpoint) (most : Nat) : FileStep (Except Int (List UInt8)) := do
  match (← get).available stream with
  | .ok bytes => do
      let taken := bytes.take most
      skip stream taken.length
      return .ok taken
  | .error number => return .error number

/-- Takes all bytes that a stream still gives. -/
def takeAll (stream : Endpoint) : FileStep (Except Int (List UInt8)) := do
  match (← get).available stream with
  | .ok bytes => do
      skip stream bytes.length
      return .ok bytes
  | .error number => return .error number

/-! ## Writing -/

/-- Empties a file. -/
def emptied (target : FileTarget) (files : Files) : Files :=
  match target with
  | .input => { files with input := [] }
  | .channel channel =>
      { files with
        writes := { channel := channel, bytes := [], placement := .afresh } :: files.writes }
  | .named path => { files with written := updated files.written path [] }

/-- Writes bytes to an open file, whose offset moves on. -/
def writeFile (number : Nat) (file : OpenFile) (bytes : List UInt8) (files : Files) : Files :=
  let offset := if file.appends then (files.content file.target).length else file.offset
  let changed :=
    match file.target with
    | .input => { files with input := splice files.input offset bytes }
    | .named path =>
        { files with
          written :=
            updated files.written path (splice (files.content file.target) offset bytes) }
    | .channel channel =>
        let placement : Placement :=
          if file.isGiven then .onwards else if file.appends then .atEnd else .atOffset offset
        { files with
          writes := { channel := channel, bytes := bytes, placement := placement } :: files.writes }
  if file.isGiven ∧ file.target ≠ .input then changed
  else
    { changed with
      opened := updated changed.opened number { file with offset := offset + bytes.length } }

/-- The most bytes that go through a pipe. Nothing is left to read them after that many. -/
def mostPiped : Nat :=
  1048576

/-- Writes bytes to a stream. -/
def write (stream : Endpoint) (bytes : List UInt8) : FileStep (Except Int Unit) := do
  let files ← get
  match stream with
  | .file number =>
      match files.opened.lookup number with
      | some file =>
          if file.canWrite then
            set (files.writeFile number file bytes)
            return .ok ()
          else return .error SystemError.badDescriptor
      | none => return .error SystemError.badDescriptor
  | .pipe number true =>
      match files.pipes.lookup number with
      | some pipe =>
          if mostPiped < pipe.total then return .error SystemError.brokenPipe
          else
            set { files with pipes := updated files.pipes number (pipe.put bytes) }
            return .ok ()
      | none => return .error SystemError.brokenPipe
  | .pipe _ false => return .error SystemError.badDescriptor
  | .device .full => return .error SystemError.noSpace
  | .device _ => return .ok ()
  | .directory _ => return .error SystemError.badDescriptor
  | .outlet channel =>
      set { files with writes := { channel := channel, bytes := bytes } :: files.writes }
      return .ok ()

/-- Writes bytes to a descriptor. -/
def writeTo (descriptors : Descriptors) (descriptor : Nat) (bytes : List UInt8) :
    FileStep (Except Int Unit) := do
  match descriptors.lookup descriptor with
  | some stream => write stream bytes
  | none => return .error SystemError.badDescriptor

/-! ## Opening -/

/-- Opens what holds bytes. -/
def openTarget (target : FileTarget) (opening : Opening) : FileStep Endpoint := do
  if opening.empties then
    modify (emptied target)
  addOpened
    { target := target
      canRead := opening.reads
      canWrite := opening.makes
      appends := opening == .appending }

/-- Opens again what a stream leads to. Only files get an offset of their own. -/
def reopen (stream : Endpoint) (opening : Opening) : FileStep (Except Int Endpoint) := do
  match stream with
  | .file number =>
      match (← get).opened.lookup number with
      | some file => return .ok (← openTarget file.target opening)
      | none => return .error SystemError.noEntry
  | .pipe number _ => return .ok (.pipe number opening.makes)
  | .directory path =>
      return if opening.makes then .error SystemError.isDirectory else .ok (.directory path)
  | other => return .ok other

/-- Opens a path. Files that are protected are not replaced unless that is asked for. -/
def openPath (descriptors : Descriptors) (directory : FileTree.Path) (protects : Bool) (opening : Opening)
    (path : Text) : FileStep (Except Int Endpoint) := do
  let place := (← get).place descriptors directory
  let isExclusive := protects && opening == .writing
  let openNamed := fun (named : FileTree.Path) => do
    if isExclusive then return .error SystemError.fileExists
    else return .ok (← openTarget (.named named) opening)
  match place.resolve path with
  | .ok (.directory, found) =>
      if opening.makes then return .error SystemError.isDirectory
      else return .ok (.directory found)
  | .ok (.plain, found) => openNamed found
  | .ok (.executable _, found) => openNamed found
  | .ok (.device .terminal, _) => return .error SystemError.noDevice
  | .ok (.device device, _) => return .ok (.device device)
  | .ok (.link _, _) => return .error SystemError.noEntry
  | .ok (.descriptor number, _) =>
      match descriptors.lookup number with
      | some (.file opened) =>
          if isExclusive then return .error SystemError.fileExists
          else reopen (.file opened) opening
      | some stream => reopen stream opening
      | none => return .error SystemError.noEntry
  | .error number =>
      if number = SystemError.noEntry ∧ opening.makes = true then
        match place.newFile? path with
        | .ok named => do
            modify (emptied (.named named))
            return .ok (← openTarget (.named named) opening)
        | .error reason => return .error reason
      else return .error number

/-! ## Statuses -/

/-- The kind of what a path leads to. -/
inductive FileKind where
  | regular
  | directory
  | device
  | pipe
  | link
  deriving DecidableEq

/-- What tells whether two paths lead to the same. -/
inductive FileIdentity where
  | target (target : FileTarget)
  | directory (path : FileTree.Path)
  | device (device : Device)
  | pipe (number : Nat)
  | outlet (channel : Channel)
  deriving DecidableEq

/-- What is known of a file. -/
structure FileStatus where
  kind : FileKind
  isEmpty : Bool := true
  isExecutable : Bool := false
  identity : FileIdentity
  deriving DecidableEq

/-- The status of what holds bytes. -/
def statusOfTarget (files : Files) (target : FileTarget) : FileStatus :=
  { kind := .regular
    isEmpty :=
      match target with
      | .named path => (files.written.lookup path).any List.isEmpty
      | other => (files.content other).isEmpty
    identity := .target target }

/-- The status of a stream. -/
def statusOfEndpoint (files : Files) : Endpoint → Option FileStatus
  | .file number => (files.opened.lookup number).map fun file => files.statusOfTarget file.target
  | .pipe number _ => some { kind := .pipe, identity := .pipe number }
  | .device device => some { kind := .device, identity := .device device }
  | .directory path =>
      some { kind := .directory, isEmpty := false, isExecutable := true, identity := .directory path }
  | .outlet channel => some { kind := .pipe, identity := .outlet channel }

/-- The status of what a path leads to. -/
def statusOfPath (files : Files) (descriptors : Descriptors) (directory : FileTree.Path)
    (followsLast : Bool) (path : Text) : Option FileStatus :=
  match (files.place descriptors directory).find followsLast path with
  | .error _ => none
  | .ok (.directory, found) =>
      some
        { kind := .directory, isEmpty := false, isExecutable := true, identity := .directory found }
  | .ok (.plain, found) => some (files.statusOfTarget (.named found))
  | .ok (.executable _, found) =>
      some { files.statusOfTarget (.named found) with isExecutable := true }
  | .ok (.device device, _) => some { kind := .device, identity := .device device }
  | .ok (.link _, found) => some { kind := .link, isEmpty := false, identity := .directory found }
  | .ok (.descriptor number, found) =>
      if followsLast then (descriptors.lookup number).bind files.statusOfEndpoint
      else some { kind := .link, isEmpty := false, identity := .directory found }

end Files

end CommandChain

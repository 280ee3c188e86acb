import CommandChain.Script.Expansion

/-!
# Redirections

The names of redirections are expanded before any of them acts. Then each lets a descriptor lead to
a file, to where another one leads, or to a document, or closes it. After the command, the
descriptors lead where they led before.
-/

namespace CommandChain

namespace Script

/-- A redirection with its names expanded. -/
inductive ExpandedRedirect where
  | file (stream : Nat) (opening : Opening) (path : Text)
  | copy (stream source : Nat)
  | close (stream : Nat)
  | document (stream : Nat) (text : Text)

namespace Redirect

/-- Expands the names of a redirection. -/
def expanded (inner : Inner) : Redirect → Run ExpandedRedirect
  | .redirect stream (.file opening name) => do
      return .file stream opening (← expandWhole inner name)
  | .redirect stream (.descriptor name) => do
      match ← expandWhole inner name with
      | [.char '-'] => return .close stream
      | [symbol] =>
          match symbol.digitInBase? 10 with
          | some source => return .copy stream source
          | none => Run.fail (Text.ofString "Syntax error: Bad fd number")
      | _ => Run.fail (Text.ofString "Syntax error: Bad fd number")
  | .redirect stream (.document number) => do
      let word := ((← Run.process).documents.lookup number).getD []
      return .document stream (← expandText inner word)

/-- Expands the names of redirections in order. -/
def expandedAll (inner : Inner) : List Redirect → Run (List ExpandedRedirect)
  | [] => return []
  | next :: rest => do
      let first ← expanded inner next
      return first :: (← expandedAll inner rest)

end Redirect

namespace ExpandedRedirect

/-- The errors that mean that there is nothing at a path. -/
def meansMissing (number : Int) : Bool :=
  number == SystemError.noEntry || number == SystemError.notDirectory

/-- Complains about a file that cannot be opened. -/
def failOpening {result : Type} (path : Text) (number : Int) : Run result :=
  let reason :=
    if meansMissing number then Text.ofString "No such file" else SystemError.message number
  Run.fail (Text.ofString "cannot open " ++ path ++ Text.ofString ": " ++ reason)

/-- Complains about a file that cannot be written. -/
def failCreating {result : Type} (path : Text) (number : Int) : Run result :=
  let reason :=
    if meansMissing number then Text.ofString "Directory nonexistent"
    else SystemError.message number
  Run.fail (Text.ofString "cannot create " ++ path ++ Text.ofString ": " ++ reason)

/-- Opens a file. -/
def openFile (opening : Opening) (path : Text) : Run Endpoint := do
  match ← Run.openPath opening path with
  | .ok stream => return stream
  | .error number => if opening = .reading then failOpening path number else failCreating path number

/-- The descriptor that a redirection changes. -/
def descriptor : ExpandedRedirect → Nat
  | .file stream _ _ => stream
  | .copy stream _ => stream
  | .close stream => stream
  | .document stream _ => stream

/-- Lets a redirection act. A descriptor that is to lead where it leads already is left alone. If it
is to be restored later, it is closed first, so that a complaint may get lost. -/
def apply (isRestored : Bool) : ExpandedRedirect → Run Unit
  | .file stream opening path => do Run.setEndpoint stream (some (← openFile opening path))
  | .close stream => Run.setEndpoint stream none
  | .document stream text => do
      Run.setEndpoint stream (some (.pipe (← Run.onFiles (Files.addPipe text.bytes)) false))
  | .copy stream source => do
      unless stream = source do
        match ← Run.endpointAt source with
        | some target => Run.setEndpoint stream (some target)
        | none => do
            if isRestored then Run.setEndpoint stream none
            Run.fail (Text.ofInt source ++ Text.ofString ": " ++
              SystemError.message SystemError.badDescriptor)

/-- Lets redirections act in order. -/
def applyAll (isRestored : Bool) : List ExpandedRedirect → Run Unit
  | [] => return ()
  | next :: rest => do
      next.apply isRestored
      applyAll isRestored rest

/-- Lets descriptors lead where they led before. -/
def restore (before : Descriptors) : List ExpandedRedirect → Run Unit
  | [] => return ()
  | next :: rest => do
      Run.setEndpoint next.descriptor (before.lookup next.descriptor)
      restore before rest

/-- Runs a step with redirections. They end with the step unless they are kept. -/
def runWith (redirects : List ExpandedRedirect) (keeps : Bool) (onFailure step : Run Unit) :
    Run Unit := do
  if redirects.isEmpty then step
  else
    let before := (← Run.process).descriptors
    let firstNumber := (← Run.world).files.nextNumber
    match ← Run.attempt (applyAll true redirects) with
    | .ok _ => do
        let outcome ← Run.attempt step
        unless keeps do
          restore before redirects
          Run.dropUnused firstNumber
        Run.resume outcome
    | .error .fails => do
        restore before redirects
        onFailure
    | .error stop => throw stop

end ExpandedRedirect

end Script

end CommandChain

import CommandChain.Script.Builtin.Jobs
import CommandChain.Script.Condition

/-!
# Builtin commands that control processes

These commands end scripts, functions and loops, send and trap signals, test conditions, and set the
mask of rights.
-/

namespace CommandChain

namespace Script

namespace Builtin

/-! ## Ends -/

/-- Ends the process, with the status that is given or the last one. In the action at a signal or at
the end, that is the one before the action. -/
def exit : Builtin := fun arguments => do
  match arguments with
  | [] => do
      let process ← Run.process
      Run.setStatus (process.interrupted.getD process.status)
      throw .ends
  | word :: _ => do
      Run.setStatus (← Run.number word)
      throw .ends

/-- Returns from a function or a script. -/
def returnFrom : Builtin := fun arguments => do
  match arguments with
  | [] => throw .returns
  | word :: _ => do
      Run.setStatus (← Run.number word)
      throw .returns

/-- Leaves loops, or goes on with their next turn. Outside of loops nothing happens. -/
def leaveLoops (stop : Nat → Stop) : Builtin := fun arguments => do
  let count ←
    match arguments with
    | [] => pure 1
    | word :: _ => do
        let count ← Run.number word
        if count = 0 then Run.failNumber word else pure count
  let depth := (← Run.process).loops
  Run.setStatus 0
  if depth = 0 then return 0 else throw (stop (min count depth))

/-! ## Signals -/

/-- The complaint about the arguments of `kill`. -/
def killUsage : Text :=
  Text.ofString "Usage: kill [-s sigspec | -signum | -sigspec] [pid | job]... or\n" ++
    Text.ofString "kill -l [exitstatus]"

/-- Lists the names of the signals, or the name of the one that a status stands for. -/
def listSignals : Builtin := fun arguments => do
  match arguments with
  | [] =>
      let names := Text.ofString "0" :: Signal.all.map Signal.name
      print (Text.bytes (names.flatMap fun name => name ++ [.char '\n']))
  | word :: _ => do
      let given ← Run.number word
      let signal := if 128 < given then given - 128 else given
      if 0 < signal ∧ signal ≤ Signal.last then printLine (Signal.name signal)
      else Run.fail (Text.ofString "invalid signal number or exit status: " ++ word)

/-- Sends a signal to processes, one after the other. Jobs are groups of processes elsewhere, of which
there are none here. -/
def sendTo (signal : Nat) : (status : Nat) → Builtin
  | status, [] => return status
  | status, word :: rest => do
      let target ←
        match word with
        | .char '%' :: _ => do
            let _ ← Jobs.named word
            pure none
        | .char '-' :: digits => do
            let _ ← Run.number digits
            pure none
        | digits => do pure (some (← Run.number digits))
      let isSent ←
        match target with
        | some process => Run.sendSignal process signal
        | none => pure false
      Run.takeFatalSignals
      if isSent then sendTo signal status rest
      else
        Run.complain (Text.ofString "No such process\n")
        sendTo signal 1 rest

/-- Sends a signal that was named, or the usual one. -/
def sendNamed (signal : Option Nat) (processes : List Text) : Run Nat :=
  if processes = [] then Run.fail killUsage
  else sendTo (signal.getD Signal.terminate) 0 processes

/-- The signal that an option names. -/
def namedSignal (name : Text) : Run Nat := do
  match Signal.ofText? 0 name with
  | some signal => return signal
  | none => Run.fail (Text.ofString "invalid signal number or name: " ++ name)

/-- Sends signals to processes, or lists the signals. -/
def kill : Builtin := fun arguments => do
  match arguments with
  | [] => Run.fail killUsage
  | (.char '-' :: name) :: rest =>
      match Signal.ofText? 0 name with
      | some signal => sendNamed (some signal) rest
      | none => do
          let (given, operands) ←
            takeOptions [('l', false), ('s', true)] arguments.length arguments
          let signals ← (given.filter fun option => option.1 == 's').mapM fun option =>
            namedSignal option.2
          if given.any fun option => option.1 == 'l' then
            if signals = [] then listSignals operands else Run.fail killUsage
          else sendNamed signals.getLast? operands
  | processes => sendNamed none processes

/-- Lists the actions at signals. -/
def listTraps : Run Nat := do
  let traps := (← Run.process).traps
  let lines := (0 :: Signal.all).flatMap fun signal =>
    match traps.lookup signal with
    | some action =>
        Text.ofString "trap -- " ++ singleQuoted action ++ .char ' ' :: Signal.name signal ++
          [.char '\n']
    | none => []
  print (Text.bytes lines)

/-- Sets what is done at signals. Without an action, what was set is taken back. -/
def setTraps (action : Option Text) : Builtin
  | [] => return 0
  | name :: rest => do
      match Signal.ofText? 0 name with
      | none => do
          let _ ← Run.write 2
            (Text.bytes (Text.ofString "trap: " ++ name ++ Text.ofString ": bad trap\n"))
          return 1
      | some signal => do
          Run.changeProcess fun process =>
            let others := process.traps.filter fun entry => entry.1 != signal
            { process with
              traps :=
                match action with
                | some text => (signal, text) :: others
                | none => others }
          setTraps action rest

/-- Sets what is done at signals and at the end, or lists it. -/
def trap : Builtin := fun arguments => do
  let (_, operands) ← options [] arguments
  match operands with
  | [] => listTraps
  | [name] => setTraps none [name]
  | first :: rest =>
      if first.toDecimal?.isSome then setTraps none operands
      else if first = [.char '-'] then setTraps none rest
      else setTraps (some first) rest

/-! ## Conditions -/

/-- The status of a condition. -/
def conditionStatus (words : List Text) : Run Nat := do
  let machine ← get
  let process := machine.process
  let statusOf := machine.world.files.statusOfPath process.descriptors process.directory
  match Condition.evaluate statusOf words with
  | .ok holds => return if holds then 0 else 1
  | .error complaint => Run.fail complaint

/-- Tests a condition between brackets. -/
def bracket : Builtin := fun arguments => do
  if (arguments.getLast?.bind List.head?) = some (.char ']') then
    conditionStatus arguments.dropLast
  else Run.fail (Text.ofString "missing ]")

/-! ## Masks -/

/-- A mask in octal digits. -/
def octalMask (mask : Nat) : Text :=
  let digits := Nat.toDigits 8 mask
  (List.replicate (4 - digits.length) '0' ++ digits).map Symbol.char

/-- The rights that a mask leaves to a class of users, as letters. -/
def rightsOf (mask position : Nat) : Text :=
  let bits := mask / Nat.pow 8 position % 8
  (if bits / 4 % 2 = 0 then [Symbol.char 'r'] else []) ++
    (if bits / 2 % 2 = 0 then [Symbol.char 'w'] else []) ++
    (if bits % 2 = 0 then [Symbol.char 'x'] else [])

/-- A mask in letters. -/
def symbolicMask (mask : Nat) : Text :=
  Text.ofString "u=" ++ rightsOf mask 2 ++ Text.ofString ",g=" ++ rightsOf mask 1 ++
    Text.ofString ",o=" ++ rightsOf mask 0

/-- The classes of users that a letter names, each as one bit of a digit of its own. -/
def usersOf? : Symbol → Option Nat
  | .char 'a' => some 0o111
  | .char 'u' => some 0o100
  | .char 'g' => some 0o010
  | .char 'o' => some 0o001
  | _ => none

/-- The rights that a letter names, where the rights of the classes of users are known. -/
def rightsNamed? (rights : Nat) : Symbol → Option Nat
  | .char 'r' => some 4
  | .char 'w' => some 2
  | .char 'x' => some 1
  | .char 'u' => some (rights / 64)
  | .char 'g' => some (rights / 8)
  | .char 'o' => some rights
  | .char 'X' => some (if rights &&& 0o111 = 0 then 0 else 1)
  | .char 's' => some 0
  | _ => none

/-- Changes rights by an operator with more rights for some users. -/
def changedRights (rights : Nat) (operator : Char) (users more : Nat) : Nat :=
  let granted := more % 8 * users
  if operator = '-' then rights - (rights &&& granted)
  else if operator = '+' then rights ||| granted
  else granted ||| (rights - (rights &&& users * 7))

/-- The operators of a mode. -/
def modeOperators : List Char :=
  ['=', '+', '-']

/-- The rights that a mode in letters leads to, from the rights at the start and those that were
reached, for users that were named already. -/
def rightsAfter? (start : Nat) : (fuel : Nat) → (users rights : Nat) → Text → Option Nat
  | 0, _, rights, _ => some rights
  | _, _, rights, [] => some rights
  | fuel + 1, users, rights, text =>
      let (named, rest) := text.span fun symbol => (usersOf? symbol).isSome
      let all := (named.filterMap usersOf?).foldl (· ||| ·) users
      let chosen := if all = 0 then 0o111 else all
      match rest with
      | [] => some rights
      | .char operator :: later =>
          if modeOperators.contains operator then
            let (letters, others) := later.span fun symbol => (rightsNamed? start symbol).isSome
            let more := (letters.filterMap (rightsNamed? start)).foldl (· ||| ·) 0
            let changed := changedRights rights operator chosen more
            match others with
            | [] => some changed
            | .char ',' :: next => rightsAfter? start fuel 0 changed next
            | .char next :: _ =>
                if modeOperators.contains next then rightsAfter? start fuel chosen changed others
                else none
            | _ => none
          else none
      | _ => none

/-- All rights of all users. -/
def allRights : Nat :=
  0o777

/-- Prints or sets the mask of rights that new files do not get. -/
def umask : Builtin := fun arguments => do
  let (given, operands) ← options ['S'] arguments
  let setMask := fun (mask : Nat) => do
    Run.changeProcess fun process => { process with mask := mask % (allRights + 1) }
    return 0
  let mask := (← Run.process).mask
  match operands with
  | [] => printLine (if given = [] then octalMask mask else symbolicMask mask)
  | word :: _ =>
      if (word.head?.bind (Symbol.digitInBase? 10)).isSome then
        match Text.takeNumber? 8 word with
        | some (mask, []) => setMask mask
        | _ => Run.failNumber word
      else
        match rightsAfter? (allRights - mask) (word.length + 1) 0 (allRights - mask) word with
        | some rights => setMask (allRights - rights)
        | none => Run.fail (Text.ofString "Illegal mode: " ++ word)

/-! ## Times and limits -/

/-- Prints the times that the process and those that it started have used. Nothing is counted. -/
def times : Builtin := fun _ =>
  print (Text.bytes (Text.ofString
    "0m0.000000s 0m0.000000s\n0m0.000000s 0m0.000000s\n"))

/-- The limits, by letter. Few of them are known. -/
def limits : List (Char × String) :=
  [('t', "unlimited"), ('f', "unlimited"), ('d', "unlimited"), ('s', "8192"), ('c', "0"),
    ('m', "unlimited"), ('l', "unlimited"), ('p', "unlimited"), ('n', "1048576"),
    ('v', "unlimited"), ('w', "unlimited"), ('r', "0")]

/-- Prints a limit, or takes a new one, which is not kept. -/
def ulimit : Builtin := fun arguments => do
  let (given, operands) ← options (['H', 'S', 'a'] ++ limits.map Prod.fst) arguments
  let chosen := (given.map Prod.fst).filter fun letter => !(List.contains ['H', 'S', 'a'] letter)
  match operands with
  | [] => printLine (Text.ofString ((limits.lookup (chosen.getLast?.getD 'f')).getD ""))
  | [word] =>
      if word = Text.ofString "unlimited" ∨ word.all isDigit then return 0
      else Run.fail (Text.ofString "bad number")
  | _ => Run.fail (Text.ofString "too many arguments")

end Builtin

end Script

end CommandChain

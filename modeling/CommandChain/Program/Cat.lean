import CommandChain.Program.Basic
import CommandChain.Text.Displayed

/-!
# Cat

`cat` copies its operands to its output one after the other, and its input where an operand is a
minus sign or where there are no operands. Options number the lines, squeeze empty ones, and make
line ends, tabs and other bytes visible.
-/

namespace CommandChain

namespace Cat

/-! ## Options -/

/-- What the options ask for. -/
structure Settings where
  numbersAll : Bool := false
  numbersNonempty : Bool := false
  squeezes : Bool := false
  showsEnds : Bool := false
  showsTabs : Bool := false
  showsHidden : Bool := false
  deriving DecidableEq

namespace Settings

/-- The settings with one more option, which is named by its letter. -/
def withLetter? (settings : Settings) : Symbol → Option Settings
  | .char 'A' => some { settings with showsEnds := true, showsTabs := true, showsHidden := true }
  | .char 'b' => some { settings with numbersNonempty := true }
  | .char 'e' => some { settings with showsEnds := true, showsHidden := true }
  | .char 'E' => some { settings with showsEnds := true }
  | .char 'n' => some { settings with numbersAll := true }
  | .char 's' => some { settings with squeezes := true }
  | .char 't' => some { settings with showsTabs := true, showsHidden := true }
  | .char 'T' => some { settings with showsTabs := true }
  | .char 'u' => some settings
  | .char 'v' => some { settings with showsHidden := true }
  | _ => none

end Settings

/-- The long names of the options, with their letters. -/
def longNames : List (Text × Symbol) :=
  [("number-nonblank", 'b'), ("number", 'n'), ("squeeze-blank", 's'), ("show-nonprinting", 'v'),
    ("show-ends", 'E'), ("show-tabs", 'T'), ("show-all", 'A')].map fun entry =>
      (Text.ofString entry.1, .char entry.2)

/-- A long option in a complaint. -/
def quotedName (name : Text) : Text :=
  Text.ofString "'--" ++ name ++ [.char '\'']

/-- The letter of a long option. A name may be cut short as long as it means one option. -/
def letterOf (written : Text) : Except Text Symbol :=
  let (name, value) := written.span (· != .char '=')
  let candidates := longNames.filter fun entry => name.isPrefixOf entry.1
  let meant := (candidates.filter fun entry => entry.1 == name) ++ candidates
  match meant, candidates with
  | [], _ => .error (Text.ofString "unrecognized option " ++ quotedName written)
  | entry :: _, _ :: _ :: _ =>
      if entry.1 = name then
        if value = [] then .ok entry.2
        else
          .error (Text.ofString "option " ++ quotedName entry.1 ++
            Text.ofString " doesn't allow an argument")
      else
        .error (Text.ofString "option " ++ quotedName written ++
          Text.ofString " is ambiguous; possibilities:" ++
          candidates.flatMap fun candidate => .char ' ' :: quotedName candidate.1)
  | entry :: _, _ =>
      if value = [] then .ok entry.2
      else
        .error (Text.ofString "option " ++ quotedName entry.1 ++
          Text.ofString " doesn't allow an argument")

/-- The settings with the options of a cluster of letters. -/
def withLetters (settings : Settings) (letters : Text) : Except Text Settings :=
  letters.foldlM
    (fun current letter =>
      match current.withLetter? letter with
      | some more => .ok more
      | none => .error (Text.ofString "invalid option -- '" ++ [letter] ++ [.char '\'']))
    settings

/-- The settings and the operands that arguments give. Options may stand anywhere in front of a
separator. -/
def readArguments : Settings → List Text → Except Text (Settings × List Text)
  | settings, [] => .ok (settings, [])
  | settings, argument :: rest =>
      match argument with
      | [.char '-', .char '-'] => .ok (settings, rest)
      | .char '-' :: .char '-' :: name => do
          let letter ← letterOf name
          readArguments ((settings.withLetter? letter).getD settings) rest
      | .char '-' :: letter :: letters => do
          let more ← withLetters settings (letter :: letters)
          readArguments more rest
      | operand => do
          let (read, operands) ← readArguments settings rest
          .ok (read, operand :: operands)

/-! ## Copying -/

/-- Where copying stands: how many lines were numbered, whether a line starts here, and whether the
line before it was empty. -/
structure Position where
  numbered : Nat := 0
  startsLine : Bool := true
  followsEmpty : Bool := false
  deriving DecidableEq

/-- The code of the byte that ends a line. -/
def lineEnd : UInt8 :=
  0x0A

/-- The code of the byte that returns the carriage. -/
def carriageReturn : UInt8 :=
  0x0D

/-- A line number in front of its line. -/
def numberField (number : Nat) : List UInt8 :=
  let digits := Text.bytes (Text.ofInt number)
  List.replicate (6 - digits.length) 0x20 ++ digits ++ [0x09]

/-- A byte below 128 made visible. -/
def visibleLow (byte : UInt8) : List UInt8 :=
  if byte < 0x20 then [0x5E, byte + 0x40] else if byte = 0x7F then [0x5E, 0x3F] else [byte]

/-- A byte of a line as the settings show it. -/
def visible (settings : Settings) (byte : UInt8) : List UInt8 :=
  if byte = 0x09 then (if settings.showsTabs then [0x5E, 0x49] else [byte])
  else if settings.showsHidden then
    if byte < 0x80 then visibleLow byte else [0x4D, 0x2D] ++ visibleLow (byte - 0x80)
  else [byte]

/-- What stands in front of the first byte of a line that is not empty. -/
def lineStart (settings : Settings) (position : Position) : List UInt8 × Position :=
  if position.startsLine = true then
    if settings.numbersAll = true ∨ settings.numbersNonempty = true then
      (numberField (position.numbered + 1),
        { numbered := position.numbered + 1, startsLine := false, followsEmpty := false })
    else ([], { position with startsLine := false, followsEmpty := false })
  else ([], position)

/-- What an empty line becomes. -/
def emptyLine (settings : Settings) (position : Position) : List UInt8 × Position :=
  let shownEnd := if settings.showsEnds then [0x24, lineEnd] else [lineEnd]
  if settings.squeezes = true ∧ position.followsEmpty = true then ([], position)
  else if settings.numbersAll = true ∧ settings.numbersNonempty = false then
    (numberField (position.numbered + 1) ++ shownEnd,
      { position with numbered := position.numbered + 1, followsEmpty := true })
  else (shownEnd, { position with followsEmpty := true })

/-- Copies bytes as the settings ask for. A carriage return in front of a line end is shown where
line ends are. -/
def copy (settings : Settings) : Position → List UInt8 → List UInt8 × Position
  | position, [] => ([], position)
  | position, byte :: rest =>
      if byte = lineEnd then
        let ended :=
          if position.startsLine then emptyLine settings position
          else
            (if settings.showsEnds then [0x24, lineEnd] else [lineEnd],
              { position with startsLine := true, followsEmpty := false })
        let copied := copy settings ended.2 rest
        (ended.1 ++ copied.1, copied.2)
      else
        let started := lineStart settings position
        let shown :=
          if settings.showsEnds = true ∧ byte = carriageReturn ∧ rest.head? = some lineEnd then
            [0x5E, 0x4D]
          else visible settings byte
        let copied := copy settings started.2 rest
        (started.1 ++ shown ++ copied.1, copied.2)

/-- Without options everything is copied as it is. -/
theorem copy_default (position : Position) (bytes : List UInt8) : (copy {} position bytes).1 = bytes := by
  induction bytes generalizing position with
  | nil => rfl
  | cons byte rest inductionHypothesis =>
      simp only [copy]
      split
      next isEnd =>
        split <;> simp [emptyLine, inductionHypothesis, isEnd]
      next =>
        have start : (lineStart {} position).1 = [] := by
          unfold lineStart
          split <;> simp
        have shown : visible {} byte = [byte] := by
          unfold visible
          split <;> simp
        simp [start, shown, inductionHypothesis]

/-! ## Operands -/

/-- The name that stands for the input among the operands. -/
def inputOperand : Text :=
  [.char '-']

/-- The stream that an operand names. -/
def openOperand (start : Start) (operand : Text) : FileStep (Except Int Endpoint) := do
  if operand = inputOperand then
    match start.descriptors.lookup 0 with
    | some stream => return .ok stream
    | none => return .error SystemError.badDescriptor
  else Files.openPath start.descriptors start.directory false .reading operand

/-- Copying from a stream would never end, since it is the file that is written. -/
def copiesItself (files : Files) (source target : Endpoint) : Bool :=
  match source, target with
  | .file first, .file second =>
      match files.opened.lookup first, files.opened.lookup second with
      | some input, some output =>
          input.target == output.target && decide (input.offset < (files.content input.target).length)
      | _, _ => false
  | _, _ => false

/-- How far copying came: the position in the output, and the raw status, which is final where
nothing more can be written. -/
structure Progress where
  position : Position := {}
  rawStatus : Int := 0
  hasEnded : Bool := false

/-- Complains about an operand and goes on. -/
def complainOf (start : Start) (operand reason : Text) (progress : Progress) :
    FileStep Progress := do
  Program.complain start (operand.displayedWord ++ Text.ofString ": " ++ reason)
  return { progress with rawStatus := 1 }

/-- Copies one operand, after what was done for the earlier ones. -/
def copyOperand (start : Start) (settings : Settings) (output : Endpoint) (operand : Text)
    (progress : Progress) : FileStep Progress := do
  let complainAbout := fun (number : Int) =>
    complainOf start operand (SystemError.message number) progress
  match ← openOperand start operand with
  | .error number => complainAbout number
  | .ok stream =>
      if copiesItself (← get) stream output then
        complainOf start operand (Text.ofString "input file is output file") progress
      else
        match ← Files.takeAll stream with
        | .error number => complainAbout number
        | .ok bytes => do
            let (copied, position) :=
              if settings = {} then (bytes, progress.position)
              else copy settings progress.position bytes
            if copied = [] then return { progress with position := position }
            else
              match ← Files.write output copied with
              | .ok () => return { progress with position := position }
              | .error number => do
                  let rawStatus ← Program.failWriting start number
                  return { position, rawStatus, hasEnded := true }

/-- Copies operands in order, up to one that cannot be written. -/
def copyAll (start : Start) (settings : Settings) (output : Endpoint) :
    Progress → List Text → FileStep Progress
  | progress, [] => return progress
  | progress, operand :: rest => do
      let after ← copyOperand start settings output operand progress
      if after.hasEnded then return after else copyAll start settings output after rest

/-- Closes the input if it was read. It may have been closed before. -/
def closeInput (start : Start) (operands : List Text) (rawStatus : Int) : FileStep Int := do
  if operands.contains inputOperand && (start.descriptors.lookup 0).isNone then
    Program.complain start
      (Text.ofString "closing standard input: " ++ SystemError.message SystemError.badDescriptor)
    return 1
  else return rawStatus

end Cat

namespace Program

/-- Copies its operands to its output. -/
def cat : Program := fun start => do
  match Cat.readArguments {} start.arguments, start.descriptors.lookup 1 with
  | .error complaint, _ => refuse start complaint
  | .ok _, none => do
      complain start
        (Text.ofString "standard output: " ++ SystemError.message SystemError.badDescriptor)
      return 1
  | .ok (settings, operands), some output => do
      let named := if operands = [] then [Cat.inputOperand] else operands
      let progress ← Cat.copyAll start settings output {} named
      if progress.hasEnded then return progress.rawStatus
      else Cat.closeInput start named progress.rawStatus

end Program

end CommandChain

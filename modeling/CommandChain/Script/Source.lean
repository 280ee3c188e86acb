import CommandChain.Script.Tree
import CommandChain.Text.Radix

/-!
# Script sources

A source is the text of a script that is still to be read, with the line that reading has reached.
A `Reader` takes from the front of a source or fails with a complaint. A backslash in front of a
line end joins two lines wherever symbols are taken with `take?`.
-/

namespace CommandChain

namespace Script

/-! ## Tokens -/

/-- A word that is reserved where a command starts. -/
inductive Reserved where
  | negation
  | caseStart
  | bodyStart
  | bodyEnd
  | elseIf
  | elsePart
  | caseEnd
  | conditionalEnd
  | eachStart
  | conditionalStart
  | among
  | thenPart
  | untilStart
  | whileStart
  | groupStart
  | groupEnd
  deriving DecidableEq

namespace Reserved

/-- All reserved words with their spelling. -/
def spellings : List (Reserved × String) :=
  [(.negation, "!"), (.caseStart, "case"), (.bodyStart, "do"), (.bodyEnd, "done"),
    (.elseIf, "elif"), (.elsePart, "else"), (.caseEnd, "esac"), (.conditionalEnd, "fi"),
    (.eachStart, "for"), (.conditionalStart, "if"), (.among, "in"), (.thenPart, "then"),
    (.untilStart, "until"), (.whileStart, "while"), (.groupStart, "\x7b"), (.groupEnd, "\x7d")]

/-- The spelling of a reserved word. -/
def spelling (reserved : Reserved) : Text :=
  Text.ofString ((spellings.lookup reserved).getD "")

/-- The reserved word with a spelling. -/
def ofText? (text : Text) : Option Reserved :=
  (spellings.find? fun entry => Text.ofString entry.2 == text).map Prod.fst

/-- The reserved words that end a list of commands. -/
def endsList : Reserved → Bool
  | .bodyStart | .bodyEnd | .elseIf | .elsePart | .caseEnd | .conditionalEnd | .thenPart
  | .groupEnd => true
  | _ => false

end Reserved

/-- A redirection operator. -/
inductive RedirectOperator where
  | file (opening : Opening)
  | descriptor
  /-- a document; tabs in front of its lines may be dropped -/
  | document (dropsTabs : Bool)
  deriving DecidableEq

/-- A token of a script. -/
inductive Token where
  | ending
  | newline
  | redirect (stream : Nat) (operator : RedirectOperator)
  | word (parts : Word)
  | separator
  | background
  | andIf
  | orIf
  | bar
  | opening
  | closing
  | caseEnd
  | reserved (word : Reserved)

namespace Token

/-- A text between double quotes. -/
def quoted (text : Text) : Text :=
  .char '"' :: text ++ [.char '"']

/-- A token as complaints name it. -/
def display : Token → Text
  | .ending => Text.ofString "end of file"
  | .newline => Text.ofString "newline"
  | .redirect _ _ => Text.ofString "redirection"
  | .word _ => Text.ofString "word"
  | .separator => quoted (Text.ofString ";")
  | .background => quoted (Text.ofString "&")
  | .andIf => quoted (Text.ofString "&&")
  | .orIf => quoted (Text.ofString "||")
  | .bar => quoted (Text.ofString "|")
  | .opening => quoted (Text.ofString "(")
  | .closing => quoted (Text.ofString ")")
  | .caseEnd => quoted (Text.ofString ";;")
  | .reserved found => quoted found.spelling

/-- The token is a line end. -/
def isNewline : Token → Bool
  | .newline => true
  | _ => false

/-- The token ends a list of commands. -/
def endsList : Token → Bool
  | .ending => true
  | .closing => true
  | .caseEnd => true
  | .reserved found => found.endsList
  | _ => false

end Token

/-! ## Sources -/

/-- A document whose text follows the line that asks for it. -/
structure AwaitedDocument where
  number : Nat
  endLine : Text
  dropsTabs : Bool
  isLiteral : Bool

/-- An alias that was put in place of a word. -/
structure AliasUse where
  name : Text
  /-- how much of the text was left after the word -/
  left : Nat
  /-- the word after the alias may be replaced as well, since its text ends in a blank -/
  endsInBlank : Bool

/-- A source: the text that is left and its line, a token that was given back, the documents, and
the aliases with those whose text is being read. -/
structure Source where
  rest : Text
  line : Nat := 1
  returned : Option Token := none
  awaited : List AwaitedDocument := []
  documents : List (Nat × Word) := []
  /-- the number of the next document -/
  nextDocument : Nat := 0
  aliases : List (Text × Text) := []
  used : List AliasUse := []

namespace Source

/-- How often readers may go on after the text at hand, because of aliases in it. -/
def aliasReserve : Nat :=
  100000

/-- A number that bounds every loop which takes one symbol at a time. -/
def bound (source : Source) : Nat :=
  source.rest.length + 1 + if source.aliases.isEmpty then 0 else aliasReserve

/-- Another text that is read in the middle of a source, with what belongs to both. -/
def within (source : Source) (text : Text) (line : Nat) : Source :=
  { rest := text
    line := line
    documents := source.documents
    nextDocument := source.nextDocument
    aliases := source.aliases
    used :=
      (source.used.filter fun entry => decide (entry.left ≤ source.rest.length)).map fun entry =>
        { entry with left := 0, endsInBlank := false } }

end Source

/-- Why a source cannot be read, with the line where reading stopped and the text that was left. -/
structure Complaint where
  line : Nat
  text : Text
  left : Text
  /-- the line end that was read last is what may not stand there -/
  isAtLineEnd : Bool

/-- A reader of sources. -/
abbrev Reader (result : Type) : Type :=
  StateT Source (Except Complaint) result

namespace Reader

/-- Fails at the line that is reached, perhaps because of the line end in front of it. -/
def fail {result : Type} (text : Text) (isAtLineEnd : Bool := false) : Reader result :=
  fun source =>
    .error ⟨source.line, Text.ofString "Syntax error: " ++ text, source.rest, isAtLineEnd⟩

/-- Reads another text in the middle of a source. The documents in it belong to both. -/
def within {result : Type} (reader : Reader result) (text : Text) (line : Nat) :
    Reader result := fun source =>
  match reader (source.within text line) with
  | .error complaint => .error { complaint with left := source.rest }
  | .ok (value, after) =>
      .ok (value, { source with documents := after.documents, nextDocument := after.nextDocument })

/-- Fails with a token that may not stand where it does. -/
def failUnexpected {result : Type} (token : Token) : Reader result :=
  fail (token.display ++ Text.ofString " unexpected") token.isNewline

/-- Fails with a token in the place of another one. -/
def failExpecting {result : Type} (token expected : Token) : Reader result :=
  fail
    (token.display ++ Text.ofString " unexpected (expecting " ++ expected.display ++
      Text.ofString ")")
    token.isNewline

/-- The symbol that joins two lines when it stands before a line end. -/
def joint : Symbol :=
  .char '\\'

/-- The line end. -/
def lineEnd : Symbol :=
  .char '\n'

/-- Drops line joints in front of a text, and counts them. -/
def dropJoints : Text → Nat × Text
  | first :: second :: rest =>
      if first = joint ∧ second = lineEnd then
        let dropped := dropJoints rest
        (dropped.1 + 1, dropped.2)
      else (0, first :: second :: rest)
  | text => (0, text)

/-- The next symbol as it stands, which is not taken. -/
def peekRaw : Reader (Option Symbol) := do
  return (← get).rest.head?

/-- Takes the next symbol as it stands. -/
def takeRaw : Reader (Option Symbol) := do
  let source ← get
  match source.rest with
  | [] => return none
  | symbol :: rest =>
      set { source with
        rest := rest
        line := if symbol = lineEnd then source.line + 1 else source.line }
      return some symbol

/-- Drops line joints. -/
def skipJoints : Reader Unit :=
  modify fun source =>
    let dropped := dropJoints source.rest
    { source with rest := dropped.2, line := source.line + dropped.1 }

/-- The next symbol after line joints, which is not taken. -/
def peek : Reader (Option Symbol) := do
  skipJoints
  peekRaw

/-- Takes the next symbol after line joints. -/
def take : Reader (Option Symbol) := do
  skipJoints
  takeRaw

/-- Takes the next symbol if it is the given one. -/
def takeIf (expected : Char) : Reader Bool := do
  if (← peek) = some (.char expected) then
    let _ ← take
    return true
  else return false

/-- A number that bounds every loop which takes one symbol at a time. -/
def bound : Reader Nat := do
  return (← get).bound

/-- Takes symbols as long as they pass a test. -/
def takeWhileFuel (passes : Symbol → Bool) : Nat → Reader Text
  | 0 => return []
  | fuel + 1 => do
      match ← peek with
      | some symbol =>
          if passes symbol then
            let _ ← take
            return symbol :: (← takeWhileFuel passes fuel)
          else return []
      | none => return []

/-- Takes symbols as long as they pass a test. -/
def takeAll (passes : Symbol → Bool) : Reader Text := do
  takeWhileFuel passes (← bound)

/-- Gives a token back. -/
def giveBack (token : Token) : Reader Unit :=
  modify fun source => { source with returned := some token }

end Reader

/-! ## Names -/

/-- A symbol that a name can start with. -/
def startsName : Symbol → Bool
  | .char character => character.isAlpha || character == '_'
  | .stray _ _ => false

/-- A symbol that a name can go on with. -/
def continuesName : Symbol → Bool
  | .char character => character.isAlphanum || character == '_'
  | .stray _ _ => false

/-- An ASCII digit. -/
def isDigit : Symbol → Bool
  | .char character => character.isDigit
  | .stray _ _ => false

/-- A symbol that is the name of a parameter by itself. -/
def isSpecialName (symbol : Symbol) : Bool :=
  isDigit symbol || ['!', '@', '#', '$', '?', '-', '*'].any fun name => symbol == .char name

/-- The text is a name. -/
def isName : Text → Bool
  | [] => false
  | first :: rest => startsName first && rest.all continuesName

/-- A word that assigns to a name, as the name and the rest of the word. -/
def assignment? (word : Word) : Option (Text × Word) :=
  match word with
  | .literal text false :: rest =>
      match text.span (· != .char '=') with
      | (name, _ :: value) =>
          if isName name then
            some (name, if value = [] then rest else .literal value false :: rest)
          else none
      | (_, []) => none
  | _ => none

end Script

end CommandChain

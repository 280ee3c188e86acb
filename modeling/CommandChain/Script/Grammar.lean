import CommandChain.Script.Source

/-!
# The grammar of scripts

A source is read into trees command by command. Words and commands may hold each other, so the
readers of one depth take those of the depth below; the depth is bounded by the length of the
script. `Source.next` reads one line of commands, with the documents that belong to it.
-/

namespace CommandChain

namespace Script

/-- Where the parts of a word stand, which decides what ends them and what is quoted. -/
inductive WordContext where
  /-- outside quotes, up to a blank or an operator -/
  | plain
  /-- in the braces of an expansion outside quotes -/
  | braced
  /-- between double quotes -/
  | double
  /-- in the braces of an expansion between double quotes -/
  | bracedDouble
  /-- in an arithmetic expansion, with the number of open parentheses -/
  | arithmetic (opened : Nat)
  /-- in a document -/
  | document
  /-- the word that ends a document, in which nothing is expanded -/
  | endWord
  deriving DecidableEq

namespace WordContext

/-- What stands here is quoted. -/
def isQuoted : WordContext → Bool
  | .plain => false
  | .braced => false
  | .endWord => false
  | _ => true

/-- The context in the braces of an expansion that stands here. -/
def inBraces (context : WordContext) : WordContext :=
  if context.isQuoted then .bracedDouble else .braced

/-- The complaint about the end of the script here, if it may not end here. -/
def endComplaint? : WordContext → Option String
  | .plain => none
  | .document => none
  | .endWord => none
  | .braced => some "Missing '\x7d'"
  | .double => some "Unterminated quoted string"
  | .bracedDouble => some "Unterminated quoted string"
  | .arithmetic _ => some "Missing '))'"

/-- The symbols that end a word outside quotes. -/
def wordEnds : List Symbol :=
  [.char ' ', .char '\t', .char '\n', .char ';', .char '&', .char '|', .char '<', .char '>',
    .char '(', .char ')']

/-- A symbol ends the parts of a word. -/
def endsAt : WordContext → Symbol → Bool
  | .plain, symbol => wordEnds.contains symbol
  | .endWord, symbol => wordEnds.contains symbol
  | .braced, symbol => symbol == .char '\x7d'
  | .bracedDouble, symbol => symbol == .char '\x7d'
  | .double, symbol => symbol == .char '"'
  | _, _ => false

/-- The symbols that a backslash quotes here; any other one keeps its backslash. -/
def escapable : WordContext → Option (List Symbol)
  | .plain => none
  | .braced => none
  | .endWord => none
  | .bracedDouble => some [.char '\\', .char '\x60', .char '$', .char '"', .char '\x7d']
  | .document => some [.char '\\', .char '\x60', .char '$']
  | _ => some [.char '\\', .char '\x60', .char '$', .char '"']

end WordContext

/-- Which lists of commands are read. -/
inductive ListKind where
  /-- up to the end of the line -/
  | line
  /-- in another command, with at least one command -/
  | block
  /-- in a substitution or a case, perhaps without any command -/
  | optional
  deriving DecidableEq

/-- The readers of the depth below. -/
structure Deeper where
  parts : WordContext → Reader Word
  list : ListKind → Reader Tree
  command : Reader Tree

/-! ## Words -/

/-- Quotes a text as a whole. -/
def quotedText (text : Text) : Word :=
  if text = [] then [.quotation] else [.quotation, .literal text true]

/-- Reads up to a single quote, symbols as they stand. -/
def readSingleQuoted : Nat → Reader Text
  | 0 => Reader.fail (Text.ofString "Unterminated quoted string")
  | fuel + 1 => do
      match ← Reader.takeRaw with
      | none => Reader.fail (Text.ofString "Unterminated quoted string")
      | some symbol =>
          if symbol = .char '\'' then return []
          else return symbol :: (← readSingleQuoted fuel)

/-- Reads up to a closing backquote. A backslash in front of a symbol that it quotes is dropped. -/
def readBackquoted (isQuoted : Bool) : Nat → Reader Text
  | 0 => Reader.fail (Text.ofString "EOF in backquote substitution")
  | fuel + 1 => do
      match ← Reader.take with
      | none => Reader.fail (Text.ofString "EOF in backquote substitution")
      | some symbol =>
          if symbol = .char '\x60' then return []
          else if symbol = .char '\\' then
            match ← Reader.takeRaw with
            | none => Reader.fail (Text.ofString "EOF in backquote substitution")
            | some next =>
                let rest ← readBackquoted isQuoted fuel
                if [.char '\\', .char '\x60', .char '$'].contains next ||
                    (isQuoted && next == .char '"') then
                  return next :: rest
                else return symbol :: next :: rest
          else return symbol :: (← readBackquoted isQuoted fuel)

/-- Reads the rest of a braced expansion and drops it, since it makes no sense. -/
def readMalformed (deeper : Deeper) (context : WordContext) : Reader ParameterUse := do
  let _ ← deeper.parts context.inBraces
  return .malformed

/-- The operators that put something in place of a value. -/
def substituteOf? : Symbol → Option Substitute
  | .char '-' => some .useDefault
  | .char '=' => some .assignDefault
  | .char '?' => some .complain
  | .char '+' => some .useAlternative
  | _ => none

/-- Reads what a braced expansion does with its parameter, up to the closing brace. -/
def readUse (deeper : Deeper) (context : WordContext) : Reader ParameterUse := do
  match ← Reader.peek with
  | none => readMalformed deeper context
  | some symbol =>
      if symbol = .char '\x7d' then return .value
      else if symbol = .char '%' ∨ symbol = .char '#' then
        let _ ← Reader.take
        let second ← Reader.peek
        let isLongest := second == some symbol
        if isLongest then
          let _ ← Reader.take
        let pattern ← deeper.parts .braced
        return .trim ⟨symbol == .char '%', isLongest⟩ pattern
      else
        let countsEmpty ← Reader.takeIf ':'
        match (← Reader.peek).bind substituteOf? with
        | some kind =>
            let _ ← Reader.take
            return .substitute kind countsEmpty (← deeper.parts context.inBraces)
        | none =>
            let _ ← Reader.take
            readMalformed deeper context

/-- Reads the name of a parameter in braces, if there is one. -/
def readParameterName : Reader (Option Text) := do
  match ← Reader.peek with
  | none => return none
  | some symbol =>
      if startsName symbol then return some (← Reader.takeAll continuesName)
      else if isDigit symbol then return some (← Reader.takeAll isDigit)
      else if isSpecialName symbol then
        let _ ← Reader.take
        return some [symbol]
      else return none

/-- Whether the text goes on with a special name and the closing brace, so that a number sign in
front of it asks for a length. -/
def asksSpecialLength : Reader Bool := do
  let source ← get
  match (Reader.dropJoints source.rest).2 with
  | name :: rest =>
      return isSpecialName name && (Reader.dropJoints rest).2.head? == some (.char '\x7d')
  | [] => return false

/-- Reads a braced expansion after its opening brace, up to the closing one. -/
def readBraced (deeper : Deeper) (context : WordContext) : Reader (Text × ParameterUse) := do
  match ← readParameterName with
  | none => do
      unless (← Reader.peek) = some (.char '\x7d') do
        let _ ← Reader.take
      return ([], ← readMalformed deeper context)
  | some name =>
      if name = [.char '#'] then
        let next ← Reader.peek
        if next.any continuesName then
          let measured := (← readParameterName).getD []
          if (← Reader.peek) = some (.char '\x7d') then return (measured, .length)
          else return (measured, ← readMalformed deeper context)
        else if ← asksSpecialLength then
          let measured := (← readParameterName).getD []
          return (measured, .length)
        else return (name, ← readUse deeper context)
      else return (name, ← readUse deeper context)

/-- Fails unless the next symbol is the closing brace of an expansion. -/
def closeBraces (context : WordContext) : Reader Unit := do
  unless ← Reader.takeIf '\x7d' do
    Reader.fail (Text.ofString (context.inBraces.endComplaint?.getD "Missing '\x7d'"))

/-- Reads an expansion after its dollar sign. The sign stands for itself where none follows. -/
def readDollar (deeper : Deeper) (context : WordContext) : Reader Word := do
  let isQuoted := context.isQuoted
  match ← Reader.peek with
  | none => return [.literal [.char '$'] isQuoted]
  | some symbol =>
      if symbol = .char '(' then
        let _ ← Reader.take
        if ← Reader.takeIf '(' then
          let expression ← deeper.parts (.arithmetic 0)
          return [.arithmetic expression isQuoted]
        else
          let saved := (← get).returned
          modify fun source => { source with returned := none }
          let body ← deeper.list .optional
          let token := (← get).returned.getD .closing
          modify fun source => { source with returned := saved }
          match token with
          | .closing => return [.substitution body isQuoted]
          | other => Reader.failExpecting other .closing
      else if symbol = .char '\x7b' then
        let _ ← Reader.take
        let (name, use) ← readBraced deeper context
        closeBraces context
        return [.parameter name use isQuoted]
      else if startsName symbol then
        let name ← Reader.takeAll continuesName
        return [.parameter name .value isQuoted]
      else if isSpecialName symbol then
        let _ ← Reader.take
        return [.parameter [symbol] .value isQuoted]
      else return [.literal [.char '$'] isQuoted]

/-- Reads what follows a backslash. -/
def readEscaped (context : WordContext) : Reader Word := do
  match ← Reader.peekRaw, context.escapable with
  | none, _ => return [.literal [.char '\\'] true]
  | some symbol, none =>
      let _ ← Reader.takeRaw
      return [.literal [symbol] true]
  | some symbol, some escapable =>
      let _ ← Reader.takeRaw
      if escapable.contains symbol then return [.literal [symbol] true]
      else return [.literal [.char '\\', symbol] true]

/-- Reads what stands between double quotes, after the opening one. Quotes around nothing but all
positional parameters do not make a field by themselves. -/
def readDoubleQuoted (deeper : Deeper) : Reader Word := do
  let parts ← deeper.parts .double
  let _ ← Reader.take
  match parts with
  | [.parameter [.char '@'] .value true] => return parts
  | _ => return .quotation :: parts

/-- Reads a backquoted substitution after its opening quote. -/
def readBackquote (deeper : Deeper) (context : WordContext) : Reader Word := do
  let text ← readBackquoted context.isQuoted (← Reader.bound)
  let body ← (deeper.list .optional).within text 1
  return [.substitution body context.isQuoted]

/-- Reads the parts that start with a symbol, which is taken already. -/
def readPart (deeper : Deeper) (context : WordContext) (symbol : Symbol) : Reader Word := do
  let isPlain := !context.isQuoted
  if symbol = .char '\\' then readEscaped context
  else if symbol = .char '\'' ∧ isPlain = true then
    return quotedText (← readSingleQuoted (← Reader.bound))
  else if symbol = .char '"' ∧ isPlain = true then readDoubleQuoted deeper
  else if symbol = .char '"' ∧ context = .bracedDouble then
    let parts ← deeper.parts .double
    let _ ← Reader.take
    return parts
  else if symbol = .char '$' ∧ context ≠ .endWord then readDollar deeper context
  else if symbol = .char '\x60' ∧ context ≠ .endWord then readBackquote deeper context
  else return [.literal [symbol] context.isQuoted]

/-- Puts parts in front of a word. -/
def prependParts (parts word : Word) : Word :=
  parts.foldr
    (fun part rest =>
      match part with
      | .literal text isQuoted =>
          text.foldr (fun symbol later => Word.consSymbol symbol isQuoted later) rest
      | other => other :: rest)
    word

/-- Takes the closing parenthesis of an arithmetic expansion, if both of its symbols are there. -/
def takeArithmeticEnd : Reader Bool := do
  let source ← get
  match (Reader.dropJoints source.rest).2 with
  | .char ')' :: rest =>
      if (Reader.dropJoints rest).2.head? = some (.char ')') then
        let _ ← Reader.take
        let _ ← Reader.take
        return true
      else return false
  | _ => return false

/-- The context after a symbol, which counts parentheses in arithmetic expansions. -/
def contextAfter (symbol : Symbol) : WordContext → WordContext
  | .arithmetic opened =>
      if symbol = .char '(' then .arithmetic (opened + 1)
      else if symbol = .char ')' then .arithmetic (opened - 1)
      else .arithmetic opened
  | context => context

/-- Reads the parts of a word up to what ends them, which is not taken unless they are an arithmetic
expansion. -/
def readParts (deeper : Deeper) : Nat → WordContext → Reader Word
  | 0, _ => return []
  | fuel + 1, context => do
      if context = .arithmetic 0 then
        if ← takeArithmeticEnd then return []
      match ← Reader.peek with
      | none =>
          match context.endComplaint? with
          | some complaint => Reader.fail (Text.ofString complaint)
          | none => return []
      | some symbol =>
          if context.endsAt symbol then return []
          else
            let _ ← Reader.take
            let parts ← readPart deeper context symbol
            return prependParts parts (← readParts deeper fuel (contextAfter symbol context))

/-! ## Tokens -/

/-- Skips blanks and a comment. -/
def skipBlanks : Nat → Reader Unit
  | 0 => return ()
  | fuel + 1 => do
      match ← Reader.peek with
      | some (.char ' ') | some (.char '\t') =>
          let _ ← Reader.take
          skipBlanks fuel
      | some (.char '#') =>
          modify fun source => { source with rest := source.rest.dropWhile (· != Reader.lineEnd) }
      | _ => return ()

/-- Reads a redirection operator after its first symbol. -/
def readRedirectOperator (isInput : Bool) : Reader RedirectOperator := do
  if isInput then
    if ← Reader.takeIf '<' then return .document (← Reader.takeIf '-')
    else if ← Reader.takeIf '&' then return .descriptor
    else if ← Reader.takeIf '>' then return .file .both
    else return .file .reading
  else if ← Reader.takeIf '>' then return .file .appending
  else if ← Reader.takeIf '|' then return .file .replacing
  else if ← Reader.takeIf '&' then return .descriptor
  else return .file .writing

/-- Reads a redirection at its first symbol, with the stream that is named in front of it. -/
def readRedirection (named : Option Nat) : Reader Token := do
  let isInput ← Reader.takeIf '<'
  unless isInput do
    let _ ← Reader.take
  let operator ← readRedirectOperator isInput
  return .redirect (named.getD (if isInput then 0 else 1)) operator

/-- The stream that a word names in front of a redirection: it is empty or one digit. -/
def streamOf? : Word → Option (Option Nat)
  | [] => some none
  | [.literal [symbol] false] => (symbol.digitInBase? 10).map some
  | _ => none

/-- The operators of one symbol, and what they are if the symbol is doubled. -/
def operatorOf? : Symbol → Option (Token × Option Token)
  | .char '&' => some (.background, some .andIf)
  | .char '|' => some (.bar, some .orIf)
  | .char ';' => some (.separator, some .caseEnd)
  | .char '(' => some (.opening, none)
  | .char ')' => some (.closing, none)
  | .char '\n' => some (.newline, none)
  | _ => none

/-- Reads a word or a redirection. -/
def readWordToken (deeper : Deeper) (context : WordContext) : Reader Token := do
  let parts ← deeper.parts context
  match ← Reader.peekRaw, streamOf? parts with
  | some (.char '<'), some named => readRedirection named
  | some (.char '>'), some named => readRedirection named
  | _, _ => return .word parts

/-- Reads a token. -/
def readToken (deeper : Deeper) (context : WordContext) : Reader Token := do
  skipBlanks (← Reader.bound)
  match ← Reader.peek with
  | none => return .ending
  | some symbol =>
      match operatorOf? symbol with
      | none => readWordToken deeper context
      | some (single, doubled) =>
          let _ ← Reader.take
          match doubled, symbol with
          | some token, .char character =>
              if ← Reader.takeIf character then return token else return single
          | _, _ => return single

/-! ## Documents -/

/-- Takes a line with its end. -/
def takeLine : Reader Text := do
  let source ← get
  let (line, rest) := source.rest.span (· != Reader.lineEnd)
  match rest with
  | [] =>
      set { source with rest := [] }
      return line
  | lineEnd :: later =>
      set { source with rest := later, line := source.line + 1 }
      return line ++ [lineEnd]

/-- A line without its end. -/
def withoutEnd (line : Text) : Text :=
  line.filter (· != Reader.lineEnd)

/-- A line goes on after a backslash at its end. -/
def goesOn (line : Text) : Bool :=
  line.getLast? == some Reader.lineEnd &&
    ((withoutEnd line).reverse.takeWhile (· == Reader.joint)).length % 2 == 1

/-- Takes the lines of a document. Its last line is taken and dropped. -/
def takeDocument (document : AwaitedDocument) : Nat → (isJoined : Bool) → Reader Text
  | 0, _ => return []
  | fuel + 1, isJoined => do
      if (← get).rest = [] then return []
      let line ← takeLine
      let shown :=
        if document.dropsTabs ∧ isJoined = false then line.dropWhile (· == .char '\t') else line
      if isJoined = false ∧ withoutEnd shown = document.endLine then
        unless line.getLast? = some Reader.lineEnd do
          modify fun source => { source with line := source.line + 1 }
        return []
      else
        let joins := !document.isLiteral && goesOn line
        return shown ++ (← takeDocument document fuel joins)

/-- Reads the text of a document into its parts. -/
def readDocument (deeper : Deeper) (document : AwaitedDocument) : Reader Unit := do
  let line := (← get).line
  let text ← takeDocument document (← Reader.bound) false
  let parts ←
    if document.isLiteral then pure (quotedText text)
    else (deeper.parts .document).within text line
  modify fun reached =>
    { reached with documents := (document.number, parts) :: reached.documents }

/-- Reads the documents that wait for the end of a line. -/
def readDocuments (deeper : Deeper) : Reader Unit := do
  let awaited := (← get).awaited
  modify fun source => { source with awaited := [] }
  for document in awaited do
    readDocument deeper document

/-! ## Checked tokens -/

/-- What is done with a token where it stands. -/
structure Checks where
  skipsLines : Bool := false
  tellsReserved : Bool := false
  replacesAliases : Bool := false

namespace Checks

/-- A token is taken as it is. -/
def plain : Checks :=
  {}

/-- A command may start on this line. -/
def onLine : Checks :=
  { tellsReserved := true, replacesAliases := true }

/-- A command may start here or on a later line. -/
def start : Checks :=
  { skipsLines := true, tellsReserved := true, replacesAliases := true }

/-- A reserved word may stand here or on a later line. -/
def reserved : Checks :=
  { skipsLines := true, tellsReserved := true }

end Checks

/-- The token that was given back, or else the next one. -/
def takeToken (deeper : Deeper) : Reader Token := do
  let source ← get
  match source.returned with
  | some token => do
      set { source with returned := none }
      return token
  | none => readToken deeper .plain

/-- Whether the text of an alias that ends in a blank came to its end since more text was left. -/
def endsAliasWithBlank (before : Nat) : Reader Bool := do
  let source ← get
  return source.used.any fun entry =>
    entry.endsInBlank && decide (entry.left < before) && decide (source.rest.length ≤ entry.left)

/-- Puts the text of an alias in place of a word that was taken, if there is one that is not being
read already. -/
def replaceAlias (word : Text) : Reader Bool := do
  let source ← get
  let left := source.rest.length
  let used := source.used.filter fun entry => decide (entry.left ≤ left)
  match source.aliases.lookup word, used.any fun entry => entry.name == word with
  | some text, false => do
      let endsInBlank := text.getLast? == some (.char ' ') || text.getLast? == some (.char '\t')
      set { source with
        rest := text ++ source.rest
        used := if text = [] then used else ⟨word, left, endsInBlank⟩ :: used }
      return true
  | _, _ => return false

/-- Takes the next token and checks it. -/
def nextTokenFuel (deeper : Deeper) : Nat → Checks → Reader Token
  | 0, _ => return .ending
  | fuel + 1, checks => do
      let before := (← get).rest.length
      match ← takeToken deeper with
      | .newline =>
          if checks.skipsLines then
            readDocuments deeper
            nextTokenFuel deeper fuel checks
          else return .newline
      | .word parts =>
          match parts.plain? with
          | none => return .word parts
          | some text =>
              match checks.tellsReserved, Reserved.ofText? text with
              | true, some found => return .reserved found
              | _, _ => do
                  let replaces := checks.replacesAliases || (← endsAliasWithBlank before)
                  let isReplaced ← if replaces then replaceAlias text else pure false
                  if isReplaced then
                    nextTokenFuel deeper fuel { checks with replacesAliases := true }
                  else return .word parts
      | token => return token

/-- Takes the next token and checks it. -/
def nextToken (deeper : Deeper) (checks : Checks) : Reader Token := do
  nextTokenFuel deeper (← Reader.bound) checks

/-- Takes the next token, which has to be a reserved word. -/
def expectReserved (deeper : Deeper) (checks : Checks) (expected : Reserved) : Reader Unit := do
  let token ← nextToken deeper checks
  match token with
  | .reserved found =>
      unless found = expected do
        Reader.failExpecting token (.reserved expected)
  | _ => Reader.failExpecting token (.reserved expected)

/-! ## Redirections -/

/-- Takes the next token, which has to be a word. -/
def expectWord (deeper : Deeper) (context : WordContext) : Reader Word := do
  match ← readToken deeper context with
  | .word parts => return parts
  | token => Reader.failUnexpected token

/-- A number for a new document. -/
def nextDocument : Reader Nat := do
  let source ← get
  set { source with nextDocument := source.nextDocument + 1 }
  return source.nextDocument

/-- Reads what stands after a redirection operator. -/
def readRedirect (deeper : Deeper) (stream : Nat) (operator : RedirectOperator) :
    Reader Redirect := do
  match operator with
  | .file opening => return .redirect stream (.file opening (← expectWord deeper .plain))
  | .descriptor => return .redirect stream (.descriptor (← expectWord deeper .plain))
  | .document dropsTabs =>
      let endWord ← expectWord deeper .endWord
      let number ← nextDocument
      let document : AwaitedDocument :=
        { number := number
          endLine := endWord.literalText
          dropsTabs := dropsTabs
          isLiteral := endWord.plain?.isNone && !endWord.isEmpty }
      modify fun source => { source with awaited := source.awaited ++ [document] }
      return .redirect stream (.document number)

/-- Reads the redirections after a command. -/
def readRedirects (deeper : Deeper) : Nat → Reader (List Redirect)
  | 0 => return []
  | fuel + 1 => do
      match ← nextToken deeper .onLine with
      | .redirect stream operator =>
          let redirect ← readRedirect deeper stream operator
          return redirect :: (← readRedirects deeper fuel)
      | token =>
          Reader.giveBack token
          return []

/-! ## Commands -/

/-- The parts of a simple command that were read so far. -/
structure SimpleParts where
  assignments : List Word := []
  words : List Word := []
  redirects : List Redirect := []

/-- The names that no function may have. -/
def specialNames : List Text :=
  ["break", ":", "continue", ".", "eval", "exec", "exit", "export", "local", "readonly", "return",
    "set", "shift", "times", "trap", "unset"].map Text.ofString

/-- Reads a function after its name and the opening parenthesis. -/
def readFunction (deeper : Deeper) (word : Word) : Reader Tree := do
  match ← nextToken deeper .plain with
  | .closing =>
      match word.plain? with
      | some name =>
          if isName name ∧ name ∉ specialNames then
            let token ← nextToken deeper .start
            Reader.giveBack token
            return .function name (← deeper.command)
          else Reader.fail (Text.ofString "Bad function name")
      | none => Reader.fail (Text.ofString "Bad function name")
  | token => Reader.failExpecting token .closing

/-- Reads a simple command or a function. Words in front of the first one that is no assignment are
assignments. -/
def readSimple (deeper : Deeper) (line : Nat) : Nat → SimpleParts → Reader Tree
  | 0, parts => return .simple line parts.assignments parts.words parts.redirects
  | fuel + 1, parts => do
      match ← nextToken deeper { replacesAliases := parts.words.isEmpty } with
      | .word word =>
          if parts.words.isEmpty && (assignment? word).isSome then
            readSimple deeper line fuel
              { parts with assignments := parts.assignments ++ [word] }
          else readSimple deeper line fuel { parts with words := parts.words ++ [word] }
      | .redirect stream operator =>
          let redirect ← readRedirect deeper stream operator
          readSimple deeper line fuel { parts with redirects := parts.redirects ++ [redirect] }
      | token =>
          match token, parts with
          | .opening, ⟨[], [name], []⟩ => readFunction deeper name
          | _, _ => do
              Reader.giveBack token
              return .simple line parts.assignments parts.words parts.redirects

/-- Reads the rest of a conditional after a word that starts a test. -/
def readConditional (deeper : Deeper) : Nat → Reader Tree
  | 0 => return .nothing
  | fuel + 1 => do
      let test ← deeper.list .block
      expectReserved deeper .onLine .thenPart
      let thenPart ← deeper.list .block
      match ← nextToken deeper .onLine with
      | .reserved .elseIf => return .conditional test thenPart (← readConditional deeper fuel)
      | .reserved .elsePart =>
          let elsePart ← deeper.list .block
          expectReserved deeper .onLine .conditionalEnd
          return .conditional test thenPart elsePart
      | .reserved .conditionalEnd => return .conditional test thenPart .nothing
      | token => Reader.failExpecting token (.reserved .conditionalEnd)

/-- Reads a loop after its first word. -/
def readLoop (deeper : Deeper) (endsOnSuccess : Bool) : Reader Tree := do
  let test ← deeper.list .block
  expectReserved deeper .onLine .bodyStart
  let body ← deeper.list .block
  expectReserved deeper .onLine .bodyEnd
  return .loop endsOnSuccess test body

/-- Reads words up to another token, which is returned with them. -/
def readWords (deeper : Deeper) : Nat → Reader (List Word × Token)
  | 0 => return ([], .ending)
  | fuel + 1 => do
      match ← nextToken deeper .plain with
      | .word word =>
          let (words, token) ← readWords deeper fuel
          return (word :: words, token)
      | token => return ([], token)

/-- Reads the words that a loop goes through, if they are given. -/
def readEachWords (deeper : Deeper) : Reader (List Word) := do
  match ← nextToken deeper .start with
  | .reserved .among =>
      let (words, token) ← readWords deeper (← Reader.bound)
      match token with
      | .newline => do
          readDocuments deeper
          return words
      | .separator => return words
      | other => Reader.failUnexpected other
  | .separator => return [Word.allParameters]
  | token =>
      Reader.giveBack token
      return [Word.allParameters]

/-- Reads a loop through words after its first word. -/
def readEach (deeper : Deeper) (line : Nat) : Reader Tree := do
  match ← nextToken deeper .plain with
  | .word word =>
      match word.plain? with
      | some name =>
          if isName name then
            let words ← readEachWords deeper
            expectReserved deeper .start .bodyStart
            let body ← deeper.list .block
            expectReserved deeper .onLine .bodyEnd
            return .each line name words body
          else Reader.fail (Text.ofString "Bad for loop variable")
      | none => Reader.fail (Text.ofString "Bad for loop variable")
  | token => Reader.fail (Text.ofString "Bad for loop variable") token.isNewline

/-- Reads the patterns of a case, up to the closing parenthesis. -/
def readPatterns (deeper : Deeper) : Nat → Token → Reader (List Word)
  | 0, _ => return []
  | fuel + 1, token => do
      let pattern : Word :=
        match token with
        | .word parts => parts
        | .reserved reserved => [.literal reserved.spelling false]
        | _ => []
      match ← nextToken deeper .plain with
      | .bar => return pattern :: (← readPatterns deeper fuel (← nextToken deeper .plain))
      | .closing => return [pattern]
      | other => Reader.failExpecting other .closing

/-- Reads the cases of a choice up to its end. -/
def readCases (deeper : Deeper) : Nat → Reader (List (List Word × Tree))
  | 0 => return []
  | fuel + 1 => do
      match ← nextToken deeper .reserved with
      | .reserved .caseEnd => return []
      | token =>
          let first ←
            match token with
            | .opening => nextToken deeper .plain
            | other => pure other
          let patterns ← readPatterns deeper (← Reader.bound) first
          let body ← deeper.list .optional
          match ← nextToken deeper .reserved with
          | .reserved .caseEnd => return [(patterns, body)]
          | .caseEnd => return (patterns, body) :: (← readCases deeper fuel)
          | other => Reader.failExpecting other .caseEnd

/-- Reads a choice after its first word. -/
def readChoice (deeper : Deeper) (line : Nat) : Reader Tree := do
  match ← nextToken deeper .plain with
  | .word subject =>
      expectReserved deeper .start .among
      return .choice line subject (← readCases deeper (← Reader.bound))
  | token => Reader.failExpecting token (.word [])

/-- Adds the redirections after a composed command to it. -/
def withRedirects (deeper : Deeper) (line : Nat) (tree : Tree) : Reader Tree := do
  let redirects ← readRedirects deeper (← Reader.bound)
  match tree, redirects with
  | .subshell start body _, found => return .subshell start body found
  | other, [] => return other
  | other, found => return .redirected line other found

/-- Reads a command. -/
def readCommand (deeper : Deeper) : Reader Tree := do
  let line := (← get).line
  let token ← nextToken deeper .plain
  match token with
  | .reserved .conditionalStart =>
      withRedirects deeper line (← readConditional deeper (← Reader.bound))
  | .reserved .whileStart => withRedirects deeper line (← readLoop deeper false)
  | .reserved .untilStart => withRedirects deeper line (← readLoop deeper true)
  | .reserved .eachStart => withRedirects deeper line (← readEach deeper line)
  | .reserved .caseStart => withRedirects deeper line (← readChoice deeper line)
  | .reserved .groupStart =>
      let body ← deeper.list .block
      expectReserved deeper .onLine .groupEnd
      withRedirects deeper line body
  | .opening =>
      let body ← deeper.list .block
      match ← nextToken deeper .onLine with
      | .closing => withRedirects deeper line (.subshell line body [])
      | other => Reader.failExpecting other .closing
  | .word _ =>
      Reader.giveBack token
      readSimple deeper (← get).line (← Reader.bound) {}
  | .redirect _ _ =>
      Reader.giveBack token
      readSimple deeper (← get).line (← Reader.bound) {}
  | other => Reader.failUnexpected other

/-- Reads the commands of a pipeline after its first one. -/
def readPiped (deeper : Deeper) : Nat → Reader (List Tree)
  | 0 => return []
  | fuel + 1 => do
      match ← nextToken deeper .plain with
      | .bar =>
          let token ← nextToken deeper .start
          Reader.giveBack token
          let command ← deeper.command
          return command :: (← readPiped deeper fuel)
      | token =>
          Reader.giveBack token
          return []

/-- Reads a pipeline, perhaps negated. -/
def readPipeline (deeper : Deeper) : Reader Tree := do
  let isNegated ←
    match ← nextToken deeper .plain with
    | .reserved .negation => do
        let token ← nextToken deeper .onLine
        Reader.giveBack token
        pure true
    | token => do
        Reader.giveBack token
        pure false
  let first ← deeper.command
  let others ← readPiped deeper (← Reader.bound)
  let pipeline := if others.isEmpty then first else .pipeline (first :: others)
  return if isNegated then .negation pipeline else pipeline

/-- Reads the pipelines that are joined to a first one. -/
def readJoined (deeper : Deeper) : Nat → Tree → Reader Tree
  | 0, first => return first
  | fuel + 1, first => do
      match ← nextToken deeper .plain with
      | .andIf =>
          let token ← nextToken deeper .start
          Reader.giveBack token
          readJoined deeper fuel (.conjunction first (← readPipeline deeper))
      | .orIf =>
          let token ← nextToken deeper .start
          Reader.giveBack token
          readJoined deeper fuel (.disjunction first (← readPipeline deeper))
      | token =>
          Reader.giveBack token
          return first

/-- The list may end in front of a token. -/
def ListKind.mayEnd (kind : ListKind) (isFirst : Bool) (token : Token) : Bool :=
  match kind with
  | .line => false
  | .block => !isFirst && token.endsList
  | .optional => token.endsList

/-- Reads a list of commands, after those that were read already. -/
def readList (deeper : Deeper) (kind : ListKind) : Nat → Bool → Tree → Reader Tree
  | 0, _, done => return done
  | fuel + 1, isFirst, done => do
      match ← nextToken deeper { Checks.onLine with skipsLines := kind != .line } with
      | .newline => do
          readDocuments deeper
          return done
      | .ending => do
          readDocuments deeper
          Reader.giveBack .ending
          return done
      | token =>
          Reader.giveBack token
          if kind.mayEnd isFirst token then return done
          else
            let line := (← get).line
            let command ← readJoined deeper (← Reader.bound) (← readPipeline deeper)
            match ← nextToken deeper .plain with
            | .ending => do
                readDocuments deeper
                Reader.giveBack .ending
                return done.followedBy command
            | .newline => do
                Reader.giveBack .newline
                readList deeper kind fuel false (done.followedBy command)
            | .background =>
                readList deeper kind fuel false (done.followedBy (.background line command))
            | .separator => readList deeper kind fuel false (done.followedBy command)
            | other =>
                if kind = .line then Reader.failUnexpected other
                else
                  Reader.giveBack other
                  return done.followedBy command

/-! ## Depths -/

/-- The readers of a depth. Deeper than any script goes, nothing is read. -/
def Deeper.ofDepth : Nat → Deeper
  | 0 =>
      { parts := fun _ => return []
        list := fun _ => return .nothing
        command := return .nothing }
  | depth + 1 =>
      { parts := fun context => do readParts (Deeper.ofDepth depth) (← Reader.bound) context
        list := fun kind => do readList (Deeper.ofDepth depth) kind (← Reader.bound) true .nothing
        command := fun source => readCommand (Deeper.ofDepth depth) source }

namespace Source

/-- Reads the next line of commands, and the source after it. -/
def next (source : Source) : Except Complaint (Tree × Source) :=
  let fresh := { source with returned := none }
  ((Deeper.ofDepth (2 * source.bound + 2)).list .line) fresh

/-- A text as a word between double quotes. What cannot be read is taken literally. -/
def quotedWord (text : Text) : Word :=
  match (Deeper.ofDepth (2 * text.length + 4)).parts .document { rest := text } with
  | .ok (word, _) => word
  | .error _ => quotedText text

/-- The source ended right after what was read last, without a line end between. -/
def endedAtOnce (source : Source) : Bool :=
  match source.returned with
  | some .ending => true
  | _ => false

end Source

end Script

end CommandChain

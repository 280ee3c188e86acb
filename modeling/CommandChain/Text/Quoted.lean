import CommandChain.Text.Symbol

/-!
# Quoted words

A list of words is printed on one line so that it can be read back. A word of safe characters
stands for itself; any other word stands between single quotes, and a single quote inside it leaves
them for a pair of double quotes. `Text.quotedWords` prints a list of words and
`Text.wordsOfQuoted?` reads it back.
-/

namespace CommandChain

namespace Symbol

/-- The punctuation that needs no quotes. -/
def safePunctuation : List Char :=
  ['_', '@', '%', '+', '=', ':', ',', '.', '/', '-']

/-- A symbol that needs no quotes: an ASCII letter or digit, or safe punctuation. -/
def isSafe : Symbol → Bool
  | .char character => character.isAlphanum || safePunctuation.contains character
  | .stray _ _ => false

end Symbol

namespace Text

/-- A symbol as it is written between single quotes: a single quote leaves the quotes, stands
between double quotes and comes back. -/
def quoteSymbol (symbol : Symbol) : Text :=
  if symbol = .char '\'' then ofString "'\"'\"'" else [symbol]

/-- A word, quoted if it has to be. -/
def quoted (word : Text) : Text :=
  if word = [] then ofString "''"
  else if word.all Symbol.isSafe then word
  else [.char '\''] ++ word.flatMap quoteSymbol ++ [.char '\'']

/-- Words on one line, each quoted if it has to be. -/
def quotedWords (words : List Text) : Text :=
  joinWith [.char ' '] (words.map quoted)

/-! ## Reading back -/

/-- Where a reader stands: outside quotes, inside quotes of one kind, or behind a backslash that
quotes the next symbol. -/
inductive QuoteState where
  | outside
  | single
  | double
  | escaped
  | escapedInDouble
  deriving DecidableEq

/-- The blanks that separate quoted words. -/
def isWordBreak (symbol : Symbol) : Bool :=
  symbol = .char ' ' || symbol = .char '\t' || symbol = .char '\n'

/-- The characters that start an expansion, also between double quotes. -/
def expansionMarks : List Char :=
  ['$', '\x60']

/-- The characters that mean something else than themselves where nothing quotes them: they end a
command, redirect it, start an expansion or a comment, or make a pattern. -/
def unquotedMarks : List Char :=
  expansionMarks ++ ['|', '&', ';', '<', '>', '(', ')', '*', '?', '[', '#', '~']

/-- The words of a line from some position on. `word` is the word under way, if any: quotes start a
word even when nothing stands between them. There is no reading of quotes that are not closed, nor of
a symbol that does not stand for itself. -/
def readQuoted : QuoteState → (word : Option Text) → Text → Option (List Text)
  | .outside, word, [] => some word.toList
  | _, _, [] => none
  | .outside, word, symbol :: rest =>
      if isWordBreak symbol then (readQuoted .outside none rest).map (word.toList ++ ·)
      else if symbol = .char '\'' then readQuoted .single (some (word.getD [])) rest
      else if symbol = .char '"' then readQuoted .double (some (word.getD [])) rest
      else if symbol = .char '\\' then readQuoted .escaped word rest
      else if isAmong unquotedMarks symbol then none
      else readQuoted .outside (some (word.getD [] ++ [symbol])) rest
  | .single, word, symbol :: rest =>
      if symbol = .char '\'' then readQuoted .outside word rest
      else readQuoted .single (some (word.getD [] ++ [symbol])) rest
  | .double, word, symbol :: rest =>
      if symbol = .char '"' then readQuoted .outside word rest
      else if symbol = .char '\\' then readQuoted .escapedInDouble word rest
      else if isAmong expansionMarks symbol then none
      else readQuoted .double (some (word.getD [] ++ [symbol])) rest
  | .escaped, word, symbol :: rest =>
      -- a backslash and the newline behind it are removed, and the line goes on
      if symbol = .char '\n' then readQuoted .outside word rest
      else readQuoted .outside (some (word.getD [] ++ [symbol])) rest
  | .escapedInDouble, word, symbol :: rest =>
      if symbol = .char '\n' then readQuoted .double word rest
      else if isAmong (expansionMarks ++ ['"', '\\']) symbol then
        readQuoted .double (some (word.getD [] ++ [symbol])) rest
      else
        -- between double quotes, a backslash before any other symbol stands for itself
        readQuoted .double (some (word.getD [] ++ [.char '\\', symbol])) rest

/-- The words of a line, as a shell splits it by its quoting rules: blanks outside quotes separate
words, single quotes keep all that stands between them, double quotes keep all but expansions, a
backslash quotes the next symbol, and adjacent pieces belong to one word. -/
def wordsOfQuoted? (line : Text) : Option (List Text) :=
  readQuoted .outside none line

/-- A word of safe characters is printed as it stands. -/
theorem quoted_of_safe {word : Text} (nonempty : word ≠ []) (safe : word.all Symbol.isSafe = true) :
    quoted word = word := by
  simp [quoted, nonempty, safe]

end Text

end CommandChain

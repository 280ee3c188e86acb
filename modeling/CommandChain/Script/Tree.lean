import CommandChain.Process.OpenFile

/-!
# Trees of scripts

A script of the command interpreter is read into trees. A word is made of parts, since quotes and
expansions may stand next to each other in it; a command is a simple command or is composed of other
commands.
-/

namespace CommandChain

namespace Script

/-- What an expansion puts in place of the value of a parameter. -/
inductive Substitute where
  /-- another value where there is none -/
  | useDefault
  /-- another value where there is none, which the parameter then has -/
  | assignDefault
  /-- a complaint where there is no value -/
  | complain
  /-- another value where there is a value -/
  | useAlternative
  deriving DecidableEq

/-- Which part of a value a pattern takes away. -/
structure Trim where
  fromEnd : Bool
  takesLongest : Bool
  deriving DecidableEq

mutual

/-- A part of a word. What is not quoted is split into fields where it is expanded, and its pattern
characters have their meaning. -/
inductive WordPart where
  | literal (text : Text) (isQuoted : Bool)
  /-- the place of quotes, so that an empty word between them is a field -/
  | quotation
  | parameter (name : Text) (use : ParameterUse) (isQuoted : Bool)
  | substitution (body : Tree) (isQuoted : Bool)
  | arithmetic (expression : List WordPart) (isQuoted : Bool)

/-- What an expansion does with the value of its parameter. -/
inductive ParameterUse where
  | value
  | length
  | substitute (kind : Substitute) (countsEmpty : Bool) (word : List WordPart)
  | trim (kind : Trim) (pattern : List WordPart)
  | malformed

/-- Where a redirection leads. -/
inductive RedirectTarget where
  | file (opening : Opening) (name : List WordPart)
  | descriptor (name : List WordPart)
  /-- a document in the script, by number -/
  | document (number : Nat)

/-- A redirection of a stream. -/
inductive Redirect where
  | redirect (stream : Nat) (target : RedirectTarget)

/-- A command. Line numbers are those that messages show. -/
inductive Tree where
  | nothing
  | simple (line : Nat) (assignments words : List (List WordPart)) (redirects : List Redirect)
  | pipeline (commands : List Tree)
  | background (line : Nat) (command : Tree)
  | conjunction (first second : Tree)
  | disjunction (first second : Tree)
  | sequence (first second : Tree)
  | negation (command : Tree)
  | subshell (line : Nat) (body : Tree) (redirects : List Redirect)
  | redirected (line : Nat) (body : Tree) (redirects : List Redirect)
  | conditional (test thenPart elsePart : Tree)
  | loop (endsOnSuccess : Bool) (test body : Tree)
  | each (line : Nat) (name : Text) (words : List (List WordPart)) (body : Tree)
  | choice (line : Nat) (subject : List WordPart)
      (cases : List (List (List WordPart) × Tree))
  | function (name : Text) (body : Tree)

end

instance : Inhabited Tree := ⟨.nothing⟩

/-- A word: its parts in order. -/
abbrev Word : Type :=
  List WordPart

namespace Tree

/-- One command after another, where there is another. -/
def followedBy : Tree → Tree → Tree
  | .nothing, second => second
  | first, second => .sequence first second

end Tree

namespace Word

/-- Puts a literal symbol in front. Neighbouring symbols that are quoted alike make one part. -/
def consSymbol (symbol : Symbol) (isQuoted : Bool) : Word → Word
  | .literal text true :: rest =>
      if isQuoted then .literal (symbol :: text) true :: rest
      else .literal [symbol] false :: .literal text true :: rest
  | .literal text false :: rest =>
      if isQuoted then .literal [symbol] true :: .literal text false :: rest
      else .literal (symbol :: text) false :: rest
  | parts => .literal [symbol] isQuoted :: parts

/-- The text of a word without quotes and expansions. -/
def plain? : Word → Option Text
  | [.literal text false] => some text
  | _ => none

/-- The literal text of a word, with its quotes taken away. -/
def literalText (word : Word) : Text :=
  word.flatMap fun
    | .literal text _ => text
    | _ => []

/-- The word that stands for all positional parameters. -/
def allParameters : Word :=
  [.parameter [.char '@'] .value true]

end Word

end Script

end CommandChain

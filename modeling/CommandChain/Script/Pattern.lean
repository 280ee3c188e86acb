import CommandChain.Script.Mark

/-!
# Patterns

A pattern matches whole texts. A question mark stands for one symbol, an asterisk for any symbols,
and brackets for one symbol among some; what is quoted stands for itself.
-/

namespace CommandChain

namespace Script

/-- A symbol as a number, to compare it with the ends of a range. -/
def symbolOrder : Symbol → Nat
  | .char character => character.toNat
  | .stray byte _ => byte.toNat

/-- Texts in the order of their symbols. -/
def sortedTexts (texts : List Text) : List Text :=
  texts.mergeSort fun first second =>
    !List.lex (second.map symbolOrder) (first.map symbolOrder) Nat.blt

/-- The named classes of ASCII characters. -/
def symbolClasses : List (String × (Char → Bool)) :=
  [("alpha", Char.isAlpha), ("digit", Char.isDigit), ("alnum", Char.isAlphanum),
    ("upper", Char.isUpper), ("lower", Char.isLower),
    ("space", fun character => [' ', '\t', '\n', '\x0b', '\x0c', '\r'].contains character),
    ("blank", fun character => [' ', '\t'].contains character),
    ("cntrl", fun character => decide (character.toNat < 32) || character.toNat == 127),
    ("print", fun character => decide (32 ≤ character.toNat) && decide (character.toNat < 127)),
    ("graph", fun character => decide (32 < character.toNat) && decide (character.toNat < 127)),
    ("punct", fun character =>
      decide (32 < character.toNat) && decide (character.toNat < 127) && !character.isAlphanum),
    ("xdigit", fun character =>
      character.isDigit || (decide ('a' ≤ character.toLower) && decide (character.toLower ≤ 'f')))]

/-- What brackets may hold. -/
inductive BracketMember where
  | range (first last : Symbol)
  | named (name : Text)

namespace BracketMember

/-- A symbol is covered by a member. -/
def covers (symbol : Symbol) : BracketMember → Bool
  | .range first last =>
      decide (symbolOrder first ≤ symbolOrder symbol) &&
        decide (symbolOrder symbol ≤ symbolOrder last)
  | .named name =>
      match symbol, symbolClasses.find? fun entry => Text.ofString entry.1 == name with
      | .char character, some entry => entry.2 character
      | _, _ => false

end BracketMember

/-- A piece of a pattern. -/
inductive PatternItem where
  | literal (symbol : Symbol)
  | one
  | many
  | among (isNegated : Bool) (members : List BracketMember)

namespace PatternItem

/-- A symbol with whether it is quoted. -/
abbrev Letter : Type :=
  Symbol × Bool

/-- A character that has its meaning, since it is not quoted. -/
def active (character : Char) : Letter :=
  (.char character, false)

/-- The letters of marks. A backslash that is not quoted quotes the letter after it. -/
def lettersOf : List Mark → List Letter
  | [] => []
  | .symbol symbol isQuoted isSplit :: rest =>
      if symbol = .char '\\' ∧ isQuoted = false then
        match rest with
        | .symbol next _ _ :: later => (next, true) :: lettersOf later
        | _ => [(symbol, true)]
      else
        have _isSplit := isSplit
        (symbol, isQuoted) :: lettersOf rest
  | _ :: rest => lettersOf rest

/-- The name of a class and what follows it, after the brackets and the colon that open it. -/
def takeClass? (letters : List Letter) : Option (Text × List Letter) :=
  match letters.span fun letter => letter != active ':' with
  | (name, _ :: (.char ']', false) :: rest) => some (name.map Prod.fst, rest)
  | _ => none

/-- Reads what stands between brackets. The flag says whether a closing bracket would be the first
member. -/
def takeMembers : Nat → (isFirst : Bool) → List Letter →
    Option (List BracketMember × List Letter)
  | 0, _, _ => none
  | _, _, [] => none
  | fuel + 1, isFirst, letter :: rest =>
      if letter = active ']' ∧ isFirst = false then some ([], rest)
      else
        let named :=
          if letter = active '[' ∧ rest.head? = some (active ':') then takeClass? rest.tail
          else none
        match named, rest with
        | some (name, later), _ =>
            (takeMembers fuel false later).map fun read => (.named name :: read.1, read.2)
        | none, (.char '-', false) :: last :: later =>
            if last = active ']' then
              (takeMembers fuel false rest).map fun read =>
                (.range letter.1 letter.1 :: read.1, read.2)
            else
              (takeMembers fuel false later).map fun read =>
                (.range letter.1 last.1 :: read.1, read.2)
        | none, _ =>
            (takeMembers fuel false rest).map fun read =>
              (.range letter.1 letter.1 :: read.1, read.2)

/-- Reads a bracket expression after its opening bracket. -/
def takeBrackets? (letters : List Letter) : Option (PatternItem × List Letter) :=
  match letters with
  | (.char '!', false) :: rest =>
      (takeMembers letters.length true rest).map fun read => (.among true read.1, read.2)
  | _ =>
      (takeMembers (letters.length + 1) true letters).map fun read => (.among false read.1, read.2)

/-- The pieces of a pattern. An opening bracket that is never closed stands for itself. -/
def ofLetters : Nat → List Letter → List PatternItem
  | 0, _ => []
  | _, [] => []
  | fuel + 1, letter :: rest =>
      if letter = active '?' then .one :: ofLetters fuel rest
      else if letter = active '*' then .many :: ofLetters fuel rest
      else if letter = active '[' then
        match takeBrackets? rest with
        | some (item, later) => item :: ofLetters fuel later
        | none => .literal letter.1 :: ofLetters fuel rest
      else .literal letter.1 :: ofLetters fuel rest

/-- A piece other than an asterisk matches a symbol. -/
def accepts (symbol : Symbol) : PatternItem → Bool
  | .literal expected => symbol == expected
  | .one => true
  | .many => false
  | .among isNegated members => members.any (BracketMember.covers symbol) != isNegated

end PatternItem

/-- A pattern: its pieces in order. -/
abbrev Pattern : Type :=
  List PatternItem

namespace Pattern

/-- The pattern that an expanded word writes. -/
def ofMarks (marks : List Mark) : Pattern :=
  let letters := PatternItem.lettersOf marks
  PatternItem.ofLetters (letters.length + 1) letters

/-- The tails of a text, from the whole text to the empty one. -/
def tailsOf : Text → List Text
  | [] => [[]]
  | symbol :: rest => (symbol :: rest) :: tailsOf rest

/-- A pattern matches a text. -/
def accepts : Pattern → Text → Bool
  | [], text => text.isEmpty
  | .many :: items, text => (tailsOf text).any (accepts items)
  | item :: items, symbol :: rest => item.accepts symbol && accepts items rest
  | _ :: _, [] => false

/-- The asterisk matches every text. -/
theorem accepts_many (text : Text) : accepts [.many] text = true := by
  induction text with
  | nil => rfl
  | cons symbol rest inductionHypothesis =>
      simp only [accepts, tailsOf, List.any_cons, Bool.or_eq_true] at *
      exact Or.inr inductionHypothesis

/-- The part of a text that a pattern is matched against, which ends at a zero byte. -/
def matched (text : Text) : Text :=
  text.takeWhile (· != .char (Char.ofNat 0))

/-- A text without the part at one end that a pattern matches, if there is one. The search for the
longest part at the end and for the shortest one at the start does not go past a zero byte. -/
def cut (pattern : Pattern) (kind : Trim) (text : Text) : Text :=
  let upwards := List.range ((matched text).length + 1)
  let downwards := (List.range (text.length + 1)).reverse
  if kind.fromEnd then
    let starts := if kind.takesLongest then upwards else downwards
    match starts.find? fun start => accepts pattern (matched (text.drop start)) with
    | some start => text.take start
    | none => text
  else
    let lengths := if kind.takesLongest then downwards else upwards
    match lengths.find? fun length => accepts pattern (matched (text.take length)) with
    | some length => text.drop length
    | none => text

end Pattern

end Script

end CommandChain

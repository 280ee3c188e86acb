import CommandChain.Process.OpenFile
import CommandChain.Text.Integral

/-!
# Conditions

A condition is a list of words: operands with operators between them and in front of them. Where a
word could be either, the number of words and the neighbours decide.
-/

namespace CommandChain

namespace Script

namespace Condition

/-! ## Operators -/

/-- The operators on one operand. -/
def unaryOperators : List String :=
  ["-b", "-c", "-d", "-e", "-f", "-g", "-G", "-h", "-k", "-L", "-n", "-O", "-p", "-r", "-s", "-S",
    "-t", "-u", "-w", "-x", "-z"]

/-- The operators between two operands. -/
def binaryOperators : List String :=
  ["=", "!=", "<", ">", "-eq", "-ne", "-gt", "-ge", "-lt", "-le", "-nt", "-ot", "-ef"]

/-- What a word may mean. -/
inductive Kind where
  | ending
  | operand
  | unary (name : String)
  | binary (name : String)
  | negation
  | conjunction
  | disjunction
  | opening
  | closing
  deriving DecidableEq

/-- The operator that a word spells. -/
def operator? (word : Text) : Option Kind :=
  let named := fun (name : String) => word == Text.ofString name
  if word = [.char '!'] then some .negation
  else if word = [.char '('] then some .opening
  else if word = [.char ')'] then some .closing
  else if named "-a" then some .conjunction
  else if named "-o" then some .disjunction
  else
    ((unaryOperators.find? named).map .unary).or ((binaryOperators.find? named).map .binary)

/-- The word spells an operator between two operands. -/
def isBinary (word : Text) : Bool :=
  match operator? word with
  | some (.binary _) => true
  | _ => false

/-- What the first of some words means. An operator on one operand is an operand itself if no other
word follows, or if an operator between operands follows with its own operand. -/
def kindOf : List Text → Kind
  | [] => .ending
  | word :: rest =>
      match operator? word, rest with
      | none, _ => .operand
      | some (.unary _), [] => .operand
      | some (.unary name), [_] => .unary name
      | some (.unary name), next :: _ :: _ => if isBinary next then .operand else .unary name
      | some .opening, [] => .operand
      | some kind, _ => kind

/-! ## Operands -/

/-- The integer that an operand writes. -/
def integerOf (word : Text) : Except Text Int :=
  let complaint := Text.ofString "Illegal number: " ++ word
  let signed := Text.takeSign (word.dropWhile Symbol.isAsciiBlank)
  match Text.takeNumber? 10 signed.2 with
  | some (value, rest) =>
      let integer := if signed.1 then -Int.ofNat value else Int.ofNat value
      if rest.all Symbol.isAsciiBlank ∧ -Int.pow 2 63 ≤ integer ∧ integer < Int.pow 2 63 then
        .ok integer
      else .error complaint
  | none => .error complaint

/-- A symbol as a number, to put texts in order. -/
def order : Symbol → Nat
  | .char character => character.toNat
  | .stray byte _ => byte.toNat

/-- One text comes before another one. -/
def precedes : Text → Text → Bool
  | [], [] => false
  | [], _ :: _ => true
  | _ :: _, [] => false
  | first :: rest, second :: others =>
      decide (order first < order second) || (first == second && precedes rest others)

/-- What is known of the files that paths lead to, where a link at the end is followed or not. -/
abbrev StatusOf : Type :=
  (followsLast : Bool) → Text → Option Files.FileStatus

/-- What an operator on one operand says of a file. Every right is there, other than that to start
what is no program. -/
def holdsOfFile (name : String) (status : Files.FileStatus) : Bool :=
  match name with
  | "-e" | "-r" | "-w" | "-O" | "-G" => true
  | "-f" => status.kind == .regular
  | "-d" => status.kind == .directory
  | "-c" => status.kind == .device
  | "-p" => status.kind == .pipe
  | "-h" | "-L" => status.kind == .link
  | "-s" => !status.isEmpty
  | "-x" => status.isExecutable
  | _ => false

/-- The value of an operator on one operand. -/
def unaryValue (statusOf : StatusOf) (name : String) (operand : Text) : Except Text Bool :=
  match name with
  | "-z" => .ok operand.isEmpty
  | "-n" => .ok !operand.isEmpty
  | "-t" => (integerOf operand).map fun _ => false
  | _ =>
      let followsLast := name != "-h" && name != "-L"
      .ok ((statusOf followsLast operand).any (holdsOfFile name))

/-- The value of an operator between two operands. -/
def binaryValue (statusOf : StatusOf) (name : String) (left right : Text) :
    Except Text Bool :=
  let compare := fun (test : Int → Int → Bool) => do
    let first ← integerOf left
    let second ← integerOf right
    .ok (test first second)
  match name with
  | "=" => .ok (left == right)
  | "!=" => .ok (left != right)
  | "<" => .ok (precedes left right)
  | ">" => .ok (precedes right left)
  | "-eq" => compare fun first second => first == second
  | "-ne" => compare fun first second => first != second
  | "-gt" => compare fun first second => decide (second < first)
  | "-ge" => compare fun first second => decide (second ≤ first)
  | "-lt" => compare fun first second => decide (first < second)
  | "-le" => compare fun first second => decide (first ≤ second)
  | "-ef" =>
      match statusOf true left, statusOf true right with
      | some first, some second => .ok (first.identity == second.identity)
      | _, _ => .ok false
  | _ => .ok false

/-! ## Reading -/

/-- A reader of words. Between two steps, the first of the words that are left is the last one that
was used. -/
abbrev Reader : Type :=
  StateT (List Text) (Except Text) Bool

/-- Fails at a word. -/
def fail (word message : Text) : Reader := fun _ =>
  .error (if word = [] then message else word ++ Text.ofString ": " ++ message)

/-- An operand with the operator in front of it or the operator and the operand after it. -/
def operandValue (statusOf : StatusOf) : Reader := do
  match kindOf (← get), ← get with
  | .unary name, _ :: operand :: rest => do
      set (operand :: rest)
      unaryValue statusOf name operand
  | .unary name, _ => fail (Text.ofString name) (Text.ofString "argument expected")
  | _, word :: rest =>
      match kindOf rest, rest with
      | .binary name, _ :: second :: later => do
          set (second :: later)
          binaryValue statusOf name word second
      | .binary name, _ => fail (Text.ofString name) (Text.ofString "argument expected")
      | _, _ => return !word.isEmpty
  | _, [] => return false

/-- A condition in parentheses, a negated one or an operand. The flag says that the first word is
known to be an operand. -/
def primaryValue (statusOf : StatusOf) (inner : Reader) : Nat → (isOperand : Bool) → Reader
  | 0, _ => return false
  | fuel + 1, isOperand => do
      let kind := kindOf (← get)
      match isOperand, kind with
      | true, _ => operandValue statusOf
      | false, .ending => return false
      | false, .negation => do
          modify List.tail
          return !(← primaryValue statusOf inner fuel false)
      | false, .opening => do
          modify List.tail
          if kindOf (← get) = .closing then return false
          else
            let value ← inner
            modify List.tail
            if kindOf (← get) = .closing then return value
            else fail [] (Text.ofString "closing paren expected")
      | false, _ => operandValue statusOf

/-- Conditions that have to hold together. -/
def conjunctionValue (statusOf : StatusOf) (inner : Reader) : Nat → Bool → Reader
  | 0, _ => return false
  | fuel + 1, isOperand => do
      let first ← primaryValue statusOf inner (fuel + 1) isOperand
      if kindOf (← get).tail = .conjunction then
        modify fun words => words.drop 2
        let second ← conjunctionValue statusOf inner fuel false
        return first && second
      else return first

/-- Conditions of which one has to hold. -/
def disjunctionValue (statusOf : StatusOf) (inner : Reader) : Nat → Bool → Reader
  | 0, _ => return false
  | fuel + 1, isOperand => do
      let first ← conjunctionValue statusOf inner (fuel + 1) isOperand
      if kindOf (← get).tail = .disjunction then
        modify fun words => words.drop 2
        let second ← disjunctionValue statusOf inner fuel false
        return first || second
      else return first

/-- The value of a condition in which parentheses are nested up to a depth. -/
def nestedValue (statusOf : StatusOf) : Nat → (isOperand : Bool) → Reader
  | 0, _ => return false
  | depth + 1, isOperand => do
      disjunctionValue statusOf (nestedValue statusOf depth false) ((← get).length + 1) isOperand

/-- The value of the words of a condition. -/
def valueOf (statusOf : StatusOf) (isOperand : Bool) (words : List Text) : Except Text Bool :=
  match nestedValue statusOf (words.length + 1) isOperand words with
  | .error complaint => .error complaint
  | .ok (value, word :: _ :: _) => do
      have _value := value
      .error
        ((if word = [] then [] else word ++ Text.ofString ": ") ++
          Text.ofString "unexpected operator")
  | .ok (value, _) => .ok value

/-- The value of a condition with three or four words, which may be in parentheses or negated as a
whole. -/
def evaluate (statusOf : StatusOf) : List Text → Except Text Bool
  | [] => .ok false
  | [first, second, third] =>
      if isBinary second then valueOf statusOf true [first, second, third]
      else if first = [.char '('] ∧ third = [.char ')'] then valueOf statusOf false [second]
      else if first = [.char '!'] then (valueOf statusOf false [second, third]).map not
      else valueOf statusOf false [first, second, third]
  | [first, second, third, fourth] =>
      if first = [.char '('] ∧ fourth = [.char ')'] then valueOf statusOf false [second, third]
      else if first = [.char '!'] then (evaluate statusOf [second, third, fourth]).map not
      else valueOf statusOf false [first, second, third, fourth]
  | words => valueOf statusOf false words

end Condition

end Script

end CommandChain

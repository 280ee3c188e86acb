import CommandChain.Script.Source
import CommandChain.Text.Integral

/-!
# Arithmetic expansions

An expression is made of integers of 64 bits, variables and operators, with assignments among them.
An operand that decides the result by itself keeps the other one from being evaluated.
-/

namespace CommandChain

namespace Script

namespace Arithmetic

/-! ## Tokens -/

/-- A token of an expression. -/
inductive Item where
  | number (value : Int)
  | named (name : Text)
  | operator (name : String)
  | unknown
  deriving DecidableEq

/-- The operators, longer ones before those that they start with. -/
def operators : List String :=
  ["<<=", ">>=", "<<", ">>", "<=", ">=", "==", "!=", "&&", "||", "&=", "|=", "^=", "*=", "/=",
    "%=", "+=", "-=", "<", ">", "=", "!", "&", "|", "^", "*", "/", "%", "+", "-", "~", "(", ")",
    "?", ":"]

/-- The blanks between tokens. -/
def blanks : Text :=
  [.char ' ', .char '\t', .char '\n']

/-- The tokens of an expression. What cannot start a token is the last one. -/
def itemsOf : Nat → Text → List Item
  | 0, _ => []
  | _, [] => []
  | fuel + 1, symbol :: rest =>
      let text := symbol :: rest
      if blanks.contains symbol then itemsOf fuel rest
      else if isDigit symbol then
        match Text.takeMagnitude? text with
        | some (value, later) => .number (min value (Nat.pow 2 63 - 1)) :: itemsOf fuel later
        | none => [.unknown]
      else if startsName symbol then
        .named (text.takeWhile continuesName) ::
          itemsOf fuel (text.dropWhile continuesName)
      else
        match operators.find? fun operator => (Text.ofString operator).isPrefixOf text with
        | some operator => .operator operator :: itemsOf fuel (text.drop operator.length)
        | none => [.unknown]

/-! ## Values -/

/-- Why an expression has no value. -/
inductive Failure where
  | expectingPrimary
  | expectingEnd
  | expectingColon
  | expectingClosing
  | divisionByZero
  /-- a variable holds no integer -/
  | illegalNumber (value : Text)
  deriving DecidableEq

namespace Failure

/-- The complaint about an expression. -/
def message (expression : Text) : Failure → Text
  | .illegalNumber value => Text.ofString "Illegal number: " ++ value
  | failure =>
      let reason :=
        match failure with
        | .expectingPrimary => "expecting primary"
        | .expectingEnd => "expecting EOF"
        | .expectingColon => "expecting ':'"
        | .expectingClosing => "expecting ')'"
        | _ => "division by zero"
      Text.ofString "arithmetic expression: " ++ Text.ofString reason ++ Text.ofString ": \"" ++
        expression ++ [.char '"']

end Failure

/-- The integer of 64 bits that a number wraps to. -/
def wrapped (number : Int) : Int :=
  number.bmod (Nat.pow 2 64)

/-- A truth value as an integer. -/
def truth (holds : Bool) : Int :=
  if holds then 1 else 0

/-- The bits of an integer as a word of 64 bits. -/
def word (number : Int) : BitVec 64 :=
  BitVec.ofInt 64 number

/-- The number of places of a shift: only six bits of it count. -/
def shiftCount (number : Int) : Nat :=
  (number % 64).toNat

/-- The precedence of a binary operator; operators of a smaller one bind more tightly. -/
def precedence? (operator : String) : Option Nat :=
  [("*", 1), ("/", 1), ("%", 1), ("+", 2), ("-", 2), ("<<", 3), (">>", 3), ("<", 4), ("<=", 4),
    (">", 4), (">=", 4), ("==", 5), ("!=", 5), ("&", 6), ("^", 7), ("|", 8)].lookup operator

/-- The value of a binary operation. -/
def operate (operator : String) (left right : Int) : Except Failure Int :=
  match operator with
  | "*" => .ok (wrapped (left * right))
  | "/" => if right = 0 then .error .divisionByZero else .ok (wrapped (left.tdiv right))
  | "%" => if right = 0 then .error .divisionByZero else .ok (wrapped (left.tmod right))
  | "+" => .ok (wrapped (left + right))
  | "-" => .ok (wrapped (left - right))
  | "<<" => .ok (word left <<< shiftCount right).toInt
  | ">>" => .ok ((word left).sshiftRight (shiftCount right)).toInt
  | "<" => .ok (truth (decide (left < right)))
  | "<=" => .ok (truth (decide (left ≤ right)))
  | ">" => .ok (truth (decide (right < left)))
  | ">=" => .ok (truth (decide (right ≤ left)))
  | "==" => .ok (truth (left == right))
  | "!=" => .ok (truth (left != right))
  | "&" => .ok (word left &&& word right).toInt
  | "^" => .ok (word left ^^^ word right).toInt
  | _ => .ok (word left ||| word right).toInt

/-- The operation of an assignment operator, which is empty for a plain assignment. -/
def assignedOperation? (operator : String) : Option String :=
  [("=", ""), ("<<=", "<<"), (">>=", ">>"), ("&=", "&"), ("|=", "|"), ("^=", "^"), ("*=", "*"),
    ("/=", "/"), ("%=", "%"), ("+=", "+"), ("-=", "-")].lookup operator

/-! ## Evaluation -/

/-- What evaluation knows: the tokens that are left, the values of variables, and those that the
expression assigned, the last one first. -/
structure State where
  items : List Item
  value? : Text → Option Text
  assigned : List (Text × Int) := []

/-- An evaluation of a part of an expression. -/
abbrev Evaluation : Type :=
  StateT State (Except Failure) Int

/-- The integer that a variable holds. One that is not set counts as zero. -/
def readVariable (state : State) (name : Text) : Except Failure Int :=
  match state.assigned.lookup name with
  | some value => .ok value
  | none =>
      let text := (state.value? name).getD []
      match text.takeInteger? with
      | none =>
          if text.all Symbol.isAsciiBlank then .ok 0 else .error (.illegalNumber text)
      | some (value, rest) =>
          if rest.all Symbol.isAsciiBlank ∧ -Int.pow 2 63 ≤ value ∧ value < Int.pow 2 63 then
            .ok value
          else .error (.illegalNumber text)

/-- The next token, which is not taken. -/
def peek : StateT State (Except Failure) (Option Item) := do
  return (← get).items.head?

/-- Takes the next token. -/
def skip : StateT State (Except Failure) Unit :=
  modify fun state => { state with items := state.items.tail }

/-- The evaluations of the depth below. -/
structure Deeper where
  assignment : (isSkipped : Bool) → Evaluation
  conditional : (isSkipped : Bool) → Evaluation
  disjunction : (isSkipped : Bool) → Evaluation
  conjunction : (isSkipped : Bool) → Evaluation
  primary : (isSkipped : Bool) → Evaluation

/-- A number, a variable, an expression in parentheses, or a sign and what it belongs to. -/
def primary (deeper : Deeper) (isSkipped : Bool) : Evaluation := do
  let item ← peek
  skip
  match item with
  | some (.number value) => return value
  | some (.named name) =>
      if isSkipped then return 0
      else
        match readVariable (← get) name with
        | .ok value => return value
        | .error failure => throw failure
  | some (.operator "(") => do
      let value ← deeper.assignment isSkipped
      if (← peek) = some (.operator ")") then
        skip
        return value
      else throw .expectingClosing
  | some (.operator "+") => deeper.primary isSkipped
  | some (.operator "-") => return wrapped (-(← deeper.primary isSkipped))
  | some (.operator "!") => return truth ((← deeper.primary isSkipped) == 0)
  | some (.operator "~") => return -(← deeper.primary isSkipped) - 1
  | _ => throw .expectingPrimary

/-- Goes on with binary operators that bind at least as tightly as the given precedence. -/
def binaryFrom (deeper : Deeper) (isSkipped : Bool) : Nat → (loosest : Nat) → Int → Evaluation
  | 0, _, left => return left
  | fuel + 1, loosest, left => do
      match ← peek with
      | some (.operator operator) =>
          match precedence? operator with
          | none => return left
          | some level =>
              if loosest < level then return left
              else
                skip
                let first ← deeper.primary isSkipped
                let right ← binaryFrom deeper isSkipped fuel (level - 1) first
                if isSkipped then binaryFrom deeper isSkipped fuel loosest right
                else
                  match operate operator left right with
                  | .ok value => binaryFrom deeper isSkipped fuel loosest value
                  | .error failure => throw failure
      | _ => return left

/-- Operands with binary operators between them. -/
def binary (deeper : Deeper) (isSkipped : Bool) : Evaluation := do
  let first ← primary deeper isSkipped
  binaryFrom deeper isSkipped ((← get).items.length + 1) 8 first

/-- Operands that have to be true together. -/
def conjunction (deeper : Deeper) (isSkipped : Bool) : Evaluation := do
  let left ← binary deeper isSkipped
  if (← peek) = some (.operator "&&") then
    skip
    let right ← deeper.conjunction (isSkipped || left == 0)
    return truth (left != 0 && right != 0)
  else return left

/-- Operands of which one has to be true. -/
def disjunction (deeper : Deeper) (isSkipped : Bool) : Evaluation := do
  let left ← conjunction deeper isSkipped
  if (← peek) = some (.operator "||") then
    skip
    let right ← deeper.disjunction (isSkipped || left != 0)
    return truth (left != 0 || right != 0)
  else return left

/-- A test with the two operands between which it chooses. -/
def conditional (deeper : Deeper) (isSkipped : Bool) : Evaluation := do
  let test ← disjunction deeper isSkipped
  if (← peek) = some (.operator "?") then
    skip
    let first ← deeper.assignment (isSkipped || test == 0)
    if (← peek) = some (.operator ":") then
      skip
      let second ← deeper.conditional (isSkipped || test != 0)
      return if test != 0 then first else second
    else throw .expectingColon
  else return test

/-- Assigns to a variable, with an operation on its value if one is given. -/
def assign (isSkipped : Bool) (name : Text) (operation : String) (right : Int) : Evaluation := do
  if isSkipped then return right
  else
    let state ← get
    let result : Except Failure Int :=
      if operation = "" then .ok right
      else do operate operation (← readVariable state name) right
    match result with
    | .error failure => throw failure
    | .ok value =>
        set { state with assigned := (name, value) :: state.assigned }
        return value

/-- An assignment, or an expression without one. -/
def assignment (deeper : Deeper) (isSkipped : Bool) : Evaluation := do
  match (← get).items with
  | .named name :: .operator operator :: _ =>
      match assignedOperation? operator with
      | some operation => do
          skip
          skip
          assign isSkipped name operation (← deeper.assignment isSkipped)
      | none => conditional deeper isSkipped
  | _ => conditional deeper isSkipped

/-- The evaluations of a depth. -/
def Deeper.ofDepth : Nat → Deeper
  | 0 =>
      { assignment := fun _ => throw .expectingPrimary
        conditional := fun _ => throw .expectingPrimary
        disjunction := fun _ => throw .expectingPrimary
        conjunction := fun _ => throw .expectingPrimary
        primary := fun _ => throw .expectingPrimary }
  | depth + 1 =>
      { assignment := fun isSkipped => Arithmetic.assignment (Deeper.ofDepth depth) isSkipped
        conditional := fun isSkipped => Arithmetic.conditional (Deeper.ofDepth depth) isSkipped
        disjunction := fun isSkipped => Arithmetic.disjunction (Deeper.ofDepth depth) isSkipped
        conjunction := fun isSkipped => Arithmetic.conjunction (Deeper.ofDepth depth) isSkipped
        primary := fun isSkipped => Arithmetic.primary (Deeper.ofDepth depth) isSkipped }

/-- The value of an expression, with the variables that it assigned in order. -/
def evaluate (value? : Text → Option Text) (expression : Text) :
    Except Failure (Int × List (Text × Int)) := do
  let items := itemsOf (expression.length + 1) expression
  let (value, state) ←
    assignment (Deeper.ofDepth (2 * items.length + 2)) false { items := items, value? := value? }
  if state.items = [] then .ok (value, state.assigned.reverse) else .error .expectingEnd

end Arithmetic

end Script

end CommandChain

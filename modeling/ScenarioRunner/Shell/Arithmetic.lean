import ScenarioRunner.Shell.Number
import ScenarioRunner.Shell.Syntax

/-!
# Arithmetic

Integers of 64 bits, variables and operators. An operand that does not count, behind an operator
whose outcome is already known, is read but not evaluated.
-/

set_option autoImplicit false

namespace ScenarioRunner.Shell.Arithmetic

/-- A word of an expression. -/
inductive Token where
  | number (value : Int64)
  | name (text : String)
  | operator (text : String)
  | bad
  deriving DecidableEq

/-- The operators, longer ones before shorter ones with the same start. -/
def operators : List String :=
  ["<<=", ">>=", "<<", ">>", "<=", ">=", "==", "!=", "&&", "||", "+=", "-=", "*=", "/=", "%=", "&=",
    "^=", "|=", "(", ")", "*", "/", "%", "+", "-", "<", ">", "&", "^", "|", "!", "~", "?", ":", "="]

/-- The words of an expression. -/
def tokens : Nat → List Char → List Token
  | 0, _ => []
  | _ + 1, [] => []
  | fuel + 1, c :: rest =>
    if c = ' ' ∨ c = '\t' ∨ c = '\n' then tokens fuel rest
    else if c.isDigit then
      match leadingNatural? none (c :: rest) with
      | some (n, behind) => .number (nearestInteger n) :: tokens fuel behind
      | none => [.bad]
    else if isInitial c then
      let name := (c :: rest).takeWhile isNameChar
      .name (String.ofList name) :: tokens fuel ((c :: rest).drop name.length)
    else match operators.find? fun o => o.toList.isPrefixOf (c :: rest) with
      | some o => .operator o :: tokens fuel ((c :: rest).drop o.length)
      | none => [.bad]

/-- Why an expression has no value. -/
inductive Fault where
  | expression (reason : String)
  /-- The value of a variable is no number. -/
  | illegalNumber (text : String)
  | unset (name : String)

/-- An expression as far as it is evaluated. -/
structure State where
  rest : List Token
  /-- The variables with a new value, latest first. -/
  assigned : List (String × Int64) := []

/-- A step in evaluating an expression. -/
abbrev Eval := StateT State (Except Fault)

/-- Fails for a reason. -/
def refuse {α : Type} (reason : String) : Eval α := fun _ => .error (.expression reason)

/-- The next word. -/
def peek : Eval (Option Token) := fun s => .ok (s.rest.head?, s)

/-- Takes the next word. -/
def skip : Eval Unit := fun s => .ok ((), { s with rest := s.rest.tail })

/-- Takes one of some operators. -/
def takes (texts : List String) : Eval (Option String) := do
  match ← peek with
  | some (.operator text) =>
    if texts.contains text then
      skip
      return some text
    else return none
  | _ => return none

/-- The value of a variable, given its text outside the expression. -/
def lookup (outside : String → Except Fault (Option String)) (name : String) : Eval Int64 := fun s =>
  match s.assigned.lookup name with
  | some n => .ok (n, s)
  | none =>
    match outside name with
    | .error fault => .error fault
    | .ok none => .ok (0, s)
    | .ok (some text) =>
      if text.isEmpty then .ok (0, s)
      else match leadingInteger? none text.toList with
        | some (n, behind) =>
          if behind.all isSpaceChar && fitsInteger n then .ok (Int64.ofInt n, s)
          else .error (.illegalNumber text)
        | none => if text.toList.all isSpaceChar then .ok (0, s) else .error (.illegalNumber text)

/-- The number of a truth value. -/
def truth (b : Bool) : Int64 := if b then 1 else 0

/-- Applies an operator. -/
def apply (operator : String) (a b : Int64) : Eval Int64 :=
  match operator with
  | "*" => return a * b
  | "/" => if b = 0 then refuse "division by zero" else return a / b
  | "%" => if b = 0 then refuse "division by zero" else return a % b
  | "+" => return a + b
  | "-" => return a - b
  | "<<" => return a <<< b
  | ">>" => return a >>> b
  | "<" => return truth (a < b)
  | ">" => return truth (b < a)
  | "<=" => return truth (a ≤ b)
  | ">=" => return truth (b ≤ a)
  | "==" => return truth (a = b)
  | "!=" => return truth (a ≠ b)
  | "&" => return a &&& b
  | "^" => return a ^^^ b
  | "|" => return a ||| b
  | _ => return b

/-- The operators between two operands, those that bind closest first. -/
def levels : List (List String) :=
  [["*", "/", "%"], ["+", "-"], ["<<", ">>"], ["<", ">", "<=", ">="], ["==", "!="], ["&"], ["^"],
    ["|"]]

/-- The operators that assign. -/
def assigning : List String :=
  ["=", "*=", "/=", "%=", "+=", "-=", "<<=", ">>=", "&=", "^=", "|="]

mutual

/-- A number, a variable, a sign before an operand, or an expression in brackets. -/
def primary (outside : String → Except Fault (Option String)) (counts : Bool) : Nat → Eval Int64
  | 0 => refuse "expecting primary"
  | fuel + 1 => do
    match ← peek with
    | some (.number n) =>
      skip
      return n
    | some (.name text) =>
      skip
      if counts then lookup outside text else return 0
    | some (.operator "(") =>
      skip
      let n ← assignment outside counts fuel
      if (← takes [")"]).isSome then return n else refuse "expecting ')'"
    | some (.operator "+") =>
      skip
      primary outside counts fuel
    | some (.operator "-") =>
      skip
      return -(← primary outside counts fuel)
    | some (.operator "!") =>
      skip
      return truth ((← primary outside counts fuel) = 0)
    | some (.operator "~") =>
      skip
      return ~~~(← primary outside counts fuel)
    | _ => refuse "expecting primary"

/-- Operands between operators of some levels, those that bind least first. -/
def binary (outside : String → Except Fault (Option String)) (counts : Bool)
    (levels : List (List String)) : Nat → Eval Int64
  | 0 => refuse "expecting primary"
  | fuel + 1 => do
    match levels with
    | [] => primary outside counts fuel
    | level :: closer =>
      let first ← binary outside counts closer fuel
      binaryFrom outside counts level closer first fuel

/-- The operators of a level behind an operand. -/
def binaryFrom (outside : String → Except Fault (Option String)) (counts : Bool)
    (level : List String) (closer : List (List String)) (first : Int64) : Nat → Eval Int64
  | 0 => refuse "expecting primary"
  | fuel + 1 => do
    match ← takes level with
    | none => return first
    | some operator =>
      let second ← binary outside counts closer fuel
      let n ← if counts then apply operator first second else pure second
      binaryFrom outside counts level closer n fuel

/-- A conjunction. -/
def conjunction (outside : String → Except Fault (Option String)) (counts : Bool) : Nat → Eval Int64
  | 0 => refuse "expecting primary"
  | fuel + 1 => do
    let first ← binary outside counts levels.reverse fuel
    if (← takes ["&&"]).isNone then return first
    else
      let second ← conjunction outside (counts && first != 0) fuel
      return truth (first != 0 && second != 0)

/-- A disjunction. -/
def disjunction (outside : String → Except Fault (Option String)) (counts : Bool) : Nat → Eval Int64
  | 0 => refuse "expecting primary"
  | fuel + 1 => do
    let first ← conjunction outside counts fuel
    if (← takes ["||"]).isNone then return first
    else
      let second ← disjunction outside (counts && first == 0) fuel
      return truth (first != 0 || second != 0)

/-- A choice between two operands. -/
def choice (outside : String → Except Fault (Option String)) (counts : Bool) : Nat → Eval Int64
  | 0 => refuse "expecting primary"
  | fuel + 1 => do
    let first ← disjunction outside counts fuel
    if (← takes ["?"]).isNone then return first
    else
      let second ← assignment outside (counts && first != 0) fuel
      if (← takes [":"]).isNone then refuse "expecting ':'"
      else
        let third ← choice outside (counts && first == 0) fuel
        return if first != 0 then second else third

/-- An assignment, or an operand. -/
def assignment (outside : String → Except Fault (Option String)) (counts : Bool) : Nat → Eval Int64
  | 0 => refuse "expecting primary"
  | fuel + 1 => do
    match (← get).rest with
    | .name text :: .operator operator :: rest =>
      if assigning.contains operator then
        modify fun s => { s with rest }
        let second ← assignment outside counts fuel
        if !counts then return second
        else
          let n ←
            if operator = "=" then pure second
            else do
              let first ← lookup outside text
              apply (String.ofList operator.toList.dropLast) first second
          modify fun s => { s with assigned := (text, n) :: s.assigned }
          return n
      else choice outside counts fuel
    | _ => choice outside counts fuel

end

/-- The value of an expression, and the variables that it assigns, latest first. -/
def evaluate (outside : String → Except Fault (Option String)) (text : List Char) :
    Except Fault (Int64 × List (String × Int64)) := do
  let words := tokens (text.length + 1) text
  let (n, s) ← assignment outside true (16 * words.length + 16) { rest := words }
  if s.rest.isEmpty then return (n, s.assigned) else .error (.expression "expecting EOF")

end ScenarioRunner.Shell.Arithmetic

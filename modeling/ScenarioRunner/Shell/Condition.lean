import ScenarioRunner.Files.Tree
import ScenarioRunner.Shell.Number

/-!
# Conditions

A condition is words: operands, operators before and between them, and brackets. Whether a word is
an operator can depend on the words behind it. The step functions look at the words from the current
one on and leave the last word that they have used.
-/

set_option autoImplicit false

namespace ScenarioRunner.Shell.Condition

/-- The role of a word. -/
inductive Role where
  | unary
  | binary
  | negation
  | conjunction
  | disjunction
  | opening
  | closing
  deriving DecidableEq

/-- The operators before one operand. -/
def unaryOperators : List String :=
  ["-r", "-w", "-x", "-e", "-f", "-d", "-c", "-b", "-p", "-u", "-g", "-k", "-s", "-t", "-z", "-n",
    "-h", "-O", "-G", "-L", "-S"]

/-- The operators between two operands. -/
def binaryOperators : List String :=
  ["=", "!=", "<", ">", "-eq", "-ne", "-ge", "-gt", "-le", "-lt", "-nt", "-ot", "-ef"]

/-- The role of a word as an operator. -/
def roleOf? (word : String) : Option Role :=
  if unaryOperators.contains word then some .unary
  else if binaryOperators.contains word then some .binary
  else match word with
    | "!" => some .negation
    | "-a" => some .conjunction
    | "-o" => some .disjunction
    | "(" => some .opening
    | ")" => some .closing
    | _ => none

/-- What the current word is. -/
inductive Kind where
  | finish
  | operand
  | operator (role : Role)
  deriving DecidableEq

/-- Whether an operator before one operand is itself an operand, by the words behind it. -/
def standsAlone : List String → Bool
  | [] => true
  | [_] => false
  | word :: _ => roleOf? word = some .binary

/-- What the first of some words is. -/
def kindOf : List String → Kind
  | [] => .finish
  | word :: rest =>
    match roleOf? word with
    | some .unary => if standsAlone rest then .operand else .operator .unary
    | some .opening => if rest.isEmpty then .operand else .operator .opening
    | some role => .operator role
    | none => .operand

/-- What conditions know of files. -/
structure View where
  /-- What stands at a path. -/
  look : String → Option FileTree
  /-- The place that a path leads to. -/
  place : String → Option (List String)
  /-- The places of the files that can be run. -/
  programs : List (List String) := []

/-- What an operator says of the file at a path. -/
def holdsOfFile (view : View) (operator path : String) : Bool :=
  match view.look path with
  | none => false
  | some found =>
    match operator, found with
    | "-e", _ | "-r", _ | "-w", _ | "-O", _ | "-G", _ => true
    | "-f", .file _ => true
    | "-d", .directory _ => true
    | "-x", .directory _ => true
    | "-x", .file _ => (view.place path).any view.programs.contains
    | "-s", .file content => !content.isEmpty
    | "-s", .directory _ => true
    | "-c", .sink => true
    | _, _ => false

/-- The integer that an operand is. -/
def integer (word : String) : Except String Int :=
  match decimalInteger? word with
  | some n => .ok n
  | none => .error s!"Illegal number: {word}"

/-- What an operator says of one operand. -/
def unary (view : View) (operator word : String) : Except String Bool :=
  match operator with
  | "-z" => .ok word.isEmpty
  | "-n" => .ok !word.isEmpty
  | "-t" => (integer word).map fun _ => false
  | _ => .ok (holdsOfFile view operator word)

/-- What an operator says of two operands. -/
def binary (view : View) (operator first second : String) : Except String Bool := do
  match operator with
  | "=" => return first = second
  | "!=" => return first ≠ second
  | "<" => return first < second
  | ">" => return second < first
  | "-ef" =>
    let place := view.place first
    return place.isSome && (view.look first).isSome && place = view.place second
  | "-nt" => return (view.look first).isSome && (view.look second).isNone
  | "-ot" => return (view.look second).isSome && (view.look first).isNone
  | _ =>
    let a ← integer first
    let b ← integer second
    match operator with
    | "-eq" => return a = b
    | "-ne" => return a ≠ b
    | "-ge" => return b ≤ a
    | "-gt" => return b < a
    | "-le" => return a ≤ b
    | _ => return a < b

mutual

/-- Conditions of which one has to hold. -/
def either (view : View) : Nat → List String → Except String (Bool × List String)
  | 0, words => .ok (false, words)
  | fuel + 1, words => do
    let (first, words) ← both view fuel words
    if kindOf words.tail = .operator .disjunction then
      let (second, words) ← either view fuel (words.drop 2)
      return (first || second, words)
    else return (first, words)

/-- Conditions that all have to hold. -/
def both (view : View) : Nat → List String → Except String (Bool × List String)
  | 0, words => .ok (false, words)
  | fuel + 1, words => do
    let (first, words) ← negated view fuel words
    if kindOf words.tail = .operator .conjunction then
      let (second, words) ← both view fuel (words.drop 2)
      return (first && second, words)
    else return (first, words)

/-- A condition that can be negated. -/
def negated (view : View) : Nat → List String → Except String (Bool × List String)
  | 0, words => .ok (false, words)
  | fuel + 1, words => do
    if kindOf words = .operator .negation then
      if words.tail.isEmpty then return (true, words)
      else
        let (holds, words) ← negated view fuel words.tail
        return (!holds, words)
    else primary view fuel words

/-- An operand, an operator with its operands, or a condition in brackets. -/
def primary (view : View) : Nat → List String → Except String (Bool × List String)
  | 0, words => .ok (false, words)
  | fuel + 1, words => do
    match kindOf words, words with
    | .finish, _ => return (false, words)
    | .operator .opening, _ =>
      if kindOf words.tail = .operator .closing then return (false, words.tail)
      else
        let (holds, words) ← either view fuel words.tail
        if kindOf words.tail = .operator .closing then return (holds, words.tail)
        else .error "closing paren expected"
    | .operator .unary, operator :: rest =>
      match rest with
      | word :: _ => return (← unary view operator word, rest)
      | [] => .error s!"{operator}: argument expected"
    | _, word :: rest =>
      if kindOf rest = .operator .binary then
        match rest with
        | operator :: second :: behind => return (← binary view operator word second, second :: behind)
        | operator :: _ => .error s!"{operator}: argument expected"
        | [] => return (word ≠ "", words)
      else return (word ≠ "", words)
    | _, [] => return (false, words)

end

/-- Whether a condition holds. Three or four words of some shapes are read by their number. -/
def holds (view : View) : Nat → List String → Except String Bool
  | 0, _ => .ok false
  | _ + 1, [] => .ok false
  | fuel + 1, words => do
    let whole (words : List String) : Except String Bool := do
      let (holds, left) ← either view (4 * words.length + 8) words
      match left with
      | word :: _ :: _ => .error s!"{word}: unexpected operator"
      | _ => return holds
    match words with
    | [first, operator, second] =>
      if roleOf? operator = some .binary then binary view operator first second
      else if first = "(" && second = ")" then whole [operator]
      else if first = "!" then return !(← holds view fuel [operator, second])
      else whole words
    | [first, second, third, fourth] =>
      if first = "(" && fourth = ")" then whole [second, third]
      else if first = "!" then return !(← holds view fuel [second, third, fourth])
      else whole words
    | _ => whole words

/-- Whether the words of a condition hold. -/
def evaluate (view : View) (words : List String) : Except String Bool :=
  holds view (words.length + 1) words

end ScenarioRunner.Shell.Condition

import ScenarioRunner.Shell.Utility.Awk.Token

/-!
# Expressions of scripts on records

An expression is read along the levels of its operations, from those that bind least on. Texts that
stand side by side are joined.
-/

set_option autoImplicit false

namespace ScenarioRunner.Shell.Awk

/-- Where an expression stands. -/
structure Setting where
  /-- Whether a greater-than sign says where output goes. -/
  inPrint : Bool := false
  /-- Whether `in` belongs to the loop around. -/
  inHead : Bool := false

/-- Whether something can be given a value. -/
def isTarget : Expr → Bool
  | .named _ | .element _ _ | .field _ => true
  | _ => false

/-- The operation of a sign. -/
def operation? : String → Option Operation
  | "+" => some .add
  | "-" => some .subtract
  | "*" => some .multiply
  | "/" => some .divide
  | "%" => some .remainder
  | "^" => some .power
  | _ => none

/-- The operation of a sign that updates. -/
def updating? (sign : String) : Option Operation :=
  if sign.endsWith "=" && sign.length ≥ 2 then operation? (String.ofList sign.toList.dropLast) else none

/-- The comparison of a sign. -/
def comparison? : String → Option Comparison
  | "<" => some .less
  | "<=" => some .lessOrEqual
  | "==" => some .equal
  | "!=" => some .unequal
  | ">" => some .greater
  | ">=" => some .greaterOrEqual
  | _ => none

/-- Whether a token begins an operand that can stand right behind another one. -/
def beginsOperand : Token → Bool
  | .number _ | .text _ | .name _ | .call _ | .builtin _ => true
  | .sign text => ["$", "!", "(", "++", "--", "-", "+"].contains text
  | _ => false

mutual

/-- An expression. -/
def expr (place : Setting) : Nat → Read Expr
  | 0 => refuse "out of memory"
  | fuel + 1 => do
    let condition ← disjunction place fuel
    match ← peek with
    | .sign "?" =>
      let _ ← take
      let first ← expr place fuel
      expect ":"
      return .choose condition first (← expr place fuel)
    | .sign "=" =>
      if isTarget condition then
        let _ ← take
        return .assign condition (← expr place fuel)
      else unexpected
    | .sign sign =>
      match updating? sign with
      | some operation =>
        if isTarget condition then
          let _ ← take
          return .update operation condition (← expr place fuel)
        else unexpected
      | none => return condition
    | _ => return condition

/-- Conditions of which one has to hold. -/
def disjunction (place : Setting) : Nat → Read Expr
  | 0 => refuse "out of memory"
  | fuel + 1 => do
    let first ← conjunction place fuel
    if ← accept "||" then
      skipAllLines
      return .either first (← disjunction place fuel)
    else return first

/-- Conditions that all have to hold. -/
def conjunction (place : Setting) : Nat → Read Expr
  | 0 => refuse "out of memory"
  | fuel + 1 => do
    let first ← membership place (← matching place fuel) fuel
    if ← accept "&&" then
      skipAllLines
      return .both first (← conjunction place fuel)
    else return first

/-- Whether what has been read is an index of an array. -/
def membership (place : Setting) (first : Expr) : Nat → Read Expr
  | 0 => return first
  | fuel + 1 => do
    if !place.inHead && (← peek) = .keyword "in" then
      let _ ← take
      match ← take with
      | .name array =>
        let index := match first with
          | .list items => items
          | one => [one]
        membership place (.member index array) fuel
      | _ => unexpected
    else return first

/-- A comparison, or a match with a pattern. -/
def matching (place : Setting) : Nat → Read Expr
  | 0 => refuse "out of memory"
  | fuel + 1 => do matchings place (← comparing place fuel) fuel

/-- Matches behind what has been read. -/
def matchings (place : Setting) (first : Expr) : Nat → Read Expr
  | 0 => return first
  | fuel + 1 => do
    match ← peek with
    | .sign "~" =>
      let _ ← take
      matchings place (.matching false first (← comparing place fuel)) fuel
    | .sign "!~" =>
      let _ ← take
      matchings place (.matching true first (← comparing place fuel)) fuel
    | _ => return first

/-- A comparison of texts that are joined. -/
def comparing (place : Setting) : Nat → Read Expr
  | 0 => refuse "out of memory"
  | fuel + 1 => do
    let first ← piped (← joining place fuel) fuel
    match ← peek with
    | .sign sign =>
      if sign = ">" && place.inPrint then return first
      else match comparison? sign with
        | some comparison =>
          let _ ← take
          return .compare comparison first (← joining place fuel)
        | none => return first
    | _ => return first

/-- Lines that are read from commands. -/
def piped (first : Expr) : Nat → Read Expr
  | 0 => return first
  | fuel + 1 => do
    let before ← get
    if ← accept "|" then
      if (← peek) = .keyword "getline" then
        let _ ← take
        piped (.readLine (.command first) (← target? fuel)) fuel
      else
        set before
        return first
    else return first

/-- What a line is read into. -/
def target? : Nat → Read (Option Expr)
  | 0 => return none
  | fuel + 1 => do
    match ← peek with
    | .name _ | .sign "$" => return some (← primary fuel)
    | _ => return none

/-- Texts that are joined. -/
def joining (place : Setting) : Nat → Read Expr
  | 0 => refuse "out of memory"
  | fuel + 1 => do joinings place (← sums place (← products place fuel) fuel) fuel

/-- Texts behind what has been read. -/
def joinings (place : Setting) (first : Expr) : Nat → Read Expr
  | 0 => return first
  | fuel + 1 => do
    let found ← peek
    if beginsOperand found && found ≠ .sign "+" && found ≠ .sign "-" then
      let second ← sums place (← products place fuel) fuel
      joinings place (.join first second) fuel
    else return first

/-- Terms that are added to what has been read. -/
def sums (place : Setting) (first : Expr) : Nat → Read Expr
  | 0 => return first
  | fuel + 1 => do
    match ← peek with
    | .sign "+" =>
      let _ ← take
      sums place (.binary .add first (← products place fuel)) fuel
    | .sign "-" =>
      let _ ← take
      sums place (.binary .subtract first (← products place fuel)) fuel
    | _ => return first

/-- A product. -/
def products (place : Setting) : Nat → Read Expr
  | 0 => refuse "out of memory"
  | fuel + 1 => do factors place (← unary fuel) fuel

/-- Factors behind what has been read. -/
def factors (place : Setting) (first : Expr) : Nat → Read Expr
  | 0 => return first
  | fuel + 1 => do
    match ← peek with
    | .sign sign =>
      if sign = "*" || sign = "/" || sign = "%" then
        let _ ← take
        let second ← unary fuel
        match operation? sign with
        | some operation => factors place (.binary operation first second) fuel
        | none => return first
      else return first
    | _ => return first

/-- An operand with signs before it. -/
def unary : Nat → Read Expr
  | 0 => refuse "out of memory"
  | fuel + 1 => do
    match ← peek with
    | .sign "!" =>
      let _ ← take
      return .not (← unary fuel)
    | .sign "-" =>
      let _ ← take
      return .negate (← unary fuel)
    | .sign "+" =>
      let _ ← take
      return .positive (← unary fuel)
    | _ => power fuel

/-- An operand with its power. -/
def power : Nat → Read Expr
  | 0 => refuse "out of memory"
  | fuel + 1 => do
    let base ← counted fuel
    match ← peek with
    | .sign "^" =>
      let _ ← take
      return .binary .power base (← unary fuel)
    | _ => return base

/-- An operand that is counted up or down. -/
def counted : Nat → Read Expr
  | 0 => refuse "out of memory"
  | fuel + 1 => do
    match ← peek with
    | .sign "++" | .sign "--" =>
      let isUp := (← take) = .sign "++"
      let inner ← primary fuel
      if isTarget inner then return .count isUp false inner else unexpected
    | _ =>
      let inner ← primary fuel
      if isTarget inner then
        match ← peek with
        | .sign "++" =>
          let _ ← take
          return .count true true inner
        | .sign "--" =>
          let _ ← take
          return .count false true inner
        | _ => return inner
      else return inner

/-- An operand. -/
def primary : Nat → Read Expr
  | 0 => refuse "out of memory"
  | fuel + 1 => do
    match ← peek with
    | .number x =>
      let _ ← take
      return .number x
    | .text content =>
      let _ ← take
      return .text content
    | .sign "/" | .sign "/=" => return .regex (← regexHere)
    | .sign "$" =>
      let _ ← take
      match ← peek with
      | .sign "++" | .sign "--" => return .field (← counted fuel)
      | .sign "-" | .sign "+" | .sign "!" => return .field (← unary fuel)
      | _ => return .field (← primary fuel)
    | .sign "(" =>
      expect "("
      let items ← list {} fuel
      expect ")"
      match items with
      | [one] => return if isTarget one then .list [one] else one
      | items => return .list items
    | .name name =>
      let _ ← take
      if ← accept "[" then
        let index ← list {} fuel
        expect "]"
        return .element name index
      else return .named name
    | .call name =>
      let _ ← take
      expect "("
      let arguments ← if ← isAt ")" then pure [] else list {} fuel
      expect ")"
      modify fun s => { s with calls := (name, arguments.length, s.line) :: s.calls }
      return .call name arguments
    | .builtin name =>
      let _ ← take
      if ← isAt "(" then
        expect "("
        let arguments ← if ← isAt ")" then pure [] else list {} fuel
        if name = "split" && arguments.length < 2 then unexpected
        else
          let (least, most) := (builtinNames.lookup name).getD (0, 0)
          if arguments.length < least || most < arguments.length then
            refuse s!"wrong number of arguments in call to {name}"
          expect ")"
          return .builtin name arguments
      else if name = "length" then return .builtin name []
      else unexpected
    | .keyword "getline" =>
      let _ ← take
      let target ← target? fuel
      if ← accept "<" then return .readLine (.file (← counted fuel)) target
      else return .readLine .input target
    | _ => unexpected
where
  /-- The regular expression that begins here. -/
  regexHere : Read Regex := do
    let s ← get
    let text := s.rest.drop 1
    match regexBody false (text.length + 1) text with
    | none =>
      let shown := String.ofList ((text.takeWhile (· ≠ '\n')).take 10)
      refuse s!"runaway regular expression /{shown} ..."
    | some (content, rest) =>
      set { s with rest }
      match Regex.ofText true content with
      | .ok (regex, _) => return regex
      | .error reason =>
        let shown := String.ofList content
        refuse s!"regular expression compile failed ({reason})\n{shown}"

/-- Expressions with commas between them. -/
def list (place : Setting) : Nat → Read (List Expr)
  | 0 => return []
  | fuel + 1 => do
    let first ← expr place fuel
    if ← accept "," then
      skipAllLines
      return first :: (← list place fuel)
    else return [first]

end

end ScenarioRunner.Shell.Awk

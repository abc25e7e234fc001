import ScenarioRunner.Shell.Utility.Awk.Expression

/-!
# Reading scripts on records

A script is read rule by rule, a rule statement by statement.
-/

set_option autoImplicit false

namespace ScenarioRunner.Shell.Awk

/-! ## Statements -/

/-- Takes the end of a statement. -/
def endStatement : Read Unit := do
  match ← peek with
  | .sign ";" | .newline =>
    let _ ← take
    skipAllLines
  | .sign "\x7d" => return ()
  | _ => unexpected

/-- What is written, and where to. -/
def output (fuel : Nat) : Read (List Expr × Outlet) := do
  let found ← peek
  let isOver := match found with
    | .newline | .finish => true
    | .sign text => [";", "\x7d", ">", ">>", "|"].contains text
    | _ => false
  let arguments ← if isOver then pure [] else list { inPrint := true } fuel
  let arguments := match arguments with
    | [.list items] => items
    | items => items
  match ← peek with
  | .sign ">" =>
    let _ ← take
    return (arguments, .file (← joining { inPrint := true } fuel))
  | .sign ">>" =>
    let _ ← take
    return (arguments, .append (← joining { inPrint := true } fuel))
  | .sign "|" =>
    let _ ← take
    return (arguments, .command (← joining { inPrint := true } fuel))
  | _ => return (arguments, .output)

/-- A statement without its end. -/
def simple (fuel : Nat) : Read Statement := do
  let value? : Read (Option Expr) := do
    match ← peek with
    | .newline | .finish | .sign ";" | .sign "\x7d" => return none
    | _ => return some (← expr {} fuel)
  match ← peek with
  | .keyword "print" =>
    let _ ← take
    let (arguments, outlet) ← output fuel
    return .print arguments outlet
  | .keyword "printf" =>
    let _ ← take
    let (arguments, outlet) ← output fuel
    if arguments.isEmpty then unexpected else return .format arguments outlet
  | .keyword "next" =>
    let _ ← take
    if (← get).isApart then refuse "improper use of next" else return .next
  | .keyword "nextfile" =>
    let _ ← take
    if (← get).isApart then refuse "improper use of nextfile" else return .nextFile
  | .keyword "exit" =>
    let _ ← take
    return .exit (← value?)
  | .keyword "return" =>
    let _ ← take
    if (← get).inFunction then return .back (← value?) else refuse "return outside function body"
  | .keyword "break" =>
    let _ ← take
    if (← get).loops = 0 then refuse "break statement outside of loop" else return .leave
  | .keyword "continue" =>
    let _ ← take
    if (← get).loops = 0 then refuse "continue statement outside of loop" else return .again
  | .keyword "delete" =>
    let _ ← take
    match ← take with
    | .name array =>
      if ← accept "[" then
        let index ← list {} fuel
        expect "]"
        return .delete array index
      else return .delete array []
    | _ => unexpected
  | _ => return .value (← expr {} fuel)

/-- Reads the body of a loop. -/
def inLoop (body : Read Statement) : Read Statement := do
  modify fun s => { s with loops := s.loops + 1 }
  let found ← body
  modify fun s => { s with loops := s.loops - 1 }
  return found

mutual

/-- A statement with its end. -/
def statement : Nat → Read Statement
  | 0 => refuse "out of memory"
  | fuel + 1 => do
    match ← peek with
    | .sign "\x7b" => block fuel
    | .sign ";" =>
      let _ ← take
      skipAllLines
      return .block []
    | .keyword "if" =>
      let _ ← take
      let condition ← condition fuel
      let first ← statement fuel
      let before ← get
      skipEnds before.rest.length
      if (← peek) = .keyword "else" then
        let _ ← take
        skipAllLines
        return .branch condition first (some (← statement fuel))
      else
        set before
        return .branch condition first none
    | .keyword "while" =>
      let _ ← take
      let condition ← condition fuel
      return .loop condition (← inLoop (statement fuel))
    | .keyword "do" =>
      let _ ← take
      skipAllLines
      let body ← inLoop (statement fuel)
      skipEnds (← get).rest.length
      if (← take) ≠ .keyword "while" then unexpected
      expect "("
      let condition ← expr {} fuel
      expect ")"
      endStatement
      return .loopUntil body condition
    | .keyword "for" =>
      let _ ← take
      expect "("
      let before ← get
      match ← take, ← peek with
      | .name name, .keyword "in" =>
        let _ ← take
        match ← take, ← peek with
        | .name array, .sign ")" =>
          expect ")"
          skipAllLines
          return .each name array (← inLoop (statement fuel))
        | _, _ =>
          set before
          steps fuel
      | _, _ =>
        set before
        steps fuel
    | _ =>
      let found ← simple fuel
      endStatement
      return found

/-- A loop with a start, a condition and a step, behind its bracket. -/
def steps : Nat → Read Statement
  | 0 => refuse "out of memory"
  | fuel + 1 => do
    let start ← if ← isAt ";" then pure none else some <$> simple fuel
    expect ";"
    skipAllLines
    let condition ← if ← isAt ";" then pure none else some <$> expr {} fuel
    expect ";"
    skipAllLines
    let step ← if ← isAt ")" then pure none else some <$> simple fuel
    expect ")"
    skipAllLines
    return .steps start condition step (← inLoop (statement fuel))

/-- A condition in brackets, and the ends of lines behind it. -/
def condition : Nat → Read Expr
  | 0 => refuse "out of memory"
  | fuel + 1 => do
    expect "("
    let found ← expr {} fuel
    expect ")"
    skipAllLines
    return found

/-- Statements in braces. -/
def block : Nat → Read Statement
  | 0 => refuse "out of memory"
  | fuel + 1 => do
    expect "\x7b"
    skipEnds (← get).rest.length
    let items ← statements fuel
    expect "\x7d"
    let before ← get
    -- the end of a line behind a block belongs to it
    if !(← accept ";") then set before
    return .block items

/-- Statements up to a brace. -/
def statements : Nat → Read (List Statement)
  | 0 => return []
  | fuel + 1 => do
    skipEnds (← get).rest.length
    if ← isAt "\x7d" then return []
    else
      let first ← statement fuel
      return first :: (← statements fuel)

end

/-! ## Rules -/

/-- Reads the names of parameters, up to the bracket. -/
def parameters : Nat → Read (List String)
  | 0 => return []
  | fuel + 1 => do
    if ← isAt ")" then return []
    else match ← peek with
      | .name name =>
        let _ ← take
        if ← accept "," then
          skipAllLines
          return name :: (← parameters fuel)
        else return [name]
      | _ => unexpected

/-- Reads the rules and functions of a script. -/
def readRules : Nat → Script → Read Script
  | 0, script => return script
  | fuel + 1, script => do
    skipEnds (← get).rest.length
    modify fun s => { s with isApart := false, inFunction := false }
    let apart (selection : Selection) : Read Script := do
      let _ ← take
      modify fun s => { s with isApart := true }
      let body ← block fuel
      readRules fuel { script with rules := script.rules ++ [⟨selection, some body⟩] }
    match ← peek with
    | .finish => return script
    | .keyword "BEGIN" => apart .start
    | .keyword "END" => apart .finish
    | .keyword "function" | .keyword "func" =>
      let _ ← take
      let name ← match ← take with
        | .name name | .call name => pure name
        | _ => unexpected
      expect "("
      let names ← parameters fuel
      expect ")"
      skipAllLines
      modify fun s => { s with inFunction := true }
      let body ← block fuel
      readRules fuel { script with functions := (name, ⟨names, body⟩) :: script.functions }
    | .sign "\x7b" =>
      let body ← block fuel
      readRules fuel { script with rules := script.rules ++ [⟨.every, some body⟩] }
    | .sign "\x7d" => refuse "extra '\x7d'"
    | _ =>
      let first ← expr {} fuel
      let selection ← if ← accept "," then
          skipAllLines
          let last ← expr {} fuel
          let number := (← get).ranges
          modify fun s => { s with ranges := number + 1 }
          pure (Selection.range number first last)
        else pure (Selection.when first)
      let body ← if ← isAt "\x7b" then some <$> block fuel
        else
          match ← peek with
          | .newline | .finish | .sign ";" => pure none
          | _ => unexpected
      readRules fuel { script with rules := script.rules ++ [⟨selection, body⟩] }

/-- What is wrong with the calls of functions, if anything is. -/
def callFault? (script : Script) (s : Reading) : Option String :=
  s.calls.reverse.findSome? fun (name, count, line) =>
    match script.functions.lookup name with
    | none => some s!"line {s.line}: function {name} never defined"
    | some function =>
      if function.parameters.length < count then
        some s!"line {line}: too many arguments in call to {name}"
      else none

/-- Reads a script. -/
def Script.ofText (text : List Char) : Except String Script := do
  let (script, s) ← (readRules (16 * text.length + 64) {}).run { rest := text ++ ['\n'] }
  match callFault? script s with
  | some message => .error message
  | none => return script

end ScenarioRunner.Shell.Awk

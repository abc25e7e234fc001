import ScenarioRunner.Decimal.Literal
import ScenarioRunner.Shell.Printf
import ScenarioRunner.Shell.Utility.Awk.Syntax

/-!
# Tokens of scripts on records

Whether a slash begins an expression or divides depends on what stands before it, so that tokens are
read when they are needed.
-/

set_option autoImplicit false

namespace ScenarioRunner.Shell.Awk

/-- A token of a script. -/
inductive Token where
  | number (x : Binary64)
  | text (content : List Char)
  | name (name : String)
  /-- A name with a bracket right behind it. -/
  | call (name : String)
  | builtin (name : String)
  | keyword (name : String)
  | sign (text : String)
  | newline
  | finish
  deriving DecidableEq

/-- The built-in functions, with the least and the greatest count of their arguments. -/
def builtinNames : List (String × Nat × Nat) :=
  [("length", 0, 1), ("substr", 2, 3), ("index", 2, 2), ("split", 2, 3), ("sub", 2, 3),
    ("gsub", 2, 3), ("match", 2, 2), ("sprintf", 1, 255), ("sin", 1, 1), ("cos", 1, 1),
    ("atan2", 2, 2), ("exp", 1, 1), ("log", 1, 1), ("sqrt", 1, 1), ("int", 1, 1), ("rand", 0, 0),
    ("srand", 0, 1), ("tolower", 1, 1), ("toupper", 1, 1), ("system", 1, 1), ("close", 1, 1),
    ("fflush", 0, 1)]

/-- The words that are no names. -/
def keywords : List String :=
  ["BEGIN", "END", "break", "continue", "delete", "do", "else", "exit", "for", "func", "function",
    "getline", "if", "in", "next", "nextfile", "print", "printf", "return", "while"]

/-- The signs, those that others begin with behind them. -/
def signs : List String :=
  ["&&", "||", "==", "<=", ">=", "!=", "!~", "++", "--", "+=", "-=", "*=", "/=", "%=",
    "^=", ">>", "\x7b", "\x7d", "(", ")", "[", "]", ";", ",", "+", "-", "*", "/", "%", "^", "!",
    "<", ">", "|", "?", ":", "~", "$", "="]

/-- A script as far as it is read. -/
structure Reading where
  rest : List Char
  line : Nat := 1
  /-- How many brackets and braces are open. -/
  brackets : Nat := 0
  braces : Nat := 0
  loops : Nat := 0
  inFunction : Bool := false
  /-- Whether the rule that is read stands before or behind the records. -/
  isApart : Bool := false
  ranges : Nat := 0
  /-- The functions that are called, with the count of the arguments and the line. -/
  calls : List (String × Nat × Nat) := []

/-- A step in reading a script. A failure has a message. -/
abbrev Read := StateT Reading (Except String)

/-- Fails with a message for the current line. -/
def refuse {α : Type} (message : String) : Read α := do
  let line := (← get).line
  throw s!"line {line}: {message}"

/-! ## Tokens -/

/-- The text without blanks and comments at its start, and how many lines have ended in them. -/
def skipBlanks : Nat → List Char → Nat × List Char
  | 0, text => (0, text)
  | fuel + 1, text =>
    match text with
    | '\\' :: '\n' :: rest =>
      let (lines, rest) := skipBlanks fuel rest
      (lines + 1, rest)
    | '\\' :: '\r' :: '\n' :: rest =>
      let (lines, rest) := skipBlanks fuel rest
      (lines + 1, rest)
    | '#' :: rest => skipBlanks fuel (rest.dropWhile (· ≠ '\n'))
    | c :: rest => if c = ' ' || c = '\t' || c = '\r' then skipBlanks fuel rest else (0, text)
    | [] => (0, [])

/-- The text of an escape in a string, and what follows it. -/
def escape (text : List Char) : List Char × List Char :=
  match text with
  | '"' :: rest => (['"'], rest)
  | '\n' :: rest => ([], rest)
  | c :: rest =>
    match escapedChar? c with
    | some d => if c = 'e' then (['\\', 'e'], rest) else ([d], rest)
    | none =>
      if digitValue c < 8 then
        let (n, behind) := octal 3 text
        ([octetOf n], behind)
      else if c = 'x' && !(leadingDigits 16 rest).isEmpty then
        let digits := (leadingDigits 16 rest).take 2
        ([octetOf (numberOf 16 digits)], rest.drop digits.length)
      else (['\\', c], rest)
  | [] => (['\\'], [])

/-- The content of a string behind its quote, and what follows it, unless it does not end. -/
def stringBody : Nat → List Char → Option (List Char × List Char)
  | 0, _ => none
  | fuel + 1, text =>
    match text with
    | [] | '\n' :: _ => none
    | '"' :: rest => some ([], rest)
    | '\\' :: rest =>
      let (found, behind) := escape rest
      (stringBody fuel behind).map fun (content, rest) => (found ++ content, rest)
    | c :: rest => (stringBody fuel rest).map fun (content, rest) => (c :: content, rest)

/-- The text of a regular expression behind its slash, and what follows it. -/
def regexBody (inBrackets : Bool) : Nat → List Char → Option (List Char × List Char)
  | 0, _ => none
  | fuel + 1, text =>
    match text with
    | [] | '\n' :: _ => none
    | '\\' :: '/' :: rest =>
      (regexBody inBrackets fuel rest).map fun (content, rest) => ('/' :: content, rest)
    | '\\' :: c :: rest =>
      (regexBody inBrackets fuel rest).map fun (content, rest) => ('\\' :: c :: content, rest)
    | '/' :: rest =>
      if inBrackets then (regexBody inBrackets fuel rest).map fun (content, rest) => ('/' :: content, rest)
      else some ([], rest)
    | c :: rest =>
      let inBrackets := (inBrackets || c = '[') && c ≠ ']'
      (regexBody inBrackets fuel rest).map fun (content, rest) => (c :: content, rest)

/-- The longest number at the start of a text. -/
def numberLength (text : List Char) : Nat :=
  let whole := text.takeWhile Char.isDigit
  let behind := text.drop whole.length
  let fraction := match behind with
    | '.' :: rest => 1 + (rest.takeWhile Char.isDigit).length
    | _ => 0
  if whole.isEmpty && fraction ≤ 1 then 0
  else
    let size := whole.length + fraction
    match text.drop size with
    | e :: rest =>
      let sign := match rest with
        | '+' :: _ | '-' :: _ => 1
        | _ => 0
      let digits := (rest.drop sign).takeWhile Char.isDigit
      if (e = 'e' || e = 'E') && !digits.isEmpty then size + 1 + sign + digits.length else size
    | [] => size

/-- The number that a text is, zero if it is none. -/
def numberOfText (text : List Char) : Binary64 :=
  ((Literal.parse? text).map Literal.toBinary64).getD (.zero false)

/-- The next token, and what follows it. -/
def token (text : List Char) : Except String (Token × List Char) :=
  match text with
  | [] => .ok (.finish, [])
  | '\n' :: rest => .ok (.newline, rest)
  | '"' :: rest =>
    match stringBody (rest.length + 1) rest with
    | some (content, rest) => .ok (.text content, rest)
    | none =>
      let shown := String.ofList ((rest.takeWhile (· ≠ '\n')).take 10)
      .error ("runaway string constant \"" ++ shown ++ " ...")
  | c :: rest =>
    if isNameStart c then
      let name := String.ofList (text.takeWhile fun c => isNameStart c || c.isDigit)
      let behind := text.drop name.length
      if keywords.contains name then .ok (.keyword name, behind)
      else if (builtinNames.lookup name).isSome then .ok (.builtin name, behind)
      else if behind.head? = some '(' then .ok (.call name, behind)
      else .ok (.name name, behind)
    else
      let size := numberLength text
      if 0 < size then .ok (.number (numberOfText (text.take size)), text.drop size)
      else match signs.find? fun sign => sign.toList.isPrefixOf text with
        | some sign => .ok (.sign sign, text.drop sign.length)
        | none => .ok (.sign (String.ofList [c]), rest)
where
  /-- Whether a character begins a name. -/
  isNameStart (c : Char) : Bool := c.isAlpha || c = '_'

/-- Drops blanks, and gives the next token and what follows it. -/
def look : Read (Token × List Char) := do
  let s ← get
  let (lines, rest) := skipBlanks (s.rest.length + 1) s.rest
  modify fun s => { s with rest, line := s.line + lines }
  match token rest with
  | .ok found => return found
  | .error message => refuse message

/-- The next token. -/
def peek : Read Token := do return (← look).1

/-- Takes the next token. -/
def take : Read Token := do
  let (found, rest) ← look
  match found with
  | .sign text =>
    let known := signs.contains text
    if !known then
      let line := (← get).line
      throw s!"{line}: unexpected character '{text}'"
  | _ => pure ()
  modify fun s => { s with rest, line := if found = .newline then s.line + 1 else s.line }
  return found

/-- How a token is named in a message. -/
def Token.shown : Token → String
  | .number x => String.ofList ({ precision := some 6 : Directive }.float 'g' x)
  | .text content => "\"" ++ String.ofList content ++ "\""
  | .name word | .call word | .builtin word | .keyword word | .sign word => word
  | .newline => "end of line"
  | .finish => "end of file"

/-- Fails at the next token. A script that ends with the line lacks a brace as well. -/
def unexpected {α : Type} : Read α := do
  let found ← peek
  let s ← get
  let lacksBracket := 0 < s.brackets && match found with
    | .newline => true
    | .sign text => text = ";" || text = "\x7d"
    | _ => false
  let message ←
    if lacksBracket then pure ("missing ) near " ++ found.shown)
    else if found = .sign ")" && s.brackets = 0 then pure "extra ')'"
    else if found = .finish then pure "missing \x7d near end of file"
    else match found with
      | .sign text =>
        if signs.contains text then pure s!"syntax error at or near {text}"
        else
          let _ ← take
          pure "syntax error"
      | _ => pure ("syntax error at or near " ++ found.shown)
  let behind := s.rest.drop 1
  if found = .newline && 0 < s.braces && behind.all (· = '\n') then
    let (line, last) := (s.line, s.line + 1 + behind.length)
    throw s!"line {line}: {message}\nline {last}: missing \x7d near end of file"
  else refuse message

/-- Whether the next token is a sign. -/
def isAt (sign : String) : Read Bool := do return (← peek) = .sign sign

/-- Takes a sign if it comes next. -/
def accept (sign : String) : Read Bool := do
  if ← isAt sign then
    let _ ← take
    return true
  else return false

/-- Takes a sign that has to come next. -/
def expect (sign : String) : Read Unit := do
  if ← accept sign then
    modify fun s =>
      if sign = "(" then { s with brackets := s.brackets + 1 }
      else if sign = ")" then { s with brackets := s.brackets - 1 }
      else if sign = "\x7b" then { s with braces := s.braces + 1 }
      else if sign = "\x7d" then { s with braces := s.braces - 1 }
      else s
  else unexpected

/-- Drops the ends of lines. -/
def skipLines : Nat → Read Unit
  | 0 => return ()
  | fuel + 1 => do
    if (← peek) = .newline then
      let _ ← take
      skipLines fuel

/-- Drops the ends of lines, as many as there are. -/
def skipAllLines : Read Unit := do skipLines (← get).rest.length

/-- Drops the ends of lines and statements. -/
def skipEnds : Nat → Read Unit
  | 0 => return ()
  | fuel + 1 => do
    let found ← peek
    if found = .newline || found = .sign ";" then
      let _ ← take
      skipEnds fuel

end ScenarioRunner.Shell.Awk

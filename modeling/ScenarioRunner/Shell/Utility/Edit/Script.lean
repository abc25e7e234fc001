import ScenarioRunner.Shell.Number
import ScenarioRunner.Shell.Utility.Regex

/-!
# Scripts that edit lines

A script is a list of instructions, each for some of the lines. Errors have the place that reading
has reached.
-/

set_option autoImplicit false

namespace ScenarioRunner.Shell.Edit

/-- A line that an instruction is for. -/
inductive Address where
  | number (n : Nat)
  /-- A line, and every so many lines behind it. -/
  | every (first step : Nat)
  | last
  /-- A line that an expression matches; without one, the last that has been used. -/
  | matching (regex : Option Regex) (foldsCase : Bool)

/-- Where a range of lines ends. -/
inductive RangeEnd where
  | address (a : Address)
  | behind (count : Nat)
  | multiple (n : Nat)

/-- The lines that an instruction is for. -/
structure Selection where
  first : Option Address := none
  last : Option RangeEnd := none
  negated : Bool := false

/-- How letters change in a replacement. -/
inductive CaseChange where
  | keep
  | lower
  | upper
  | lowerNext
  | upperNext
  deriving DecidableEq

/-- A part of a replacement. -/
inductive Replacement where
  | text (content : List Char)
  /-- What a group has matched, or the whole expression for zero. -/
  | group (number : Nat)
  | change (change : CaseChange)

/-- A replacement of what an expression matches. -/
structure Substitution where
  regex : Option Regex
  foldsCase : Bool := false
  replacement : List Replacement
  /-- The first match that is replaced. -/
  first : Nat := 1
  /-- Whether all that follow are replaced too. -/
  all : Bool := false
  prints : Bool := false
  path : Option String := none

/-- What an instruction does. -/
inductive Action where
  | openBlock
  | closeBlock
  | append (text : List Char)
  | insert (text : List Char)
  | change (text : List Char)
  | delete
  | deleteFirst
  | get
  | getAppend
  | hold
  | holdAppend
  | exchange
  | next
  | nextAppend
  | print
  | printFirst
  | list (width : Option Nat)
  | number
  | name
  | clear
  | quit (status : Nat) (prints : Bool)
  | read (path : String)
  | write (path : String)
  | substitute (substitution : Substitution)
  | exchangeChars (pairs : List (Char × Char))
  | label
  /-- Goes on at a label, or at the end. -/
  | jump (label : List Char)
  /-- As `jump`, if something has been replaced, or if nothing has. -/
  | jumpIf (replaced : Bool) (label : List Char)

/-- An instruction. -/
structure Instruction where
  selection : Selection
  action : Action
  /-- The name under which it can be reached. -/
  label : Option (List Char) := none

/-- A script as far as it is read. -/
structure Reading where
  rest : List Char
  taken : Nat := 0
  extended : Bool

/-- A step in reading a script. A failure has the count of characters that are read. -/
abbrev Read := StateT Reading (Except (Nat × String))

namespace Script

/-! ## Characters -/

/-- Fails where reading has arrived. -/
def refuse {α : Type} (reason : String) : Read α := fun s => .error (s.taken, reason)

/-- The next character. -/
def char : Read (Option Char) := fun s =>
  match s.rest with
  | c :: rest => .ok (some c, { s with rest, taken := s.taken + 1 })
  | [] => .ok (none, s)

/-- Puts a character back. -/
def back (c : Option Char) : Read Unit := fun s =>
  match c with
  | some c => .ok ((), { s with rest := c :: s.rest, taken := s.taken - 1 })
  | none => .ok ((), s)

/-- Takes characters of a kind. -/
def takeWhile (p : Char → Bool) : Read (List Char) := fun s =>
  let found := s.rest.takeWhile p
  .ok (found, { s with rest := s.rest.drop found.length, taken := s.taken + found.length })

/-- Whether a character is a blank inside a line. -/
def isBlankChar (c : Char) : Bool := c = ' ' || c = '\t'

/-- The next character behind blanks. -/
def nonblank : Read (Option Char) := do
  let _ ← takeWhile isBlankChar
  char

/-- Takes a number, if there is one. -/
def number? : Read (Option Nat) := do
  let digits ← takeWhile Char.isDigit
  return if digits.isEmpty then none else some (numberOf 10 digits)

/-- Takes the end of an instruction. -/
def finish : Read Unit := do
  let _ ← takeWhile isGap
  match ← char with
  | none | some '\n' | some ';' => return ()
  | some c =>
    if c = '\x7d' || c = '#' then back (some c) else refuse "extra characters after command"
where
  /-- Whether a character is a blank, line breaks apart. -/
  isGap (c : Char) : Bool := isSpaceChar c && c ≠ '\n'

/-! ## Delimited texts -/

/-- Brackets of an expression behind their first character, with what is inside. -/
def bracket (out : List Char) (isFirst : Bool) : Nat → Read (Option (List Char))
  | 0 => return none
  | fuel + 1 => do
    match ← char with
    | none => return none
    | some '\n' =>
      back (some '\n')
      return none
    | some ']' => if isFirst then bracket (']' :: out) false fuel else return some (']' :: out)
    | some '[' =>
      let rest := (← get).rest
      let name := (rest.drop 1).takeWhile Char.isAlpha
      if rest.head? = some ':' && ((rest.drop (name.length + 1)).take 2) = [':', ']'] then
        let inside ← takeExactly (name.length + 3)
        bracket (inside.reverse ++ '[' :: out) false fuel
      else bracket ('[' :: out) false fuel
    | some '^' => bracket ('^' :: out) (isFirst && out.head? = some '[') fuel
    | some c => bracket (c :: out) false fuel
where
  /-- Takes some characters. -/
  takeExactly (count : Nat) : Read (List Char) := fun s =>
    .ok (s.rest.take count, { s with rest := s.rest.drop count, taken := s.taken + count })

/-- A text up to a delimiter, which a backslash protects. -/
def delimited (delimiter : Char) (isRegex : Bool) (out : List Char) :
    Nat → Read (Option (List Char))
  | 0 => return none
  | fuel + 1 => do
    match ← char with
    | none => return none
    | some '\n' =>
      back (some '\n')
      return none
    | some c =>
      if c = delimiter then return some out.reverse
      else if c = '\\' then
        match ← char with
        | none => return none
        | some d =>
          if d = 'n' && isRegex then delimited delimiter isRegex ('\n' :: out) fuel
          else if d = '\n' || (d = delimiter && (isRegex || d ≠ '&')) then
            delimited delimiter isRegex (d :: out) fuel
          else delimited delimiter isRegex (d :: '\\' :: out) fuel
      else if c = '[' && isRegex then
        match ← bracket ['['] true fuel with
        | some inside => delimited delimiter isRegex (inside ++ out) fuel
        | none => return none
      else delimited delimiter isRegex (c :: out) fuel

/-- Replaces what backslashes and letters stand for. A character that would have a meaning gets a
backslash. -/
def converted (special : List Char) : Nat → List Char → List Char
  | 0, text => text
  | _ + 1, [] => []
  | fuel + 1, '\\' :: c :: rest =>
    let put (c : Char) (behind : List Char) : List Char :=
      (if special.contains c then ['\\', c] else [c]) ++ converted special fuel behind
    let coded (base most : Nat) : List Char :=
      let digits := (leadingDigits base rest).take most
      if digits.isEmpty then '\\' :: c :: converted special fuel rest
      else put (Char.ofNat (numberOf base digits % 256)) (rest.drop digits.length)
    match c, rest with
    | 'a', _ => put '\x07' rest
    | 'f', _ => put '\x0c' rest
    | 'r', _ => put '\r' rest
    | 't', _ => put '\t' rest
    | 'v', _ => put '\x0b' rest
    | 'c', d :: behind => put (Char.ofNat (d.toUpper.toNat ^^^ 64)) behind
    | 'd', _ => coded 10 3
    | 'o', _ => coded 8 3
    | 'x', _ => coded 16 2
    | _, _ => '\\' :: c :: converted special fuel rest
  | fuel + 1, c :: rest => c :: converted special fuel rest

/-- The expression that a text is, with the count of its groups, or none if it is empty. -/
def regex? (text : List Char) : Read (Option (Regex × Nat)) := do
  if text.isEmpty then return none
  else
    let special := ['$', '*', '.', '[', '\\', ']', '^']
    match Regex.ofText (← get).extended (converted special (text.length + 1) text) with
    | .ok found => return some found
    | .error reason => refuse reason

/-- The steps that are enough for the rest of a script. -/
def enough : Read Nat := do return (← get).rest.length + 2

/-! ## Addresses -/

/-- An address, if one begins with the character that is read. -/
def address? (c : Option Char) : Read (Option Address) := do
  match c with
  | none => return none
  | some '/' => some <$> expression '/'
  | some '\\' =>
    match ← char with
    | some delimiter => some <$> expression delimiter
    | none => refuse "unterminated address regex"
  | some '$' => return some .last
  | some c =>
    if c.isDigit then
      back (some c)
      let n := (← number?).getD 0
      match ← nonblank with
      | some '~' => return some (.every n ((← number?).getD 0))
      | other =>
        back other
        return some (.number n)
    else return none
where
  /-- An expression behind its delimiter. -/
  expression (delimiter : Char) : Read Address := do
    match ← delimited delimiter true [] (← enough) with
    | none => refuse "unterminated address regex"
    | some text =>
      let flags ← takeWhile fun c => c = 'I' || c = 'M'
      let _ ← takeWhile isBlankChar
      return .matching ((← regex? text).map Prod.fst) (flags.contains 'I')

/-- The end of a range, if one begins with the character that is read. -/
def rangeEnd? (c : Option Char) : Read (Option RangeEnd) := do
  match c with
  | some '+' => return some (.behind ((← number?).getD 0))
  | some '~' => return some (.multiple ((← number?).getD 0))
  | c => return (← address? c).map .address

/-- The lines that an instruction is for, and the character behind them. -/
def selection : Read (Selection × Option Char) := do
  let c ← char
  if c = some '+' || c = some '~' then
    let _ ← number?
    refuse "invalid usage of +N or ~N as first address"
  let first ← address? c
  let c ← match first with
    | some _ => nonblank
    | none => pure c
  let (last, c) ← if first.isSome && c = some ',' then
      match ← rangeEnd? (← nonblank) with
      | some last => pure (some last, ← nonblank)
      | none => refuse "unexpected \x60,'"
    else pure (none, c)
  match first, last with
  | some (.number 0), some (.address (.matching ..)) => pure ()
  | some (.number 0), _ => refuse "invalid usage of line address 0"
  | _, _ => pure ()
  if c = some '!' then
    let c ← nonblank
    if c = some '!' then refuse "multiple \x60!'s"
    return ({ first, last, negated := true }, c)
  else return ({ first, last }, c)

/-! ## Instructions -/

/-- The text of an instruction that adds lines, with a line break at its end. -/
def textLines (out : List Char) : Nat → Read (List Char)
  | 0 => return out.reverse
  | fuel + 1 => do
    match ← char with
    | none | some '\n' => return ('\n' :: out).reverse
    | some '\\' =>
      match ← char with
      | none => return ('\n' :: out).reverse
      | some c =>
        let c := match converted [] 2 ['\\', c] with
          | [d] => d
          | _ => if c = 'n' then '\n' else c
        textLines (c :: out) fuel
    | some c => textLines (c :: out) fuel

/-- The text behind an instruction that adds lines. -/
def addedText : Read (List Char) := do
  match ← nonblank with
  | none => refuse "expected \\ after \x60a', \x60c' or \x60i'"
  | some '\\' =>
    match ← char with
    | none => return []
    | some '\n' => textLines [] (← enough)
    | c =>
      back c
      textLines [] (← enough)
  | c =>
    back c
    textLines [] (← enough)

/-- The name of a label. -/
def labelName : Read (List Char) := do
  let _ ← takeWhile isBlankChar
  takeWhile fun c => !isSpaceChar c && c ≠ ';' && c ≠ '\x7d'

/-- The path that ends the line. -/
def pathName : Read String := do
  let _ ← takeWhile isBlankChar
  let found ← takeWhile (· ≠ '\n')
  if found.isEmpty then refuse "missing filename in r/R/w/W commands"
  else
    let _ ← char
    return String.ofList found

/-- The parts of a replacement. -/
def replacement : Nat → List Char → List Replacement
  | 0, _ => []
  | _ + 1, [] => []
  | fuel + 1, '\\' :: c :: rest =>
    let part : Replacement := match c with
      | 'L' => .change .lower
      | 'U' => .change .upper
      | 'l' => .change .lowerNext
      | 'u' => .change .upperNext
      | 'E' => .change .keep
      | 'n' => .text ['\n']
      | c => if c.isDigit then .group (digitValue c) else .text [c]
    part :: replacement fuel rest
  | fuel + 1, '&' :: rest => .group 0 :: replacement fuel rest
  | fuel + 1, c :: rest => .text [c] :: replacement fuel rest

/-- The flags of a replacement. -/
def flags (isNumbered : Bool) (s : Substitution) : Nat → Read Substitution
  | 0 => return s
  | fuel + 1 => do
    match ← char with
    | none | some '\n' | some ';' => return s
    | some 'g' =>
      if s.all then refuse "multiple \x60g' options to \x60s' command"
      else flags isNumbered { s with all := true } fuel
    | some 'p' =>
      if s.prints then refuse "multiple \x60p' options to \x60s' command"
      else flags isNumbered { s with prints := true } fuel
    | some 'i' | some 'I' => flags isNumbered { s with foldsCase := true } fuel
    | some 'm' | some 'M' | some 'e' => flags isNumbered s fuel
    | some 'w' => return { s with path := some (← pathName) }
    | some c =>
      if c = '\x7d' || c = '#' then
        back (some c)
        return s
      else if isSpaceChar c then flags isNumbered s fuel
      else if c.isDigit then
        if isNumbered then refuse "multiple number options to \x60s' command"
        else
          back (some c)
          match ← number? with
          | some 0 => refuse "number option to \x60s' command may not be zero"
          | n => flags true { s with first := n.getD 1 } fuel
      else refuse "unknown option to \x60s'"

/-- A replacement behind the letter of its instruction. -/
def substitution : Read Substitution := do
  let unterminated {α : Type} : Read α := refuse "unterminated \x60s' command"
  match ← char with
  | none => unterminated
  | some delimiter =>
    match ← delimited delimiter true [] (← enough) with
    | none => unterminated
    | some pattern =>
      match ← delimited delimiter false [] (← enough) with
      | none => unterminated
      | some text =>
        let parts := replacement (2 * text.length + 1)
          (converted ['&', '\\'] (text.length + 1) text)
        let found ← flags false { regex := none, replacement := parts } (← enough)
        match ← regex? pattern with
        | none => return found
        | some (regex, groups) =>
          match parts.findSome? fun
              | .group n => if groups < n then some n else none
              | _ => none with
          | some n => refuse s!"invalid reference \\{n} on \x60s' command's RHS"
          | none => return { found with regex := some regex }

/-- The pairs of characters behind the letter of an instruction that exchanges them. -/
def charPairs : Read (List (Char × Char)) := do
  let unterminated {α : Type} : Read α := refuse "unterminated \x60y' command"
  match ← char with
  | none => unterminated
  | some delimiter =>
    match ← delimited delimiter false [] (← enough) with
    | none => unterminated
    | some first =>
      match ← delimited delimiter false [] (← enough) with
      | none => unterminated
      | some second =>
        let first := plain (first.length + 1) first
        let second := plain (second.length + 1) second
        if first.length ≠ second.length then
          refuse "strings for \x60y' command are different lengths"
        else
          finish
          return first.zip second
where
  /-- The characters that a text stands for. -/
  plain (fuel : Nat) (text : List Char) : List Char := unescaped (converted ['\\'] fuel text)
  /-- A text without its backslashes. -/
  unescaped : List Char → List Char
    | '\\' :: 'n' :: rest => '\n' :: unescaped rest
    | '\\' :: c :: rest => c :: unescaped rest
    | c :: rest => c :: unescaped rest
    | [] => []

/-- An action that takes nothing. -/
def simpleAction? : Char → Option Action
  | 'd' => some .delete
  | 'D' => some .deleteFirst
  | 'g' => some .get
  | 'G' => some .getAppend
  | 'h' => some .hold
  | 'H' => some .holdAppend
  | 'x' => some .exchange
  | 'n' => some .next
  | 'N' => some .nextAppend
  | 'p' => some .print
  | 'P' => some .printFirst
  | '=' => some .number
  | 'F' => some .name
  | 'z' => some .clear
  | _ => none

/-- An instruction behind its selection, given its letter and how many blocks surround it. -/
def instruction (selection : Selection) (c : Char) (depth : Nat) : Read (Option Instruction) := do
  let single : Read Unit := if selection.last.isSome then
    refuse "command only uses one address" else return ()
  let act (action : Action) : Read (Option Instruction) := return some { selection, action }
  match simpleAction? c with
  | some action =>
    finish
    act action
  | none =>
    match c with
    | '\x7b' => act .openBlock
    | '\x7d' =>
      if depth = 0 then refuse "unexpected \x60\x7d'"
      else if selection.first.isSome then refuse "\x7d doesn't want any addresses"
      else
        finish
        act .closeBlock
    | '#' =>
      if selection.first.isSome then refuse "comments don't accept any addresses"
      let _ ← takeWhile (· ≠ '\n')
      return none
    | ':' =>
      if selection.first.isSome then refuse ": doesn't want any addresses"
      let name ← labelName
      if name.isEmpty then refuse "\":\" lacks a label"
      else return some { selection, action := .label, label := some name }
    | 'v' =>
      -- the least version of the editor that a script asks for
      let _ ← labelName
      return none
    | 'b' => act (.jump (← labelName))
    | 't' => act (.jumpIf true (← labelName))
    | 'T' => act (.jumpIf false (← labelName))
    | 'a' => act (.append (← addedText))
    | 'i' => act (.insert (← addedText))
    | 'c' => act (.change (← addedText))
    | 'q' | 'Q' =>
      single
      let _ ← takeWhile isBlankChar
      let status ← number?
      finish
      act (.quit (status.getD 0 % 256) (c = 'q'))
    | 'l' =>
      let _ ← takeWhile isBlankChar
      let width ← number?
      finish
      act (.list width)
    | 'r' | 'R' => act (.read (← pathName))
    | 'w' | 'W' => act (.write (← pathName))
    | 's' => act (.substitute (← substitution))
    | 'y' => act (.exchangeChars (← charPairs))
    | c => refuse s!"unknown command: \x60{c}'"

/-- The instructions of a script. -/
def instructions (depth : Nat) : Nat → Read (List Instruction)
  | 0 => return []
  | fuel + 1 => do
    let _ ← takeWhile fun c => isSpaceChar c || c = ';'
    if (← get).rest.isEmpty then
      if depth = 0 then return []
      else fun _ => .error (0, "unmatched \x60\x7b'")
    else
      let (selection, c) ← selection
      match c with
      | none => refuse "missing command"
      | some c =>
        match ← instruction selection c depth with
        | none => instructions depth fuel
        | some found =>
          let depth := match found.action with
            | .openBlock => depth + 1
            | .closeBlock => depth - 1
            | _ => depth
          return found :: (← instructions depth fuel)

/-- The label that an instruction goes to, if there is none of its name. -/
def missingLabel? (all : List Instruction) : Option (List Char) :=
  all.findSome? fun one =>
    let missing (name : List Char) : Option (List Char) :=
      if name.isEmpty || all.any (·.label = some name) then none else some name
    match one.action with
    | .jump name | .jumpIf _ name => missing name
    | _ => none

/-- Reads a script. -/
def ofText (extended : Bool) (text : List Char) : Except (Nat × String) (List Instruction) :=
  (instructions 0 (text.length + 2)).run' { rest := text, extended }

end Script

end ScenarioRunner.Shell.Edit

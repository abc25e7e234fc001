import ScenarioRunner.Shell.Source

/-!
# Reading words

A word ends before a blank or an operator. Quotes, braces and brackets inside it have ends of their
own, and what a character means depends on the innermost of them.
-/

set_option autoImplicit false

namespace ScenarioRunner.Shell

/-- What the characters of a word stand in. -/
inductive Place where
  | bare
  /-- The word that ends a here-document. Nothing in it is expanded. -/
  | delimiter
  | quotes
  /-- The text of a here-document. -/
  | document
  /-- The operand of an expansion in braces, which may stand in quotes and have quotes inside. -/
  | operand (quoted inner : Bool)
  /-- Arithmetic, inside some brackets of its own. -/
  | expression (depth : Nat)
  deriving DecidableEq

namespace Place

/-- Whether text here counts as quoted. -/
def isQuoted : Place → Bool
  | bare | delimiter => false
  | operand quoted _ => quoted
  | quotes | document | expression _ => true

/-- Whether quotes begin here. -/
def allowsQuotes : Place → Bool
  | bare | delimiter | operand false _ => true
  | _ => false

/-- Whether words end here before blanks and operators. -/
def isWord : Place → Bool
  | bare | delimiter => true
  | _ => false

/-- Whether a backslash protects a character here. -/
def protects (place : Place) (c : Char) : Bool :=
  match place with
  | bare | delimiter | operand false _ => true
  | quotes | expression _ => ['\\', '\x60', '$', '"'].contains c
  | document => ['\\', '\x60', '$'].contains c
  | operand true _ => ['\\', '\x60', '$', '"', '\x7d'].contains c

/-- What the end of the text means here. -/
def atEnd : Place → Read Word
  | bare | delimiter | document => return []
  | quotes | operand true _ => .fault .unterminatedQuote
  | operand false _ => .fault .missingBrace
  | expression _ => .fault .missingParentheses

/-- What the operand of an expansion stands in. Patterns begin anew. -/
def forOperand (place : Place) (use : Use) : Place :=
  match use with
  | .trimmed .. => operand false false
  | _ => operand place.isQuoted false

end Place

/-- The characters that end words. -/
def isDelimiter (c : Char) : Bool := [' ', '\t', '\n', ';', '&', '|', '<', '>', '(', ')'].contains c

/-- The parameters that are named by one sign. -/
def isSpecial (c : Char) : Bool := ['$', '?', '#', '@', '*', '!', '-'].contains c || c.isDigit

namespace Read

/-- The name of a parameter in braces and whether its length is asked for; `none` if there is none. -/
def bracedName (fuel : Nat) : Read (Option (String × Bool)) := do
  match (← get).rest with
  | '#' :: c :: rest =>
    if isNameChar c then
      skipChars 1
      return some (String.ofList (← nameFrom c), true)
    else if isSpecial c && c != '\x7d' && rest.head? = some '\x7d' then
      skipChars 2
      return some (c.toString, true)
    else
      skipChars 1
      return some ("#", false)
  | c :: _ =>
    if isNameChar c then return some (String.ofList (← nameFrom c), false)
    else if isSpecial c then
      skipChars 1
      return some (c.toString, false)
    else return none
  | [] => return none
where
  /-- The name or the number that begins here. -/
  nameFrom (c : Char) : Read (List Char) := takeWhile (if c.isDigit then Char.isDigit else isNameChar) fuel

/-- What an expansion in braces makes of its parameter. Tells also whether an operand follows. -/
def bracedUse (isLength : Bool) : Read (Use × Bool) := do
  if isLength then
    return if ← takes '\x7d' then (.length, false) else (.malformed, true)
  else if ← takes '\x7d' then return (.value, false)
  else
    let orEmpty ← takes ':'
    match ← takeChar with
    | some '-' => return (.otherwise orEmpty, true)
    | some '+' => return (.instead orEmpty, true)
    | some '?' => return (.required orEmpty, true)
    | some '=' => return (.assigned orEmpty, true)
    | some '%' =>
      if orEmpty then return (.malformed, true) else return (.trimmed true (← takes '%'), true)
    | some '#' =>
      if orEmpty then return (.malformed, true) else return (.trimmed false (← takes '#'), true)
    | _ => return (.malformed, true)

mutual

/-- The parts of a word up to the end of what they stand in, given how to read the commands inside
an expansion, up to a bracket that closes them or not. -/
def parts (commands : Bool → Read (Option Command)) (place : Place) : Nat → Read Word
  | 0 => fault .unterminatedQuote
  | fuel + 1 => do
    match ← peekChar with
    | none => place.atEnd
    | some c =>
      if place.isWord && isDelimiter c then return []
      else
        skipChars 1
        if c = '\'' && place.allowsQuotes then
          let content ← singleQuoted
          return .text content true :: (← parts commands place fuel)
        else if c = '"' && place.allowsQuotes then
          let inside ← parts commands .quotes fuel
          return .text [] true :: inside ++ (← parts commands place fuel)
        else if c = '\\' then
          match ← takeChar with
          | none => return .text ['\\'] true :: (← place.atEnd)
          | some d =>
            let behind ← parts commands place fuel
            return if place.protects d then behind.cons d true
              else .text ['\\', d] true :: behind
        else if c = '$' && place != .delimiter then
          let found ← expansion commands place fuel
          return found ++ (← parts commands place fuel)
        else if c = '\x60' && place != .delimiter then
          let text ← backquoted place.isQuoted [] (← get).rest.length
          let body ← within text 1 (commands false)
          return .substitution body place.isQuoted :: (← parts commands place fuel)
        else
          match place, c with
          | .quotes, '"' => return []
          | .operand true inner, '"' => parts commands (.operand true !inner) fuel
          | .operand quoted inner, '\x7d' =>
            if inner then return (← parts commands (.operand quoted inner) fuel).cons c quoted
            else return []
          | .expression depth, '(' =>
            return (← parts commands (.expression (depth + 1)) fuel).cons c true
          | .expression (depth + 1), ')' => return (← parts commands (.expression depth) fuel).cons c true
          | .expression 0, ')' =>
            if ← takes ')' then return []
            else return (← parts commands place fuel).cons c true
          | _, _ => return (← parts commands place fuel).cons c place.isQuoted

/-- What a dollar sign begins. -/
def expansion (commands : Bool → Read (Option Command)) (place : Place) : Nat → Read Word
  | 0 => fault .unterminatedQuote
  | fuel + 1 => do
    match ← peekChar with
    | some c =>
      if c = '(' then
        skipChars 1
        if ← takes '(' then
          return [.arithmetic (← parts commands (.expression 0) fuel) place.isQuoted]
        else
          return [.substitution (← commands true) place.isQuoted]
      else if c = '\x7b' then
        skipChars 1
        match ← bracedName fuel with
        | none => return [.parameter "" .malformed (← operand .malformed fuel) place.isQuoted]
        | some (name, isLength) =>
          let (use, hasOperand) ← bracedUse isLength
          let operand ← if hasOperand then operand use fuel else pure []
          return [.parameter name use operand place.isQuoted]
      else if isInitial c then
        let name ← takeWhile isNameChar (← get).rest.length
        return [.parameter (String.ofList name) .value [] place.isQuoted]
      else if isSpecial c then
        skipChars 1
        return [.parameter c.toString .value [] place.isQuoted]
      else return [.text ['$'] place.isQuoted]
    | none => return [.text ['$'] place.isQuoted]
where
  /-- The operand of an expansion. -/
  operand (use : Use) (fuel : Nat) : Read Word := parts commands (place.forOperand use) fuel

end

/-- Steps that are enough to read the words ahead. -/
def enough : Read Nat := do return 8 * (← get).rest.length + 8

/-- The text of a here-document in which parameters, commands and arithmetic are expanded. -/
def document (commands : Bool → Read (Option Command)) (text : List Char) (line : Nat) : Read Word :=
  within text line do
    let steps ← enough
    parts commands .document steps

end Read

end ScenarioRunner.Shell

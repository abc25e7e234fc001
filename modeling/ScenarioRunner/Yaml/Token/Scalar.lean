import ScenarioRunner.Yaml.Letter

/-!
# The text of YAML scalars

Quoted and plain scalars fold line breaks: one between two words is a space, and of several the
first is left out. Block scalars hold whole lines, without their indentation. Every function gives
the text and the letters behind the scalar.
-/

set_option autoImplicit false

namespace ScenarioRunner.Yaml

/-- The white space since the last word of a quoted or plain scalar. -/
structure Gap where
  /-- The blanks, last first, while there is no line break. -/
  blanks : List Char := []
  /-- Whether there is a line break, even an escaped one. -/
  broken : Bool := false
  /-- The first line break, unless it is escaped. -/
  first : Option Char := none
  /-- The other line breaks, last first. -/
  others : List Char := []

namespace Gap

/-- Whether there is no white space. -/
def isEmpty (gap : Gap) : Bool := gap.blanks.isEmpty && !gap.broken

/-- Adds a blank. -/
def addBlank (gap : Gap) (c : Char) : Gap :=
  if gap.broken then gap else { gap with blanks := c :: gap.blanks }

/-- Adds a line break. -/
def addBreak (gap : Gap) (c : Char) : Gap :=
  if gap.broken then { gap with others := c :: gap.others }
  else { gap with blanks := [], broken := true, first := some c }

/-- What the white space is in the text, last character first. -/
def folded (gap : Gap) : List Char :=
  if !gap.broken then gap.blanks
  else if gap.first = some '\n' then
    if gap.others.isEmpty then [' '] else gap.others
  else gap.others ++ gap.first.toList

end Gap

/-! ## Quoted scalars -/

/-- The rest of a scalar in single quotes. -/
def singleQuoted (gap : Gap) (out : List Char) : List Letter → Option (List Char × List Letter)
  | [] => none
  | l :: rest =>
    if isSpace l.char then singleQuoted (gap.addBlank l.char) out rest
    else if isBreak l.char then singleQuoted (gap.addBreak l.char) out rest
    else if isDocumentMarker (l :: rest) then none
    else if l.char = '\'' then
      match rest with
      | m :: behind =>
        if m.char = '\'' then singleQuoted {} ('\'' :: (gap.folded ++ out)) behind
        else some ((gap.folded ++ out).reverse, rest)
      | [] => some ((gap.folded ++ out).reverse, rest)
    else singleQuoted {} (l.char :: (gap.folded ++ out)) rest

/-- The character that an escape of one letter stands for. -/
def escaped? : Char → Option Char
  | '0' => some '\x00'
  | 'a' => some '\x07'
  | 'b' => some '\x08'
  | 't' => some '\t'
  | '\t' => some '\t'
  | 'n' => some '\n'
  | 'v' => some '\x0b'
  | 'f' => some '\x0c'
  | 'r' => some '\r'
  | 'e' => some '\x1b'
  | ' ' => some ' '
  | '"' => some '"'
  | '/' => some '/'
  | '\\' => some '\\'
  | 'N' => some '\u0085'
  | '_' => some '\u00a0'
  | 'L' => some '\u2028'
  | 'P' => some '\u2029'
  | _ => none

/-- The count of digits of an escaped code point. -/
def escapedDigits? : Char → Option Nat
  | 'x' => some 2
  | 'u' => some 4
  | 'U' => some 8
  | _ => none

/-- The value of a hexadecimal digit. -/
def hexValue? (c : Char) : Option Nat :=
  if c.isDigit then some (c.toNat - '0'.toNat)
  else if 'a' ≤ c ∧ c ≤ 'f' then some (c.toNat - 'a'.toNat + 10)
  else if 'A' ≤ c ∧ c ≤ 'F' then some (c.toNat - 'A'.toNat + 10)
  else none

/-- The character of a code point, if it is one. -/
def charOf? (n : Nat) : Option Char := if n.isValidChar then some (Char.ofNat n) else none

/-- How far an escape is read. -/
inductive Escape where
  /-- There is none. -/
  | none
  /-- A backslash has been read. -/
  | begun
  /-- Some digits of a code point are still to come. -/
  | digits (left value : Nat)

/-- The rest of a scalar in double quotes. -/
def doubleQuoted (gap : Gap) (out : List Char) (escape : Escape) :
    List Letter → Option (List Char × List Letter)
  | [] => Option.none
  | l :: rest =>
    match escape with
    | .digits left value =>
      match hexValue? l.char with
      | Option.none => Option.none
      | some digit =>
        if left ≤ 1 then
          match charOf? (value * 16 + digit) with
          | some c => doubleQuoted {} (c :: out) .none rest
          | Option.none => Option.none
        else doubleQuoted {} out (.digits (left - 1) (value * 16 + digit)) rest
    | .begun =>
      if isBreak l.char then doubleQuoted { broken := true } out .none rest
      else match escapedDigits? l.char with
        | some count => doubleQuoted {} out (.digits count 0) rest
        | Option.none =>
          match escaped? l.char with
          | some c => doubleQuoted {} (c :: out) .none rest
          | Option.none => Option.none
    | .none =>
      if isSpace l.char then doubleQuoted (gap.addBlank l.char) out .none rest
      else if isBreak l.char then doubleQuoted (gap.addBreak l.char) out .none rest
      else if isDocumentMarker (l :: rest) then Option.none
      else if l.char = '"' then some ((gap.folded ++ out).reverse, rest)
      else if l.char = '\\' then doubleQuoted {} (gap.folded ++ out) .begun rest
      else doubleQuoted {} (l.char :: (gap.folded ++ out)) .none rest

/-! ## Plain scalars -/

/-- Where a plain scalar stands. -/
structure PlainContext where
  /-- Whether it is in a flow collection. -/
  flow : Bool
  /-- The least column of its further lines, outside flow collections. -/
  indent : Int

/-- Whether a plain scalar ends before a character that follows white space. -/
def PlainContext.endsBefore (context : PlainContext) (gap : Gap) (letters : List Letter) : Bool :=
  match letters with
  | [] => true
  | l :: _ =>
    !gap.isEmpty
      && ((!context.flow && (l.column : Int) < context.indent) || isDocumentMarker letters
        || l.char == '#')

/-- A plain scalar. Tells also whether it ends in a line break. -/
def plain (context : PlainContext) (gap : Gap) (out : List Char) :
    List Letter → Option (List Char × List Letter × Bool)
  | [] => some (out.reverse, [], gap.broken)
  | l :: rest =>
    if isSpace l.char then
      if gap.broken && l.char == '\t' && (l.column : Int) < context.indent then none
      else plain context (gap.addBlank l.char) out rest
    else if isBreak l.char then plain context (gap.addBreak l.char) out rest
    else if context.endsBefore gap (l :: rest) then some (out.reverse, l :: rest, gap.broken)
    else if context.flow && l.char == ':'
        && [',', '?', '[', ']', '\x7b', '\x7d'].any (beginsWith · rest) then none
    else if (l.char == ':' && endsWord rest)
        || (context.flow && [',', '[', ']', '\x7b', '\x7d'].contains l.char) then
      some (out.reverse, l :: rest, gap.broken)
    else plain context {} (l.char :: (gap.folded ++ out)) rest

/-! ## Block scalars -/

/-- What a block scalar does with the line breaks at its end. -/
inductive Chomping where
  /-- All are left out. -/
  | strip
  /-- The first one stays. -/
  | clip
  /-- All stay. -/
  | keep
  deriving DecidableEq

/-- The indicator of a chomping. -/
def chomping? : Char → Option Chomping
  | '+' => some .keep
  | '-' => some .strip
  | _ => none

/-- The indentation that a digit asks for, if it is not zero. -/
def indentation? (c : Char) : Option Nat :=
  if c.isDigit ∧ c ≠ '0' then some (c.toNat - '0'.toNat) else none

/-- The indicators of a block scalar, in either order, and the letters behind. -/
def blockHeader (letters : List Letter) : Option (Chomping × Nat × List Letter) :=
  match letters with
  | a :: rest =>
    match chomping? a.char with
    | some chomping =>
      match rest with
      | b :: behind =>
        if b.char.isDigit then (indentation? b.char).map fun n => (chomping, n, behind)
        else some (chomping, 0, rest)
      | [] => some (chomping, 0, rest)
    | none =>
      if a.char.isDigit then
        (indentation? a.char).map fun n =>
          match rest with
          | b :: behind => match chomping? b.char with
            | some chomping => (chomping, n, behind)
            | none => (.clip, n, rest)
          | [] => (.clip, n, rest)
      else some (.clip, 0, letters)
  | [] => some (.clip, 0, [])

/-- Skips what follows the indicators of a line: blanks, a comment and the line break. -/
def endLine (letters : List Letter) : Option (List Letter) :=
  let rest := letters.dropWhile (isSpace ·.char)
  let rest := if beginsWith '#' rest then rest.dropWhile (!isBreak ·.char) else rest
  match rest with
  | [] => some []
  | l :: behind => if isBreak l.char then some behind else none

/-- Skips indentation and empty lines. The indentation is zero while it is unknown. Gives the
greatest column that is reached, the line breaks, last first, and the letters behind. -/
def emptyLines (indent reached : Nat) (breaks : List Char) :
    List Letter → Option (Nat × List Char × List Letter)
  | [] => some (reached, breaks, [])
  | l :: rest =>
    if (indent = 0 ∨ l.column < indent) ∧ l.char = ' ' then
      emptyLines indent (max reached (l.column + 1)) breaks rest
    else if (indent = 0 ∨ l.column < indent) ∧ l.char = '\t' then none
    else if isBreak l.char then emptyLines indent reached (l.char :: breaks) rest
    else some (reached, breaks, l :: rest)

/-- A block scalar as far as it is read. -/
structure BlockText where
  /-- The text before the last line break, last character first. -/
  out : List Char := []
  /-- The line break behind the last line. -/
  first : Option Char := none
  /-- The line breaks of the empty lines behind it, last first. -/
  others : List Char := []
  /-- Whether the last line begins with a blank. -/
  indented : Bool := false

namespace BlockText

/-- Adds a line of some letters and the white space behind it. -/
def addLine (text : BlockText) (folds : Bool) (line : List Char) (first : Option Char)
    (others : List Char) : BlockText :=
  let indented := line.head?.any isSpace
  let join :=
    if folds && text.first = some '\n' && !text.indented && !indented then
      if text.others.isEmpty then [' '] else []
    else text.first.toList
  { out := line.reverse ++ (text.others ++ (join ++ text.out)), first, others, indented }

/-- The whole text. -/
def finish (text : BlockText) (chomping : Chomping) : List Char :=
  let out := if chomping = .strip then text.out else text.first.toList ++ text.out
  (if chomping = .keep then text.others ++ out else out).reverse

end BlockText

/-- The lines of a block scalar of a known indentation. -/
def blockLines (folds : Bool) (indent : Nat) :
    Nat → BlockText → List Letter → Option (BlockText × List Letter)
  | 0, text, letters => some (text, letters)
  | fuel + 1, text, letters =>
    match letters with
    | [] => some (text, [])
    | l :: _ =>
      if l.column = indent then
        let line := letters.takeWhile (!isBreak ·.char)
        let behind := letters.dropWhile (!isBreak ·.char)
        match emptyLines indent 0 [] behind.tail with
        | none => none
        | some (_, others, rest) =>
          blockLines folds indent fuel
            (text.addLine folds (line.map Letter.char) (behind.head?.map Letter.char) others) rest
      else some (text, letters)

/-- A block scalar behind its first indicator, inside a collection of an indentation. -/
def block (folds : Bool) (parent : Int) (letters : List Letter) :
    Option (List Char × List Letter) := do
  let (chomping, increment, rest) ← blockHeader letters
  let rest ← endLine rest
  let declared := if increment = 0 then 0 else (max parent 0).toNat + increment
  let (reached, breaks, rest) ← emptyLines declared 0 [] rest
  let indent := if declared = 0 then max (max reached (parent + 1).toNat) 1 else declared
  let (text, rest) ← blockLines folds indent rest.length { others := breaks } rest
  return (text.finish chomping, rest)

end ScenarioRunner.Yaml

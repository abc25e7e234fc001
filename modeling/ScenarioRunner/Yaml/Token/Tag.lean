import ScenarioRunner.Text.Utf8
import ScenarioRunner.Yaml.Letter
import ScenarioRunner.Yaml.Token.Basic
import ScenarioRunner.Yaml.Token.Scalar

/-!
# YAML tags, anchors and directives

A tag is a whole name between angle brackets, or an abbreviation and what follows it. Names can
hold octets behind percent signs; how many belong together is told by the first of them.
-/

set_option autoImplicit false

namespace ScenarioRunner.Yaml

/-- The text of some letters. -/
def textOf (letters : List Letter) : String := String.ofList (letters.map Letter.char)

/-- The word here, and the letters behind. -/
def word (letters : List Letter) : String × List Letter :=
  (textOf (letters.takeWhile (isWordChar ·.char)), letters.dropWhile (isWordChar ·.char))

/-- The name of an anchor or an alias, behind its indicator. -/
def anchorName (letters : List Letter) : Option (String × List Letter) :=
  let (name, rest) := word letters
  if !name.isEmpty && (endsWord rest
      || ['?', ':', ',', ']', '\x7d', '%', '@', '\x60'].any (beginsWith · rest)) then
    some (name, rest)
  else none

/-- The characters of a name in a tag; a bracketed one can hold some more. -/
def isNameChar (bracketed : Bool) (c : Char) : Bool :=
  isWordChar c
    || [';', '/', '?', ':', '@', '&', '=', '+', '$', '.', '!', '~', '*', '\'', '(', ')'].contains c
    || (bracketed && [',', '[', ']'].contains c)

/-- How many octets follow the first one of a character. -/
def trailingOctets? (octet : Nat) : Option Nat :=
  if octet < 0x80 then some 0
  else if octet / 32 = 6 then some 1
  else if octet / 16 = 14 then some 2
  else if octet / 8 = 30 then some 3
  else none

/-- How many octets follow one that is read while some are still to come. -/
def octetsAfter? (left octet : Nat) : Option Nat :=
  if left = 0 then trailingOctets? octet
  else if octet / 64 = 2 then some (left - 1)
  else none

/-- The octets of a name, last first, and the letters behind. -/
def nameOctets (bracketed : Bool) (left : Nat) (out : Bytes) :
    List Letter → Option (Bytes × List Letter)
  | [] => if left = 0 then some (out, []) else none
  | l :: rest =>
    if l.char = '%' then
      match rest with
      | a :: b :: behind => do
        let octet := (← hexValue? a.char) * 16 + (← hexValue? b.char)
        nameOctets bracketed (← octetsAfter? left octet) (UInt8.ofNat octet :: out) behind
      | _ => none
    else if left ≠ 0 then none
    else if isNameChar bracketed l.char then
      nameOctets bracketed 0 ((Utf8.encodeChars [l.char]).reverse ++ out) rest
    else some (out, l :: rest)

/-- The octets of a name, and the letters behind. -/
def nameIn (bracketed : Bool) (letters : List Letter) : Option (Bytes × List Letter) :=
  (nameOctets bracketed 0 [] letters).map fun (octets, rest) => (octets.reverse, rest)

/-- The name that some octets stand for. -/
def tagName (octets : Bytes) : TagName := octets.takeWhile (· != 0)

/-- An abbreviation: an exclamation mark, or a word between two. Tells the word, and whether the
second mark is there. -/
def handleWord (letters : List Letter) : Option (String × Bool × List Letter) :=
  match letters with
  | [] => none
  | l :: rest =>
    if l.char = '!' then
      let (name, rest) := word rest
      if beginsWith '!' rest then some (name, true, rest.tail) else some (name, false, rest)
    else none

/-- The tag that has no name of its own. -/
def nameless : WrittenTag := ⟨"", Utf8.encode "!"⟩

/-- A tag, from its indicator on. -/
def tag (flow : Bool) (letters : List Letter) : Option (WrittenTag × List Letter) := do
  let (written, rest) ←
    if beginsWith '<' letters.tail then do
      let (octets, rest) ← nameIn true (letters.drop 2)
      if octets.isEmpty || !beginsWith '>' rest then none
      else some (⟨"", tagName octets⟩, rest.tail)
    else do
      let (word, closed, rest) ← handleWord letters
      let (octets, rest) ← nameIn false rest
      if closed then
        if octets.isEmpty then none else some (⟨s!"!{word}!", tagName octets⟩, rest)
      else
        let name := tagName (Utf8.encode word ++ octets)
        some (if name.isEmpty then nameless else ⟨"!", name⟩, rest)
  if endsWord rest || (flow && beginsWith ',' rest) then some (written, rest) else none

/-- The most digits that a number of a version can have. -/
def versionDigits : Nat := 9

/-- A number of a version. -/
def versionNumber (letters : List Letter) : Option (Nat × List Letter) :=
  let digits := (letters.takeWhile (·.char.isDigit)).map Letter.char
  if digits.isEmpty || versionDigits < digits.length then none
  else some (digits.foldl (fun n c => 10 * n + (c.toNat - '0'.toNat)) 0,
    letters.dropWhile (·.char.isDigit))

/-- A directive, behind its indicator. -/
def directive (letters : List Letter) : Option (Token × List Letter) := do
  let (name, rest) := word letters
  if name.isEmpty || !endsWord rest then none
  let rest := rest.dropWhile (isSpace ·.char)
  let (token, rest) ←
    if name = "YAML" then do
      let (major, rest) ← versionNumber rest
      if !beginsWith '.' rest then none
      let (minor, rest) ← versionNumber rest.tail
      some (Token.versionDirective major minor, rest)
    else if name = "TAG" then do
      let (handle, closed, rest) ← handleWord rest
      if !closed && !handle.isEmpty then none
      if rest.isEmpty || !rest.head?.any (isSpace ·.char) then none
      let (octets, rest) ← nameIn true (rest.dropWhile (isSpace ·.char))
      if octets.isEmpty || !endsWord rest then none
      some (.tagDirective (if closed then s!"!{handle}!" else "!") (tagName octets), rest)
    else none
  return (token, ← endLine rest)

end ScenarioRunner.Yaml

/-!
# Characters of a YAML stream with their places

Tokens depend on the column and the line at which they begin, and keys on their size in octets. A
stream is a list of characters with their places, in which every kind of line break is one
character: the usual ones are a line feed, and the line and paragraph separators stay what they are.
-/

set_option autoImplicit false

namespace ScenarioRunner.Yaml

/-- A character with its place. -/
structure Letter where
  char : Char
  /-- The count of octets before it in the stream. -/
  offset : Nat
  line : Nat
  /-- The count of characters before it in the line. -/
  column : Nat

/-- The characters that a stream can hold. -/
def isPermitted (c : Char) : Bool :=
  let n := c.toNat
  n == 0x09 || n == 0x0A || n == 0x0D || (0x20 ≤ n && n ≤ 0x7E) || n == 0x85
    || (0xA0 ≤ n && n ≤ 0xD7FF) || (0xE000 ≤ n && n ≤ 0xFFFD) || 0x10000 ≤ n

/-- A space or a tab. -/
def isSpace (c : Char) : Bool := c == ' ' || c == '\t'

/-- A line break of a stream. -/
def isBreak (c : Char) : Bool := c == '\n' || c == '\u2028' || c == '\u2029'

/-- The characters of words in anchors, handles and directives. -/
def isWordChar (c : Char) : Bool := c.isAlphanum || c == '_' || c == '-'

/-- The line break that a character is, if it is one. -/
def lineBreak? (c : Char) : Option Char :=
  if c = '\n' ∨ c = '\r' ∨ c = '\u0085' then some '\n'
  else if isBreak c then some c
  else none

/-- The character that can stand before the first one of a line without being part of it. -/
def byteOrderMark : Char := '\uFEFF'

/-- Gives characters their places, from one on. A carriage return and the line feed behind it are
one line break. -/
def placeFrom (offset line column : Nat) : List Char → List Letter
  | '\r' :: '\n' :: rest => ⟨'\n', offset, line, column⟩ :: placeFrom (offset + 2) (line + 1) 0 rest
  | c :: rest =>
    match lineBreak? c with
    | some b => ⟨b, offset, line, column⟩ :: placeFrom (offset + c.utf8Size) (line + 1) 0 rest
    | none => ⟨c, offset, line, column⟩ :: placeFrom (offset + c.utf8Size) line (column + 1) rest
  | [] => []

/-- The stream of a text, unless it has a character that streams cannot hold. -/
def letters? (text : List Char) : Option (List Letter) :=
  if text.all isPermitted then some (placeFrom 0 0 0 text) else none

/-- Whether a word ends here: at a space, at a line break or at the end. -/
def endsWord : List Letter → Bool
  | [] => true
  | l :: _ => isSpace l.char || isBreak l.char

/-- Whether a character stands here. -/
def beginsWith (c : Char) : List Letter → Bool
  | [] => false
  | l :: _ => l.char == c

/-- Whether three of a character stand here, at the start of a line and as a word. -/
def isMarker (c : Char) : List Letter → Bool
  | a :: b :: d :: rest => a.column == 0 && a.char == c && b.char == c && d.char == c && endsWord rest
  | _ => false

/-- Whether the start or the end of a document stands here. -/
def isDocumentMarker (letters : List Letter) : Bool := isMarker '-' letters || isMarker '.' letters

end ScenarioRunner.Yaml

import ScenarioRunner.Shell.Syntax

/-!
# The source of commands

A source is the text that is still to be read, with the number of its line and what is known of the
words ahead. A backslash before a line break joins two lines.
-/

set_option autoImplicit false

namespace ScenarioRunner.Shell

/-- How an operator redirects a stream. -/
inductive Redirection where
  | open (opening : Opening)
  | duplicate
  /-- A here-document, whose lines lose their tabs at the start or not. -/
  | document (stripsTabs : Bool)

/-- A word of the grammar. -/
inductive Token where
  | finish
  | newline
  | operator (text : String)
  | redirect (stream : Nat) (redirection : Redirection)
  | keyword (text : String)
  | word (word : Word)

/-- How a message shows a token. -/
def Token.shown : Token → String
  | finish => "end of file"
  | newline => "newline"
  | operator text => text.quote
  | redirect .. => "redirection"
  | keyword text => text.quote
  | word _ => "word"

/-- Why commands are ill-formed. -/
inductive SyntaxFault where
  | unterminatedQuote
  | unterminatedSubstitution
  | missingBrace
  | missingParentheses
  | unexpected (found : Token) (expected : Option String)
  | badVariable
  | badFunctionName

/-- The wording of a fault. -/
def SyntaxFault.message : SyntaxFault → String
  | unterminatedQuote => "Unterminated quoted string"
  | unterminatedSubstitution => "EOF in backquote substitution"
  | missingBrace => "Missing '\x7d'"
  | missingParentheses => "Missing '))'"
  | unexpected found expected =>
    let more := match expected with
      | some text => s!" (expecting {text})"
      | none => ""
    s!"{found.shown} unexpected{more}"
  | badVariable => "Bad for loop variable"
  | badFunctionName => "Bad function name"

/-- A here-document that is announced by an operator. Its text comes behind the line. -/
structure Announcement where
  number : Nat
  /-- The line that ends the text. -/
  delimiter : List Char
  /-- Whether nothing in the text is expanded. -/
  literal : Bool
  stripsTabs : Bool

/-- An abbreviation that has been replaced by what it stands for. -/
structure Replaced where
  name : String
  /-- How much is left of the text behind its value. -/
  behind : Nat
  /-- Whether the value ends in a blank, so that the next word can be an abbreviation too. -/
  endsInBlank : Bool

/-- A text as far as it is read. -/
structure Source where
  rest : List Char
  line : Nat := 1
  /-- A token that is read but not yet used. -/
  ahead : Option Token := none
  announced : List Announcement := []
  /-- The texts of here-documents by number. -/
  documents : List (Nat × Word) := []
  /-- The number of the next here-document. -/
  number : Nat := 0
  /-- The abbreviations of first words. -/
  aliases : List (String × String) := []
  /-- The abbreviations whose values are being read, and those that have been. -/
  replaced : List Replaced := []

/-- A step in reading a source. A fault has the number of its line. -/
abbrev Read := StateT Source (Except (Nat × SyntaxFault))

namespace Read

/-- Fails at the line that is reached. -/
def fault {α : Type} (reason : SyntaxFault) : Read α := fun s => .error (s.line, reason)

/-- Drops joined line ends, and counts them. -/
def joined : Nat → List Char → Nat × List Char
  | line, '\\' :: '\n' :: rest => joined (line + 1) rest
  | line, text => (line, text)

/-- The next character, behind joined line ends. -/
def peekChar : Read (Option Char) := fun s =>
  let (line, rest) := joined s.line s.rest
  .ok (rest.head?, { s with line, rest })

/-- Takes some characters as they stand. -/
def skipChars (count : Nat) : Read Unit := fun s =>
  .ok ((), { s with
    rest := s.rest.drop count
    line := s.line + (s.rest.take count).count '\n' })

/-- Takes the next character as it stands, if there is one. -/
def takeChar : Read (Option Char) := do
  let c := (← get).rest.head?
  skipChars 1
  return c

/-- Whether a character stands here. If so, it is taken. -/
def takes (c : Char) : Read Bool := do
  if (← peekChar) = some c then
    skipChars 1
    return true
  else return false

/-- Takes characters of a kind. -/
def takeWhile (p : Char → Bool) : Nat → Read (List Char)
  | 0 => return []
  | fuel + 1 => do
    match ← peekChar with
    | some c =>
      if p c then
        skipChars 1
        return c :: (← takeWhile p fuel)
      else return []
    | none => return []

/-- Takes the rest of a text in single quotes. -/
def singleQuoted : Read (List Char) := do
  let content := (← get).rest.takeWhile (· ≠ '\'')
  skipChars content.length
  if (← get).rest.isEmpty then fault .unterminatedQuote
  else
    skipChars 1
    return content

/-- Takes the rest of a text in backquotes, and drops the backslashes that protect it from them. -/
def backquoted (inQuotes : Bool) (out : List Char) : Nat → Read (List Char)
  | 0 => fault .unterminatedSubstitution
  | fuel + 1 => do
    match ← peekChar with
    | none => fault .unterminatedSubstitution
    | some c =>
      skipChars 1
      if c = '\x60' then return out.reverse
      else if c = '\\' then
        match ← takeChar with
        | none => fault .unterminatedSubstitution
        | some d =>
          if d = '\\' || d = '\x60' || d = '$' || (inQuotes && d = '"') then
            backquoted inQuotes (d :: out) fuel
          else backquoted inQuotes (d :: '\\' :: out) fuel
      else backquoted inQuotes (c :: out) fuel

/-- Reads another text, which has lines of its own. -/
def within {α : Type} (text : List Char) (line : Nat) (read : Read α) : Read α := fun s =>
  match read { rest := text, line, documents := s.documents, number := s.number, aliases := s.aliases } with
  | .ok (a, inner) => .ok (a, { s with documents := inner.documents, number := inner.number })
  | .error fault => .error fault

end Read

end ScenarioRunner.Shell

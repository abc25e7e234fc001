/-!
# Shell commands

A word is made of text and of what is expanded: parameters, the output of commands, and arithmetic.
Commands are combined into lists, pipelines, conditionals and loops, and can have functions as their
definition. The texts of here-documents are kept apart, under numbers.
-/

set_option autoImplicit false

namespace ScenarioRunner.Shell

/-- What an expansion makes of its parameter. -/
inductive Use where
  | value
  /-- How long the value is. -/
  | length
  /-- The operand, if there is no value. -/
  | otherwise (orEmpty : Bool)
  /-- The operand, if there is a value. -/
  | instead (orEmpty : Bool)
  /-- An error, if there is no value. -/
  | required (orEmpty : Bool)
  /-- The operand, if there is no value, which then becomes the value. -/
  | assigned (orEmpty : Bool)
  /-- The value without what the operand matches at one of its ends. -/
  | trimmed (atEnd longest : Bool)
  | malformed
  deriving DecidableEq

/-- How a stream is opened. -/
inductive Opening where
  | read
  | write
  /-- As `write`, even if files are protected. -/
  | overwrite
  | append
  | update
  deriving DecidableEq

mutual

/-- A part of a word. What is quoted is neither cut into fields nor matched against names. -/
inductive Part where
  | text (content : List Char) (quoted : Bool)
  | parameter (name : String) (use : Use) (operand : List Part) (quoted : Bool)
  | substitution (body : Option Command) (quoted : Bool)
  | arithmetic (expression : List Part) (quoted : Bool)

/-- What becomes of a stream of a command. -/
inductive Redirect where
  | open (stream : Nat) (opening : Opening) (path : List Part)
  /-- One stream becomes what another one is. -/
  | duplicate (stream : Nat) (source : List Part)
  /-- The stream gives the text of a here-document. -/
  | document (stream : Nat) (number : Nat)

/-- A command, with the number of its line where errors mention it. -/
inductive Command where
  | simple (line : Nat) (assignments : List (String × List Part)) (words : List (List Part))
    (redirects : List Redirect)
  | redirected (line : Nat) (body : Command) (redirects : List Redirect)
  /-- A list that cannot change the shell itself. -/
  | subshell (line : Nat) (body : Command) (redirects : List Redirect)
  /-- A command that is not waited for. -/
  | background (body : Command)
  | pipeline (parts : List Command)
  | negation (body : Command)
  | both (first second : Command)
  | either (first second : Command)
  | sequence (first second : Command)
  | conditional (condition body : Command) (other : Option Command)
  /-- A list that runs as long as the status of a condition is zero, or as long as it is not. -/
  | loop (whileZero : Bool) (condition body : Command)
  /-- A list that runs once for each of some words. -/
  | each (line : Nat) (name : String) (words : List (List Part)) (body : Command)
  /-- The list of the first branch with a pattern that matches. -/
  | choice (line : Nat) (subject : List Part) (branches : List (List (List Part) × Option Command))
  | definition (name : String) (body : Command)

end

/-- A word. -/
abbrev Word := List Part

instance : Inhabited Command := ⟨.simple 0 [] [] []⟩

/-! ## Names -/

/-- The characters that names begin with. -/
def isInitial (c : Char) : Bool := c.isAlpha || c == '_'

/-- The characters of names. -/
def isNameChar (c : Char) : Bool := c.isAlphanum || c == '_'

/-- Whether a text is a name. -/
def isName (text : List Char) : Bool := text.head?.any isInitial && text.all isNameChar

/-- Puts a character before the parts of a word. -/
def Word.cons (c : Char) (quoted : Bool) (word : Word) : Word :=
  match word with
  | .text content q :: rest =>
    if q = quoted then .text (c :: content) q :: rest else .text [c] quoted :: .text content q :: rest
  | _ => .text [c] quoted :: word

/-- The text of a word without quotes and expansions. -/
def Word.bare? (word : Word) : Option (List Char) :=
  match word with
  | [.text content false] => some content
  | _ => none

/-- The text of a word without its quotes, if nothing in it is expanded. -/
def Word.literal? : Word → Option (List Char)
  | [] => some []
  | .text content _ :: rest => (Word.literal? rest).map (content ++ ·)
  | _ :: _ => none

/-- Whether nothing in a word is quoted. -/
def Word.isUnquoted (word : Word) : Bool :=
  word.all fun
    | .text _ quoted => !quoted
    | _ => true

/-- The name and the value of a word that assigns. -/
def Word.assignment? (word : Word) : Option (String × Word) :=
  match word with
  | .text content false :: rest =>
    let name := content.takeWhile isNameChar
    match content.drop name.length with
    | '=' :: value =>
      if isName name then
        some (String.ofList name, if value.isEmpty then rest else .text value false :: rest)
      else none
    | _ => none
  | _ => none

end ScenarioRunner.Shell

import ScenarioRunner.Shell.Word

/-!
# Reading commands

A source is read line by line: a line has as many further lines as its commands and here-documents
need. Words count as keywords only where a command can begin, or where the grammar asks for them.
-/

set_option autoImplicit false

namespace ScenarioRunner.Shell

/-- The words of the grammar. -/
def keywords : List String :=
  ["!", "case", "do", "done", "elif", "else", "esac", "fi", "for", "if", "in", "then", "until",
    "while", "\x7b", "\x7d"]

/-- The commands that functions cannot take the place of. Their errors end the shell. -/
def specialCommands : List String :=
  [":", ".", "break", "continue", "eval", "exec", "exit", "export", "local", "readonly", "return",
    "set", "shift", "times", "trap", "unset"]

/-- The token that a word is where keywords count. -/
def Token.resolved : Token → Token
  | .word parts =>
    match parts.bare?.map String.ofList with
    | some text => if keywords.contains text then .keyword text else .word parts
    | none => .word parts
  | token => token

/-- Whether a token ends a list of commands. -/
def Token.endsList : Token → Bool
  | .finish => true
  | .operator text => text = ")" || text = ";;"
  | .keyword text =>
    ["do", "done", "elif", "else", "esac", "fi", "then", "\x7d"].contains text
  | _ => false

/-- Whether a token is an operator. -/
def Token.isOperator (text : String) : Token → Bool
  | .operator found => found = text
  | _ => false

/-- Whether a token is a keyword. -/
def Token.isKeyword (text : String) : Token → Bool
  | .keyword found => found = text
  | _ => false

/-- The text of a here-document and what follows it. A backslash at the end of a line joins it with
the next one, unless nothing is expanded. -/
def Announcement.split (announced : Announcement) (joins : Bool) :
    Nat → List Char → List Char × List Char
  | 0, text => ([], text)
  | fuel + 1, text =>
    let whole := text.takeWhile (· ≠ '\n')
    let behind := text.drop whole.length
    let line := if announced.stripsTabs && !joins then whole.dropWhile (· = '\t') else whole
    if text.isEmpty then ([], [])
    else if line = announced.delimiter && !joins then ([], behind.tail)
    else
      let escapes := (line.reverse.takeWhile (· = '\\')).length
      let (others, rest) :=
        announced.split (!announced.literal && escapes % 2 = 1) fuel behind.tail
      (line ++ (behind.take 1 ++ others), rest)

namespace Read

/-- How to read the commands inside an expansion, up to a bracket that closes them or not. -/
abbrev Inner := Bool → Read (Option Command)

/-- Skips blanks and a comment. -/
def skipBlanks : Nat → Read Unit
  | 0 => return ()
  | fuel + 1 => do
    match ← peekChar with
    | some ' ' | some '\t' =>
      skipChars 1
      skipBlanks fuel
    | some '#' => skipChars ((← get).rest.takeWhile (· ≠ '\n')).length
    | _ => return ()

/-- An operator that redirects a stream, by default the one that its direction says. -/
def redirection (stream : Option Nat) : Read Token := do
  if ← takes '>' then
    let make := Token.redirect (stream.getD 1)
    if ← takes '>' then return make (.open .append)
    else if ← takes '|' then return make (.open .overwrite)
    else if ← takes '&' then return make .duplicate
    else return make (.open .write)
  else
    skipChars 1
    let make := Token.redirect (stream.getD 0)
    if ← takes '<' then return make (.document (← takes '-'))
    else if ← takes '&' then return make .duplicate
    else if ← takes '>' then return make (.open .update)
    else return make (.open .read)

/-- Takes the next token. In the word that ends a here-document nothing is expanded. -/
def lex (inner : Inner) (place : Place) : Read Token := do
  skipBlanks ((← get).rest.length + 1)
  match ← peekChar with
  | none => return .finish
  | some '\n' =>
    skipChars 1
    return .newline
  | some '&' =>
    skipChars 1
    return .operator (if ← takes '&' then "&&" else "&")
  | some '|' =>
    skipChars 1
    return .operator (if ← takes '|' then "||" else "|")
  | some ';' =>
    skipChars 1
    return .operator (if ← takes ';' then ";;" else ";")
  | some '(' =>
    skipChars 1
    return .operator "("
  | some ')' =>
    skipChars 1
    return .operator ")"
  | some _ =>
    let word ← parts inner place (← enough)
    match ← peekChar with
    | some '<' | some '>' =>
      match word with
      | [] => redirection none
      | [.text [c] false] =>
        if c.isDigit then redirection (some (c.toNat - '0'.toNat)) else return .word word
      | _ => return .word word
    | _ => return .word word

/-- Reads the texts of the here-documents that the line has announced. -/
def readDocuments (inner : Inner) : Read Unit := do
  let announced := (← get).announced
  modify fun s => { s with announced := [] }
  announced.forM fun a => do
    let s ← get
    let (text, rest) := a.split false (s.rest.length + 1) s.rest
    let word ← if a.literal then pure [Part.text text true] else document inner text s.line
    modify fun t => { t with
      rest, line := s.line + (s.rest.take (s.rest.length - rest.length)).count '\n'
      documents := (a.number, word) :: t.documents }

/-- Replaces a word that is an abbreviation by what it stands for, which is read next. Inside its own
value it stands for itself. -/
def abbreviates (word : Word) : Read Bool := do
  let s ← get
  match word.bare?.map String.ofList with
  | none => return false
  | some name =>
    let left := s.rest.length
    match if s.replaced.any fun one => one.name = name && one.behind < left then none
      else s.aliases.lookup name with
    | none => return false
    | some value =>
      let last := value.toList.getLast?
      let one : Replaced := ⟨name, left, last = some ' ' || last = some '\t'⟩
      let current := s.replaced.filter fun one => one.behind < left
      set { s with rest := value.toList ++ s.rest, replaced := one :: current }
      return true

/-- Whether the next word follows the value of an abbreviation that ends in a blank. -/
def followsBlank : Read Bool := do
  let s ← get
  return s.ahead.isNone && s.replaced.any fun one =>
    one.endsInBlank && one.behind < s.rest.length
      && (s.rest.take (s.rest.length - one.behind)).all fun c => c = ' ' || c = '\t'

/-- Takes the next token, or the one that has been put back. Can skip line breaks, and can take
words for keywords and abbreviations. -/
def token (inner : Inner) (skipsBreaks resolves : Bool) : Nat → Read Token
  | 0 => return .finish
  | fuel + 1 => do
    let found ← match (← get).ahead with
      | some found =>
        modify fun s => { s with ahead := none }
        pure found
      | none => lex inner .bare
    match found, skipsBreaks with
    | .newline, true =>
      readDocuments inner
      token inner skipsBreaks resolves fuel
    | found, _ =>
      if !resolves then return found
      else match found.resolved with
        | .word word =>
          if ← abbreviates word then token inner skipsBreaks resolves fuel else return .word word
        | other => return other

/-- Takes the next token where a command can begin. -/
def next (inner : Inner) (skipsBreaks resolves : Bool) : Read Token := do
  let s ← get
  token inner skipsBreaks resolves (s.rest.length + s.aliases.length + 64)

/-- Takes the next token of a simple command, which can be an abbreviation if no word is before it. -/
def nextWord (inner : Inner) (isFirst : Bool) : Nat → Read Token
  | 0 => return .finish
  | fuel + 1 => do
    let follows ← followsBlank
    match ← next inner false false with
    | .word word =>
      if isFirst || follows then
        if ← abbreviates word then nextWord inner isFirst fuel else return .word word
      else return .word word
    | found => return found

/-- Puts a token back. -/
def putBack (found : Token) : Read Unit := modify fun s => { s with ahead := some found }

/-- Takes an operator, if it is the next token. -/
def takesOperator (inner : Inner) (text : String) : Read Bool := do
  let found ← next inner false false
  if found.isOperator text then return true
  else
    putBack found
    return false

/-- Fails at a token. -/
def refuse {α : Type} (found : Token) (expected : Option String) : Read α :=
  fault (.unexpected found expected)

/-- Takes a keyword. -/
def expectKeyword (inner : Inner) (skipsBreaks : Bool) (text : String) : Read Unit := do
  let found ← next inner skipsBreaks true
  if found.isKeyword text then return () else refuse found (some text.quote)

/-- Takes the word behind an operator of redirection. -/
def redirect (inner : Inner) (stream : Nat) (redirection : Redirection) : Read Redirect := do
  match redirection with
  | .document stripsTabs =>
    match ← lex inner .delimiter with
    | .word word =>
      let s ← get
      let announced : Announcement :=
        { number := s.number, delimiter := (word.literal?).getD [], literal := !word.isUnquoted
          stripsTabs }
      set { s with number := s.number + 1, announced := s.announced ++ [announced] }
      return .document stream s.number
    | found => refuse found none
  | .duplicate =>
    match ← next inner false false with
    | .word word => return .duplicate stream word
    | found => refuse found none
  | .open opening =>
    match ← next inner false false with
    | .word word => return .open stream opening word
    | found => refuse found none

/-- The redirections behind a command. -/
def redirects (inner : Inner) : Nat → Read (List Redirect)
  | 0 => return []
  | fuel + 1 => do
    match ← next inner false true with
    | .redirect stream redirection =>
      let first ← redirect inner stream redirection
      return first :: (← redirects inner fuel)
    | found =>
      putBack found
      return []

/-- The words of a loop, up to the token behind them. -/
def loopWords (inner : Inner) : Nat → Read (List Word)
  | 0 => return []
  | fuel + 1 => do
    match ← next inner false false with
    | .word word => return word :: (← loopWords inner fuel)
    | .newline => return []
    | found => if found.isOperator ";" then return [] else refuse found none

/-- The patterns of a branch, from a token on. -/
def patterns (inner : Inner) (first : Token) : Nat → Read (List Word)
  | 0 => return []
  | fuel + 1 => do
    let pattern : Word := match first with
      | .word word => word
      | .keyword text => [.text text.toList false]
      | _ => []
    let found ← next inner false false
    if found.isOperator "|" then
      return pattern :: (← patterns inner (← next inner false false) fuel)
    else if found.isOperator ")" then return [pattern]
    else refuse found (some ")".quote)

/-- A simple command as far as it is read. -/
structure Simple where
  assignments : List (String × Word) := []
  words : List Word := []
  redirects : List Redirect := []

/-- Where a list of commands stands. -/
inductive ListKind where
  /-- It ends with the line. -/
  | line
  /-- It has at least one command. -/
  | block
  | branch
  deriving DecidableEq

mutual

/-- The commands inside an expansion. Those in backquotes end with their text. -/
def substitution : Nat → Bool → Read (Option Command)
  | 0, _ => return none
  | fuel + 1, closed => do
    let inner := substitution fuel
    let announced := (← get).announced
    modify fun s => { s with announced := [] }
    let body ← list .branch none fuel
    if closed then
      let found ← next inner false false
      if !found.isOperator ")" then refuse found (some ")".quote)
      let s ← get
      set { s with rest := [] }
      readDocuments inner
      modify fun t => { t with rest := s.rest, line := s.line }
    modify fun s => { s with announced, ahead := none }
    return body

/-- A list of commands behind those that are already read. -/
def list (kind : ListKind) (before : Option Command) : Nat → Read (Option Command)
  | 0 => return before
  | fuel + 1 => do
    let inner := substitution fuel
    let found ← next inner (kind != .line) true
    match found, kind with
    | .newline, _ =>
      readDocuments inner
      return before
    | .finish, _ =>
      readDocuments inner
      putBack .finish
      return before
    | _, _ =>
      putBack found
      if found.endsList && (kind = .branch || (kind = .block && before.isSome)) then return before
      else
        let command ← andOr none fuel
        let behind ← next inner false false
        let command := if behind.isOperator "&" then Command.background command else command
        let all := match before with
          | none => command
          | some before => .sequence before command
        if behind.isOperator "&" || behind.isOperator ";" then list kind (some all) fuel
        else match behind with
          | .newline =>
            putBack .newline
            list kind (some all) fuel
          | .finish =>
            readDocuments inner
            putBack .finish
            return some all
          | _ =>
            if kind = .line then refuse behind none
            else
              putBack behind
              return some all

/-- Pipelines of which some depend on the outcome of the command before. -/
def andOr (before : Option (Bool × Command)) : Nat → Read Command
  | 0 => fault .missingBrace
  | fuel + 1 => do
    let inner := substitution fuel
    let command ← pipeline fuel
    let command := match before with
      | none => command
      | some (true, before) => .both before command
      | some (false, before) => .either before command
    let found ← next inner false false
    if found.isOperator "&&" || found.isOperator "||" then
      let first ← next inner true true
      putBack first
      andOr (some (found.isOperator "&&", command)) fuel
    else
      putBack found
      return command

/-- A pipeline. -/
def pipeline : Nat → Read Command
  | 0 => fault .missingBrace
  | fuel + 1 => do
    let inner := substitution fuel
    let first ← next inner false false
    if first.isKeyword "!" then
      let found ← next inner false true
      putBack found
      return .negation (← pipelineFrom fuel)
    else
      putBack first
      pipelineFrom fuel

/-- The commands of a pipeline. -/
def pipelineFrom : Nat → Read Command
  | 0 => fault .missingBrace
  | fuel + 1 => do
    let first ← command fuel
    match ← pipelineRest fuel with
    | [] => return first
    | rest => return .pipeline (first :: rest)

/-- The commands of a pipeline behind the first one. -/
def pipelineRest : Nat → Read (List Command)
  | 0 => return []
  | fuel + 1 => do
    let inner := substitution fuel
    if ← takesOperator inner "|" then
      let found ← next inner true true
      putBack found
      let first ← command fuel
      return first :: (← pipelineRest fuel)
    else return []

/-- A list that cannot be empty, before something that is expected. -/
def block (expected : String) : Nat → Read Command
  | 0 => fault .missingBrace
  | fuel + 1 => do
    match ← list .block none fuel with
    | some body => return body
    | none => refuse (← next (substitution fuel) false false) (some expected.quote)

/-- A command. -/
def command : Nat → Read Command
  | 0 => fault .missingBrace
  | fuel + 1 => do
    let inner := substitution fuel
    let line := (← get).line
    let found ← next inner false false
    match found with
    | .word _ | .redirect .. =>
      putBack found
      simple line {} fuel
    | .operator "(" =>
      let body ← block ")" fuel
      let close ← next inner false false
      if !close.isOperator ")" then refuse close (some ")".quote)
      return .subshell line body (← redirects inner fuel)
    | .keyword "if" => behind line (← conditional fuel) inner fuel
    | .keyword "while" => behind line (.loop true (← block "do" fuel) (← loopBody false fuel)) inner fuel
    | .keyword "until" => behind line (.loop false (← block "do" fuel) (← loopBody false fuel)) inner fuel
    | .keyword "for" => behind line (← forEach line fuel) inner fuel
    | .keyword "case" =>
      match ← next inner false false with
      | .word subject =>
        expectKeyword inner true "in"
        behind line (.choice line subject (← branches fuel)) inner fuel
      | found => refuse found (some "word")
    | .keyword "\x7b" =>
      let body ← block "\x7d" fuel
      expectEnd "\x7d" inner
      behind line body inner fuel
    | _ => refuse found none
where
  /-- Takes the keyword that ends a command. -/
  expectEnd (text : String) (inner : Inner) : Read Unit := do
    let found ← next inner false false
    if found.isKeyword text then return () else refuse found (some text.quote)
  /-- A command with the redirections behind it. -/
  behind (line : Nat) (body : Command) (inner : Inner) (fuel : Nat) : Read Command := do
    match ← redirects inner fuel with
    | [] => return body
    | found => return .redirected line body found

/-- The parts of a simple command, or the definition of a function. -/
def simple (line : Nat) (before : Simple) : Nat → Read Command
  | 0 => fault .missingBrace
  | fuel + 1 => do
    let inner := substitution fuel
    match ← nextWord inner before.words.isEmpty ((← get).aliases.length + 2) with
    | .word word =>
      match if before.words.isEmpty then Word.assignment? word else none with
      | some assignment =>
        simple line { before with assignments := before.assignments ++ [assignment] } fuel
      | none => simple line { before with words := before.words ++ [word] } fuel
    | .redirect stream redirection =>
      let found ← redirect inner stream redirection
      simple line { before with redirects := before.redirects ++ [found] } fuel
    | found =>
      match if found.isOperator "(" then before else {} with
      | ⟨[], [name], []⟩ =>
        let close ← next inner false false
        if !close.isOperator ")" then refuse close (some ")".quote)
        match name.bare? with
        | some name =>
          if isName name && !specialCommands.contains (String.ofList name) then
            let first ← next inner true true
            putBack first
            return .definition (String.ofList name) (← command fuel)
          else fault .badFunctionName
        | none => fault .badFunctionName
      | _ =>
        putBack found
        return .simple line before.assignments before.words before.redirects

/-- A conditional behind its first word. -/
def conditional : Nat → Read Command
  | 0 => fault .missingBrace
  | fuel + 1 => do
    let inner := substitution fuel
    let condition ← block "then" fuel
    let found ← next inner false false
    if !found.isKeyword "then" then refuse found (some "then".quote)
    let body ← block "fi" fuel
    let found ← next inner false false
    match found with
    | .keyword "elif" => return .conditional condition body (some (← conditional fuel))
    | .keyword "else" =>
      let other ← block "fi" fuel
      let found ← next inner false false
      if !found.isKeyword "fi" then refuse found (some "fi".quote)
      return .conditional condition body (some other)
    | .keyword "fi" => return .conditional condition body none
    | _ => refuse found (some "fi".quote)

/-- The list that a loop repeats. -/
def loopBody (skipsBreaks : Bool) : Nat → Read Command
  | 0 => fault .missingBrace
  | fuel + 1 => do
    let inner := substitution fuel
    expectKeyword inner skipsBreaks "do"
    let body ← block "done" fuel
    let found ← next inner false false
    if !found.isKeyword "done" then refuse found (some "done".quote)
    return body

/-- A loop over words behind its first word. -/
def forEach (line : Nat) : Nat → Read Command
  | 0 => fault .missingBrace
  | fuel + 1 => do
    let inner := substitution fuel
    match ← next inner false false with
    | .word word =>
      match word.bare?.filter isName with
      | some name =>
        let found ← next inner true true
        let words ←
          if found.isKeyword "in" then loopWords inner fuel
          else
            if !found.isOperator ";" then putBack found
            pure [[.text [] true, .parameter "@" .value [] true]]
        return .each line (String.ofList name) words (← loopBody true fuel)
      | none => fault .badVariable
    | _ => fault .badVariable

/-- The branches of a choice, with its end. -/
def branches : Nat → Read (List (List Word × Option Command))
  | 0 => return []
  | fuel + 1 => do
    let inner := substitution fuel
    let found ← next inner true true
    if found.isKeyword "esac" then return []
    else
      let first ← if found.isOperator "(" then next inner false false else pure found
      let found ← patterns inner first fuel
      let body ← list .branch none fuel
      let behind ← next inner true true
      if behind.isKeyword "esac" then return [(found, body)]
      else if behind.isOperator ";;" then return (found, body) :: (← branches fuel)
      else refuse behind (some ";;".quote)

end

end Read

/-- What a source begins with. -/
inductive Line where
  /-- Nothing is left. -/
  | finish
  /-- Commands, if there are any. Tells also whether nothing is left behind them. -/
  | commands (command : Option Command) (isLast : Bool) (rest : Source)

/-- Reads a line. -/
def Source.next (source : Source) : Except (Nat × SyntaxFault) Line := do
  let read : Read (Option Command × Bool) := do
    let added := source.aliases.foldl (fun n entry => n + entry.2.length) 1
    let steps := 16 * (source.rest.length + 4) * added
    let command ← Read.list .line none steps
    match (← get).ahead with
    | some .finish => return (command, true)
    | _ => return (command, false)
  match ← read source with
  | ((none, true), _) => return .finish
  | ((command, isLast), rest) => return .commands command isLast { rest with ahead := none }

end ScenarioRunner.Shell

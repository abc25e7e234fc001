import ScenarioRunner.Yaml.Token.Tag

/-!
# Scanning YAML tokens

A scalar, or a collection in brackets, can turn out to be the key of a mapping when a colon follows
it; its place among the tokens is kept until then, and the key's token is put in there. Outside
brackets, a deeper column opens a block collection and a lesser one closes it.
-/

set_option autoImplicit false

namespace ScenarioRunner.Yaml

/-- What may turn out to be a key. -/
structure PendingKey where
  /-- Its place among the tokens. -/
  place : Nat
  /-- Whether it has to turn out to be one. -/
  required : Bool
  /-- Its first character. -/
  start : Letter

/-- The most octets that a key without an indicator spans. -/
def keyLength : Nat := 1024

/-- Whether a pending key can no longer be one, from a letter on. -/
def PendingKey.isStale (pending : PendingKey) (l : Letter) : Bool :=
  pending.start.line < l.line || pending.start.offset + keyLength < l.offset

/-- A stream as far as it is scanned. -/
structure Scanner where
  rest : List Letter
  /-- The column of the innermost block collection. -/
  indent : Int := -1
  /-- The columns of the outer ones. -/
  outer : List Int := []
  /-- Whether a key without an indicator can begin here. -/
  keyAllowed : Bool := true
  /-- The pending keys outside brackets and at each level inside, innermost first. -/
  pending : List (Option PendingKey) := [none]
  /-- The tokens, last first. -/
  tokens : List Token := []
  /-- The number of tokens. -/
  count : Nat := 0

/-- Skips white space, comments, line breaks and the marks before lines. Tells also whether a key can
begin behind them. -/
def skipToToken (flow keyAllowed comment : Bool) : List Letter → List Letter × Bool
  | [] => ([], keyAllowed)
  | l :: rest =>
    if isBreak l.char then skipToToken flow (keyAllowed || !flow) false rest
    else if comment || l.char == '#' then skipToToken flow keyAllowed true rest
    else if l.char == ' ' || (l.column == 0 && l.char == byteOrderMark)
        || (l.char == '\t' && (flow || !keyAllowed)) then
      skipToToken flow keyAllowed false rest
    else (l :: rest, keyAllowed)

namespace Scanner

/-- Whether the stream is inside brackets. -/
def inFlow (s : Scanner) : Bool := 1 < s.pending.length

/-- Adds a token. -/
def emit (s : Scanner) (token : Token) : Scanner :=
  { s with tokens := token :: s.tokens, count := s.count + 1 }

/-- Puts tokens in at a place among the others. -/
def insertAt (s : Scanner) (place : Nat) (tokens : List Token) : Scanner :=
  let behind := s.count - place
  { s with
    tokens := s.tokens.take behind ++ tokens.reverse ++ s.tokens.drop behind
    count := s.count + tokens.length }

/-- Drops the innermost pending key. -/
def dropKey (s : Scanner) : Option Scanner :=
  match s.pending with
  | some pending :: outer => if pending.required then none else some { s with pending := none :: outer }
  | _ => some s

/-- Notes that a key may begin with the next token. -/
def saveKey (s : Scanner) : Option Scanner :=
  match s.rest with
  | l :: _ =>
    if s.keyAllowed then do
      let s ← s.dropKey
      let key : PendingKey := ⟨s.count, !s.inFlow && s.indent == (l.column : Int), l⟩
      some { s with pending := some key :: s.pending.tail }
    else some s
  | [] => some s

/-- Drops the pending keys that can no longer be keys. -/
def dropStale (s : Scanner) (l : Letter) : Option Scanner :=
  if s.pending.any fun key => key.any fun k => k.required && k.isStale l then none
  else some { s with pending := s.pending.map (Option.filter (!·.isStale l)) }

/-- Closes the block collections that are deeper than a column. -/
def unroll (s : Scanner) (column : Int) : Scanner :=
  if s.inFlow then s
  else
    let deeper := (s.indent :: s.outer).takeWhile (column < ·)
    match (s.indent :: s.outer).drop deeper.length with
    | indent :: outer =>
      { s with
        tokens := List.replicate deeper.length .blockEnd ++ s.tokens
        count := s.count + deeper.length, indent, outer }
    | [] => s

/-- Opens a block collection at a column, unless one is open there. -/
def roll (s : Scanner) (column place : Nat) (start : Token) : Scanner :=
  if s.inFlow || (column : Int) ≤ s.indent then s
  else { s.insertAt place [start] with indent := column, outer := s.indent :: s.outer }

/-- Moves on, keeping the tokens. -/
def moveTo (s : Scanner) (rest : List Letter) (keyAllowed : Bool) : Scanner :=
  { s with rest, keyAllowed }

/-- Scans a directive. -/
def scanDirective (s : Scanner) (rest : List Letter) : Option Scanner := do
  let s ← (s.unroll (-1)).dropKey
  let (token, rest) ← directive rest
  return (s.emit token).moveTo rest false

/-- Scans the start or the end of a document. -/
def scanMarker (s : Scanner) (token : Token) : Option Scanner := do
  let s ← (s.unroll (-1)).dropKey
  return (s.emit token).moveTo (s.rest.drop 3) false

/-- Scans an opening bracket. -/
def scanOpening (s : Scanner) (token : Token) (rest : List Letter) : Option Scanner := do
  let s ← s.saveKey
  return { (s.emit token).moveTo rest true with pending := none :: s.pending }

/-- Scans a closing bracket. -/
def scanClosing (s : Scanner) (token : Token) (rest : List Letter) : Option Scanner := do
  let s ← s.dropKey
  let pending := if s.inFlow then s.pending.tail else s.pending
  return { (s.emit token).moveTo rest false with pending }

/-- Scans the indicator of an entry of a block sequence. -/
def scanEntry (s : Scanner) (column : Nat) (rest : List Letter) : Option Scanner := do
  if !s.inFlow && !s.keyAllowed then none
  let s ← (s.roll column s.count .blockSequenceStart).dropKey
  return (s.emit .blockEntry).moveTo rest true

/-- Scans the indicator of a key. -/
def scanKey (s : Scanner) (column : Nat) (rest : List Letter) : Option Scanner := do
  if !s.inFlow && !s.keyAllowed then none
  let s ← (s.roll column s.count .blockMappingStart).dropKey
  return (s.emit .key).moveTo rest (!s.inFlow)

/-- Scans the indicator of a value. What is pending becomes its key. -/
def scanValue (s : Scanner) (column : Nat) (rest : List Letter) : Option Scanner :=
  match s.pending with
  | some key :: outer =>
    let s := (s.insertAt key.place [.key]).roll key.start.column key.place .blockMappingStart
    some { (s.emit .value).moveTo rest false with pending := none :: outer }
  | _ =>
    if !s.inFlow && !s.keyAllowed then none
    else
      let s := s.roll column s.count .blockMappingStart
      some ((s.emit .value).moveTo rest (!s.inFlow))

/-- Scans an anchor, a tag or a scalar that can begin a key. -/
def scanPart (s : Scanner) (part : Option (Token × List Letter)) : Option Scanner := do
  let s ← s.saveKey
  let (token, rest) ← part
  return (s.emit token).moveTo rest false

/-- Scans a block scalar. -/
def scanBlock (s : Scanner) (style : Style) (rest : List Letter) : Option Scanner := do
  let s ← s.dropKey
  let (text, rest) ← block (style == .folded) s.indent rest
  return (s.emit (.scalar style (String.ofList text))).moveTo rest true

/-- Scans a plain scalar. -/
def scanPlain (s : Scanner) : Option Scanner := do
  let s ← s.saveKey
  let (text, rest, broken) ← plain ⟨s.inFlow, s.indent + 1⟩ {} [] s.rest
  return (s.emit (.scalar .plain (String.ofList text))).moveTo rest broken

/-- The characters that cannot begin a plain scalar, some of them only before a blank. -/
def indicators : List Char :=
  ['-', '?', ':', ',', '[', ']', '\x7b', '\x7d', '#', '&', '*', '!', '|', '>', '\'', '"', '%', '@',
    '\x60']

/-- Whether a plain scalar can begin with a letter. -/
def beginsPlain (flow : Bool) (l : Letter) (rest : List Letter) : Bool :=
  (!isSpace l.char && !isBreak l.char && !indicators.contains l.char)
    || (l.char == '-' && !rest.head?.any (isSpace ·.char))
    || (!flow && (l.char == '?' || l.char == ':') && !endsWord rest)

/-- Scans the token that begins with a letter. -/
def scanFrom (s : Scanner) (l : Letter) (rest : List Letter) : Option Scanner :=
  if l.column = 0 ∧ l.char = '%' then s.scanDirective rest
  else if isMarker '-' s.rest then s.scanMarker .documentStart
  else if isMarker '.' s.rest then s.scanMarker .documentEnd
  else if l.char = '[' then s.scanOpening .flowSequenceStart rest
  else if l.char = '\x7b' then s.scanOpening .flowMappingStart rest
  else if l.char = ']' then s.scanClosing .flowSequenceEnd rest
  else if l.char = '\x7d' then s.scanClosing .flowMappingEnd rest
  else if l.char = ',' then s.dropKey.map fun s => (s.emit .flowEntry).moveTo rest true
  else if l.char = '-' ∧ endsWord rest then s.scanEntry l.column rest
  else if l.char = '?' ∧ (s.inFlow ∨ endsWord rest) then s.scanKey l.column rest
  else if l.char = ':' ∧ (s.inFlow ∨ endsWord rest) then s.scanValue l.column rest
  else if l.char = '*' then s.scanPart ((anchorName rest).map fun (name, rest) => (.alias name, rest))
  else if l.char = '&' then s.scanPart ((anchorName rest).map fun (name, rest) => (.anchor name, rest))
  else if l.char = '!' then
    s.scanPart ((tag s.inFlow s.rest).map fun (written, rest) => (.tag written, rest))
  else if l.char = '|' ∧ !s.inFlow then s.scanBlock .literal rest
  else if l.char = '>' ∧ !s.inFlow then s.scanBlock .folded rest
  else if l.char = '\'' then
    s.scanPart ((singleQuoted {} [] rest).map fun (text, rest) =>
      (.scalar .singleQuoted (String.ofList text), rest))
  else if l.char = '"' then
    s.scanPart ((doubleQuoted {} [] .none rest).map fun (text, rest) =>
      (.scalar .doubleQuoted (String.ofList text), rest))
  else if beginsPlain s.inFlow l rest then s.scanPlain
  else none

/-- Scans up to the end. Every token takes at least one letter, which bounds the steps. -/
def run : Nat → Scanner → Option (List Token)
  | 0, _ => none
  | fuel + 1, s =>
    let (rest, keyAllowed) := skipToToken s.inFlow s.keyAllowed false s.rest
    let s := s.moveTo rest keyAllowed
    match rest with
    | [] => ((s.unroll (-1)).dropKey).map fun s => s.tokens.reverse
    | l :: behind => do
      let s ← s.dropStale l
      run fuel (← (s.unroll l.column).scanFrom l behind)

end Scanner

/-- The tokens of a stream, unless it is ill-formed. -/
def Token.scan? (letters : List Letter) : Option (List Token) :=
  Scanner.run (letters.length + 1) { rest := letters }

end ScenarioRunner.Yaml

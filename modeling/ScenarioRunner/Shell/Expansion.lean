import ScenarioRunner.Shell.Arithmetic
import ScenarioRunner.Shell.Pattern
import ScenarioRunner.Shell.State

/-!
# Expanding words

A word is expanded to characters that remember where they come from. Those that come from unquoted
expansions are cut into fields at separators, and unquoted ones make patterns, which are replaced by
the names of the files that they match.
-/

set_option autoImplicit false

namespace ScenarioRunner.Shell

/-- Where a character of an expanded word comes from. -/
inductive Origin where
  | written
  | quoted
  | expanded
  deriving DecidableEq

/-- A part of an expanded word. -/
inductive Glyph where
  | char (c : Char) (origin : Origin)
  /-- The end of a field. -/
  | cut
  /-- Empty quotes, which make a field even if nothing else does. -/
  | hold
  deriving DecidableEq

namespace Glyph

/-- The characters of a text, all from one origin. -/
def ofText (origin : Origin) (text : List Char) : List Glyph := text.map fun c => .char c origin

/-- The text of glyphs. Fields are joined by blanks. -/
def text (glyphs : List Glyph) : List Char :=
  glyphs.flatMap fun
    | .char c _ => [c]
    | .cut => [' ']
    | .hold => []

/-- The signs of the pattern that glyphs make. -/
def signs (glyphs : List Glyph) : List Sign :=
  glyphs.flatMap fun
    | .char c origin => [⟨c, origin = .quoted⟩]
    | .cut => [⟨' ', false⟩]
    | .hold => []

/-- Whether a glyph is a separator of a kind. -/
def separates (p : Char → Bool) : Glyph → Bool
  | .char c .expanded => p c
  | _ => false

/-- Cuts glyphs into fields at cuts and separators. Blanks among the separators count as one, with
another separator among them or not, and not at all at the start of a field. -/
def fields (separators : List Char) : Nat → List Glyph → List Glyph → List (List Glyph)
  | 0, field, _ => [field.reverse]
  | _ + 1, field, [] => if field.isEmpty then [] else [field.reverse]
  | fuel + 1, field, glyph :: rest =>
    let isBlank := separates fun c => separators.contains c && [' ', '\t', '\n'].contains c
    let isOther := separates fun c => separators.contains c && ! [' ', '\t', '\n'].contains c
    if glyph = .cut then
      if field.isEmpty then fields separators fuel [] rest
      else field.reverse :: fields separators fuel [] rest
    else if isBlank glyph then
      if field.isEmpty then fields separators fuel [] rest
      else
        let behind := rest.dropWhile isBlank
        match behind with
        | other :: after =>
          if isOther other then field.reverse :: fields separators fuel [] (after.dropWhile isBlank)
          else field.reverse :: fields separators fuel [] behind
        | [] => [field.reverse]
    else if isOther glyph then
      field.reverse :: fields separators fuel [] (rest.dropWhile isBlank)
    else fields separators fuel (glyph :: field) rest

end Glyph

/-! ## Parameters -/

/-- The value of a parameter: the fields that it has, if it is set. -/
def parameter (name : String) : Run (Option (List String)) := do
  let p ← process
  match name with
  | "@" | "*" => return if p.arguments.isEmpty then none else some p.arguments
  | "#" => return some [toString p.arguments.length]
  | "?" => return some [toString p.status]
  | "$" => return some [toString p.number]
  | "!" => return p.latest.map fun number => [toString number]
  | "-" => return some [String.ofList p.options]
  | "0" => return some [p.name]
  | _ =>
    match name.toNat? with
    | some n => return (p.arguments[n - 1]?).map fun text => [text]
    | none => return (← value? name).map fun text => [text]

/-- The text of the fields of a parameter, joined as an assignment joins them. -/
def joinFields (fields : List String) : String := String.intercalate " " fields

/-- The glyphs of the fields of a parameter. -/
def fieldGlyphs (name : String) (quoted : Bool) (fields : List String) : Run (List Glyph) := do
  let origin := if quoted then Origin.quoted else .expanded
  if name = "*" && quoted then
    let separator := (← separators).take 1
    return .hold :: Glyph.ofText origin (separator.intercalate (fields.map String.toList))
  else if name = "@" || name = "*" then
    let each := fields.map fun text =>
      (if quoted then [Glyph.hold] else []) ++ Glyph.ofText origin text.toList
    return [Glyph.cut].intercalate each
  else return Glyph.ofText origin (joinFields fields).toList

/-- The directory that a name behind a tilde stands for. -/
def homeOf (name : List Char) : Run (Option String) := do
  if name.isEmpty then return (← value? "HOME").filter (!·.isEmpty)
  else return if name = "root".toList then some "/root" else none

/-- The glyphs of unquoted text, in which a tilde at the start stands for a directory, and behind
colons too where a variable gets a value. -/
def tilde (assigns : Bool) : Nat → Bool → List Char → Run (List Glyph)
  | 0, _, text => return Glyph.ofText .written text
  | _ + 1, _, [] => return []
  | fuel + 1, atStart, c :: rest => do
    if c = '~' && atStart then
      let name := rest.takeWhile fun d => d ≠ '/' && !(assigns && d = ':')
      match ← homeOf name with
      | some home =>
        return Glyph.ofText .quoted home.toList
          ++ (← tilde assigns fuel false (rest.drop name.length))
      | none => return .char c .written :: (← tilde assigns fuel false rest)
    else return .char c .written :: (← tilde assigns fuel (assigns && c = ':') rest)

/-! ## Words -/

/-- How a word is expanded. -/
structure Manner where
  /-- Whether unquoted text counts as expanded. -/
  inOperand : Bool := false
  /-- Whether the word is the value of a variable. -/
  assigns : Bool := false

/-- Runs the commands of an expansion and gives what they write. -/
abbrev Substitute := Option Command → Run Bytes

/-- A text without the line breaks at its end. -/
def withoutLastBreaks (text : List Char) : List Char :=
  (text.reverse.dropWhile (· = '\n')).reverse

/-- Fails with the reason why an expression has no value. -/
def failArithmetic {α : Type} (text : List Char) : Arithmetic.Fault → Run α
  | .expression reason => fail s!"arithmetic expression: {reason}: {(String.ofList text).quote}"
  | .illegalNumber value => fail s!"Illegal number: {value}"
  | .unset name => fail s!"{name}: parameter not set"

/-- The value of an expression. Its assignments are carried out. -/
def evaluate (text : List Char) : Run Int64 := do
  let p ← process
  let outside (name : String) : Except Arithmetic.Fault (Option String) :=
    match (p.bindings.lookup name).bind Variable.value with
    | some value => .ok (some value)
    | none => if p.options.contains 'u' then .error (.unset name) else .ok none
  match Arithmetic.evaluate outside text with
  | .error fault => failArithmetic text fault
  | .ok (n, assigned) =>
    assigned.reverse.forM fun (name, value) => assign name (toString value.toInt)
    return n

mutual

/-- The glyphs of a word. -/
def expandParts (substitute : Substitute) (manner : Manner) (atStart : Bool) :
    Nat → Word → Run (List Glyph)
  | 0, _ => return []
  | _ + 1, [] => return []
  | fuel + 1, .text [] true :: .parameter "@" .value operand true :: rest => do
    -- quotes around all arguments make no field if there are none
    let own ← expandPart substitute manner atStart fuel (.parameter "@" .value operand true)
    return own ++ (← expandParts substitute manner false fuel rest)
  | fuel + 1, part :: rest => do
    let own ← expandPart substitute manner atStart fuel part
    return own ++ (← expandParts substitute manner (manner.assigns && endsInColon part) fuel rest)
where
  /-- Whether a part is text with a colon at its end. -/
  endsInColon : Part → Bool
    | .text content false => content.getLast? = some ':'
    | _ => false

/-- The glyphs of a part of a word. -/
def expandPart (substitute : Substitute) (manner : Manner) (atStart : Bool) :
    Nat → Part → Run (List Glyph)
  | 0, _ => return []
  | fuel + 1, part => do
    match part with
    | .text content true => return .hold :: Glyph.ofText .quoted content
    | .text content false =>
      let glyphs ← tilde manner.assigns (content.length + 1) atStart content
      return if manner.inOperand then glyphs.map asExpanded else glyphs
    | .substitution body quoted =>
      let output := (Octets.ofBytes (← substitute body)).filter (· ≠ '\x00')
      return Glyph.ofText (if quoted then .quoted else .expanded) (withoutLastBreaks output)
    | .arithmetic expression quoted =>
      let text := Glyph.text (← expandParts substitute {} false fuel expression)
      let n ← evaluate text
      return Glyph.ofText (if quoted then .quoted else .expanded) (toString n.toInt).toList
    | .parameter name use operand quoted =>
      let found ← parameter name
      let isSet (orEmpty : Bool) := found.any fun fields => !orEmpty || !(joinFields fields).isEmpty
      match use with
      | .malformed => fail "Bad substitution"
      | .value =>
        checkSet name found
        fieldGlyphs name quoted (found.getD [])
      | .length =>
        checkSet name found
        let length := (joinFields (found.getD [])).length
        return Glyph.ofText (if quoted then .quoted else .expanded) (toString length).toList
      | .otherwise orEmpty =>
        if isSet orEmpty then fieldGlyphs name quoted (found.getD [])
        else expandParts substitute { inOperand := !quoted } true fuel operand
      | .instead orEmpty =>
        if isSet orEmpty then expandParts substitute { inOperand := !quoted } true fuel operand
        else return []
      | .required orEmpty =>
        if isSet orEmpty then fieldGlyphs name quoted (found.getD [])
        else
          let reason := Glyph.text (← expandParts substitute {} true fuel operand)
          if operand.isEmpty then
            let more := if orEmpty then " or null" else ""
            fail s!"{name}: parameter not set{more}"
          else fail s!"{name}: {String.ofList reason}"
      | .assigned orEmpty =>
        if isSet orEmpty then fieldGlyphs name quoted (found.getD [])
        else if !isName name.toList then fail s!"{name}: bad variable name"
        else
          let value := String.ofList (Glyph.text (← expandParts substitute {} true fuel operand))
          assign name value
          fieldGlyphs name quoted [value]
      | .trimmed atEnd longest =>
        checkSet name found
        let items := Pattern.ofSigns (Glyph.signs (← expandParts substitute {} true fuel operand))
        let trim := if atEnd then Pattern.trimEnd items longest else Pattern.trimStart items longest
        fieldGlyphs name quoted ((found.getD []).map fun text => String.ofList (trim text.toList))
where
  /-- A glyph as if it came from an expansion. -/
  asExpanded : Glyph → Glyph
    | .char c .written => .char c .expanded
    | glyph => glyph
  /-- Fails for a parameter that is not set, if that is an error. -/
  checkSet (name : String) (found : Option (List String)) : Run Unit := do
    if found.isNone && name != "@" && name != "*" && (← hasOption 'u') then
      fail s!"{name}: parameter not set"

end

/-- How deep expansions can be inside each other. -/
def expansionDepth : Nat := 100000

/-- The glyphs of a whole word. -/
def glyphsOf (substitute : Substitute) (manner : Manner) (word : Word) : Run (List Glyph) :=
  expandParts substitute manner true expansionDepth word

/-- The text of a word that is not cut into fields. -/
def textOf (substitute : Substitute) (word : Word) : Run String := do
  return String.ofList (Glyph.text (← glyphsOf substitute {} word))

/-- The value that a word gives a variable. -/
def valueOf (substitute : Substitute) (word : Word) : Run String := do
  return String.ofList (Glyph.text (← glyphsOf substitute { assigns := true } word))

/-! ## Names of files -/

/-- Cuts glyphs at slashes. -/
def cutAtSlashes : List Glyph → List (List Glyph)
  | [] => [[]]
  | .char '/' _ :: rest => [] :: cutAtSlashes rest
  | glyph :: rest =>
    match cutAtSlashes rest with
    | part :: parts => (glyph :: part) :: parts
    | [] => [[glyph]]

/-- Whether glyphs make a pattern. -/
def isPattern (glyphs : List Glyph) : Bool := Pattern.isOpen (Glyph.signs glyphs)

/-- The names in a directory that a pattern can match: those that begin with a point only if it
does. -/
def candidates (files : FileTree) (place : List String) (glyphs : List Glyph) : List String :=
  match files.get? place with
  | some (.directory entries) =>
    let names := "." :: ".." :: entries.map fun entry => Octets.ofText entry.1
    if (Glyph.text glyphs).head? = some '.' then names else names.filter (!·.startsWith ".")
  | _ => []

/-- The paths behind a path that some patterns match, one for each directory and one for the name. -/
def matchPaths (files : FileTree) (directory : List String) (path : String) :
    List (List Glyph) → List String
  | [] => [path]
  | glyphs :: rest =>
    let behind (name : String) : List String :=
      if rest.isEmpty then [path ++ name] else matchPaths files directory (path ++ name ++ "/") rest
    if isPattern glyphs then
      let place := files.enter directory (Octets.toText (if path.isEmpty then "." else path))
      let items := Pattern.ofSigns (Glyph.signs glyphs)
      match place with
      | .ok place =>
        ((candidates files place glyphs).filter fun name =>
          Pattern.accepts items name.toList).flatMap behind
      | .error _ => []
    else
      let name := String.ofList (Glyph.text glyphs)
      if rest.isEmpty && !files.contains directory (Octets.toText (path ++ name)) then []
      else behind name

/-- The words that a field stands for. -/
def wordsOfField (field : List Glyph) : Run (List String) := do
  let s ← get
  if isPattern field && !s.process.options.contains 'f' then
    let found := matchPaths s.files s.process.place "" (cutAtSlashes field)
    return if found.isEmpty then [String.ofList (Glyph.text field)]
      else found.mergeSort fun a b => decide (a ≤ b)
  else return [String.ofList (Glyph.text field)]

/-- The words that a word stands for. -/
def wordsOf (substitute : Substitute) (word : Word) : Run (List String) := do
  let glyphs ← glyphsOf substitute {} word
  let found := Glyph.fields (← separators) (glyphs.length + 1) [] glyphs
  return (← found.mapM wordsOfField).flatten

end ScenarioRunner.Shell

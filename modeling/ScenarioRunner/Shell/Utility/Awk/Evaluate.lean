import ScenarioRunner.Shell.Utility.Awk.Machine

/-!
# Running scripts on records

Expressions have values, statements change the state of the script. The rules are gone through for
every record of the input.
-/

set_option autoImplicit false

namespace ScenarioRunner.Shell.Awk

/-- Sets a variable or a field to what a line of input is, and counts the line if that is asked for. -/
def takeLine (name : Option String) (line : List Char) (assignTo : Cell → Step Unit)
    (isTarget : Bool) : Step Unit := do
  match name with
  | some name => countRecord name
  | none => pure ()
  if isTarget then assignTo (.input line) else setRecord line

/-- The character in which an index keeps its parts apart. -/
def indexText (cells : List Cell) : Step String := do
  let between ← specialText "SUBSEP"
  let texts ← cells.mapM textOf
  return String.ofList (between.intercalate texts)

/-- The place where a number falls between integers, a half going to the even one. -/
def nearestWhole (x : Binary64) : Int :=
  let n : Int := roundHalfEven x.magnitude Binary64.unitsPerOne
  if x.negative then -n else n

/-- A part of a text, from a place on and of a length. -/
def substring (text : List Char) (start : Binary64) (size : Option Binary64) : List Char :=
  let first := nearestWhole start
  let last : Int := match size with
    | some n =>
      if n.isFinite then first + nearestWhole n
      else if n.negative || n.isNaN then 0
      else text.length + 1
    | none => text.length + 1
  let low := max first 1
  let upTo := min last (text.length + 1)
  (text.take (upTo - 1).toNat).drop (low - 1).toNat

/-- Where a text is found in another one, from one on. -/
def indexOf (part : List Char) : Nat → List Char → Nat
  | n, text =>
    if part.isPrefixOf text then n
    else match text with
      | [] => 0
      | _ :: rest => indexOf part (n + 1) rest

/-- What is shown of the state in an error. -/
def whereabouts : Step String := do
  let file := String.ofList (← specialText "FILENAME")
  let inFile := String.ofList (← specialText "FNR")
  let all := String.ofList (← specialText "NR")
  return "\n\tFILENAME=\"" ++ file ++ "\" FNR=" ++ inFile ++ " NR=" ++ all

/-- Writes values in a format, for a statement or a function of a name. What stands before a fault
is passed on. -/
def formatted (name : String) (arguments : List Cell) (pass : List Char → Step Unit) :
    Step (List Char) := do
  match arguments with
  | [] => return []
  | first :: rest =>
    let format ← textOf first
    match fill (← style) (format.length + 1) 1 format rest with
    | (text, none) => return text
    | (text, some fault) =>
      pass text
      let shown := name ++ "(\"" ++ String.ofList format ++ "\")"
      match fault with
      | .tooFew => throw (.fault s!"not enough arguments passed to {shown}")
      | .improper number => throw (.fault s!"improper conversion(number {number}) in {shown}")

mutual

/-- The value of an expression. -/
def evaluate (site : Site) : Nat → Expr → Step Cell
  | 0, _ => throw (.fault "out of memory")
  | fuel + 1, expr => do
    match expr with
    | .number x => return .number x
    | .text content => return .text content
    | .regex found => return .ofBool (found.find? ⟨(← get).record.toArray, false⟩ 0).isSome
    | .named name => valueOf name
    | .element array index =>
      let key ← indexText (← evaluateAll site fuel index)
      elementAt (← arrayOf array) key
    | .field index => fieldAt (← fieldNumber (← evaluate site fuel index))
    | .list items => return (← evaluateAll site fuel items).getLastD .unset
    | .negate inner => return .number (negative (← evaluate site fuel inner).toNumber)
    | .positive inner => return .number (← evaluate site fuel inner).toNumber
    | .not inner => return .ofBool (!(← evaluate site fuel inner).holds)
    | .binary operation first second =>
      let a ← evaluate site fuel first
      let b ← evaluate site fuel second
      return .number (operation.apply a.toNumber b.toNumber)
    | .join first second =>
      let a ← textOf (← evaluate site fuel first)
      return .text (a ++ (← textOf (← evaluate site fuel second)))
    | .compare comparison first second =>
      let a ← evaluate site fuel first
      let b ← evaluate site fuel second
      return .ofBool (Cell.compares (← style) comparison a b)
    | .matching negated text pattern =>
      let subject ← textOf (← evaluate site fuel text)
      let regex ← regexOf site fuel pattern
      return .ofBool ((regex.find? ⟨subject.toArray, false⟩ 0).isSome != negated)
    | .both first second =>
      if (← evaluate site fuel first).holds then
        return .ofBool (← evaluate site fuel second).holds
      else return .ofBool false
    | .either first second =>
      if (← evaluate site fuel first).holds then return .ofBool true
      else return .ofBool (← evaluate site fuel second).holds
    | .choose condition first second =>
      if (← evaluate site fuel condition).holds then evaluate site fuel first
      else evaluate site fuel second
    | .member index array =>
      let key ← indexText (← evaluateAll site fuel index)
      return .ofBool ((← entries (← arrayOf array)).lookup key).isSome
    | .assign target value =>
      let cell ← evaluate site fuel value
      store site fuel target cell
      return cell
    | .update operation target value =>
      let b ← evaluate site fuel value
      let a ← evaluate site fuel target
      let cell := Cell.number (operation.apply a.toNumber b.toNumber)
      store site fuel target cell
      return cell
    | .count isUp givesOld target =>
      let old := (← evaluate site fuel target).toNumber
      let new := Operation.add.apply old (.ofInt (if isUp then 1 else -1))
      store site fuel target (.number new)
      return .number (if givesOld then old else new)
    | .call name arguments => callFunction site fuel name arguments
    | .builtin name arguments => callBuiltin site fuel name arguments
    | .readLine source target => readLine site fuel source target
where
  /-- A number with its sign changed. Zero has none. -/
  negative (x : Binary64) : Binary64 := if x.magnitude = 0 then .zero false else x.neg

/-- The values of expressions. -/
def evaluateAll (site : Site) : Nat → List Expr → Step (List Cell)
  | 0, _ => return []
  | _ + 1, [] => return []
  | fuel + 1, expr :: rest => do
    let first ← evaluate site fuel expr
    return first :: (← evaluateAll site fuel rest)

/-- Gives what an expression names a value. -/
def store (site : Site) : Nat → Expr → Cell → Step Unit
  | 0, _, _ => return ()
  | fuel + 1, target, cell => do
    match target with
    | .named name => assign name cell
    | .element array index =>
      let key ← indexText (← evaluateAll site fuel index)
      setElement (← arrayOf array) key cell
    | .field index => setField (← fieldNumber (← evaluate site fuel index)) cell
    | _ => return ()

/-- The regular expression that an expression stands for. -/
def regexOf (site : Site) : Nat → Expr → Step Regex
  | 0, _ => return .anyChar
  | fuel + 1, pattern => do
    match pattern with
    | .regex found => return found
    | pattern => compiled (← textOf (← evaluate site fuel pattern))

/-- Calls a function. -/
def callFunction (site : Site) : Nat → String → List Expr → Step Cell
  | 0, _, _ => throw (.fault "function call nesting too deep")
  | fuel + 1, name, arguments => do
    match (← get).script.functions.lookup name with
    | none => return .unset
    | some function =>
      let slots ← arguments.mapM fun argument => do
        match argument with
        | .named name => return (← slot? name).getD (.cell .unset)
        | argument => return Slot.cell (← evaluate site fuel argument)
      let before := (← get).frame
      let missing := List.replicate (function.parameters.length - slots.length) (Slot.cell .unset)
      let frame := function.parameters.zip (slots ++ missing)
      modify fun m => { m with frame, returned := .unset }
      let course ← courseOf (execute site fuel function.body)
      let after := (← get).frame
      let value := (← get).returned
      modify fun m => { m with frame := before, returned := .unset }
      -- a variable that the function has made an array of is one from then on
      (arguments.zip function.parameters).forM fun (argument, parameter) => do
        match argument, after.lookup parameter with
        | .named name, some (.array number) =>
          match ← slot? name with
          | some (.cell .unset) | none => setSlot name (.array number)
          | _ => pure ()
        | _, _ => pure ()
      match course with
      | none | some .back => return value
      | some course => throw course

/-- Calls a built-in function. -/
def callBuiltin (site : Site) : Nat → String → List Expr → Step Cell
  | 0, _, _ => return .unset
  | fuel + 1, name, arguments => do
    let textAt (n : Nat) : Step (List Char) := do
      match arguments[n]? with
      | some expr => textOf (← evaluate site fuel expr)
      | none => return (← get).record
    let numberAt (n : Nat) : Step Binary64 := do
      match arguments[n]? with
      | some expr => return (← evaluate site fuel expr).toNumber
      | none => return .zero false
    let number (f : Binary64 → Binary64) : Step Cell := do return .number (f (← numberAt 0))
    match name with
    | "length" =>
      match arguments with
      | [.named array] =>
        match ← slot? array with
        | some (.array number) => return .ofInt (← entries number).length
        | _ => return .ofInt (← textAt 0).length
      | _ => return .ofInt (← textAt 0).length
    | "substr" =>
      let text ← textAt 0
      let start ← numberAt 1
      let size ← if 2 < arguments.length then some <$> numberAt 2 else pure none
      return .text (substring text start size)
    | "index" =>
      let text ← textAt 0
      return .ofInt (indexOf (← textAt 1) 1 text)
    | "split" =>
      let text ← textAt 0
      let third : Option Expr := arguments[2]?
      let separator ← match third with
        | some (.regex found) => pure (Separator.regex found)
        | some expr => separatorOf (← textOf (← evaluate site fuel expr))
        | none => separatorOf (← specialText "FS")
      let parts := separator.fields text
      let found := (parts.zip (List.range parts.length)).map fun (part, n) =>
        (toString (n + 1), Cell.input part)
      let second : Option Expr := arguments[1]?
      match second with
      | some (.named array) => setEntries (← arrayOf array) found
      | _ => pure ()
      return .ofInt parts.length
    | "sub" | "gsub" =>
      let regex ← match arguments[0]? with
        | some pattern => regexOf site fuel pattern
        | none => pure .anyChar
      let new ← textAt 1
      let target := (arguments[2]?).getD (.field (.number (.zero false)))
      let subject ← textOf (← evaluate site fuel target)
      let (text, count) :=
        substitute regex ⟨subject.toArray, false⟩ new (name = "gsub") false (2 * subject.length + 2) 0
      if 0 < count then store site fuel target (.text text)
      return .ofInt count
    | "match" =>
      let subject ← textAt 0
      let regex ← match arguments[1]? with
        | some pattern => regexOf site fuel pattern
        | none => pure .anyChar
      let (start, size) : Int × Int :=
        match regex.find? ⟨subject.toArray, false⟩ 0 with
        | some (start, m) => (start + 1, m.place - start)
        | none => (0, -1)
      setSpecial "RSTART" (.ofInt start)
      setSpecial "RLENGTH" (.ofInt size)
      return .ofInt start
    | "sprintf" =>
      let cells ← evaluateAll site fuel arguments
      return .text (← formatted "sprintf" cells fun _ => pure ())
    | "sin" => number Binary64.sin
    | "cos" => number Binary64.cos
    | "exp" => number Binary64.exp
    | "log" => number Binary64.log
    | "sqrt" => number Binary64.sqrt
    | "int" => number fun x => if x.isFinite then .ofInt (wholePart x) else x
    | "atan2" =>
      let y ← numberAt 0
      return .number (y.atan2 (← numberAt 1))
    | "rand" =>
      let next := ((← get).random * 6364136223846793005 + 1442695040888963407) % Nat.pow 2 64
      modify fun m => { m with random := next }
      return .number (.nearest false (next / 2048) (Nat.pow 2 53))
    | "srand" =>
      let seed ← match arguments with
        | [] => pure (Cell.ofInt 0)
        | expr :: _ => evaluate site fuel expr
      let before := (← get).seed
      modify fun m => { m with seed, random := (wholePart seed.toNumber).toNat }
      return before
    | "tolower" => return .text ((← textAt 0).map Char.toLower)
    | "toupper" => return .text ((← textAt 0).map Char.toUpper)
    | "system" =>
      let text ← textAt 0
      flush
      return .ofInt (statusNumber (← outside (site.command text)))
    | "close" => return .ofInt (← close site (← textAt 0))
    | _ =>
      flush
      return .ofInt 0

/-- Reads a line. The value says whether there was one. -/
def readLine (site : Site) : Nat → Source → Option Expr → Step Cell
  | 0, _, _ => return .unset
  | fuel + 1, source, target => do
    let put (name : Option String) (line : List Char) : Step Cell := do
      takeLine name line (fun cell => match target with
        | some expr => store site fuel expr cell
        | none => pure ()) target.isSome
      return .ofInt 1
    let fromReader (name : Option String) (key : List Char) : Step Cell := do
      let left := ((← get).readers.lookup key).getD []
      match ← nextRecord (← specialText "RS") left with
      | some (line, rest) =>
        modify fun m => { m with readers := (key, rest) :: m.readers.filter (·.1 ≠ key) }
        put name line
      | none => return .ofInt 0
    match source with
    | .input =>
      match ← nextInput 4096 with
      | some line => put none line
      | none => return .ofInt 0
    | .file path =>
      let key ← textOf (← evaluate site fuel path)
      if ((← get).readers.lookup key).isNone then
        let s ← outside get
        if key = ['-'] || key = "/dev/stdin".toList then
          let bytes ← outside Program.takeInput
          modify fun m => { m with readers := (key, Octets.ofBytes bytes) :: m.readers }
          fromReader none key
        else match s.files.read s.process.place (Octets.toText (String.ofList key)) with
          | .ok bytes =>
            modify fun m => { m with readers := (key, Octets.ofBytes bytes) :: m.readers }
            fromReader none key
          | .error _ => return .ofInt (-1)
      else fromReader none key
    | .command text =>
      let key ← textOf (← evaluate site fuel text)
      if ((← get).readers.lookup key).isNone then
        let found ← commandOutput site key
        modify fun m => { m with readers := (key, found) :: m.readers }
      fromReader (some "NR") key

/-- Runs a step and gives the reason why it has not come to its end, if there is one. -/
def courseOf (step : Step Unit) : Step (Option Course) :=
  tryCatch (do step; return none) fun course => return some course

/-- Writes text to where an outlet leads. -/
def send (site : Site) : Nat → Outlet → List Char → Step Unit
  | 0, _, _ => return ()
  | fuel + 1, outlet, text => do
    match outlet with
    | .output => modify fun m => { m with output := text :: m.output }
    | .file path => writePath false (← textOf (← evaluate site fuel path)) text
    | .append path => writePath true (← textOf (← evaluate site fuel path)) text
    | .command command => writeCommand (← textOf (← evaluate site fuel command)) text

/-- Carries out a statement. -/
def execute (site : Site) : Nat → Statement → Step Unit
  | 0, _ => throw (.fault "out of memory")
  | fuel + 1, statement => do
    match statement with
    | .block items => items.forM (execute site fuel)
    | .print arguments outlet =>
      let cells ← evaluateAll site fuel arguments
      let format ← specialText "OFMT"
      let between ← specialText "OFS"
      let ending ← specialText "ORS"
      let record := (← get).record
      let text := if arguments.isEmpty then record
        else between.intercalate (cells.map (Cell.toText format))
      send site fuel outlet (text ++ ending)
    | .format arguments outlet =>
      let cells ← evaluateAll site fuel arguments
      send site fuel outlet (← formatted "printf" cells (send site fuel outlet))
    | .value expr => let _ ← evaluate site fuel expr
    | .branch condition first second =>
      if (← evaluate site fuel condition).holds then execute site fuel first
      else match second with
        | some second => execute site fuel second
        | none => return ()
    | .loop condition body => rounds site condition body fuel
    | .loopUntil body condition =>
      if ← once (execute site fuel body) then rounds site condition body fuel
    | .steps start condition step body =>
      match start with
      | some start => execute site fuel start
      | none => pure ()
      stepRounds site condition step body fuel
    | .each name array body =>
      let number ← arrayOf array
      eachRound site name body fuel (keysInOrder ((← entries number).map Prod.fst))
    | .leave => throw .leave
    | .again => throw .again
    | .next => throw .next
    | .nextFile => throw .nextFile
    | .exit status =>
      match status with
      | some expr =>
        let x := (← evaluate site fuel expr).toNumber
        modify fun m => { m with status := (wholePart x % 256).toNat }
      | none => pure ()
      throw .exit
    | .back value =>
      match value with
      | some expr =>
        let cell ← evaluate site fuel expr
        modify fun m => { m with returned := cell }
      | none => pure ()
      throw .back
    | .delete array index =>
      let number ← arrayOf array
      if index.isEmpty then setEntries number []
      else
        let key ← indexText (← evaluateAll site fuel index)
        setEntries number ((← entries number).filter (·.1 ≠ key))

/-- Runs a step as a round of a loop. Tells whether there can be another one. -/
def once (step : Step Unit) : Step Bool := do
  match ← courseOf step with
  | none | some .again => return true
  | some .leave => return false
  | some course => throw course

/-- The rounds of a loop with a condition. -/
def rounds (site : Site) (condition : Expr) (body : Statement) : Nat → Step Unit
  | 0 => throw .exit
  | fuel + 1 => do
    if (← evaluate site fuel condition).holds then
      if ← once (execute site fuel body) then rounds site condition body fuel

/-- The rounds of a loop with a step. -/
def stepRounds (site : Site) (condition : Option Expr) (step : Option Statement) (body : Statement) :
    Nat → Step Unit
  | 0 => throw .exit
  | fuel + 1 => do
    let goesOn ← match condition with
      | some condition => do pure (← evaluate site fuel condition).holds
      | none => pure true
    if goesOn then
      if ← once (execute site fuel body) then
        match step with
        | some step => execute site fuel step
        | none => pure ()
        stepRounds site condition step body fuel

/-- The rounds of a loop over keys. -/
def eachRound (site : Site) (name : String) (body : Statement) : Nat → List String → Step Unit
  | 0, _ => return ()
  | _ + 1, [] => return ()
  | fuel + 1, key :: rest => do
    assign name (.input key.toList)
    if ← once (execute site fuel body) then eachRound site name body fuel rest

end

/-! ## Rules -/

/-- Whether a rule is for the current record. -/
def applies (site : Site) (fuel : Nat) : Selection → Step Bool
  | .start | .finish => return false
  | .every => return true
  | .when condition => do return (← evaluate site fuel condition).holds
  | .range number first last => do
    let isOpen ← if (← get).ranges.contains number then pure true
      else do pure (← evaluate site fuel first).holds
    if isOpen then
      let isLast := (← evaluate site fuel last).holds
      modify fun m =>
        let others := m.ranges.filter (· ≠ number)
        { m with ranges := if isLast then others else number :: others }
    return isOpen

/-- Carries out the body of a rule. -/
def carryOut (site : Site) (fuel : Nat) (rule : Rule) : Step Unit :=
  execute site fuel (rule.body.getD (.print [] .output))

/-- Goes through the rules for every record. -/
def records (site : Site) (rules : List Rule) : Nat → Step Unit
  | 0 => return ()
  | fuel + 1 => do
    match ← nextInput 4096 with
    | none => return ()
    | some record =>
      setRecord record
      let course ← courseOf (rules.forM fun rule => do
        if ← applies site fuel rule.selection then carryOut site fuel rule)
      match course with
      | none | some .next => records site rules fuel
      | some .nextFile =>
        modify fun m => { m with rest := [] }
        records site rules fuel
      | some course => throw course

/-- Runs all rules of a script. -/
def runRules (site : Site) (fuel : Nat) : Step Unit := do
  let all := (← get).script.rules
  let isStart (rule : Rule) : Bool := match rule.selection with
    | .start => true
    | _ => false
  let isFinish (rule : Rule) : Bool := match rule.selection with
    | .finish => true
    | _ => false
  let main := all.filter fun rule => !isStart rule && !isFinish rule
  let finish := all.filter isFinish
  let course ← courseOf do
    (all.filter isStart).forM (carryOut site fuel)
    if !main.isEmpty || !finish.isEmpty then records site main fuel
  match course with
  | none | some .exit => finish.forM (carryOut site fuel)
  | some course => throw course

/-- Writes what is left, and runs the commands that wait for it. -/
def finishAll (site : Site) : Step Unit := do
  flush
  (← get).sinks.forM fun (text, sink) => do
    match sink with
    | .command content =>
      let _ ← finishCommand site text content
    | .file => pure ()

/-- The most steps of a script, one inside the other or one after the other. -/
def scriptBound : Nat := 1000000

/-- Runs a script, and gives its status. -/
def run (site : Site) (name : String) (m : Machine) : Run Nat := do
  let complain (message : String) : Run Unit :=
    (message.splitOn "\nline ").zip (List.range message.length) |>.forM fun (line, n) =>
      let line := if n = 0 then line else "line " ++ line
      Program.complainAs name line
  let (course, m) ← (courseOf (runRules site scriptBound)).run.run m
  let course := match course with
    | .ok found => found
    | .error found => some found
  let failed (message : String) : Run Nat := do
    complain message
    let _ ← (finishAll site).run.run m
    return 2
  match course with
  | some (.fault message) =>
    let (shown, _) ← whereabouts.run.run m
    failed ("run time error: " ++ message ++ shown.toOption.getD "")
  | some (.refusal message) => failed message
  | _ =>
    let _ ← (finishAll site).run.run m
    return m.status

end ScenarioRunner.Shell.Awk

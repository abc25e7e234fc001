import ScenarioRunner.Shell.Condition
import ScenarioRunner.Shell.Expansion
import ScenarioRunner.Shell.Grammar
import ScenarioRunner.Shell.Printf

/-!
# Built-in commands

The commands that a shell carries out itself, on its own state. Each takes its words and gives a
status. An error ends the command, and the shell if the command is a special one.
-/

set_option autoImplicit false

namespace ScenarioRunner.Shell

/-- A command that the shell carries out itself. -/
abbrev Builtin := List String → Run Nat

/-- Writes a text as output. -/
def printText (text : List Char) : Run Nat := do
  if text.isEmpty then return 0
  else if ← writeTo 1 (Octets.toBytes text) then return 0
  else
    let name := ((← process).command).getD ""
    complain s!"{name}: I/O error"
    return 1

/-- Writes a line as output. -/
def printLine (line : String) : Run Nat := printText (line.toList ++ ['\n'])

/-- The options at the start of some words, each with its argument if it takes one, and the words
behind them. A colon behind an allowed letter says that it takes one. -/
def optionsOf (allowed : List Char) : Nat → List String → Run (List (Char × String) × List String)
  | 0, words => return ([], words)
  | _ + 1, [] => return ([], [])
  | fuel + 1, word :: rest => do
    match word.toList with
    | ['-', '-'] => return ([], rest)
    | '-' :: c :: letters =>
      match allowed.dropWhile (· ≠ c) with
      | _ :: ':' :: _ =>
        let (argument, rest) ← match letters, rest with
          | [], [] => fail s!"No arg for -{c} option"
          | [], argument :: rest => pure (argument, rest)
          | letters, rest => pure (String.ofList letters, rest)
        let (others, words) ← optionsOf allowed fuel rest
        return ((c, argument) :: others, words)
      | _ :: _ =>
        let rest := if letters.isEmpty then rest else String.ofList ('-' :: letters) :: rest
        let (others, words) ← optionsOf allowed fuel rest
        return ((c, "") :: others, words)
      | [] => fail s!"Illegal option -{c}"
    | _ => return ([], word :: rest)

/-- The options at the start of some words, and the words behind them. -/
def options (allowed : String) (words : List String) : Run (List (Char × String) × List String) :=
  optionsOf allowed.toList (words.foldl (fun n word => n + word.length + 1) 1) words

/-- The small number that a word is. -/
def number (word : String) : Run Nat :=
  match smallNumber? word with
  | some n => return n
  | none => fail s!"Illegal number: {word}"

/-! ## Output -/

/-- Writes words with blanks between them. -/
def echo : Builtin := fun words => do
  let (silent, words) := match words with
    | "-n" :: rest => (true, rest)
    | _ => (false, words)
  let (text, ended) := withEscapes (String.intercalate " " words)
  printText (if silent || ended then text else text ++ ['\n'])

/-- Writes words in a format. -/
def printf : Builtin := fun words => do
  let (_, words) ← options "" words
  match words with
  | [] => fail "usage: printf format [arg ...]"
  | format :: words =>
    let printed := printWords format words
    printed.warnings.reverse.forM complain
    match printed.refusal with
    | some reason =>
      complain reason
      let _ ← printText printed.output.reverse
      setStatus 2
      throw .fault
    | none =>
      let status ← printText printed.output.reverse
      return if printed.warnings.isEmpty then status else 1

/-! ## Conditions -/

/-- Tells whether a condition holds. -/
def condition (words : List String) : Run Nat := do
  let s ← get
  let place (path : String) := (s.files.locate s.process.place (Octets.toText path)).toOption
  let view : Condition.View := ⟨fun path => (place path).bind s.files.get?, place, s.programs⟩
  match Condition.evaluate view words with
  | .ok holds => return if holds then 0 else 1
  | .error reason => fail reason

/-- Tells whether a condition in square brackets holds. -/
def bracketed : Builtin := fun words =>
  if words.getLast? = some "]" then condition words.dropLast else fail "missing ]"

/-! ## Variables -/

/-- The name and the value of a word that assigns, or the name alone. -/
def splitAssignment (word : String) : String × Option String :=
  let name := word.toList.takeWhile (· ≠ '=')
  match word.toList.drop name.length with
  | _ :: value => (String.ofList name, some (String.ofList value))
  | [] => (word, none)

/-- A text in single quotes. -/
def singleQuote (text : String) : String :=
  let quoted := text.toList.flatMap fun c => if c = '\'' then ['\'', '"', '\'', '"', '\''] else [c]
  String.ofList ('\'' :: quoted ++ ['\''])

/-- Marks variables, and gives them values. -/
def mark (show? : String → Variable → Option String) (marks : Variable → Variable) : Builtin :=
  fun words => do
    let (found, words) ← options "p" words
    if words.isEmpty || !found.isEmpty then
      let lines := (← process).bindings.filterMap fun (name, v) => show? name v
      let sorted := lines.mergeSort fun a b => decide (a ≤ b)
      printText (sorted.flatMap fun line => line.toList ++ ['\n'])
    else
      words.forM fun word => do
        let (name, value) := splitAssignment word
        if !isName name.toList then fail s!"{name}: bad variable name"
        match value with
        | some value => assign name value
        | none => pure ()
        setVariable name (some (marks ((← binding? name).getD ⟨none, false, false⟩)))
      return 0

/-- Shows a variable as a command that marks it. -/
def showMarked (command name : String) (v : Variable) : String :=
  match v.value with
  | some value => s!"{command} {name}={singleQuote value}"
  | none => s!"{command} {name}"

/-- Shows variables to other programs. -/
def exportVariables : Builtin :=
  mark (fun name v => if v.exported then some (showMarked "export" name v) else none)
    fun v => { v with exported := true }

/-- Keeps variables from being changed. -/
def protectVariables : Builtin :=
  mark (fun name v => if v.constant then some (showMarked "readonly" name v) else none)
    fun v => { v with constant := true }

/-- Hides variables of the caller from a function. -/
def localVariables : Builtin := fun words => do
  match (← process).hidden with
  | [] => fail "not in a function"
  | inner :: outer =>
    let _ ← words.foldlM (fun (hidden : List (String × Option Variable)) word => do
      let (name, value) := splitAssignment word
      if !isName name.toList then fail s!"{name}: bad variable name"
      let before ← binding? name
      let hidden := if (hidden.lookup name).isSome then hidden else (name, before) :: hidden
      modifyProcess fun p => { p with hidden := hidden :: outer }
      match value with
      | some value => assign name value
      | none => pure ()
      return hidden) inner
    return 0

/-- Removes variables or functions. -/
def unset : Builtin := fun words => do
  let (found, words) ← options "vf" words
  words.forM fun name => do
    if found.any (·.1 = 'f') then
      modifyProcess fun p => { p with functions := p.functions.filter (·.1 != name) }
    else if !isName name.toList then fail s!"{name}: bad variable name"
    else unbind name
  return 0

/-- The names of the options by letter. -/
def optionNames : List (String × Char) :=
  [("errexit", 'e'), ("noglob", 'f'), ("ignoreeof", 'I'), ("interactive", 'i'), ("monitor", 'm'),
    ("noexec", 'n'), ("stdin", 's'), ("xtrace", 'x'), ("verbose", 'v'), ("vi", 'V'), ("emacs", 'E'),
    ("noclobber", 'C'), ("allexport", 'a'), ("notify", 'b'), ("nounset", 'u'), ("privileged", 'p')]

/-- Shows the options, as they stand or as commands that set them. -/
def showOptions (asCommands : Bool) : Run Unit := do
  let chosen := (← process).options
  let names := optionNames.map (fun (name, c) => (name, chosen.contains c))
    ++ [("nolog", false), ("debug", false)]
  let lines := if asCommands then
      names.map fun (name, isOn) => (if isOn then "set -o " else "set +o ") ++ name
    else "Current option settings" :: names.map fun (name, isOn) =>
      name ++ String.ofList (List.replicate (16 - name.length) ' ') ++ if isOn then "on" else "off"
  let _ ← printText (lines.flatMap fun line => line.toList ++ ['\n'])

/-- Sets an option, or takes it back. -/
def setOption (isOn : Bool) (letter : Char) : Run Unit :=
  modifyProcess fun p =>
    let others := p.options.filter (· ≠ letter)
    { p with options := if isOn then others ++ [letter] else others }

/-- Sets the options of some letters. An `o` takes the name of an option from the next word. -/
def setLetters (isOn : Bool) : List Char → List String → Run (List String)
  | [], words => return words
  | 'o' :: letters, name :: words => do
    match optionNames.lookup name with
    | some letter =>
      setOption isOn letter
      setLetters isOn letters words
    | none => fail s!"Illegal option {sign}o {name}"
  | 'o' :: letters, [] => do
    showOptions !isOn
    setLetters isOn letters []
  | letter :: letters, words => do
    if optionNames.any (·.2 = letter) then
      setOption isOn letter
      setLetters isOn letters words
    else fail s!"Illegal option {sign}{letter}"
where
  /-- The sign before the letters. -/
  sign : String := if isOn then "-" else "+"

/-- Sets options and arguments. -/
def setFrom : Nat → List String → Run Unit
  | 0, _ => return ()
  | _ + 1, [] => return ()
  | fuel + 1, word :: rest => do
    match word.toList with
    | ['-'] =>
      setOption false 'x'
      setOption false 'v'
      if !rest.isEmpty then arguments rest
    | ['-', '-'] => arguments rest
    | '-' :: letters => setFrom fuel (← setLetters true letters rest)
    | '+' :: letters => setFrom fuel (← setLetters false letters rest)
    | _ => arguments (word :: rest)
where
  /-- Sets the arguments. -/
  arguments (words : List String) : Run Unit :=
    modifyProcess fun p => { p with arguments := words, letters := [] }

/-- Sets options and arguments, or shows the variables. -/
def set : Builtin := fun words => do
  if words.isEmpty then
    let lines := (← process).bindings.filterMap fun (name, v) =>
      v.value.map fun value => s!"{name}={singleQuote value}"
    printText ((lines.mergeSort fun a b => decide (a ≤ b)).flatMap fun line => line.toList ++ ['\n'])
  else
    setFrom (words.length + 1) words
    return 0

/-- Drops arguments at the start. -/
def shift : Builtin := fun words => do
  let count ← match words with
    | word :: _ => number word
    | [] => pure 1
  if (← process).arguments.length < count then fail "can't shift that many"
  else
    modifyProcess fun p => { p with arguments := p.arguments.drop count, letters := [] }
    return 0

/-- The fields of a line for some variables; the last one takes the rest of the line. -/
def lineFields (separators : List Char) : Nat → List Glyph → List (List Glyph)
  | 0, glyphs =>
    let isBlank := Glyph.separates fun c => separators.contains c && isSpaceChar c
    let whole := (glyphs.dropWhile isBlank)
    match Glyph.fields separators (glyphs.length + 1) [] whole with
    | [] => []
    | [field] => [field]
    | _ => [(whole.reverse.dropWhile isBlank).reverse]
  | count + 1, glyphs =>
    let isBlank := Glyph.separates fun c => separators.contains c && isSpaceChar c
    let isAny := Glyph.separates separators.contains
    let start := glyphs.dropWhile isBlank
    if start.isEmpty then []
    else
      let field := start.takeWhile fun glyph => !isAny glyph
      let behind := (start.drop field.length).dropWhile isBlank
      let behind := match start.drop field.length with
        | glyph :: rest =>
          if isBlank glyph then
            match behind with
            | other :: after => if isAny other then after else behind
            | [] => []
          else rest
        | [] => []
      field :: lineFields separators count behind

/-- The characters of a line, in which backslashes protect others. Tells also how many bytes it takes
up, and whether it ends in a line break. -/
def lineGlyphs (raw : Bool) : List Char → List Glyph × Nat × Bool
  | [] => ([], 0, false)
  | '\n' :: _ => ([], 1, true)
  | '\\' :: rest =>
    if raw then
      let (glyphs, count, ended) := lineGlyphs raw rest
      (.char '\\' .expanded :: glyphs, count + 1, ended)
    else match rest with
      | '\n' :: behind =>
        let (glyphs, count, ended) := lineGlyphs raw behind
        (glyphs, count + 2, ended)
      | c :: behind =>
        let (glyphs, count, ended) := lineGlyphs raw behind
        (.char c .quoted :: glyphs, count + 2, ended)
      | [] => ([], 1, false)
  | c :: rest =>
    let (glyphs, count, ended) := lineGlyphs raw rest
    (if c = '\x00' then glyphs else .char c .expanded :: glyphs, count + 1, ended)

/-- Reads a line into variables. -/
def readLine : Builtin := fun words => do
  let (found, names) ← options "p:r" words
  if names.isEmpty then fail "arg count"
  let (glyphs, ended) ← match ← channelOf 0 with
    | some id =>
      let text := Octets.ofBytes ((← get).content id)
      let (glyphs, count, ended) := lineGlyphs (found.any (·.1 = 'r')) text
      modify fun s => s.drop id count
      pure (glyphs, ended)
    | none => pure ([], false)
  let fields := lineFields (← separators) (names.length - 1) glyphs
  (names.zip (fields ++ List.replicate names.length [])).forM fun (name, field) => do
    if isName name.toList then assign name (String.ofList (Glyph.text field))
    else fail s!"{name}: bad variable name"
  return if ended then 0 else 1

/-! ## Flow -/

/-- Leaves loops, or goes on with their next round. -/
def leaveLoops (flow : Nat → Flow) : Builtin := fun words => do
  let count ← match words with
    | word :: _ => number word
    | [] => pure 1
  let word := words.headD ""
  if count = 0 then fail s!"Illegal number: {word}"
  else
    let count := min count (← process).loops
    if count = 0 then return 0
    else
      setStatus 0
      throw (flow count)

/-- Ends the shell with a status, by default the last one. -/
def exit : Builtin := fun words => do
  match words with
  | word :: _ => setStatus (← number word)
  | [] =>
    match (← process).ending with
    | some status => setStatus status
    | none => pure ()
  throw .finish

/-- Leaves a function with a status, by default the last one. -/
def leaveFunction : Builtin := fun words => do
  match words with
  | word :: _ => setStatus (← number word)
  | [] => pure ()
  throw .back

/-! ## Processes -/

/-- The name of a signal, or its number if it has none. -/
def signalName (signal : Nat) : String :=
  match if signal = 16 then none else ExitStatus.signalNames.lookup signal with
  | some name => String.ofList (name.toList.drop 3)
  | none =>
    if signal < 34 || 64 < signal then toString signal
    else if signal = 34 then "RTMIN"
    else if signal = 64 then "RTMAX"
    else if signal < 50 then s!"RTMIN+{signal - 34}"
    else s!"RTMAX-{64 - signal}"

/-- The number of a signal by its name or number, from a least one on. -/
def signalOf? (least : Nat) (word : String) : Option Nat :=
  if !word.isEmpty && word.toList.all Char.isDigit then word.toNat?.filter (· < 65)
  else
    let name := String.ofList (word.toList.map Char.toUpper)
    let named := (0, "EXIT") :: (List.range 65).map fun n => (n, signalName n)
    (named.find? fun (n, known) => known = name && least ≤ n).map Prod.fst

/-- What is said of a process that a signal has stopped. -/
def signalText (signal : Nat) : String :=
  match ([(1, "Hangup"), (2, "Interrupt"), (3, "Quit"), (4, "Illegal instruction"),
      (5, "Trace/breakpoint trap"), (6, "Aborted"), (7, "Bus error"), (8, "Floating point exception"),
      (9, "Killed"), (10, "User defined signal 1"), (11, "Segmentation fault"),
      (12, "User defined signal 2"), (13, "Broken pipe"), (14, "Alarm clock"), (15, "Terminated"),
      (16, "Stack fault"), (24, "CPU time limit exceeded"), (25, "File size limit exceeded"),
      (26, "Virtual timer expired"), (27, "Profiling timer expired"), (29, "I/O possible"),
      (30, "Power failure"), (31, "Bad system call")] : List (Nat × String)).lookup signal with
  | some text => text
  | none => s!"Signal {signal}"

/-- Whether a signal leaves a process that does not know it as it is. -/
def isHarmless (signal : Nat) : Bool := [0, 17, 18, 23, 28].contains signal

/-- Sends a signal to the shell itself. -/
def receive (signal : Nat) : Run Unit := do
  let p ← process
  match if signal = 9 then none else p.traps.lookup signal with
  | some action =>
    if !action.isEmpty then modifyProcess fun p => { p with signals := p.signals ++ [signal] }
  | none =>
    if isHarmless signal then return ()
    else if p.isPart then modify fun s => { s with stopped := (p.number, signal) :: s.stopped }
    else throw (.killed signal)

/-- The job that a word names, by the number of its process or by its place. -/
def jobOf? (word : String) : Run (Option Job) := do
  let jobs := (← process).jobs
  match word.toList with
  | ['%'] | ['%', '%'] | ['%', '+'] => return ← found jobs.head?
  | ['%', '-'] => return ← found (jobs[1]? <|> jobs.head?)
  | '%' :: digits =>
    let slot := if digits.all Char.isDigit then numberOf 10 digits else 0
    found (jobs.find? fun job => job.slot = slot)
  | _ =>
    let n ← number word
    return jobs.find? fun job => job.number = n
where
  /-- A job that has to be there. -/
  found (job : Option Job) : Run (Option Job) := do
    if job.isSome then return job else fail s!"No such job: {word}"

/-- Sends a signal to a job. -/
def signalJob (signal : Nat) (job : Job) : Run Unit := do
  let now := (← get).clock
  modify fun s => { s with pending := s.pending.map fun one =>
    let ignores := isHarmless signal || (signal != 9 && one.process.traps.lookup signal = some "")
    if one.number = job.number && one.stop.isNone && !ignores then
      { one with stop := some (now, signal) }
    else one }

/-- Sends a signal to the processes of some numbers. -/
def sendSignal (signal : Nat) (targets : List String) : Run Nat := do
  targets.foldlM (fun status word => do
    let missing : Run Nat := do
      complain "No such process\n"
      return 1
    if word.startsWith "%" then
      -- jobs have no groups of their own
      let _ ← jobOf? word
      missing
    else
      let target ← number (if word.startsWith "-" then String.ofList (word.toList.drop 1) else word)
      let p ← process
      if target = p.number then
        receive signal
        return status
      else
        match p.jobs.find? fun job => job.number = target with
        | some job =>
          if job.isKnown then missing
          else
            signalJob signal job
            return status
        | none => missing) 0

/-- Sends a signal, or names signals. -/
def kill : Builtin := fun words => do
  let usage : Run Nat :=
    fail "Usage: kill [-s sigspec | -signum | -sigspec] [pid | job]... or\nkill -l [exitstatus]"
  match words with
  | [] => usage
  | first :: rest =>
    match if first.startsWith "-" then signalOf? 1 (String.ofList (first.toList.drop 1)) else none with
    | some signal => if rest.isEmpty then usage else sendSignal signal rest
    | none =>
      let (found, targets) ← options "ls:" words
      match found.find? (·.1 = 's') with
      | some (_, name) =>
        match signalOf? 1 name with
        | some signal => if targets.isEmpty then usage else sendSignal signal targets
        | none => fail s!"invalid signal number or name: {name}"
      | none =>
        if found.isEmpty then if targets.isEmpty then usage else sendSignal 15 targets
        else match targets with
          | [] => printText (((List.range 65).map signalName).flatMap fun name => name.toList ++ ['\n'])
          | word :: _ =>
            let n ← number word
            let n := if 128 < n then n - 128 else n
            if 0 < n && n < 65 then printLine (signalName n)
            else fail s!"invalid signal number or exit status: {word}"

/-- The name of a signal in the list of traps. -/
def trapName (signal : Nat) : String :=
  if signal = 0 then "EXIT" else signalName signal

/-- Says what commands answer signals, or shows them. -/
def trap : Builtin := fun words => do
  let (_, words) ← options "" words
  match words with
  | [] =>
    let sorted := (← process).traps.mergeSort fun a b => decide (a.1 ≤ b.1)
    printText (sorted.flatMap fun (signal, action) =>
      s!"trap -- {singleQuote action} {trapName signal}\n".toList)
  | first :: rest =>
    let isReset := rest.isEmpty || (!first.isEmpty && first.toList.all Char.isDigit)
    let (action, names) := if isReset then ("-", words) else (first, rest)
    setAll action names
where
  /-- Sets the commands for some signals, up to one that is none. -/
  setAll (action : String) : List String → Run Nat
    | [] => return 0
    | name :: rest => do
      match signalOf? 0 name with
      | none =>
        let _ ← writeTo 2 (Octets.toBytes s!"trap: {name}: bad trap\n".toList)
        return 1
      | some signal =>
        modifyProcess fun p =>
          let others := p.traps.filter (·.1 != signal)
          { p with traps := if action = "-" then others else (signal, action) :: others }
        setAll action rest

/-- How a job stands. -/
def Job.text (job : Job) : String :=
  match job.ended with
  | none => "Running"
  | some (.exited 0) => "Done"
  | some (.exited status) => s!"Done({status})"
  | some (.killed signal) => signalText signal

/-- Shows the jobs, and forgets those that have ended. -/
def jobs : Builtin := fun words => do
  let (found, words) ← options "lp" words
  words.forM fun word => do
    let _ ← jobOf? word
  let all := (← process).jobs
  let current := all.head?.map Job.number
  let lines := all.map fun job =>
    if found.any (·.1 = 'p') then toString job.number
    else
      let mark := if some job.number = current then "+" else "-"
      let number := if found.any (·.1 = 'l') then s!"{job.number} " else ""
      let start := s!"[{job.slot}] {mark} {number}{job.text}"
      start ++ String.ofList (List.replicate (33 - start.length) ' ')
  modifyProcess fun p => { p with jobs := p.jobs.filter fun job => job.ended.isNone }
  printText (lines.flatMap fun line => line.toList ++ ['\n'])

/-- Refuses to go on with a job, which takes a terminal. -/
def goOn : Builtin := fun words => do
  match words with
  | [] => fail "No current job"
  | word :: _ =>
    let _ ← jobOf? word
    fail "job (null) not created under job control"

/-- Shows a limit, or takes a new one, which does not matter here. -/
def limit : Builtin := fun words => do
  let (found, words) ← options "HSatfdscmlpnvwr" words
  match words with
  | [] =>
    let shown := match found.getLast? with
      | some ('s', _) => "8192"
      | some ('n', _) => "1048576"
      | _ => "unlimited"
    printLine shown
  | word :: _ =>
    if word = "unlimited" || (!word.isEmpty && word.toList.all Char.isDigit) then return 0
    else fail "bad number"

/-- Sets or shows the permissions that new files do not get. -/
def umask : Builtin := fun words => do
  let (found, words) ← options "S" words
  let mask := (← process).mask
  match words with
  | [] =>
    if found.isEmpty then
      let digits := Nat.toDigits 8 mask
      printText (List.replicate (4 - digits.length) '0' ++ digits ++ ['\n'])
    else
      let rights (n : Nat) : String :=
        String.join ([(4, "r"), (2, "w"), (1, "x")].map fun (bit, name) =>
          if n / bit % 2 = 0 then name else "")
      printLine s!"u={rights (mask / 64)},g={rights (mask / 8)},o={rights mask}"
  | word :: _ =>
    if word.toList.head?.any Char.isDigit then
      if !word.toList.all (digitValue · < 8) then fail s!"Illegal number: {word}"
      modifyProcess fun p => { p with mask := numberOf 8 word.toList % 512 }
      return 0
    else match (word.splitOn ",").foldl (fun found clause =>
        found.bind fun mask => maskOf? mask clause.toList) (some mask) with
      | some mask =>
        modifyProcess fun p => { p with mask }
        return 0
      | none => fail s!"Illegal mode: {word}"
where
  /-- The permissions that are taken away behind a change for some users. -/
  maskOf? (mask : Nat) (clause : List Char) : Option Nat :=
    let users := clause.takeWhile ['u', 'g', 'o', 'a'].contains
    match clause.drop users.length with
    | operator :: rights =>
      if ! ['+', '-', '='].contains operator || !rights.all ['r', 'w', 'x', 's', 't', 'X'].contains then
        none
      else
        let right := (if rights.contains 'r' then 4 else 0) + (if rights.contains 'w' then 2 else 0)
          + (if rights.contains 'x' then 1 else 0)
        let change (c : Char) (unit mask : Nat) : Nat :=
          if users.isEmpty || users.contains 'a' || users.contains c then
            let own := mask / unit % 8
            let new := match operator with
              | '+' => own &&& (7 - right)
              | '-' => own ||| right
              | _ => 7 - right
            mask - own * unit + new * unit
          else mask
        some (change 'o' 1 (change 'g' 8 (change 'u' 64 mask)))
    | [] => none

/-! ## Directories -/

/-- Enters a directory. -/
def cd : Builtin := fun words => do
  let (_, words) ← options "LP" words
  let path ← match words with
    | [] => pure ((← value? "HOME").getD "")
    | "-" :: _ => pure ((← value? "OLDPWD").getD "")
    | word :: _ => pure word
  if path.isEmpty then return 0
  else
    let s ← get
    match s.files.enter s.process.place (Octets.toText path) with
    | .error _ => fail s!"can't cd to {path}"
    | .ok place =>
      let here := Octets.ofText (FileTree.pathOf place)
      assign "OLDPWD" (Octets.ofText (FileTree.pathOf s.process.place)) true
      assign "PWD" here true
      modifyProcess fun p => { p with place }
      if words.head? = some "-" then printLine here else return 0

/-- Writes the working directory. -/
def pwd : Builtin := fun words => do
  let _ ← options "LP" words
  printLine (Octets.ofText (FileTree.pathOf (← process).place))

/-! ## Options of scripts -/

/-- Reads the next option of the arguments into a variable. -/
def getopts : Builtin := fun words => do
  match words with
  | allowed :: name :: rest =>
    let p ← process
    let arguments := if rest.isEmpty then p.arguments else rest
    let index := (((← value? "OPTIND").bind smallNumber?).getD 1)
    let isQuiet := allowed.startsWith ":"
    let finish (option : String) (argument : Option String) (index : Nat) (letters : List Char)
        (status : Nat) : Run Nat := do
      match argument with
      | some text => assign "OPTARG" text
      | none => unbind "OPTARG"
      assign "OPTIND" (toString index)
      assign name option
      modifyProcess fun p => { p with letters }
      return status
    let (letters, index) : Option (List Char) × Nat :=
      if p.letters.isEmpty then
        match (arguments[index - 1]?).map String.toList with
        | some ['-', '-'] => (none, index + 1)
        | some ('-' :: c :: letters) => (some (c :: letters), index + 1)
        | _ => (none, index)
      else (some p.letters, index)
    match letters with
    | none | some [] => finish "?" none index [] 1
    | some (c :: letters) =>
      match if c = ':' then [] else allowed.toList.dropWhile (· ≠ c) with
      | [] =>
        if isQuiet then finish "?" (some c.toString) index letters 0
        else
          let _ ← writeTo 2 (Octets.toBytes s!"Illegal option -{c}\n".toList)
          finish "?" none index letters 0
      | _ :: ':' :: _ =>
        match letters, arguments[index - 1]? with
        | [], none =>
          if isQuiet then finish ":" (some c.toString) index [] 0
          else
            let _ ← writeTo 2 (Octets.toBytes s!"No arg for -{c} option\n".toList)
            finish "?" none index [] 0
        | [], some argument => finish c.toString (some argument) (index + 1) [] 0
        | letters, _ => finish c.toString (some (String.ofList letters)) index [] 0
      | _ => finish c.toString (some "") index letters 0
  | _ => fail "Usage: getopts optstring var [arg]"

/-! ## Abbreviations -/

/-- Defines or shows abbreviations. -/
def defineAliases : Builtin := fun words => do
  if words.isEmpty then
    printText ((← process).aliases.flatMap fun (name, value) => s!"{name}={singleQuote value}\n".toList)
  else
    words.foldlM (fun status word => do
      match splitAssignment word with
      | (name, some value) =>
        modifyProcess fun p => { p with aliases := (name, value) :: p.aliases.filter (·.1 != name) }
        return status
      | (name, none) =>
        match (← process).aliases.lookup name with
        | some value =>
          let _ ← printLine s!"{name}={singleQuote value}"
          return status
        | none =>
          let _ ← writeTo 2 (Octets.toBytes s!"alias: {name} not found\n".toList)
          return 1) 0

/-- Removes abbreviations. -/
def unalias : Builtin := fun words => do
  let (found, words) ← options "a" words
  if !found.isEmpty then
    modifyProcess fun p => { p with aliases := [] }
    return 0
  else
    words.foldlM (fun status name => do
      if ((← process).aliases.lookup name).isSome then
        modifyProcess fun p => { p with aliases := p.aliases.filter (·.1 != name) }
        return status
      else
        let _ ← writeTo 2 (Octets.toBytes s!"unalias: {name} not found\n".toList)
        return 1) 0

/-! ## All of them -/

/-- The built-in commands that need nothing but the state of the shell. -/
def builtins : List (String × Builtin) :=
  [(":", fun _ => return 0), ("true", fun _ => return 0), ("false", fun _ => return 1),
    ("echo", echo), ("printf", printf), ("test", condition), ("[", bracketed),
    ("export", exportVariables), ("readonly", protectVariables), ("local", localVariables),
    ("unset", unset), ("set", set), ("shift", shift), ("read", readLine),
    ("break", leaveLoops .leave), ("continue", leaveLoops .again), ("exit", exit),
    ("return", leaveFunction), ("kill", kill), ("trap", trap), ("umask", umask),
    ("cd", cd), ("chdir", cd), ("pwd", pwd), ("getopts", getopts), ("alias", defineAliases),
    ("unalias", unalias), ("fg", goOn), ("bg", goOn), ("jobs", jobs),
    ("times", fun _ => printText "0m0.000000s 0m0.000000s\n0m0.000000s 0m0.000000s\n".toList),
    ("ulimit", limit)]

/-- The built-in commands that run other commands. -/
def runningBuiltins : List String := [".", "command", "eval", "exec", "hash", "type", "wait"]

end ScenarioRunner.Shell

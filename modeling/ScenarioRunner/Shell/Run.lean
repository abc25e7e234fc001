import ScenarioRunner.Shell.Program.Runner

/-!
# Running commands

A command runs on the state of its shell. Programs, and the parts of pipelines, run one after the
other, each to its end; what one writes waits for the next. The steps that a run can take are bounded.
-/

set_option autoImplicit false

namespace ScenarioRunner.Shell

/-- How a command stands among others. -/
structure Stance where
  /-- Whether its status is tested, so that its failure is none of the shell's. -/
  isTested : Bool := false
  /-- Whether nothing comes behind it, so that a program takes the place of the shell. -/
  isLast : Bool := false

/-! ## Redirections -/

/-- A redirection whose words are expanded. -/
inductive Rerouting where
  | open (stream : Nat) (opening : Opening) (path : String)
  /-- The stream becomes what another one is, or is closed. -/
  | duplicate (stream : Nat) (source : Option Nat)
  | document (stream number : Nat)

/-- Expands the words of a redirection. -/
def Rerouting.ofRedirect (substitute : Substitute) : Redirect → Run Rerouting
  | .open stream opening path => do return .open stream opening (← textOf substitute path)
  | .document stream number => return .document stream number
  | .duplicate stream source => do
    match (← textOf substitute source).toList with
    | ['-'] => return .duplicate stream none
    | [c] =>
      if c.isDigit then return .duplicate stream (some (digitValue c))
      else fail "Syntax error: Bad fd number"
    | _ => fail "Syntax error: Bad fd number"

/-- Carries out a redirection. -/
def Rerouting.apply (substitute : Substitute) : Rerouting → Run Unit
  | .open stream opening path => do connect stream (some (← openFile opening path))
  | .duplicate stream none => connect stream none
  | .duplicate stream (some source) => do
    match ← channelOf source with
    | some id => connect stream (some id)
    | none => fail s!"{source}: Bad file descriptor"
  | .document stream number => do
    let word := ((← get).documents.lookup number).getD []
    let text ← textOf substitute word
    connect stream (some (← addChannel (.pipe (Octets.toBytes text.toList))))

/-! ## Keeping and restoring -/

/-- Runs a step and gives the reason why it has not come to its end, if there is one. -/
def flowOf (step : Run Unit) : Run (Option Flow) :=
  tryCatch (do step; return none) fun flow => return some flow

/-- Goes on as a step has ended. -/
def resume : Option Flow → Run Unit
  | none => return ()
  | some flow => throw flow

/-- Runs a step on streams that are restored behind it. -/
def withStreams (streams : List (Nat × Nat)) (step : Run Unit) : Run Unit := do
  let flow ← flowOf step
  modifyProcess fun p => { p with streams }
  resume flow

/-- What becomes of a loop behind a round. -/
inductive Round where
  | goesOn
  | skips
  | ends

/-- Runs a step as a part of a loop. -/
def inLoop (step : Run Unit) : Run Round := do
  match ← flowOf step with
  | none => return .goesOn
  | some (.leave n) => if n ≤ 1 then return .ends else throw (.leave (n - 1))
  | some (.again n) => if n ≤ 1 then return .skips else throw (.again (n - 1))
  | some flow => throw flow

/-- Runs a step with one more loop around it. -/
def aroundLoop (step : Run Unit) : Run Unit := do
  let loops := (← process).loops
  modifyProcess fun p => { p with loops := loops + 1 }
  let flow ← flowOf step
  modifyProcess fun p => { p with loops }
  resume flow

/-! ## Ends of processes -/

/-- Says that a process has been stopped by a signal, unless that is usual. -/
def reportEnd : ExitStatus → Run Unit
  | .exited _ => return ()
  | .killed signal => do
    if signal ≠ 2 && signal ≠ 13 then
      let _ ← writeTo 2 (Octets.toBytes (signalText signal ++ "\n").toList)

/-- Takes over the status of a process that has ended. -/
def takeStatus (ended : ExitStatus) : Run Unit := do
  reportEnd ended
  setStatus (statusOf ended)

/-- Whether signals are answered by commands. -/
def hasTraps : Run Bool := do return (← process).traps.any fun (_, action) => !action.isEmpty

/-! ## Commands beside the shell -/

/-- Adds a command that is to run beside the shell, without its input and without its interrupts. -/
def addJob (body : Command) : Run Unit := do
  let sink ← addChannel .sink
  let s ← get
  let number := s.processCount + 1
  let p := s.process
  let unknown := p.jobs.filter fun job => !(job.ended.isSome && job.isKnown)
  let slot := ((List.range (unknown.length + 1)).find? fun n =>
    !unknown.any fun job => job.slot = n + 1).getD 0 + 1
  let jobs := ⟨number, slot, none, false⟩ :: p.jobs.filter (·.slot ≠ slot)
  let apart : Process :=
    { p with
      streams := withStream p.streams 0 (some sink)
      traps := [2, 3].map (fun signal => (signal, "")) ++ p.traps.filter fun (signal, action) =>
        action.isEmpty && signal ≠ 2 && signal ≠ 3
      isPart := true }
  modify fun _ => { s with
    processCount := number
    pending := ⟨number, s.clock, apart, body, none⟩ :: s.pending
    process := { p with jobs, latest := some number } }

/-- Makes the shell know of the jobs that have ended. -/
def learnEnds : Run Unit :=
  modifyProcess fun p => { p with jobs := p.jobs.map fun job =>
    { job with isKnown := job.ended.isSome } }

/-- Stops the process if its time is over. -/
def stopIfOverdue : Run Unit := do
  if (← get).isOverdue then throw (.killed 15)

/-- What becomes of a loop without an end: it lasts until the time is over. -/
def endless : Run Unit := do
  match (← get).deadline with
  | some clock =>
    modify fun s => { s with clock, isOverdue := true }
    throw (.killed 15)
  | none => throw .finish

/-- How many functions can run inside each other. -/
def deepest : Nat := 1000

/-! ## Targets -/

/-- What the first word of a command names. -/
inductive Target where
  | builtin (name : String)
  | function (body : Command)
  | program

/-- What a name stands for. -/
def targetOf (skipsFunctions : Bool) (name : String) : Run Target := do
  if name.toList.contains '/' then return .program
  else
    let functions := (← process).functions
    match if skipsFunctions then none else functions.lookup name with
    | some body => return .function body
    | none =>
      if (builtins.lookup name).isSome || runningBuiltins.contains name then return .builtin name
      else return .program

/-- The words behind `command` and its options, unless it is asked to describe them. -/
def behindCommand? : List String → Option (List String)
  | [] => none
  | "--" :: rest => if rest.isEmpty then none else some rest
  | word :: rest =>
    match word.toList with
    | '-' :: c :: letters => if (c :: letters).all (· = 'p') then behindCommand? rest else none
    | _ => some (word :: rest)

/-- The words of a command without each `command` before them. -/
def withoutCommand : Nat → List String → List String
  | fuel + 1, "command" :: rest =>
    match behindCommand? rest with
    | some words => withoutCommand fuel words
    | none => "command" :: rest
  | _, words => words

/-- The built-in commands whose words can assign. -/
def assigningBuiltins : List String := ["alias", "export", "local", "readonly"]

/-- Expands the words of a command. Words that assign are not cut into fields behind a command that
takes them so. -/
def expandWords (substitute : Substitute) (found : List String) : List Word → Run (List String)
  | [] => return found
  | word :: rest => do
    let name := (withoutCommand found.length found).head?
    match if name.any assigningBuiltins.contains then Word.assignment? word else none with
    | some (name, value) =>
      let text := s!"{name}={← valueOf substitute value}"
      expandWords substitute (found ++ [text]) rest
    | none => expandWords substitute (found ++ (← wordsOf substitute word)) rest

/-- Describes what a name stands for, in a sentence or as it could be used. -/
def describe (inWords : Bool) (name : String) : Run Nat := do
  let say (sentence short : String) : Run Nat := printLine (if inWords then sentence else short)
  if keywords.contains name then say s!"{name} is a shell keyword" name
  else match (← process).aliases.lookup name with
    | some value => say s!"{name} is an alias for {value}" s!"alias {name}={singleQuote value}"
    | none =>
      match ← targetOf false name with
      | .function .. => say s!"{name} is a shell function" name
      | .builtin name =>
        let kind := if specialCommands.contains name then "a special shell builtin" else "a shell builtin"
        say s!"{name} is {kind}" name
      | .program =>
        let s ← get
        let path := if name.toList.contains '/' then
            if s.files.contains s.process.place (Octets.toText name)
                || (Program.atPath s name).toOption.isSome then some name else none
          else ((Program.find s (Program.searchPath s) name).toOption).map Prod.fst
        match path with
        | some path => say s!"{name} is {path}" path
        | none =>
          if inWords then let _ ← printLine s!"{name}: not found"
          return 127

/-- Shows a command that is about to run. -/
def showTrace (channel : Option Nat) (assigned : List (String × String)) (words : List String) :
    Run Unit := do
  match channel with
  | some id =>
    let start := (← value? "PS4").getD "+ "
    let parts := assigned.map (fun (name, value) => s!"{name}={value}") ++ words
    modify fun s => s.write id (Octets.toBytes (start ++ String.intercalate " " parts ++ "\n").toList)
  | none => return ()

/-! ## Shells -/

/-- A new process that has only the variables of an environment. -/
def Process.fresh (name : String) (number : Nat) (place : List String) (streams : List (Nat × Nat))
    (environment : List (String × String)) : Process :=
  let own : List (String × Variable) :=
    [("IFS", ⟨some " \t\n", false, false⟩), ("OPTIND", ⟨some "1", false, false⟩),
      ("PS1", ⟨some "# ", false, false⟩), ("PS2", ⟨some "> ", false, false⟩),
      ("PS4", ⟨some "+ ", false, false⟩), ("PPID", ⟨some (toString (number - 1)), false, false⟩)]
  let given := (environment.filter fun (name, _) =>
    isName name.toList && ! ["IFS", "OPTIND", "PPID", "PWD"].contains name).map fun (name, value) =>
      (name, (⟨some value, true, false⟩ : Variable))
  let here : Variable := ⟨some (Octets.ofText (FileTree.pathOf place)), true, false⟩
  let bindings := ("PWD", here) :: given ++ own.filter fun (name, _) =>
    (given.lookup name).isNone
  { name, number, place, streams, bindings }

/-- What a shell is called for. -/
inductive Purpose where
  /-- The commands of a text. -/
  | text (content : String)
  | file (path : String)
  /-- The commands of the input. -/
  | input
  /-- Nothing, for an error. -/
  | fault (message : String)

/-- What the words of a call ask a shell for, and what becomes of its process. -/
def Purpose.ofWords (takesText : Bool) : Nat → Process → List String → Purpose × Process
  | 0, p, _ => (.input, p)
  | fuel + 1, p, words =>
    match words with
    | [] => if takesText then (.fault "-c requires an argument", p) else (.input, p)
    | word :: rest =>
      let operands (words : List String) : Purpose × Process :=
        match takesText, words with
        | true, [] => (.fault "-c requires an argument", p)
        | true, content :: name :: arguments => (.text content, { p with name, arguments })
        | true, [content] => (.text content, p)
        | false, [] => (.input, p)
        | false, path :: arguments =>
          if p.options.contains 's' then (.input, { p with arguments := words })
          else (.file path, { p with arguments })
      match word.toList with
      | ['-'] | ['-', '-'] => operands rest
      | ['-', 'o'] =>
        match rest with
        | name :: rest =>
          match optionNames.lookup name with
          | some c => Purpose.ofWords takesText fuel { p with options := p.options ++ [c] } rest
          | none => (.fault s!"Illegal option -o {name}", p)
        | [] => operands []
      | '-' :: letters =>
        match letters.find? fun c => c ≠ 'c' && c ≠ 'l' && !optionNames.any (·.2 = c) with
        | some c => (.fault s!"Illegal option -{c}", p)
        | none =>
          let options := p.options ++ letters.filter fun c => c ≠ 'c' && c ≠ 'l'
          Purpose.ofWords (takesText || letters.contains 'c') fuel { p with options } rest
      | _ => operands words

/-- The path of a file of commands that is read into the shell. -/
def sourcePath (name : String) : Run String := do
  if name.toList.contains '/' then return name
  else
    let s ← get
    let paths := (Utility.splitAt ':' (Program.searchPath s).toList).map fun directory =>
      if directory.isEmpty then name else Utility.pathInside (String.ofList directory) name
    match paths.find? fun path => (s.files.read s.process.place (Octets.toText path)).toOption.isSome with
    | some path => return path
    | none => fail s!"{name}: not found"

/-- The content of a file of commands. -/
def sourceText (path : String) : Run String := do
  let s ← get
  match s.files.read s.process.place (Octets.toText path) with
  | .ok bytes => return String.ofList (Octets.ofBytes bytes)
  | .error .isDirectory => return ""
  | .error e => fail s!"cannot open {path}: {openError false e}"

mutual

/-- Runs a command. -/
def execute (stance : Stance) : Nat → Command → Run Unit
  | 0, _ => throw .finish
  | fuel + 1, command => do
    if ← hasOption 'n' then return ()
    let inner : Stance := { isTested := stance.isTested }
    let tested : Stance := { isTested := true }
    let substitute := substitution fuel
    match command with
    | .simple line assignments words redirects =>
      simple stance fuel line assignments words redirects
      settle stance fuel
    | .redirected line body redirects =>
      modifyProcess fun p => { p with line }
      let ready ← redirects.mapM (Rerouting.ofRedirect substitute)
      let streams := (← process).streams
      withStreams streams do
        match ← flowOf (ready.forM (Rerouting.apply substitute)) with
        | none => execute inner fuel body
        | some .fault => setStatus 2
        | flow => resume flow
      answer fuel
    | .subshell line body redirects =>
      modifyProcess fun p => { p with line }
      let ready ← redirects.mapM (Rerouting.ofRedirect substitute)
      runDue fuel
      let ended ← isolated id (toItsEnd fuel do
        ready.forM (Rerouting.apply substitute)
        execute { stance with isLast := true } fuel body)
      learnEnds
      takeStatus ended
      stopIfOverdue
      settle stance fuel
    | .background body =>
      addJob body
      setStatus 0
      settle stance fuel
    | .pipeline parts =>
      runDue fuel
      pipeline { stance with isLast := true } fuel none parts
      learnEnds
      settle stance fuel
    | .negation body =>
      execute tested fuel body
      setStatus (if (← process).status = 0 then 1 else 0)
      answer fuel
    | .both first second =>
      execute tested fuel first
      if (← process).status = 0 then execute stance fuel second
      answer fuel
    | .either first second =>
      execute tested fuel first
      if (← process).status ≠ 0 then execute stance fuel second
      answer fuel
    | .sequence first second =>
      execute inner fuel first
      execute stance fuel second
      answer fuel
    | .conditional condition body other =>
      execute tested fuel condition
      if (← process).status = 0 then execute stance fuel body
      else match other with
        | some other => execute stance fuel other
        | none => setStatus 0
      answer fuel
    | .loop whileZero condition body =>
      aroundLoop (rounds inner whileZero condition body 0 fuel)
      answer fuel
    | .each line name words body =>
      modifyProcess fun p => { p with line }
      let fields ← words.mapM (wordsOf substitute)
      aroundLoop (eachRound inner name body 0 fuel fields.flatten)
      answer fuel
    | .choice line subject branches =>
      modifyProcess fun p => { p with line }
      let text ← textOf substitute subject
      choose stance text.toList fuel branches
      answer fuel
    | .definition name body =>
      modifyProcess fun p =>
        { p with functions := (name, body) :: p.functions.filter (·.1 != name) }
      setStatus 0
      answer fuel

/-- Runs the commands of an expansion and gives what they write. -/
def substitution : Nat → Option Command → Run Bytes
  | 0, _ => return []
  | fuel + 1, body => do
    match body with
    | none => return []
    | some command =>
      runDue fuel
      let (bytes, ended) ← collected (toItsEnd fuel (execute { isLast := true } fuel command))
      learnEnds
      reportEnd ended
      stopIfOverdue
      modifyProcess fun p => { p with substituted := statusOf ended }
      return bytes

/-- Answers signals behind a command, and ends the shell if its failure is an end. -/
def settle (stance : Stance) : Nat → Run Unit
  | 0 => return ()
  | fuel + 1 => do
    answer fuel
    let p ← process
    if p.status ≠ 0 && !stance.isTested && p.options.contains 'e' then throw .finish

/-- Answers the signals that have come. -/
def answer : Nat → Run Unit
  | 0 => return ()
  | fuel + 1 => do
    let p ← process
    match p.signals.mergeSort fun a b => decide (a ≤ b) with
    | [] => return ()
    | signal :: rest =>
      modifyProcess fun p => { p with signals := rest, ending := some p.status }
      match p.traps.lookup signal with
      | some action => runText {} fuel action
      | none => pure ()
      modifyProcess fun q => { q with status := p.status, ending := p.ending }
      answer fuel

/-- Runs a step to the end of its process, with the commands for that end. What runs beside it comes
to its end, too. -/
def toItsEnd (fuel : Nat) (step : Run Unit) : Run Unit := do
  match fuel with
  | 0 => step
  | fuel + 1 =>
    let flow ← flowOf step
    let p ← process
    let flow ← match flow with
      | some (.killed signal) => pure (Flow.killed signal)
      | _ =>
        match p.traps.lookup 0 with
        | none => pure Flow.finish
        | some action =>
          modifyProcess fun p => { p with
            traps := p.traps.filter (·.1 != 0), ending := some p.status, command := none, loops := 0 }
          match ← flowOf (runText {} fuel action) with
          | some .finish | some .fault => pure Flow.finish
          | some (.killed signal) => pure (Flow.killed signal)
          | _ =>
            setStatus p.status
            pure Flow.finish
    if !(← get).isOverdue then runPending none fuel
    throw flow

/-- Runs a job that is still to be run, and gives its end. -/
def runJob : Nat → Pending → Run ExitStatus
  | 0, _ => return .exited 0
  | fuel + 1, job => do
    let s ← get
    modify fun s => { s with pending := s.pending.filter (·.number ≠ job.number) }
    match job.stop with
    | some (time, signal) =>
      if time ≤ job.start then return .killed signal
    | none => pure ()
    let deadline := match job.stop, s.deadline with
      | some (time, _), some other => some (min time other)
      | some (time, _), none => some time
      | none, other => other
    modify fun s => { s with clock := job.start, process := job.process, deadline }
    let ended ← runApart id (toItsEnd fuel (execute { isLast := true } fuel job.body))
    let isStopped := (← get).isOverdue && !s.isOverdue && s.deadline.all (deadline.getD 0 < ·)
    modify fun t => { t with
      process := s.process, clock := max s.clock t.clock, deadline := s.deadline
      isOverdue := t.isOverdue && !isStopped }
    match job.stop, isStopped with
    | some (_, signal), true => return .killed signal
    | _, _ => return ended

/-- The time at which a job that is still to be run ends. -/
def endOf : Nat → Pending → Run Nat
  | 0, _ => return 0
  | fuel + 1, job => do
    let s ← get
    modify fun s => { s with clock := 0 }
    let _ ← runJob fuel job
    let time := (← get).clock
    modify fun _ => s
    return time

/-- Runs the jobs of the shell that end up to a time, or all of them, in the order in which they
end. -/
def runPending (limit : Option Nat) : Nat → Run Unit
  | 0 => return ()
  | fuel + 1 => do
    let own := (← process).jobs.map Job.number
    let jobs := (← get).pending.reverse.filter fun job => own.contains job.number
    let timed ← jobs.mapM fun job => do return (← endOf fuel job, job)
    let next := timed.foldl (fun (best : Option (Nat × Pending)) one =>
      match best with
      | some found => if one.1 < found.1 then some one else best
      | none => some one) none
    match next with
    | none => return ()
    | some (time, job) =>
      if limit.all (time ≤ ·) then
        let ended ← runJob fuel job
        modifyProcess fun p => { p with jobs := p.jobs.map fun one =>
          if one.number = job.number then { one with ended := some ended } else one }
        noteSignals
        runPending limit fuel

/-- Runs the jobs of the shell that end up to now. -/
def runDue : Nat → Run Unit
  | 0 => return ()
  | fuel + 1 => do
    let s ← get
    if !s.pending.isEmpty then runPending (some s.clock) fuel

/-- Waits for jobs, or for all of them. -/
def wait : Nat → List String → Run Nat
  | 0, _ => return 0
  | fuel + 1, words => do
    let interrupted : Run (Option Nat) := do
      stopIfOverdue
      return (← process).signals.head?.map (128 + ·)
    match words with
    | [] =>
      runPending none fuel
      learnEnds
      return (← interrupted).getD 0
    | _ =>
      words.foldlM (fun _ word => do
        match ← jobOf? word with
        | none => return 127
        | some job =>
          match (← get).pending.find? (·.number = job.number) with
          | none => pure ()
          | some one =>
            let time ← endOf fuel one
            runPending (some time) fuel
          let ended := ((← process).jobs.find? (·.number = job.number)).bind Job.ended
          let ended := ended.getD (.exited 0)
          match ← interrupted with
          | some status => return status
          | none =>
            if !job.isKnown then reportEnd ended
            learnEnds
            return statusOf ended) 0

/-- Runs the rounds of a loop, given the status of the last one. -/
def rounds (stance : Stance) (whileZero : Bool) (condition body : Command) (last : Nat) :
    Nat → Run Unit
  | 0 => endless
  | fuel + 1 => do
    match ← inLoop (execute { isTested := true } fuel condition) with
    | .ends => setStatus last
    | .skips => rounds stance whileZero condition body last fuel
    | .goesOn =>
      if ((← process).status = 0) != whileZero then setStatus last
      else match ← inLoop (execute stance fuel body) with
        | .ends => return ()
        | _ => rounds stance whileZero condition body (← process).status fuel

/-- Runs a list once for each of some fields, given the status of the last time. -/
def eachRound (stance : Stance) (name : String) (body : Command) (last : Nat) :
    Nat → List String → Run Unit
  | 0, _ => throw .finish
  | _ + 1, [] => setStatus last
  | fuel + 1, field :: rest => do
    assign name field
    match ← inLoop (execute stance fuel body) with
    | .ends => return ()
    | _ => eachRound stance name body (← process).status fuel rest

/-- Runs the first branch with a pattern that matches. -/
def choose (stance : Stance) (text : List Char) :
    Nat → List (List Word × Option Command) → Run Unit
  | 0, _ => throw .finish
  | _ + 1, [] => setStatus 0
  | fuel + 1, (patterns, body) :: rest => do
    let matched ← patterns.anyM fun pattern => do
      let glyphs ← glyphsOf (substitution fuel) {} pattern
      return Pattern.accepts (Pattern.ofSigns (Glyph.signs glyphs)) text
    if matched then
      match body with
      | some body => execute stance fuel body
      | none => setStatus 0
    else choose stance text fuel rest

/-- Runs the parts of a pipeline, given the channel from the part before. -/
def pipeline (stance : Stance) : Nat → Option Nat → List Command → Run Unit
  | 0, _, _ => throw .finish
  | _ + 1, _, [] => return ()
  | fuel + 1, source, part :: rest => do
    let target ← if rest.isEmpty then pure none else some <$> addChannel (.pipe [])
    let reroute (p : Process) : Process :=
      let streams := if source.isSome then withStream p.streams 0 source else p.streams
      { p with streams := if target.isSome then withStream streams 1 target else streams }
    let ended ← isolated reroute (toItsEnd fuel (execute stance fuel part))
    reportEnd ended
    if rest.isEmpty then setStatus (statusOf ended) else pipeline stance fuel target rest

/-- Runs a simple command. -/
def simple (stance : Stance) :
    Nat → Nat → List (String × Word) → List Word → List Redirect → Run Unit
  | 0, _, _, _, _ => throw .finish
  | fuel + 1, line, assignments, words, redirects => do
    modifyProcess fun p => { p with line, substituted := 0 }
    let substitute := substitution fuel
    let words ← expandWords substitute [] words
    let isPlain := (← process).functions.lookup "command" |>.isNone
    let call := if isPlain then withoutCommand words.length words else words
    let target ← match call with
      | name :: _ => some <$> targetOf (call.length < words.length) name
      | [] => pure none
    let isSpecial := call.length = words.length && match target with
      | some (.builtin name) => specialCommands.contains name
      | _ => false
    let ready ← redirects.mapM (Rerouting.ofRedirect substitute)
    let before ← process
    let isKept := call = ["exec"]
    let restore : Run Unit := do
      if !isKept then modifyProcess fun p => { p with streams := before.streams }
    match ← flowOf (ready.forM (Rerouting.apply substitute)) with
    | some .fault =>
      modifyProcess fun p => { p with streams := before.streams }
      setStatus 2
      if isSpecial then throw .fault
    | some flow =>
      restore
      throw flow
    | none =>
      let isLocal := target.isSome && !isSpecial
      let names := if isLocal then (assignments.map Prod.fst).eraseDups else []
      let old := names.map fun name => (name, before.bindings.lookup name)
      let flow ← flowOf do
        let assigned ← assignments.mapM fun (name, word) => do
          let value ← valueOf substitute word
          assign name value isLocal
          return (name, value)
        if before.options.contains 'x' then
          showTrace (before.streams.lookup 2) assigned words
        match target with
        | none => setStatus (← process).substituted
        | some target => perform stance fuel target isSpecial call
      restore
      old.forM fun (name, v) => setVariable name v
      resume flow

/-- Runs what a name stands for. -/
def perform (stance : Stance) : Nat → Target → Bool → List String → Run Unit
  | 0, _, _, _ => throw .finish
  | fuel + 1, target, isSpecial, call => do
    let name := call.headD ""
    let words := call.drop 1
    match target with
    | .builtin name =>
      let before := (← process).command
      modifyProcess fun p => { p with command := some name }
      let flow ← flowOf (setStatus =<< (match builtins.lookup name with
        | some builtin => builtin words
        | none => running stance fuel name words))
      modifyProcess fun p => { p with command := before }
      match flow with
      | some .fault => if isSpecial then throw .fault
      | flow => resume flow
    | .function body =>
      let before ← process
      if deepest ≤ before.hidden.length then
        fail s!"Maximum function recursion depth ({deepest}) reached"
      modifyProcess fun p => { p with
        arguments := words, loops := 0, letters := [], hidden := [] :: p.hidden }
      let option ← value? "OPTIND"
      setVariable "OPTIND" (some { value := some "1" })
      let flow ← flowOf (execute { isTested := stance.isTested } fuel body)
      let hidden := ((← process).hidden.head?).getD []
      hidden.forM fun (name, v) => setVariable name v
      setVariable "OPTIND" (some { value := option })
      modifyProcess fun p => { p with
        arguments := before.arguments, loops := before.loops, letters := before.letters
        hidden := before.hidden }
      match flow with
      | some .back => return ()
      | flow => resume flow
    | .program =>
      let s ← get
      match Program.find s (Program.searchPath s) name with
      | .error status =>
        complain s!"{name}: {Program.reason status}"
        setStatus status
      | .ok (_, program) =>
        runDue fuel
        let ended ← runProgram fuel (← environment) program name words
        stopIfOverdue
        runDue fuel
        learnEnds
        match ended with
        | .killed signal =>
          if stance.isLast && !(← hasTraps) then throw (.killed signal) else takeStatus ended
        | _ => takeStatus ended

/-- Runs a built-in command that runs others, and gives its status. -/
def running (stance : Stance) : Nat → String → List String → Run Nat
  | 0, _, _ => throw .finish
  | fuel + 1, name, words => do
    match name with
    | "eval" =>
      runText { isTested := stance.isTested } fuel (String.intercalate " " words)
      return (← process).status
    | "." =>
      let (_, words) ← options "" words
      match words with
      | [] => return 0
      | word :: _ =>
        let path ← sourcePath word
        let text ← sourceText path
        modifyProcess fun p => { p with command := some path }
        match ← flowOf (runText { isTested := stance.isTested } fuel text) with
        | some .back | none => return (← process).status
        | some flow => throw flow
    | "exec" =>
      let (_, words) ← options "" words
      match words with
      | [] => return 0
      | program :: rest =>
        let s ← get
        match Program.find s (Program.searchPath s) program with
        | .error status =>
          complain s!"{program}: {Program.reason status}"
          setStatus status
          throw .finish
        | .ok (_, found) =>
          let ended ← runProgram fuel (← environment) found program rest
          modifyProcess fun p => { p with traps := p.traps.filter (·.1 != 0) }
          match ended with
          | .killed signal => throw (.killed signal)
          | .exited status =>
            setStatus status
            throw .finish
    | "wait" =>
      let (_, words) ← options "" words
      wait fuel words
    | "command" =>
      let (found, words) ← options "pvV" words
      match words with
      | word :: _ => if found.isEmpty then return 0 else describe (found.any (·.1 = 'V')) word
      | [] => return 0
    | "hash" =>
      let (_, words) ← options "rv" words
      words.foldlM (fun status word => do
        let s ← get
        match ← targetOf false word with
        | .program =>
          match Program.find s (Program.searchPath s) word with
          | .ok _ => return status
          | .error _ =>
            complain s!"{word}: not found"
            return 1
        | _ => return status) 0
    | _ =>
      words.foldlM (fun status word => do
        let own ← describe true word
        return max status own) 0

/-- Runs the commands of a text. Their lines are counted from one. -/
def runText (stance : Stance) : Nat → String → Run Unit
  | 0, _ => throw .finish
  | fuel + 1, text => runLines stance false fuel { rest := text.toList }

/-- Runs the lines of a source. Without any the status is zero. -/
def runLines (stance : Stance) (hasRun : Bool) : Nat → Source → Run Unit
  | 0, _ => throw .finish
  | fuel + 1, source => do
    let s ← get
    let number := 1 + (s.documents.map Prod.fst).foldl max 0
    let source := { source with number, documents := [], aliases := s.process.aliases }
    match source.next with
    | .error (line, fault) =>
      modifyProcess fun p => { p with line }
      fail s!"Syntax error: {fault.message}"
    | .ok .finish => if !hasRun then setStatus 0
    | .ok (.commands command isLast rest) =>
      if s.process.options.contains 'v' then
        let shown := source.rest.take (source.rest.length - rest.rest.length)
        let _ ← writeTo 2 (Octets.toBytes shown)
      modify fun s => { s with documents := rest.documents ++ s.documents }
      match command with
      | none => runLines stance hasRun fuel rest
      | some command =>
        execute { stance with isLast := stance.isLast && isLast } fuel command
        if isLast then return () else runLines stance true fuel rest

/-- Runs a program in an environment. -/
def runProgram : Nat → List (String × String) → Program → String → List String → Run ExitStatus
  | 0, _, _, _, _ => return .exited 127
  | fuel + 1, environment, program, name, words => do
    match program with
    | .utility utility => Program.runUtility utility environment name words
    | .script path => runShell fuel environment name (path :: words)
    | .runner kind =>
      if ["sh", "dash", "bash"].contains kind then runShell fuel environment name words
      else
        let run : Program.Runner := fun environment call => do
          let path := (environment.lookup "PATH").getD Program.defaultPath
          match Program.find (← get) path (call.headD "") with
          | .error status => return .error status
          | .ok (_, program) =>
            return .ok (← runProgram fuel environment program (call.headD "") (call.drop 1))
        Program.runRunner run kind environment words

/-- Runs a shell of its own. -/
def runShell : Nat → List (String × String) → String → List String → Run ExitStatus
  | 0, _, _, _ => return .exited 2
  | fuel + 1, environment, name, words => do
    let s ← get
    let number := s.processCount + 1
    modify fun s => { s with processCount := number }
    let (purpose, fresh) := Purpose.ofWords false (words.length + 2)
      (.fresh name number s.process.place s.process.streams environment) words
    let ignored := s.process.traps.filter (·.2.isEmpty)
    isolated (fun _ => { fresh with traps := ignored }) (toItsEnd fuel do
      match purpose with
      | .text content => runText { isLast := true } fuel content
      | .input => runText {} fuel (String.ofList (Octets.ofBytes (← Program.takeInput)))
      | .file path =>
        modifyProcess fun p => { p with line := 0 }
        let text ← sourceText path
        modifyProcess fun p => { p with name := path, line := 1 }
        runText {} fuel text
      | .fault message =>
        modifyProcess fun p => { p with line := 0 }
        fail message)

end

/-- The most steps of a shell, one inside the other or one after the other. -/
def stepBound : Nat := 1000000

/-- Runs the commands of a text, in an environment and a directory. -/
def runCommands (environment : List (String × String)) (place : List String) (text : String)
    (files : FileTree) : Finished × FileTree :=
  let environment := environment.map fun (name, value) => (Octets.ofText name, Octets.ofText value)
  let channels : List (Nat × Channel) := [(0, .sink), (1, .pipe []), (2, .pipe [])]
  let process := Process.fresh "sh" 4711 place [(0, 0), (1, 1), (2, 2)] environment
  let start : State :=
    { files, programs := Program.places, channels, channelCount := 3, processCount := 4711, process }
  let step := toItsEnd stepBound (runText { isLast := true } stepBound (Octets.ofText text))
  let (ended, s) := (flowOf step).run start
  let status := match ended with
    | .ok (some (.killed signal)) => ExitStatus.killed signal
    | _ => .exited (s.process.status % 256)
  (⟨status, s.content 2⟩, s.files)

/-- Starts a shell for some commands, in an environment and at the path of a directory. -/
def start (environment : List (String × String)) (directory : List String) (path text : String)
    (files : FileTree) : Except String Finished × FileTree :=
  if text.toList.contains '\x00' || path.toList.contains '\x00' then
    (.error "nul byte found in provided data", files)
  else match files.enter directory path with
    | .error e => (.error e.message, files)
    | .ok place =>
      let (finished, files) := runCommands environment place text files
      (.ok finished, files)

end ScenarioRunner.Shell

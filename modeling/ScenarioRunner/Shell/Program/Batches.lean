import ScenarioRunner.Shell.Program.Basic

/-!
# Programs run on words of the input

The input is cut into words or lines, and a program is run on some of them at a time.
-/

set_option autoImplicit false

namespace ScenarioRunner.Shell

namespace Program

/-- How words are made of an input and given to a program. -/
structure Batches where
  /-- The most words of one call. -/
  words : Option Nat := none
  /-- The most lines of one call. -/
  lines : Option Nat := none
  /-- What the lines take the place of. -/
  replaced : Option String := none
  delimiter : Option Char := none
  /-- Whether nothing is run without words. -/
  skipsEmpty : Bool := false
  /-- Whether calls are shown. -/
  shows : Bool := false

namespace Batches

/-- The words of a text, with the number of the line of each, or the reason why there are none. -/
def split (line : Nat) (word : Option (List Char)) : Nat → List Char →
    List (Nat × String) × Option String
  | 0, _ => ([], none)
  | fuel + 1, text =>
    let close (rest : List (Nat × String) × Option String) : List (Nat × String) × Option String :=
      match word with
      | some chars => ((line, String.ofList chars.reverse) :: rest.1, rest.2)
      | none => rest
    let add (chars : List Char) : Option (List Char) := some (chars.reverse ++ word.getD [])
    match text with
    | [] => close ([], none)
    | c :: rest =>
      if c = '\n' then close (split (line + 1) none fuel rest)
      else if c = ' ' || c = '\t' then close (split line none fuel rest)
      else if c = '\\' then
        match rest with
        | d :: behind => split line (add [d]) fuel behind
        | [] => close ([], none)
      else if c = '"' || c = '\'' then
        let inside := rest.takeWhile fun d => d ≠ c && d ≠ '\n'
        match rest.drop inside.length with
        | d :: behind =>
          if d = c then split line (add inside) fuel behind
          else ([], some (if c = '"' then "double" else "single"))
        | [] => ([], some (if c = '"' then "double" else "single"))
      else split line (add [c]) fuel rest

/-- Words in groups of a size. -/
def groups (size : Nat) : Nat → List String → List (List String)
  | 0, _ => []
  | _ + 1, [] => []
  | fuel + 1, words => words.take size :: groups size fuel (words.drop size)

/-- Puts a text in the place of another one. -/
def replace (old new : List Char) : Nat → List Char → List Char
  | 0, text => text
  | _ + 1, [] => []
  | fuel + 1, c :: rest =>
    if !old.isEmpty && old.isPrefixOf (c :: rest) then
      new ++ replace old new fuel ((c :: rest).drop old.length)
    else c :: replace old new fuel rest

/-- The calls that are made of an input, given the words of the program, and what is wrong with the
quotes in it. -/
def calls (batches : Batches) (program : List String) (text : List Char) :
    List (List String) × Option String :=
  match batches.replaced, batches.delimiter with
  | some mark, _ =>
    let lines := (Utility.splitAt '\n' text).map fun line => line.dropWhile fun c => c = ' ' || c = '\t'
    let lines := lines.filter (!·.isEmpty)
    (lines.map fun line => program.map fun word =>
      String.ofList (replace mark.toList line (word.length + 1) word.toList), none)
  | none, some c =>
    let parts := Utility.splitAt c text
    let parts := if parts.getLast? = some [] then parts.dropLast else parts
    (grouped (parts.map String.ofList), none)
  | none, none =>
    let (words, fault) := split 0 none (text.length + 1) text
    match batches.lines with
    | some size =>
      let numbers := (words.map Prod.fst).eraseDups
      let byLine := numbers.map fun n => (words.filter (·.1 = n)).map Prod.snd
      let joined := (List.range ((byLine.length + size - 1) / max size 1)).map fun n =>
        ((byLine.drop (n * size)).take size).flatten
      (joined.map (program ++ ·), fault)
    | none => (grouped (words.map Prod.snd), fault)
where
  /-- The calls with some words. -/
  grouped (words : List String) : List (List String) :=
    if words.isEmpty then if batches.skipsEmpty then [] else [program]
    else
      let size := batches.words.getD words.length
      (groups (max size 1) (words.length + 1) words).map (program ++ ·)

end Batches

/-- Runs a program with words from the input. -/
def xargs (run : Runner) (environment : List (String × String)) (batches : Batches) :
    Nat → List String → Run ExitStatus
  | 0, _ => return .exited 1
  | fuel + 1, words => do
    let size (option text : String) (use : Nat → Batches) (rest : List String) : Run ExitStatus := do
      match text.toNat? with
      | some n =>
        if n = 0 then refuseAs "xargs" s!"value {text} for -{option} option should be >= 1" 1
        else xargs run environment (use n) fuel rest
      | none => refuseAs "xargs" s!"invalid number \"{text}\" for -{option} option" 1
    match words with
    | "-r" :: rest | "--no-run-if-empty" :: rest =>
      xargs run environment { batches with skipsEmpty := true } fuel rest
    | "-t" :: rest => xargs run environment { batches with shows := true } fuel rest
    | "-0" :: rest | "--null" :: rest =>
      xargs run environment { batches with delimiter := some '\x00' } fuel rest
    | "-n" :: text :: rest => size "n" text (fun n => { batches with words := some n }) rest
    | "-L" :: text :: rest => size "L" text (fun n => { batches with lines := some n }) rest
    | "-P" :: _ :: rest | "-s" :: _ :: rest => xargs run environment batches fuel rest
    | "-I" :: mark :: rest => xargs run environment { batches with replaced := some mark } fuel rest
    | "-d" :: mark :: rest =>
      let c := match mark.toList with
        | ['\\', 'n'] => '\n'
        | ['\\', 't'] => '\t'
        | ['\\', '0'] => '\x00'
        | c :: _ => c
        | [] => '\x00'
      xargs run environment { batches with delimiter := some c } fuel rest
    | "--" :: rest => runAll rest
    | word :: rest =>
      match word.toList with
      | '-' :: 'n' :: text =>
        size "n" (String.ofList text) (fun n => { batches with words := some n }) rest
      | '-' :: 'L' :: text =>
        size "L" (String.ofList text) (fun n => { batches with lines := some n }) rest
      | '-' :: 'I' :: mark =>
        xargs run environment { batches with replaced := some (String.ofList mark) } fuel rest
      | '-' :: 'P' :: _ => xargs run environment batches fuel rest
      | '-' :: 'd' :: mark => xargs run environment batches fuel ("-d" :: String.ofList mark :: rest)
      | '-' :: c :: more =>
        if ['r', 't', '0'].contains c && !more.isEmpty then
          xargs run environment batches fuel
            (String.ofList ['-', c] :: String.ofList ('-' :: more) :: rest)
        else refuseAs "xargs" s!"invalid option -- '{c}'" 1
      | _ => runAll words
    | [] => runAll []
where
  /-- Runs all calls, one after the other. -/
  runAll (words : List String) : Run ExitStatus := do
    let program := if words.isEmpty then ["echo"] else words
    let text := Octets.ofBytes (← takeInput)
    let (calls, fault) := batches.calls program text
    let ended ← runCalls (program.headD "") 0 calls
    match fault with
    | some kind =>
      complainAs "xargs" (s!"unmatched {kind} quote; by default quotes are special to xargs "
        ++ "unless you use the -0 option")
      return .exited 1
    | none => return ended
  /-- Runs calls until one says that all is to end. -/
  runCalls (name : String) (status : Nat) : List (List String) → Run ExitStatus
    | [] => return .exited status
    | call :: rest => do
      if batches.shows then
        let _ ← writeTo 2 (Octets.toBytes (String.intercalate " " call ++ "\n").toList)
      let before ← process
      -- what is run has no input of its own
      let sink ← addChannel .sink
      connect 0 (some sink)
      let ended ← runFor run (fun text => text) "xargs" environment call
      modifyProcess fun p => { p with streams := before.streams }
      match ended with
      | .exited 0 => runCalls name status rest
      | .exited 255 =>
        complainAs "xargs" s!"{name}: exited with status 255; aborting"
        return .exited 124
      | .exited 126 => return .exited 126
      | .exited 127 => return .exited 127
      | .exited _ => runCalls name 123 rest
      | .killed signal =>
        complainAs "xargs" s!"{name}: terminated by signal {signal}"
        return .exited 125

end Program

end ScenarioRunner.Shell

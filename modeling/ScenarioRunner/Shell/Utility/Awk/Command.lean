import ScenarioRunner.Shell.Utility.Awk.Evaluate

/-!
# Calling scripts on records

The words of a call name the script, the variables that are given to it, and its input.
-/

set_option autoImplicit false

namespace ScenarioRunner.Shell.Awk

/-- What the words of a call ask for. -/
structure Request where
  /-- The separator of fields. -/
  separator : Option String := none
  /-- The variables that are given, last first. -/
  given : List (String × List Char) := []
  /-- The files that hold the script, last first. -/
  files : List String := []
  /-- The script and the operands. -/
  words : List String := []

/-- Reads the words of a call. -/
def Request.ofWords : Nat → Request → List String → Except String Request
  | 0, request, words => .ok { request with words }
  | fuel + 1, request, words =>
    let assign (text : String) (rest : List String) : Except String Request :=
      match assignment? text.toList with
      | some found => ofWords fuel { request with given := found :: request.given } rest
      | none => .error s!"improper assignment: -v {text}"
    match words with
    | [] => .ok request
    | "--" :: rest => .ok { request with words := rest }
    | "-" :: _ => .ok { request with words }
    | ["-F"] | ["-f"] | ["-v"] | ["-W"] =>
      let option := words.headD ""
      .error s!"option {option} lacks argument"
    | "-F" :: text :: rest => ofWords fuel { request with separator := some text } rest
    | "-v" :: text :: rest => assign text rest
    | "-f" :: path :: rest => ofWords fuel { request with files := path :: request.files } rest
    | "-W" :: _ :: rest => ofWords fuel request rest
    | word :: rest =>
      match word.toList with
      | '-' :: 'F' :: text => ofWords fuel { request with separator := some (String.ofList text) } rest
      | '-' :: 'v' :: text => assign (String.ofList text) rest
      | '-' :: 'f' :: path =>
        ofWords fuel { request with files := String.ofList path :: request.files } rest
      | '-' :: 'W' :: _ => ofWords fuel request rest
      | '-' :: _ => .error s!"not an option: {word}"
      | _ => .ok { request with words }

/-- The content of the files that hold a script. -/
def scriptText (paths : List String) : Run (Except String (List Char)) := do
  let s ← get
  let texts := paths.map fun path =>
    match s.files.read s.process.place (Octets.toText path) with
    | .ok bytes => Except.ok (Octets.ofBytes bytes)
    | .error e => .error ("cannot open \"" ++ path ++ "\" (" ++ e.summary ++ ")")
  match texts.mapM id with
  | .ok found => return .ok (['\n'].intercalate found)
  | .error message => return .error message

/-- The state of a script before its first rule, given its arguments. -/
def Machine.start (site : Site) (script : Script) (request : Request) (arguments : List String) :
    Machine :=
  let numbered := (arguments.zip (List.range arguments.length)).map fun (text, n) =>
    (toString n, Cell.input text.toList)
  let environment := site.environment.map fun (name, value) => (name, Cell.input value.toList)
  let text (content : String) : Slot := .cell (.text content.toList)
  let number (n : Int) : Slot := .cell (.ofInt n)
  let given := request.given.map fun (name, value) => (name, Slot.cell (givenValue value))
  let separator := request.separator.map fun text => Slot.cell (givenValue text.toList)
  let own : List (String × Slot) :=
    [("FS", separator.getD (text " ")), ("OFS", text " "), ("ORS", text "\n"), ("RS", text "\n"),
      ("NF", number 0), ("NR", number 0), ("FNR", number 0), ("SUBSEP", text "\x1c"),
      ("CONVFMT", text "%.6g"), ("OFMT", text "%.6g"), ("RSTART", number 0), ("RLENGTH", number (-1)),
      ("FILENAME", text ""), ("ARGC", number arguments.length), ("ARGV", .array 0),
      ("ENVIRON", .array 1)]
  { script
    globals := given ++ own.filter fun (name, _) => (given.lookup name).isNone
    arrays := [(0, numbered), (1, environment)], arrayCount := 2 }

/-- Runs the script that the words of a call name. -/
def command (runner : Program.Runner) (environment : List (String × String)) (name : String)
    (words : List String) : Run ExitStatus := do
  let refuse (message : String) : Run ExitStatus := do
    (message.splitOn "\nline ").zip (List.range message.length) |>.forM fun (line, n) =>
      Program.complainAs name (if n = 0 then line else "line " ++ line)
    return .exited 2
  match Request.ofWords (words.length + 1) {} words with
  | .error message => refuse message
  | .ok request =>
    let found : Except String (List Char × List String) ← match request.files, request.words with
      | [], [] => pure (.error "no program")
      | [], script :: rest => pure (.ok (script.toList, rest))
      | files, rest => do
        match ← scriptText files.reverse with
        | .ok text => pure (.ok (text, rest))
        | .error message => pure (.error message)
    match found with
    | .error message => refuse message
    | .ok (text, operands) =>
      match Script.ofText text with
      | .error message => refuse message
      | .ok script =>
        let site : Site := ⟨runner, environment⟩
        let m := Machine.start site script request (name :: operands)
        return .exited (← run site name m)

end ScenarioRunner.Shell.Awk

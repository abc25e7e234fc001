import ScenarioRunner.Error
import ScenarioRunner.Files.Tree
import ScenarioRunner.Schema.Conform
import ScenarioRunner.Schema.Form
import ScenarioRunner.Toml.Read

/-!
# Settings

The settings of the tool are a TOML document with two parts, one about requests and one about runs.
What the document leaves out has its default, and what it says about anything else is ignored.
-/

set_option autoImplicit false

namespace ScenarioRunner

/-- The settings of the tool. -/
structure Settings where
  /-- Seconds after which a request is given up. -/
  timeoutSecs : Nat := 30
  /-- The name under which requests are sent. -/
  userAgent : String := "apitest"
  /-- Seconds in which the cases of a run have to end; zero is no limit. -/
  deadlineSecs : Nat := 0
  deriving DecidableEq

namespace Settings

/-! ## The written form -/

/-- The form of the part about requests. -/
def requestFields : List (String × Presence × Schema) :=
  [("timeout_secs", .defaulted, .natural Value.unsignedBound), ("user_agent", .defaulted, .text)]

/-- The form of the part about runs. -/
def runFields : List (String × Presence × Schema) :=
  [("deadline_secs", .defaulted, .natural Value.unsignedBound)]

/-- What a document has under a name. -/
def entry? (name : String) : Datum → Option Datum
  | .map entries => (entries.find? fun entry => entry.1.namesField name 0).map Prod.snd
  | _ => none

/-- A part of the settings in normal form. Written as a list, it can have more items than it has
fields; the others are ignored. -/
def part? (name : String) (fields : List (String × Presence × Schema)) (document : Datum) :
    Option Value :=
  match entry? name document with
  | none => some (.map [])
  | some (.list items) => (Schema.record fields).conform? (.list (items.take fields.length))
  | some d => (Schema.record fields).conform? d

/-- Reads the settings from a document. -/
def ofDatum? (document : Datum) : Option Settings := do
  let http ← part? "http" requestFields document
  let run ← part? "run" runFields document
  let standard : Settings := {}
  return {
    timeoutSecs := (http.naturalAt? "timeout_secs").getD standard.timeoutSecs
    userAgent := (http.textAt? "user_agent").getD standard.userAgent
    deadlineSecs := (run.naturalAt? "deadline_secs").getD standard.deadlineSecs }

/-- The error of settings that cannot be understood. -/
def malformed : Error := .config "invalid config file"

/-- Reads the settings from a text. -/
def parse (text : String) : Except Error Settings :=
  match (Toml.read? text).bind ofDatum? with
  | some settings => .ok settings
  | none => .error malformed

/-! ## Meaning -/

/-- Seconds in which the cases of a run have to end, unless there is no limit. -/
def deadline (settings : Settings) : Option Nat :=
  if settings.deadlineSecs = 0 then none else some settings.deadlineSecs

/-- Whether a character can stand in a header line: controls cannot, the tab apart. -/
def isHeaderChar (c : Char) : Bool := c == '\t' || (0x20 ≤ c.toNat && c.toNat != 0x7F)

/-- Checks that requests can be sent under the name in the settings. -/
def checkUserAgent (settings : Settings) : Except Error Unit :=
  if settings.userAgent.toList.all isHeaderChar then .ok ()
  else .error (.config "Failed to build HTTP client: builder error")

/-! ## Files -/

/-- Reads the settings from the file at a path. -/
def loadFile (files : FileTree) (directory : List String) (path : String) :
    Except Error Settings :=
  match files.readText directory path with
  | .error e => .error (.fileRead path e.message)
  | .ok text => parse text

/-- Loads the settings. A file that is asked for has to be there; without one, the standard file is
read if it is there. -/
def load (files : FileTree) (directory : List String) (asked standard : Option String) :
    Except Error Settings :=
  match asked with
  | some path => loadFile files directory path
  | none =>
    match standard.filter (files.contains directory) with
    | some path => loadFile files directory path
    | none => .ok {}

end Settings

end ScenarioRunner

import ScenarioRunner.Files.Tree
import ScenarioRunner.Suite.Form
import ScenarioRunner.Suite.Validation
import ScenarioRunner.Yaml.Conform

/-!
# Suites in files

A suite is a YAML document. Once it is read it is checked, so a loaded suite is well-formed.
-/

set_option autoImplicit false

namespace ScenarioRunner.Suite

/-- A suite that has been checked. -/
def checked (suite : Suite) : Except Error Suite :=
  match suite.validate with
  | .ok _ => .ok suite
  | .error e => .error e

/-- Reads and checks a suite from a text. -/
def parse (text : String) : Except Error Suite :=
  match Yaml.read schema text with
  | .ok form => (ofForm form).checked
  | .error e => .error e

/-- Says which file an error of a document is about. -/
def locateError (path : String) : Error → Error
  | .yaml reason => .scenarioParse path reason
  | e => e

/-- Reads and checks a suite from the file at a path. -/
def load (files : FileTree) (directory : List String) (path : String) : Except Error Suite :=
  match files.readText directory path with
  | .error e => .error (.fileRead path e.message)
  | .ok text => (parse text).mapError (locateError path)

end ScenarioRunner.Suite

import ScenarioRunner.Shell.Utility.Edit.Editor
import ScenarioRunner.Shell.Utility.Order
import ScenarioRunner.Shell.Utility.Search
import ScenarioRunner.Shell.Utility.System

/-!
# All programs

The programs by name that need nothing but their words and the files.
-/

set_option autoImplicit false

namespace ScenarioRunner.Shell.Utility

/-- A program that does nothing but end with a status. -/
def ending (status : Nat) : Utility := fun _ => Act.setStatus status

/-- The programs by name. -/
def all : List (String × Utility) :=
  [("cat", cat), ("tac", tac), ("rev", rev), ("tee", tee), ("head", head), ("tail", tail),
    ("wc", wc), ("nl", nl), ("sort", sort), ("uniq", uniq), ("cut", cut), ("paste", paste),
    ("fold", fold), ("yes", yes), ("seq", seq), ("tr", tr), ("expr", expr),
    ("basename", basename), ("dirname", dirname), ("ls", ls), ("dir", ls), ("find", find),
    ("stat", stat), ("touch", touch), ("mkdir", mkdir), ("mktemp", mktemp), ("rmdir", rmdir),
    ("rm", rm), ("cp", cp), ("mv", mv), ("ln", ln), ("chmod", chmod), ("chown", chown),
    ("chgrp", chown), ("readlink", readlink), ("realpath", realpath), ("grep", grep),
    ("egrep", grepWith true false), ("fgrep", grepWith false true), ("sed", sed), ("echo", echo),
    ("printf", printf), ("test", test), ("[", test), ("true", ending 0), ("false", ending 1),
    ("sync", ending 0), ("printenv", printenv), ("whoami", fixed "root"), ("logname", fixed "root"),
    ("groups", fixed "root"), ("hostname", fixed "localhost"), ("nproc", fixed "1"),
    ("arch", fixed "x86_64"), ("id", id), ("uname", uname), ("sleep", sleep), ("tty", tty),
    ("cmp", cmp), ("diff", diff), ("comm", comm), ("base64", base64), ("od", od)]

end ScenarioRunner.Shell.Utility

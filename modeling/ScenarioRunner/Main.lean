import ScenarioRunner.Command.Arguments
import ScenarioRunner.Command.Execute
import ScenarioRunner.Files.Changes

/-!
# The program

Copies the files that a command names into a tree, executes the command on it, prints its lines and
writes the files that have changed. There is no network behind it: every request fails in transport.
-/

set_option autoImplicit false

namespace ScenarioRunner

/-- The place that a path names from a directory, read off the path alone. -/
def placeOf (directory : List String) (path : String) : List String :=
  let start := if path.startsWith "/" then [] else directory
  ((FileTree.splitPath path.toList).map String.ofList).foldl (fun place part =>
    if part = "" ∨ part = "." then place
    else if part = ".." then place.dropLast
    else place ++ [part]) start

/-- Copies what stands at a path into a tree: a file with its content, else a directory. -/
def copyIn (directory : List String) (files : FileTree) (path : String) : IO FileTree := do
  let place := placeOf directory path
  if (files.get? place).isSome then return files
  try
    let content ← IO.FS.readBinFile path
    return .insert (.file content.toList) files place
  catch _ =>
    try
      let _ ← IO.FS.realPath path
      return .insert (.directory []) files place
    catch _ => return files

/-- The files that a command names, with the directory that it writes to. -/
def Command.paths (standard : Option String) : Command → List String
  | .validate path => [path]
  | .run options =>
    options.path :: standard.toList ++ options.settingsPath.toList
      ++ options.exportPath.toList.map FileTree.parentPath

/-- Writes a file, with the directories on the way. -/
def writeOut (place : List String) (content : Bytes) : IO Unit := do
  IO.FS.createDirAll (FileTree.pathOf place.dropLast)
  IO.FS.writeBinFile (FileTree.pathOf place) ⟨content.toArray⟩

/-- Executes a command and gives the exit status. -/
def Command.main (command : Command) : IO UInt32 := do
  let block ← try (·.toList) <$> IO.FS.readBinFile "/proc/self/environ" catch _ => pure []
  let environment := environmentOfBlock block
  let standard := standardSettingsPath fun name => environment.lookup name
  let directory := placeOf [] (← IO.currentDir).toString
  let files ← (command.paths standard).foldlM (copyIn directory)
    (.insert (.directory []) (.directory []) directory)
  let around : Surroundings Unit :=
    { directory, settingsPath := standard, environment
      send := fun _ _ _ => (⟨0, .error (.transport "there is no network")⟩, ()) }
  let colours ← (← IO.getStdout).isTty
  let supply ← IO.rand 0 (Nat.pow 2 122)
  let done := command.execute around colours ⟨0, supply, ⟨files, ()⟩⟩
  IO.print (unlines done.lines)
  (files.changed done.world.state.files).forM fun entry => writeOut entry.1 entry.2
  match done.outcome with
  | .ok _ => return 0
  | .error e =>
    IO.eprintln s!"Error: {e.message}"
    return 1

end ScenarioRunner

/-- Executes the command that the arguments name. -/
def main (arguments : List String) : IO UInt32 := do
  match ScenarioRunner.Command.ofArguments? arguments with
  | some command => command.main
  | none =>
    IO.eprintln ScenarioRunner.Command.usage
    return 2

import ScenarioRunner.Files.Tree

/-!
# Changed files

All files of a tree with their places, and those in which a tree differs from an earlier one.
-/

set_option autoImplicit false

namespace ScenarioRunner.FileTree

mutual

/-- The files of a tree at a place. -/
def filesAt (place : List String) : FileTree → List (List String × Bytes)
  | file content => [(place, content)]
  | sink => []
  | directory entries => filesOfEntries place entries

/-- The files of the entries of a directory at a place. -/
def filesOfEntries (place : List String) : List (String × FileTree) → List (List String × Bytes)
  | [] => []
  | (name, tree) :: rest => tree.filesAt (place ++ [name]) ++ filesOfEntries place rest

end

/-- Whether a tree has a file of some content at a place. -/
def hasFile (tree : FileTree) (place : List String) (content : Bytes) : Bool :=
  match tree.get? place with
  | some (file found) => found == content
  | _ => false

/-- The files that are new or have another content than before. -/
def changed (before after : FileTree) : List (List String × Bytes) :=
  (after.filesAt []).filter fun entry => !before.hasFile entry.1 entry.2

end ScenarioRunner.FileTree

import ScenarioRunner.Text.Utf8
import ScenarioRunner.Value.Fields

/-!
# File trees

A tree of directories and files. A path names a place in it: every part but the last has to lead
through a directory, and two points lead back to the directory above.
-/

set_option autoImplicit false

namespace ScenarioRunner

/-- A file or a directory. -/
inductive FileTree where
  | file (content : Bytes)
  /-- A file that is always empty. -/
  | sink
  | directory (entries : List (String × FileTree))

instance : Inhabited FileTree := ⟨.directory []⟩

/-- Why a path cannot be used. -/
inductive FileError where
  | notFound
  | alreadyExists
  | notDirectory
  | isDirectory
  | nameTooLong
  | hasNul
  | notUtf8
  deriving DecidableEq

/-- The wording of the error without its number. -/
def FileError.summary : FileError → String
  | notFound => "No such file or directory"
  | alreadyExists => "File exists"
  | notDirectory => "Not a directory"
  | isDirectory => "Is a directory"
  | nameTooLong => "File name too long"
  | hasNul => "file name contained an unexpected NUL byte"
  | notUtf8 => "stream did not contain valid UTF-8"

/-- The number that the system gives an error, if it comes from there. -/
def FileError.number? : FileError → Option Nat
  | notFound => some 2
  | alreadyExists => some 17
  | notDirectory => some 20
  | isDirectory => some 21
  | nameTooLong => some 36
  | hasNul => none
  | notUtf8 => none

/-- The wording of an error. -/
def FileError.message (e : FileError) : String :=
  match e.number? with
  | some number => s!"{e.summary} (os error {number})"
  | none => e.summary

namespace FileTree

/-- What stands at a place. -/
def get? : FileTree → List String → Option FileTree
  | tree, [] => some tree
  | directory entries, name :: rest => (Fields.get? entries name).bind (·.get? rest)
  | _, _ :: _ => none

/-- Puts a tree at a place, with the directories on the way that are not there yet. Below a file there
is no place. -/
def insert (added : FileTree) : FileTree → List String → FileTree
  | _, [] => added
  | directory entries, name :: rest =>
    let inner := (Fields.get? entries name).getD (directory [])
    directory (Fields.insert name (insert added inner rest) entries)
  | tree, _ :: _ => tree

/-- Removes what stands at a place. -/
def erase : FileTree → List String → FileTree
  | directory entries, [name] => directory (Fields.erase entries name)
  | directory entries, name :: rest =>
    match Fields.get? entries name with
    | some inner => directory (Fields.insert name (inner.erase rest) entries)
    | none => directory entries
  | tree, _ => tree

/-- The most bytes of one part of a path. -/
def nameBound : Nat := 255

/-- The least count of bytes that no path has. -/
def pathBound : Nat := 4096

/-- Follows parts of a path from a place. All but the last have to exist. -/
def follow (tree : FileTree) (place : List String) : List String → Except FileError (List String)
  | [] => .ok place
  | name :: rest =>
    match tree.get? place with
    | none => .error .notFound
    | some (.directory _) =>
      if name = "" ∨ name = "." then tree.follow place rest
      else if name = ".." then tree.follow place.dropLast rest
      else if nameBound < name.utf8ByteSize then .error .nameTooLong
      else tree.follow (place ++ [name]) rest
    | some _ => .error .notDirectory

/-- Cuts a text at every slash. -/
def splitPath : List Char → List (List Char)
  | [] => [[]]
  | c :: rest =>
    if c = '/' then [] :: splitPath rest
    else match splitPath rest with
      | part :: parts => (c :: part) :: parts
      | [] => [[c]]

/-- The place that a path leads to from a directory. -/
def locate (tree : FileTree) (directory : List String) (path : String) :
    Except FileError (List String) :=
  let start := if path.startsWith "/" then [] else directory
  if path.toList.contains '\x00' then .error .hasNul
  else if path.isEmpty then .error .notFound
  else if pathBound ≤ path.utf8ByteSize then .error .nameTooLong
  else tree.follow start ((splitPath path.toList).map String.ofList)

/-- Whether a path leads to a file or a directory. -/
def contains (tree : FileTree) (directory : List String) (path : String) : Bool :=
  match tree.locate directory path with
  | .ok place => (tree.get? place).isSome
  | .error _ => false

/-- The content of the file at a path. -/
def read (tree : FileTree) (directory : List String) (path : String) : Except FileError Bytes :=
  match tree.locate directory path with
  | .error e => .error e
  | .ok place =>
    match tree.get? place with
    | some (.file content) => .ok content
    | some .sink => .ok []
    | some (.directory _) => .error .isDirectory
    | none => .error .notFound

/-- The text of the file at a path. -/
def readText (tree : FileTree) (directory : List String) (path : String) :
    Except FileError String :=
  match tree.read directory path with
  | .error e => .error e
  | .ok content =>
    match Utf8.decode? content with
    | some text => .ok text
    | none => .error .notUtf8

/-- The place of a file that may be new. A path that ends in a slash can only be a directory. -/
def locateFile (tree : FileTree) (directory : List String) (path : String) :
    Except FileError (List String) :=
  if path.endsWith "/" then
    let stem := String.ofList (path.toList.reverse.dropWhile (· = '/')).reverse
    match if stem.isEmpty then .ok [] else tree.locate directory stem with
    | .error e => .error e
    | .ok _ => .error .isDirectory
  else tree.locate directory path

/-- Writes the content of the file at a path, given the content before, which is empty for a new
file. -/
def modify (tree : FileTree) (directory : List String) (path : String) (f : Bytes → Bytes) :
    Except FileError FileTree :=
  match tree.locateFile directory path with
  | .error e => .error e
  | .ok place =>
    match tree.get? place with
    | some (.directory _) => .error .isDirectory
    | some .sink => .ok tree
    | some (.file content) => .ok (insert (.file (f content)) tree place)
    | none =>
      match tree.get? place.dropLast with
      | some (.directory _) => .ok (insert (.file (f [])) tree place)
      | some _ => .error .notDirectory
      | none => .error .notFound

/-- Writes a file, in the place of an older one. -/
def write (tree : FileTree) (directory : List String) (path : String) (content : Bytes) :
    Except FileError FileTree := tree.modify directory path fun _ => content

/-- The directory that a path leads to. -/
def enter (tree : FileTree) (directory : List String) (path : String) :
    Except FileError (List String) :=
  match tree.locate directory path with
  | .error e => .error e
  | .ok place =>
    match tree.get? place with
    | some (.directory _) => .ok place
    | some _ => .error .notDirectory
    | none => .error .notFound

/-- A place as an absolute path. -/
def pathOf (place : List String) : String :=
  if place.isEmpty then "/" else String.join (place.map ("/" ++ ·))

/-- The directory of a path, itself a path. -/
def parentPath (path : String) : String :=
  let behind := path.toList.reverse.dropWhile (· = '/')
  let above := behind.dropWhile (· ≠ '/')
  let trimmed := above.dropWhile (· = '/')
  if above.isEmpty then "."
  else if trimmed.isEmpty then "/"
  else String.ofList trimmed.reverse

end FileTree

end ScenarioRunner

import ScenarioRunner.Toml.Scalar
import ScenarioRunner.Toml.Table

/-!
# Reading TOML

A document is lines: entries, headers, comments and empty ones. Lists can go over several lines,
tables in braces cannot.
-/

set_option autoImplicit false

namespace ScenarioRunner.Toml

/-- The least count of lists and tables in braces that cannot be inside each other. -/
def depthBound : Nat := 80

/-- Skips a comment. -/
def skipComment : List Char → List Char
  | '#' :: rest => rest.dropWhile isPrintable
  | text => text

/-- Skips white space, line breaks and comments. -/
def skipLines : Nat → List Char → Option (List Char)
  | 0, _ => none
  | fuel + 1, text =>
    let rest := skipComment (skipSpaces text)
    match afterBreak? rest with
    | some behind => skipLines fuel behind
    | none => if beginsComment (skipSpaces text) then (if rest.isEmpty then some rest else none)
      else some rest
where
  /-- Whether a comment begins here. -/
  beginsComment (text : List Char) : Bool := text.head? == some '#'

/-- A key with points, as the path of its table and its last part. -/
def path? (text : List Char) : Option (List String × String × List Char) := do
  let (parts, rest) ← key? keyBound text
  if keyBound ≤ parts.length then none
  return (parts.dropLast, ← parts.getLast?, rest)

mutual

/-- A value, inside at most a number of lists and tables. -/
def value? (depth : Nat) : Nat → List Char → Option (Datum × List Char)
  | 0, _ => none
  | fuel + 1, text =>
    match text with
    | '"' :: _ | '\'' :: _ => (string? text).map fun (s, rest) => (.str (String.ofList s), rest)
    | '[' :: rest =>
      if depth ≤ 1 then none
      else (items? (depth - 1) fuel rest).map fun (items, rest) => (.list items, rest)
    | '\x7b' :: rest =>
      if depth ≤ 1 then none
      else match skipSpaces rest with
        | '\x7d' :: behind => some (.map [], behind)
        | rest =>
          (entries? (depth - 1) [] fuel rest).map fun (entries, rest) =>
            (.map (entriesData entries), rest)
    | 't' :: 'r' :: 'u' :: 'e' :: rest => some (.bool true, rest)
    | 'f' :: 'a' :: 'l' :: 's' :: 'e' :: rest => some (.bool false, rest)
    | _ => number? text

/-- The items of a list, up to its closing bracket. -/
def items? (depth : Nat) : Nat → List Char → Option (List Datum × List Char)
  | 0, _ => none
  | fuel + 1, text => do
    match ← skipLines (text.length + 1) text with
    | ']' :: rest => some ([], rest)
    | text =>
      let (d, rest) ← value? depth fuel text
      match ← skipLines (rest.length + 1) rest with
      | ',' :: rest =>
        let (others, rest) ← items? depth fuel rest
        return (d :: others, rest)
      | ']' :: rest => return ([d], rest)
      | _ => none

/-- The entries of a table in braces, up to its closing one. -/
def entries? (depth : Nat) (found : Entries) : Nat → List Char → Option (Entries × List Char)
  | 0, _ => none
  | fuel + 1, text => do
    let (path, key, rest) ← path? text
    let (d, rest) ← value? depth fuel (skipSpaces (← expect? '=' rest))
    let found ← found.add path key d
    match skipSpaces rest with
    | ',' :: rest => entries? depth found fuel rest
    | '\x7d' :: rest => some (found, rest)
    | _ => none

end

/-- What follows the end of a line, behind white space and a comment. -/
def endLine? (text : List Char) : Option (List Char) :=
  match skipComment (skipSpaces text) with
  | [] => some []
  | rest => afterBreak? rest

/-- A document as far as it is read. -/
structure Reader where
  entries : Entries := []
  /-- The path of the table whose entries are being read. -/
  path : List String := []

namespace Reader

/-- Adds an entry to the current table. -/
def add (reader : Reader) (path : List String) (key : String) (d : Datum) : Option Reader :=
  (Entries.change false (fun _ inner => inner.add path key d) reader.path .header
    reader.entries).map fun entries => { reader with entries }

/-- Reads one line. Gives what follows it. -/
def line (reader : Reader) (text : List Char) : Option (Reader × List Char) :=
  match skipSpaces text with
  | '[' :: '[' :: rest => do
    let (path, key, rest) ← path? rest
    let rest ← endLine? (← expect? ']' (← expect? ']' rest))
    return (⟨← reader.entries.addTable path key, path ++ [key]⟩, rest)
  | '[' :: rest => do
    let (path, key, rest) ← path? rest
    let rest ← endLine? (← expect? ']' rest)
    return (⟨← reader.entries.openTable path key, path ++ [key]⟩, rest)
  | [] => some (reader, [])
  | c :: rest =>
    if c = '#' ∨ (afterBreak? (c :: rest)).isSome then
      (endLine? (c :: rest)).map fun rest => (reader, rest)
    else do
      let (path, key, rest) ← path? (c :: rest)
      let rest := skipSpaces (← expect? '=' rest)
      let (d, rest) ← value? depthBound (rest.length + 1) rest
      let rest ← endLine? rest
      return (← reader.add path key d, rest)

/-- Reads all lines. -/
def run : Nat → Reader → List Char → Option Entries
  | 0, _, _ => none
  | fuel + 1, reader, text =>
    if text.isEmpty then some reader.entries
    else match reader.line text with
      | none => none
      | some (reader, rest) => run fuel reader rest

end Reader

/-- The data of a document, unless it is ill-formed. -/
def read? (text : String) : Option Datum :=
  let text := match text.toList with
    | '\uFEFF' :: rest => rest
    | text => text
  (Reader.run (text.length + 1) {} text).map fun entries => .map (entriesData entries)

end ScenarioRunner.Toml

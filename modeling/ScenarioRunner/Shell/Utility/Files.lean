import ScenarioRunner.Shell.Pattern
import ScenarioRunner.Shell.Utility.Text

/-!
# Programs on files

Programs that show, make, copy, move and remove files and directories. There is one user, who may do
everything.
-/

set_option autoImplicit false

namespace ScenarioRunner.Shell.Utility

open Act

/-- Puts a tree at a place. -/
def put (place : List String) (tree : FileTree) : Act Unit :=
  modify fun w => { w with files := FileTree.insert tree w.files place }

/-- Removes what stands at a place. -/
def remove (place : List String) : Act Unit :=
  modify fun w => { w with
    files := w.files.erase place, programs := w.programs.filter (!place.isPrefixOf ·) }

/-- The path of something in a directory. -/
def pathInside (path name : String) : String :=
  if path.endsWith "/" then path ++ name else path ++ "/" ++ name

/-- Whether a path leads to a directory. -/
def isDirectory (path : String) : Act Bool := do
  match ← look path with
  | .ok (.directory _) => return true
  | _ => return false

/-- The names of the entries of a directory, in order. -/
def sortedNames (entries : List (String × FileTree)) : List String :=
  (entries.map fun entry => Octets.ofText entry.1).mergeSort fun a b => decide (a ≤ b)

/-! ## Showing -/

/-- What `ls` shows of a name. -/
def lsName (marks : Bool) (slashes : Bool) (isDir : Bool) (name : String) : String :=
  if (marks || slashes) && isDir then name ++ "/" else name

/-- Lists a directory, and those in it if that is asked for. -/
def lsDirectory (chosen : Chosen) :
    Nat → Bool → Bool → String → List (String × FileTree) → Act Unit
  | 0, _, _, _, _ => return ()
  | fuel + 1, isFirst, titled, path, entries => do
    if titled then
      if !isFirst then print "\n"
      printLine s!"{path}:"
    let names := sortedNames entries
    let names := if chosen.has 'a' then "." :: ".." :: names
      else if chosen.has 'A' then names
      else names.filter (!·.startsWith ".")
    let names := if chosen.has 'r' then names.reverse else names
    let isDir (name : String) : Bool :=
      match entries.find? fun entry => Octets.ofText entry.1 = name with
      | some (_, .directory _) => true
      | some _ => false
      | none => true
    let shown := names.map fun name => lsName (chosen.has 'F') (chosen.has 'p') (isDir name) name
    if chosen.has 'm' && !shown.isEmpty then printLine (String.intercalate ", " shown)
    else shown.forM printLine
    if chosen.has 'R' then
      names.forM fun name => do
        match entries.find? fun entry => Octets.ofText entry.1 = name with
        | some (_, .directory inner) =>
          lsDirectory chosen fuel false true (pathInside path name) inner
        | _ => pure ()

/-- Lists files and directories. -/
def ls : Utility := fun words => do
  let (chosen, words) ← options
    { letters := "1aAbBcCdfFghHiklLmnNopqQrRsStuUvxXZ", failure := 2
      words := [("all", 'a'), ("almost-all", 'A'), ("directory", 'd'), ("recursive", 'R'),
        ("reverse", 'r'), ("classify", 'F')] } words
  let found ← (if words.isEmpty then ["."] else words).foldlM (fun found word => do
    let bad (e : FileError) : Act (List (String × FileTree)) := do
      complain 2 s!"cannot access {quotedName word}: {e.summary}"
      return found
    match ← look word with
    | .error e => bad e
    | .ok tree =>
      match tree with
      | .directory _ => return (word, tree) :: found
      | _ => if word.endsWith "/" then bad .notDirectory else return (word, tree) :: found) []
  let sorted := found.mergeSort fun a b => decide (a.1 ≤ b.1)
  let sorted := if chosen.has 'r' then sorted.reverse else sorted
  let isListed : String × FileTree → Bool
    | (_, .directory _) => !chosen.has 'd'
    | _ => false
  let plain := sorted.filter fun entry => !isListed entry
  let isDir : FileTree → Bool
    | .directory _ => true
    | _ => false
  plain.forM fun (name, tree) =>
    printLine (lsName (chosen.has 'F') (chosen.has 'p') (isDir tree) name)
  let titled := 1 < words.length || chosen.has 'R'
  let _ ← (sorted.filter isListed).foldlM (fun isFirst (name, tree) => do
    match tree with
    | .directory entries => lsDirectory chosen 4096 isFirst titled name entries
    | _ => pure ()
    return false) plain.isEmpty

/-- What `find` can ask of a file. -/
inductive Finding where
  | named (pattern : String) (foldsCase : Bool)
  | under (pattern : String)
  | isFile
  | isDirectory
  | isEmpty
  | all
  | print (ending : String)
  | delete
  | negation (inner : Finding)
  | both (first second : Finding)
  | either (first second : Finding)

namespace Finding

/-- The items of a pattern in which nothing is quoted. -/
def items (pattern : String) : List Pattern.Item :=
  Pattern.ofSigns (signs pattern.toList)
where
  /-- The signs of a pattern. -/
  signs : List Char → List Sign
    | '\\' :: c :: rest => ⟨c, true⟩ :: signs rest
    | c :: rest => ⟨c, false⟩ :: signs rest
    | [] => []

/-- Whether something is to be printed that is not printed otherwise. -/
def acts : Finding → Bool
  | print _ | delete => true
  | negation inner => inner.acts
  | both first second | either first second => first.acts || second.acts
  | _ => false

/-- Whether something is to be deleted, which needs what is inside a directory first. -/
def deletes : Finding → Bool
  | delete => true
  | negation inner => inner.deletes
  | both first second | either first second => first.deletes || second.deletes
  | _ => false

mutual

/-- Reads conditions of which one has to hold. -/
def parseEither : Nat → List String → Except String (Finding × List String)
  | 0, words => .ok (all, words)
  | fuel + 1, words => do
    let (first, rest) ← parseBoth fuel words
    match rest with
    | "-o" :: rest | "-or" :: rest =>
      let (second, rest) ← parseEither fuel rest
      return (either first second, rest)
    | _ => return (first, rest)

/-- Reads conditions that all have to hold. -/
def parseBoth : Nat → List String → Except String (Finding × List String)
  | 0, words => .ok (all, words)
  | fuel + 1, words => do
    let (first, rest) ← parseOne fuel words
    match rest with
    | [] | "-o" :: _ | "-or" :: _ | ")" :: _ => return (first, rest)
    | "-a" :: rest | "-and" :: rest =>
      let (second, rest) ← parseBoth fuel rest
      return (both first second, rest)
    | _ =>
      let (second, rest) ← parseBoth fuel rest
      return (both first second, rest)

/-- Reads a condition. -/
def parseOne : Nat → List String → Except String (Finding × List String)
  | 0, words => .ok (all, words)
  | fuel + 1, words =>
    match words with
    | [] => .ok (all, [])
    | "!" :: rest | "-not" :: rest => do
      let (inner, rest) ← parseOne fuel rest
      return (negation inner, rest)
    | "(" :: rest => do
      match ← parseEither fuel rest with
      | (inner, ")" :: rest) => return (inner, rest)
      | _ => .error "invalid expression; I was expecting to find a ')' somewhere but did not see one."
    | "-print" :: rest => .ok (print "\n", rest)
    | "-print0" :: rest => .ok (print "\x00", rest)
    | "-delete" :: rest => .ok (delete, rest)
    | "-empty" :: rest => .ok (isEmpty, rest)
    | "-true" :: rest | "-depth" :: rest => .ok (all, rest)
    | "-false" :: rest => .ok (negation all, rest)
    | word :: rest =>
      if ["-name", "-iname", "-path", "-wholename", "-type", "-maxdepth", "-mindepth"].contains word then
        match word, rest with
        | _, [] => .error s!"missing argument to \x60{word}'"
        | "-name", pattern :: rest => .ok (named pattern false, rest)
        | "-iname", pattern :: rest => .ok (named pattern true, rest)
        | "-type", "f" :: rest => .ok (isFile, rest)
        | "-type", "d" :: rest => .ok (isDirectory, rest)
        | "-type", kind :: rest =>
          if ["b", "c", "p", "l", "s"].contains kind then .ok (negation all, rest)
          else .error s!"Unknown argument to -type: {kind}"
        | "-maxdepth", _ :: rest | "-mindepth", _ :: rest => .ok (all, rest)
        | _, pattern :: rest => .ok (under pattern, rest)
      else if word.startsWith "-" then .error s!"unknown predicate \x60{word}'"
      else .error s!"paths must precede expression: \x60{word}'"

end

/-- Whether a condition holds of what stands at a path and place. -/
def holds (path : String) (place : List String) (tree : FileTree) : Finding → Act Bool
  | named pattern foldsCase => do
    let name := lastPart path
    let fold (text : String) := if foldsCase then String.ofList (text.toList.map Char.toLower) else text
    return Pattern.accepts (items (fold pattern)) (fold name).toList
  | under pattern => return Pattern.accepts (items pattern) path.toList
  | isFile => return match tree with
    | .file _ => true
    | _ => false
  | isDirectory => return match tree with
    | .directory _ => true
    | _ => false
  | isEmpty => do
    match (← get).files.get? place with
    | some (.file content) => return content.isEmpty
    | some (.directory entries) => return entries.isEmpty
    | _ => return false
  | all => return true
  | Finding.print ending => do
    Act.print (path ++ ending)
    return true
  | delete => do
    match (← get).files.get? place with
    | some (.directory (_ :: _)) =>
      complain 1 s!"cannot delete {quotedName path}: Directory not empty"
      return false
    | some _ =>
      remove place
      return true
    | none => return false
  | negation inner => do return !(← holds path place tree inner)
  | both first second => do
    if ← holds path place tree first then holds path place tree second else return false
  | either first second => do
    if ← holds path place tree first then return true else holds path place tree second

/-- Visits what stands at a path, and what is inside it. -/
def visit (finding : Finding) (least most : Nat) (first : Bool) :
    Nat → Nat → String → List String → FileTree → Act Unit
  | 0, _, _, _, _ => return ()
  | fuel + 1, depth, path, place, tree => do
    let own : Act Unit := do if least ≤ depth then let _ ← finding.holds path place tree
    if !first then own
    match tree with
    | .directory entries =>
      if depth < most then
        (sortedNames entries).forM fun name => do
          let place := place ++ [Octets.toText name]
          match (← get).files.get? place with
          | some inner => finding.visit least most first fuel (depth + 1) (pathInside path name) place inner
          | none => pure ()
    | _ => pure ()
    if first then own

end Finding

/-- Finds files. -/
def find : Utility := fun words => do
  let starts := words.takeWhile fun word => !(word.startsWith "-" || word = "(" || word = "!")
  let rest := words.drop starts.length
  match Finding.parseEither (4 * rest.length + 16) rest with
  | .error reason => refuse 1 reason
  | .ok (_, word :: _) =>
    refuse 1 (if word = ")" then "you have too many ')'" else s!"unexpected argument \x60{word}'")
  | .ok (finding, []) =>
    let finding := if finding.acts then finding else .both finding (.print "\n")
    let argument (name : String) (standard : Nat) : Nat :=
      match rest.dropWhile (· ≠ name) with
      | _ :: value :: _ => value.toNat?.getD standard
      | _ => standard
    (if starts.isEmpty then ["."] else starts).forM fun start => do
      match ← place start, ← look start with
      | .ok place, .ok tree =>
        finding.visit (argument "-mindepth" 0) (argument "-maxdepth" 100000)
          (finding.deletes || rest.contains "-depth") 4096 0 start place tree
      | _, .error e => complain 1 s!"{quotedName start}: {e.summary}"
      | .error e, _ => complain 1 s!"{quotedName start}: {e.summary}"

/-- Writes facts about files. -/
def stat : Utility := fun words => do
  let (chosen, words) ← options
    { letters := "c:Lft", words := [("format", 'c'), ("printf", 'c')] } words
  if words.isEmpty then refuseUsage 1 "missing operand"
  else words.forM fun word => do
    match ← look word with
    | .error e => complain 1 s!"cannot statx {quotedName word}: {e.summary}"
    | .ok tree =>
      let format := (chosen.get? 'c').getD "%n"
      printLine (fill word tree format.toList)
where
  /-- A format with the facts about a file. -/
  fill (word : String) (tree : FileTree) : List Char → String
    | '%' :: 'n' :: rest => word ++ fill word tree rest
    | '%' :: 's' :: rest => toString (size tree) ++ fill word tree rest
    | '%' :: 'F' :: rest => kind tree ++ fill word tree rest
    | c :: rest => c.toString ++ fill word tree rest
    | [] => ""
  /-- The count of bytes of a file. -/
  size : FileTree → Nat
    | .file content => content.length
    | .sink => 0
    | .directory _ => 4096
  /-- What a file is. -/
  kind : FileTree → String
    | .file [] => "regular empty file"
    | .file _ => "regular file"
    | .sink => "character special file"
    | .directory _ => "directory"

/-! ## Making -/

/-- Makes files that are not there yet. -/
def touch : Utility := fun words => do
  let (chosen, words) ← options
    { letters := "acmhfd:t:r:", words := [("no-create", 'c'), ("date", 'd'), ("reference", 'r')] } words
  if words.isEmpty then refuseUsage 1 "missing file operand"
  else words.forM fun word => do
    match ← look word with
    | .ok (.directory _) => pure ()
    | .ok _ =>
      if word.endsWith "/" then complain 1 s!"setting times of {quotedName word}: Not a directory"
    | .error e =>
      if chosen.has 'c' && e = .notFound then pure ()
      else match ← save word true [] with
        | .ok _ => pure ()
        | .error e => complain 1 s!"cannot touch {quotedName word}: {e.summary}"

/-- Makes directories. -/
def mkdir : Utility := fun words => do
  let (chosen, words) ← options
    { letters := "pvm:Z", words := [("parents", 'p'), ("verbose", 'v'), ("mode", 'm')] } words
  if words.isEmpty then refuseUsage 1 "missing operand"
  else words.forM fun word => do
    let make (path : String) : Act (Option FileError) := do
      match ← place path with
      | .error e => return some e
      | .ok place =>
        match (← get).files.get? place, (← get).files.get? place.dropLast with
        | some _, _ => return some .alreadyExists
        | none, some (.directory _) =>
          put place (.directory [])
          if chosen.has 'v' then printLine s!"{(← read).name}: created directory {quotedName path}"
          return none
        | none, some _ => return some .notDirectory
        | none, none => return some .notFound
    let bad (path : String) (e : FileError) : Act Unit :=
      complain 1 s!"cannot create directory {quotedName path}: {e.summary}"
    if chosen.has 'p' then
      let parts := (FileTree.splitPath (withoutSlashes word.toList)).map String.ofList
      let paths := (List.range parts.length).map fun n => String.intercalate "/" (parts.take (n + 1))
      let _ ← (paths.filter (!·.isEmpty)).foldlM (fun isOpen path => do
        if !isOpen then return false
        else if ← isDirectory path then return true
        else match ← make path with
          | none => return true
          | some e =>
            let e := if path ≠ String.ofList (withoutSlashes word.toList) && e = .alreadyExists then
              FileError.notDirectory else e
            bad path e
            return false) true
    else match ← make word with
      | none => pure ()
      | some e => bad word e

/-- Makes a file or a directory with a new name. -/
def mktemp : Utility := fun words => do
  let (chosen, words) ← options
    { letters := "dqtup:", words := [("directory", 'd'), ("tmpdir", 'p'), ("quiet", 'q')] } words
  let template := words.headD "tmp.XXXXXXXXXX"
  let stem := (template.toList.reverse.dropWhile (· = 'X')).reverse
  let count := template.length - stem.length
  if count < 3 then refuse 1 s!"too few X's in template {quotedName template}"
  else
    let call ← read
    let directory :=
      if words.isEmpty || chosen.has 't' || chosen.has 'p' then
        (chosen.get? 'p').getD (call.environment.lookup "TMPDIR" |>.getD "/tmp") ++ "/"
      else ""
    let files := (← get).files
    let here := call.place
    let candidate (n : Nat) : String :=
      let digits := Nat.toDigits 16 (2654435761 * (n + 1) % Nat.pow 16 (min count 8))
      directory ++ String.ofList stem
        ++ String.ofList (List.replicate (count - digits.length) 'a' ++ digits)
    let name := ((List.range 4096).find? fun n =>
      !files.contains here (Octets.toText (candidate n))).getD 0
    let path := candidate name
    match ← place path with
    | .error e => refuse 1 s!"failed to create file via template {quotedName template}: {e.summary}"
    | .ok found =>
      put found (if chosen.has 'd' then .directory [] else .file [])
      printLine path

/-! ## Removing -/

/-- Removes empty directories. -/
def rmdir : Utility := fun words => do
  let (chosen, words) ← options
    { letters := "pv", words := [("parents", 'p'), ("verbose", 'v'),
        ("ignore-fail-on-non-empty", 'v')] } words
  if words.isEmpty then refuseUsage 1 "missing operand"
  else words.forM fun word => do
    let parts := FileTree.splitPath (withoutSlashes word.toList)
    let paths := if chosen.has 'p' then
        ((List.range parts.length).map fun n =>
          String.ofList (['/'].intercalate (parts.take (parts.length - n)))).filter (!·.isEmpty)
      else [word]
    let _ ← paths.foldlM (fun isOpen path => do
      let bad (reason : String) : Act Bool := do
        complain 1 s!"failed to remove {quotedName path}: {reason}"
        return false
      if !isOpen then return false
      else match ← place path, ← look path with
        | .ok place, .ok (.directory []) =>
          remove place
          return true
        | _, .ok (.directory _) => bad "Directory not empty"
        | _, .ok _ => bad "Not a directory"
        | _, .error e => bad e.summary) true

/-- Removes files, and directories if that is asked for. -/
def rm : Utility := fun words => do
  let (chosen, words) ← options
    { letters := "dfiIrRv"
      words := [("recursive", 'r'), ("force", 'f'), ("dir", 'd'), ("verbose", 'v')] } words
  let isDeep := chosen.has 'r' || chosen.has 'R'
  if words.isEmpty && !chosen.has 'f' then refuseUsage 1 "missing operand"
  else words.forM fun word => do
    let bad (reason : String) : Act Unit := complain 1 s!"cannot remove {quotedName word}: {reason}"
    let last := lastPart word
    match ← place word, ← look word with
    | _, .error e => if chosen.has 'f' && e = .notFound then pure () else bad e.summary
    | .error e, _ => bad e.summary
    | .ok place, .ok tree =>
      match tree with
      | .directory entries =>
        if isDeep && (last = "." || last = "..") then
          complain 1 s!"refusing to remove '.' or '..' directory: skipping {quotedName word}"
        else if isDeep && place.isEmpty then
          complain 1 "it is dangerous to operate recursively on '/'"
          complain 1 "use --no-preserve-root to override this failsafe"
        else if isDeep || (chosen.has 'd' && entries.isEmpty) then
          remove place
          if chosen.has 'v' then printLine s!"removed directory {quotedName word}"
        else if chosen.has 'd' then bad "Directory not empty"
        else bad "Is a directory"
      | _ =>
        if word.endsWith "/" then bad "Not a directory"
        else
          remove place
          if chosen.has 'v' then printLine s!"removed {quotedName word}"

/-! ## Copying and moving -/

/-- The sources and the path that they go to, and whether that is a directory to go into. -/
def targets (chosen : Chosen) (words : List String) : Act (List String × String × Bool) := do
  match chosen.get? 't' with
  | some directory =>
    if ← isDirectory directory then return (words, directory, true)
    else refuse 1 s!"target directory {quotedName directory}: No such file or directory"
  | none =>
    match words.reverse with
    | [] => refuseUsage 1 "missing file operand"
    | [word] => refuseUsage 1 s!"missing destination file operand after {quotedName word}"
    | last :: before =>
      let isInside ← if chosen.has 'T' then pure false else isDirectory last
      if 2 ≤ before.length && !isInside then
        match ← look last with
        | .ok _ => refuse 1 s!"target {quotedName last}: Not a directory"
        | .error e => refuse 1 s!"target {quotedName last}: {e.summary}"
      else return (before.reverse, last, isInside)

/-- The path that something goes to. -/
def targetPath (target : String × Bool) (word : String) : String :=
  if target.2 then pathInside target.1 (lastPart word) else target.1

/-- Puts a tree where there can be another one already, whose directories are kept. -/
def merged : Nat → FileTree → FileTree → FileTree
  | fuel + 1, .directory added, .directory entries =>
    .directory (added.foldl (fun entries (name, tree) =>
      match Fields.get? entries name with
      | some old => Fields.insert name (merged fuel tree old) entries
      | none => Fields.insert name tree entries) entries)
  | _, added, _ => added

/-- The place to which something can be put, or why there is none. -/
def targetPlace (path : String) : Act (Except FileError (List String)) := do
  let trimmed := String.ofList (withoutSlashes path.toList)
  match ← place (if trimmed.isEmpty then path else trimmed) with
  | .error e => return .error e
  | .ok found =>
    match (← get).files.get? found, (← get).files.get? found.dropLast with
    | some _, _ => return .ok found
    | none, some (.directory _) => return .ok found
    | none, some _ => return .error .notDirectory
    | none, none => return .error .notFound

/-- Copies files, and directories if that is asked for. -/
def cp : Utility := fun words => do
  let (chosen, words) ← options
    { letters := "abdfHilLnPprRst:Tuvx"
      words := [("recursive", 'r'), ("archive", 'a'), ("verbose", 'v'), ("force", 'f'),
        ("no-clobber", 'n'), ("target-directory", 't'), ("preserve", 'p'),
        ("no-target-directory", 'T')] } words
  let isDeep := chosen.has 'r' || chosen.has 'R' || chosen.has 'a'
  let (sources, target) ← targets chosen words
  sources.forM fun word => do
    let path := targetPath target word
    let done : Act Unit := do
      if chosen.has 'v' then printLine s!"{quotedName word} -> {quotedName path}"
    match ← place word, ← look word with
    | .error e, _ | _, .error e => complain 1 s!"cannot stat {quotedName word}: {e.summary}"
    | .ok source, .ok tree =>
      let cannot (kind : String) (e : FileError) : Act Unit :=
        complain 1 s!"cannot create {kind} {quotedName path}: {e.summary}"
      match tree, ← targetPlace path, ← look path with
      | .directory entries, found, there =>
        if !isDeep then complain 1 s!"-r not specified; omitting directory {quotedName word}"
        else match found, there with
          | .error e, _ => cannot "directory" e
          | .ok place, .ok (.directory old) =>
            if source.isPrefixOf place then
              complain 1 s!"cannot copy a directory, {quotedName word}, into itself, {quotedName path}"
            else
              put place (merged 4096 (.directory entries) (.directory old))
              done
          | .ok _, .ok _ =>
            complain 1
              s!"cannot overwrite non-directory {quotedName path} with directory {quotedName word}"
          | .ok place, .error _ =>
            if source.isPrefixOf place then
              complain 1 s!"cannot copy a directory, {quotedName word}, into itself, {quotedName path}"
            else
              put place tree
              done
      | _, .error e, _ => cannot "regular file" e
      | _, .ok place, there =>
        if place = source then
          complain 1 s!"{quotedName word} and {quotedName path} are the same file"
        else match there with
          | .ok (.directory _) =>
            complain 1 s!"cannot overwrite directory {quotedName path} with non-directory"
          | .ok .sink => done
          | .ok _ =>
            if chosen.has 'n' then pure ()
            else
              put place (contentOf tree)
              done
          | .error _ =>
            if path.endsWith "/" then cannot "regular file" .notDirectory
            else
              put place (contentOf tree)
              if (← get).programs.contains source then
                modify fun w => { w with programs := place :: w.programs }
              done
where
  /-- A file with the content of another one. -/
  contentOf : FileTree → FileTree
    | .sink => .file []
    | tree => tree

/-- Moves files and directories. -/
def mv : Utility := fun words => do
  let (chosen, words) ← options
    { letters := "bfint:Tuv"
      words := [("verbose", 'v'), ("force", 'f'), ("no-clobber", 'n'), ("target-directory", 't'),
        ("no-target-directory", 'T')] } words
  let (sources, target) ← targets chosen words
  sources.forM fun word => do
    let path := targetPath target word
    match ← place word, ← look word with
    | .error e, _ | _, .error e => complain 1 s!"cannot stat {quotedName word}: {e.summary}"
    | .ok source, .ok tree =>
      let move (place : List String) : Act Unit := do
        let programs := (← get).programs.filterMap fun found =>
          if source.isPrefixOf found then some (place ++ found.drop source.length) else none
        remove source
        put place tree
        modify fun w => { w with programs := programs ++ w.programs }
        if chosen.has 'v' then printLine s!"renamed {quotedName word} -> {quotedName path}"
      match ← targetPlace path with
      | .error e => complain 1 s!"cannot move {quotedName word} to {quotedName path}: {e.summary}"
      | .ok place =>
        if place = source then
          complain 1 s!"{quotedName word} and {quotedName path} are the same file"
        else match tree, (← get).files.get? place with
          | .directory _, some (.directory old) =>
            if source.isPrefixOf place then
              complain 1 (s!"cannot move {quotedName word} to a subdirectory of itself, "
                ++ quotedName path)
            else if old.isEmpty then move place
            else
              complain 1
                s!"cannot move {quotedName word} to {quotedName path}: Directory not empty"
          | .directory _, some _ =>
            complain 1
              s!"cannot overwrite non-directory {quotedName path} with directory {quotedName word}"
          | .directory _, none =>
            if source.isPrefixOf place then
              complain 1 (s!"cannot move {quotedName word} to a subdirectory of itself, "
                ++ quotedName path)
            else move place
          | _, some (.directory _) =>
            complain 1 s!"cannot overwrite directory {quotedName path} with non-directory"
          | _, some _ => if chosen.has 'n' then pure () else move place
          | _, none =>
            if path.endsWith "/" then
              complain 1 s!"cannot move {quotedName word} to {quotedName path}: Not a directory"
            else move place

/-- Gives files further names, under which they stand with their content. -/
def ln : Utility := fun words => do
  let (chosen, words) ← options
    { letters := "bfinrst:Tv"
      words := [("symbolic", 's'), ("force", 'f'), ("target-directory", 't'), ("verbose", 'v')] } words
  let words := match words with
    | [word] => [word, "."]
    | words => words
  let (sources, target) ← targets chosen words
  sources.forM fun word => do
    let path := targetPath target word
    let kind := if chosen.has 's' then "symbolic" else "hard"
    let behind := if chosen.has 's' then "" else s!" => {quotedName word}"
    let origin := if chosen.has 's' && !word.startsWith "/" then
      pathInside (FileTree.parentPath path) word else word
    match ← look origin with
    | .error e =>
      if chosen.has 's' then pure ()
      else complain 1 s!"failed to access {quotedName word}: {e.summary}"
    | .ok tree =>
      match tree, chosen.has 's' with
      | .directory _, false => complain 1 s!"{word}: hard link not allowed for directory"
      | _, _ =>
        match ← targetPlace path with
        | .error e => complain 1 s!"failed to create {kind} link {quotedName path}{behind}: {e.summary}"
        | .ok place =>
          if ((← get).files.get? place).isSome && !chosen.has 'f' then
            complain 1 s!"failed to create {kind} link {quotedName path}: File exists"
          else put place tree

/-! ## Permissions -/

/-- What a mode says of running a file: whether it can be run, if the mode says something. -/
def runsByMode? (mode : String) : Option (Option Bool) :=
  if !mode.isEmpty && mode.toList.all fun c => digitValue c < 8 then
    if mode.length ≤ 5 && numberOf 8 mode.toList < 4096 then
      some (some (mode.toList.any fun c => digitValue c % 2 = 1))
    else none
  else
    (mode.splitOn ",").foldl (fun found clause => found.bind fun before =>
      let behind := clause.toList.dropWhile ['u', 'g', 'o', 'a'].contains
      match behind with
      | operator :: rights =>
        if ! ['+', '-', '='].contains operator
            || !rights.all ['r', 'w', 'x', 'X', 's', 't', 'u', 'g', 'o', '+', '-', '='].contains then none
        else if rights.contains 'x' then some (some (operator != '-'))
        else if operator = '=' then some (some false)
        else some before
      | [] => none) (some none)

/-- Changes who may do what with files. -/
def chmod : Utility := fun words => do
  let (modes, words) := words.partition fun word =>
    word.startsWith "-" && 1 < word.length && (runsByMode? word).isSome
  let (_, words) ← options
    { letters := "cfvR", words := [("recursive", 'R'), ("verbose", 'v'), ("changes", 'c')] } words
  match modes ++ words with
  | [] => refuseUsage 1 "missing operand"
  | [mode] => refuseUsage 1 s!"missing operand after {quotedName mode}"
  | mode :: words =>
    match runsByMode? mode with
    | none => refuseUsage 1 s!"invalid mode: {quotedName mode}"
    | some runs =>
      words.forM fun word => do
        match ← place word, ← look word with
        | .error e, _ | _, .error e => complain 1 s!"cannot access {quotedName word}: {e.summary}"
        | .ok place, .ok _ =>
          match runs with
          | some true => modify fun w => { w with programs := place :: w.programs }
          | some false =>
            modify fun w => { w with programs := w.programs.filter (· != place) }
          | none => pure ()

/-- Changes whom files belong to. -/
def chown : Utility := fun words => do
  let (_, words) ← options
    { letters := "cfhvRHLP", words := [("recursive", 'R'), ("verbose", 'v')] } words
  match words with
  | [] => refuseUsage 1 "missing operand"
  | [owner] => refuseUsage 1 s!"missing operand after {quotedName owner}"
  | owner :: words =>
    let kind := if (← read).name = "chgrp" then "group" else "user"
    let known := ["root", "0", "root:root", "0:0", "root:", ":root", ":0", ""]
    if !known.contains owner && !owner.toList.all Char.isDigit then
      refuse 1 s!"invalid {kind}: {quotedName owner}"
    else words.forM fun word => do
      match ← look word with
      | .error e => complain 1 s!"cannot access {quotedName word}: {e.summary}"
      | .ok _ => pure ()

/-! ## Paths -/

/-- Writes what symbolic links lead to. There are none, but whole paths can be asked for. -/
def readlink : Utility := fun words => do
  let (chosen, words) ← options
    { letters := "efmnqsvz", words := [("canonicalize", 'f'), ("canonicalize-existing", 'e')] } words
  if words.isEmpty then refuseUsage 1 "missing operand"
  else words.forM fun word => do
    match ← place word with
    | .ok place =>
      let isThere := ((← get).files.get? place).isSome
      let inside := ((← get).files.get? place.dropLast).isSome
      if (chosen.has 'e' && isThere) || (chosen.has 'f' && inside) || chosen.has 'm' then
        print (Octets.ofText (FileTree.pathOf place) ++ if chosen.has 'n' then "" else "\n")
      else setStatus 1
    | .error _ => setStatus 1

/-- Writes whole paths. -/
def realpath : Utility := fun words => do
  let (chosen, words) ← options
    { letters := "eLmPqsz"
      words := [("canonicalize-existing", 'e'), ("canonicalize-missing", 'm'), ("quiet", 'q')] } words
  if words.isEmpty then refuseUsage 1 "missing operand"
  else words.forM fun word => do
    let bad (e : FileError) : Act Unit := do
      if chosen.has 'q' then setStatus 1 else complain 1 (plainDescription word e)
    match ← place word with
    | .ok place =>
      let isThere := ((← get).files.get? place).isSome
      let inside := ((← get).files.get? place.dropLast).isSome
      if if chosen.has 'e' then isThere else inside || chosen.has 'm' then
        printLine (Octets.ofText (FileTree.pathOf place))
      else bad .notFound
    | .error e => bad e

end ScenarioRunner.Shell.Utility

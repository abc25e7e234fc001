import ScenarioRunner.Shell.Pattern

/-!
# Regular expressions

An expression is read in one of two notations: in the basic one brackets and braces have their
meaning behind a backslash, in the extended one without it. Of the matches in a text the first one
counts, and of those that begin there the longest.
-/

set_option autoImplicit false

namespace ScenarioRunner.Shell

/-- A regular expression. -/
inductive Regex where
  | char (c : Char)
  | anyChar
  | bracket (negated : Bool) (members : List Pattern.Member)
  | start
  | finish
  /-- The start of a word, or its end. -/
  | wordEdge (atStart : Bool)
  | edge (isEdge : Bool)
  /-- One of some sequences, whose match has a number. -/
  | group (number : Nat) (choices : List (List Regex))
  | times (inner : Regex) (least : Nat) (most : Option Nat)
  /-- What a group has matched. -/
  | same (number : Nat)

instance : Inhabited Regex := ⟨.anyChar⟩

namespace Regex

/-! ## Reading -/

/-- An expression as far as it is read. -/
structure Reading where
  rest : List Char
  /-- The number of the next group. -/
  number : Nat := 1

/-- A step in reading an expression. Failures have a reason. -/
abbrev Read := StateT Reading (Except String)

/-- Fails for a reason. -/
def refuse {α : Type} (reason : String) : Read α := fun _ => .error reason

/-- What stands in braces behind an expression. -/
inductive Interval where
  /-- The least and the greatest count, and what follows. -/
  | counts (least : Nat) (most : Option Nat) (behind : List Char)
  | open
  | malformed

/-- Reads what stands in braces. -/
def interval (extended : Bool) (text : List Char) : Interval :=
  let low := text.takeWhile Char.isDigit
  let (high, isRange, behind) := match text.drop low.length with
    | ',' :: rest => (rest.takeWhile Char.isDigit, true, rest.dropWhile Char.isDigit)
    | rest => ([], false, rest)
  let closing := match behind with
    | '\x7d' :: rest => if extended then some rest else none
    | '\\' :: '\x7d' :: rest => if extended then none else some rest
    | _ => none
  let number (digits : List Char) : Nat := digits.foldl (fun n c => 10 * n + (c.toNat - '0'.toNat)) 0
  match closing with
  | none => if behind.isEmpty then .open else .malformed
  | some rest =>
    if low.isEmpty && !isRange then .malformed
    else
      let most := if !isRange then some (number low) else if high.isEmpty then none else some (number high)
      .counts (number low) most rest

/-- The operator that repeats what stands before it, and what follows the operator. In the extended
notation a brace without counts stands for itself. -/
def repetition? (extended : Bool) (text : List Char) :
    Option (Except String (Nat × Option Nat × List Char)) :=
  let counted (rest : List Char) := match interval extended rest with
    | .counts least most behind =>
      if most.any (· < least) then some (.error "Invalid content of \\\x7b\\\x7d")
      else if 32767 < least || most.any (32767 < ·) then some (.error "Regular expression too big")
      else some (.ok (least, most, behind))
    | .open => if extended then none else some (.error "Unmatched \\\x7b")
    | .malformed => if extended then none else some (.error "Invalid content of \\\x7b\\\x7d")
  match extended, text with
  | _, '*' :: rest => some (.ok (0, none, rest))
  | true, '+' :: rest | false, '\\' :: '+' :: rest => some (.ok (1, none, rest))
  | true, '?' :: rest | false, '\\' :: '?' :: rest => some (.ok (0, some 1, rest))
  | true, '\x7b' :: rest | false, '\\' :: '\x7b' :: rest => counted rest
  | _, _ => none

/-- Puts the repetitions behind an expression around it. -/
def repeated (extended : Bool) (inner : Regex) : Nat → Read Regex
  | 0 => return inner
  | fuel + 1 => do
    match repetition? extended (← get).rest with
    | some (.ok (least, most, rest)) =>
      modify fun s => { s with rest }
      repeated extended (.times inner least most) fuel
    | some (.error reason) => refuse reason
    | none => return inner

/-- Whether an alternative begins or ends here. -/
def isChoice (extended : Bool) : List Char → Bool
  | '|' :: _ => extended
  | '\\' :: '|' :: _ => !extended
  | _ => false

/-- Whether a group ends here. -/
def isClosing (extended : Bool) : List Char → Bool
  | ')' :: _ => extended
  | '\\' :: ')' :: _ => !extended
  | _ => false

/-- How long the marks of groups and alternatives are. -/
def markLength (extended : Bool) : Nat := if extended then 1 else 2

/-- Drops some characters. -/
def drop (count : Nat) : Read Unit := modify fun s => { s with rest := s.rest.drop count }

/-- The class that a letter behind a backslash stands for. -/
def classOf? : Char → Option (Bool × List Pattern.Member)
  | 'w' => some (false, [.kind "alnum", .range '_' '_'])
  | 'W' => some (true, [.kind "alnum", .range '_' '_'])
  | 's' => some (false, [.kind "space"])
  | 'S' => some (true, [.kind "space"])
  | _ => none

mutual

/-- The alternatives up to the end of a group, or of the expression. -/
def choices (extended inGroup : Bool) : Nat → Read (List (List Regex))
  | 0 => return [[]]
  | fuel + 1 => do
    let first ← sequence extended inGroup true fuel
    if isChoice extended (← get).rest then
      drop (markLength extended)
      return first :: (← choices extended inGroup fuel)
    else return [first]

/-- The expressions up to the next alternative. -/
def sequence (extended inGroup isFirst : Bool) : Nat → Read (List Regex)
  | 0 => return []
  | fuel + 1 => do
    let rest := (← get).rest
    if rest.isEmpty || isChoice extended rest then return []
    else if isClosing extended rest && (inGroup || !extended) then
      if inGroup then return [] else refuse "Unmatched ) or \\)"
    else
      let inner ← single extended isFirst fuel
      let inner ← match inner with
        | .start => if extended then repeated extended inner fuel else pure inner
        | inner => repeated extended inner fuel
      let isStart := match inner with
        | .start => true
        | _ => false
      return inner :: (← sequence extended inGroup (isFirst && isStart) fuel)

/-- An expression without the repetitions behind it. -/
def single (extended isFirst : Bool) : Nat → Read Regex
  | 0 => refuse "Regular expression too big"
  | fuel + 1 => do
    let s ← get
    match s.rest with
    | [] => refuse "Premature end of regular expression"
    | c :: rest =>
      set { s with rest }
      if c = '.' then return .anyChar
      else if c = '[' then
        let (negated, inside) := match rest with
          | '^' :: inside => (true, inside)
          | _ => (false, rest)
        match members? true (inside.length + 1) inside with
        | some (members, behind) =>
          set { s with rest := behind }
          match members.findSome? fault? with
          | some reason => refuse reason
          | none => return .bracket negated members
        | none =>
          refuse (if inside.isEmpty then "Invalid regular expression"
            else "Unmatched [, [^, [:, [., or [=")
      else if c = '^' && (extended || isFirst) then return .start
      else if c = '$' && (extended || rest.isEmpty || isClosing false rest || isChoice false rest) then
        return .finish
      else if c = '(' && extended then group extended fuel
      else if (c = '*' || c = '+' || c = '?') && extended && isFirst then
        return .times .anyChar 0 (some 0)
      else if c = '\\' then
        match rest with
        | [] => refuse "Trailing backslash"
        | d :: behind =>
          set { s with rest := behind }
          if d = '(' && !extended then group extended fuel
          else if d.isDigit && d ≠ '0' then
            if d.toNat - '0'.toNat < s.number then return .same (d.toNat - '0'.toNat)
            else refuse "Invalid back reference"
          else if d = '\x60' then return .start
          else if d = '\'' then return .finish
          else if d = '<' then return .wordEdge true
          else if d = '>' then return .wordEdge false
          else if d = 'b' then return .edge true
          else if d = 'B' then return .edge false
          else if d = 'n' then return .char '\n'
          else if d = 't' then return .char '\t'
          else match classOf? d with
            | some (negated, members) => return .bracket negated members
            | none => return .char d
      else return .char c
where
  /-- A group behind its opening bracket. -/
  group (extended : Bool) (fuel : Nat) : Read Regex := do
    let number := (← get).number
    modify fun s => { s with number := number + 1 }
    let found ← choices extended true fuel
    if isClosing extended (← get).rest then
      drop (markLength extended)
      return .group number found
    else refuse "Unmatched ( or \\("
  /-- What is wrong with a member of brackets. -/
  fault? : Pattern.Member → Option String
    | .range low high => if high < low then some "Invalid range end" else none
    | .kind name => if kinds.contains name then none else some "Invalid character class name"
  /-- The names of classes. -/
  kinds : List String :=
    ["alnum", "alpha", "blank", "cntrl", "digit", "graph", "lower", "print", "punct", "space",
      "upper", "xdigit"]
  /-- The members of brackets and what follows them. -/
  members? (isFirst : Bool) : Nat → List Char → Option (List Pattern.Member × List Char)
    | 0, _ => none
    | _ + 1, [] => none
    | fuel + 1, c :: rest =>
      if c = ']' && !isFirst then some ([], rest)
      else match if c = '[' then Pattern.kindName? (rest.map fun d => ⟨d, false⟩) else none with
        | some (name, behind) =>
          (members? false fuel (behind.map Sign.char)).map fun (members, rest) =>
            (.kind name :: members, rest)
        | none =>
          match c, rest with
          | '\\', 'n' :: behind =>
            (members? false fuel behind).map fun (members, rest) =>
              (.range '\n' '\n' :: members, rest)
          | _, '-' :: high :: behind =>
            if high = ']' then
              (members? false fuel rest).map fun (members, rest) => (.range c c :: members, rest)
            else
              (members? false fuel behind).map fun (members, rest) => (.range c high :: members, rest)
          | _, _ => (members? false fuel rest).map fun (members, rest) => (.range c c :: members, rest)

end

/-- Reads an expression. Gives also the count of its groups. -/
def ofText (extended : Bool) (text : List Char) : Except String (Regex × Nat) :=
  match (choices extended false (8 * text.length + 8)).run { rest := text } with
  | .ok (found, s) =>
    if s.rest.isEmpty then .ok (.group 0 found, s.number - 1) else .error "Unmatched ) or \\)"
  | .error reason => .error reason

/-! ## Matching -/

/-- A match as far as it goes: the place that it has reached, and the ends of the groups. -/
structure Match where
  place : Nat
  groups : List (Nat × Nat × Nat) := []

/-- How a text is matched. -/
structure Subject where
  text : Array Char
  /-- Whether small and capital letters count as the same. -/
  foldsCase : Bool := false

namespace Subject

/-- A character as it is compared. -/
def fold (subject : Subject) (c : Char) : Char := if subject.foldsCase then c.toLower else c

/-- Whether a character of a word stands at a place. -/
def isWordAt (subject : Subject) (place : Nat) : Bool :=
  (subject.text[place]?).any fun c => c.isAlphanum || c = '_'

/-- Whether the character before a place belongs to a word. -/
def isWordBefore (subject : Subject) (place : Nat) : Bool :=
  place != 0 && subject.isWordAt (place - 1)

/-- The text between two places. -/
def slice (subject : Subject) (first last : Nat) : List Char :=
  (subject.text.toList.take last).drop first

end Subject

/-- The match behind a character that a test holds for. -/
def stepWhere (subject : Subject) (p : Char → Bool) (m : Match) : List Match :=
  if (subject.text[m.place]?).any p then [{ m with place := m.place + 1 }] else []

mutual

/-- The matches of an expression behind a match, those that are tried first coming first. -/
def matches? (subject : Subject) : Nat → Regex → Match → List Match
  | 0, _, _ => []
  | fuel + 1, regex, m =>
    match regex with
    | .char c => stepWhere subject (fun d => subject.fold d = subject.fold c) m
    | .anyChar => stepWhere subject (fun _ => true) m
    | .bracket negated members =>
      stepWhere subject (fun c =>
        (members.any fun member => member.holds c
          || (subject.foldsCase && (member.holds c.toLower || member.holds c.toUpper))) != negated) m
    | .start => if m.place = 0 then [m] else []
    | .finish => if m.place = subject.text.size then [m] else []
    | .wordEdge atStart =>
      let before := subject.isWordBefore m.place
      let behind := subject.isWordAt m.place
      if (atStart && !before && behind) || (!atStart && before && !behind) then [m] else []
    | .edge isEdge =>
      if (subject.isWordBefore m.place != subject.isWordAt m.place) = isEdge then [m] else []
    | .same number =>
      match m.groups.lookup number with
      | some (first, last) =>
        let text := subject.slice first last
        let here := subject.slice m.place (m.place + text.length)
        if here.map subject.fold = text.map subject.fold then
          [{ m with place := m.place + text.length }]
        else []
      | none => []
    | .group number choices =>
      (choices.flatMap fun items => sequenceMatches subject fuel items m).map fun found =>
        { found with groups := (number, m.place, found.place) :: found.groups }
    | .times inner least most =>
      let more := if most = some 0 then [] else
        ((matches? subject fuel inner m).filter fun found => m.place < found.place || 0 < least).flatMap
          fun found => matches? subject fuel (.times inner (least - 1) (most.map (· - 1))) found
      if least = 0 then more ++ [m] else more

/-- The matches of expressions that follow each other. -/
def sequenceMatches (subject : Subject) : Nat → List Regex → Match → List Match
  | 0, _, _ => []
  | _ + 1, [], m => [m]
  | fuel + 1, regex :: rest, m =>
    (matches? subject fuel regex m).flatMap fun found => sequenceMatches subject fuel rest found

end

/-- The longest match that begins at a place. -/
def matchAt? (regex : Regex) (subject : Subject) (place : Nat) : Option Match :=
  (matches? subject (64 * subject.text.size + 4096) regex ⟨place, []⟩).foldl (fun best m =>
    match best with
    | some b => if b.place < m.place then some m else best
    | none => some m) none

/-- The first place from one on at which a match begins, and the longest match there. -/
def find? (regex : Regex) (subject : Subject) (place : Nat) : Option (Nat × Match) :=
  (List.range (subject.text.size + 1 - place)).findSome? fun n =>
    (regex.matchAt? subject (place + n)).map fun m => (place + n, m)

end Regex

end ScenarioRunner.Shell

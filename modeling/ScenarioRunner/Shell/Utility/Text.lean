import ScenarioRunner.Shell.Utility.Basic
import ScenarioRunner.Shell.Utility.Regex

/-!
# Programs on texts

Programs that change single characters, that compute with their words, or that take paths apart.
-/

set_option autoImplicit false

namespace ScenarioRunner.Shell.Utility

open Act

/-! ## Sets of characters -/

/-- A part of a set of characters that is in order. -/
inductive Member where
  | char (c : Char)
  | kind (name : String)
  /-- A character some times; without a count as often as is needed. -/
  | repeated (c : Char) (count : Nat)

namespace Member

/-- The octets. -/
def octets : List Char := (List.range 256).map Char.ofNat

/-- The characters of a part, without those that are repeated as often as is needed. -/
def chars : Member → List Char
  | char c => [c]
  | kind name => octets.filter (Pattern.isOfKind name)
  | repeated c count => List.replicate count c

/-- Whether a part is the small or the capital letters. -/
def isCase : Member → Bool
  | kind name => name = "lower" || name = "upper"
  | _ => false

/-- Whether a part is a class. -/
def isKind : Member → Bool
  | kind _ => true
  | _ => false

/-- The names of classes. -/
def kinds : List String :=
  ["alnum", "alpha", "blank", "cntrl", "digit", "graph", "lower", "print", "punct", "space", "upper",
    "xdigit"]

/-- The characters that a text stands for, each with whether a backslash protects it. -/
def unescaped : Nat → List Char → List (Char × Bool)
  | 0, _ => []
  | _ + 1, [] => []
  | _ + 1, ['\\'] => [('\\', false)]
  | fuel + 1, '\\' :: c :: rest =>
    let three := (leadingDigits 8 (c :: rest)).take 3
    let digits := if numberOf 8 three < 256 then three else three.take 2
    if digits.isEmpty then (named c, true) :: unescaped fuel rest
    else (Char.ofNat (numberOf 8 digits), true) :: unescaped fuel ((c :: rest).drop digits.length)
  | fuel + 1, c :: rest => (c, false) :: unescaped fuel rest
where
  /-- The character that a letter stands for behind a backslash. -/
  named : Char → Char
    | 'a' => '\x07'
    | 'b' => '\x08'
    | 'f' => '\x0c'
    | 'n' => '\n'
    | 'r' => '\r'
    | 't' => '\t'
    | 'v' => '\x0b'
    | c => c

/-- A class or a repetition at the start of a set, behind its bracket, and what follows it. -/
def bracketed? (text : List (Char × Bool)) : Except String (Option (Member × List (Char × Bool))) :=
  match text with
  | (':', false) :: rest =>
    match closing? ':' rest with
    | some (name, behind) =>
      let name := String.ofList name
      if name.isEmpty then .error "missing character class name '[::]'"
      else if kinds.contains name then .ok (some (kind name, behind))
      else .error s!"invalid character class {quotedName name}"
    | none => repetition? text
  | ('=', false) :: rest =>
    match closing? '=' rest with
    | some ([c], behind) => .ok (some (char c, behind))
    | some ([], _) => .error "missing equivalence class character '[==]'"
    | some (name, _) =>
      .error s!"{String.ofList name}: equivalence class operand must be a single character"
    | none => repetition? text
  | _ => repetition? text
where
  /-- The text up to a mark with a closing bracket, and what follows it. -/
  closing? (mark : Char) : List (Char × Bool) → Option (List Char × List (Char × Bool))
    | (c, false) :: (']', false) :: rest =>
      if c = mark then some ([], rest)
      else (closing? mark ((']', false) :: rest)).map fun (name, behind) => (c :: name, behind)
    | (c, _) :: rest => (closing? mark rest).map fun (name, behind) => (c :: name, behind)
    | [] => none
  /-- A repetition, and what follows it. -/
  repetition? : List (Char × Bool) → Except String (Option (Member × List (Char × Bool)))
    | (c, _) :: ('*', false) :: rest =>
      let digits := (rest.takeWhile (· != (']', false))).map Prod.fst
      match rest.drop digits.length with
      | _ :: behind =>
        let base := if digits.head? = some '0' then 8 else 10
        if digits.all (digitValue · < base) then
          .ok (some (repeated c (numberOf base digits), behind))
        else
          .error s!"invalid repeat count {quotedName (String.ofList digits)} in [c*n] construct"
      | [] => .ok none
    | _ => .ok none

/-- The parts of a set. -/
def parse : Nat → List (Char × Bool) → Except String (List Member)
  | 0, _ => .ok []
  | _ + 1, [] => .ok []
  | fuel + 1, (c, isPlain) :: rest => do
    match ← if c = '[' && !isPlain then bracketed? rest else .ok none with
    | some (found, behind) => return found :: (← parse fuel behind)
    | none =>
      match rest with
      | ('-', false) :: (last, _) :: behind =>
        if last < c then
          let range := String.ofList [c, '-', last]
          .error s!"range-endpoints of '{range}' are in reverse collating sequence order"
        else
          let range := (octets.filter fun d => c ≤ d && d ≤ last).map char
          return range ++ (← parse fuel behind)
      | _ => return char c :: (← parse fuel rest)

/-- The parts of a set as it is written. -/
def ofText (text : String) : Except String (List Member) :=
  let chars := unescaped (text.length + 1) text.toList
  parse (chars.length + 1) chars

/-- The characters of a set, in which repetitions without a count fill up a length. -/
def expand (length : Nat) (set : List Member) : List Char :=
  let known := (set.flatMap chars).length
  set.flatMap fun
    | repeated c 0 => List.replicate (length - known) c
    | member => member.chars

/-- Where the classes of a set begin, with whether they are those of a case. -/
def kindPlaces (length : Nat) (set : List Member) : List (Nat × Bool) :=
  (set.foldl (fun (place, found) member =>
    (place + (expand length [member]).length,
      if member.isKind then (place, member.isCase) :: found else found)) (0, [])).2

end Member

/-- Each character without those that repeat it, if it is in a set. -/
def squeezed (set : List Char) : List Char → List Char
  | [] => []
  | [c] => [c]
  | c :: d :: rest =>
    if c = d && set.contains c then squeezed set (d :: rest) else c :: squeezed set (d :: rest)

/-- What becomes of a character of the first set. -/
def exchanged (first second : List Char) (c : Char) : Char :=
  ((first.zip second).reverse.lookup c).getD c

/-- The characters that stand for those of a set, as its places in another one. -/
def exchange (first : List Char) (source target : List Member) (cuts : Bool) :
    Except String (List Char × List Char) :=
  let second := Member.expand first.length target
  let places := Member.kindPlaces first.length source
  if (target.any fun member => member.isKind && !member.isCase) then
    .error ("when translating, the only character classes that may appear in\n"
      ++ "string2 are 'upper' and 'lower'")
  else if second.isEmpty && !cuts && !first.isEmpty then
    .error "when not truncating set1, string2 must be non-empty"
  else if second.length < first.length && !cuts && (target.getLast?.any Member.isKind) then
    .error ("when translating with string1 longer than string2,\n"
      ++ "the latter string must not end with a character class")
  else if !((Member.kindPlaces first.length target).all fun found => places.contains found) then
    .error "misaligned [:upper:] and/or [:lower:] construct"
  else
    let fill := match second.getLast? with
      | some c => if cuts then [] else List.replicate (first.length - second.length) c
      | none => []
    .ok (first, second ++ fill)

/-- Replaces or deletes characters. -/
def tr : Utility := fun words => do
  let (chosen, words) ← options
    { letters := "cCdst", stops := true
      words := [("complement", 'c'), ("delete", 'd'), ("squeeze-repeats", 's'),
        ("truncate-set1", 't')] } words
  let deletes := chosen.has 'd'
  let squeezes := chosen.has 's'
  let (one, two) ← match words with
    | [] => refuseUsage 1 "missing operand"
    | [one] =>
      if deletes = squeezes then
        let reason := if deletes then
            "Two strings must be given when both deleting and squeezing repeats."
          else "Two strings must be given when translating."
        refuseUsage 1 s!"missing operand after {quotedName one}\n{reason}"
      else pure (one, none)
    | [one, two] =>
      if deletes && !squeezes then
        refuseUsage 1 (s!"extra operand {quotedName two}\n"
          ++ "Only one string may be given when deleting without squeezing repeats.")
      else pure (one, some two)
    | _ :: _ :: three :: _ => refuseUsage 1 s!"extra operand {quotedName three}"
  words.forM fun word => do
    let slashes := (word.toList.reverse.takeWhile (· = '\\')).length
    if slashes % 2 = 1 then
      complain 0 "warning: an unescaped backslash at end of string is not portable"
  let members (text : String) : Act (List Member) := match Member.ofText text with
    | .ok members => return members
    | .error reason => refuse 1 reason
  let source ← members one
  let target ← members (two.getD "")
  let listed := source.flatMap Member.chars
  let complements := chosen.has 'c' || chosen.has 'C'
  let first := if complements then Member.octets.filter fun c => !listed.contains c else listed
  let convert : List Char → List Char ← match two with
    | none =>
      if deletes then pure fun text => text.filter fun c => !first.contains c
      else pure (squeezed first)
    | some _ =>
      let second := Member.expand first.length target
      if deletes then
        pure fun text => squeezed second (text.filter fun c => !first.contains c)
      else match exchange first source target (chosen.has 't') with
        | .error reason => refuse 1 reason
        | .ok (first, second) =>
          let table := (Member.octets.map (exchanged first second)).toArray
          let replace (text : List Char) := text.map fun c => (table[c.toNat]?).getD c
          if squeezes then pure fun text => squeezed second (replace text) else pure replace
  match ← content "-" with
  | .ok bytes => print (String.ofList (convert (Octets.ofBytes bytes)))
  | .error _ => pure ()

/-! ## Expressions -/

namespace Expression

/-- The words that are still to be read, and the last one that has been. -/
structure Reading where
  rest : List String
  last : String

/-- A step in the evaluation of an expression. -/
abbrev Eval := StateT Reading (Except String)

/-- Fails for a reason. -/
def refuse {α : Type} (reason : String) : Eval α := fun _ => .error reason

/-- The next word. -/
def word : Eval String := fun s =>
  match s.rest with
  | found :: rest => .ok (found, ⟨rest, found⟩)
  | [] => .error s!"syntax error: missing argument after {quotedName s.last}"

/-- The next word, if it is one of some operators. -/
def takes (operators : List String) : Eval (Option String) := fun s =>
  match s.rest with
  | found :: rest => if operators.contains found then .ok (some found, ⟨rest, found⟩) else .ok (none, s)
  | [] => .ok (none, s)

/-- The integer that a text is. -/
def integer? (text : String) : Option Int :=
  let (negative, digits) := match text.toList with
    | '-' :: digits => (true, digits)
    | digits => (false, digits)
  if digits.isEmpty || !digits.all Char.isDigit then none
  else
    let n : Int := numberOf 10 digits
    some (if negative then -n else n)

/-- Whether a text counts as nothing. -/
def isNull (text : String) : Bool :=
  let digits := match text.toList with
    | '-' :: digits => digits
    | digits => digits
  text.isEmpty || (!digits.isEmpty && digits.all (· = '0'))

/-- The text of the first group of a match at the start of a text, or else the length of the match. -/
def matched (text pattern : String) : Eval String :=
  match Regex.ofText false pattern.toList with
  | .error reason => refuse reason
  | .ok (regex, groups) =>
    let subject : Regex.Subject := { text := text.toList.toArray }
    match regex.matchAt? subject 0 with
    | some found =>
      if groups ≠ 0 then
        return match found.groups.lookup 1 with
          | some (first, last) => String.ofList (subject.slice first last)
          | none => ""
      else return toString found.place
    | none => return if groups ≠ 0 then "" else "0"

/-- The integer of an operand. -/
def integer (text : String) : Eval Int :=
  match integer? text with
  | some n => return n
  | none => refuse "non-integer argument"

/-- The operators that bind less tightly than matching, loosest first. -/
def levels : List (List String) :=
  [["|"], ["&"], ["<", "<=", "=", "==", "!=", ">=", ">"], ["+", "-"], ["*", "/", "%"], [":"]]

/-- The value of an operator. -/
def apply (operator a b : String) : Eval String := do
  let order := match integer? a, integer? b with
    | some m, some n => compare m n
    | _, _ => compare a b
  let truth (holds : Bool) : Eval String := return if holds then "1" else "0"
  match operator with
  | "|" => return if !isNull a then a else if isNull b then "0" else b
  | "&" => return if isNull a || isNull b then "0" else a
  | "<" => truth (order = .lt)
  | "<=" => truth (order != .gt)
  | "=" | "==" => truth (order = .eq)
  | "!=" => truth (order != .eq)
  | ">=" => truth (order != .lt)
  | ">" => truth (order = .gt)
  | ":" => matched a b
  | _ =>
    let m ← integer a
    let n ← integer b
    match operator with
    | "+" => return toString (m + n)
    | "-" => return toString (m - n)
    | "*" => return toString (m * n)
    | _ =>
      if n = 0 then refuse "division by zero"
      else return toString (if operator = "/" then m.tdiv n else m.tmod n)

mutual

/-- The value of an expression of some levels, if it counts. -/
def level (counts : Bool) (levels : List (List String)) : Nat → Eval String
  | 0 => return ""
  | fuel + 1 => do
    match levels with
    | [] => primary counts fuel
    | operators :: tighter => levelFrom counts operators tighter (← level counts tighter fuel) fuel

/-- The value of what follows a first operand. -/
def levelFrom (counts : Bool) (operators : List String) (tighter : List (List String))
    (first : String) : Nat → Eval String
  | 0 => return first
  | fuel + 1 => do
    match ← takes operators with
    | none => return first
    | some operator =>
      let inner := match operator with
        | "|" => counts && isNull first
        | "&" => counts && !isNull first
        | _ => counts
      let second ← level inner tighter fuel
      let value ← if counts && (inner || operator = "|" || operator = "&") then
          apply operator first second
        else pure first
      levelFrom counts operators tighter value fuel

/-- The value of an expression without operators between operands. -/
def primary (counts : Bool) : Nat → Eval String
  | 0 => return ""
  | fuel + 1 => do
    match ← takes ["+", "length", "match", "index", "substr", "(", ")"] with
    | none | some "+" => word
    | some "length" => return toString (← primary counts fuel).length
    | some "match" =>
      let text ← primary counts fuel
      let pattern ← primary counts fuel
      if counts then matched text pattern else return text
    | some "index" =>
      let text ← primary counts fuel
      let chars ← primary counts fuel
      let before := text.toList.takeWhile fun c => !chars.toList.contains c
      return toString (if before.length = text.length then 0 else before.length + 1)
    | some "substr" =>
      let text ← primary counts fuel
      let start ← primary counts fuel
      let length ← primary counts fuel
      match integer? start, integer? length with
      | some m, some n =>
        return if 0 < m && 0 < n then
          String.ofList ((text.toList.drop (m.toNat - 1)).take n.toNat) else ""
      | _, _ => return ""
    | some "(" =>
      let value ← level counts levels fuel
      match (← get).rest with
      | [] => refuse s!"syntax error: expecting ')' after {quotedName (← get).last}"
      | found :: _ =>
        match ← takes [")"] with
        | some _ => return value
        | none => refuse s!"syntax error: expecting ')' instead of {quotedName found}"
    | some _ => refuse "syntax error: unexpected ')'"

end

/-- The value of the words of an expression. -/
def evaluate (words : List String) : Except String String := do
  match ← level true levels (16 * words.length + 16) ⟨words, "expr"⟩ with
  | (value, ⟨[], _⟩) => return value
  | (_, ⟨found :: _, _⟩) => .error s!"syntax error: unexpected argument {quotedName found}"

end Expression

/-- Writes the value of an expression. The status tells whether it counts as something. -/
def expr : Utility := fun words => do
  let words := if words.head? = some "--" then words.drop 1 else words
  if words.isEmpty then refuseUsage 2 "missing operand"
  else match Expression.evaluate words with
    | .error reason => refuse 2 reason
    | .ok value =>
      printLine value
      setStatus (if Expression.isNull value then 1 else 0)

/-! ## Paths -/

/-- A path without the slashes at its end. -/
def withoutSlashes (path : List Char) : List Char := (path.reverse.dropWhile (· = '/')).reverse

/-- The last part of a path. -/
def lastPart (path : String) : String :=
  let stem := withoutSlashes path.toList
  if stem.isEmpty then if path.isEmpty then "" else "/"
  else String.ofList (stem.reverse.takeWhile (· ≠ '/')).reverse

/-- A text without an ending, unless that is all of it. -/
def withoutEnding (text ending : String) : String :=
  if text.endsWith ending && text ≠ ending then
    String.ofList (text.toList.take (text.length - ending.length))
  else text

/-- Writes the last parts of paths. -/
def basename : Utility := fun words => do
  let (chosen, words) ← options
    { letters := "as:z", stops := true
      words := [("multiple", 'a'), ("suffix", 's'), ("zero", 'z')] } words
  let ending := if chosen.has 'z' then "\x00" else "\n"
  if chosen.has 'a' || chosen.has 's' then
    if words.isEmpty then refuseUsage 1 "missing operand"
    else words.forM fun word =>
      print (withoutEnding (lastPart word) ((chosen.get? 's').getD "") ++ ending)
  else match words with
    | [] => refuseUsage 1 "missing operand"
    | [word] => print (lastPart word ++ ending)
    | [word, suffix] => print (withoutEnding (lastPart word) suffix ++ ending)
    | _ :: _ :: extra :: _ => refuseUsage 1 s!"extra operand {quotedName extra}"

/-- Writes paths without their last parts. -/
def dirname : Utility := fun words => do
  let (chosen, words) ← options { letters := "z", words := [("zero", 'z')] } words
  if words.isEmpty then refuseUsage 1 "missing operand"
  else words.forM fun word =>
    let isRoot := !word.isEmpty && word.toList.all (· = '/')
    let parent := if isRoot then "/" else FileTree.parentPath word
    print (parent ++ if chosen.has 'z' then "\x00" else "\n")

end ScenarioRunner.Shell.Utility

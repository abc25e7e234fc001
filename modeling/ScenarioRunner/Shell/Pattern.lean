/-!
# Patterns

A pattern matches whole texts. A sign matches itself, a question mark one character, an asterisk any
text, and brackets one of some characters or, after an exclamation mark, one of the others.
-/

set_option autoImplicit false

namespace ScenarioRunner.Shell

/-- A character of a pattern, and whether it stands for itself. -/
structure Sign where
  char : Char
  isPlain : Bool
  deriving DecidableEq

namespace Pattern

/-- Some of the characters in brackets. -/
inductive Member where
  | range (low high : Char)
  /-- The characters of a class. -/
  | kind (name : String)
  deriving DecidableEq

/-- A part of a pattern. -/
inductive Item where
  | char (c : Char)
  | anyChar
  | anyText
  | bracket (negated : Bool) (members : List Member)
  deriving DecidableEq

/-- Whether a character is in a class. -/
def isOfKind (name : String) (c : Char) : Bool :=
  match name with
  | "alnum" => c.isAlphanum
  | "alpha" => c.isAlpha
  | "blank" => c = ' ' || c = '\t'
  | "cntrl" => c.toNat < 0x20 || c.toNat = 0x7F
  | "digit" => c.isDigit
  | "graph" => 0x20 < c.toNat && c.toNat < 0x7F
  | "lower" => c.isLower
  | "print" => 0x20 ≤ c.toNat && c.toNat < 0x7F
  | "punct" => 0x20 < c.toNat && c.toNat < 0x7F && !c.isAlphanum
  | "space" => c = ' ' || (0x09 ≤ c.toNat && c.toNat ≤ 0x0D)
  | "upper" => c.isUpper
  | "xdigit" => c.isDigit || ('a' ≤ c && c ≤ 'f') || ('A' ≤ c && c ≤ 'F')
  | _ => false

/-- Whether brackets hold a character. -/
def Member.holds (c : Char) : Member → Bool
  | range low high => low ≤ c && c ≤ high
  | kind name => isOfKind name c

/-- The name of a class and the signs behind it. -/
def kindName? (signs : List Sign) : Option (String × List Sign) :=
  match signs with
  | ⟨':', _⟩ :: rest =>
    let name := (rest.takeWhile (·.char.isAlpha)).map Sign.char
    match rest.drop name.length with
    | ⟨':', _⟩ :: ⟨']', _⟩ :: behind => some (String.ofList name, behind)
    | _ => none
  | _ => none

/-- A sign and those behind it. A backslash that is no plain sign makes the next one plain. -/
def protectedSign : Sign → List Sign → Char × List Sign
  | ⟨'\\', false⟩, sign :: rest => (sign.char, rest)
  | sign, rest => (sign.char, rest)

/-- The members of brackets and the signs behind them, unless the brackets are not closed. -/
def members? (first : Bool) : Nat → List Sign → Option (List Member × List Sign)
  | 0, _ => none
  | _ + 1, [] => none
  | fuel + 1, sign :: rest =>
    if sign = ⟨']', false⟩ && !first then some ([], rest)
    else match if sign = ⟨'[', false⟩ then kindName? rest else none with
      | some (name, behind) =>
        (members? false fuel behind).map fun (members, rest) => (.kind name :: members, rest)
      | none =>
        let (low, behind) := protectedSign sign rest
        match behind with
        | ⟨'-', false⟩ :: high :: after =>
          if high = ⟨']', false⟩ then
            (members? false fuel behind).map fun (members, rest) => (.range low low :: members, rest)
          else
            let (high, after) := protectedSign high after
            (members? false fuel after).map fun (members, rest) => (.range low high :: members, rest)
        | _ => (members? false fuel behind).map fun (members, rest) => (.range low low :: members, rest)

/-- The parts of a pattern. -/
def parse : Nat → List Sign → List Item
  | 0, _ => []
  | _ + 1, [] => []
  | fuel + 1, ⟨c, plain⟩ :: rest =>
    if plain then .char c :: parse fuel rest
    else if c = '?' then .anyChar :: parse fuel rest
    else if c = '*' then .anyText :: parse fuel rest
    else if c = '\\' then
      match rest with
      | sign :: behind => .char sign.char :: parse fuel behind
      | [] => [.char '\\']
    else if c = '[' then
      let (negated, inside) := match rest with
        | ⟨'!', false⟩ :: inside | ⟨'^', false⟩ :: inside => (true, inside)
        | _ => (false, rest)
      match members? true (inside.length + 1) inside with
      | some (members, behind) => .bracket negated members :: parse fuel behind
      | none => .char '[' :: parse fuel rest
    else .char c :: parse fuel rest

/-- Whether a part of a pattern matches a character. -/
def Item.accepts (c : Char) : Item → Bool
  | char d => c = d
  | anyChar => true
  | anyText => true
  | bracket negated members => members.any (·.holds c) != negated

/-- Whether a pattern matches a text. -/
def accepts : List Item → List Char → Bool
  | [], text => text.isEmpty
  | .anyText :: items, [] => accepts items []
  | .anyText :: items, c :: text => accepts items (c :: text) || accepts (.anyText :: items) text
  | _ :: _, [] => false
  | item :: items, c :: text => item.accepts c && accepts items text
termination_by items text => items.length + text.length

/-- The pattern of some signs. -/
def ofSigns (signs : List Sign) : List Item := parse (signs.length + 1) signs

/-- Whether a pattern matches more than one text. -/
def isOpen (signs : List Sign) : Bool :=
  (ofSigns signs).any fun
    | .char _ => false
    | _ => true

/-- A text without the start of it that a pattern matches, the longest or the shortest. -/
def trimStart (items : List Item) (longest : Bool) (text : List Char) : List Char :=
  let lengths := List.range (text.length + 1)
  let found := (if longest then lengths.reverse else lengths).find? fun n => accepts items (text.take n)
  text.drop (found.getD 0)

/-- A text without the end of it that a pattern matches, the longest or the shortest. -/
def trimEnd (items : List Item) (longest : Bool) (text : List Char) : List Char :=
  let lengths := List.range (text.length + 1)
  let found := (if longest then lengths else lengths.reverse).find? fun n => accepts items (text.drop n)
  text.take (found.getD text.length)

end Pattern

end ScenarioRunner.Shell

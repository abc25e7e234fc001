import ScenarioRunner.Decimal.Literal
import ScenarioRunner.Schema.Datum
import ScenarioRunner.Yaml.Token.Basic

/-!
# Kinds of YAML scalars

A plain scalar without a tag is null, a truth value or a number if it is written like one, and
text otherwise. A tag of the core schema asks for its kind. An integer that has no 64-bit form is
refused, unless it is so large that it counts as a float.
-/

set_option autoImplicit false

namespace ScenarioRunner.Yaml

/-- The mark that the names of local tags begin with. -/
def localMark : UInt8 := 0x21

/-- The name behind the mark of a tag that is local to a document, or the mark itself if nothing
follows it; `none` for other tags, and for names that are not text. -/
def localName? : TagName → Option String
  | [] => none
  | b :: rest =>
    if b = localMark then Utf8.decode? (if rest.isEmpty then [b] else rest) else none

/-- A tag of the core schema. -/
def coreTag (name : String) : TagName := Utf8.encode ("tag:yaml.org,2002:" ++ name)

/-- The spellings of null that are not empty. -/
def isNullWord (text : String) : Bool := ["~", "null", "Null", "NULL"].contains text

/-- Truth values. -/
def bool? (text : String) : Option Bool :=
  if ["true", "True", "TRUE"].contains text then some true
  else if ["false", "False", "FALSE"].contains text then some false
  else none

/-- The value of a digit in a base of at most sixteen. -/
def digit? (base : Nat) (c : Char) : Option Nat :=
  let value :=
    if c.isDigit then c.toNat - '0'.toNat
    else if 'a' ≤ c ∧ c ≤ 'f' then c.toNat - 'a'.toNat + 10
    else if 'A' ≤ c ∧ c ≤ 'F' then c.toNat - 'A'.toNat + 10
    else 16
  if value < base then some value else none

/-- Digits of a base, at least one. -/
def digits? (base : Nat) (text : List Char) : Option Nat :=
  if text.isEmpty then none
  else (text.mapM (digit? base)).map (·.foldl (fun n d => n * base + d) 0)

/-- The base that the letter of an abbreviation stands for. -/
def base? : Char → Option Nat
  | 'x' => some 16
  | 'o' => some 8
  | 'b' => some 2
  | _ => none

/-- Digits that begin with their base, or decimal ones without a leading zero. -/
def magnitude? (text : List Char) : Option Nat :=
  match text with
  | '0' :: c :: rest => (base? c).bind fun base => digits? base rest
  | _ => digits? 10 text

/-- An integer without a minus sign. -/
def unsigned? (text : List Char) : Option Nat :=
  match text with
  | '+' :: rest => magnitude? rest
  | _ => magnitude? text

/-- An integer. -/
def integer? (text : List Char) : Option Int :=
  match text with
  | '-' :: rest => (magnitude? rest).map fun n => -(n : Int)
  | _ => (unsigned? text).map fun n => (n : Int)

/-- From here on an integer counts as a float. -/
def integerLimit : Int := 0x100000000000000000000000000000000

/-- Down to here a negative integer counts as an integer. -/
def negativeLimit : Int := -0x80000000000000000000000000000000

/-- Whether a text is digits with a leading zero, behind a sign or not. -/
def hasLeadingZero (text : List Char) : Bool :=
  let digits := match text with
    | '-' :: rest => rest
    | '+' :: rest => rest
    | _ => text
  match digits with
  | '0' :: rest => !rest.isEmpty && rest.all Char.isDigit
  | _ => false

/-- A float. -/
def float? (text : List Char) : Option Binary64 :=
  let (plus, body) := match text with
    | '+' :: rest => (true, rest)
    | _ => (false, text)
  if plus && (body.head? == some '+' || body.head? == some '-') then none
  else if [".inf", ".Inf", ".INF"].contains (String.ofList body) then some (Binary64.infinity false)
  else if ["-.inf", "-.Inf", "-.INF"].contains (String.ofList text) then
    some (Binary64.infinity true)
  else if [".nan", ".NaN", ".NAN"].contains (String.ofList text) then some Binary64.nan
  else (Literal.parse? body).bind fun literal =>
    let x := literal.toBinary64
    if x.isFinite then some x else none

/-- A value as data. -/
def datumOfInteger? (n : Int) : Option Datum := (Value.ofInteger? n).map Datum.ofValue

/-- What a plain scalar without a tag stands for. -/
def plainDatum? (text : String) : Option Datum :=
  if text.isEmpty || isNullWord text then some .null
  else match bool? text with
    | some b => some (.bool b)
    | none =>
      match (integer? text.toList).filter fun n => negativeLimit ≤ n ∧ n < integerLimit with
      | some n => datumOfInteger? n
      | none =>
        if hasLeadingZero text.toList then some (.str text)
        else some (((float? text.toList).map Datum.float).getD (.str text))

/-- What a scalar stands for, unless its tag asks for something else. A tag with the mark of local
ones counts for nothing on a plain scalar if its name is not text. -/
def scalarDatum? (tag : Option TagName) (style : Style) (text : String) : Option Datum :=
  match tag with
  | none => if style = .plain then plainDatum? text else some (.str text)
  | some tag =>
    if (localName? tag).isSome then none
    else if tag = coreTag "bool" then (bool? text).map .bool
    else if tag = coreTag "int" then (integer? text.toList).bind datumOfInteger?
    else if tag = coreTag "float" then (float? text.toList).map .float
    else if tag = coreTag "null" then if isNullWord text then some .null else none
    else if tag.head? = some localMark ∧ style = .plain then plainDatum? text
    else some (.str text)

/-- Whether a scalar stands for nothing where there need be nothing; `none` if its tag says so but
its text does not. -/
def scalarIsAbsent? (tag : Option TagName) (style : Style) (text : String) : Option Bool :=
  if style ≠ .plain then some false
  else match tag with
    | none => some (text.isEmpty || isNullWord text)
    | some tag =>
      if tag = coreTag "null" then if isNullWord text then some true else none
      else some false

/-- The natural number below a bound that a scalar stands for. -/
def scalarNatural? (bound : Nat) (tag : Option TagName) (style : Style) (text : String) :
    Option Value :=
  if style = .plain || (style = .literal && tag == some (coreTag "int")) then
    ((unsigned? text.toList).filter (· < bound)).bind fun n => Value.ofInteger? n
  else none

/-- The name that a scalar stands for. A local tag is a name of its own, and then there is nothing
but the tag. -/
def scalarName? (tag : Option TagName) (style : Style) (text : String) : Option String :=
  match tag.bind localName? with
  | none => some text
  | some name => if style = .plain && (text.isEmpty || isNullWord text) then some name else none

end ScenarioRunner.Yaml

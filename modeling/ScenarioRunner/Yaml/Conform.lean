import ScenarioRunner.Error
import ScenarioRunner.Schema.Conform
import ScenarioRunner.Yaml.Node
import ScenarioRunner.Yaml.Plain
import ScenarioRunner.Yaml.Token.Scan

/-!
# YAML documents that fit a schema

Where a schema asks for text, any scalar is text as it is written; where it allows any value, a
scalar has the kind that its spelling says. A missing value is an empty collection. Collections can
be nested up to a bound, and aliases can be followed a number of times that depends on the size of
the document, so that a small document cannot stand for a huge value.
-/

set_option autoImplicit false

namespace ScenarioRunner.Yaml

/-- The most collections inside each other. -/
def depthBound : Nat := 128

/-- How often aliases can be followed, for each place of a document. -/
def followsPerPlace : Nat := 100

/-- A step in reading a document, with the count of aliases that can still be followed. -/
abbrev Reading := StateT Nat Option

namespace Document

/-- Follows an alias; other nodes stay. -/
def follow (document : Document) (node : Node) : Reading Node := fun left =>
  match node, left with
  | .alias _, 0 => none
  | .alias number, left + 1 => (document.target? number).map fun target => (target, left)
  | node, left => some (node, left)

/-- Fails for a tag that is local to the document. -/
def refuseLocalTag (tag : Option TagName) : Reading Unit :=
  if (tag.bind localName?).isSome then failure else return ()

/-- The text of a scalar. -/
def scalarText (document : Document) (node : Node) : Reading String := do
  match ← document.follow node with
  | .scalar _ _ text => return text
  | _ => failure

/-- The data of a node, inside at most a number of collections. -/
def datum (document : Document) : Nat → Node → Reading Datum
  | depth, node => do
    match ← document.follow node, depth with
    | .scalar tag style text, _ => (scalarDatum? tag style text : Option Datum)
    | .sequence tag items, depth + 1 =>
      refuseLocalTag tag
      return .list (← items.mapM (document.datum depth))
    | .mapping tag entries, depth + 1 =>
      refuseLocalTag tag
      return .map (← entries.mapM fun (key, node) => do
        let key ← document.datum depth key
        return (key, ← document.datum depth node))
    | _, _ => failure

/-- The items of a sequence. A missing value has none. -/
def items : Node → Reading (List Node)
  | .sequence _ items => return items
  | .scalar _ .plain "" => return []
  | _ => failure

/-- The entries of a mapping. A missing value has none. -/
def entries : Node → Reading (List (Node × Node))
  | .mapping _ entries => return entries
  | .scalar _ .plain "" => return []
  | _ => failure

/-- Checks that the fields that are found are different and include the required ones. -/
def isComplete (fields : List (String × Presence × Schema)) (found : List (String × Value)) : Bool :=
  (found.map (·.1)).Nodup && fields.all fun (name, presence, _) =>
    presence != .required || found.any (·.1 == name)

/-- The entries of a tagged record as data; the value of the entry that names it is text. -/
def taggedEntry (document : Document) (depth : Nat) (key : String) (entry : Node × Node) :
    Reading (Datum × Datum) := do
  let name ← document.datum depth entry.1
  match name with
  | .str s =>
    if s = key then return (name, .str (← document.scalarText entry.2))
    else return (name, ← document.datum depth entry.2)
  | _ => return (name, ← document.datum depth entry.2)

/-- A tagged record as data. -/
def taggedDatum (document : Document) (key : String) : Nat → Node → Reading Datum
  | depth + 1, .mapping tag entries => do
    refuseLocalTag tag
    return .map (← entries.mapM (document.taggedEntry depth key))
  | depth + 1, .sequence tag (name :: items) => do
    refuseLocalTag tag
    let name ← document.scalarText name
    return .list (.str name :: (← items.mapM (document.datum depth)))
  | _, _ => failure

/-- A schema without an outer option, and whether it has one. -/
def stripOption : Schema → Schema × Bool
  | .optional inner => (inner, true)
  | schema => (schema, false)

/-- Whether there is nothing at a node. -/
def isAbsent : Node → Reading Bool
  | .scalar tag style text => (scalarIsAbsent? tag style text : Option Bool)
  | _ => return false

/-- A node in normal form, if it fits, inside at most a number of collections. -/
def conform (document : Document) : Nat → Schema → Node → Reading Value
  | depth, schema, node => do
    let node ← document.follow node
    let (schema, isOptional) := stripOption schema
    if isOptional && (← isAbsent node) then return .null
    match schema, depth with
    | .any, depth => return (← document.datum depth node).toValue
    | .text, _ => return .str (← document.scalarText node)
    | .natural bound, _ =>
      match node with
      | .scalar tag style text => (scalarNatural? bound tag style text : Option Value)
      | _ => failure
    | .choice names, _ =>
      match node with
      | .scalar tag style text =>
        match (scalarName? tag style text).filter names.contains with
        | some name => return .str name
        | none => failure
      | _ => failure
    | .tagged key variants, depth =>
      let d ← document.taggedDatum key depth node
      ((Schema.tagged key variants).conform? d : Option Value)
    | .list inner, depth + 1 =>
      return .list (← (← items node).mapM (document.conform depth inner))
    | .table inner, depth + 1 =>
      let found ← (← entries node).mapM fun (key, node) => do
        let name ← document.scalarText key
        return (name, ← document.conform depth inner node)
      return .map (Fields.ofList found)
    | .record fields, depth + 1 =>
      let found ← (← entries node).filterMapM fun (key, node) => do
        let name ← document.scalarText key
        match fields.lookup name with
        | some (_, inner) => return some (name, ← document.conform depth inner node)
        | none => return none
      if isComplete fields found then return .map (Fields.ofList found) else failure
    | _, _ => failure

/-- The root of a document in normal form, if it fits. -/
def conform? (document : Document) (schema : Schema) : Option Value :=
  (document.conform depthBound schema document.root (followsPerPlace * document.size)).map (·.1)

end Document

/-- Reads a text as a document. -/
def document? (text : String) : Option Document :=
  (letters? text.toList).bind fun letters => (Token.scan? letters).bind Document.ofTokens?

/-- Reads a text as a document that fits a schema, and gives that in normal form. -/
def read (schema : Schema) (text : String) : Except Error Value :=
  match document? text with
  | none => .error (.yaml "malformed document")
  | some document =>
    match document.conform? schema with
    | none => .error (.yaml "unexpected shape")
    | some form => .ok form

end ScenarioRunner.Yaml

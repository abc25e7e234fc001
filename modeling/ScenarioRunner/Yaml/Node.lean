import ScenarioRunner.Yaml.Token.Basic

/-!
# YAML documents

A document is a tree of scalars, sequences, mappings and aliases. Its places count the nodes in the
order of the text, with one more at the end of each collection. An alias holds a number, which
stands for a place; a number that is given out twice stands for the later place.
-/

set_option autoImplicit false

namespace ScenarioRunner.Yaml

/-- A node of a document. -/
inductive Node where
  | scalar (tag : Option TagName) (style : Style) (text : String)
  | sequence (tag : Option TagName) (items : List Node)
  | mapping (tag : Option TagName) (entries : List (Node × Node))
  | alias (number : Nat)

instance : Inhabited Node := ⟨.alias 0⟩

/-- The scalar that stands where nothing is written. -/
def Node.empty : Node := .scalar none .plain ""

/-- A document. -/
structure Document where
  root : Node := .empty
  /-- The count of places. -/
  size : Nat := 1
  /-- The places that the numbers of aliases stand for, latest first. -/
  places : List (Nat × Nat) := []
  /-- The nodes with anchors at their places. -/
  anchored : List (Nat × Node) := []

/-- The node that a number stands for. -/
def Document.target? (document : Document) (number : Nat) : Option Node :=
  (document.places.lookup number).bind fun place => document.anchored.lookup place

/-! ## Reading tokens -/

/-- A document as far as it is read. -/
structure Composer where
  tokens : List Token
  /-- The expansions of handles. -/
  handles : List (String × TagName) := []
  /-- The count of places so far. -/
  size : Nat := 0
  /-- The numbers of the anchors, one for each name. -/
  numbers : List (String × Nat) := []
  places : List (Nat × Nat) := []
  anchored : List (Nat × Node) := []

/-- A step in reading a document. -/
abbrev Compose := StateT Composer Option

namespace Compose

/-- The next token. -/
def peek : Compose (Option Token) := fun s => some (s.tokens.head?, s)

/-- Takes the next token. -/
def skip : Compose Unit := fun s => some ((), { s with tokens := s.tokens.tail })

/-- Counts a place, and gives it. -/
def countPlace : Compose Nat := fun s => some (s.size, { s with size := s.size + 1 })

/-- Begins a node, and gives its place. An anchor gets a number, the count of the names so far. -/
def begin (anchor : Option String) : Compose Nat := fun s =>
  let s := match anchor with
    | none => s
    | some name =>
      let number := s.numbers.length
      let others := s.numbers.filter (·.1 != name)
      { s with numbers := (name, number) :: others, places := (number, s.size) :: s.places }
  countPlace s

/-- Ends a node that has begun at a place. -/
def finish (anchor : Option String) (place : Nat) (node : Node) : Compose Node := fun s =>
  some (node, if anchor.isSome then { s with anchored := (place, node) :: s.anchored } else s)

/-- The node that stands where nothing is written. -/
def emptyNode : Compose Node := do
  let _ ← countPlace
  return .empty

/-- The full name of a tag. -/
def expand (written : WrittenTag) : Compose TagName := fun s =>
  if written.handle.isEmpty then some (written.suffix, s)
  else (s.handles.lookup written.handle).map fun expansion => (expansion ++ written.suffix, s)

/-- The anchor and the tag of a node, in either order. -/
def properties : Compose (Option String × Option WrittenTag) := do
  match ← peek with
  | some (.anchor name) =>
    skip
    match ← peek with
    | some (.tag written) => skip; return (some name, some written)
    | _ => return (some name, none)
  | some (.tag written) =>
    skip
    match ← peek with
    | some (.anchor name) => skip; return (some name, some written)
    | _ => return (none, some written)
  | _ => return (none, none)

/-- A scalar with its properties. -/
def scalar (anchor : Option String) (tag : Option TagName) (style : Style) (text : String) :
    Compose Node := do
  let place ← begin anchor
  finish anchor place (.scalar tag style text)

/-- A collection with its properties. -/
def collection {α : Type} (anchor : Option String) (items : Compose α) (make : α → Node) :
    Compose Node := do
  let place ← begin anchor
  let items ← items
  let _ ← countPlace
  finish anchor place (make items)

/-- Whether an entry of a block mapping has nothing written before a token. -/
def endsBlockPart : Option Token → Bool
  | some .key | some .value | some .blockEnd => true
  | _ => false

/-- Whether an entry of a block sequence has nothing written before a token. -/
def endsBlockItem : Option Token → Bool
  | some .blockEntry | some .blockEnd => true
  | _ => false

/-- Whether an item in brackets has nothing written before a token. -/
def endsFlowItem : Option Token → Bool
  | some .flowEntry | some .flowSequenceEnd => true
  | _ => false

/-- Whether a value in braces has nothing written before a token. -/
def endsFlowValue : Option Token → Bool
  | some .flowEntry | some .flowMappingEnd => true
  | _ => false

/-- Takes a comma, unless the first item is still to come. -/
def separator (first : Bool) : Compose Unit := do
  if !first then
    match ← peek with
    | some .flowEntry => skip
    | _ => failure

mutual

/-- A node. A block collection can stand only where one is allowed, and a sequence without
indentation only as a part of a block mapping. -/
def node (allowsBlock unindented : Bool) : Nat → Compose Node
  | 0 => failure
  | fuel + 1 => do
    match ← peek with
    | some (.alias name) =>
      skip
      let _ ← countPlace
      match (← get).numbers.lookup name with
      | some number => return .alias number
      | none => failure
    | _ =>
      let (anchor, written) ← properties
      let tag ← match written with
        | some written => some <$> expand written
        | none => pure none
      match ← peek with
      | some (.scalar style text) =>
        skip
        scalar anchor tag style text
      | some .flowSequenceStart =>
        skip
        collection anchor (flowItems true fuel) (.sequence tag)
      | some .flowMappingStart =>
        skip
        collection anchor (flowEntries true fuel) (.mapping tag)
      | some .blockEntry =>
        if unindented then collection anchor (unindentedItems fuel) (.sequence tag)
        else nothing anchor tag
      | some .blockSequenceStart =>
        if allowsBlock then skip; collection anchor (blockItems fuel) (.sequence tag)
        else nothing anchor tag
      | some .blockMappingStart =>
        if allowsBlock then skip; collection anchor (blockEntries fuel) (.mapping tag)
        else nothing anchor tag
      | _ => nothing anchor tag
where
  /-- A node with properties but nothing else. -/
  nothing (anchor : Option String) (tag : Option TagName) : Compose Node :=
    if anchor.isSome || tag.isSome then scalar anchor tag .plain "" else failure

/-- A node, unless nothing is written before the next token. -/
def nodeUnless (ends : Option Token → Bool) (allowsBlock unindented : Bool) : Nat → Compose Node
  | 0 => failure
  | fuel + 1 => do
    if ends (← peek) then emptyNode else node allowsBlock unindented fuel

/-- The items of a block sequence. -/
def blockItems : Nat → Compose (List Node)
  | 0 => failure
  | fuel + 1 => do
    match ← peek with
    | some .blockEntry =>
      skip
      let item ← nodeUnless endsBlockItem true false fuel
      return item :: (← blockItems fuel)
    | some .blockEnd => skip; return []
    | _ => failure

/-- The items of a block sequence that is not indented more than its key. -/
def unindentedItems : Nat → Compose (List Node)
  | 0 => failure
  | fuel + 1 => do
    match ← peek with
    | some .blockEntry =>
      skip
      let item ← nodeUnless (fun t => endsBlockItem t || endsBlockPart t) true false fuel
      return item :: (← unindentedItems fuel)
    | _ => return []

/-- The entries of a block mapping. -/
def blockEntries : Nat → Compose (List (Node × Node))
  | 0 => failure
  | fuel + 1 => do
    match ← peek with
    | some .key =>
      skip
      let key ← nodeUnless endsBlockPart true true fuel
      let value ← blockValue fuel
      return (key, value) :: (← blockEntries fuel)
    | some .blockEnd => skip; return []
    | _ => failure

/-- The value of an entry of a block mapping. -/
def blockValue : Nat → Compose Node
  | 0 => failure
  | fuel + 1 => do
    match ← peek with
    | some .value =>
      skip
      nodeUnless endsBlockPart true true fuel
    | _ => emptyNode

/-- The items in brackets. A key among them makes a mapping of one entry. -/
def flowItems (first : Bool) : Nat → Compose (List Node)
  | 0 => failure
  | fuel + 1 => do
    match ← peek with
    | some .flowSequenceEnd => skip; return []
    | _ =>
      separator first
      match ← peek with
      | some .flowSequenceEnd => skip; return []
      | some .key =>
        skip
        let pair ← collection none (flowPair fuel) fun entry => .mapping none [entry]
        return pair :: (← flowItems false fuel)
      | _ =>
        let item ← node false false fuel
        return item :: (← flowItems false fuel)

/-- The entry of a mapping in brackets. A token that shows that the key is empty is lost. -/
def flowPair : Nat → Compose (Node × Node)
  | 0 => failure
  | fuel + 1 => do
    let next ← peek
    let emptyKey := endsFlowItem next || (match next with
      | some .value => true
      | _ => false)
    let key ← if emptyKey then (do skip; emptyNode) else node false false fuel
    match ← peek with
    | some .value =>
      skip
      let value ← nodeUnless endsFlowItem false false fuel
      return (key, value)
    | _ => return (key, ← emptyNode)

/-- The entries in braces. -/
def flowEntries (first : Bool) : Nat → Compose (List (Node × Node))
  | 0 => failure
  | fuel + 1 => do
    match ← peek with
    | some .flowMappingEnd => skip; return []
    | _ =>
      separator first
      match ← peek with
      | some .flowMappingEnd => skip; return []
      | some .key =>
        skip
        let next ← peek
        let emptyKey := endsFlowValue next || (match next with
          | some .value => true
          | _ => false)
        let key ← if emptyKey then emptyNode else node false false fuel
        let value ← flowValue fuel
        return (key, value) :: (← flowEntries false fuel)
      | _ =>
        let key ← node false false fuel
        let value ← emptyNode
        return (key, value) :: (← flowEntries false fuel)

/-- The value of an entry in braces. -/
def flowValue : Nat → Compose Node
  | 0 => failure
  | fuel + 1 => do
    match ← peek with
    | some .value =>
      skip
      nodeUnless endsFlowValue false false fuel
    | _ => emptyNode

end

/-! ## Documents -/

/-- The handles that need no directive. -/
def defaultHandles : List (String × TagName) :=
  [("!", Utf8.encode "!"), ("!!", Utf8.encode "tag:yaml.org,2002:")]

/-- Reads the directives of a document, given those before them. -/
def directives (versions : Bool) : List Token → List (String × TagName) →
    Option (Bool × List (String × TagName) × List Token)
  | .versionDirective major minor :: rest, handles =>
    if versions || major != 1 || (minor != 1 && minor != 2) then none
    else directives true rest handles
  | .tagDirective handle expansion :: rest, handles =>
    if (handles.lookup handle).isSome then none
    else directives versions rest ((handle, expansion) :: handles)
  | rest, handles => some (versions, handles, rest)

/-- Whether a token stands for a node of a document. -/
def endsContent : Option Token → Bool
  | none => true
  | some (.versionDirective ..) | some (.tagDirective ..) | some .documentStart
  | some .documentEnd => true
  | _ => false

/-- The steps that are enough to read some tokens. -/
def stepsFor (tokens : List Token) : Nat := 4 * tokens.length + 4

end Compose

open Compose in
/-- The document of a stream with one document at most. -/
def Document.ofTokens? (tokens : List Token) : Option Document := do
  let (versions, handles, rest) ← directives false tokens []
  let explicit := match rest with
    | .documentStart :: _ => true
    | _ => false
  if (versions || !handles.isEmpty) && !explicit then none
  if rest.isEmpty then some {}
  else
    let rest := if explicit then rest.tail else rest
    let start : Composer := { tokens := rest, handles := handles ++ defaultHandles }
    let read := if explicit then nodeUnless endsContent true false else node true false
    let (root, s) ← read (stepsFor rest) start
    let behind := s.tokens.dropWhile fun
      | .documentEnd => true
      | _ => false
    if behind.isEmpty then some { root, size := s.size, places := s.places, anchored := s.anchored }
    else none

end ScenarioRunner.Yaml

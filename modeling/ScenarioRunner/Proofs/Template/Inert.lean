import ScenarioRunner.Proofs.Template.Scan
import ScenarioRunner.Proofs.Template.Tree
import ScenarioRunner.Proofs.Value.Leaves

/-!
# Text that resolves to nothing

A template is inert in a scope if no name between two opening and two closing braces, wherever they
stand in it, refers to anything. An inert template resolves to itself, however its braces are nested,
and so does a value all of whose strings are inert, as a body and as an operand
(`inert_text_kept`). Scanning may pair the braces as it likes: all slots that it finds stand in the
template, and the pieces joined are the template again.
-/

set_option autoImplicit false

namespace ScenarioRunner.Scope

open Template

/-- Whether a name refers to something: `uuid` always does, a name behind `env.` if the environment
has it, and any other one if it is stored. -/
def Answers (scope : Scope) (name : List Char) : Prop :=
  match Reference.ofName name with
  | .fresh => True
  | .environment var => (scope.environment var).isSome = true
  | .stored var => (Fields.get? scope.store var).isSome = true

/-- No slot that stands anywhere in a template has a name that refers to something. -/
def Inert (scope : Scope) (template : List Char) : Prop :=
  ∀ inner, Piece.source (.slot inner) <:+: template → ¬scope.Answers (trimBlanks inner)

instance (scope : Scope) (name : List Char) : Decidable (scope.Answers name) :=
  match href : Reference.ofName name with
  | .fresh => isTrue (by simp [Answers, href])
  | .environment var =>
    decidable_of_iff ((scope.environment var).isSome = true) (by simp [Answers, href])
  | .stored var =>
    decidable_of_iff ((Fields.get? scope.store var).isSome = true) (by simp [Answers, href])

/-- All parts of a template are looked at for slots. -/
instance (scope : Scope) (template : List Char) : Decidable (scope.Inert template) :=
  decidable_of_iff
    (∀ part ∈ template.tails.flatMap List.inits,
      part = Piece.source (.slot ((part.drop 2).dropLast.dropLast)) →
        ¬scope.Answers (trimBlanks (part.drop 2).dropLast.dropLast)) <| by
    have hmem : ∀ part, part ∈ template.tails.flatMap List.inits ↔ part <:+: template := by
      intro part
      rw [List.mem_flatMap, List.infix_iff_prefix_suffix]
      simp only [List.mem_tails, List.mem_inits]
      exact exists_congr fun _ => and_comm
    constructor
    · intro h inner hinner
      have hpart := h _ ((hmem _).2 hinner)
      simpa [Piece.source] using hpart
    · intro h part hpart hslot
      rw [hslot, hmem] at hpart
      exact h _ hpart

variable {scope : Scope} {supply : Nat}

/-! ## Texts -/

theorem read_of_not_answers {name : List Char} (h : ¬scope.Answers name) :
    scope.read supply (.ofName name) = (none, supply) := by
  unfold Answers at h
  cases href : Reference.ofName name with
  | fresh =>
      rw [href] at h
      exact absurd trivial h
  | environment var =>
      rw [href] at h
      rw [read, Option.not_isSome_iff_eq_none.1 h, Option.map_none]
  | stored var =>
      rw [href] at h
      rw [read, Option.not_isSome_iff_eq_none.1 h, Option.map_none]

/-- Pieces whose slots refer to nothing are filled with their sources. -/
theorem fill_of_not_answers {pieces : List Piece}
    (h : ∀ inner, .slot inner ∈ pieces → ¬scope.Answers (trimBlanks inner)) :
    scope.fill supply pieces = (pieces.flatMap Piece.source, supply) := by
  induction pieces with
  | nil => rfl
  | cons piece rest ih =>
      have hpiece : scope.fillPiece supply piece = (piece.source, supply) := by
        cases piece with
        | text content => rfl
        | slot inner =>
            rw [fillPiece, read_of_not_answers (h inner List.mem_cons_self)]
            rfl
      rw [fill, hpiece, List.flatMap_cons]
      dsimp only
      rw [ih fun inner hmem => h inner (List.mem_cons_of_mem _ hmem)]

theorem resolveChars_of_inert {template : List Char} (h : scope.Inert template) :
    scope.resolveChars supply template = (template, supply) := by
  have hslots : ∀ inner, .slot inner ∈ scan template → ¬scope.Answers (trimBlanks inner) := by
    intro inner hmem
    exact h inner (source_infix_of_mem_scan hmem)
  rw [resolveChars, fill_of_not_answers hslots, flatMap_source_scan]

theorem resolveText_of_inert {template : String} (h : scope.Inert template.toList) :
    scope.resolveText supply template = (template, supply) := by
  rw [resolveText, resolveChars_of_inert h]
  dsimp only
  rw [String.ofList_toList]

/-! ## Fields -/

/-- An inert template does not stand for a stored value. -/
theorem storedValue?_of_inert {template : List Char} (h : scope.Inert template) :
    scope.storedValue? template = none := by
  unfold storedValue?
  cases hslot : wholeSlot? template with
  | none => rfl
  | some name =>
      obtain ⟨inner, rfl, -, -, rfl⟩ := wholeSlot?_eq_some_iff.1 hslot
      have hname := h inner List.infix_rfl
      unfold Answers at hname
      rw [Option.bind_some]
      split
      · next var href =>
          rw [href] at hname
          exact Option.not_isSome_iff_eq_none.1 hname
      · rfl

/-- An inert string of a body stays as it is: since its text has not changed, it is not read as a
number either. -/
theorem resolveField_of_inert {field : String} (h : scope.Inert field.toList) :
    scope.resolveField supply field = (.str field, supply) := by
  rw [resolveField, storedValue?_of_inert h]
  simp [resolveChars_of_inert h]

/-! ## Trees -/

/-- Exchanging the values of entries for themselves changes nothing. -/
theorem map_entries_id (fields : Fields Value) :
    (fields.map fun entry => (entry.1, id entry.2)) = fields :=
  List.map_id' fields

theorem resolveValue_of_inert {v : Value} (h : ∀ s, .str s ∈ v.leaves → scope.Inert s.toList)
    (supply : Nat) : scope.resolveValue supply v = (v, supply) := by
  induction v using Value.treeInduction generalizing supply with
  | leaf v hv =>
      cases v with
      | str s => rw [resolveValue, resolveField_of_inert (h s List.mem_cons_self)]
      | list items => exact absurd hv id
      | map fields => exact absurd hv id
      | null | bool _ | int _ | uint _ | float _ => rw [resolveValue] <;> simp
  | list items ih =>
      have heach : ∀ v ∈ items, ∀ supply, scope.resolveValue supply v = (id v, supply) := by
        intro v hv supply
        exact ih v hv (fun s hs => h s (Value.mem_leaves_list.2 ⟨v, hv, hs⟩)) supply
      rw [resolveValue, resolveItems_of_each heach, List.map_id]
  | map fields ih =>
      have heach : ∀ entry ∈ fields, ∀ supply,
          scope.resolveValue supply entry.2 = (id entry.2, supply) := by
        intro entry hentry supply
        exact ih entry hentry (fun s hs => h s (Value.mem_leaves_map.2 ⟨entry, hentry, hs⟩)) supply
      rw [resolveValue, resolveFields_of_each heach, map_entries_id]

theorem resolveOperand_of_inert {v : Value} (h : ∀ s, .str s ∈ v.leaves → scope.Inert s.toList)
    (supply : Nat) : scope.resolveOperand supply v = (v, supply) := by
  induction v using Value.treeInduction generalizing supply with
  | leaf v hv =>
      cases v with
      | str s => rw [resolveOperand, resolveText_of_inert (h s List.mem_cons_self)]
      | list items => exact absurd hv id
      | map fields => exact absurd hv id
      | null | bool _ | int _ | uint _ | float _ => rw [resolveOperand] <;> simp
  | list items ih =>
      have heach : ∀ v ∈ items, ∀ supply, scope.resolveOperand supply v = (id v, supply) := by
        intro v hv supply
        exact ih v hv (fun s hs => h s (Value.mem_leaves_list.2 ⟨v, hv, hs⟩)) supply
      rw [resolveOperand, resolveOperandItems_of_each heach, List.map_id]
  | map fields ih =>
      have heach : ∀ entry ∈ fields, ∀ supply,
          scope.resolveOperand supply entry.2 = (id entry.2, supply) := by
        intro entry hentry supply
        exact ih entry hentry (fun s hs => h s (Value.mem_leaves_map.2 ⟨entry, hentry, hs⟩)) supply
      rw [resolveOperand, resolveOperandFields_of_each heach, map_entries_id]

/-- **Text that resolves to nothing is left exactly as it is written**: an inert template, and a value
whose strings are inert, with all of its keys and its other leaves. Nothing is taken from the supply
of identifiers. -/
theorem inert_text_kept (scope : Scope) (supply : Nat) :
    (∀ template : String, scope.Inert template.toList →
      scope.resolveText supply template = (template, supply)) ∧
    ∀ v : Value, (∀ s, .str s ∈ v.leaves → scope.Inert s.toList) →
      scope.resolveValue supply v = (v, supply) ∧ scope.resolveOperand supply v = (v, supply) := by
  constructor
  · intro template h
    exact resolveText_of_inert h
  · intro v h
    exact ⟨resolveValue_of_inert h supply, resolveOperand_of_inert h supply⟩

/-- A scope with one variable and one environment variable. -/
def sparseScope : Scope :=
  ⟨[("id", .int 7)], fun name => if name = "HOME" then some "/" else none⟩

/-- A body with strings that are nearly slots; only a key is a slot of a stored variable. -/
def nearlySlots : Value :=
  .map [("ids", .list [.str "\x7b\x7b\x7bid\x7d \x7d\x7bid\x7d\x7d", .int 7, .null]),
    ("\x7b\x7bid\x7d\x7d",
      .map [("é", .str "\x7b\x7benv.PATH\x7d\x7d \x7b\x7b ID \x7d\x7d\x7d \x7b\x7b")])]

theorem nearlySlots_kept :
    (∀ s, .str s ∈ nearlySlots.leaves → sparseScope.Inert s.toList) ∧
      sparseScope.resolveText 3 "\x7b\x7b\x7bid\x7d \x7d\x7bid\x7d\x7d" =
        ("\x7b\x7b\x7bid\x7d \x7d\x7bid\x7d\x7d", 3) ∧
      sparseScope.resolveValue 3 nearlySlots = (nearlySlots, 3) ∧
      sparseScope.resolveOperand 3 nearlySlots = (nearlySlots, 3) := by
  have hleaves : ∀ s, .str s ∈ nearlySlots.leaves → sparseScope.Inert s.toList := by
    intro s hs
    simp only [nearlySlots, Value.leaves, Value.leavesOfItems, Value.leavesOfFields, List.nil_append,
      List.append_nil, List.cons_append, List.mem_cons, Value.str.injEq, reduceCtorEq, false_or,
      List.not_mem_nil, or_false] at hs
    rcases hs with rfl | rfl
    · decide +kernel
    · decide +kernel
  obtain ⟨htexts, htrees⟩ := inert_text_kept sparseScope 3
  exact ⟨hleaves, htexts _ (by decide +kernel), htrees _ hleaves⟩

end ScenarioRunner.Scope

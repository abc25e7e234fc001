import ScenarioRunner.Proofs.Json.Scalar
import ScenarioRunner.Proofs.Value.Fields

/-!
# Elements are read one by one

The elements of a container stand between commas, with white space around them or without. A reader
that finds each element in its bytes finds all of them (`itemsFrom_elements`,
`entriesFrom_elements`): items in their order, and entries in key order, since each one is put among
those before it. What stands for an element is up to the one who writes it.
-/

set_option autoImplicit false

namespace ScenarioRunner.Json

theorem skipSpace_cons {b : UInt8} {rest : Bytes} (h : isSpace b = false) :
    skipSpace (b :: rest) = b :: rest := by
  simp [skipSpace, h]

/-- The bytes of the elements behind the first one, each behind a comma. -/
def further {α : Type} (written : α → Bytes) : List α → Bytes
  | [] => []
  | a :: rest => 0x2C :: (written a ++ further written rest)

/-- A reader of items finds a value behind the white space in front of some bytes. -/
def FindsItem (item : Bytes → Except Fault (Value × Bytes)) (bytes : Bytes) (v : Value) : Prop :=
  ∀ rest, Delimited rest → ∃ b tail, skipSpace (bytes ++ rest) = b :: tail ∧ b ≠ 0x5D ∧
    item (b :: tail) = .ok (v, rest)

/-- A reader of items finds an entry behind the white space in front of some bytes. -/
def FindsEntry (item : Bytes → Except Fault (Value × Bytes)) (bytes : Bytes)
    (entry : String × Value) : Prop :=
  ∀ rest, Delimited rest → ∃ tail after, skipSpace (bytes ++ rest) = 0x22 :: tail ∧
    string tail = .ok (entry.1, after) ∧ entryValue item after = .ok (entry.2, rest)

section Elements

variable {α : Type} {written : α → Bytes} {item : Bytes → Except Fault (Value × Bytes)}
  {elements : List α} {closing rest : Bytes} {fuel : Nat}

/-- Every further element takes at least its comma. -/
theorem length_further (written : α → Bytes) (elements : List α) :
    elements.length ≤ (further written elements).length := by
  induction elements with
  | nil => exact Nat.le_refl 0
  | cons a elements ih =>
      simp only [further, List.length_cons, List.length_append]
      omega

/-- An element ends before the further ones and before the end of its container. -/
theorem delimited_further (elements : List α) (hclosing : Delimited closing) :
    Delimited (further written elements ++ closing) := by
  cases elements with
  | nil => exact hclosing
  | cons a elements => exact .inl rfl

/-! ## Lists -/

section Items

variable {given : α → Value}

/-- Further items are read up to the end of the list. -/
theorem itemsFrom_further (hitems : ∀ a ∈ elements, FindsItem item (written a) (given a))
    (hclosing : Delimited closing) (hclose : skipSpace closing = 0x5D :: rest)
    (hfuel : elements.length < fuel) :
    itemsFrom item fuel false (further written elements ++ closing) =
      .ok (elements.map given, rest) := by
  induction elements generalizing fuel with
  | nil =>
      obtain ⟨fuel, rfl⟩ := Nat.exists_eq_add_one_of_ne_zero (Nat.ne_zero_of_lt hfuel)
      rw [further, List.nil_append, itemsFrom, hclose]
      rfl
  | cons a elements ih =>
      obtain ⟨fuel, rfl⟩ := Nat.exists_eq_add_one_of_ne_zero (Nat.ne_zero_of_lt hfuel)
      obtain ⟨b, tail, hskip, hend, hitem⟩ :=
        hitems a List.mem_cons_self _ (delimited_further elements hclosing)
      have hrest := ih (fun a ha => hitems a (List.mem_cons_of_mem _ ha))
        (Nat.lt_of_succ_lt_succ hfuel)
      rw [further, List.cons_append, List.append_assoc, itemsFrom, skipSpace_cons rfl]
      dsimp only
      rw [if_neg (by decide), if_neg (by decide), if_pos rfl, hskip]
      dsimp only
      rw [if_neg hend, hitem]
      simp only [bind, Except.bind, hrest, List.map_cons]

/-- **Items that are found one by one are read as a list.** -/
theorem itemsFrom_elements {a : α}
    (hitems : ∀ a' ∈ a :: elements, FindsItem item (written a') (given a'))
    (hclosing : Delimited closing) (hclose : skipSpace closing = 0x5D :: rest)
    (hfuel : elements.length + 1 < fuel) :
    itemsFrom item fuel true (written a ++ (further written elements ++ closing)) =
      .ok ((a :: elements).map given, rest) := by
  obtain ⟨fuel, rfl⟩ := Nat.exists_eq_add_one_of_ne_zero (Nat.ne_zero_of_lt hfuel)
  obtain ⟨hfirst, hothers⟩ := List.forall_mem_cons.1 hitems
  obtain ⟨b, tail, hskip, hend, hitem⟩ := hfirst _ (delimited_further elements hclosing)
  have hrest := itemsFrom_further hothers hclosing hclose (Nat.lt_of_succ_lt_succ hfuel)
  rw [itemsFrom, hskip]
  dsimp only
  rw [if_neg hend, if_pos rfl, hitem]
  simp only [bind, Except.bind, hrest, List.map_cons]

end Items

/-! ## Objects -/

section Entries

variable {given : α → String × Value}

/-- Further entries are read up to the end of the object, and put among those before them. -/
theorem entriesFrom_further (hentries : ∀ a ∈ elements, FindsEntry item (written a) (given a))
    (found : Fields Value) (hclosing : Delimited closing) (hclose : skipSpace closing = 0x7D :: rest)
    (hfuel : elements.length < fuel) :
    entriesFrom item fuel false found (further written elements ++ closing) =
      .ok (Fields.insertAll (elements.map given) found, rest) := by
  induction elements generalizing fuel found with
  | nil =>
      obtain ⟨fuel, rfl⟩ := Nat.exists_eq_add_one_of_ne_zero (Nat.ne_zero_of_lt hfuel)
      rw [further, List.nil_append, entriesFrom, hclose]
      rfl
  | cons a elements ih =>
      obtain ⟨fuel, rfl⟩ := Nat.exists_eq_add_one_of_ne_zero (Nat.ne_zero_of_lt hfuel)
      obtain ⟨tail, after, hskip, hkey, hvalue⟩ :=
        hentries a List.mem_cons_self _ (delimited_further elements hclosing)
      have hrest := ih (fun a ha => hentries a (List.mem_cons_of_mem _ ha))
        (Fields.insert (given a).1 (given a).2 found) (Nat.lt_of_succ_lt_succ hfuel)
      rw [further, List.cons_append, List.append_assoc, entriesFrom, skipSpace_cons rfl]
      dsimp only
      rw [if_neg (by decide), if_neg (by decide), if_pos rfl, hskip]
      dsimp only
      rw [if_pos rfl, hkey]
      simp only [bind, Except.bind, hvalue, hrest]
      rfl

/-- **Entries that are found one by one are read as an object.** -/
theorem entriesFrom_elements {a : α}
    (hentries : ∀ a' ∈ a :: elements, FindsEntry item (written a') (given a'))
    (hclosing : Delimited closing) (hclose : skipSpace closing = 0x7D :: rest)
    (hfuel : elements.length + 1 < fuel) :
    entriesFrom item fuel true [] (written a ++ (further written elements ++ closing)) =
      .ok (Fields.ofList ((a :: elements).map given), rest) := by
  obtain ⟨fuel, rfl⟩ := Nat.exists_eq_add_one_of_ne_zero (Nat.ne_zero_of_lt hfuel)
  obtain ⟨hfirst, hothers⟩ := List.forall_mem_cons.1 hentries
  obtain ⟨tail, after, hskip, hkey, hvalue⟩ := hfirst _ (delimited_further elements hclosing)
  have hrest := entriesFrom_further hothers (Fields.insert (given a).1 (given a).2 []) hclosing
    hclose (Nat.lt_of_succ_lt_succ hfuel)
  rw [entriesFrom, hskip]
  dsimp only
  rw [if_neg (by decide), if_pos rfl, if_pos rfl, hkey]
  simp only [bind, Except.bind, hvalue, hrest]
  rfl

end Entries

end Elements

end ScenarioRunner.Json

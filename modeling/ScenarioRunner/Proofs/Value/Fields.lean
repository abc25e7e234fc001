import ScenarioRunner.Value.Fields

/-!
# Putting entries into fields

An entry that is put into some fields is found under its key and hides nothing else. Of several
entries that are put in one after another, the last one of a key is found.
-/

set_option autoImplicit false

namespace ScenarioRunner.Fields

variable {α : Type}

/-- Puts entries in, one after another. -/
def insertAll (entries : List (String × α)) (fields : Fields α) : Fields α :=
  entries.foldl (fun fields entry => insert entry.1 entry.2 fields) fields

theorem insertAll_append (first second : List (String × α)) (fields : Fields α) :
    insertAll (first ++ second) fields = insertAll second (insertAll first fields) :=
  List.foldl_append

/-- A key is found at the first entry or behind it. -/
theorem lookup_cons_eq_ite (key : String) (value : α) (rest : List (String × α)) (name : String) :
    List.lookup name ((key, value) :: rest) =
      if name = key then some value else rest.lookup name := by
  rw [List.lookup_cons]
  by_cases hname : name = key
  · simp [hname]
  · simp [hname, beq_false_of_ne hname]

/-- What is found under a key is there. -/
theorem mem_of_get? {fields : Fields α} {key : String} {value : α}
    (h : get? fields key = some value) : (key, value) ∈ fields := by
  obtain ⟨before, behind, rfl, -⟩ := List.lookup_eq_some_iff.1 h
  exact List.mem_append_right before List.mem_cons_self

/-- Exchanging the values changes what is found, and under which keys nothing. -/
theorem get?_map {β : Type} (f : α → β) (fields : Fields α) (key : String) :
    get? (fields.map fun entry => (entry.1, f entry.2)) key = (get? fields key).map f := by
  induction fields with
  | nil => rfl
  | cons entry rest ih =>
      obtain ⟨k, v⟩ := entry
      unfold get? at ih ⊢
      rw [List.map_cons, lookup_cons_eq_ite, lookup_cons_eq_ite, ih]
      split <;> rfl

/-- In key order, an entry is found under its key exactly when it is there. -/
theorem get?_eq_some_iff {fields : Fields α} (h : fields.Ordered) {key : String} {value : α} :
    get? fields key = some value ↔ (key, value) ∈ fields := by
  induction fields with
  | nil => simp [get?]
  | cons entry rest ih =>
      obtain ⟨k, v⟩ := entry
      obtain ⟨hfirst, hrest⟩ := List.pairwise_cons.1 h
      unfold get? at ih ⊢
      rw [lookup_cons_eq_ite, List.mem_cons, ← ih hrest]
      by_cases hkey : key = k
      · subst hkey
        -- the keys behind the first are greater, so none of them hides a second entry of it
        have hnone : rest.lookup key ≠ some value := by
          intro hfound
          exact String.lt_irrefl key (hfirst _ ((ih hrest).1 hfound))
        simp [hnone, eq_comm]
      · simp [hkey]

/-- An entry whose key is greater than all others is put at the end. -/
theorem insert_of_greater {key : String} {value : α} {fields : Fields α}
    (h : ∀ entry ∈ fields, entry.1 < key) : insert key value fields = fields ++ [(key, value)] := by
  induction fields with
  | nil => rfl
  | cons entry rest ih =>
      obtain ⟨k, v⟩ := entry
      have hlt : k < key := h (k, v) List.mem_cons_self
      have hne : key ≠ k := by
        rintro rfl
        exact String.lt_irrefl _ hlt
      rw [insert, if_neg (String.lt_asymm hlt), if_neg hne,
        ih fun entry hentry => h entry (List.mem_cons_of_mem _ hentry)]
      rfl

/-- Entries in key order, all behind those that are there, are put at the end. -/
theorem insertAll_of_ordered {entries fields : Fields α} (h : Ordered (fields ++ entries)) :
    insertAll entries fields = fields ++ entries := by
  induction entries generalizing fields with
  | nil => rw [List.append_nil]; rfl
  | cons entry rest ih =>
      have hbehind : insert entry.1 entry.2 fields = fields ++ [entry] :=
        insert_of_greater fun other hother =>
          (List.pairwise_append.1 h).2.2 other hother entry List.mem_cons_self
      change insertAll rest (insert entry.1 entry.2 fields) = _
      rw [hbehind, ih (by rwa [List.append_assoc]), List.append_assoc]
      rfl

/-- Entries in key order stay as they are when they are collected. -/
theorem ofList_of_ordered {entries : Fields α} (h : entries.Ordered) : ofList entries = entries :=
  insertAll_of_ordered h

/-- No other entry comes in with the one that is put in. -/
theorem mem_insert {key : String} {value : α} {fields : Fields α} {entry : String × α}
    (h : entry ∈ insert key value fields) : entry = (key, value) ∨ entry ∈ fields := by
  induction fields with
  | nil => exact .inl (List.mem_singleton.1 h)
  | cons first rest ih =>
      rw [insert] at h
      split at h
      · exact List.mem_cons.1 h
      · split at h
        · rcases List.mem_cons.1 h with hfirst | hrest
          · exact .inl hfirst
          · exact .inr (List.mem_cons_of_mem _ hrest)
        · rcases List.mem_cons.1 h with hfirst | hrest
          · exact .inr (hfirst ▸ List.mem_cons_self)
          · exact (ih hrest).imp_right (List.mem_cons_of_mem _)

/-- No other entries come in with those that are put in. -/
theorem mem_insertAll {entries : List (String × α)} {fields : Fields α} {entry : String × α}
    (h : entry ∈ insertAll entries fields) : entry ∈ entries ∨ entry ∈ fields := by
  induction entries generalizing fields with
  | nil => exact .inr h
  | cons first rest ih =>
      rcases ih h with hrest | hothers
      · exact .inl (List.mem_cons_of_mem _ hrest)
      · rcases mem_insert hothers with rfl | hmem
        · exact .inl List.mem_cons_self
        · exact .inr hmem

/-- Putting an entry in keeps the key order. -/
theorem ordered_insert {key : String} {value : α} {fields : Fields α} (h : fields.Ordered) :
    Ordered (insert key value fields) := by
  induction fields with
  | nil => exact List.pairwise_singleton _ _
  | cons first rest ih =>
      obtain ⟨hfirst, hrest⟩ := List.pairwise_cons.1 h
      rw [insert]
      split
      · next hlt =>
          refine List.pairwise_cons.2 ⟨fun entry hentry => ?_, h⟩
          rcases List.mem_cons.1 hentry with rfl | hmem
          · exact hlt
          · exact String.lt_trans hlt (hfirst entry hmem)
      · next hlt =>
          split
          · next hkey =>
              subst hkey
              exact List.pairwise_cons.2 ⟨hfirst, hrest⟩
          · next hkey =>
              -- the key is greater than the first one, and what follows was greater before
              refine List.pairwise_cons.2 ⟨fun entry hentry => ?_, ih hrest⟩
              rcases mem_insert hentry with rfl | hmem
              · exact Std.lt_of_le_of_ne (String.not_lt.1 hlt) (Ne.symm hkey)
              · exact hfirst entry hmem

/-- Only the entry of the key is another one after it has been put in. -/
theorem get?_insert (key : String) (value : α) (fields : Fields α) (name : String) :
    get? (insert key value fields) name =
      if name = key then some value else get? fields name := by
  induction fields with
  | nil => exact lookup_cons_eq_ite key value [] name
  | cons entry rest ih =>
      obtain ⟨k, v⟩ := entry
      unfold get? at ih ⊢
      rw [insert]
      by_cases hlt : key < k
      · rw [if_pos hlt, lookup_cons_eq_ite]
      · rw [if_neg hlt]
        by_cases hkey : key = k
        · -- the entry of the key is there already, and gives its place to the new one
          subst hkey
          rw [if_pos rfl, lookup_cons_eq_ite, lookup_cons_eq_ite]
          by_cases hname : name = key
          · rw [if_pos hname, if_pos hname]
          · rw [if_neg hname, if_neg hname, if_neg hname]
        · rw [if_neg hkey, lookup_cons_eq_ite, lookup_cons_eq_ite, ih]
          by_cases hname : name = k
          · subst hname
            rw [if_pos rfl, if_neg (Ne.symm hkey), if_pos rfl]
          · rw [if_neg hname, if_neg hname]

/-- Of the entries that are put in, the last one of a key is found. -/
theorem get?_insertAll (entries : List (String × α)) (fields : Fields α) (name : String) :
    get? (insertAll entries fields) name =
      (entries.reverse.lookup name).or (get? fields name) := by
  induction entries generalizing fields with
  | nil => rfl
  | cons entry rest ih =>
      obtain ⟨key, value⟩ := entry
      change get? (insertAll rest (insert key value fields)) name = _
      rw [ih, get?_insert, List.reverse_cons, List.lookup_append]
      -- the entries behind this one come first in the reversed list, so they hide it
      rw [lookup_cons_eq_ite, Option.or_assoc]
      by_cases hname : name = key
      · rw [if_pos hname, if_pos hname, Option.some_or]
      · rw [if_neg hname, if_neg hname]
        rfl

/-- Of entries that are collected, the last one of a key is found. -/
theorem get?_ofList (entries : List (String × α)) (name : String) :
    get? (ofList entries) name = entries.reverse.lookup name :=
  (get?_insertAll entries [] name).trans Option.or_none

/-- An entry is found that is put in, if all others of its key have its value. -/
theorem get?_insertAll_of_mem {entries : List (String × α)} {name : String} {value : α}
    (hmem : (name, value) ∈ entries) (hunique : ∀ w, (name, w) ∈ entries → w = value)
    (fields : Fields α) : get? (insertAll entries fields) name = some value := by
  rw [get?_insertAll]
  cases hfound : entries.reverse.lookup name with
  | none =>
      have hne := List.lookup_eq_none_iff.1 hfound _ (List.mem_reverse.2 hmem)
      simp at hne
  | some w =>
      rw [hunique w (List.mem_reverse.1 (mem_of_get? hfound)), Option.some_or]

/-- Under a name of which nothing is put in, the same is found as before. -/
theorem get?_insertAll_of_not_mem {entries : List (String × α)} {name : String}
    (h : ∀ w, (name, w) ∉ entries) (fields : Fields α) :
    get? (insertAll entries fields) name = get? fields name := by
  rw [get?_insertAll]
  cases hfound : entries.reverse.lookup name with
  | none => exact Option.none_or
  | some w => exact absurd (List.mem_reverse.1 (mem_of_get? hfound)) (h w)

end ScenarioRunner.Fields

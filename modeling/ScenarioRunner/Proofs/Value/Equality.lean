import Mathlib.Data.List.Sort
import ScenarioRunner.Proofs.Value.Fields
import ScenarioRunner.Value.Equality

/-!
# Equality across kinds is symmetric

`Value.same` does not depend on the order of its arguments (`same_comm`). Two maps in key order are
equal exactly when they have equally many entries and every entry of the first has an equal one under
its key in the second (`same_map_iff`), so no entry of the second is left over. Hence it is enough to
go through the keys of either map (`sameByKey`, `same_symmetric`).
-/

set_option autoImplicit false

namespace ScenarioRunner

/-! ## Numbers -/

/-- Comparing the other way round gives the opposite order. -/
theorem Binary64.compare?_swap (x y : Binary64) :
    y.compare? x = (x.compare? y).map Ordering.swap := by
  unfold compare?
  rw [Bool.or_comm]
  split
  · rfl
  · rw [Option.map_some, ← Std.OrientedCmp.eq_swap]

theorem Binary64.sameNumber_comm (x y : Binary64) : x.sameNumber y = y.sameNumber x := by
  unfold sameNumber
  rw [compare?_swap x y]
  rcases x.compare? y with - | order
  · rfl
  · cases order <;> rfl

theorem Number.same_comm (a b : Number) : a.same b = b.same a := by
  unfold same
  cases a.integer? with
  | none =>
      cases b.integer? with
      | none => exact Binary64.sameNumber_comm _ _
      | some n => rfl
  | some m =>
      cases b.integer? with
      | none => rfl
      | some n => exact BEq.comm

namespace Value

/-! ## Values of different kinds -/

theorem sameAcrossKinds_comm (a b : Value) : a.sameAcrossKinds b = b.sameAcrossKinds a := by
  unfold sameAcrossKinds
  cases a.number? with
  | none => cases b.number? <;> exact BEq.comm
  | some x =>
      cases b.number? with
      | none => exact BEq.comm
      | some y => exact Number.same_comm x y

theorem isNull_iff {a : Value} : a.isNull = true ↔ a = null := by
  cases a <;> simp [isNull]

/-- Nothing but `null` equals `null`. -/
theorem same_null (a : Value) : a.same null = a.isNull := by
  cases a <;> rfl

/-- Values of different kinds are compared as numbers or as texts. -/
theorem same_of_kind_ne {a b : Value} (hkind : a.kind ≠ b.kind) (ha : a.isNull = false)
    (hb : b.isNull = false) : a.same b = a.sameAcrossKinds b := by
  cases a <;> cases b <;> simp_all [kind, isNull, same]

/-- What is no number is compared with values of other kinds by text. -/
theorem same_iff_textChars {a b : Value} (hkind : a.kind ≠ b.kind) (ha : a.isNull = false)
    (hb : b.isNull = false) (hnone : a.number? = none ∨ b.number? = none) :
    a.same b = true ↔ a.textChars = b.textChars := by
  have htext : a.sameAcrossKinds b = (a.text == b.text) := by
    unfold sameAcrossKinds
    rcases hnone with hnone | hnone
    · rw [hnone]
    · rw [hnone]
      cases a.number? <;> rfl
  rw [same_of_kind_ne hkind ha hb, htext, beq_iff_eq, text_eq, text_eq, String.ofList_inj]

theorem same_comm_of_kind_ne {a b : Value} (hkind : a.kind ≠ b.kind) : a.same b = b.same a := by
  cases ha : a.isNull with
  | true =>
      rw [isNull_iff.1 ha, same_null]
      rfl
  | false =>
      cases hb : b.isNull with
      | true =>
          rw [isNull_iff.1 hb, same_null]
          rfl
      | false =>
          rw [same_of_kind_ne hkind ha hb, same_of_kind_ne hkind.symm hb ha]
          exact sameAcrossKinds_comm a b

/-! ## Containers -/

/-- Lists are compared symmetrically if their items are. -/
theorem sameItems_comm {as : List Value} (h : ∀ a ∈ as, ∀ b, a.same b = b.same a)
    (bs : List Value) : sameItems as bs = sameItems bs as := by
  induction as generalizing bs with
  | nil => cases bs <;> rfl
  | cons a as ih =>
      cases bs with
      | nil => rfl
      | cons b bs =>
          rw [sameItems, sameItems, h a List.mem_cons_self b]
          rw [ih (fun a ha => h a (List.mem_cons_of_mem _ ha)) bs]

/-- Maps are compared symmetrically if the values of their entries are. -/
theorem sameFields_comm {as : Fields Value}
    (h : ∀ entry ∈ as, ∀ b, entry.2.same b = b.same entry.2) (bs : Fields Value) :
    sameFields as bs = sameFields bs as := by
  induction as generalizing bs with
  | nil => cases bs <;> rfl
  | cons entry as ih =>
      obtain ⟨k, a⟩ := entry
      cases bs with
      | nil => rfl
      | cons entry bs =>
          obtain ⟨l, b⟩ := entry
          rw [sameFields, sameFields, h (k, a) List.mem_cons_self b, BEq.comm]
          rw [ih (fun entry hentry => h entry (List.mem_cons_of_mem _ hentry)) bs]

/-- The value of an entry is smaller than all the entries together. -/
theorem sizeOf_entry_lt {entry : String × Value} {fields : Fields Value} (h : entry ∈ fields) :
    sizeOf entry.2 < sizeOf fields := by
  have hentry : sizeOf entry = 1 + sizeOf entry.1 + sizeOf entry.2 := rfl
  have hfields := List.sizeOf_lt_of_mem h
  omega

/-- Equality does not depend on the order of its arguments. The recursion is on the first one; in
containers it goes to their items and to the values of their entries. -/
theorem same_comm (a b : Value) : a.same b = b.same a := by
  cases a <;> cases b
  case list.list as bs => exact sameItems_comm (fun a _ b => same_comm a b) bs
  case map.map as bs =>
    refine sameFields_comm (fun entry hentry b => ?_) bs
    have hsmaller := sizeOf_entry_lt hentry
    exact same_comm entry.2 b
  case float.float x y => exact Binary64.sameNumber_comm x y
  case null.null => rfl
  case bool.bool => exact BEq.comm
  case int.int => exact BEq.comm
  case uint.uint => exact BEq.comm
  case str.str => exact BEq.comm
  -- what is left are two values of different kinds
  all_goals exact same_comm_of_kind_ne (by simp [kind])
termination_by a

/-! ## Maps by key -/

/-- Whether two maps have equally many entries, and each entry of the first has an equal one under its
key in the second. -/
def sameByKey (as bs : Fields Value) : Bool :=
  as.length == bs.length && as.all fun entry => (Fields.get? bs entry.1).any entry.2.same

/-- Maps are equal if they have equal values under equal keys, entry by entry. -/
theorem sameFields_iff_forall₂ {as bs : Fields Value} :
    sameFields as bs = true ↔
      List.Forall₂ (fun x y => x.1 = y.1 ∧ x.2.same y.2 = true) as bs := by
  induction as generalizing bs with
  | nil => cases bs <;> simp [sameFields]
  | cons entry as ih =>
      obtain ⟨k, a⟩ := entry
      cases bs with
      | nil => simp [sameFields]
      | cons entry bs => simp [sameFields, ih]

/-- Of two maps with equally many entries, the second has no other keys than the first if it has
all of them. -/
theorem keys_eq_of_subset {as bs : Fields Value} (has : as.Ordered) (hbs : bs.Ordered)
    (hlength : as.length = bs.length) (hkeys : as.map Prod.fst ⊆ bs.map Prod.fst) :
    as.map Prod.fst = bs.map Prod.fst := by
  have hsorted : ∀ {fields : Fields Value}, fields.Ordered →
      (fields.map Prod.fst).Pairwise (· < ·) := fun h => List.pairwise_map.2 h
  have hnodup : (as.map Prod.fst).Nodup := (hsorted has).imp fun hlt heq => by
    subst heq
    exact String.lt_irrefl _ hlt
  have hperm : (as.map Prod.fst).Perm (bs.map Prod.fst) :=
    (List.subperm_of_subset hnodup hkeys).perm_of_length_le (by simp [hlength])
  exact hperm.eq_of_pairwise (fun _ _ _ _ h h' => absurd h' (String.lt_asymm h)) (hsorted has)
    (hsorted hbs)

/-- **Two maps are equal when every entry of the first has an equal one in the second** and none of
the second is left over. -/
theorem same_map_iff {as bs : Fields Value} (has : as.Ordered) (hbs : bs.Ordered) :
    (map as).same (map bs) = true ↔
      as.length = bs.length ∧
        ∀ entry ∈ as, ∃ b, Fields.get? bs entry.1 = some b ∧ entry.2.same b = true := by
  change sameFields as bs = true ↔ _
  rw [sameFields_iff_forall₂]
  constructor
  · intro h
    refine ⟨h.length_eq, fun entry hentry => ?_⟩
    obtain ⟨i, hi, rfl⟩ := List.getElem_of_mem hentry
    have hi' : i < bs.length := h.length_eq ▸ hi
    obtain ⟨hkey, hsame⟩ := h.get hi hi'
    refine ⟨bs[i].2, (Fields.get?_eq_some_iff hbs).2 ?_, hsame⟩
    rw [show as[i].1 = bs[i].1 from hkey]
    exact List.getElem_mem hi'
  · rintro ⟨hlength, hfound⟩
    have hkeys := keys_eq_of_subset has hbs hlength (by
      intro key hkey
      obtain ⟨entry, hentry, rfl⟩ := List.mem_map.1 hkey
      obtain ⟨b, hb, -⟩ := hfound entry hentry
      exact List.mem_map.2 ⟨(entry.1, b), (Fields.get?_eq_some_iff hbs).1 hb, rfl⟩)
    refine List.forall₂_iff_get.2 ⟨hlength, fun i hi hi' => ?_⟩
    have hkey : as[i].1 = bs[i].1 := by
      have h := congrArg (·[i]?) hkeys
      simpa [hi, hi'] using h
    obtain ⟨b, hb, hsame⟩ := hfound as[i] (List.getElem_mem hi)
    have hfirst : Fields.get? bs bs[i].1 = some bs[i].2 :=
      (Fields.get?_eq_some_iff hbs).2 (List.getElem_mem hi')
    rw [hkey, hfirst] at hb
    cases hb
    exact ⟨hkey, hsame⟩

/-- To compare maps in key order is to go through the keys of the first one. -/
theorem same_map_eq_sameByKey {as bs : Fields Value} (has : as.Ordered) (hbs : bs.Ordered) :
    (map as).same (map bs) = sameByKey as bs := by
  rw [Bool.eq_iff_iff, same_map_iff has hbs]
  simp only [sameByKey, Bool.and_eq_true, beq_iff_eq, List.all_eq_true, Option.any_eq_true]

/-- **Equality is symmetric**, whatever the kinds of the two values and however they nest. Maps in key
order are equal when each entry of the first has an equal one under its key in the second and there
are equally many of them; and this is so whichever of the two maps comes first. -/
theorem same_symmetric :
    (∀ a b : Value, a.same b = b.same a) ∧
      ∀ as bs : Fields Value, as.Ordered → bs.Ordered →
        (map as).same (map bs) = sameByKey as bs ∧ sameByKey as bs = sameByKey bs as := by
  refine ⟨same_comm, fun as bs has hbs => ?_⟩
  have hkeys := same_map_eq_sameByKey has hbs
  refine ⟨hkeys, ?_⟩
  rw [← hkeys, ← same_map_eq_sameByKey hbs has, same_comm]

/-- A map with one entry is not equal to a map with a further one, though the entry has an equal one
there, and the numbers in them are of different kinds. -/
theorem longer_map_differs :
    let short : Fields Value := [("id", int 7)]
    let long : Fields Value := [("id", str "7.0"), ("tags", list [])]
    short.Ordered ∧ long.Ordered ∧ (int 7).same (str "7.0") = true ∧
      (map short).same (map long) = false ∧ (map long).same (map short) = false := by
  intro short long
  have hshort : short.Ordered := List.pairwise_singleton _ _
  have hlong : long.Ordered := List.pairwise_pair.2 (by decide)
  obtain ⟨hkeys, hswap⟩ := same_symmetric.2 short long hshort hlong
  have hfalse : sameByKey short long = false := rfl
  refine ⟨hshort, hlong, by decide +kernel, hkeys.trans hfalse, ?_⟩
  rw [same_symmetric.1, hkeys, hfalse]

end Value

end ScenarioRunner

import ScenarioRunner.Proofs.Json.Normal
import ScenarioRunner.Proofs.Value.Place

/-!
# What the reader gives

`Gives` says of a reader what holds of all that it gives; the parts of the reader are taken in the
order in which they call each other. A property that passes from the parts of a value to the whole
(`BuildsUp`) holds of every value that is read (`gives_value`). So every value that the reader gives
is normal: entries are put in their places one by one, so the keys of a map are ascending, and a
whole number gets the signed form where that can hold it. And it nests no deeper than the reader
goes.
-/

set_option autoImplicit false

namespace ScenarioRunner

namespace Value

/-- A leaf; if it is an integer, in the form in which a reader gives it. -/
structure NarrowLeaf (v : Value) : Prop where
  isLeaf : v.IsLeaf
  narrow : v.narrowed = v

theorem NarrowLeaf.normal {v : Value} (h : v.NarrowLeaf) : v.Normal :=
  ⟨h.isLeaf.canonical, h.isLeaf.forall_mem_leaves.2 h.narrow⟩

theorem narrowLeaf_float (x : Binary64) : (float x).NarrowLeaf := ⟨trivial, rfl⟩

theorem narrowLeaf_ofUInt64 (n : UInt64) : (ofUInt64 n).NarrowLeaf := by
  rw [ofUInt64]
  split
  · exact ⟨trivial, rfl⟩
  · next hbound => exact ⟨trivial, if_neg hbound⟩

theorem normal_list_iff {items : List Value} : (list items).Normal ↔ ∀ v ∈ items, v.Normal := by
  constructor
  · rintro ⟨hcanonical, hnarrow⟩ v hv
    exact ⟨canonical_list_iff.1 hcanonical v hv, forall_mem_leaves_list.1 hnarrow v hv⟩
  · intro h
    exact ⟨canonical_list_iff.2 fun v hv => (h v hv).canonical,
      forall_mem_leaves_list.2 fun v hv => (h v hv).narrow⟩

theorem normal_map_iff {fields : Fields Value} :
    (map fields).Normal ↔ fields.Ordered ∧ ∀ entry ∈ fields, entry.2.Normal := by
  constructor
  · rintro ⟨hcanonical, hnarrow⟩
    rw [canonical_map_iff] at hcanonical
    exact ⟨hcanonical.1, fun entry hentry =>
      ⟨hcanonical.2 entry hentry, forall_mem_leaves_map.1 hnarrow entry hentry⟩⟩
  · rintro ⟨hordered, h⟩
    exact ⟨canonical_map_iff.2 ⟨hordered, fun entry hentry => (h entry hentry).canonical⟩,
      forall_mem_leaves_map.2 fun entry hentry => (h entry hentry).narrow⟩

theorem normal_empty : (map []).Normal :=
  normal_map_iff.2 ⟨List.Pairwise.nil, fun _ hentry => absurd hentry List.not_mem_nil⟩

/-- A normal value is put in a normal map without harm. -/
theorem normal_insert (key : String) {v : Value} (hv : v.Normal) {fields : Fields Value}
    (h : (map fields).Normal) : (map (Fields.insert key v fields)).Normal := by
  obtain ⟨hordered, hfields⟩ := normal_map_iff.1 h
  apply normal_map_iff.2
  constructor
  · exact Fields.ordered_insert hordered
  · intro entry hentry
    rcases Fields.mem_insert hentry with rfl | hmem
    · exact hv
    · exact hfields entry hmem

end Value

namespace Json

open Value

/-- All that a reader gives has a property. -/
def Gives {α : Type} (p : α → Prop) (result : Except Fault (α × Bytes)) : Prop :=
  ∀ a rest, result = .ok (a, rest) → p a

section Gives

variable {α β : Type} {p : α → Prop} {q : β → Prop}

theorem gives_ok {a : α} (h : p a) (rest : Bytes) : Gives p (.ok (a, rest)) := by
  intro b _ heq
  cases heq
  exact h

theorem gives_error (fault : Fault) : Gives p (.error fault) := by
  intro a rest heq
  cases heq

theorem Gives.bind {result : Except Fault (α × Bytes)} (h : Gives p result)
    {next : α × Bytes → Except Fault (β × Bytes)} (hnext : ∀ a rest, p a → Gives q (next (a, rest))) :
    Gives q (result >>= next) := by
  cases result with
  | error fault => exact gives_error fault
  | ok found => exact hnext found.1 found.2 (h found.1 found.2 rfl)

theorem Gives.imp {q : α → Prop} {result : Except Fault (α × Bytes)} (h : Gives p result)
    (himp : ∀ a, p a → q a) : Gives q result := fun a rest heq => himp a (h a rest heq)

theorem Gives.ite {c : Prop} [Decidable c] {first second : Except Fault (α × Bytes)}
    (hfirst : Gives p first) (hsecond : Gives p second) :
    Gives p (if c then first else second) := by
  split
  · exact hfirst
  · exact hsecond

end Gives

/-! ## Numbers and words -/

theorem gives_floatValue (negative : Bool) (significand : Nat) (exponent : Int) (rest : Bytes) :
    Gives NarrowLeaf (floatValue negative significand exponent rest) := by
  unfold floatValue
  split
  · exact gives_ok (narrowLeaf_float _) _
  · exact gives_error _

theorem gives_exponentDigits (negative : Bool) (significand : Nat) (start : Int) (downward : Bool)
    (e : Nat) (bytes : Bytes) :
    Gives NarrowLeaf (exponentDigits negative significand start downward e bytes) := by
  fun_induction exponentDigits negative significand start downward e bytes with
  | case1 e b rest hdigit next hnext ih => exact ih
  | case2 e b rest hdigit next hnext hgreat => exact gives_error _
  | case3 e b rest hdigit next hnext hsmall => exact gives_ok (narrowLeaf_float _) _
  | case4 e b rest hdigit => exact gives_floatValue _ _ _ _
  | case5 e => exact gives_floatValue _ _ _ _

theorem gives_exponent (negative : Bool) (significand : Nat) (start : Int) (bytes : Bytes) :
    Gives NarrowLeaf (exponent negative significand start bytes) := by
  unfold exponent
  split
  split
  · exact gives_error _
  · exact .ite (gives_exponentDigits _ _ _ _ _ _) (gives_error _)

theorem gives_finish (negative : Bool) (significand : Nat) (start : Int) (bytes : Bytes) :
    Gives NarrowLeaf (finish negative significand start bytes) := by
  unfold finish
  split
  · exact gives_exponent _ _ _ _
  · exact gives_exponent _ _ _ _
  · exact gives_floatValue _ _ _ _

theorem gives_fractionDigits (negative : Bool) (significand : Nat) (start : Int) (none : Bool)
    (bytes : Bytes) : Gives NarrowLeaf (fractionDigits negative significand start none bytes) := by
  fun_induction fractionDigits negative significand start none bytes with
  | case1 significand start none b rest hdigit next hnext ih => exact ih
  | case2 significand start none b rest hdigit next hnext => exact gives_finish _ _ _ _
  | case3 significand start b rest hdigit => exact gives_error _
  | case4 significand start none b rest hdigit hsome => exact gives_finish _ _ _ _
  | case5 significand start => exact gives_error _
  | case6 significand start none hsome => exact gives_finish _ _ _ _

theorem gives_longDigits (negative : Bool) (significand dropped : Nat) (bytes : Bytes) :
    Gives NarrowLeaf (longDigits negative significand dropped bytes) := by
  fun_induction longDigits negative significand dropped bytes with
  | case1 dropped b rest hdigit ih => exact ih
  | case2 dropped rest hdigit => exact gives_fractionDigits _ _ _ _ _
  | case3 dropped b rest hdigit hpoint => exact gives_finish _ _ _ _
  | case4 dropped => exact gives_finish _ _ _ _

/-- A whole number has the form that can hold it. -/
theorem narrowLeaf_wholeValue (negative : Bool) (n : Nat) : (wholeValue negative n).NarrowLeaf := by
  unfold wholeValue
  split
  · exact narrowLeaf_ofUInt64 _
  · split
    · exact narrowLeaf_float _
    · exact ⟨trivial, rfl⟩

theorem gives_afterWhole (negative : Bool) (significand : Nat) (bytes : Bytes) :
    Gives NarrowLeaf (afterWhole negative significand bytes) := by
  unfold afterWhole
  split
  · exact gives_fractionDigits _ _ _ _ _
  · exact gives_exponent _ _ _ _
  · exact gives_exponent _ _ _ _
  · exact gives_ok (narrowLeaf_wholeValue _ _) _

theorem gives_wholeDigits (negative : Bool) (significand : Nat) (bytes : Bytes) :
    Gives NarrowLeaf (wholeDigits negative significand bytes) := by
  fun_induction wholeDigits negative significand bytes with
  | case1 significand b rest hdigit next hnext ih => exact ih
  | case2 significand b rest hdigit next hnext => exact gives_longDigits _ _ _ _
  | case3 significand b rest hdigit => exact gives_afterWhole _ _ _
  | case4 significand => exact gives_afterWhole _ _ _

theorem gives_number (negative : Bool) (bytes : Bytes) : Gives NarrowLeaf (number negative bytes) := by
  unfold number
  split
  · exact gives_error _
  · refine .ite ?_ (.ite (gives_wholeDigits _ _ _) (gives_error _))
    split
    · exact .ite (gives_error _) (gives_afterWhole _ _ _)
    · exact gives_afterWhole _ _ _

theorem gives_word {v : Value} (h : v.NarrowLeaf) (expected bytes : Bytes) :
    Gives NarrowLeaf (word v expected bytes) := by
  fun_induction word v expected bytes with
  | case1 bytes => exact gives_ok h _
  | case2 => exact gives_error _
  | case3 expected b rest ih => exact ih
  | case4 => exact gives_error _

/-! ## Containers -/

section Containers

variable {item : Bytes → Except Fault (Value × Bytes)} {p : Value → Prop}

theorem gives_itemsFrom (hitem : ∀ bytes, Gives p (item bytes)) (fuel : Nat) (first : Bool)
    (bytes : Bytes) : Gives (fun items => ∀ v ∈ items, p v) (itemsFrom item fuel first bytes) := by
  induction fuel generalizing first bytes with
  | zero => exact gives_error _
  | succ fuel ih =>
      unfold itemsFrom
      extract_lets more
      -- at the first item and behind a comma the list goes on in the same way
      have hmore : ∀ bytes, Gives (fun items => ∀ v ∈ items, p v) (more bytes) := by
        intro bytes
        refine (hitem bytes).bind fun v rest hv => ?_
        refine (ih false rest).bind fun items rest hitems => ?_
        exact gives_ok (List.forall_mem_cons.2 ⟨hv, hitems⟩) _
      split
      · exact gives_error _
      · refine .ite (gives_ok (fun _ hv => absurd hv List.not_mem_nil) _) (.ite (hmore _) ?_)
        refine .ite ?_ (gives_error _)
        split
        · exact gives_error _
        · exact .ite (gives_error _) (hmore _)

theorem gives_entryValue (hitem : ∀ bytes, Gives p (item bytes)) (bytes : Bytes) :
    Gives p (entryValue item bytes) := by
  unfold entryValue
  split
  · exact gives_error _
  · exact .ite (hitem _) (gives_error _)

/-- Entries are put in their places among those that have been read. -/
theorem gives_entriesFrom {q : Fields Value → Prop} (hitem : ∀ bytes, Gives p (item bytes))
    (hinsert : ∀ key v fields, p v → q fields → q (Fields.insert key v fields)) (fuel : Nat)
    (first : Bool) {found : Fields Value} (hfound : q found) (bytes : Bytes) :
    Gives q (entriesFrom item fuel first found bytes) := by
  induction fuel generalizing first found bytes with
  | zero => exact gives_error _
  | succ fuel ih =>
      unfold entriesFrom
      extract_lets more
      have hmore : ∀ bytes, Gives q (more bytes) := by
        intro bytes
        -- nothing has to be known of the key: its entry is put where it belongs
        have hstring : Gives (fun _ => True) (string bytes) := fun _ _ _ => trivial
        refine hstring.bind fun key rest _ => ?_
        refine (gives_entryValue hitem rest).bind fun v rest hv => ?_
        exact ih false (hinsert key v found hv hfound) rest
      split
      · exact gives_error _
      · refine .ite (fun _ _ heq => by cases heq; exact hfound) (.ite ?_ ?_)
        · exact .ite (hmore _) (gives_error _)
        · refine .ite ?_ (gives_error _)
          split
          · exact gives_error _
          · exact .ite (hmore _) (.ite (gives_error _) (gives_error _))

end Containers

/-! ## Values -/

/-- A property of values that passes from the parts to the whole as a reader puts them together. It
may depend on how deep the reader goes. -/
structure BuildsUp (p : Nat → Value → Prop) : Prop where
  leaf : ∀ {depth v}, v.NarrowLeaf → p depth v
  list : ∀ {depth items}, (∀ v ∈ items, p depth v) → p (depth + 1) (.list items)
  empty : ∀ {depth}, p (depth + 1) (.map [])
  insert : ∀ {depth v fields} (key : String), p depth v → p (depth + 1) (.map fields) →
    p (depth + 1) (.map (Fields.insert key v fields))

section Values

variable {p : Nat → Value → Prop}

/-- A value that is read has a property that builds up, if those one level below have it. -/
theorem gives_value_of (hp : BuildsUp p) {depth : Nat}
    (hbelow : ∀ d, depth = d + 1 → ∀ bytes, Gives (p d) (value d bytes)) (bytes : Bytes) :
    Gives (p depth) (value depth bytes) := by
  have hstring : ∀ bytes, Gives (fun _ => True) (string bytes) := fun _ _ _ _ => trivial
  have hstr : ∀ s, (str s).NarrowLeaf := fun s => ⟨trivial, rfl⟩
  have hword : ∀ v, v.NarrowLeaf → ∀ expected bytes, Gives (p depth) (word v expected bytes) :=
    fun v hv expected bytes => (gives_word hv expected bytes).imp fun _ => hp.leaf
  have hnumber : ∀ negative bytes, Gives (p depth) (number negative bytes) :=
    fun negative bytes => (gives_number negative bytes).imp fun _ => hp.leaf
  rw [value]
  split
  · exact gives_error _
  · refine .ite (hword .null ⟨trivial, rfl⟩ _ _) ?_
    refine .ite (hword (.bool true) ⟨trivial, rfl⟩ _ _) ?_
    refine .ite (hword (.bool false) ⟨trivial, rfl⟩ _ _) ?_
    refine .ite (hnumber _ _) ?_
    refine .ite (hnumber _ _) ?_
    refine .ite ((hstring _).bind fun s _ _ => gives_ok (hp.leaf (hstr s)) _) ?_
    -- only containers are read with the levels below, and at depth zero they are refused
    refine .ite ?_ (.ite ?_ (gives_error _))
    · cases depth with
      | zero => exact gives_error _
      | succ d =>
          refine (gives_itemsFrom (hbelow d rfl) _ _ _).bind fun items _ hitems => ?_
          exact gives_ok (hp.list hitems) _
    · cases depth with
      | zero => exact gives_error _
      | succ d =>
          have hinsert : ∀ key v fields, p d v → p (d + 1) (.map fields) →
              p (d + 1) (.map (Fields.insert key v fields)) := fun key _ _ => hp.insert key
          refine (gives_entriesFrom (hbelow d rfl) hinsert _ _ hp.empty _).bind
            fun fields _ hfields => ?_
          exact gives_ok hfields _

/-- **Every value that is read has each property that builds up.** -/
theorem gives_value (hp : BuildsUp p) (depth : Nat) (bytes : Bytes) :
    Gives (p depth) (value depth bytes) := by
  induction depth generalizing bytes with
  | zero => exact gives_value_of hp (fun d hd => absurd hd (Nat.succ_ne_zero d).symm) bytes
  | succ depth ih =>
      refine gives_value_of hp (fun d hd => ?_) bytes
      obtain rfl := Nat.succ.inj hd
      exact ih

theorem of_read (hp : BuildsUp p) {bytes : Bytes} {depth : Nat} {v : Value}
    (h : read bytes depth = .ok v) : p depth v := by
  unfold read at h
  cases hvalue : value depth bytes with
  | error fault =>
      rw [hvalue] at h
      cases h
  | ok found =>
      have hfound := gives_value hp depth bytes found.1 found.2 hvalue
      simp only [hvalue, bind, Except.bind] at h
      split at h
      · cases h
        exact hfound
      · cases h

end Values

theorem buildsUp_normal : BuildsUp fun _ v => v.Normal where
  leaf h := h.normal
  list := normal_list_iff.2
  empty := normal_empty
  insert key hv hfields := normal_insert key hv hfields

theorem buildsUp_nesting : BuildsUp fun depth v => v.nesting ≤ depth where
  leaf h := by rw [h.isLeaf.nesting_eq]; exact Nat.zero_le _
  list h := nesting_list_le_iff.2 h
  empty := nesting_map_le_iff.2 fun _ hentry => absurd hentry List.not_mem_nil
  insert key hv hfields := by
    refine nesting_map_le_iff.2 fun entry hentry => ?_
    rcases Fields.mem_insert hentry with rfl | hmem
    · exact hv
    · exact nesting_map_le_iff.1 hfields entry hmem

/-- **Every value that is read is normal.** -/
theorem normal_of_read {bytes : Bytes} {depth : Nat} {v : Value} (h : read bytes depth = .ok v) :
    v.Normal := of_read buildsUp_normal h

/-- **Containers in a value that is read nest no deeper than the reader goes.** -/
theorem nesting_le_of_read {bytes : Bytes} {depth : Nat} {v : Value} (h : read bytes depth = .ok v) :
    v.nesting ≤ depth := of_read buildsUp_nesting h

end Json

/-! ## Bodies and their parts -/

/-- **A body that is decoded is normal.** -/
theorem normal_of_decodeBody {body : Bytes} {v : Value} (h : decodeBody body = .ok v) : v.Normal := by
  unfold decodeBody at h
  split at h
  · cases h
    exact Value.normal_empty
  · split at h
    · cases h
    · next hread =>
        cases h
        exact Json.normal_of_read hread
    · cases h

/-- What a path leads to in a normal value is normal. -/
theorem Value.Normal.lookup? {v w : Value} (h : v.Normal) {path : String}
    (hfound : v.lookup? path = some w) : w.Normal := by
  obtain ⟨place, hplace⟩ := exists_place_of_lookup? hfound
  exact ⟨canonical_of_at? h.canonical hplace,
    fun leaf hleaf => h.narrow leaf (leaves_subset_of_at? hplace hleaf)⟩

end ScenarioRunner

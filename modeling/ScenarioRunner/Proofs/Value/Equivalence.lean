import ScenarioRunner.Proofs.Value.Leaves
import ScenarioRunner.Proofs.Value.NumericForm
import ScenarioRunner.Proofs.Value.NumericText

/-!
# Equality as an equivalence relation

`Value.same` is reflexive on all values without NaN inside, and an equivalence relation on those of them
that have no strings inside either (`same_equivalence`). There it compares what the values denote
(`content`): numbers of whatever kind by their exact values, the infinities included, and lists and maps
entry by entry. The comparison by text, which is left for values of other kinds, never finds two of them
equal, since the first character of a text tells what is written (`exists_cons_textChars`).
-/

set_option autoImplicit false

namespace ScenarioRunner

open Binary64 (unitsPerOne)

/-! ## Numbers and infinities -/

namespace Number

/-- Whether a number is no NaN. -/
def NotNaN : Number → Prop
  | float x => x.isNaN = false
  | _ => True

variable {a b : Number}

/-- A number is finite or an infinity. -/
theorem NotNaN.finite_or_infinite (ha : a.NotNaN) :
    a.Finite ∨ ∃ x, a = float x ∧ x.isFinite = false := by
  cases a with
  | int n => exact .inl trivial
  | uint n => exact .inl trivial
  | float x =>
      cases hx : x.isFinite with
      | true => exact .inl hx
      | false => exact .inr ⟨x, rfl, hx⟩

/-- A finite number lies between the infinities. -/
theorem natAbs_units_lt (ha : a.Finite) : a.units.natAbs < Binary64.infiniteMagnitude := by
  rcases a.float_or_integer with ⟨x, rfl⟩ | ⟨n, hn, -, hunits, -⟩
  · change x.units.natAbs < _
    rw [Binary64.natAbs_units]
    exact Binary64.lt_infiniteMagnitude (Binary64.representable_magnitude ha)
  · rw [hunits, Int.natAbs_mul, Int.natAbs_natCast]
    exact Nat.lt_of_le_of_lt (Nat.mul_le_mul_right _ hn)
      (Binary64.lt_infiniteMagnitude Binary64.representable_two_pow_64)

end Number

namespace Value

open Number (NotNaN)

section Numbers

variable {a b : Number} {x y : Binary64}

/-- Floats that are no NaN are equal when their values are. -/
theorem same_float_iff (hx : x.isNaN = false) (hy : y.isNaN = false) :
    (float x).same (float y) = true ↔ x.units = y.units := by
  simp [same, Binary64.sameNumber, Binary64.compare?, hx, hy]

/-- No letter stands in the text of an integer, while one stands in that of an infinity. -/
theorem same_infinity_integer {v : Value} {n : Int} (hx : x.isFinite = false)
    (hkind : (float x).kind ≠ v.kind) (hnull : v.isNull = false)
    (htext : v.textChars = Json.integer n) : (float x).same v = false := by
  obtain ⟨c, hc, hdigit, hminus⟩ := Binary64.exists_letter_of_not_isFinite hx
  have hnone : (float x).number? = none := by simp [number?, hx]
  rw [← Bool.not_eq_true, same_iff_textChars hkind rfl hnull (.inl hnone), htext]
  intro heq
  change x.text = Json.integer n at heq
  rw [heq] at hc
  rw [isDigit_of_mem_integer hc hminus] at hdigit
  cases hdigit

/-- An infinity equals the numbers of its value only. -/
theorem same_infinity_iff (hx : x.isFinite = false) (hnan : x.isNaN = false) (hb : b.NotNaN) :
    (float x).same (ofNumber b) = true ↔ x.units = b.units := by
  have hdiffers : ∀ {c : Number}, c.Finite → x.units ≠ c.units := by
    intro c hc hunits
    have hle := Binary64.infiniteMagnitude_le hx
    have hlt := Number.natAbs_units_lt hc
    rw [← hunits, Binary64.natAbs_units] at hlt
    omega
  cases b with
  | float y => exact same_float_iff hnan hb
  | int n =>
      rw [ofNumber, same_infinity_integer hx (by simp [kind]) rfl rfl]
      exact iff_of_false (by simp) (hdiffers (c := .int n) trivial)
  | uint n =>
      rw [ofNumber, same_infinity_integer hx (by simp [kind]) rfl rfl]
      exact iff_of_false (by simp) (hdiffers (c := .uint n) trivial)

/-- **Numbers of whatever kind are equal when their values are**, the infinities included. -/
theorem same_ofNumber_iff_units (ha : a.NotNaN) (hb : b.NotNaN) :
    (ofNumber a).same (ofNumber b) = true ↔ a.units = b.units := by
  rcases ha.finite_or_infinite with hfinite | ⟨x, rfl, hx⟩
  · rcases hb.finite_or_infinite with hfinite' | ⟨y, rfl, hy⟩
    · exact same_ofNumber_iff hfinite hfinite'
    · rw [same_comm, @eq_comm _ a.units]
      exact same_infinity_iff hy hb ha
  · exact same_infinity_iff hx ha hb

end Numbers

/-! ## What a value denotes -/

/-- What a value denotes, without what is inside a list or a map. -/
inductive Content where
  | null
  | truth (b : Bool)
  | number (units : Int)
  | text (s : String)
  | list
  | map

/-- What a value denotes. -/
def content : Value → Content
  | null => .null
  | bool b => .truth b
  | int n => .number (Number.int n).units
  | uint n => .number (Number.uint n).units
  | float x => .number x.units
  | str s => .text s
  | list _ => .list
  | map _ => .map

namespace Content

/-- What is denoted, with the value of a number left out. -/
def outline : Content → Content
  | number _ => number 0
  | k => k

/-- What the first character of a text tells of the value that is written. -/
def ofOpening (c : Char) : Content :=
  if c = 't' then truth true
  else if c = 'f' then truth false
  else if c = '[' then list
  else if c = '\x7b' then map
  else number 0

theorem eq_of_outline_eq {k l : Content} (h : k.outline = l.outline) :
    k = l ∨ ∃ m n, k = number m ∧ l = number n := by
  cases k <;> cases l <;> simp_all [outline]

/-- A number begins with a character of literals, or with the first letter of an infinity. -/
theorem ofOpening_of_isLiteralChar {c : Char} (h : Number.isLiteralChar c = true ∨ c = 'i') :
    ofOpening c = number 0 := by
  have hnone : ∀ {d : Char}, Number.isLiteralChar d = false → d ≠ 'i' → c ≠ d := by
    rintro d hchar hletter rfl
    rw [hchar] at h
    exact h.elim Bool.false_ne_true hletter
  have ht : c ≠ 't' := hnone (by decide) (by decide)
  have hf : c ≠ 'f' := hnone (by decide) (by decide)
  have hlist : c ≠ '[' := hnone (by decide) (by decide)
  have hmap : c ≠ '\x7b' := hnone (by decide) (by decide)
  simp [ofOpening, ht, hf, hlist, hmap]

end Content

/-- Whether a value is no string and no NaN. -/
def Plain : Value → Prop
  | str _ => False
  | float x => x.isNaN = false
  | _ => True

section Content

variable {a b : Number} {v w : Value}

theorem plain_ofNumber_iff : (ofNumber a).Plain ↔ a.NotNaN := by
  cases a <;> exact Iff.rfl

theorem content_ofNumber (a : Number) : (ofNumber a).content = .number a.units := by
  cases a <;> rfl

/-- A value that denotes a number is one. -/
theorem exists_ofNumber_of_content {m : Int} (h : v.content = .number m) :
    ∃ a, v = ofNumber a ∧ a.units = m := by
  cases v with
  | int n =>
      cases h
      exact ⟨.int n, rfl, rfl⟩
  | uint n =>
      cases h
      exact ⟨.uint n, rfl, rfl⟩
  | float x =>
      cases h
      exact ⟨.float x, rfl, rfl⟩
  | null | bool _ | str _ | list _ | map _ => cases h

/-- The text of a number begins with a character of literals, or with the first letter of an
infinity. -/
theorem exists_cons_textChars_ofNumber (ha : a.NotNaN) :
    ∃ c rest, (ofNumber a).textChars = c :: rest ∧
      (Number.isLiteralChar c = true ∨ c = 'i') := by
  rcases ha.finite_or_infinite with hfinite | ⟨x, rfl, hx⟩
  · -- a finite number is read back, so its text is a literal
    have hread : ∃ b, Number.ofLiteral? (ofNumber a).textChars = some b := by
      cases a with
      | int n =>
          have hlow := n.le_toInt
          have hhigh := n.toInt_lt
          obtain ⟨b, hb, -⟩ := Number.ofLiteral?_integer (n := n.toInt)
            (by unfold signedBound; omega) (by unfold unsignedBound; omega)
          exact ⟨b, hb⟩
      | uint n =>
          have hhigh := n.toNat_lt
          obtain ⟨b, hb, -⟩ := Number.ofLiteral?_integer (n := n.toNat)
            (by unfold signedBound; omega) (by unfold unsignedBound; omega)
          exact ⟨b, hb⟩
      | float x =>
          obtain ⟨b, hb, -⟩ := Binary64.ofLiteral?_text hfinite
          exact ⟨b, hb⟩
    obtain ⟨b, hread⟩ := hread
    cases htext : (ofNumber a).textChars with
    | nil =>
        rw [htext] at hread
        cases hread
    | cons c rest =>
        rw [htext] at hread
        exact ⟨c, rest, rfl, .inl (Number.isLiteralChar_of_ofLiteral? hread c List.mem_cons_self)⟩
  · have hnan : x.isNaN = false := ha
    have hwhole := Binary64.toInt64?_of_not_isFinite hx
    change ∃ c rest, x.text = c :: rest ∧ _
    unfold Binary64.text
    rw [hnan, hwhole, hx]
    cases x.negative with
    | false => exact ⟨'i', _, rfl, .inr rfl⟩
    | true => exact ⟨'-', _, rfl, .inl (by decide)⟩

/-- The first character of the text of a value tells what it denotes, but for the value of a
number. -/
theorem exists_cons_textChars (hv : v.Plain) (hnull : v ≠ null) :
    ∃ c rest, v.textChars = c :: rest ∧ v.content.outline = Content.ofOpening c := by
  have hnumber : ∀ {a : Number}, (ofNumber a).Plain →
      ∃ c rest, (ofNumber a).textChars = c :: rest ∧
        (ofNumber a).content.outline = Content.ofOpening c := by
    intro a ha
    obtain ⟨c, rest, htext, hopening⟩ := exists_cons_textChars_ofNumber (plain_ofNumber_iff.1 ha)
    refine ⟨c, rest, htext, ?_⟩
    rw [content_ofNumber, Content.ofOpening_of_isLiteralChar hopening]
    rfl
  cases v with
  | null => exact absurd rfl hnull
  | str s => exact absurd hv id
  | int n => exact hnumber (a := .int n) hv
  | uint n => exact hnumber (a := .uint n) hv
  | float x => exact hnumber (a := .float x) hv
  | bool b =>
      cases b with
      | false => exact ⟨'f', _, rfl, rfl⟩
      | true => exact ⟨'t', _, rfl, rfl⟩
  | list items => exact ⟨'[', _, rfl, rfl⟩
  | map fields => exact ⟨'\x7b', _, rfl, rfl⟩

/-- What is taken for a number and is no string is a number. -/
theorem exists_ofNumber_of_number? (hv : v.Plain) (h : v.number? ≠ none) :
    ∃ a, v = ofNumber a := by
  obtain ⟨a, ha⟩ := Option.ne_none_iff_exists'.1 h
  rcases eq_ofNumber_or_str ha with hnumber | ⟨s, rfl⟩
  · exact ⟨a, hnumber⟩
  · exact absurd hv id

/-- Values of different kinds that are not both numbers are equal by their texts only, and these tell
what is denoted. -/
theorem content_eq_of_kind_ne (hv : v.Plain) (hw : w.Plain) (hkind : v.kind ≠ w.kind)
    (hnumbers : ¬∃ a b, v = ofNumber a ∧ w = ofNumber b) (h : v.same w = true) :
    v.content = w.content := by
  have hnull : v.isNull = false := by
    rw [← Bool.not_eq_true]
    intro hnull
    obtain rfl := isNull_iff.1 hnull
    obtain rfl := isNull_iff.1 (show w.isNull = true from h)
    exact hkind rfl
  have hnull' : w.isNull = false := by
    rw [← Bool.not_eq_true]
    intro hnull'
    obtain rfl := isNull_iff.1 hnull'
    rw [same_null, hnull] at h
    cases h
  have hnone : v.number? = none ∨ w.number? = none := by
    by_contra hboth
    rw [not_or] at hboth
    obtain ⟨a, rfl⟩ := exists_ofNumber_of_number? hv hboth.1
    obtain ⟨b, rfl⟩ := exists_ofNumber_of_number? hw hboth.2
    exact hnumbers ⟨a, b, rfl, rfl⟩
  have htext := (same_iff_textChars hkind hnull hnull' hnone).1 h
  obtain ⟨c, rest, hcons, hopening⟩ := exists_cons_textChars hv (by rintro rfl; cases hnull)
  obtain ⟨c', rest', hcons', hopening'⟩ := exists_cons_textChars hw (by rintro rfl; cases hnull')
  rw [hcons, hcons'] at htext
  rw [← (List.cons.inj htext).1, ← hopening] at hopening'
  refine (Content.eq_of_outline_eq hopening'.symm).resolve_right ?_
  rintro ⟨m, n, hm, hn⟩
  obtain ⟨a, ha, -⟩ := exists_ofNumber_of_content hm
  obtain ⟨b, hb, -⟩ := exists_ofNumber_of_content hn
  exact hnumbers ⟨a, b, ha, hb⟩

/-- **Equal values denote the same.** -/
theorem content_eq_of_same (hv : v.Plain) (hw : w.Plain) (h : v.same w = true) :
    v.content = w.content := by
  by_cases hnumbers : ∃ a b, v = ofNumber a ∧ w = ofNumber b
  · obtain ⟨a, b, rfl, rfl⟩ := hnumbers
    rw [plain_ofNumber_iff] at hv hw
    rw [content_ofNumber, content_ofNumber, (same_ofNumber_iff_units hv hw).1 h]
  · by_cases hkind : v.kind = w.kind
    · cases v <;> cases w
      case null.null => rfl
      case bool.bool b b' => rw [content, content, beq_iff_eq.1 h]
      case int.int m n => exact absurd ⟨.int m, .int n, rfl, rfl⟩ hnumbers
      case uint.uint m n => exact absurd ⟨.uint m, .uint n, rfl, rfl⟩ hnumbers
      case float.float x y => exact absurd ⟨.float x, .float y, rfl, rfl⟩ hnumbers
      case str.str => exact absurd hv id
      case list.list => rfl
      case map.map => rfl
      all_goals simp [kind] at hkind
    · exact content_eq_of_kind_ne hv hw hkind hnumbers h

/-- Of values that are no containers, what they denote is all that equality looks at. -/
theorem IsLeaf.same_iff (hleaf : v.IsLeaf) (hv : v.Plain) (hw : w.Plain) :
    v.same w = true ↔ v.content = w.content := by
  refine ⟨content_eq_of_same hv hw, fun h => ?_⟩
  have hnumber : ∀ {a : Number}, (ofNumber a).Plain → (ofNumber a).content = w.content →
      (ofNumber a).same w = true := by
    intro a ha hcontent
    rw [content_ofNumber] at hcontent
    obtain ⟨b, rfl, hunits⟩ := exists_ofNumber_of_content hcontent.symm
    rw [plain_ofNumber_iff] at ha hw
    exact (same_ofNumber_iff_units ha hw).2 hunits.symm
  cases v with
  | null => cases w <;> simp_all [content, same, isNull]
  | bool b => cases w <;> simp_all [content, same]
  | int n => exact hnumber (a := .int n) hv h
  | uint n => exact hnumber (a := .uint n) hv h
  | float x => exact hnumber (a := .float x) hv h
  | str s => exact absurd hv id
  | list items => exact absurd hleaf id
  | map fields => exact absurd hleaf id

end Content

/-! ## Containers -/

/-- Lists are equal if their items are, one by one. -/
theorem sameItems_iff_forall₂ {as bs : List Value} :
    sameItems as bs = true ↔ List.Forall₂ (fun a b => a.same b = true) as bs := by
  induction as generalizing bs with
  | nil => cases bs <;> simp [sameItems]
  | cons a as ih => cases bs <;> simp [sameItems, ih]

theorem forall₂_trans {α : Type} {r : α → α → Prop} {as bs cs : List α}
    (h : ∀ a ∈ as, ∀ b ∈ bs, ∀ c ∈ cs, r a b → r b c → r a c) (hab : List.Forall₂ r as bs)
    (hbc : List.Forall₂ r bs cs) : List.Forall₂ r as cs := by
  induction hab generalizing cs with
  | nil => exact hbc
  | cons hfirst _ ih =>
      cases hbc with
      | cons hfirst' hrest' =>
          refine .cons ?_ (ih ?_ hrest')
          · exact h _ List.mem_cons_self _ List.mem_cons_self _ List.mem_cons_self hfirst hfirst'
          · intro a ha b hb c hc
            exact h a (List.mem_cons_of_mem _ ha) b (List.mem_cons_of_mem _ hb) c
              (List.mem_cons_of_mem _ hc)

section Trees

variable {v w u : Value}

/-- A value without NaN inside. -/
def NaNFree (v : Value) : Prop := ∀ x, .float x ∈ v.leaves → x.isNaN = false

/-- A value without strings inside. -/
def StringFree (v : Value) : Prop := ∀ s, .str s ∉ v.leaves

/-- The entries of a map in key order, without NaN and without strings inside. -/
def OrderedFree (fields : Fields Value) : Prop :=
  fields.Ordered ∧ (map fields).NaNFree ∧ (map fields).StringFree

theorem NaNFree.plain_of_mem_leaves (hv : v.NaNFree) (hstrings : v.StringFree) :
    ∀ leaf ∈ v.leaves, leaf.Plain := by
  intro leaf hleaf
  cases leaf with
  | str s => exact hstrings s hleaf
  | float x => exact hv x hleaf
  | null | bool _ | int _ | uint _ | list _ | map _ => trivial

/-- A value is plain if its leaves are. -/
theorem plain_of_forall_mem_leaves (h : ∀ leaf ∈ v.leaves, leaf.Plain) : v.Plain := by
  cases v with
  | list items => trivial
  | map fields => trivial
  | null | bool _ | int _ | uint _ | float _ | str _ => exact h _ List.mem_cons_self

/-- **Equality is reflexive** on values without NaN. -/
theorem same_refl (hv : v.NaNFree) : v.same v = true := by
  induction v using treeInduction with
  | leaf v hleaf =>
      cases v with
      | null => rfl
      | bool b => exact beq_self_eq_true b
      | int n => exact beq_self_eq_true n
      | uint n => exact beq_self_eq_true n
      | float x =>
          have hx := hv x List.mem_cons_self
          exact (same_float_iff hx hx).2 rfl
      | str s => exact beq_self_eq_true s
      | list items => exact absurd hleaf id
      | map fields => exact absurd hleaf id
  | list items ih =>
      change sameItems items items = true
      rw [sameItems_iff_forall₂, List.forall₂_same]
      exact fun v hitem => ih v hitem fun x hx => hv x (mem_leaves_list.2 ⟨v, hitem, hx⟩)
  | map fields ih =>
      change sameFields fields fields = true
      rw [sameFields_iff_forall₂, List.forall₂_same]
      exact fun entry hentry => ⟨rfl, ih entry hentry fun x hx =>
        hv x (mem_leaves_map.2 ⟨entry, hentry, hx⟩)⟩

/-- What equals a list is a list of equal items. -/
theorem exists_list_of_same {items : List Value} (hw : w.Plain) (h : (list items).same w = true) :
    ∃ items', w = list items' ∧ List.Forall₂ (fun a b => a.same b = true) items items' := by
  have hcontent := content_eq_of_same (v := list items) trivial hw h
  cases w with
  | list items' => exact ⟨items', rfl, sameItems_iff_forall₂.1 h⟩
  | _ => cases hcontent

/-- What equals a map is a map of the same keys with equal values. -/
theorem exists_map_of_same {fields : Fields Value} (hw : w.Plain)
    (h : (map fields).same w = true) :
    ∃ fields', w = map fields' ∧
      List.Forall₂ (fun a b => a.1 = b.1 ∧ a.2.same b.2 = true) fields fields' := by
  have hcontent := content_eq_of_same (v := map fields) trivial hw h
  cases w with
  | map fields' => exact ⟨fields', rfl, sameFields_iff_forall₂.1 h⟩
  | _ => cases hcontent

/-- **Equality is transitive** on values without strings and NaN. -/
theorem same_trans (hv : ∀ leaf ∈ v.leaves, leaf.Plain) (hw : ∀ leaf ∈ w.leaves, leaf.Plain)
    (hu : ∀ leaf ∈ u.leaves, leaf.Plain) (hvw : v.same w = true) (hwu : w.same u = true) :
    v.same u = true := by
  induction v using treeInduction generalizing w u with
  | leaf v hleaf =>
      have hplain := plain_of_forall_mem_leaves hv
      have hplain' := plain_of_forall_mem_leaves hw
      have hplain'' := plain_of_forall_mem_leaves hu
      rw [hleaf.same_iff hplain hplain'', content_eq_of_same hplain hplain' hvw]
      exact content_eq_of_same hplain' hplain'' hwu
  | list items ih =>
      obtain ⟨items', rfl, hitems⟩ := exists_list_of_same (plain_of_forall_mem_leaves hw) hvw
      obtain ⟨items'', rfl, hitems'⟩ := exists_list_of_same (plain_of_forall_mem_leaves hu) hwu
      rw [forall_mem_leaves_list] at hv hw hu
      refine sameItems_iff_forall₂.2 (forall₂_trans ?_ hitems hitems')
      intro a ha b hb c hc hab hbc
      exact ih a ha (hv a ha) (hw b hb) (hu c hc) hab hbc
  | map fields ih =>
      obtain ⟨fields', rfl, hfields⟩ := exists_map_of_same (plain_of_forall_mem_leaves hw) hvw
      obtain ⟨fields'', rfl, hfields'⟩ := exists_map_of_same (plain_of_forall_mem_leaves hu) hwu
      rw [forall_mem_leaves_map] at hv hw hu
      refine sameFields_iff_forall₂.2 (forall₂_trans ?_ hfields hfields')
      intro a ha b hb c hc hab hbc
      exact ⟨hab.1.trans hbc.1, ih a ha (hv a ha) (hw b hb) (hu c hc) hab.2 hbc.2⟩

/-- Equality is an equivalence relation on values without NaN and strings. -/
theorem equivalence_same :
    Equivalence fun v w : { v : Value // v.NaNFree ∧ v.StringFree } => v.1.same w.1 = true where
  refl v := same_refl v.2.1
  symm {v w} h := by rwa [same_comm]
  trans {v w u} hvw hwu :=
    same_trans (v.2.1.plain_of_mem_leaves v.2.2) (w.2.1.plain_of_mem_leaves w.2.2)
      (u.2.1.plain_of_mem_leaves u.2.2) hvw hwu

/-- **Equality is reflexive on all values without NaN, and an equivalence relation on those without
strings**, across the numeric kinds and inside lists and maps. So is the comparison of such maps by
the keys of the first one, which is what equality of maps comes to. -/
theorem same_equivalence :
    (∀ v : Value, v.NaNFree → v.same v = true) ∧
      (Equivalence fun v w : { v : Value // v.NaNFree ∧ v.StringFree } => v.1.same w.1 = true) ∧
      Equivalence fun as bs : { fields : Fields Value // OrderedFree fields } =>
        sameByKey as.1 bs.1 = true := by
  refine ⟨fun v hv => same_refl hv, equivalence_same, ?_⟩
  -- in key order, maps are compared by key as they are compared as values
  have hkeys : ∀ as bs : { fields : Fields Value // OrderedFree fields },
      sameByKey as.1 bs.1 = (map as.1).same (map bs.1) :=
    fun as bs => (same_map_eq_sameByKey as.2.1 bs.2.1).symm
  simp only [hkeys]
  exact equivalence_same.comap fun fields : { fields : Fields Value // OrderedFree fields } =>
    ⟨map fields.1, fields.2.2⟩

/-- A count beside an infinite limit. -/
def countWithLimit (count : Value) : Value :=
  .map [("counts", .list [count, .float ⟨0x7FF0000000000000⟩]), ("done", .bool false)]

/-- A signed count equals an unsigned one and this one a float, so the signed one equals the float; and a
value with a string equals itself. -/
theorem counts_equal_across_kinds :
    (countWithLimit (int 3)).same (countWithLimit (uint 3)) = true ∧
      (countWithLimit (uint 3)).same (countWithLimit (float ⟨0x4008000000000000⟩)) = true ∧
      (countWithLimit (int 3)).same (countWithLimit (float ⟨0x4008000000000000⟩)) = true ∧
      (countWithLimit (str "3")).same (countWithLimit (str "3")) = true := by
  have hleaves : ∀ count, (countWithLimit count).leaves =
      count.leaves ++ [float ⟨0x7FF0000000000000⟩, bool false] := by
    intro count
    simp [countWithLimit, leaves, leavesOfItems, leavesOfFields]
  have hnan : ∀ {count}, count.NaNFree → (countWithLimit count).NaNFree := by
    intro count hcount x hx
    rw [hleaves, List.mem_append, List.mem_pair] at hx
    rcases hx with hx | hx | hx
    · exact hcount x hx
    · cases hx
      decide
    · cases hx
  have hnumber : ∀ count : Value, count.NaNFree → count.StringFree →
      (countWithLimit count).NaNFree ∧ (countWithLimit count).StringFree := by
    intro count hcount hstrings
    refine ⟨hnan hcount, fun s hs => ?_⟩
    rw [hleaves, List.mem_append, List.mem_pair] at hs
    rcases hs with hs | hs | hs
    · exact hstrings s hs
    · cases hs
    · cases hs
  have hint := hnumber (int 3) (by simp [NaNFree, leaves]) (by simp [StringFree, leaves])
  have huint := hnumber (uint 3) (by simp [NaNFree, leaves]) (by simp [StringFree, leaves])
  have hfloat := hnumber (float ⟨0x4008000000000000⟩)
    (by simp only [NaNFree, leaves, List.mem_singleton, float.injEq, forall_eq]; decide)
    (by simp [StringFree, leaves])
  have hsigned : (countWithLimit (int 3)).same (countWithLimit (uint 3)) = true := by decide +kernel
  have hunsigned : (countWithLimit (uint 3)).same
      (countWithLimit (float ⟨0x4008000000000000⟩)) = true := by decide +kernel
  refine ⟨hsigned, hunsigned, ?_, ?_⟩
  · exact same_equivalence.2.1.trans (x := ⟨_, hint⟩) (y := ⟨_, huint⟩) (z := ⟨_, hfloat⟩) hsigned
      hunsigned
  · exact same_equivalence.1 _ (hnan (by simp [NaNFree, leaves]))

end Trees

end Value

end ScenarioRunner

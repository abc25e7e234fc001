import ScenarioRunner.Proofs.Decimal.Literal
import ScenarioRunner.Proofs.Value.Place
import Mathlib.Data.List.TakeWhile

/-!
# The grammar of paths

A path is cut at its points, and each part of it has to spell a segment: a key, an index in
brackets, or the one before the other. `Segment.Spells` and `Segment.SpellsPath` say so without the
parser, and the parser reads exactly what they allow (`parse?_eq_some_iff`). The segments of a path
are steps into a value, so what stands at the end of a path is what stands at a place
(`lookup?_eq_some_iff`), and each place has a path unless one of its keys cannot be written
(`lookup?_pathTo`).
-/

set_option autoImplicit false

namespace ScenarioRunner

namespace Segment

/-! ## The grammar of segments -/

/-- Decimal digits that write an index. -/
structure IsNumeral (digits : List Char) (i : Nat) : Prop where
  nonempty : digits ≠ []
  decimal : ∀ c ∈ digits, c.isDigit = true
  value : Nat.ofDigitChars 10 digits 0 = i
  bounded : i < 2 ^ 64

/-- The texts of an index: a numeral, behind a plus sign or not. -/
inductive SpellsIndex : List Char → Nat → Prop where
  | plain {digits : List Char} {i : Nat} (numeral : IsNumeral digits i) : SpellsIndex digits i
  | signed {digits : List Char} {i : Nat} (numeral : IsNumeral digits i) :
      SpellsIndex ('+' :: digits) i

/-- A key that a path can name. -/
structure IsKey (key : List Char) : Prop where
  nonempty : key ≠ []
  noPoint : '.' ∉ key
  noBracket : '[' ∉ key

/-- The texts of a segment. -/
inductive Spells : List Char → Segment → Prop where
  /-- A key. -/
  | key {key : List Char} (isKey : IsKey key) : Spells key ⟨key, none⟩
  /-- A key with an index behind it. -/
  | keyedItem {key text : List Char} {i : Nat} (isKey : IsKey key) (index : SpellsIndex text i) :
      Spells (key ++ '[' :: (text ++ [']'])) ⟨key, some i⟩
  /-- An index alone. -/
  | item {text : List Char} {i : Nat} (index : SpellsIndex text i) :
      Spells ('[' :: (text ++ [']'])) ⟨[], some i⟩

theorem isNumeral_iff {digits : List Char} {i : Nat} :
    IsNumeral digits i ↔ digits ≠ [] ∧ (∀ c ∈ digits, c.isDigit = true) ∧
      Literal.natOfDigits digits = i ∧ i < indexBound := by
  rw [Literal.natOfDigits_eq]
  constructor
  · intro h
    exact ⟨h.nonempty, h.decimal, h.value, h.bounded⟩
  · rintro ⟨hnonempty, hdecimal, hvalue, hbounded⟩
    exact ⟨hnonempty, hdecimal, hvalue, hbounded⟩

/-- No numeral starts with a sign. -/
theorem IsNumeral.ne_plus {digits rest : List Char} {i : Nat} (h : IsNumeral digits i) :
    digits ≠ '+' :: rest := by
  rintro rfl
  cases h.decimal '+' List.mem_cons_self

/-- What is read as an index is the text of one. -/
theorem index?_eq_some_iff {text : List Char} {i : Nat} :
    index? text = some i ↔ SpellsIndex text i := by
  have hread : ∀ digits : List Char,
      (if (!digits.isEmpty && digits.all Char.isDigit) = true then
        if Literal.natOfDigits digits < indexBound then some (Literal.natOfDigits digits) else none
      else none) = some i ↔ IsNumeral digits i := by
    intro digits
    rw [isNumeral_iff]
    simp only [Option.ite_none_right_eq_some, Bool.and_eq_true, Bool.not_eq_true',
      List.isEmpty_eq_false_iff, List.all_eq_true, Option.some.injEq, and_assoc]
    refine and_congr_right fun _ => and_congr_right fun _ => ?_
    exact ⟨fun h => ⟨h.2, h.2 ▸ h.1⟩, fun h => ⟨h.1 ▸ h.2, h.1⟩⟩
  unfold index?
  rw [hread]
  constructor
  · intro h
    split at h
    · exact .signed h
    · exact .plain h
  · intro h
    cases h with
    | plain numeral =>
        split
        · exact absurd rfl numeral.ne_plus
        · exact numeral
    | signed numeral => exact numeral

/-- A point stands in no index. -/
theorem SpellsIndex.noPoint {text : List Char} {i : Nat} (h : SpellsIndex text i) : '.' ∉ text := by
  have hnumeral : ∀ {digits : List Char}, IsNumeral digits i → '.' ∉ digits := by
    intro digits numeral hmem
    cases numeral.decimal '.' hmem
  cases h with
  | plain numeral => exact hnumeral numeral
  | signed numeral => simp [hnumeral numeral]

/-- A point stands in no segment. -/
theorem Spells.noPoint {text : List Char} {segment : Segment} (h : Spells text segment) :
    '.' ∉ text := by
  cases h with
  | key isKey => exact isKey.noPoint
  | keyedItem isKey index => simp [isKey.noPoint, index.noPoint]
  | item index => simp [index.noPoint]

/-- What stands behind an opening bracket is read as an index if a closing bracket ends it. -/
theorem closed_eq_some_iff {key rest : List Char} {segment : Segment} :
    (if rest.getLast? = some ']' then
        (index? rest.dropLast).map fun i => (⟨key, some i⟩ : Segment)
      else none) = some segment ↔
      ∃ text i, rest = text ++ [']'] ∧ SpellsIndex text i ∧ segment = ⟨key, some i⟩ := by
  constructor
  · intro h
    obtain ⟨hlast, hindex⟩ := Option.ite_none_right_eq_some.1 h
    obtain ⟨i, hi, rfl⟩ := Option.map_eq_some_iff.1 hindex
    exact ⟨rest.dropLast, i, (List.dropLast_append_getLast? _ hlast).symm, index?_eq_some_iff.1 hi,
      rfl⟩
  · rintro ⟨text, i, rfl, hindex, rfl⟩
    rw [List.getLast?_concat, if_pos rfl, List.dropLast_concat, index?_eq_some_iff.2 hindex]
    rfl

theorem ne_bracket_of_mem {text : List Char} (hbracket : '[' ∉ text) :
    ∀ c ∈ text, (c != '[') = true := by
  intro c hc
  rw [bne_iff_ne]
  rintro rfl
  exact hbracket hc

/-- A text with an opening bracket is cut at the first one. -/
theorem cut_at_bracket {key : List Char} (hbracket : '[' ∉ key) (rest : List Char) :
    (key ++ '[' :: rest).takeWhile (· != '[') = key ∧
      (key ++ '[' :: rest).dropWhile (· != '[') = '[' :: rest := by
  have hall := ne_bracket_of_mem hbracket
  rw [List.takeWhile_append_of_pos hall, List.dropWhile_append_of_pos hall]
  simp

/-- A segment with an opening bracket is an index in brackets, behind a key or not. -/
theorem spells_bracket_iff {key : List Char} (hpoint : '.' ∉ key) (hbracket : '[' ∉ key)
    {rest : List Char} {segment : Segment} :
    Spells (key ++ '[' :: rest) segment ↔
      ∃ text i, rest = text ++ [']'] ∧ SpellsIndex text i ∧ segment = ⟨key, some i⟩ := by
  -- both the key and the index are told from the place of the first opening bracket
  have hunique : ∀ {key' rest' : List Char}, '[' ∉ key' →
      key ++ '[' :: rest = key' ++ '[' :: rest' → key' = key ∧ rest' = rest := by
    intro key' rest' hbracket' heq
    have hcut := cut_at_bracket hbracket rest
    rw [heq, (cut_at_bracket hbracket' rest').1, (cut_at_bracket hbracket' rest').2] at hcut
    exact ⟨hcut.1, (List.cons.inj hcut.2).2⟩
  constructor
  · intro h
    generalize hwritten : key ++ '[' :: rest = written at h
    cases h with
    | key isKey =>
        rw [← hwritten] at isKey
        exact absurd (by simp) isKey.noBracket
    | keyedItem isKey index =>
        obtain ⟨rfl, rfl⟩ := hunique isKey.noBracket hwritten
        exact ⟨_, _, rfl, index, rfl⟩
    | item index =>
        obtain ⟨rfl, rfl⟩ := hunique (List.not_mem_nil) hwritten
        exact ⟨_, _, rfl, index, rfl⟩
  · rintro ⟨text, i, rfl, index, rfl⟩
    by_cases hkey : key = []
    · subst hkey
      exact .item index
    · exact .keyedItem ⟨hkey, hpoint, hbracket⟩ index

/-- A text without an opening bracket is a segment if it is not empty: a key. -/
theorem spells_key_iff {text : List Char} (hpoint : '.' ∉ text) (hbracket : '[' ∉ text)
    {segment : Segment} : Spells text segment ↔ text ≠ [] ∧ segment = ⟨text, none⟩ := by
  constructor
  · intro h
    cases h with
    | key isKey => exact ⟨isKey.nonempty, rfl⟩
    | keyedItem isKey index => exact absurd (by simp) hbracket
    | item index => exact absurd (by simp) hbracket
  · rintro ⟨hne, rfl⟩
    exact .key ⟨hne, hpoint, hbracket⟩

/-- **What is read as a segment is the text of one.** -/
theorem parse?_eq_some_iff {text : List Char} (hpoint : '.' ∉ text) {segment : Segment} :
    parse? text = some segment ↔ Spells text segment := by
  by_cases hbracket : '[' ∈ text
  · obtain ⟨key, rest, rfl, hkey⟩ := List.eq_append_cons_of_mem hbracket
    have hpoint' : '.' ∉ key := fun hmem => hpoint (List.mem_append_left _ hmem)
    rw [spells_bracket_iff hpoint' hkey, ← closed_eq_some_iff]
    obtain ⟨htake, hdrop⟩ := cut_at_bracket hkey rest
    simp only [parse?, htake, hdrop]
  · have hall := ne_bracket_of_mem hbracket
    rw [spells_key_iff hpoint hbracket]
    unfold parse?
    rw [List.takeWhile_eq_self_iff.2 hall, List.dropWhile_eq_nil_iff.2 hall]
    rw [Option.ite_none_left_eq_some, List.isEmpty_iff, Option.some.injEq, eq_comm (a := segment)]

/-- A path is cut at its points into the texts of segments. -/
def SpellsPath (path : String) (segments : List Segment) : Prop :=
  List.Forall₂ Spells (path.toList.splitOn '.') segments

end Segment

/-! ## Cutting a path at its points -/

theorem splitAtPoints_eq (text : List Char) : splitAtPoints text = text.splitOn '.' := by
  induction text with
  | nil => rfl
  | cons c rest ih =>
      rw [List.splitOn, List.splitOnP_cons_eq_if_modifyHead, splitAtPoints, ih, List.splitOn]
      by_cases hc : c = '.'
      · simp [hc]
      · -- what is cut has a first part, and the character belongs to it
        obtain ⟨part, parts, hparts⟩ :=
          List.exists_cons_of_ne_nil (List.splitOnP_ne_nil (· == '.') rest)
        simp [hc, hparts]

/-- There are no points in the parts. -/
theorem noPoint_of_mem_splitAtPoints {text part : List Char} (h : part ∈ splitAtPoints text) :
    '.' ∉ part := by
  induction text generalizing part with
  | nil =>
      obtain rfl := List.mem_singleton.1 h
      exact List.not_mem_nil
  | cons c rest ih =>
      rw [splitAtPoints] at h
      split at h
      · rcases List.mem_cons.1 h with rfl | h
        · exact List.not_mem_nil
        · exact ih h
      · next hc =>
          have hfirst : ∀ first, '.' ∉ first → '.' ∉ c :: first := by
            intro first hfirst
            simp [hfirst, Ne.symm hc]
          split at h
          · obtain rfl := List.mem_singleton.1 h
            exact hfirst [] List.not_mem_nil
          · next first parts hparts =>
              rcases List.mem_cons.1 h with rfl | h
              · exact hfirst first (ih (hparts ▸ List.mem_cons_self))
              · exact ih (hparts ▸ List.mem_cons_of_mem _ h)

namespace Value

variable {v w : Value} {texts : List (List Char)} {segments : List Segment}

/-! ## Following segments -/

/-- Segments lead to the end of their steps. -/
theorem follow?_of_spells (h : List.Forall₂ Segment.Spells texts segments) (v : Value) :
    v.follow? texts = v.at? (segments.flatMap placeOf) := by
  induction h generalizing v with
  | nil => rfl
  | @cons text segment texts segments hfirst _ ih =>
      rw [follow?, (Segment.parse?_eq_some_iff hfirst.noPoint).2 hfirst, List.flatMap_cons,
        at?_append, ← select?_eq_at?]
      change (segment.select? v).bind (fun inner => inner.follow? texts) = _
      congr
      funext inner
      exact ih inner

/-- A part that is no segment leads nowhere. -/
theorem follow?_of_not_spells (hpoints : ∀ text ∈ texts, '.' ∉ text) {text : List Char}
    (hmem : text ∈ texts) (hmalformed : ∀ segment, ¬ Segment.Spells text segment) (v : Value) :
    v.follow? texts = none := by
  induction texts generalizing v with
  | nil => cases hmem
  | cons first rest ih =>
      rw [List.forall_mem_cons] at hpoints
      rw [follow?]
      rcases List.mem_cons.1 hmem with rfl | hmem
      · have hnone : Segment.parse? text = none := by
          refine Option.eq_none_iff_forall_ne_some.2 fun segment hsegment => ?_
          exact hmalformed segment ((Segment.parse?_eq_some_iff hpoints.1).1 hsegment)
        rw [hnone]
        rfl
      · rw [Option.bind_eq_bind, Option.bind_eq_none_iff]
        intro segment _
        rw [Option.bind_eq_bind, Option.bind_eq_none_iff]
        exact fun inner _ => ih hpoints.2 hmem inner

/-- There are no points in the texts of segments. -/
theorem noPoint_of_spells (h : List.Forall₂ Segment.Spells texts segments) :
    ∀ text ∈ texts, '.' ∉ text := by
  induction h with
  | nil => exact fun _ hmem => absurd hmem List.not_mem_nil
  | cons hfirst _ ih => exact List.forall_mem_cons.2 ⟨hfirst.noPoint, ih⟩

/-- Parts of which each is a segment are segments together. -/
theorem exists_segments (h : ∀ text ∈ texts, ∃ segment, Segment.Spells text segment) :
    ∃ segments, List.Forall₂ Segment.Spells texts segments := by
  induction texts with
  | nil => exact ⟨[], .nil⟩
  | cons text rest ih =>
      obtain ⟨⟨segment, hfirst⟩, hrest⟩ := List.forall_mem_cons.1 h
      obtain ⟨segments, hsegments⟩ := ih hrest
      exact ⟨segment :: segments, .cons hfirst hsegments⟩

/-! ## Steps that lead nowhere -/

/-- A step that does not fit a value. -/
inductive Misfit : Value → Step → Prop where
  /-- Only maps have entries. -/
  | noMap {v : Value} {key : String} (kind : ∀ fields, v ≠ map fields) : Misfit v (.entry key)
  /-- The map has no entry of the key. -/
  | missing {fields : List (String × Value)} {key : String}
      (absent : key ∉ fields.map Prod.fst) : Misfit (map fields) (.entry key)
  /-- Only lists have items. -/
  | noList {v : Value} {i : Nat} (kind : ∀ items, v ≠ list items) : Misfit v (.item i)
  /-- The list ends before the item. -/
  | beyond {items : List Value} {i : Nat} (short : items.length ≤ i) : Misfit (list items) (.item i)

theorem get?_eq_none_iff {fields : List (String × Value)} {key : String} :
    Fields.get? fields key = none ↔ key ∉ fields.map Prod.fst := by
  unfold Fields.get?
  rw [List.lookup_eq_none_iff, List.mem_map]
  constructor
  · rintro h ⟨entry, hmem, rfl⟩
    simpa using h entry hmem
  · intro h entry hmem
    rw [bne_iff_ne]
    rintro rfl
    exact h ⟨entry, hmem, rfl⟩

/-- A step leads nowhere exactly when it does not fit. -/
theorem child?_eq_none_iff {step : Step} : v.child? step = none ↔ Misfit v step := by
  constructor
  · intro h
    cases step with
    | item i =>
        cases v with
        | list items => exact .beyond (List.getElem?_eq_none_iff.1 h)
        | null | bool _ | int _ | uint _ | float _ | str _ | map _ =>
            exact .noList fun items => by simp
    | entry key =>
        cases v with
        | map fields => exact .missing (get?_eq_none_iff.1 h)
        | null | bool _ | int _ | uint _ | float _ | str _ | list _ =>
            exact .noMap fun fields => by simp
  · intro h
    cases h with
    | noMap kind =>
        cases v with
        | map fields => exact absurd rfl (kind fields)
        | null | bool _ | int _ | uint _ | float _ | str _ | list _ => rfl
    | missing absent => exact get?_eq_none_iff.2 absent
    | noList kind =>
        cases v with
        | list items => exact absurd rfl (kind items)
        | null | bool _ | int _ | uint _ | float _ | str _ | map _ => rfl
    | beyond short => exact List.getElem?_eq_none_iff.2 short

/-- One of some steps does not fit what the steps before it lead to. -/
def Stray (v : Value) (place : List Step) : Prop :=
  ∃ before step after reached, place = before ++ step :: after ∧ v.at? before = some reached ∧
    reached.Misfit step

/-- A place does not exist exactly when one of its steps does not fit. -/
theorem at?_eq_none_iff {place : List Step} : v.at? place = none ↔ v.Stray place := by
  constructor
  · intro h
    induction place generalizing v with
    | nil => cases h
    | cons step place ih =>
        rw [at?] at h
        cases hchild : v.child? step with
        | none => exact ⟨[], step, place, v, rfl, rfl, child?_eq_none_iff.1 hchild⟩
        | some child =>
            rw [hchild, Option.bind_some] at h
            obtain ⟨before, misfit, after, reached, rfl, hbefore, hmisfit⟩ := ih h
            refine ⟨step :: before, misfit, after, reached, rfl, ?_, hmisfit⟩
            rw [at?, hchild, Option.bind_some, hbefore]
  · rintro ⟨before, step, after, reached, rfl, hbefore, hmisfit⟩
    rw [at?_append, hbefore, Option.bind_some, at?, child?_eq_none_iff.2 hmisfit, Option.bind_none]

/-! ## The path to a place -/

/-- A step that a path can name: to an item, or to the entry of a key that can be written. No list
in memory reaches the bound of the indices. -/
def Step.Named : Step → Prop
  | .item i => i < 2 ^ 64
  | .entry key => Segment.IsKey key.toList

/-- The text of an index in brackets. -/
def bracketed (i : Nat) : List Char := '[' :: (Nat.toDigits 10 i ++ [']'])

/-- The segments on the way to a place. An index stands behind the key before it, if there is
one. -/
def textsTo : List Step → List (List Char)
  | [] => []
  | .entry key :: .item i :: rest => (key.toList ++ bracketed i) :: textsTo rest
  | .entry key :: rest => key.toList :: textsTo rest
  | .item i :: rest => bracketed i :: textsTo rest

/-- The path to a place. -/
def pathTo (place : List Step) : String := String.ofList (['.'].intercalate (textsTo place))

theorem spellsIndex_toDigits {i : Nat} (h : i < 2 ^ 64) :
    Segment.SpellsIndex (Nat.toDigits 10 i) i :=
  .plain ⟨Nat.toDigits_ne_nil, Literal.isDigit_toDigits i, Nat.ofDigitChars_ten_toDigits, h⟩

/-- What is written on the way to a place spells its steps. -/
theorem spells_textsTo {place : List Step} (hnamed : ∀ step ∈ place, step.Named) :
    ∃ segments, List.Forall₂ Segment.Spells (textsTo place) segments ∧
      segments.flatMap placeOf = place := by
  induction place using textsTo.induct with
  | case1 => exact ⟨[], .nil, rfl⟩
  | case2 key i rest ih =>
      simp only [List.forall_mem_cons] at hnamed
      obtain ⟨hkey, hindex, hrest⟩ := hnamed
      obtain ⟨segments, hspells, hplace⟩ := ih hrest
      refine ⟨⟨key.toList, some i⟩ :: segments,
        .cons (.keyedItem hkey (spellsIndex_toDigits hindex)) hspells, ?_⟩
      have hne := hkey.nonempty
      simp [placeOf, hplace, hne]
  | case3 key rest hitem ih =>
      rw [List.forall_mem_cons] at hnamed
      obtain ⟨hkey, hrest⟩ := hnamed
      obtain ⟨segments, hspells, hplace⟩ := ih hrest
      rw [textsTo]
      · refine ⟨⟨key.toList, none⟩ :: segments, .cons (.key hkey) hspells, ?_⟩
        have hne := hkey.nonempty
        simp [placeOf, hplace, hne]
      · exact hitem
  | case4 i rest ih =>
      rw [List.forall_mem_cons] at hnamed
      obtain ⟨hindex, hrest⟩ := hnamed
      obtain ⟨segments, hspells, hplace⟩ := ih hrest
      refine ⟨⟨[], some i⟩ :: segments, .cons (.item (spellsIndex_toDigits hindex)) hspells, ?_⟩
      simp [placeOf, hplace]

/-- The path to a place that is not the whole value is spelled by its segments. -/
theorem spellsPath_pathTo {place : List Step} (hne : place ≠ [])
    (hnamed : ∀ step ∈ place, step.Named) :
    ∃ segments, Segment.SpellsPath (pathTo place) segments ∧ segments.flatMap placeOf = place := by
  obtain ⟨segments, hspells, hplace⟩ := spells_textsTo hnamed
  refine ⟨segments, ?_, hplace⟩
  have htexts : textsTo place ≠ [] := by
    intro hnil
    rw [hnil] at hspells
    cases hspells
    exact hne hplace.symm
  unfold Segment.SpellsPath pathTo
  rw [String.toList_ofList, List.splitOn_intercalate '.' (noPoint_of_spells hspells) htexts]
  exact hspells

/-! ## Looking up a path -/

/-- The empty path is not cut into segments, since its only part is empty. -/
theorem not_spellsPath_empty (segments : List Segment) : ¬ Segment.SpellsPath "" segments := by
  intro h
  unfold Segment.SpellsPath at h
  rw [String.toList_empty, List.splitOn_nil] at h
  cases h with
  | cons hfirst _ =>
      rw [Segment.spells_key_iff List.not_mem_nil List.not_mem_nil] at hfirst
      exact hfirst.1 rfl

/-- A path that is cut into segments leads to the end of their steps. -/
theorem lookup?_of_spellsPath {path : String} (h : Segment.SpellsPath path segments)
    (root : Value) : root.lookup? path = root.at? (segments.flatMap placeOf) := by
  have hne : path.isEmpty = false := by
    rw [← Bool.not_eq_true, String.isEmpty_iff]
    rintro rfl
    exact not_spellsPath_empty segments h
  unfold lookup?
  rw [hne, splitAtPoints_eq]
  exact follow?_of_spells h root

/-- A path with a part that is no segment leads nowhere. -/
theorem lookup?_of_malformed {path : String} (hne : path ≠ "") {text : List Char}
    (hmem : text ∈ path.toList.splitOn '.')
    (hmalformed : ∀ segment, ¬ Segment.Spells text segment) (root : Value) :
    root.lookup? path = none := by
  rw [← splitAtPoints_eq] at hmem
  unfold lookup?
  rw [if_neg (by simpa using hne)]
  exact follow?_of_not_spells (fun _ => noPoint_of_mem_splitAtPoints) hmem hmalformed root

/-- A path is empty, is cut into segments, or has a part that is no segment. -/
theorem empty_or_spellsPath_or_malformed (path : String) :
    path = "" ∨ (∃ segments, Segment.SpellsPath path segments) ∨
      ∃ text ∈ path.toList.splitOn '.', ∀ segment, ¬ Segment.Spells text segment := by
  by_cases hall : ∀ text ∈ path.toList.splitOn '.', ∃ segment, Segment.Spells text segment
  · exact .inr (.inl (exists_segments hall))
  · simp only [not_forall, not_exists, exists_prop] at hall
    exact .inr (.inr hall)

theorem lookup?_empty (root : Value) : root.lookup? "" = some root := rfl

/-- A path leads to what stands at the end of the steps of its segments. -/
theorem lookup?_eq_some_iff {root w : Value} {path : String} :
    root.lookup? path = some w ↔ path = "" ∧ w = root ∨
      ∃ segments, Segment.SpellsPath path segments ∧
        root.at? (segments.flatMap placeOf) = some w := by
  constructor
  · intro h
    by_cases hempty : path = ""
    · subst hempty
      exact .inl ⟨rfl, (Option.some.inj h).symm⟩
    · rcases empty_or_spellsPath_or_malformed path with
        hempty' | ⟨segments, hspells⟩ | ⟨text, hmem, hmalformed⟩
      · exact absurd hempty' hempty
      · rw [lookup?_of_spellsPath hspells] at h
        exact .inr ⟨segments, hspells, h⟩
      · rw [lookup?_of_malformed hempty hmem hmalformed] at h
        cases h
  · rintro (⟨rfl, rfl⟩ | ⟨segments, hspells, hplace⟩)
    · exact lookup?_empty w
    · rw [lookup?_of_spellsPath hspells, hplace]

/-- A path leads nowhere when one of its parts is no segment or one of its steps does not fit. -/
theorem lookup?_eq_none_iff {root : Value} {path : String} :
    root.lookup? path = none ↔ path ≠ "" ∧
      ((∃ text ∈ path.toList.splitOn '.', ∀ segment, ¬ Segment.Spells text segment) ∨
        ∃ segments, Segment.SpellsPath path segments ∧
          root.Stray (segments.flatMap placeOf)) := by
  constructor
  · intro h
    have hne : path ≠ "" := by
      rintro rfl
      cases h
    refine ⟨hne, ?_⟩
    rcases empty_or_spellsPath_or_malformed path with hempty | ⟨segments, hspells⟩ | hmalformed
    · exact absurd hempty hne
    · rw [lookup?_of_spellsPath hspells] at h
      exact .inr ⟨segments, hspells, at?_eq_none_iff.1 h⟩
    · exact .inl hmalformed
  · rintro ⟨hne, ⟨text, hmem, hmalformed⟩ | ⟨segments, hspells, hstray⟩⟩
    · exact lookup?_of_malformed hne hmem hmalformed root
    · rw [lookup?_of_spellsPath hspells, at?_eq_none_iff.2 hstray]

/-- The path to a place leads to what stands there. -/
theorem lookup?_pathTo {place : List Step} (hnamed : ∀ step ∈ place, step.Named) (root : Value) :
    root.lookup? (pathTo place) = root.at? place := by
  cases place with
  | nil => rfl
  | cons step rest =>
      obtain ⟨segments, hspells, hplace⟩ := spellsPath_pathTo (List.cons_ne_nil step rest) hnamed
      rw [lookup?_of_spellsPath hspells, hplace]

/-- **A path leads where its segments say, and nowhere else.** A path is empty and leads to the
whole value, or it is cut at its points into segments and leads to the end of their steps, also when
`null` stands there. It leads nowhere exactly when a part of it is no segment, or a step does not
fit: a key that is missing, an index beyond the end, a value of another kind. And every place whose
keys can be written has a path. -/
theorem lookup_follows_path (root w : Value) (path : String) :
    (root.lookup? path = some w ↔ path = "" ∧ w = root ∨
      ∃ segments, Segment.SpellsPath path segments ∧
        root.at? (segments.flatMap placeOf) = some w) ∧
    (root.lookup? path = none ↔ path ≠ "" ∧
      ((∃ text ∈ path.toList.splitOn '.', ∀ segment, ¬ Segment.Spells text segment) ∨
        ∃ segments, Segment.SpellsPath path segments ∧
          root.Stray (segments.flatMap placeOf))) ∧
    ∀ place : List Step, (∀ step ∈ place, step.Named) →
      root.lookup? (pathTo place) = root.at? place :=
  ⟨lookup?_eq_some_iff, lookup?_eq_none_iff, fun _ hnamed => lookup?_pathTo hnamed root⟩

/-- A list of lists under a key, with a number and `null`. -/
def grid : Value := map [("a", list [list [int 7, null]])]

/-- The `null` in the inner list has a path, which needs a point before the second index. -/
theorem inner_null_found :
    (∀ step ∈ [Step.entry "a", .item 0, .item 1], step.Named) ∧
      pathTo [.entry "a", .item 0, .item 1] = "a[0].[1]" ∧
      grid.lookup? "a[0].[1]" = some null ∧ grid.lookup? "a[0][1]" = none := by
  have hnamed : ∀ step ∈ [Step.entry "a", .item 0, .item 1], step.Named := by
    have hkey : Segment.IsKey "a".toList := ⟨by decide, by decide, by decide⟩
    simp only [List.forall_mem_cons]
    exact ⟨hkey, by simp [Step.Named], by simp [Step.Named], by simp⟩
  have hpath : pathTo [.entry "a", .item 0, .item 1] = "a[0].[1]" := by decide
  obtain ⟨-, hnone, hplaces⟩ := lookup_follows_path grid null "a[0][1]"
  have hfound := hplaces _ hnamed
  rw [hpath] at hfound
  refine ⟨hnamed, hpath, hfound, hnone.2 ⟨by decide, .inl ⟨"a[0][1]".toList, by decide, ?_⟩⟩⟩
  -- the brackets behind the first one hold more than a numeral
  intro segment hspells
  rw [← Segment.parse?_eq_some_iff (by decide)] at hspells
  cases hspells

end Value
end ScenarioRunner

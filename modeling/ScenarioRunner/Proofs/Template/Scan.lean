import Mathlib.Data.List.Infix
import ScenarioRunner.Template.Basic

/-!
# Scanning a template

What scanning finds depends only on where two braces of a kind stand next to each other
(`Doubled`). It says where the two searches cut a text (`cutFirst_append`, `cutLast_append`), and so
which slot comes first in a template (`scan_slot_of_first`, `scan_slot_of_opened`). The sources of the
pieces of a template, joined, are the template again (`flatMap_source_scan`), so the source of each
piece stands in it. A template that is recognised as one slot is the source of this slot
(`wholeSlot?_eq_some_iff`).
-/

set_option autoImplicit false

namespace ScenarioRunner.Template

/-! ## Two marks in a row -/

/-- Two marks stand next to each other somewhere in a text. -/
def Doubled (mark : Char) (text : List Char) : Prop := [mark, mark] <:+: text

instance (mark : Char) (text : List Char) : Decidable (Doubled mark text) :=
  inferInstanceAs (Decidable ([mark, mark] <:+: text))

section Doubled

variable {mark : Char} {text before behind : List Char}

theorem not_doubled_nil : ¬Doubled mark [] := by
  intro h
  exact absurd h.length_le (by simp)

theorem not_doubled_singleton (c : Char) : ¬Doubled mark [c] := by
  intro h
  exact absurd h.length_le (by simp)

/-- A character before a text makes two marks in a row only with the first character of the text. -/
theorem doubled_cons_iff {c : Char} :
    Doubled mark (c :: text) ↔ (c = mark ∧ text.head? = some mark) ∨ Doubled mark text := by
  unfold Doubled
  rw [List.infix_cons_iff, List.cons_prefix_cons, List.singleton_prefix_iff_head?_eq_some]
  simp [eq_comm]

theorem not_doubled_of_not_mem (h : mark ∉ text) : ¬Doubled mark text := by
  intro hdouble
  exact h (hdouble.subset List.mem_cons_self)

/-- In two texts behind each other two marks in a row stand in one of them or where they meet. -/
theorem doubled_append_iff : Doubled mark (before ++ behind) ↔
    Doubled mark before ∨ Doubled mark behind ∨
      (before.getLast? = some mark ∧ behind.head? = some mark) := by
  induction before with
  | nil => simp [not_doubled_nil]
  | cons a before ih =>
      cases before with
      | nil =>
          rw [List.singleton_append, doubled_cons_iff, List.getLast?_singleton, Option.some.injEq,
            or_iff_right (not_doubled_singleton a)]
          exact or_comm
      | cons b before =>
          rw [List.cons_append, doubled_cons_iff, ih, @doubled_cons_iff mark (b :: before) a,
            List.getLast?_cons_cons, List.cons_append, List.head?_cons, List.head?_cons, or_assoc]

/-- A mark behind a text makes two in a row there or with the last character of the text. -/
theorem doubled_concat_iff :
    Doubled mark (text ++ [mark]) ↔ Doubled mark text ∨ text.getLast? = some mark := by
  rw [doubled_append_iff]
  simp [not_doubled_singleton]

theorem not_doubled_concat (h : mark ∉ text) : ¬Doubled mark (text ++ [mark]) := by
  rw [doubled_concat_iff]
  rintro (hdouble | hend)
  · exact not_doubled_of_not_mem h hdouble
  · exact h (List.mem_of_getLast? hend)

theorem not_doubled_cons (h : mark ∉ text) : ¬Doubled mark (mark :: text) := by
  rw [doubled_cons_iff]
  rintro (⟨-, hhead⟩ | hdouble)
  · exact h (List.mem_of_head? hhead)
  · exact not_doubled_of_not_mem h hdouble

end Doubled

/-! ## The two searches -/

section Cut

variable {mark : Char} {text before behind : List Char}

theorem cutFirst_eq_none_iff : cutFirst mark text = none ↔ ¬Doubled mark text := by
  induction text with
  | nil => simp [cutFirst, not_doubled_nil]
  | cons a rest ih =>
      cases rest with
      | nil => simp [cutFirst, not_doubled_singleton]
      | cons b rest =>
          rw [cutFirst, doubled_cons_iff, List.head?_cons, Option.some.injEq]
          split
          · next hmarks => simp [hmarks]
          · next hmarks => rw [Option.map_eq_none_iff, ih, or_iff_right hmarks]

theorem cutLast_eq_none_iff : cutLast mark text = none ↔ ¬Doubled mark text := by
  induction text with
  | nil => simp [cutLast, not_doubled_nil]
  | cons a rest ih =>
      cases rest with
      | nil => simp [cutLast, not_doubled_singleton]
      | cons b rest =>
          rw [cutLast, doubled_cons_iff, List.head?_cons, Option.some.injEq, not_or, ← ih]
          cases cutLast mark (b :: rest) with
          | some cut => simp
          | none =>
              dsimp only
              split
              · next hmarks => simp [hmarks]
              · next hmarks => simp [hmarks]

/-- No two marks are complete before the first two. -/
theorem not_doubled_of_cutFirst (h : cutFirst mark text = some (before, behind)) :
    ¬Doubled mark (before ++ [mark]) := by
  induction text generalizing before with
  | nil => cases h
  | cons a rest ih =>
      cases rest with
      | nil => cases h
      | cons b rest =>
          rw [cutFirst] at h
          split at h
          · cases h
            exact not_doubled_singleton mark
          · next hmarks =>
              obtain ⟨⟨x, y⟩, hcut, heq⟩ := Option.map_eq_some_iff.1 h
              cases heq
              have hhead : (x ++ [mark]).head? = some b := by
                have hsource := congrArg List.head? (eq_of_cutFirst hcut)
                rw [List.head?_append] at hsource ⊢
                exact hsource.symm
              rw [List.cons_append, doubled_cons_iff, hhead, Option.some.injEq]
              exact not_or.2 ⟨hmarks, ih hcut⟩

/-- Two marks before which no two marks are complete are the first two. -/
theorem cutFirst_append (hfirst : ¬Doubled mark (before ++ [mark])) :
    cutFirst mark (before ++ mark :: mark :: behind) = some (before, behind) := by
  induction before with
  | nil => simp [cutFirst]
  | cons a before ih =>
      obtain ⟨b, rest, hrest⟩ : ∃ b rest, before ++ mark :: mark :: behind = b :: rest :=
        List.exists_cons_of_ne_nil (by simp)
      have hhead : (before ++ [mark]).head? = some b := by
        have hsource := congrArg List.head? hrest
        rw [List.head?_append] at hsource ⊢
        exact hsource
      rw [List.cons_append, doubled_cons_iff, hhead, Option.some.injEq, not_or] at hfirst
      rw [List.cons_append, hrest, cutFirst, if_neg hfirst.1, ← hrest, ih hfirst.2]
      rfl

/-- Two marks are the last two if no two marks begin behind the first one of them. -/
theorem cutLast_append (hlast : ¬Doubled mark (mark :: behind)) :
    cutLast mark (before ++ mark :: mark :: behind) = some (before, behind) := by
  induction before with
  | nil =>
      rw [List.nil_append, cutLast, cutLast_eq_none_iff.2 hlast]
      simp
  | cons a before ih =>
      obtain ⟨b, rest, hrest⟩ : ∃ b rest, before ++ mark :: mark :: behind = b :: rest :=
        List.exists_cons_of_ne_nil (by simp)
      rw [List.cons_append, hrest, cutLast, ← hrest, ih]

end Cut

/-! ## The first slot -/

section Scan

variable {template before name : List Char}

/-- A template in which no slot is opened is one text. -/
theorem scan_of_not_doubled (h : ¬Doubled opening template) : scan template = [.text template] := by
  rw [scan]
  split
  · rfl
  · next hfound =>
      rw [cutFirst_eq_none_iff.2 h] at hfound
      cases hfound

/-- A template with an opener and a closer behind it begins with a slot. -/
theorem scan_of_cuts {behind inner rest : List Char}
    (hopen : cutFirst opening template = some (before, behind))
    (hclose : cutFirst closing behind = some (inner, rest)) :
    scan template =
      match cutLast opening inner with
      | none => .text before :: .slot inner :: scan rest
      | some (outer, name) =>
        .text (before ++ opening :: opening :: outer) :: .slot name :: scan rest := by
  rw [scan]
  split
  · next hfound =>
      rw [hopen] at hfound
      cases hfound
  · next hfound =>
      rw [hopen] at hfound
      cases hfound
      split
      · next hfound =>
          rw [hclose] at hfound
          cases hfound
      · next hfound =>
          rw [hclose] at hfound
          cases hfound
          rfl

/-- A slot that the first two opening braces open, and that has no two of them inside, is cut out of
the texts on both sides of it. -/
theorem scan_slot_of_first (behind : List Char)
    (hbefore : ¬Doubled opening (before ++ [opening])) (hname : ¬Doubled opening name)
    (hclose : ¬Doubled closing (name ++ [closing])) :
    scan (before ++ Piece.source (.slot name) ++ behind) =
      .text before :: .slot name :: scan behind := by
  have htemplate : before ++ Piece.source (.slot name) ++ behind =
      before ++ opening :: opening :: (name ++ closing :: closing :: behind) := by
    simp [Piece.source]
  rw [htemplate, scan_of_cuts (cutFirst_append hbefore) (cutFirst_append hclose),
    cutLast_eq_none_iff.2 hname]

/-- A slot behind opening braces that are not closed is cut out as well; these braces belong to the
text before it. -/
theorem scan_slot_of_opened (behind : List Char) (hopened : Doubled opening before)
    (hclosers : ¬Doubled closing before) (hopen : opening ∉ name)
    (hclose : closing ∉ name) :
    scan (before ++ Piece.source (.slot name) ++ behind) =
      .text before :: .slot name :: scan behind := by
  obtain ⟨⟨outer, inner⟩, hcut⟩ : ∃ cut, cutFirst opening before = some cut := by
    rw [← Option.ne_none_iff_exists', Ne, cutFirst_eq_none_iff, not_not]
    exact hopened
  have hfirst := not_doubled_of_cutFirst hcut
  obtain rfl := eq_of_cutFirst hcut
  have htemplate :
      outer ++ opening :: opening :: inner ++ Piece.source (.slot name) ++ behind =
        outer ++ opening :: opening ::
          ((inner ++ opening :: opening :: name) ++ closing :: closing :: behind) := by
    simp [Piece.source]
  -- the first closer is the one of the slot: there is none before it, and its name has no brace
  have hbehind : ¬Doubled closing ((inner ++ opening :: opening :: name) ++ [closing]) := by
    have hinner : ¬Doubled closing inner := by
      intro hdouble
      exact hclosers (hdouble.trans ⟨outer ++ [opening, opening], [], by simp⟩)
    have hslot : closing ∉ opening :: opening :: name := by
      simp only [List.mem_cons, not_or]
      exact ⟨by decide, by decide, hclose⟩
    rw [doubled_concat_iff, doubled_append_iff]
    rintro ((hdouble | hdouble | ⟨-, hmeet⟩) | hend)
    · exact hinner hdouble
    · exact not_doubled_of_not_mem hslot hdouble
    · cases hmeet
    · rw [List.getLast?_append_of_ne_nil _ (List.cons_ne_nil _ _)] at hend
      exact hslot (List.mem_of_getLast? hend)
  rw [htemplate, scan_of_cuts (cutFirst_append hfirst) (cutFirst_append hbehind),
    cutLast_append (not_doubled_cons hopen)]

end Scan

/-! ## Sources -/

/-- **The sources of the pieces of a template, joined, are the template.** -/
theorem flatMap_source_scan (template : List Char) :
    (scan template).flatMap Piece.source = template := by
  fun_induction scan template with
  | case1 template hopen => simp [Piece.source]
  | case2 template before behind hopen hclose => simp [Piece.source]
  | case3 template before behind hopen inner rest hclose hlast ih =>
      rw [List.flatMap_cons, List.flatMap_cons, ih, eq_of_cutFirst hopen, eq_of_cutFirst hclose]
      simp [Piece.source]
  | case4 template before behind hopen inner rest hclose outer name hlast ih =>
      rw [List.flatMap_cons, List.flatMap_cons, ih, eq_of_cutFirst hopen, eq_of_cutFirst hclose,
        eq_of_cutLast hlast]
      simp [Piece.source]

/-- The source of a piece of a template stands in the template. -/
theorem source_infix_of_mem_scan {template : List Char} {piece : Piece}
    (h : piece ∈ scan template) : piece.source <:+: template := by
  obtain ⟨before, behind, hsplit⟩ := List.append_of_mem h
  rw [← flatMap_source_scan template, hsplit, List.flatMap_append, List.flatMap_cons]
  exact ⟨_, _, List.append_assoc _ _ _⟩

/-! ## Templates of one slot -/

/-- The templates that are recognised as one slot: one slot and no two braces of a kind inside. -/
theorem wholeSlot?_eq_some_iff {template name : List Char} :
    wholeSlot? template = some name ↔
      ∃ inner, template = Piece.source (.slot inner) ∧ ¬Doubled opening inner ∧
        ¬Doubled closing inner ∧ trimBlanks inner = name := by
  constructor
  · intro h
    unfold wholeSlot? at h
    split at h
    · next a b rest =>
        dsimp only at h
        split at h
        · next hslot =>
            obtain ⟨rfl, rfl, hend, hopen, hclose⟩ := hslot
            cases h
            refine ⟨_, ?_, cutFirst_eq_none_iff.1 hopen, cutFirst_eq_none_iff.1 hclose, rfl⟩
            rw [Piece.source, ← hend, List.take_append_drop]
        · cases h
    · cases h
  · rintro ⟨inner, rfl, hopen, hclose, rfl⟩
    have hlength : (inner ++ [closing, closing]).length - 2 = inner.length := by simp
    unfold wholeSlot? Piece.source
    dsimp only
    rw [hlength, List.take_left, List.drop_left, if_pos]
    exact ⟨rfl, rfl, rfl, cutFirst_eq_none_iff.2 hopen, cutFirst_eq_none_iff.2 hclose⟩

end ScenarioRunner.Template

import ScenarioRunner.Text.Blank

/-!
# Templates

A template is text with slots: a name between two opening and two closing braces. Scanning cuts a
template into pieces. An opener belongs to the next closer only if no other opener stands between
them, so the innermost one wins, and whatever is left over is text. The sources of the pieces,
joined, are the template again.
-/

set_option autoImplicit false

namespace ScenarioRunner.Template

/-- Two of these open a slot. -/
def opening : Char := '\x7b'

/-- Two of these close a slot. -/
def closing : Char := '\x7d'

/-- Cuts a text at the first two marks in a row: what is before them, and what is behind. -/
def cutFirst (mark : Char) : List Char → Option (List Char × List Char)
  | a :: b :: rest =>
    if a = mark ∧ b = mark then some ([], rest)
    else (cutFirst mark (b :: rest)).map fun cut => (a :: cut.1, cut.2)
  | _ => none

/-- Cuts a text at the last two marks in a row: what is before them, and what is behind. -/
def cutLast (mark : Char) : List Char → Option (List Char × List Char)
  | a :: b :: rest =>
    match cutLast mark (b :: rest) with
    | some cut => some (a :: cut.1, cut.2)
    | none => if a = mark ∧ b = mark then some ([], rest) else none
  | _ => none

theorem eq_of_cutFirst {mark : Char} {text before after : List Char}
    (h : cutFirst mark text = some (before, after)) : text = before ++ mark :: mark :: after := by
  induction text generalizing before after with
  | nil => simp [cutFirst] at h
  | cons a rest ih =>
    cases rest with
    | nil => simp [cutFirst] at h
    | cons b rest =>
      rw [cutFirst] at h
      split at h
      · next marks =>
        obtain ⟨rfl, rfl⟩ := marks
        simp_all
      · obtain ⟨⟨x, y⟩, hcut, heq⟩ := Option.map_eq_some_iff.1 h
        simp only [Prod.mk.injEq] at heq
        obtain ⟨rfl, rfl⟩ := heq
        rw [ih hcut, List.cons_append]

theorem eq_of_cutLast {mark : Char} {text before after : List Char}
    (h : cutLast mark text = some (before, after)) : text = before ++ mark :: mark :: after := by
  induction text generalizing before after with
  | nil => simp [cutLast] at h
  | cons a rest ih =>
    cases rest with
    | nil => simp [cutLast] at h
    | cons b rest =>
      rw [cutLast] at h
      cases hcut : cutLast mark (b :: rest) with
      | some cut =>
        simp only [hcut, Option.some.injEq, Prod.mk.injEq] at h
        obtain ⟨rfl, rfl⟩ := h
        rw [List.cons_append, ← ih hcut]
      | none =>
        simp only [hcut] at h
        split at h
        · next marks =>
          obtain ⟨rfl, rfl⟩ := marks
          simp_all
        · simp at h

/-- A piece of a template. -/
inductive Piece where
  /-- Text that stands for itself. -/
  | text (content : List Char)
  /-- A slot, with all that is written between its braces. -/
  | slot (inner : List Char)
  deriving DecidableEq

/-- A piece as it is written. -/
def Piece.source : Piece → List Char
  | text content => content
  | slot inner => opening :: opening :: (inner ++ [closing, closing])

/-- Cuts a template into its pieces. -/
def scan (template : List Char) : List Piece :=
  match _found : cutFirst opening template with
  | none => [.text template]
  | some (before, behind) =>
    match _closed : cutFirst closing behind with
    | none => [.text template]
    | some (inner, rest) =>
      match cutLast opening inner with
      | none => .text before :: .slot inner :: scan rest
      | some (outer, name) =>
        .text (before ++ opening :: opening :: outer) :: .slot name :: scan rest
termination_by template.length
decreasing_by
  all_goals
    have hopen := eq_of_cutFirst _found
    have hclose := eq_of_cutFirst _closed
    simp only [hopen, hclose, List.length_append, List.length_cons]
    omega

/-- What a slot's name refers to. -/
inductive Reference where
  /-- A new identifier at each use. -/
  | fresh
  /-- An environment variable. -/
  | environment (name : String)
  /-- A stored variable. -/
  | stored (name : String)
  deriving DecidableEq

/-- The reference that a name makes; stored variables cannot have a reserved name. -/
def Reference.ofName : List Char → Reference
  | ['u', 'u', 'i', 'd'] => fresh
  | 'e' :: 'n' :: 'v' :: '.' :: name => environment (String.ofList name)
  | name => stored (String.ofList name)

/-- The name of a template that is exactly one slot. -/
def wholeSlot? : List Char → Option (List Char)
  | a :: b :: rest =>
    let inner := rest.take (rest.length - 2)
    if a = opening ∧ b = opening ∧ rest.drop (rest.length - 2) = [closing, closing]
        ∧ cutFirst opening inner = none ∧ cutFirst closing inner = none then
      some (trimBlanks inner)
    else none
  | _ => none

end ScenarioRunner.Template

import ScenarioRunner.Proofs.Template.Slot
import ScenarioRunner.Proofs.Text.Blank

/-!
# Fields and texts

A string of a body that is one slot of a stored variable becomes the variable's value
(`storedValue?_eq_some_iff`), and any other string whose slots are all for stored variables becomes its
text: the reading of numbers is for other slots only (`resolveField_of_unreserved`). The value has
the text to which the string resolves as a text (`field_text_eq_iff`), except for a string with three
closing braces at its end. As a text its slot ends with the first two of them, while as a field it is
one slot whose name ends with a brace; so `{{a}}}` has two readings where both `a` and `a}` are stored
(`braced_field_diverges`).
-/

set_option autoImplicit false

namespace ScenarioRunner

namespace Template

/-! ## One slot as a text -/

section OneSlot

variable {inner : List Char}

theorem isInfix_source (inner : List Char) : inner <:+: Piece.source (.slot inner) :=
  ⟨[opening, opening], [closing, closing], rfl⟩

theorem source_slot_injective {name : List Char}
    (h : Piece.source (.slot inner) = Piece.source (.slot name)) : inner = name := by
  simpa [Piece.source] using h

/-- As a text, one slot is scanned as one slot if its name does not end with a brace. -/
theorem scan_source (hopen : ¬Doubled opening inner) (hclose : ¬Doubled closing (inner ++ [closing])) :
    scan (Piece.source (.slot inner)) = [.text [], .slot inner, .text []] := by
  have hfirst : ¬Doubled opening ([] ++ [opening]) := not_doubled_singleton opening
  have hscan := scan_slot_of_first [] hfirst hopen hclose
  rwa [List.append_nil, List.nil_append, scan_of_not_doubled not_doubled_nil] at hscan

/-- As a text, one slot whose name ends with a closing brace ends before this brace. -/
theorem scan_source_closing (hopen : ¬Doubled opening (inner ++ [closing]))
    (hclose : ¬Doubled closing (inner ++ [closing])) :
    scan (Piece.source (.slot (inner ++ [closing]))) =
      [.text [], .slot inner, .text [closing]] := by
  have hsource : Piece.source (.slot (inner ++ [closing])) =
      [] ++ Piece.source (.slot inner) ++ [closing] := by
    simp [Piece.source]
  have hfirst : ¬Doubled opening ([] ++ [opening]) := not_doubled_singleton opening
  have hinner : ¬Doubled opening inner := by
    intro hdouble
    exact hopen (doubled_append_iff.2 (.inl hdouble))
  rw [hsource, scan_slot_of_first [closing] hfirst hinner hclose,
    scan_of_not_doubled (not_doubled_singleton closing)]

/-- The name of one slot has nothing in common with the braces behind it, or ends with a brace. -/
theorem not_doubled_concat_or (hclose : ¬Doubled closing inner) :
    ¬Doubled closing (inner ++ [closing]) ∨ ∃ name, inner = name ++ [closing] := by
  by_cases hend : inner.getLast? = some closing
  · exact .inr (List.getLast?_eq_some_iff.1 hend)
  · left
    rw [doubled_concat_iff]
    exact not_or.2 ⟨hclose, hend⟩

end OneSlot

/-! ## Templates without reserved names -/

/-- All slots of a template are for stored variables. -/
def Unreserved (template : List Char) : Prop :=
  ∀ inner, .slot inner ∈ scan template →
    Reference.ofName (trimBlanks inner) = .stored (String.ofList (trimBlanks inner))

/-- What stands in a template that mentions neither `uuid` nor `env.` is no reserved name. -/
theorem ofName_of_isInfix {template inner : List Char} (hfresh : ¬['u', 'u', 'i', 'd'] <:+: template)
    (henv : ¬['e', 'n', 'v', '.'] <:+: template) (hinner : inner <:+: template) :
    Reference.ofName (trimBlanks inner) = .stored (String.ofList (trimBlanks inner)) := by
  have htrimmed : trimBlanks inner <:+: template := (isInfix_trimBlanks inner).trans hinner
  apply Reference.ofName_of_not_reserved
  · intro hname
    rw [hname] at htrimmed
    exact hfresh htrimmed
  · intro hname
    exact henv (hname.isInfix.trans htrimmed)

/-- A text with a closing brace is no number. -/
theorem looksNumeric_closing (text : List Char) : looksNumeric (text ++ [closing]) = false := by
  unfold looksNumeric
  extract_lets body
  have hmem : closing ∈ body := by
    subst body
    split
    · next hcons =>
        cases text with
        | nil => cases hcons
        | cons c text =>
            cases hcons
            exact List.mem_concat_self
    · exact List.mem_concat_self
  rw [Bool.and_eq_false_iff]
  right
  rw [← Bool.not_eq_true, List.all_eq_true]
  intro hall
  exact absurd (hall closing hmem) (by decide)

end Template

namespace Scope

open Template

variable {scope : Scope} {v : Value}

/-- The strings that stand for a stored value: one slot, with no two braces of a kind inside, whose
name is that of the value. -/
theorem storedValue?_eq_some_iff {field : List Char} : scope.storedValue? field = some v ↔
    ∃ inner, field = Piece.source (.slot inner) ∧ ¬Doubled opening inner ∧ ¬Doubled closing inner ∧
      Reference.ofName (trimBlanks inner) = .stored (String.ofList (trimBlanks inner)) ∧
      Fields.get? scope.store (String.ofList (trimBlanks inner)) = some v := by
  unfold storedValue?
  constructor
  · intro h
    obtain ⟨name, hslot, hvalue⟩ := Option.bind_eq_some_iff.1 h
    obtain ⟨inner, rfl, hopen, hclose, rfl⟩ := wholeSlot?_eq_some_iff.1 hslot
    split at hvalue
    · next var href =>
        obtain rfl := Reference.eq_of_ofName href
        exact ⟨inner, rfl, hopen, hclose, href, hvalue⟩
    · cases hvalue
  · rintro ⟨inner, rfl, hopen, hclose, href, hbound⟩
    rw [wholeSlot?_eq_some_iff.2 ⟨inner, rfl, hopen, hclose, rfl⟩, Option.bind_some]
    rw [href]
    exact hbound

/-- One slot whose name does not end with a brace resolves to what is inserted for it. -/
theorem resolveChars_of_fillPiece {inner text : List Char} {supply : Nat}
    (hopen : ¬Doubled opening inner) (hclose : ¬Doubled closing (inner ++ [closing]))
    (hslot : scope.fillPiece supply (.slot inner) = (text, supply)) :
    scope.resolveChars supply (Piece.source (.slot inner)) = (text, supply) := by
  have hscan : scan (Piece.source (.slot inner)) = .text [] :: .slot inner :: scan [] := by
    rw [scan_source hopen hclose, scan_of_not_doubled not_doubled_nil]
  rw [resolveChars_of_scan hscan hslot, resolveChars_of_not_doubled not_doubled_nil]
  simp

/-- One slot for a stored variable resolves to its text, if its name does not end with a brace. -/
theorem resolveChars_source {inner : List Char} (hopen : ¬Doubled opening inner)
    (hclose : ¬Doubled closing (inner ++ [closing]))
    (href : Reference.ofName (trimBlanks inner) = .stored (String.ofList (trimBlanks inner)))
    (supply : Nat) :
    scope.resolveChars supply (Piece.source (.slot inner)) = (scope.storedText inner, supply) :=
  resolveChars_of_fillPiece hopen hclose (fillPiece_of_stored href supply)

/-- One slot whose name ends with a closing brace resolves to the text of the slot before this brace,
and the brace. -/
theorem resolveChars_source_closing {inner : List Char} (hopen : ¬Doubled opening (inner ++ [closing]))
    (hclose : ¬Doubled closing (inner ++ [closing]))
    (href : Reference.ofName (trimBlanks inner) = .stored (String.ofList (trimBlanks inner)))
    (supply : Nat) :
    scope.resolveChars supply (Piece.source (.slot (inner ++ [closing]))) =
      (scope.storedText inner ++ [closing], supply) := by
  simp only [resolveChars, scan_source_closing hopen hclose, fill, fillPiece_of_stored href]
  simp [fillPiece]

/-- What is inserted for a slot under whose name nothing is stored is the slot as it is written. -/
theorem storedText_of_unbound {inner : List Char}
    (hbound : Fields.get? scope.store (String.ofList (trimBlanks inner)) = none) :
    scope.storedText inner = Piece.source (.slot inner) := by
  rw [storedText, hbound]
  rfl

theorem storedText_of_bound {inner : List Char}
    (hbound : Fields.get? scope.store (String.ofList (trimBlanks inner)) = some v) :
    scope.storedText inner = v.textChars := by
  rw [storedText, hbound]
  rfl

/-- The text of one slot that stands for no stored value is no number, or has not changed. -/
theorem kept_or_not_looksNumeric {field name : List Char} (h : Unreserved field)
    (hslot : wholeSlot? field = some name) (hstored : scope.storedValue? field = none)
    (supply : Nat) :
    (scope.resolveChars supply field).1 = field ∨
      looksNumeric (scope.resolveChars supply field).1 = false := by
  obtain ⟨inner, rfl, hopen, hclose, -⟩ := wholeSlot?_eq_some_iff.1 hslot
  rcases not_doubled_concat_or hclose with hend | ⟨outer, rfl⟩
  · left
    have href := h inner (by simp [scan_source hopen hend])
    have hbound : Fields.get? scope.store (String.ofList (trimBlanks inner)) = none := by
      rw [Option.eq_none_iff_forall_ne_some]
      intro v hbound
      rw [storedValue?_eq_some_iff.2 ⟨inner, rfl, hopen, hclose, href, hbound⟩] at hstored
      cases hstored
    rw [resolveChars_source hopen hend href, storedText_of_unbound hbound]
  · right
    have href := h outer (by simp [scan_source_closing hopen hclose])
    rw [resolveChars_source_closing hopen hclose href]
    exact looksNumeric_closing _

/-- **A string whose slots are all for stored variables is not read as a number**: it becomes a stored
value or its text. -/
theorem resolveField_of_unreserved {field : String} (h : Unreserved field.toList) (supply : Nat) :
    scope.resolveField supply field =
      match scope.storedValue? field.toList with
      | some v => (v, supply)
      | none => (.str (scope.resolveText supply field).1, (scope.resolveText supply field).2) := by
  unfold resolveField resolveText
  cases hstored : scope.storedValue? field.toList with
  | some v => rfl
  | none =>
      cases hslot : wholeSlot? field.toList with
      | none => rfl
      | some name =>
          have hkept := kept_or_not_looksNumeric h hslot hstored supply
          rcases hkept with hkept | hnumeric
          · simp [hkept]
          · simp [hnumeric]

/-! ## The value and the text -/

/-- The field is one slot with a closing brace at the end of its name. What is stored under this name
has another text than the slot before this brace, followed by the brace. -/
def Diverges (scope : Scope) (field : List Char) : Prop :=
  ∃ inner v, field = Piece.source (.slot (inner ++ [closing])) ∧
    ¬Doubled opening (inner ++ [closing]) ∧ ¬Doubled closing (inner ++ [closing]) ∧
    Fields.get? scope.store (String.ofList (trimBlanks (inner ++ [closing]))) = some v ∧
    v.textChars ≠ scope.storedText inner ++ [closing]

/-- **The value of a field has the text of the field**, as it stands in a path, a header or an
operand, exactly if the field does not diverge. -/
theorem field_text_eq_iff (scope : Scope) {field : String}
    (hfresh : ¬['u', 'u', 'i', 'd'] <:+: field.toList)
    (henv : ¬['e', 'n', 'v', '.'] <:+: field.toList) (supply : Nat) :
    (scope.resolveField supply field).1.text = (scope.resolveText supply field).1 ↔
      ¬scope.Diverges field.toList := by
  have href : ∀ inner, inner <:+: field.toList →
      Reference.ofName (trimBlanks inner) = .stored (String.ofList (trimBlanks inner)) := by
    intro inner hinner
    exact ofName_of_isInfix hfresh henv hinner
  have hunreserved : Unreserved field.toList := by
    intro inner hinner
    exact href inner ((isInfix_source inner).trans (source_infix_of_mem_scan hinner))
  rw [resolveField_of_unreserved hunreserved]
  cases hstored : scope.storedValue? field.toList with
  | none =>
      -- what diverges stands for a stored value
      refine iff_of_true rfl ?_
      rintro ⟨inner, v, hfield, hopen, hclose, hbound, -⟩
      have hname := href (inner ++ [closing]) (hfield ▸ isInfix_source _)
      rw [storedValue?_eq_some_iff.2 ⟨_, hfield, hopen, hclose, hname, hbound⟩] at hstored
      cases hstored
  | some v =>
      obtain ⟨inner, hfield, hopen, hclose, hname, hbound⟩ := storedValue?_eq_some_iff.1 hstored
      dsimp only
      rw [resolveText, Value.text_eq, String.ofList_inj, hfield]
      rcases not_doubled_concat_or hclose with hend | ⟨outer, rfl⟩
      · rw [resolveChars_source hopen hend hname, storedText_of_bound hbound]
        refine iff_of_true rfl ?_
        rintro ⟨other, w, hsource, -, -, -, -⟩
        obtain rfl := source_slot_injective hsource
        exact hend (doubled_concat_iff.2 (.inr (List.getLast?_concat)))
      · have houter := href outer
          (hfield ▸ (List.prefix_append outer [closing]).isInfix.trans (isInfix_source _))
        rw [resolveChars_source_closing hopen hclose houter]
        constructor
        · rintro htext ⟨other, w, hsource, -, -, hother, hne⟩
          obtain rfl := List.append_cancel_right (source_slot_injective hsource)
          rw [hbound] at hother
          cases hother
          exact hne htext
        · intro hagrees
          by_contra hne
          exact hagrees ⟨outer, v, rfl, hopen, hclose, hbound, hne⟩

/-- Two variables that `{{a}}}` can name. -/
def bracedScope : Scope := ⟨[("a", .int 1), ("a\x7d", .int 2)], fun _ => none⟩

/-- As a field `{{a}}}` is the value of `a}`, and as a text it is that of `a` with a brace. -/
theorem braced_field_diverges :
    ¬['u', 'u', 'i', 'd'] <:+: "\x7b\x7ba\x7d\x7d\x7d".toList ∧
      ¬['e', 'n', 'v', '.'] <:+: "\x7b\x7ba\x7d\x7d\x7d".toList ∧
      bracedScope.Diverges "\x7b\x7ba\x7d\x7d\x7d".toList ∧
      (bracedScope.resolveField 0 "\x7b\x7ba\x7d\x7d\x7d").1 = .int 2 ∧
      (bracedScope.resolveText 0 "\x7b\x7ba\x7d\x7d\x7d").1 = "1\x7d" ∧
      (bracedScope.resolveField 0 "\x7b\x7ba\x7d\x7d\x7d").1.text ≠
        (bracedScope.resolveText 0 "\x7b\x7ba\x7d\x7d\x7d").1 := by
  have hfresh : ¬['u', 'u', 'i', 'd'] <:+: "\x7b\x7ba\x7d\x7d\x7d".toList := by decide
  have henv : ¬['e', 'n', 'v', '.'] <:+: "\x7b\x7ba\x7d\x7d\x7d".toList := by decide
  have hdiverges : bracedScope.Diverges "\x7b\x7ba\x7d\x7d\x7d".toList :=
    ⟨['a'], .int 2, by decide, by decide, by decide, rfl, by decide +kernel⟩
  refine ⟨hfresh, henv, hdiverges, rfl, by decide +kernel, fun heq => ?_⟩
  exact (field_text_eq_iff bracedScope hfresh henv 0).1 heq hdiverges

end Scope

end ScenarioRunner

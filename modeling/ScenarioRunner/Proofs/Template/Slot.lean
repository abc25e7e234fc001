import ScenarioRunner.Proofs.Template.Scan
import ScenarioRunner.Template.Resolve

/-!
# One slot between two texts

A slot behind a text without braces is the first slot that scanning finds (`scan_slot`). When it names
a stored variable it resolves to the text of the variable's value between the texts on both sides, and
asks nothing of the supply of identifiers (`resolveText_slot`).
-/

set_option autoImplicit false

namespace ScenarioRunner

namespace Template

/-- A text without braces. -/
def Braceless (text : List Char) : Prop := opening ∉ text ∧ closing ∉ text

instance (text : List Char) : Decidable (Braceless text) :=
  inferInstanceAs (Decidable (opening ∉ text ∧ closing ∉ text))

/-- A name that a slot can use for a stored variable: one without braces and without blanks at its
ends that is not reserved. -/
structure PlainName (name : String) : Prop where
  braceless : Braceless name.toList
  trimmed : trimBlanks name.toList = name.toList
  not_fresh : name ≠ "uuid"
  not_environment : ¬['e', 'n', 'v', '.'] <+: name.toList

/-- The template that is one slot. -/
def slotOf (name : String) : String := String.ofList (Piece.source (.slot name.toList))

/-! ## Scanning -/

/-- A slot behind a text without braces is cut out. -/
theorem scan_slot {before name : List Char} (behind : List Char) (hbefore : opening ∉ before)
    (hname : Braceless name) :
    scan (before ++ Piece.source (.slot name) ++ behind) =
      .text before :: .slot name :: scan behind :=
  scan_slot_of_first behind (not_doubled_concat hbefore) (not_doubled_of_not_mem hname.1)
    (not_doubled_concat hname.2)

/-- A name that is not reserved is that of a stored variable. -/
theorem Reference.ofName_of_not_reserved {name : List Char} (hfresh : name ≠ ['u', 'u', 'i', 'd'])
    (henv : ¬['e', 'n', 'v', '.'] <+: name) :
    Reference.ofName name = .stored (String.ofList name) := by
  unfold Reference.ofName
  split
  · exact absurd rfl hfresh
  · exact absurd (List.prefix_append ['e', 'n', 'v', '.'] _) henv
  · rfl

/-- A stored variable is referred to by its name. -/
theorem Reference.eq_of_ofName {name : List Char} {var : String}
    (h : Reference.ofName name = .stored var) : var = String.ofList name := by
  unfold Reference.ofName at h
  split at h
  · cases h
  · cases h
  · cases h
    rfl

theorem PlainName.ofName_eq {name : String} (h : PlainName name) :
    Reference.ofName name.toList = .stored name := by
  have hfresh : name.toList ≠ ['u', 'u', 'i', 'd'] :=
    fun heq => h.not_fresh (String.toList_inj.1 heq)
  rw [Reference.ofName_of_not_reserved hfresh h.not_environment, String.ofList_toList]

end Template

/-! ## Resolving -/

namespace Scope

open Template

variable {scope : Scope} {name : String} {v : Value}

/-- A template whose first piece is a text and whose second one is a slot is filled in this order. -/
theorem resolveChars_of_scan {template before inner text behind : List Char}
    (hscan : scan template = .text before :: .slot inner :: scan behind) {supply after : Nat}
    (hslot : scope.fillPiece supply (.slot inner) = (text, after)) :
    scope.resolveChars supply template =
      (before ++ text ++ (scope.resolveChars after behind).1,
        (scope.resolveChars after behind).2) := by
  have htext : scope.fillPiece supply (.text before) = (before, supply) := rfl
  unfold resolveChars
  rw [hscan, fill, htext]
  dsimp only
  rw [fill, hslot, List.append_assoc]

/-- A template in which no slot is opened resolves to itself. -/
theorem resolveChars_of_not_doubled {template : List Char} (h : ¬Doubled opening template)
    (supply : Nat) : scope.resolveChars supply template = (template, supply) := by
  rw [resolveChars, scan_of_not_doubled h, fill, fillPiece]
  simp [fill]

/-- The text of a slot whose name is not reserved: that of the stored value, or the slot as it is
written. -/
def storedText (scope : Scope) (inner : List Char) : List Char :=
  ((Fields.get? scope.store (String.ofList (trimBlanks inner))).map Value.textChars).getD
    (Piece.source (.slot inner))

theorem fillPiece_of_stored {inner : List Char}
    (href : Reference.ofName (trimBlanks inner) = .stored (String.ofList (trimBlanks inner)))
    (supply : Nat) : scope.fillPiece supply (.slot inner) = (scope.storedText inner, supply) := by
  simp only [fillPiece, href, read, storedText]

/-- A slot that names a stored variable is filled with the text of its value. -/
theorem fillPiece_of_plainName (hname : PlainName name)
    (hbound : Fields.get? scope.store name = some v) (supply : Nat) :
    scope.fillPiece supply (.slot name.toList) = (v.textChars, supply) := by
  simp [fillPiece, hname.trimmed, hname.ofName_eq, read, hbound]

/-- **A slot that names a stored variable stands for the text of its value**, between the texts on
both sides of it. -/
theorem resolveText_slot {before behind : List Char} (hbefore : opening ∉ before)
    (hbehind : opening ∉ behind) (hname : PlainName name)
    (hbound : Fields.get? scope.store name = some v) (supply : Nat) :
    scope.resolveText supply
        (String.ofList (before ++ Piece.source (.slot name.toList) ++ behind)) =
      (String.ofList (before ++ v.textChars ++ behind), supply) := by
  have hslot := fillPiece_of_plainName hname hbound supply
  rw [resolveText, String.toList_ofList,
    resolveChars_of_scan (scan_slot behind hbefore hname.braceless) hslot,
    resolveChars_of_not_doubled (not_doubled_of_not_mem hbehind)]

/-- An operand that is one slot resolves to the text of the variable's value. -/
theorem resolveOperand_slotOf (hname : PlainName name)
    (hbound : Fields.get? scope.store name = some v) (supply : Nat) :
    scope.resolveOperand supply (.str (slotOf name)) =
      (.str (String.ofList v.textChars), supply) := by
  have hnone : opening ∉ ([] : List Char) := List.not_mem_nil
  have htext := resolveText_slot hnone hnone hname hbound supply
  rw [List.nil_append, List.append_nil, List.nil_append, List.append_nil] at htext
  rw [resolveOperand, slotOf, htext]

end Scope

end ScenarioRunner

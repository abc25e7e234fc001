import ScenarioRunner.Proofs.Template.Slot
import ScenarioRunner.Proofs.Text.Blank

/-!
# A slot in its surroundings

A slot that names a stored variable is filled whatever text with unclosed openers stands before it,
and neither the text before it nor the inserted text is scanned again. There is one exception: when
the text before it ends with a brace that makes the first two opening braces together with the slot's
own, the slot starts one brace earlier and has another name
(`slot_filled_unless_opened_before`). So `{{{b}}` is left as it is written, although `b` is stored
(`braced_slot_unfilled`).
-/

set_option autoImplicit false

namespace ScenarioRunner

namespace Template

/-- A text without openers that ends with an opening brace: this brace and the first one behind it
are an opener. -/
def OpensBefore (before : List Char) : Prop :=
  ¬Doubled opening before ∧ before.getLast? = some opening

instance (before : List Char) : Decidable (OpensBefore before) :=
  inferInstanceAs (Decidable (¬Doubled opening before ∧ before.getLast? = some opening))

/-- A slot is cut out of its surroundings, unless it starts before its own braces. -/
theorem scan_slot_of_not_opensBefore {before name : List Char} (behind : List Char)
    (hclosers : ¬Doubled closing before) (hname : Braceless name) (hopens : ¬OpensBefore before) :
    scan (before ++ Piece.source (.slot name) ++ behind) =
      .text before :: .slot name :: scan behind := by
  by_cases hopened : Doubled opening before
  · exact scan_slot_of_opened behind hopened hclosers hname.1 hname.2
  · have hbefore : ¬Doubled opening (before ++ [opening]) := by
      rw [doubled_concat_iff]
      rintro (hdouble | hend)
      · exact hopened hdouble
      · exact hopens ⟨hopened, hend⟩
    exact scan_slot_of_first behind hbefore (not_doubled_of_not_mem hname.1) (not_doubled_concat hname.2)

/-- A slot that starts before its own braces has the first of them in its name. -/
theorem scan_slot_of_opensBefore {outer name : List Char} (behind : List Char)
    (hname : Braceless name) (hopens : OpensBefore (outer ++ [opening])) :
    scan (outer ++ [opening] ++ Piece.source (.slot name) ++ behind) =
      .text outer :: .slot (opening :: name) :: scan behind := by
  have hsource : outer ++ [opening] ++ Piece.source (.slot name) ++ behind =
      outer ++ Piece.source (.slot (opening :: name)) ++ behind := by
    simp [Piece.source]
  have hclose : closing ∉ opening :: name := by
    rw [List.mem_cons, not_or]
    exact ⟨by decide, hname.2⟩
  rw [hsource, scan_slot_of_first behind hopens.1 (not_doubled_cons hname.1) (not_doubled_concat hclose)]

end Template

namespace Scope

open Template

variable {scope : Scope} {name : String} {v : Value}

/-- The text of a slot with an opening brace before its name. -/
theorem storedText_opening (htrimmed : trimBlanks name.toList = name.toList) :
    String.ofList (scope.storedText (opening :: name.toList)) =
      ((Fields.get? scope.store ("\x7b" ++ name)).map Value.text).getD ("\x7b" ++ slotOf name) := by
  have hname : String.ofList (trimBlanks (opening :: name.toList)) = "\x7b" ++ name := by
    rw [trimBlanks_cons (by decide) htrimmed, ← String.toList_inj]
    simp [opening]
  rw [storedText, hname]
  cases Fields.get? scope.store ("\x7b" ++ name) with
  | some w => exact (Value.text_eq w).symm
  | none =>
      rw [← String.toList_inj]
      simp [slotOf, Piece.source, opening]

/-- A text with a slot in it resolves to what its characters resolve to. -/
theorem resolveText_of_resolveChars {before text behind template : String} {supply : Nat}
    (h : scope.resolveChars supply template.toList =
      (before.toList ++ text.toList ++ (scope.resolveChars supply behind.toList).1,
        (scope.resolveChars supply behind.toList).2)) :
    scope.resolveText supply template =
      (before ++ text ++ (scope.resolveText supply behind).1,
        (scope.resolveText supply behind).2) := by
  simp only [resolveText, h, String.ofList_append, String.ofList_toList]

/-- **A slot of a stored variable is filled in any surroundings, and what is inserted is not scanned
again**: before it may stand any text without closers, behind it any text at all. Only when the text
before it is one that `OpensBefore` the slot, the slot has the brace at the end of this text in its
name. -/
theorem slot_filled_unless_opened_before {before : String} (behind : String)
    (hclosers : ¬Doubled closing before.toList) (hname : PlainName name)
    (hbound : Fields.get? scope.store name = some v) (supply : Nat) :
    (¬OpensBefore before.toList →
      scope.resolveText supply (before ++ slotOf name ++ behind) =
        (before ++ v.text ++ (scope.resolveText supply behind).1,
          (scope.resolveText supply behind).2)) ∧
    ∀ outer : String, before = outer ++ "\x7b" → OpensBefore before.toList →
      scope.resolveText supply (before ++ slotOf name ++ behind) =
        (outer ++ ((Fields.get? scope.store ("\x7b" ++ name)).map Value.text).getD
            ("\x7b" ++ slotOf name) ++ (scope.resolveText supply behind).1,
          (scope.resolveText supply behind).2) := by
  have htemplate : ∀ text : String, (text ++ slotOf name ++ behind).toList =
      text.toList ++ Piece.source (.slot name.toList) ++ behind.toList := by
    intro text
    rw [String.toList_append, String.toList_append, slotOf, String.toList_ofList]
  constructor
  · intro hopens
    have hscan := scan_slot_of_not_opensBefore behind.toList hclosers hname.braceless hopens
    have hslot := fillPiece_of_plainName hname hbound supply
    refine resolveText_of_resolveChars ?_
    rw [htemplate, resolveChars_of_scan hscan hslot, Value.text_eq, String.toList_ofList]
  · rintro outer rfl hopens
    have htext : (outer ++ "\x7b").toList = outer.toList ++ [opening] := String.toList_append
    rw [htext] at hopens
    have hscan := scan_slot_of_opensBefore behind.toList hname.braceless hopens
    -- no reserved name begins with a brace
    have hslot : scope.fillPiece supply (.slot (opening :: name.toList)) =
        (scope.storedText (opening :: name.toList), supply) := by
      refine fillPiece_of_stored ?_ supply
      rw [trimBlanks_cons (by decide) hname.trimmed]
      exact Reference.ofName_of_not_reserved (by simp [opening]) (by simp [opening])
    rw [← storedText_opening hname.trimmed]
    refine resolveText_of_resolveChars ?_
    rw [htemplate, htext, resolveChars_of_scan hscan hslot, String.toList_ofList]

/-- A store with a text that is itself a template. -/
def nestedScope : Scope := ⟨[("b", .str "\x7b\x7bc\x7d\x7d"), ("c", .str "no")], fun _ => none⟩

/-- Behind a single brace the slot of `b` is not filled, so that `{{{b}}` stays as it is; behind an
opener that is not closed it is filled. -/
theorem braced_slot_unfilled :
    (¬Doubled closing "\x7b".toList ∧ PlainName "b" ∧
      Fields.get? nestedScope.store "b" = some (.str "\x7b\x7bc\x7d\x7d") ∧
      OpensBefore "\x7b".toList ∧
      nestedScope.resolveText 0 "\x7b\x7b\x7bb\x7d\x7d" = ("\x7b\x7b\x7bb\x7d\x7d", 0)) ∧
    ¬Doubled closing "\x7b\x7b \x7b".toList ∧ ¬OpensBefore "\x7b\x7b \x7b".toList ∧
      nestedScope.resolveText 0 "\x7b\x7b \x7b\x7b\x7bb\x7d\x7d\x7b\x7bc" =
        ("\x7b\x7b \x7b\x7b\x7bc\x7d\x7d\x7b\x7bc", 0) := by
  have hname : PlainName "b" := ⟨by decide, by decide, by decide, by decide⟩
  have hbound : Fields.get? nestedScope.store "b" = some (.str "\x7b\x7bc\x7d\x7d") := rfl
  have hbrace : ¬Doubled closing "\x7b".toList := by decide
  have hopener : ¬Doubled closing "\x7b\x7b \x7b".toList := by decide
  have hopens : OpensBefore "\x7b".toList := by decide
  have hunopened : ¬OpensBefore "\x7b\x7b \x7b".toList := by decide
  refine ⟨⟨hbrace, hname, hbound, hopens, ?_⟩, hopener, hunopened, ?_⟩
  · have hrest : nestedScope.resolveText 0 "" = ("", 0) := by decide +kernel
    have hunfilled := (slot_filled_unless_opened_before "" hbrace hname hbound 0).2 "" rfl hopens
    rw [hrest] at hunfilled
    exact hunfilled
  · have hrest : nestedScope.resolveText 0 "\x7b\x7bc" = ("\x7b\x7bc", 0) := by decide +kernel
    have hfilled :=
      (slot_filled_unless_opened_before "\x7b\x7bc" hopener hname hbound 0).1 hunopened
    rw [hrest] at hfilled
    exact hfilled

end Scope

end ScenarioRunner

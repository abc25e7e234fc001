import ScenarioRunner.Proofs.Decimal.Nearest
import ScenarioRunner.Proofs.Value.NumericText

/-!
# Strings that count as numbers

A string counts as a number if what is left of it after trimming is a decimal literal that is rounded to a
finite float or is an integer literal of 64 bits. `Number.Reads` says without the reader which number this
is: the integer itself in the signed form, or in the unsigned form if it is beyond the signed range, and
the nearest float for all other literals (`number?_str_eq_some_iff`). Since an integer literal is also
read as a float where no 64-bit form holds it, a literal is refused only if it is too great
(`number_string_classified`).
-/

set_option autoImplicit false

namespace ScenarioRunner

open Binary64 (NearestTo)

namespace Literal

variable {text : List Char} {m : Int}

/-! ## Integer literals -/

/-- An integer literal of the signed range is read in the signed form. -/
theorem WritesInteger.ofLiteral?_signed (h : WritesInteger text m) (hlow : -2 ^ 63 ≤ m)
    (hhigh : m < 2 ^ 63) : Number.ofLiteral? text = some (.int (Int64.ofInt m)) := by
  obtain ⟨negative, n, hinteger, -, rfl⟩ := h.read
  have hsigned : n < Value.signedBound ∨ (negative ∧ n = Value.signedBound) := by
    unfold Value.signedBound
    cases negative <;> simp [Number.ofSign] at hlow hhigh ⊢ <;> omega
  simp only [Number.ofLiteral?_eq, hinteger]
  rw [if_pos hsigned]

/-- An integer literal beyond the signed range is read in the unsigned form, if this holds it. -/
theorem WritesInteger.ofLiteral?_unsigned (h : WritesInteger text m) (hlow : 2 ^ 63 ≤ m)
    (hhigh : m < 2 ^ 64) : Number.ofLiteral? text = some (.uint (UInt64.ofNat m.toNat)) := by
  obtain ⟨negative, n, hinteger, -, rfl⟩ := h.read
  cases negative with
  | true =>
      simp only [Number.ofSign, if_true] at hlow
      omega
  | false =>
      simp only [Number.ofSign, Bool.false_eq_true, if_false] at hlow hhigh ⊢
      have hbeyond : ¬(n < Value.signedBound ∨ ((false : Bool) ∧ n = Value.signedBound)) := by
        unfold Value.signedBound
        simp
        omega
      have hheld : n < Value.unsignedBound := by
        unfold Value.unsignedBound
        omega
      simp only [Number.ofLiteral?_eq, hinteger]
      rw [if_neg hbeyond, if_pos ⟨rfl, hheld⟩, Int.toNat_natCast]

end Literal

namespace Number

open Literal (Spells WritesInteger IsInteger64)

variable {text : List Char} {a : Number}

/-- The number that a text writes. Integers are exact, and what is no integer of 64 bits is rounded to the
nearest float. -/
inductive Reads (text : List Char) : Number → Prop where
  | signed {n : Int64} (writes : WritesInteger text n.toInt) : Reads text (int n)
  | unsigned {n : UInt64} (writes : WritesInteger text n.toNat) (beyond : 2 ^ 63 ≤ n.toNat) :
      Reads text (uint n)
  | rounded {l : Literal} (spells : Spells text l) (other : ¬IsInteger64 text)
      (nearest : NearestTo l.toBinary64 l.value) : Reads text (float l.toBinary64)

/-- An integer literal of 64 bits is read as one of its two forms. -/
theorem reads_of_isInteger64 (hinteger : IsInteger64 text) (h : ofLiteral? text = some a) :
    Reads text a := by
  obtain ⟨m, hwrites, hlow, hhigh⟩ := hinteger
  by_cases hsigned : m < 2 ^ 63
  · have hvalue : (Int64.ofInt m).toInt = m := Int64.toInt_ofInt_of_le hlow hsigned
    rw [hwrites.ofLiteral?_signed hlow hsigned] at h
    cases h
    exact .signed (by rwa [hvalue])
  · have hsize : m.toNat < UInt64.size := by
      change m.toNat < 2 ^ 64
      omega
    have hvalue : ((UInt64.ofNat m.toNat).toNat : Int) = m := by
      rw [UInt64.toNat_ofNat_of_lt' hsize]
      omega
    rw [hwrites.ofLiteral?_unsigned (by omega) hhigh] at h
    cases h
    exact .unsigned (by rwa [hvalue]) (by omega)

/-- **What is read of a text is the number that it writes**, and no other text is read. -/
theorem ofLiteral?_eq_some_iff : ofLiteral? text = some a ↔ Reads text a := by
  constructor
  · intro h
    -- the integer forms come first, so a literal is rounded only if neither of them holds it
    by_cases hinteger : IsInteger64 text
    · exact reads_of_isInteger64 hinteger h
    · obtain ⟨l, hspells, ⟨hfits, -⟩ | ⟨hother, hfinite, rfl⟩⟩ := exists_spells_of_ofLiteral? h
      · exact absurd hfits hinteger
      · exact .rounded hspells hother (Literal.nearestTo_toBinary64 hfinite)
  · intro h
    cases h with
    | @signed n writes =>
        rw [writes.ofLiteral?_signed n.le_toInt n.toInt_lt, Int64.ofInt_toInt]
    | @unsigned n writes beyond =>
        have hhigh := n.toNat_lt
        rw [writes.ofLiteral?_unsigned (by omega) (by omega), Int.toNat_natCast, UInt64.ofNat_toNat]
    | @rounded l spells other nearest =>
        exact ofLiteral?_of_not_fits (Literal.parse?_eq_some_iff.2 spells) nearest.isFinite
          (Literal.not_fits_of_not_isInteger64 other)

/-- A text writes a number when it is a literal that is rounded to a finite float or fits 64 bits. -/
theorem exists_reads_iff :
    (∃ a, Reads text a) ↔ ∃ l, Spells text l ∧ (l.toBinary64.isFinite = true ∨ IsInteger64 text) := by
  simp only [← ofLiteral?_eq_some_iff]
  constructor
  · rintro ⟨a, h⟩
    obtain ⟨l, hspells, ⟨hfits, -⟩ | ⟨-, hfinite, -⟩⟩ := exists_spells_of_ofLiteral? h
    · exact ⟨l, hspells, .inr hfits⟩
    · exact ⟨l, hspells, .inl hfinite⟩
  · rintro ⟨l, hspells, hfinite | hfits⟩
    · exact exists_ofLiteral? hspells hfinite
    · obtain ⟨negative, n, hinteger, hn⟩ := Literal.isInteger64_iff.1 hfits
      obtain ⟨a, hread, -⟩ := ofLiteral?_of_fits hinteger hn
      exact ⟨a, hread⟩

end Number

namespace Value

open Literal (Spells IsInteger64)

/-! ## Strings -/

theorem number?_str_eq_some_iff {s : String} {a : Number} :
    (str s).number? = some a ↔ Number.Reads (trimBlanks s.toList) a :=
  Number.ofLiteral?_eq_some_iff

/-- **A string counts as a number when it is a decimal literal that is rounded to a finite float or is an
integer of 64 bits.** It is then the integer itself, in the signed form or beyond its range in the
unsigned one, and for every other literal the nearest float. The literals that are rounded to a finite
float are those below the middle between the greatest one and `2 ^ 1024`. -/
theorem number_string_classified (s : String) :
    ((∃ a, (str s).number? = some a) ↔
        ∃ l, Spells (trimBlanks s.toList) l ∧
          (l.toBinary64.isFinite = true ∨ IsInteger64 (trimBlanks s.toList))) ∧
      (∀ a, (str s).number? = some a ↔ Number.Reads (trimBlanks s.toList) a) ∧
      ∀ l : Literal, l.toBinary64.isFinite = true ↔ |l.value| < 2 ^ 1024 - 2 ^ 970 := by
  refine ⟨?_, fun a => number?_str_eq_some_iff, Literal.isFinite_toBinary64_iff⟩
  simp only [number?_str_eq_some_iff]
  exact Number.exists_reads_iff

/-- Texts that are nearly literals are no numbers, and neither is a literal that is too great. -/
example :
    ["+", ".", "1.2.3", "e5", "5e", "1_000", "inf", "NaN", "1e400", "-"].all
      (fun s => (str s).number?.isNone) = true := by decide +kernel

end Value

end ScenarioRunner

import ScenarioRunner.Proofs.Decimal.Grammar
import ScenarioRunner.Proofs.Text.Blank
import ScenarioRunner.Proofs.Value.Number
import ScenarioRunner.Value.Text

/-!
# Reading literals as numbers

An integer literal of the 64-bit range is read exactly, in whichever form can hold it
(`ofLiteral?_of_fits`), and all other literals are rounded to a float (`ofLiteral?_of_not_fits`). So
the text of a 64-bit integer is read as this integer (`ofLiteral?_integer`). What is taken for a number,
a string that is read as one included, is compared with another such value by the values of the two
(`same_iff_of_number?`, `compare?_of_number?`).
-/

set_option autoImplicit false

namespace ScenarioRunner

open Literal

/-! ## Characters -/

namespace Literal

section Characters

open Number (isLiteralChar)

variable {text digits sign mantissa whole fraction exponent : List Char} {negative : Bool} {e : Int}
  {l : Literal}

theorem IsDigits.isLiteralChar (h : IsDigits digits) : ∀ c ∈ digits, isLiteralChar c = true := by
  intro c hc
  simp [Number.isLiteralChar, h.decimal c hc]

theorem Sign.isLiteralChar (h : Sign sign negative) : ∀ c ∈ sign, isLiteralChar c = true := by
  cases h with
  | absent => exact List.forall_mem_nil _
  | plus => exact List.forall_mem_singleton.2 (by decide)
  | minus => exact List.forall_mem_singleton.2 (by decide)

theorem Mantissa.isLiteralChar (h : Mantissa mantissa whole fraction) :
    ∀ c ∈ mantissa, isLiteralChar c = true := by
  cases h with
  | whole isDigits => exact isDigits.isLiteralChar
  | point isDigits =>
      obtain ⟨hwhole, hfraction⟩ := List.forall_mem_append.1 isDigits.isLiteralChar
      exact List.forall_mem_append.2 ⟨hwhole, List.forall_mem_cons.2 ⟨by decide, hfraction⟩⟩

theorem Exponent.isLiteralChar (h : Exponent exponent e) :
    ∀ c ∈ exponent, isLiteralChar c = true := by
  cases h with
  | absent => exact List.forall_mem_nil _
  | marked isMark isSign isDigits =>
      have hmark : ∀ {mark : Char}, mark = 'e' ∨ mark = 'E' → isLiteralChar mark = true := by
        rintro mark (rfl | rfl)
        · decide
        · decide
      exact List.forall_mem_cons.2 ⟨hmark isMark,
        List.forall_mem_append.2 ⟨isSign.isLiteralChar, isDigits.isLiteralChar⟩⟩

/-- A literal holds digits, points, exponent marks and signs only. -/
theorem Spells.isLiteralChar (h : Spells text l) : ∀ c ∈ text, isLiteralChar c = true := by
  cases h with
  | parts isSign isMantissa isExponent =>
      simp only [List.forall_mem_append]
      exact ⟨isSign.isLiteralChar, isMantissa.isLiteralChar, isExponent.isLiteralChar⟩

theorem Spells.ne_nil (h : Spells text l) : text ≠ [] := by
  rintro rfl
  rw [← parse?_eq_some_iff] at h
  cases h

end Characters

end Literal

/-! ## Trimming -/

theorem isBlank_of_isDigit {c : Char} (h : c.isDigit = true) : isBlank c = false := by
  have hrange : 48 ≤ c.toNat ∧ c.toNat ≤ 57 := by
    simpa [Char.isDigit, UInt32.le_iff_toNat_le] using h
  simp [isBlank]
  omega

/-- A number without an exponent has no blanks to trim. -/
theorem trimBlanks_signed {negative : Bool} {body : List Char}
    (h : ∀ c ∈ body, c.isDigit = true ∨ c = '.') :
    trimBlanks (signed negative body) = signed negative body := by
  refine trimBlanks_eq_self fun c hc => ?_
  have hbody : c ∈ body → isBlank c = false := fun hmem => by
    rcases h c hmem with hdigit | rfl
    · exact isBlank_of_isDigit hdigit
    · decide
  cases negative with
  | false => exact hbody hc
  | true =>
      rcases List.mem_cons.1 hc with rfl | hmem
      · decide
      · exact hbody hmem

/-! ## Integers -/

theorem Json.integer_eq (n : Int) :
    Json.integer n = signed (decide (n < 0)) (Nat.toDigits 10 n.natAbs) := by
  unfold Json.integer signed
  split <;> simp_all

theorem trimBlanks_integer (n : Int) : trimBlanks (Json.integer n) = Json.integer n := by
  rw [Json.integer_eq]
  exact trimBlanks_signed fun c hc => .inl (isDigit_toDigits _ c hc)

theorem Literal.integer?_integer (n : Int) :
    Literal.integer? (Json.integer n) = some (decide (n < 0), n.natAbs) := by
  rw [Json.integer_eq, integer?_digits _ Nat.toDigits_ne_nil (isDigit_toDigits _),
    natOfDigits_toDigits]

namespace Number

open Binary64

/-- The integer with a sign and a distance from zero. -/
def ofSign (negative : Bool) (n : Nat) : Int := if negative then -(n : Int) else n

theorem ofSign_natAbs (n : Int) : ofSign (decide (n < 0)) n.natAbs = n := by
  unfold ofSign
  by_cases hneg : n < 0
  · rw [if_pos (decide_eq_true hneg)]
    omega
  · rw [if_neg (by simpa using hneg)]
    omega

/-- Whether the integer with a sign and a distance from zero is read in one of the 64-bit forms. -/
def Fits (negative : Bool) (n : Nat) : Prop :=
  n < Value.signedBound ∨ negative = true ∧ n = Value.signedBound ∨
    negative = false ∧ n < Value.unsignedBound

/-- What fits is what one of the two 64-bit ranges holds. -/
theorem fits_iff {negative : Bool} {n : Nat} :
    Fits negative n ↔ -2 ^ 63 ≤ ofSign negative n ∧ ofSign negative n < 2 ^ 64 := by
  unfold Fits Value.signedBound Value.unsignedBound
  cases negative with
  | false =>
      simp only [ofSign, Bool.false_eq_true, if_false, false_and, false_or, true_and]
      omega
  | true =>
      simp only [ofSign, if_true, Bool.true_eq_false, false_and, or_false, true_and]
      omega

/-- The filter in front of the float reader keeps nothing from it that it would read, since a literal
has no other characters. -/
theorem filtered_parse? {α : Type} (text : List Char) (read : Literal → Option α) :
    (if text.all isLiteralChar then (Literal.parse? text).bind read else none) =
      (Literal.parse? text).bind read := by
  cases hparse : Literal.parse? text with
  | none => exact ite_self _
  | some literal =>
      exact if_pos (List.all_eq_true.2 (Literal.parse?_eq_some_iff.1 hparse).isLiteralChar)

/-- An integer in the range is read exactly, and everything else is rounded: neither the filter nor
the check for an empty text makes a difference. -/
theorem ofLiteral?_eq (text : List Char) :
    ofLiteral? text =
      let rounded := (Literal.parse? text).bind fun literal =>
        if literal.toBinary64.isFinite then some (float literal.toBinary64) else none
      match Literal.integer? text with
      | some (minus, n) =>
        if n < Value.signedBound ∨ (minus ∧ n = Value.signedBound) then
          some (int (Int64.ofInt (ofSign minus n)))
        else if !minus ∧ n < Value.unsignedBound then some (uint (UInt64.ofNat n))
        else rounded
      | none => rounded := by
  unfold ofLiteral?
  dsimp only
  rw [filtered_parse?]
  -- an empty text is no literal of either kind
  cases text with
  | nil => rfl
  | cons c rest => rfl

/-- An integer literal of the 64-bit range is read exactly. -/
theorem ofLiteral?_of_fits {text : List Char} {negative : Bool} {n : Nat}
    (h : Literal.integer? text = some (negative, n)) (hfits : Fits negative n) :
    ∃ a, ofLiteral? text = some a ∧ a.Finite ∧ a.units = ofSign negative n * unitsPerOne := by
  rw [ofLiteral?_eq]
  simp only [h]
  by_cases hsigned : n < Value.signedBound ∨ (negative ∧ n = Value.signedBound)
  · rw [if_pos hsigned]
    have hrange : -2 ^ 63 ≤ ofSign negative n ∧ ofSign negative n < 2 ^ 63 := by
      unfold Value.signedBound at hsigned
      cases negative <;> simp [ofSign] at hsigned ⊢ <;> omega
    refine ⟨_, rfl, trivial, ?_⟩
    change (Int64.ofInt (ofSign negative n)).toInt * _ = _
    rw [Int64.toInt_ofInt_of_le hrange.1 hrange.2]
  · have hunsigned : negative = false ∧ n < Value.unsignedBound := by
      rcases hfits with hsmall | hleast | hunsigned
      · exact absurd (.inl hsmall) hsigned
      · exact absurd (.inr hleast) hsigned
      · exact hunsigned
    obtain ⟨rfl, hn⟩ := hunsigned
    rw [if_neg hsigned, if_pos ⟨rfl, hn⟩]
    refine ⟨_, rfl, trivial, ?_⟩
    change ((UInt64.ofNat n).toNat : Int) * _ = _
    rw [UInt64.toNat_ofNat_of_lt' hn]
    rfl

/-- What is no integer literal of the 64-bit range is rounded, if it is a literal. -/
theorem ofLiteral?_eq_rounded {text : List Char}
    (h : ∀ negative n, Literal.integer? text = some (negative, n) → ¬Fits negative n) :
    ofLiteral? text = (Literal.parse? text).bind fun literal =>
      if literal.toBinary64.isFinite then some (float literal.toBinary64) else none := by
  rw [ofLiteral?_eq]
  cases hinteger : Literal.integer? text with
  | none => rfl
  | some read =>
      obtain ⟨negative, n⟩ := read
      obtain ⟨hsmall, hleast, hunsigned⟩ := by simpa only [Fits, not_or] using h negative n hinteger
      dsimp only
      rw [if_neg (not_or.2 ⟨hsmall, hleast⟩), if_neg (by simpa using hunsigned)]

/-- An integer literal out of the 64-bit range is rounded, like every literal with a fraction. -/
theorem ofLiteral?_of_not_fits {text : List Char} {literal : Literal}
    (hparse : Literal.parse? text = some literal) (hfinite : literal.toBinary64.isFinite = true)
    (h : ∀ negative n, Literal.integer? text = some (negative, n) → ¬Fits negative n) :
    ofLiteral? text = some (float literal.toBinary64) := by
  rw [ofLiteral?_eq_rounded h, hparse, Option.bind_some, if_pos hfinite]

/-- The text of a 64-bit integer is read as this integer, in whatever form. -/
theorem ofLiteral?_integer {n : Int} (hlow : -(Value.signedBound : Int) ≤ n)
    (hhigh : n < (Value.unsignedBound : Int)) :
    ∃ a, ofLiteral? (Json.integer n) = some a ∧ a.Finite ∧ a.units = n * unitsPerOne := by
  have hfits : Fits (decide (n < 0)) n.natAbs := by
    rw [fits_iff, ofSign_natAbs]
    exact ⟨hlow, hhigh⟩
  obtain ⟨a, hread, hfinite, hunits⟩ := ofLiteral?_of_fits (Literal.integer?_integer n) hfits
  rw [ofSign_natAbs] at hunits
  exact ⟨a, hread, hfinite, hunits⟩

/-- What is read as a number is finite. -/
theorem finite_of_ofLiteral? {text : List Char} {a : Number}
    (h : ofLiteral? text = some a) : a.Finite := by
  have hrounded : ((Literal.parse? text).bind fun literal =>
      if literal.toBinary64.isFinite then some (float literal.toBinary64) else none) =
        some a → a.Finite := by
    intro hread
    obtain ⟨literal, -, hliteral⟩ := Option.bind_eq_some_iff.1 hread
    obtain ⟨hfinite, ha⟩ := Option.ite_none_right_eq_some.1 hliteral
    cases ha
    exact hfinite
  rw [ofLiteral?_eq] at h
  dsimp only at h
  -- an integer that fits is read exactly, and everything else is rounded
  split at h
  · split at h
    · cases h
      trivial
    · split at h
      · cases h
        trivial
      · exact hrounded h
  · exact hrounded h

end Number

/-! ## What is taken for a number -/

namespace Value

variable {v e : Value} {a b : Number}

/-- What a value is taken for as a number is finite. -/
theorem finite_of_number? (h : e.number? = some b) : b.Finite := by
  cases e with
  | int n =>
      cases h
      trivial
  | uint n =>
      cases h
      trivial
  | float x =>
      obtain ⟨hfinite, hx⟩ := Option.ite_none_right_eq_some.1 h
      cases hx
      exact hfinite
  | str s => exact Number.finite_of_ofLiteral? h
  | null | bool _ | list _ | map _ => cases h

/-- What is taken for a number is one or is a string. -/
theorem eq_ofNumber_or_str (h : e.number? = some b) :
    e = ofNumber b ∨ ∃ s, e = str s := by
  cases e with
  | int n =>
      cases h
      exact .inl rfl
  | uint n =>
      cases h
      exact .inl rfl
  | float x =>
      obtain ⟨-, hx⟩ := Option.ite_none_right_eq_some.1 h
      cases hx
      exact .inl rfl
  | str s => exact .inr ⟨s, rfl⟩
  | null | bool _ | list _ | map _ => cases h

/-- A number equals what is taken for a number when the values of the two are the same. -/
theorem ofNumber_same_iff (ha : a.Finite) (h : e.number? = some b) :
    (ofNumber a).same e = true ↔ a.units = b.units := by
  have hb := finite_of_number? h
  rcases eq_ofNumber_or_str h with rfl | ⟨s, rfl⟩
  · exact same_ofNumber_iff ha hb
  · have hkind : (ofNumber a).kind ≠ (str s).kind := by
      cases a <;> simp [ofNumber, kind]
    have hnull : (ofNumber a).isNull = false := by cases a <;> rfl
    rw [same_of_kind_ne hkind hnull rfl, sameAcrossKinds, number?_ofNumber ha, h]
    exact Number.same_iff ha hb

/-- What is taken for a number equals what has its value, unless both are strings. -/
theorem same_iff_of_number? (hv : v.number? = some a) (he : e.number? = some b)
    (hstrings : ∀ s t, v = str s → e ≠ str t) : v.same e = true ↔ a.units = b.units := by
  rcases eq_ofNumber_or_str hv with rfl | ⟨s, rfl⟩
  · exact ofNumber_same_iff (finite_of_number? hv) he
  · rcases eq_ofNumber_or_str he with rfl | ⟨t, rfl⟩
    · rw [same_comm, ofNumber_same_iff (finite_of_number? he) hv]
      exact eq_comm
    · exact absurd rfl (hstrings s t rfl)

/-- What is taken for a number is compared by its value. -/
theorem compare?_of_number? (hv : v.number? = some a) (he : e.number? = some b) :
    v.compare? e = some (compare a.units b.units) := by
  rw [compare?, hv, he]
  exact Number.compare?_eq (finite_of_number? hv) (finite_of_number? he)

end Value

end ScenarioRunner

import ScenarioRunner.Proofs.Template.Field
import ScenarioRunner.Proofs.Value.NumericText

/-!
# Numbers in the environment

A string of a body that is one slot of an environment variable becomes the number that the variable's text
writes, if it looks like one, and this text otherwise (`resolveField_environment`). Every number that JSON
can write is a decimal literal (`Json.IsNumber.exists_spells`), so it is read as a number by all the other
rules. It looks like one unless there is a minus in its exponent (`looksNumeric_iff`), and so
`environment_number_resolved` tells apart `1e5` and `1e+5`, which become numbers, from `1e-5`, which stays a
string.
-/

set_option autoImplicit false

namespace ScenarioRunner

open Literal (IsDigits Sign Mantissa Exponent Spells)

/-! ## Numbers of JSON -/

namespace Json

/-- The texts of numbers in JSON: an optional minus, digits without a leading zero, an optional fraction
and an optional exponent. -/
inductive IsNumber : List Char → Prop where
  | parts {sign whole fraction exponent : List Char} {e : Int}
      (isSign : sign = [] ∨ sign = ['-']) (isWhole : IsDigits whole)
      (noLeadingZero : whole = ['0'] ∨ whole.head? ≠ some '0')
      (isFraction : fraction = [] ∨ ∃ digits, IsDigits digits ∧ fraction = '.' :: digits)
      (isExponent : Exponent exponent e) : IsNumber (sign ++ (whole ++ fraction ++ exponent))

/-- A number of JSON is a decimal literal. -/
theorem IsNumber.exists_spells {text : List Char} (h : IsNumber text) : ∃ l, Spells text l := by
  cases h with
  | @parts sign whole fraction exponent e isSign isWhole _ isFraction isExponent =>
      obtain ⟨negative, hsign⟩ : ∃ negative, Sign sign negative := by
        rcases isSign with rfl | rfl
        · exact ⟨false, .absent⟩
        · exact ⟨true, .minus⟩
      obtain ⟨behind, hmantissa⟩ : ∃ behind, Mantissa (whole ++ fraction) whole behind := by
        rcases isFraction with rfl | ⟨digits, isDigits, rfl⟩
        · rw [List.append_nil]
          exact ⟨[], .whole isWhole⟩
        · refine ⟨digits, .point ⟨by simp [isWhole.nonempty], ?_⟩⟩
          exact List.forall_mem_append.2 ⟨isWhole.decimal, isDigits.decimal⟩
      exact ⟨_, .parts hsign hmantissa isExponent⟩

end Json

/-! ## Texts that look like numbers -/

/-- A text of the characters of literals looks like a number when its only minus is in front. -/
theorem looksNumeric_iff {text : List Char} (hne : text ≠ [])
    (h : ∀ c ∈ text, Number.isLiteralChar c = true) : looksNumeric text = true ↔ '-' ∉ text.tail := by
  have hbody : ∀ body : List Char, (∀ c ∈ body, Number.isLiteralChar c = true) →
      ((body.all fun c => c.isDigit || c == '.' || c == 'e' || c == 'E' || c == '+') = true ↔
        '-' ∉ body) := by
    intro body hbody
    rw [List.all_eq_true]
    constructor
    · intro hall hmem
      exact absurd (hall '-' hmem) (by decide)
    · intro hminus c hc
      have hchar := hbody c hc
      rw [Number.isLiteralChar, Bool.or_eq_true, beq_iff_eq] at hchar
      refine hchar.resolve_right ?_
      rintro rfl
      exact hminus hc
  obtain ⟨c, rest, rfl⟩ := List.exists_cons_of_ne_nil hne
  unfold looksNumeric
  rw [List.tail_cons, List.isEmpty_cons, Bool.not_false, Bool.true_and]
  split
  · next hfront =>
      cases hfront
      exact hbody rest fun c hc => h c (List.mem_cons_of_mem _ hc)
  · next hfront =>
      rw [hbody _ h, List.mem_cons, not_or]
      refine and_iff_right ?_
      rintro rfl
      exact hfront rest rfl

/-! ## Slots of the environment -/

namespace Template

/-- A string that is one slot of an environment variable, as a field and as a text. -/
def StandsForEnvironment (field : List Char) (name : String) : Prop :=
  ∃ inner, field = Piece.source (.slot inner) ∧ ¬Doubled opening inner ∧
    ¬Doubled closing (inner ++ [closing]) ∧ Reference.ofName (trimBlanks inner) = .environment name

/-- A name without braces and without blanks at its ends can stand behind `env.` in a slot. -/
theorem standsForEnvironment_slotOf (name : String) (hname : Braceless name.toList)
    (htrimmed : trimBlanks name.toList = name.toList) :
    StandsForEnvironment (slotOf ("env." ++ name)).toList name := by
  have hinner : ("env." ++ name).toList = 'e' :: 'n' :: 'v' :: '.' :: name.toList := by
    rw [String.toList_append]
    rfl
  have htrim : trimBlanks ("env." ++ name).toList = 'e' :: 'n' :: 'v' :: '.' :: name.toList := by
    rw [hinner]
    refine trimBlanks_cons (by decide) (trimBlanks_cons (by decide) ?_)
    exact trimBlanks_cons (by decide) (trimBlanks_cons (by decide) htrimmed)
  have hbraceless : Braceless ("env." ++ name).toList := by
    rw [hinner]
    constructor
    · simpa [opening] using hname.1
    · simpa [closing] using hname.2
  refine ⟨("env." ++ name).toList, ?_, not_doubled_of_not_mem hbraceless.1,
    not_doubled_concat hbraceless.2, ?_⟩
  · rw [slotOf, String.toList_ofList]
  · rw [htrim]
    change Reference.environment (String.ofList name.toList) = _
    rw [String.ofList_toList]

end Template

namespace Scope

open Template

variable {scope : Scope} {field name t : String}

/-- As a text, one slot of an environment variable is the text of the variable. -/
theorem resolveChars_environment (hfield : StandsForEnvironment field.toList name)
    (hbound : scope.environment name = some t) (supply : Nat) :
    scope.resolveChars supply field.toList = (t.toList, supply) := by
  obtain ⟨inner, hsource, hopen, hclose, href⟩ := hfield
  rw [hsource]
  apply resolveChars_of_fillPiece hopen hclose
  simp only [fillPiece, href, read, hbound, Option.map_some, Option.getD_some]

/-- A string of a body that is one slot of an environment variable becomes the number that the text of
the variable writes, if it looks like one, and this text otherwise. -/
theorem resolveField_environment (hfield : StandsForEnvironment field.toList name)
    (hbound : scope.environment name = some t) (hchanged : t.toList ≠ field.toList) (supply : Nat) :
    scope.resolveField supply field =
      (if looksNumeric t.toList then (Value.ofNumericText? t.toList).getD (.str t) else .str t,
        supply) := by
  have htext := resolveChars_environment hfield hbound supply
  obtain ⟨inner, hsource, hopen, hclose, href⟩ := hfield
  have hclosing : ¬Doubled closing inner := fun hdouble => hclose (doubled_append_iff.2 (.inl hdouble))
  have hslot : wholeSlot? field.toList = some (trimBlanks inner) :=
    wholeSlot?_eq_some_iff.2 ⟨inner, hsource, hopen, hclosing, rfl⟩
  have hstored : scope.storedValue? field.toList = none := by
    rw [storedValue?, hslot, Option.bind_some]
    simp only [href]
  simp only [resolveField, hstored, htext, hslot, Option.isSome_some, Bool.true_and,
    bne_iff_ne.2 hchanged, String.ofList_toList]
  cases looksNumeric t.toList <;> rfl

/-- **A number in the environment becomes a number in a body, unless its exponent has a minus.** Where a
string of a body is one slot of an environment variable, and the text of the variable is a number of JSON
that is rounded to a finite float, the string becomes a number equal to the one that is read from the text.
With a minus in the exponent it becomes the text. -/
theorem environment_number_resolved (hfield : StandsForEnvironment field.toList name)
    (hbound : scope.environment name = some t) (hnumber : Json.IsNumber t.toList) :
    ∃ l, (∀ l', Spells t.toList l' ↔ l' = l) ∧
      (l.toBinary64.isFinite = true → ∃ a, Number.ofLiteral? t.toList = some a ∧
        ∃ v, (∀ supply, scope.resolveField supply field = (v, supply)) ∧
          ('-' ∉ t.toList.tail → (∃ b, v = .ofNumber b) ∧ v.same (.ofNumber a) = true) ∧
          ('-' ∈ t.toList.tail → v = .str t)) := by
  obtain ⟨l, hspells⟩ := hnumber.exists_spells
  refine ⟨l, fun l' => ⟨fun h' => h'.unique hspells, fun h' => h' ▸ hspells⟩, fun hfinite => ?_⟩
  have hchars := hspells.isLiteralChar
  have hne : t.toList ≠ [] := hspells.ne_nil
  have hchanged : t.toList ≠ field.toList := by
    obtain ⟨inner, hsource, -⟩ := hfield
    intro heq
    rw [heq, hsource] at hchars
    exact absurd (hchars opening List.mem_cons_self) (by decide)
  obtain ⟨a, ha⟩ := Number.exists_ofLiteral? hspells hfinite
  obtain ⟨b, hback, hbfinite, hunits⟩ := Value.exists_ofNumericText? ha
  refine ⟨a, ha, _, resolveField_environment hfield hbound hchanged, ?_, ?_⟩
  · intro hminus
    rw [if_pos ((looksNumeric_iff hne hchars).2 hminus), hback, Option.getD_some]
    have hafinite := Number.finite_of_ofLiteral? ha
    exact ⟨⟨b, rfl⟩, (Value.same_ofNumber_iff hbfinite hafinite).2 hunits⟩
  · intro hminus
    rw [if_neg]
    rw [looksNumeric_iff hne hchars]
    exact not_not_intro hminus

/-- An environment with two rates. -/
def rateScope : Scope :=
  ⟨[], fun name =>
    if name = "RATE" then some "-1.5e+3" else if name = "STEP" then some "1e-5" else none⟩

/-- The rate of which the exponent has a plus becomes a number, and the one with a minus a string. -/
theorem rates_resolved :
    StandsForEnvironment "\x7b\x7benv.RATE\x7d\x7d".toList "RATE" ∧
      StandsForEnvironment "\x7b\x7benv.STEP\x7d\x7d".toList "STEP" ∧
      Json.IsNumber "-1.5e+3".toList ∧ Json.IsNumber "1e-5".toList ∧
      (∃ b, rateScope.resolveField 0 "\x7b\x7benv.RATE\x7d\x7d" = (.ofNumber b, 0) ∧
        (Value.ofNumber b).same (.float ⟨0xC097700000000000⟩) = true) ∧
      rateScope.resolveField 0 "\x7b\x7benv.STEP\x7d\x7d" = (.str "1e-5", 0) := by
  have hrate : StandsForEnvironment "\x7b\x7benv.RATE\x7d\x7d".toList "RATE" :=
    standsForEnvironment_slotOf "RATE" (by decide) (by decide)
  have hstep : StandsForEnvironment "\x7b\x7benv.STEP\x7d\x7d".toList "STEP" :=
    standsForEnvironment_slotOf "STEP" (by decide) (by decide)
  have hdigit : ∀ d : Char, d.isDigit = true → IsDigits [d] :=
    fun d hd => ⟨List.cons_ne_nil _ _, List.forall_mem_singleton.2 hd⟩
  have hplus : Json.IsNumber "-1.5e+3".toList :=
    .parts (.inr rfl) (hdigit '1' rfl) (.inr (by decide)) (.inr ⟨['5'], hdigit '5' rfl, rfl⟩)
      (.marked (.inl rfl) .plus (hdigit '3' rfl))
  have hminus : Json.IsNumber "1e-5".toList :=
    .parts (.inl rfl) (hdigit '1' rfl) (.inr (by decide)) (.inl rfl)
      (.marked (.inl rfl) .minus (hdigit '5' rfl))
  have hbound : rateScope.environment "RATE" = some "-1.5e+3" := rfl
  have hbound' : rateScope.environment "STEP" = some "1e-5" := rfl
  obtain ⟨l, hl, hresolved⟩ := environment_number_resolved hrate hbound hplus
  obtain ⟨l', hl', hkept⟩ := environment_number_resolved hstep hbound' hminus
  obtain rfl := (hl ⟨true, 15, 2⟩).1 (Literal.parse?_eq_some_iff.1 (by decide))
  obtain rfl := (hl' ⟨false, 1, -5⟩).1 (Literal.parse?_eq_some_iff.1 (by decide))
  obtain ⟨a, ha, v, hv, hnumber, -⟩ := hresolved (by decide +kernel)
  obtain ⟨-, -, w, hw, -, htext⟩ := hkept (by decide +kernel)
  have hread : Number.ofLiteral? "-1.5e+3".toList = some (.float ⟨0xC097700000000000⟩) := by
    decide +kernel
  rw [ha] at hread
  cases hread
  obtain ⟨⟨b, rfl⟩, hsame⟩ := hnumber (by decide)
  rw [htext (by decide)] at hw
  exact ⟨hrate, hstep, hplus, hminus, ⟨b, hv 0, hsame⟩, hw 0⟩

end Scope

end ScenarioRunner

import ScenarioRunner.Proofs.Decimal.Literal

/-!
# The grammar of decimal literals

A decimal literal is an optional sign, digits with at most one point among them, and an optional exponent.
`Literal.Spells` says so without the reader, and what such a text writes. The reader reads exactly these
texts, each as the literal that it spells (`parse?_eq_some_iff`).
-/

set_option autoImplicit false

namespace ScenarioRunner.Literal

/-! ## Grammar -/

/-- One or more decimal digits. -/
structure IsDigits (digits : List Char) : Prop where
  nonempty : digits ≠ []
  decimal : ∀ c ∈ digits, c.isDigit = true

/-- The texts of an optional sign, and whether it is a minus. -/
inductive Sign : List Char → Bool → Prop where
  | absent : Sign [] false
  | plus : Sign ['+'] false
  | minus : Sign ['-'] true

/-- The texts of digits with at most one point among them, with the digits before the point and those
behind it. There may be none on one side. -/
inductive Mantissa : List Char → List Char → List Char → Prop where
  | whole {digits : List Char} (isDigits : IsDigits digits) : Mantissa digits digits []
  | point {whole fraction : List Char} (isDigits : IsDigits (whole ++ fraction)) :
      Mantissa (whole ++ '.' :: fraction) whole fraction

/-- The texts of an optional exponent: a mark, an optional sign and digits. -/
inductive Exponent : List Char → Int → Prop where
  | absent : Exponent [] 0
  | marked {mark : Char} {sign digits : List Char} {negative : Bool}
      (isMark : mark = 'e' ∨ mark = 'E') (isSign : Sign sign negative) (isDigits : IsDigits digits) :
      Exponent (mark :: (sign ++ digits))
        (if negative then -(Nat.ofDigitChars 10 digits 0 : Int) else Nat.ofDigitChars 10 digits 0)

/-- The texts of a literal. Every digit behind the point counts a tenth of the one before it. -/
inductive Spells : List Char → Literal → Prop where
  | parts {sign mantissa whole fraction exponent : List Char} {negative : Bool} {e : Int}
      (isSign : Sign sign negative) (isMantissa : Mantissa mantissa whole fraction)
      (isExponent : Exponent exponent e) :
      Spells (sign ++ (mantissa ++ exponent))
        ⟨negative, Nat.ofDigitChars 10 (whole ++ fraction) 0, e - (fraction.length : Int)⟩

/-! ## Signs -/

section Sign

variable {text sign body : List Char} {negative : Bool}

/-- What does not begin with a sign. -/
def Unsigned (body : List Char) : Prop := ∀ c ∈ body.head?, c ≠ '+' ∧ c ≠ '-'

theorem ne_sign_of_isDigit {c : Char} (h : c.isDigit = true) : c ≠ '+' ∧ c ≠ '-' := by
  constructor
  · rintro rfl
    cases h
  · rintro rfl
    cases h

theorem IsDigits.unsigned {digits : List Char} (h : IsDigits digits) (rest : List Char) :
    Unsigned (digits ++ rest) := by
  obtain ⟨d, digits, rfl⟩ := List.exists_cons_of_ne_nil h.nonempty
  intro c hc
  cases hc
  exact ne_sign_of_isDigit (h.decimal d List.mem_cons_self)

/-- What is split off at the front of a text is a sign. -/
theorem sign_of_splitSign (h : splitSign text = (negative, body)) :
    ∃ sign, Sign sign negative ∧ text = sign ++ body := by
  unfold splitSign at h
  split at h
  · cases h
    exact ⟨['-'], .minus, rfl⟩
  · cases h
    exact ⟨['+'], .plus, rfl⟩
  · cases h
    exact ⟨[], .absent, rfl⟩

/-- A sign is split off from what does not begin with one. -/
theorem Sign.splitSign_append (h : Sign sign negative) (hbody : Unsigned body) :
    splitSign (sign ++ body) = (negative, body) := by
  cases h with
  | absent =>
      rw [List.nil_append]
      unfold splitSign
      split
      · exact absurd rfl (hbody '-' rfl).2
      · exact absurd rfl (hbody '+' rfl).1
      · rfl
  | plus => rfl
  | minus => rfl

end Sign

/-! ## Reading -/

section Reading

variable {text digits mantissa whole fraction rest : List Char} {e : Int} {l : Literal}

theorem isDigits_iff :
    (!digits.isEmpty && digits.all Char.isDigit) = true ↔ IsDigits digits := by
  rw [Bool.and_eq_true, Bool.not_eq_true', List.isEmpty_eq_false_iff, List.all_eq_true]
  exact ⟨fun h => ⟨h.1, h.2⟩, fun h => ⟨h.nonempty, h.decimal⟩⟩

/-- An exponent is a mark and what its digits write behind their sign. -/
theorem exponent?_cons {mark : Char} {negative : Bool} (hmark : mark = 'e' ∨ mark = 'E')
    (hsplit : splitSign rest = (negative, digits)) :
    exponent? (mark :: rest) =
      if !digits.isEmpty && digits.all Char.isDigit then
        some (if negative then -(Nat.ofDigitChars 10 digits 0 : Int) else Nat.ofDigitChars 10 digits 0)
      else none := by
  rw [exponent?, if_pos hmark, hsplit, ← natOfDigits_eq]

/-- **The exponents that are read are those of the grammar.** -/
theorem exponent?_eq_some_iff : exponent? text = some e ↔ Exponent text e := by
  constructor
  · intro h
    cases text with
    | nil =>
        cases h
        exact .absent
    | cons mark rest =>
        by_cases hmark : mark = 'e' ∨ mark = 'E'
        · obtain ⟨⟨negative, digits⟩, hsplit⟩ : ∃ parts, splitSign rest = parts := ⟨_, rfl⟩
          rw [exponent?_cons hmark hsplit] at h
          obtain ⟨hdigits, he⟩ := Option.ite_none_right_eq_some.1 h
          obtain ⟨sign, hsign, rfl⟩ := sign_of_splitSign hsplit
          rw [← Option.some.inj he]
          exact .marked hmark hsign (isDigits_iff.1 hdigits)
        · rw [exponent?, if_neg hmark] at h
          cases h
  · intro h
    cases h with
    | absent => rfl
    | marked isMark isSign isDigits =>
        have hunsigned := isDigits.unsigned []
        rw [List.append_nil] at hunsigned
        rw [exponent?_cons isMark (isSign.splitSign_append hunsigned),
          if_pos (isDigits_iff.2 isDigits)]

/-- No exponent begins with a digit or a point. -/
theorem Exponent.head (h : Exponent rest e) :
    ∀ c ∈ rest.head?, c.isDigit = false ∧ c ≠ '.' := by
  intro c hc
  cases h with
  | absent => cases hc
  | marked isMark isSign isDigits =>
      cases hc
      rcases isMark with rfl | rfl
      · decide
      · decide

/-- The digits before and behind the point are told apart from what stands behind them. -/
theorem Mantissa.span (h : Mantissa mantissa whole fraction)
    (hrest : ∀ c ∈ rest.head?, c.isDigit = false ∧ c ≠ '.') :
    (mantissa ++ rest).takeWhile Char.isDigit = whole ∧
      splitFraction ((mantissa ++ rest).dropWhile Char.isDigit) = (fraction, rest) ∧
      IsDigits (whole ++ fraction) := by
  have hend : ∀ c ∈ rest.head?, c.isDigit = false := fun c hc => (hrest c hc).1
  cases h with
  | whole isDigits =>
      obtain ⟨htake, hdrop⟩ := span_digits rest isDigits.decimal hend
      rw [htake, hdrop, List.append_nil]
      refine ⟨rfl, ?_, isDigits⟩
      unfold splitFraction
      split
      · exact absurd rfl (hrest '.' rfl).2
      · rfl
  | point isDigits =>
      obtain ⟨hwhole, hfraction⟩ := List.forall_mem_append.1 isDigits.decimal
      have hspan := span_digits ('.' :: (fraction ++ rest)) hwhole (by simp [Char.isDigit])
      have htail := span_digits rest hfraction hend
      rw [List.append_assoc, List.cons_append, hspan.1, hspan.2]
      refine ⟨rfl, ?_, isDigits⟩
      rw [splitFraction, htail.1, htail.2]

theorem Mantissa.unsigned (h : Mantissa mantissa whole fraction) (rest : List Char) :
    Unsigned (mantissa ++ rest) := by
  cases h with
  | whole isDigits => exact isDigits.unsigned rest
  | point isDigits =>
      cases whole with
      | nil =>
          intro c hc
          cases hc
          decide
      | cons d whole =>
          intro c hc
          cases hc
          exact ne_sign_of_isDigit (isDigits.decimal d List.mem_cons_self)

theorem isDigit_of_mem_takeWhile {c : Char} (h : c ∈ text.takeWhile Char.isDigit) :
    c.isDigit = true :=
  List.all_eq_true.1 List.all_takeWhile c h

/-- What is taken off a text for its digits and its point is a mantissa, unless it has no digit. -/
theorem mantissa_of_span (htake : text.takeWhile Char.isDigit = whole)
    (hsplit : splitFraction (text.dropWhile Char.isDigit) = (fraction, rest))
    (hsome : (whole.isEmpty && fraction.isEmpty) = false) :
    ∃ mantissa, Mantissa mantissa whole fraction ∧ text = mantissa ++ rest := by
  have htext : text = whole ++ text.dropWhile Char.isDigit := by
    rw [← htake, List.takeWhile_append_dropWhile]
  have hwhole : ∀ c ∈ whole, c.isDigit = true := by
    rw [← htake]
    exact fun c hc => isDigit_of_mem_takeWhile hc
  unfold splitFraction at hsplit
  split at hsplit
  · next behind hdrop =>
      cases hsplit
      have hdigits : IsDigits (whole ++ behind.takeWhile Char.isDigit) := by
        refine ⟨?_, List.forall_mem_append.2 ⟨hwhole, fun c hc => isDigit_of_mem_takeWhile hc⟩⟩
        intro hnil
        rw [List.append_eq_nil_iff] at hnil
        simp [hnil.1, hnil.2] at hsome
      refine ⟨_, .point hdigits, ?_⟩
      rw [htext, hdrop, List.append_assoc, List.cons_append, List.takeWhile_append_dropWhile]
  · cases hsplit
    have hdigits : IsDigits whole := by
      refine ⟨?_, hwhole⟩
      rintro rfl
      cases hsome
    exact ⟨whole, .whole hdigits, htext⟩

/-- A literal is read in the parts that its text splits into. -/
theorem parse?_of_split {body : List Char} {negative : Bool}
    (hsign : splitSign text = (negative, body)) (htake : body.takeWhile Char.isDigit = whole)
    (hsplit : splitFraction (body.dropWhile Char.isDigit) = (fraction, rest)) :
    parse? text =
      if whole.isEmpty && fraction.isEmpty then none
      else (exponent? rest).map fun e =>
        ⟨negative, Nat.ofDigitChars 10 (whole ++ fraction) 0, e - (fraction.length : Int)⟩ := by
  unfold parse?
  rw [hsign]
  dsimp only
  rw [htake, hsplit, natOfDigits_eq]

/-- **The literals that are read are those of the grammar**, each as what it spells. -/
theorem parse?_eq_some_iff : parse? text = some l ↔ Spells text l := by
  constructor
  · intro h
    obtain ⟨⟨negative, body⟩, hsign⟩ : ∃ parts, splitSign text = parts := ⟨_, rfl⟩
    obtain ⟨⟨fraction, rest⟩, hsplit⟩ :
        ∃ parts, splitFraction (body.dropWhile Char.isDigit) = parts := ⟨_, rfl⟩
    rw [parse?_of_split hsign rfl hsplit] at h
    obtain ⟨hsome, hread⟩ := Option.ite_none_left_eq_some.1 h
    obtain ⟨e, hexponent, rfl⟩ := Option.map_eq_some_iff.1 hread
    obtain ⟨sign, isSign, rfl⟩ := sign_of_splitSign hsign
    obtain ⟨mantissa, isMantissa, hbody⟩ :=
      mantissa_of_span rfl hsplit (Bool.not_eq_true _ ▸ hsome)
    have hspelled := Spells.parts isSign isMantissa (exponent?_eq_some_iff.1 hexponent)
    rwa [← hbody] at hspelled
  · intro h
    cases h with
    | parts isSign isMantissa isExponent =>
        obtain ⟨htake, hsplit, hdigits⟩ := isMantissa.span isExponent.head
        have hsome := hdigits.nonempty
        rw [Ne, List.append_eq_nil_iff] at hsome
        rw [parse?_of_split (isSign.splitSign_append (isMantissa.unsigned _)) htake hsplit,
          if_neg (by simpa using hsome), exponent?_eq_some_iff.2 isExponent, Option.map_some]

end Reading

end ScenarioRunner.Literal

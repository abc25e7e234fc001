import ScenarioRunner.Text.Utf8

/-!
# Encoded text is decoded

The bytes of a character are taken off again as this character, whatever follows them
(`next_encodeChar`), so the bytes of a text are well-formed and decode to it (`decode?_encodeChars`).
-/

set_option autoImplicit false

namespace ScenarioRunner.Utf8

/-! ## Bytes of one character -/

/-- Characters are no surrogates and at most `U+10FFFF`. -/
theorem toNat_range (c : Char) :
    c.toNat < 0xD800 ∨ 0xDFFF < c.toNat ∧ c.toNat < 0x110000 := c.valid

section Forms

variable {c : Char}

theorem encodeChar_one (h : c.toNat ≤ 0x7F) :
    String.utf8EncodeChar c = [UInt8.ofNat c.toNat] := if_pos h

theorem encodeChar_two (hlow : 0x7F < c.toNat) (hhigh : c.toNat ≤ 0x7FF) :
    String.utf8EncodeChar c =
      [UInt8.ofNat (c.toNat / 64 % 0x20 + 0xC0), UInt8.ofNat (c.toNat % 0x40 + 0x80)] :=
  (if_neg (Nat.not_le.2 hlow)).trans (if_pos hhigh)

theorem encodeChar_three (hlow : 0x7FF < c.toNat) (hhigh : c.toNat ≤ 0xFFFF) :
    String.utf8EncodeChar c =
      [UInt8.ofNat (c.toNat / 4096 % 0x10 + 0xE0), UInt8.ofNat (c.toNat / 64 % 0x40 + 0x80),
        UInt8.ofNat (c.toNat % 0x40 + 0x80)] :=
  (if_neg (Nat.not_le.2 (Nat.lt_trans (by decide) hlow))).trans
    ((if_neg (Nat.not_le.2 hlow)).trans (if_pos hhigh))

theorem encodeChar_four (hlow : 0xFFFF < c.toNat) :
    String.utf8EncodeChar c =
      [UInt8.ofNat (c.toNat / 262144 % 0x08 + 0xF0), UInt8.ofNat (c.toNat / 4096 % 0x40 + 0x80),
        UInt8.ofNat (c.toNat / 64 % 0x40 + 0x80), UInt8.ofNat (c.toNat % 0x40 + 0x80)] :=
  (if_neg (Nat.not_le.2 (Nat.lt_trans (by decide) hlow))).trans
    ((if_neg (Nat.not_le.2 (Nat.lt_trans (by decide) hlow))).trans (if_neg (Nat.not_le.2 hlow)))

end Forms

/-! ## Taking a character off -/

theorem toNat_byte {n : Nat} (h : n < 256) : (UInt8.ofNat n).toNat = n := by
  rw [UInt8.toNat_ofNat', Nat.mod_eq_of_lt h]

/-- A continuation byte in range adds its six bits. -/
theorem continuation_cons {count low high acc n : Nat} {rest : Bytes} (hn : n < 0x40)
    (hlow : low ≤ n + 0x80) (hhigh : n + 0x80 ≤ high) :
    continuation (count + 1) low high acc (UInt8.ofNat (n + 0x80) :: rest) =
      continuation count 0x80 0xBF (acc * 64 + n) rest := by
  rw [continuation, toNat_byte (by omega), if_pos ⟨hlow, hhigh⟩, Nat.add_sub_cancel]

theorem lead?_two {n : Nat} (hlow : 0xC2 ≤ n) (hhigh : n < 0xE0) :
    lead? n = some ⟨1, 0x80, 0xBF, 0xC0⟩ := by
  unfold lead?
  rw [if_neg (by omega), if_neg (by omega), if_pos hhigh]

theorem lead?_three {n : Nat} (hlow : 0xE0 ≤ n) (hhigh : n < 0xF0) :
    lead? n = some
      ⟨2, if n = 0xE0 then 0xA0 else 0x80, if n = 0xED then 0x9F else 0xBF, 0xE0⟩ := by
  unfold lead?
  rw [if_neg (by omega), if_neg (by omega), if_neg (by omega)]
  by_cases hfirst : n = 0xE0
  · subst hfirst
    rfl
  · by_cases hsurrogate : n = 0xED
    · subst hsurrogate
      rfl
    · rw [if_neg hfirst, if_neg hsurrogate, if_pos hhigh, if_neg hfirst, if_neg hsurrogate]

theorem lead?_four {n : Nat} (hlow : 0xF0 ≤ n) (hhigh : n ≤ 0xF4) :
    lead? n = some
      ⟨3, if n = 0xF0 then 0x90 else 0x80, if n = 0xF4 then 0x8F else 0xBF, 0xF0⟩ := by
  unfold lead?
  rw [if_neg (by omega), if_neg (by omega), if_neg (by omega), if_neg (by omega),
    if_neg (by omega), if_neg (by omega)]
  by_cases hfirst : n = 0xF0
  · subst hfirst
    rfl
  · by_cases hlast : n = 0xF4
    · subst hlast
      rfl
    · rw [if_neg hfirst, if_pos (by omega), if_neg hfirst, if_neg hlast]

theorem lead?_one {n : Nat} (h : n < 0x80) : lead? n = some ⟨0, 0x80, 0xBF, 0⟩ := if_pos h

/-- **The bytes of a character are taken off as this character**, whatever follows them. -/
theorem next_encodeChar (c : Char) (rest : Bytes) :
    ∃ b tail, String.utf8EncodeChar c = b :: tail ∧ next b (tail ++ rest) = (some c, rest) := by
  have hrange := toNat_range c
  have hself : Char.ofNat c.toNat = c := Char.ofNat_toNat c
  have hcases : c.toNat ≤ 0x7F ∨ 0x7F < c.toNat ∧ c.toNat ≤ 0x7FF ∨
      0x7FF < c.toNat ∧ c.toNat ≤ 0xFFFF ∨ 0xFFFF < c.toNat := by omega
  rcases hcases with hone | ⟨hlow, hhigh⟩ | ⟨hlow, hhigh⟩ | hfour
  · refine ⟨_, _, encodeChar_one hone, ?_⟩
    rw [next, toNat_byte (by omega), lead?_one (by omega)]
    simp only [List.nil_append, continuation]
    rw [Nat.sub_zero, Option.map_some, hself]
  · refine ⟨_, _, encodeChar_two hlow hhigh, ?_⟩
    rw [next, toNat_byte (by omega), lead?_two (by omega) (by omega)]
    simp only [List.cons_append, List.nil_append]
    rw [continuation_cons (by omega) (by omega) (by omega), continuation]
    have hbits : (c.toNat / 64 % 0x20 + 0xC0 - 0xC0) * 64 + c.toNat % 0x40 = c.toNat := by omega
    rw [hbits, Option.map_some, hself]
  · refine ⟨_, _, encodeChar_three hlow hhigh, ?_⟩
    rw [next, toNat_byte (by omega), lead?_three (by omega) (by omega)]
    simp only [List.cons_append, List.nil_append]
    -- the first continuation byte excludes short characters and surrogates
    rw [continuation_cons (by omega) (by split <;> omega) (by split <;> omega),
      continuation_cons (by omega) (by omega) (by omega), continuation]
    have hbits : ((c.toNat / 4096 % 0x10 + 0xE0 - 0xE0) * 64 + c.toNat / 64 % 0x40) * 64 +
        c.toNat % 0x40 = c.toNat := by omega
    rw [hbits, Option.map_some, hself]
  · refine ⟨_, _, encodeChar_four hfour, ?_⟩
    rw [next, toNat_byte (by omega), lead?_four (by omega) (by omega)]
    simp only [List.cons_append, List.nil_append]
    rw [continuation_cons (by omega) (by split <;> omega) (by split <;> omega),
      continuation_cons (by omega) (by omega) (by omega),
      continuation_cons (by omega) (by omega) (by omega), continuation]
    have hbits : (((c.toNat / 262144 % 0x08 + 0xF0 - 0xF0) * 64 + c.toNat / 4096 % 0x40) * 64 +
        c.toNat / 64 % 0x40) * 64 + c.toNat % 0x40 = c.toNat := by omega
    rw [hbits, Option.map_some, hself]

/-- No byte of a character beyond ASCII is an ASCII byte. -/
theorem le_of_mem_encodeChar {c : Char} (hc : 0x7F < c.toNat) :
    ∀ b ∈ String.utf8EncodeChar c, 0x80 ≤ b.toNat := by
  have hrange := toNat_range c
  have hcases : c.toNat ≤ 0x7FF ∨ 0x7FF < c.toNat ∧ c.toNat ≤ 0xFFFF ∨ 0xFFFF < c.toNat := by
    omega
  have hbyte : ∀ n, 0x80 ≤ n → n < 256 → 0x80 ≤ (UInt8.ofNat n).toNat := fun n hlow hhigh => by
    rwa [toNat_byte hhigh]
  rcases hcases with htwo | ⟨hlow, hhigh⟩ | hfour
  · rw [encodeChar_two hc htwo]
    simp only [List.forall_mem_cons]
    exact ⟨hbyte _ (by omega) (by omega), hbyte _ (by omega) (by omega), by simp⟩
  · rw [encodeChar_three hlow hhigh]
    simp only [List.forall_mem_cons]
    exact ⟨hbyte _ (by omega) (by omega), hbyte _ (by omega) (by omega),
      hbyte _ (by omega) (by omega), by simp⟩
  · rw [encodeChar_four hfour]
    simp only [List.forall_mem_cons]
    exact ⟨hbyte _ (by omega) (by omega), hbyte _ (by omega) (by omega),
      hbyte _ (by omega) (by omega), hbyte _ (by omega) (by omega), by simp⟩

/-! ## Texts -/

theorem encodeChars_cons (c : Char) (text : List Char) :
    encodeChars (c :: text) = String.utf8EncodeChar c ++ encodeChars text := rfl

theorem encodeChars_append (first second : List Char) :
    encodeChars (first ++ second) = encodeChars first ++ encodeChars second := by
  simp [encodeChars]

/-- The pieces of encoded text are its characters. -/
theorem pieces_encodeChars (text : List Char) : pieces (encodeChars text) = text.map some := by
  induction text with
  | nil => rw [encodeChars, List.flatMap_nil, pieces, List.map_nil]
  | cons c text ih =>
      obtain ⟨b, tail, hbytes, hnext⟩ := next_encodeChar c (encodeChars text)
      rw [encodeChars_cons, hbytes, List.cons_append, pieces, hnext, ih, List.map_cons]

/-- **Encoded text decodes to the text.** -/
theorem decode?_encodeChars (text : List Char) :
    decode? (encodeChars text) = some (String.ofList text) := by
  unfold decode?
  rw [pieces_encodeChars]
  simp

end ScenarioRunner.Utf8

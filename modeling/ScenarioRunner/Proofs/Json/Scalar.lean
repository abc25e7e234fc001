import ScenarioRunner.Json.Reader
import ScenarioRunner.Json.Writer
import ScenarioRunner.Proofs.Text.Utf8

/-!
# Written strings and integers are read back

Every character is written in a form, escaped or plain, that the reader replaces by the bytes of this
character (`stringBytes_escapeChar`), so a quoted text is read back whole (`string_quoted`). An
integer of 64 bits is written in digits that the reader takes in one by one, and it is read back in
the same form (`number_integer`).
-/

set_option autoImplicit false

namespace ScenarioRunner.Json

open Utf8 (encodeChars encodeChars_cons encodeChars_append)

/-! ## Escapes -/

section Escape

variable {c : Char}

theorem hexDigit?_digitChar {n : Nat} (h : n < 16) :
    hexDigit? (UInt8.ofNat n.digitChar.toNat) = some n := by
  have hall : ∀ k < 16, hexDigit? (UInt8.ofNat k.digitChar.toNat) = some k := by decide
  exact hall n h

/-- The bytes of an escaped control character that has no short form. -/
theorem encodeChars_twoHexDigits {n : Nat} (h : n < 0x20) :
    encodeChars (twoHexDigits n) =
      [UInt8.ofNat (n / 16).digitChar.toNat, UInt8.ofNat (n % 16).digitChar.toNat] := by
  have hall : ∀ k < 0x20, encodeChars (twoHexDigits k) =
      [UInt8.ofNat (k / 16).digitChar.toNat, UInt8.ofNat (k % 16).digitChar.toNat] := by decide
  exact hall n h

theorem codePoint_twoHexDigits {n : Nat} (h : n < 0x20) (rest : Bytes) :
    codePoint (0x30 :: 0x30 :: (encodeChars (twoHexDigits n) ++ rest)) =
      .ok (Char.ofNat n, rest) := by
  have hzero : hexDigit? 0x30 = some 0 := by decide
  have hvalue : ((0 * 16 + 0) * 16 + n / 16) * 16 + n % 16 = n := by omega
  have hread : fourHexDigits (0x30 :: 0x30 :: (encodeChars (twoHexDigits n) ++ rest)) =
      .ok (n, rest) := by
    rw [encodeChars_twoHexDigits h]
    simp only [List.cons_append, List.nil_append, fourHexDigits, hzero,
      hexDigit?_digitChar (show n / 16 < 16 by omega),
      hexDigit?_digitChar (show n % 16 < 16 by omega), hvalue]
  unfold codePoint
  rw [hread]
  change (if 0xDC00 ≤ n ∧ n ≤ 0xDFFF then faultAt .unpairedSurrogate rest
    else if 0xD800 ≤ n ∧ n ≤ 0xDBFF then lowSurrogate n rest else .ok (Char.ofNat n, rest)) = _
  rw [if_neg (by omega), if_neg (by omega)]

/-- The characters that are not written as themselves. -/
def Escaped (c : Char) : Prop := c = '"' ∨ c = '\\' ∨ c.toNat < 0x20

/-- An escape is read as the character it stands for. -/
theorem escape_escapeChar (h : Escaped c) :
    ∃ tail, encodeChars (escapeChar c) = 0x5C :: tail ∧
      ∀ rest, escape (tail ++ rest) = .ok (c, rest) := by
  by_cases hshort : c = '"' ∨ c = '\\' ∨ c = '\n' ∨ c = '\r' ∨ c = '\t' ∨ c = '\x08' ∨ c = '\x0c'
  · rcases hshort with rfl | rfl | rfl | rfl | rfl | rfl | rfl <;>
      exact ⟨_, rfl, fun _ => rfl⟩
  · simp only [not_or] at hshort
    obtain ⟨hquote, hbackslash, hline, hreturn, htab, hback, hform⟩ := hshort
    have hcontrol : c.toNat < 0x20 := (h.resolve_left hquote).resolve_left hbackslash
    refine ⟨0x75 :: 0x30 :: 0x30 :: encodeChars (twoHexDigits c.toNat), ?_, fun rest => ?_⟩
    · unfold escapeChar
      rw [if_neg hquote, if_neg hbackslash, if_neg hline, if_neg hreturn, if_neg htab,
        if_neg hback, if_neg hform, if_pos hcontrol]
      rfl
    · have hread := codePoint_twoHexDigits hcontrol rest
      rw [Char.ofNat_toNat] at hread
      exact hread

/-- All other characters are written as themselves. -/
theorem escapeChar_of_not_escaped (h : ¬Escaped c) : escapeChar c = [c] := by
  obtain ⟨hquote, hbackslash, hcontrol⟩ := by simpa only [Escaped, not_or] using h
  have hne : ∀ d : Char, d.toNat < 0x20 → c ≠ d := fun d hd heq => hcontrol (heq ▸ hd)
  unfold escapeChar
  rw [if_neg hquote, if_neg hbackslash, if_neg (hne _ (by decide)), if_neg (hne _ (by decide)),
    if_neg (hne _ (by decide)), if_neg (hne _ (by decide)), if_neg (hne _ (by decide)),
    if_neg hcontrol]

/-- A byte that is taken as it is inside a string. -/
def PlainByte (b : UInt8) : Prop := b ≠ 0x22 ∧ b ≠ 0x5C ∧ ¬b < 0x20

theorem plainByte_of_toNat {b : UInt8} (hquote : b.toNat ≠ 0x22) (hbackslash : b.toNat ≠ 0x5C)
    (hcontrol : 0x20 ≤ b.toNat) : PlainByte b := by
  refine ⟨fun h => hquote (by rw [h]; rfl), fun h => hbackslash (by rw [h]; rfl), fun h => ?_⟩
  exact Nat.not_lt.2 hcontrol (UInt8.lt_iff_toNat_lt.1 h)

/-- The bytes of a character that is not escaped are taken as they are. -/
theorem plainByte_of_not_escaped (h : ¬Escaped c) :
    ∀ b ∈ String.utf8EncodeChar c, PlainByte b := by
  obtain ⟨hquote, hbackslash, hcontrol⟩ := by simpa only [Escaped, not_or] using h
  intro b hb
  rcases Nat.lt_or_ge 0x7F c.toNat with hbeyond | hascii
  · have hhigh := Utf8.le_of_mem_encodeChar hbeyond b hb
    exact plainByte_of_toNat (by omega) (by omega) (by omega)
  · rw [Utf8.encodeChar_one hascii, List.mem_singleton] at hb
    have hself : b.toNat = c.toNat := by rw [hb, Utf8.toNat_byte (by omega)]
    refine plainByte_of_toNat ?_ ?_ (by omega)
    · rw [hself]
      exact fun heq => hquote (Char.toNat_inj.1 heq)
    · rw [hself]
      exact fun heq => hbackslash (Char.toNat_inj.1 heq)

end Escape

/-! ## Strings -/

section Strings

variable {fuel : Nat} {rest : Bytes}

/-- Plain bytes are taken one by one. -/
theorem stringBytes_plain {plain : Bytes} (hplain : ∀ b ∈ plain, PlainByte b) (found : Bytes)
    (hfuel : (plain ++ rest).length < fuel) :
    ∃ left, rest.length < left ∧
      stringBytes fuel found (plain ++ rest) = stringBytes left (plain.reverse ++ found) rest := by
  induction plain generalizing fuel found with
  | nil => exact ⟨fuel, hfuel, rfl⟩
  | cons b plain ih =>
      obtain ⟨hquote, hbackslash, hcontrol⟩ := hplain b List.mem_cons_self
      obtain ⟨fuel, rfl⟩ := Nat.exists_eq_add_one_of_ne_zero (Nat.ne_zero_of_lt hfuel)
      rw [List.cons_append, List.length_cons] at hfuel
      have hbehind : (plain ++ rest).length < fuel := by omega
      obtain ⟨left, hleft, heq⟩ :=
        ih (fun d hd => hplain d (List.mem_cons_of_mem _ hd)) (b :: found) hbehind
      refine ⟨left, hleft, ?_⟩
      rw [List.cons_append, stringBytes, if_neg hquote, if_neg hbackslash, if_neg hcontrol, heq]
      simp

/-- **The written form of a character is read as the bytes of this character.** -/
theorem stringBytes_escapeChar (c : Char) (found : Bytes)
    (hfuel : (encodeChars (escapeChar c) ++ rest).length < fuel) :
    ∃ left, rest.length < left ∧
      stringBytes fuel found (encodeChars (escapeChar c) ++ rest) =
        stringBytes left ((String.utf8EncodeChar c).reverse ++ found) rest := by
  by_cases h : Escaped c
  · obtain ⟨tail, hbytes, hread⟩ := escape_escapeChar h
    obtain ⟨fuel, rfl⟩ := Nat.exists_eq_add_one_of_ne_zero (Nat.ne_zero_of_lt hfuel)
    rw [hbytes, List.cons_append] at hfuel ⊢
    refine ⟨fuel, ?_, ?_⟩
    · simp only [List.length_cons, List.length_append] at hfuel
      omega
    · rw [stringBytes, if_neg (by decide), if_pos rfl, hread]
  · have hself : encodeChars [c] = String.utf8EncodeChar c := by
      rw [encodeChars_cons]
      exact List.append_nil _
    rw [escapeChar_of_not_escaped h, hself] at hfuel ⊢
    exact stringBytes_plain (plainByte_of_not_escaped h) found hfuel

/-- The written form of a text is read up to its closing quote. -/
theorem stringBytes_text (text : List Char) (found : Bytes)
    (hfuel : (encodeChars (text.flatMap escapeChar) ++ 0x22 :: rest).length < fuel) :
    stringBytes fuel found (encodeChars (text.flatMap escapeChar) ++ 0x22 :: rest) =
      .ok (found.reverse ++ encodeChars text, rest) := by
  induction text generalizing fuel found with
  | nil =>
      obtain ⟨fuel, rfl⟩ := Nat.exists_eq_add_one_of_ne_zero (Nat.ne_zero_of_lt hfuel)
      change stringBytes (fuel + 1) found (0x22 :: rest) = _
      rw [stringBytes, if_pos rfl]
      simp [encodeChars]
  | cons c text ih =>
      rw [List.flatMap_cons, encodeChars_append, List.append_assoc] at hfuel ⊢
      obtain ⟨left, hleft, heq⟩ := stringBytes_escapeChar c found hfuel
      rw [heq, ih _ hleft, encodeChars_cons]
      simp

/-- **A quoted text is read back.** -/
theorem string_quoted (s : String) (rest : Bytes) :
    ∃ tail, encodeChars (quoted s) ++ rest = 0x22 :: tail ∧ string tail = .ok (s, rest) := by
  refine ⟨encodeChars (s.toList.flatMap escapeChar) ++ 0x22 :: rest, ?_, ?_⟩
  · rw [quoted, encodeChars_cons, encodeChars_append, List.append_assoc, List.append_assoc]
    rfl
  · unfold string
    rw [stringBytes_text s.toList [] (Nat.lt_succ_self _)]
    simp only [List.reverse_nil, List.nil_append, bind, Except.bind, Utf8.decode?_encodeChars,
      String.ofList_toList]

end Strings

/-! ## Integers -/

/-- Whether a value ends before these bytes: nothing follows it, or the end of an item, of a container
or of a line. -/
def Delimited : Bytes → Prop
  | [] => True
  | b :: _ => b = 0x2C ∨ b = 0x5D ∨ b = 0x7D ∨ b = 0x0A

section Integers

variable {c : Char} {n : Nat} {rest : Bytes} (negative : Bool)

theorem afterWhole_delimited (hrest : Delimited rest) :
    afterWhole negative n rest = .ok (wholeValue negative n, rest) := by
  cases rest with
  | nil => rfl
  | cons b rest => rcases hrest with rfl | rfl | rfl | rfl <;> rfl

theorem isDigitByte_of_delimited {b : UInt8} (h : Delimited (b :: rest)) :
    isDigitByte b = false := by
  rcases h with rfl | rfl | rfl | rfl <;> rfl

/-- A digit is one byte of its value. -/
theorem encodeChar_digit (hc : c.isDigit = true) :
    ∃ b, String.utf8EncodeChar c = [b] ∧ isDigitByte b = true ∧ digit b = c.toNat - '0'.toNat ∧
      b.toNat = c.toNat := by
  have hrange : 48 ≤ c.toNat ∧ c.toNat ≤ 57 := by
    simpa [Char.isDigit, UInt32.le_iff_toNat_le] using hc
  have hself : (UInt8.ofNat c.toNat).toNat = c.toNat := Utf8.toNat_byte (by omega)
  refine ⟨_, Utf8.encodeChar_one (by omega), ?_, ?_, hself⟩
  · simp only [isDigitByte, Bool.and_eq_true, decide_eq_true_eq, UInt8.le_iff_toNat_le, hself]
    exact hrange
  · rw [digit, hself]
    rfl

theorem le_ofDigitChars (digits : List Char) (significand : Nat) :
    significand ≤ Nat.ofDigitChars 10 digits significand := by
  rw [Nat.ofDigitChars_eq_ofDigitChars_zero]
  have hpow : 0 < 10 ^ digits.length := Nat.pow_pos (by decide)
  exact Nat.le_trans (Nat.le_mul_of_pos_left _ hpow) (Nat.le_add_right _ _)

/-- Further digits are taken in one by one while the number fits. -/
theorem wholeDigits_digits {digits : List Char} (hdigits : ∀ c ∈ digits, c.isDigit = true)
    (significand : Nat) (hrest : Delimited rest)
    (hfits : Nat.ofDigitChars 10 digits significand < significandBound) :
    wholeDigits negative significand (encodeChars digits ++ rest) =
      .ok (wholeValue negative (Nat.ofDigitChars 10 digits significand), rest) := by
  induction digits generalizing significand with
  | nil =>
      have hafter := afterWhole_delimited (n := significand) negative hrest
      rw [Nat.ofDigitChars_nil]
      change wholeDigits negative significand rest = _
      cases rest with
      | nil => exact hafter
      | cons b rest =>
          rw [wholeDigits, isDigitByte_of_delimited hrest]
          exact hafter
  | cons c digits ih =>
      obtain ⟨b, hbyte, hdigit, hvalue, -⟩ := encodeChar_digit (hdigits c List.mem_cons_self)
      rw [Nat.ofDigitChars_cons] at hfits ⊢
      have hnext := Nat.lt_of_le_of_lt (le_ofDigitChars digits _) hfits
      rw [encodeChars_cons, hbyte, List.cons_append, List.nil_append, List.cons_append, wholeDigits,
        if_pos hdigit, hvalue]
      dsimp only
      rw [if_pos hnext]
      exact ih (fun d hd => hdigits d (List.mem_cons_of_mem _ hd)) _ hfits

/-- A positive integer is written without a leading zero. -/
theorem exists_cons_toDigits {n : Nat} (hn : 0 < n) :
    ∃ c digits, Nat.toDigits 10 n = c :: digits ∧ c ≠ '0' := by
  induction n using Nat.strongRecOn with
  | ind n ih =>
      rcases Nat.lt_or_ge n 10 with hlt | hge
      · have hall : ∀ k < 10, 0 < k → k.digitChar ≠ '0' := by decide
        exact ⟨n.digitChar, [], Nat.toDigits_of_lt_base hlt, hall n hlt hn⟩
      · obtain ⟨c, digits, heq, hc⟩ := ih (n / 10) (by omega) (by omega)
        refine ⟨c, digits ++ [(n % 10).digitChar], ?_, hc⟩
        rw [Nat.toDigits_of_base_le (by decide) hge, heq]
        rfl

/-- **The digits of an integer are read as this integer.** -/
theorem number_toDigits (hrest : Delimited rest) (hfits : n < significandBound) :
    number negative (encodeChars (Nat.toDigits 10 n) ++ rest) =
      .ok (wholeValue negative n, rest) := by
  rcases Nat.eq_zero_or_pos n with rfl | hn
  · have hafter := afterWhole_delimited (n := 0) negative hrest
    rw [Nat.toDigits_zero]
    change number negative (0x30 :: rest) = _
    cases rest with
    | nil => exact hafter
    | cons b rest =>
        rw [number, if_pos rfl, isDigitByte_of_delimited hrest]
        exact hafter
  · obtain ⟨c, digits, heq, hc⟩ := exists_cons_toDigits hn
    have hdigits : ∀ d ∈ c :: digits, d.isDigit = true := heq ▸ fun _ =>
      Nat.isDigit_of_mem_toDigits (by decide) (by decide)
    obtain ⟨b, hbyte, hdigit, hvalue, hself⟩ := encodeChar_digit (hdigits c List.mem_cons_self)
    have hnonzero : b ≠ 0x30 := by
      rintro rfl
      exact hc (Char.toNat_inj.1 hself.symm)
    have hn : Nat.ofDigitChars 10 digits (digit b) = n := by
      have hself := @Nat.ofDigitChars_ten_toDigits n
      rw [heq, Nat.ofDigitChars_cons, Nat.mul_zero, Nat.zero_add] at hself
      rw [hvalue, hself]
    rw [heq, encodeChars_cons, hbyte, List.cons_append, List.nil_append, List.cons_append]
    unfold number
    dsimp only
    rw [if_neg hnonzero, if_pos hdigit]
    have hread := wholeDigits_digits negative
      (fun d hd => hdigits d (List.mem_cons_of_mem _ hd)) (digit b) hrest (by rwa [hn])
    rw [hn] at hread
    exact hread

/-- The first byte of an integer without a sign is a digit. -/
theorem encodeChars_toDigits (n : Nat) :
    ∃ b tail, encodeChars (Nat.toDigits 10 n) = b :: tail ∧ isDigitByte b = true := by
  obtain ⟨c, digits, heq⟩ := List.exists_cons_of_ne_nil (@Nat.toDigits_ne_nil n 10)
  have hc : c.isDigit = true := by
    refine Nat.isDigit_of_mem_toDigits (n := n) (b := 10) (by decide) (by decide) ?_
    rw [heq]
    exact List.mem_cons_self
  obtain ⟨b, hbyte, hdigit, -⟩ := encodeChar_digit hc
  exact ⟨b, encodeChars digits, by rw [heq, encodeChars_cons, hbyte]; rfl, hdigit⟩

end Integers

end ScenarioRunner.Json

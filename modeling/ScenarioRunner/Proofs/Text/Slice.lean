import Mathlib.Data.List.Infix
import ScenarioRunner.Proofs.Text.Utf8

/-!
# Slices of a text

A text is cut at offsets that count its bytes. An offset is a boundary if the byte behind it continues
no character, and boundaries are exactly the places between two characters
(`isBoundary_encodeChars_iff`). There is a slice between two of them only, and it is the text that
stands there (`slice?_eq_some_iff`).
-/

set_option autoImplicit false

namespace ScenarioRunner.Utf8

/-! ## Offsets -/

/-- The number of bytes of a text. -/
def byteLength (text : List Char) : Nat := (encodeChars text).length

/-- A byte that continues a character. -/
def isContinuation (b : UInt8) : Bool := 0x80 ≤ b.toNat && b.toNat < 0xC0

/-- Whether an offset is at the end of some bytes, or before one of them that continues no character. -/
def isBoundary (bytes : Bytes) (offset : Nat) : Bool :=
  match bytes[offset]? with
  | some b => !isContinuation b
  | none => offset == bytes.length

/-- The slice of a text between two offsets. There is none if they come in the wrong order, or if one of
them is out of range or no boundary. -/
def slice? (text : List Char) (start stop : Nat) : Option (List Char) :=
  let bytes := encodeChars text
  if start ≤ stop ∧ isBoundary bytes start ∧ isBoundary bytes stop then
    (decode? ((bytes.take stop).drop start)).map String.toList
  else none

section Length

variable (first second : List Char)

theorem byteLength_append : byteLength (first ++ second) = byteLength first + byteLength second := by
  rw [byteLength, encodeChars_append, List.length_append]
  rfl

theorem byteLength_singleton (c : Char) : byteLength [c] = (String.utf8EncodeChar c).length := by
  rw [byteLength, encodeChars_cons]
  exact congrArg List.length (List.append_nil _)

theorem utf8ByteSize_eq (text : String) : text.utf8ByteSize = byteLength text.toList := by
  rw [← text.ofList_toList, String.toList_ofList, String.utf8ByteSize, String.toByteArray_ofList,
    List.utf8Encode, List.size_toByteArray]
  rfl

theorem eq_nil_of_byteLength {text : List Char} (h : byteLength text = 0) : text = [] := by
  cases text with
  | nil => rfl
  | cons c rest =>
      have hpos := c.utf8Size_pos
      rw [byteLength, encodeChars_cons, List.length_append, String.length_utf8EncodeChar] at h
      omega

end Length

/-! ## Boundaries -/

/-- The first byte of a character continues none, and all others do. -/
theorem encodeChar_bytes (c : Char) :
    ∃ b tail, String.utf8EncodeChar c = b :: tail ∧ isContinuation b = false ∧
      ∀ d ∈ tail, isContinuation d = true := by
  have hrange := toNat_range c
  have hcases : c.toNat ≤ 0x7F ∨ 0x7F < c.toNat ∧ c.toNat ≤ 0x7FF ∨
      0x7FF < c.toNat ∧ c.toNat ≤ 0xFFFF ∨ 0xFFFF < c.toNat := by omega
  have hfirst : ∀ n, n < 256 → n < 0x80 ∨ 0xC0 ≤ n → isContinuation (UInt8.ofNat n) = false := by
    intro n hn hout
    simp only [isContinuation, toNat_byte hn, Bool.and_eq_false_iff, decide_eq_false_iff_not]
    omega
  have hfurther : ∀ n, isContinuation (UInt8.ofNat (n % 0x40 + 0x80)) = true := by
    intro n
    have hn := Nat.mod_lt n (show 0 < 0x40 by decide)
    simp only [isContinuation, toNat_byte (show n % 0x40 + 0x80 < 256 by omega), Bool.and_eq_true,
      decide_eq_true_eq]
    omega
  rcases hcases with hone | ⟨hlow, hhigh⟩ | ⟨hlow, hhigh⟩ | hfour
  · exact ⟨_, _, encodeChar_one hone, hfirst _ (by omega) (by omega), by simp⟩
  · refine ⟨_, _, encodeChar_two hlow hhigh, hfirst _ (by omega) (by omega), ?_⟩
    simp only [List.forall_mem_cons]
    exact ⟨hfurther _, by simp⟩
  · refine ⟨_, _, encodeChar_three hlow hhigh, hfirst _ (by omega) (by omega), ?_⟩
    simp only [List.forall_mem_cons]
    exact ⟨hfurther _, hfurther _, by simp⟩
  · refine ⟨_, _, encodeChar_four hfour, hfirst _ (by omega) (by omega), ?_⟩
    simp only [List.forall_mem_cons]
    exact ⟨hfurther _, hfurther _, hfurther _, by simp⟩

/-- Behind some bytes an offset is a boundary if it is one of the bytes that follow. -/
theorem isBoundary_append {front bytes : Bytes} {offset : Nat} (h : front.length ≤ offset) :
    isBoundary (front ++ bytes) offset = isBoundary bytes (offset - front.length) := by
  unfold isBoundary
  rw [List.getElem?_append_right h]
  cases bytes[offset - front.length]? with
  | some b => rfl
  | none =>
      dsimp only
      rw [Bool.eq_iff_iff, beq_iff_eq, beq_iff_eq, List.length_append]
      omega

/-- No boundary is inside of a character. -/
theorem not_isBoundary_of_inside {c : Char} {bytes : Bytes} {offset : Nat} (hpos : 0 < offset)
    (hlt : offset < (String.utf8EncodeChar c).length) :
    isBoundary (String.utf8EncodeChar c ++ bytes) offset = false := by
  obtain ⟨b, tail, hbytes, -, htail⟩ := encodeChar_bytes c
  obtain ⟨offset, rfl⟩ : ∃ inner, offset = inner + 1 := ⟨offset - 1, by omega⟩
  rw [hbytes, List.length_cons, Nat.succ_lt_succ_iff] at hlt
  have hbyte : (b :: tail ++ bytes)[offset + 1]? = some tail[offset] := by
    rw [List.cons_append, List.getElem?_cons_succ, List.getElem?_append_left hlt,
      List.getElem?_eq_getElem hlt]
  rw [hbytes, isBoundary, hbyte]
  simp [htail _ (List.getElem_mem hlt)]

/-- **Boundaries are the places between two characters**, and both ends of a text. -/
theorem isBoundary_encodeChars_iff {text : List Char} {offset : Nat} :
    isBoundary (encodeChars text) offset = true ↔
      ∃ before behind, text = before ++ behind ∧ byteLength before = offset := by
  constructor
  · intro h
    induction text generalizing offset with
    | nil =>
        simp only [isBoundary, encodeChars, List.flatMap_nil, List.getElem?_nil, List.length_nil,
          beq_iff_eq] at h
        exact ⟨[], [], rfl, h.symm⟩
    | cons c rest ih =>
        rw [encodeChars_cons] at h
        rcases Nat.lt_or_ge offset (String.utf8EncodeChar c).length with hinside | hbehind
        · rcases Nat.eq_zero_or_pos offset with rfl | hpos
          · exact ⟨[], c :: rest, rfl, rfl⟩
          · rw [not_isBoundary_of_inside hpos hinside] at h
            cases h
        · rw [isBoundary_append hbehind] at h
          obtain ⟨before, behind, rfl, hlength⟩ := ih h
          refine ⟨c :: before, behind, rfl, ?_⟩
          rw [byteLength, encodeChars_cons, List.length_append]
          change _ + byteLength before = offset
          omega
  · rintro ⟨before, behind, rfl, rfl⟩
    unfold isBoundary byteLength
    rw [encodeChars_append, List.getElem?_append_right (Nat.le_refl _), Nat.sub_self]
    cases behind with
    | nil => simp [encodeChars]
    | cons c rest =>
        obtain ⟨b, tail, hbytes, hfirst, -⟩ := encodeChar_bytes c
        rw [encodeChars_cons, hbytes]
        simp [hfirst]

/-! ## Slices -/

/-- **There is a slice between two boundaries only**, and it is the text that stands there. -/
theorem slice?_eq_some_iff {text piece : List Char} {start stop : Nat} :
    slice? text start stop = some piece ↔
      ∃ before behind, text = before ++ piece ++ behind ∧ byteLength before = start ∧
        byteLength (before ++ piece) = stop := by
  have hpiece : ∀ before piece behind : List Char,
      ((encodeChars (before ++ piece ++ behind)).take (byteLength (before ++ piece))).drop
        (byteLength before) = encodeChars piece := by
    intro before piece behind
    have htake : (encodeChars (before ++ piece) ++ encodeChars behind).take
        (byteLength (before ++ piece)) = encodeChars (before ++ piece) := List.take_left
    rw [encodeChars_append, htake, encodeChars_append]
    exact List.drop_left
  constructor
  · intro h
    dsimp only [slice?] at h
    split at h
    · next hboundaries =>
        obtain ⟨horder, hstart, hstop⟩ := hboundaries
        obtain ⟨before, rest, htext, rfl⟩ := isBoundary_encodeChars_iff.1 hstart
        obtain ⟨front, behind, rfl, rfl⟩ := isBoundary_encodeChars_iff.1 hstop
        have hbefore : before <+: front ++ behind := ⟨rest, htext.symm⟩
        -- of two places the one with fewer bytes before it comes first
        obtain ⟨inner, rfl⟩ : before <+: front := by
          rcases List.prefix_or_prefix_of_prefix hbefore (List.prefix_append front behind) with
            hprefix | ⟨tail, rfl⟩
          · exact hprefix
          · rw [byteLength_append] at horder
            have htail : tail = [] := eq_nil_of_byteLength (by omega)
            rw [htail, List.append_nil]
        rw [hpiece, decode?_encodeChars, Option.map_some, String.toList_ofList,
          Option.some.injEq] at h
        obtain rfl := h
        exact ⟨before, behind, rfl, rfl, rfl⟩
    · cases h
  · rintro ⟨before, behind, rfl, rfl, rfl⟩
    dsimp only [slice?]
    rw [if_pos, hpiece, decode?_encodeChars, Option.map_some, String.toList_ofList]
    refine ⟨?_, ?_, ?_⟩
    · rw [byteLength_append]
      exact Nat.le_add_right _ _
    · exact isBoundary_encodeChars_iff.2 ⟨before, piece ++ behind, List.append_assoc _ _ _, rfl⟩
    · exact isBoundary_encodeChars_iff.2 ⟨before ++ piece, behind, rfl, rfl⟩

section Parts

variable (front behind : List Char)

theorem slice?_front : slice? (front ++ behind) 0 (byteLength front) = some front :=
  slice?_eq_some_iff.2 ⟨[], behind, rfl, rfl, rfl⟩

theorem slice?_behind : slice? (front ++ behind) (byteLength front) (byteLength (front ++ behind)) =
    some behind :=
  slice?_eq_some_iff.2 ⟨front, [], (List.append_nil _).symm, rfl, rfl⟩

theorem slice?_between (before : List Char) :
    slice? (before ++ front ++ behind) (byteLength before) (byteLength (before ++ front)) =
      some front :=
  slice?_eq_some_iff.2 ⟨before, behind, rfl, rfl, rfl⟩

end Parts

/-! ## Searching -/

/-- The first offset at which a pattern of some bytes stands in others. -/
def find? (pattern : Bytes) : Bytes → Option Nat
  | [] => none
  | b :: rest =>
    if pattern.isPrefixOf (b :: rest) then some 0 else (find? pattern rest).map (· + 1)

/-- The last offset at which a pattern of some bytes stands in others. -/
def findLast? (pattern : Bytes) : Bytes → Option Nat
  | [] => none
  | b :: rest =>
    match findLast? pattern rest with
    | some offset => some (offset + 1)
    | none => if pattern.isPrefixOf (b :: rest) then some 0 else none

section Pair

variable {m : UInt8} {front : Bytes} (bytes : Bytes)

theorem isPrefixOf_pair_iff (b : UInt8) :
    [m, m].isPrefixOf (b :: bytes) = true ↔ b = m ∧ bytes.head? = some m := by
  rw [List.isPrefixOf_iff_prefix, List.cons_prefix_cons, List.singleton_prefix_iff_head?_eq_some,
    eq_comm]

theorem not_isPrefixOf_pair {b : UInt8} (hb : b ≠ m) : ¬[m, m].isPrefixOf (b :: bytes) = true := by
  rw [isPrefixOf_pair_iff]
  intro hpair
  exact hb hpair.1

/-- Bytes that are no part of a pair are passed over. -/
theorem find?_append_of_not_mem (h : m ∉ front) :
    find? [m, m] (front ++ bytes) = (find? [m, m] bytes).map (· + front.length) := by
  induction front with
  | nil => exact Option.map_id'.symm
  | cons b front ih =>
      rw [List.mem_cons, not_or] at h
      rw [List.cons_append, find?, if_neg (not_isPrefixOf_pair _ (Ne.symm h.1)), ih h.2,
        Option.map_map]
      rfl

theorem findLast?_append_of_not_mem (h : m ∉ front) :
    findLast? [m, m] (front ++ bytes) = (findLast? [m, m] bytes).map (· + front.length) := by
  induction front with
  | nil => exact Option.map_id'.symm
  | cons b front ih =>
      rw [List.mem_cons, not_or] at h
      rw [List.cons_append, findLast?, ih h.2, if_neg (not_isPrefixOf_pair _ (Ne.symm h.1))]
      cases findLast? [m, m] bytes with
      | none => rfl
      | some offset => rfl

end Pair

section Mark

variable {mark : Char}

theorem encodeChar_of_ascii (hmark : mark.toNat < 0x80) :
    String.utf8EncodeChar mark = [UInt8.ofNat mark.toNat] := encodeChar_one (by omega)

theorem encodeChars_pair (hmark : mark.toNat < 0x80) :
    encodeChars [mark, mark] = [UInt8.ofNat mark.toNat, UInt8.ofNat mark.toNat] := by
  rw [encodeChars_cons, encodeChars_cons, encodeChar_of_ascii hmark]
  rfl

theorem byteLength_pair (hmark : mark.toNat < 0x80) : byteLength [mark, mark] = 2 := by
  rw [byteLength, encodeChars_pair hmark]
  rfl

/-- The byte of an ASCII character stands in no other character. -/
theorem mem_encodeChar_iff (hmark : mark.toNat < 0x80) (c : Char) :
    UInt8.ofNat mark.toNat ∈ String.utf8EncodeChar c ↔ c = mark := by
  have hbyte := toNat_byte (show mark.toNat < 256 by omega)
  constructor
  · intro hmem
    rcases Nat.lt_or_ge c.toNat 0x80 with hascii | hlong
    · rw [encodeChar_of_ascii hascii, List.mem_singleton] at hmem
      have htoNat := congrArg UInt8.toNat hmem
      rw [hbyte, toNat_byte (by omega)] at htoNat
      exact Char.toNat_inj.1 htoNat.symm
    · have hle := le_of_mem_encodeChar (by omega) _ hmem
      omega
  · rintro rfl
    rw [encodeChar_of_ascii hmark]
    exact List.mem_singleton_self _

/-- A text begins with the byte of an ASCII character if it begins with this character. -/
theorem head?_encodeChars_iff (hmark : mark.toNat < 0x80) (text : List Char) :
    (encodeChars text).head? = some (UInt8.ofNat mark.toNat) ↔ text.head? = some mark := by
  cases text with
  | nil => simp [encodeChars]
  | cons c rest =>
      have hmem := mem_encodeChar_iff hmark c
      rw [encodeChars_cons, List.head?_cons, Option.some.injEq]
      constructor
      · intro hhead
        obtain ⟨b, tail, hbytes, -, -⟩ := encodeChar_bytes c
        rw [hbytes, List.cons_append, List.head?_cons, Option.some.injEq] at hhead
        apply hmem.1
        rw [hbytes, hhead]
        exact List.mem_cons_self
      · rintro rfl
        rw [encodeChar_of_ascii hmark]
        rfl

variable (hmark : mark.toNat < 0x80) (c : Char) (rest : List Char)
include hmark

/-- The first pair of an ASCII character is found character by character. -/
theorem find?_encodeChars_cons :
    find? (encodeChars [mark, mark]) (encodeChars (c :: rest)) =
      if c = mark ∧ rest.head? = some mark then some 0
      else (find? (encodeChars [mark, mark]) (encodeChars rest)).map (· + byteLength [c]) := by
  rw [encodeChars_pair hmark, encodeChars_cons, byteLength_singleton]
  by_cases hc : c = mark
  · subst hc
    rw [encodeChar_of_ascii hmark, List.singleton_append, find?]
    simp only [isPrefixOf_pair_iff, head?_encodeChars_iff hmark, true_and]
    rfl
  · rw [if_neg fun h => hc h.1, find?_append_of_not_mem]
    rwa [mem_encodeChar_iff hmark]

/-- So is the last one. -/
theorem findLast?_encodeChars_cons :
    findLast? (encodeChars [mark, mark]) (encodeChars (c :: rest)) =
      match findLast? (encodeChars [mark, mark]) (encodeChars rest) with
      | some offset => some (offset + byteLength [c])
      | none => if c = mark ∧ rest.head? = some mark then some 0 else none := by
  rw [encodeChars_pair hmark, encodeChars_cons, byteLength_singleton]
  by_cases hc : c = mark
  · subst hc
    rw [encodeChar_of_ascii hmark, List.singleton_append, findLast?]
    simp only [isPrefixOf_pair_iff, head?_encodeChars_iff hmark, true_and]
    rfl
  · rw [if_neg fun h => hc h.1, findLast?_append_of_not_mem]
    · cases findLast? _ (encodeChars rest) with
      | none => rfl
      | some offset => rfl
    · rwa [mem_encodeChar_iff hmark]

end Mark

end ScenarioRunner.Utf8

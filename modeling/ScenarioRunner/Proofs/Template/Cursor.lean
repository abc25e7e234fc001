import ScenarioRunner.Proofs.Template.Slot
import ScenarioRunner.Proofs.Text.Slice

/-!
# Reading a template in passes

A template can be read from its front in passes. A pass searches what is left of the template for the
next two braces of a kind, by the offsets of their first bytes, and slices it there (`Scope.pass`). The
offsets are those of the cuts that scanning makes (`offset?_eq`, `lastOffset?_eq`), so each slice is
between two characters and there is one. A pass that does not end the reading takes two bytes at least,
and after half as many passes as the template has bytes its text is the one that scanning gives
(`resolveBySlices_eq`).
-/

set_option autoImplicit false

namespace ScenarioRunner

open Utf8

namespace Template

/-! ## Offsets of marks -/

theorem opening_ascii : opening.toNat < 0x80 := by decide

theorem closing_ascii : closing.toNat < 0x80 := by decide

/-- The offset of the first two marks in a row. -/
def offset? (mark : Char) (text : List Char) : Option Nat :=
  find? (encodeChars [mark, mark]) (encodeChars text)

/-- The offset of the last two marks in a row. -/
def lastOffset? (mark : Char) (text : List Char) : Option Nat :=
  findLast? (encodeChars [mark, mark]) (encodeChars text)

section Offset

variable {mark : Char} (a : Char) (text : List Char)

theorem cutFirst_cons : cutFirst mark (a :: text) =
    if a = mark ∧ text.head? = some mark then some ([], text.tail)
    else (cutFirst mark text).map fun cut => (a :: cut.1, cut.2) := by
  cases text with
  | nil => simp [cutFirst]
  | cons b rest => simp only [cutFirst, List.head?_cons, Option.some.injEq, List.tail_cons]

theorem cutLast_cons : cutLast mark (a :: text) =
    match cutLast mark text with
    | some cut => some (a :: cut.1, cut.2)
    | none => if a = mark ∧ text.head? = some mark then some ([], text.tail) else none := by
  cases text with
  | nil => simp [cutLast]
  | cons b rest =>
      rw [cutLast]
      cases cutLast mark (b :: rest) with
      | none => simp
      | some cut => rfl

variable (hmark : mark.toNat < 0x80)
include hmark

/-- **The first two marks are found behind the text that is cut off before them.** -/
theorem offset?_eq : offset? mark text = (cutFirst mark text).map fun cut => byteLength cut.1 := by
  unfold offset?
  -- one character at a time: with it all of its bytes are passed over
  induction text with
  | nil => rfl
  | cons a text ih =>
      rw [find?_encodeChars_cons hmark, ih, cutFirst_cons]
      split
      · rfl
      · rw [Option.map_map, Option.map_map]
        congr 1
        funext cut
        change byteLength cut.1 + byteLength [a] = byteLength ([a] ++ cut.1)
        rw [byteLength_append, Nat.add_comm]

/-- So are the last two. -/
theorem lastOffset?_eq :
    lastOffset? mark text = (cutLast mark text).map fun cut => byteLength cut.1 := by
  unfold lastOffset?
  induction text with
  | nil => rfl
  | cons a text ih =>
      rw [findLast?_encodeChars_cons hmark, ih, cutLast_cons]
      cases cutLast mark text with
      | none =>
          dsimp only [Option.map_none]
          split
          · rfl
          · rfl
      | some cut =>
          dsimp only [Option.map_some]
          change some (byteLength cut.1 + byteLength [a]) = some (byteLength ([a] ++ cut.1))
          rw [byteLength_append, Nat.add_comm]

end Offset

/-! ## Slices at a cut -/

section Cut

variable {mark : Char} {text before behind : List Char} (hmark : mark.toNat < 0x80)
include hmark

theorem byteLength_append_marks : byteLength (before ++ mark :: mark :: behind) =
    byteLength before + 2 + byteLength behind := by
  have hmarks : mark :: mark :: behind = [mark, mark] ++ behind := rfl
  rw [hmarks, byteLength_append, byteLength_append, byteLength_pair hmark, Nat.add_assoc]

variable (hcut : cutFirst mark text = some (before, behind))
include hcut

theorem offset?_of_cutFirst : offset? mark text = some (byteLength before) := by
  rw [offset?_eq text hmark, hcut, Option.map_some]

omit hmark in
theorem slice?_before_cut : slice? text 0 (byteLength before) = some before := by
  rw [eq_of_cutFirst hcut]
  exact slice?_front _ _

theorem slice?_behind_cut : slice? text (byteLength before + 2) (byteLength text) = some behind := by
  have htext : text = before ++ [mark, mark] ++ behind := by
    rw [eq_of_cutFirst hcut, List.append_assoc]
    rfl
  rw [htext, ← byteLength_pair hmark, ← byteLength_append before]
  exact slice?_behind _ _

end Cut

/-- The source of a slot has its four braces besides what is written between them. -/
theorem byteLength_source_slot (inner : List Char) :
    byteLength (Piece.source (.slot inner)) = 2 + byteLength inner + 2 := by
  have hsource : Piece.source (.slot inner) =
      [opening, opening] ++ (inner ++ [closing, closing]) := rfl
  rw [hsource, byteLength_append, byteLength_append, byteLength_pair opening_ascii,
    byteLength_pair closing_ascii, Nat.add_assoc]

/-! ## What scanning makes of the cuts -/

section Scan

variable {template before behind name rest : List Char}

/-- A template whose first opener is not closed is one text. -/
theorem scan_of_unclosed (hopen : cutFirst opening template = some (before, behind))
    (hclose : cutFirst closing behind = none) : scan template = [.text template] := by
  rw [scan]
  split
  · rfl
  · next hfound =>
      rw [hopen] at hfound
      cases hfound
      split
      · rfl
      · next hfound =>
          rw [hclose] at hfound
          cases hfound

/-- No two marks begin behind the first one of the last two. -/
theorem not_doubled_of_cutLast {mark : Char} {text : List Char}
    (h : cutLast mark text = some (before, behind)) : ¬Doubled mark (mark :: behind) := by
  induction text generalizing before with
  | nil => cases h
  | cons a text ih =>
      rw [cutLast_cons] at h
      cases hcut : cutLast mark text with
      | some cut =>
          rw [hcut] at h
          cases h
          exact ih hcut
      | none =>
          rw [hcut] at h
          dsimp only at h
          split at h
          · next hmarks =>
              cases h
              obtain ⟨rfl, hhead⟩ := hmarks
              rw [List.cons_head?_tail hhead]
              exact cutLast_eq_none_iff.1 hcut
          · cases h

/-- The innermost opener before a closer, and all behind it, is a template that begins with a slot. -/
theorem scan_of_cutLast {inner outer : List Char}
    (hclose : cutFirst closing behind = some (inner, rest))
    (hlast : cutLast opening inner = some (outer, name)) :
    scan (Piece.source (.slot name) ++ rest) = .text [] :: .slot name :: scan rest := by
  have hname : ¬Doubled opening name := by
    intro hdouble
    exact not_doubled_of_cutLast hlast (hdouble.trans (List.suffix_cons _ _).isInfix)
  have hcloser : ¬Doubled closing (name ++ [closing]) := by
    intro hdouble
    have hinner : name ++ [closing] <:+: inner ++ [closing] := by
      rw [eq_of_cutLast hlast]
      exact ⟨outer ++ [opening, opening], [], by simp⟩
    exact not_doubled_of_cutFirst hclose (hdouble.trans hinner)
  have hfirst : ¬Doubled opening ([] ++ [opening]) := not_doubled_singleton opening
  exact scan_slot_of_first rest hfirst hname hcloser

end Scan

end Template

/-! ## Passes -/

open Template

/-- Where reading a template stands: the text so far, what is left of the template, and the place in
the supply of identifiers. -/
structure Cursor where
  written : List Char
  rest : List Char
  supply : Nat
  deriving DecidableEq

/-- How a pass ends: with the reading, or with the cursor of the next pass. -/
inductive Pass where
  | left
  | again (next : Cursor)
  deriving DecidableEq

namespace Cursor

/-- The front of a template. -/
def start (supply : Nat) (template : String) : Cursor := ⟨[], template.toList, supply⟩

/-- What is left of a template at the end of reading stands for itself. -/
def finish (cursor : Cursor) : String × Nat :=
  (String.ofList (cursor.written ++ cursor.rest), cursor.supply)

end Cursor

namespace Scope

/-- One pass over what is left of a template, from the offset of an opener. There is none if it slices
out of range or inside of a character. -/
def pass (scope : Scope) (cursor : Cursor) (start : Nat) : Option Pass := do
  let after ← slice? cursor.rest (start + 2) (byteLength cursor.rest)
  match offset? closing after with
  | none => some .left
  | some stop =>
    let inner ← slice? after 0 stop
    match lastOffset? opening inner with
    | some nested =>
      -- the slot begins at its innermost opener
      let restart := start + 2 + nested
      let passed ← slice? cursor.rest 0 restart
      let rest ← slice? cursor.rest restart (byteLength cursor.rest)
      some (.again ⟨cursor.written ++ passed, rest, cursor.supply⟩)
    | none =>
      let before ← slice? cursor.rest 0 start
      let (found, supply) := scope.read cursor.supply (.ofName (trimBlanks inner))
      let text ← found <|> slice? cursor.rest start (start + 2 + stop + 2)
      let rest ← slice? after (stop + 2) (byteLength after)
      some (.again ⟨cursor.written ++ before ++ text, rest, supply⟩)

/-- Reads a template in a number of passes, each of which begins at the first opener. There is no text
if a slice fails, or if the passes are used up before the reading ends. -/
def resolveBySlices (scope : Scope) : Nat → Cursor → Option (String × Nat)
  | 0, cursor => if (offset? opening cursor.rest).isNone then some cursor.finish else none
  | passes + 1, cursor =>
    match offset? opening cursor.rest with
    | none => some cursor.finish
    | some start =>
      match scope.pass cursor start with
      | none => none
      | some .left => some cursor.finish
      | some (.again next) => scope.resolveBySlices passes next

/-! ## One pass -/

section Step

variable {scope : Scope} {cursor : Cursor} {before behind inner rest : List Char}
variable (hopen : cutFirst opening cursor.rest = some (before, behind))
include hopen

/-- A pass ends the reading if the opener is not closed. -/
theorem pass_of_unclosed (hclose : cutFirst closing behind = none) :
    scope.pass cursor (byteLength before) = some .left := by
  have hstop : offset? closing behind = none := by
    rw [offset?_eq _ closing_ascii, hclose, Option.map_none]
  simp only [pass, slice?_behind_cut opening_ascii hopen, Option.bind_eq_bind, Option.bind_some, hstop]

variable (hclose : cutFirst closing behind = some (inner, rest))
include hclose

/-- A pass goes on at the innermost opener if there are others before the closer. -/
theorem pass_of_nested {outer name : List Char}
    (hlast : cutLast opening inner = some (outer, name)) :
    scope.pass cursor (byteLength before) =
      some (.again ⟨cursor.written ++ (before ++ opening :: opening :: outer),
        Piece.source (.slot name) ++ rest, cursor.supply⟩) := by
  have hnested : lastOffset? opening inner = some (byteLength outer) := by
    rw [lastOffset?_eq _ opening_ascii, hlast, Option.map_some]
  have hrest : cursor.rest =
      (before ++ opening :: opening :: outer) ++ (Piece.source (.slot name) ++ rest) := by
    rw [eq_of_cutFirst hopen, eq_of_cutFirst hclose, eq_of_cutLast hlast]
    simp [Piece.source]
  -- the restart is the place before the innermost opener, so both slices meet there
  have hpassed := slice?_front (before ++ opening :: opening :: outer)
    (Piece.source (.slot name) ++ rest)
  have hagain := slice?_behind (before ++ opening :: opening :: outer)
    (Piece.source (.slot name) ++ rest)
  rw [← hrest, byteLength_append_marks opening_ascii] at hpassed hagain
  simp only [pass, slice?_behind_cut opening_ascii hopen, offset?_of_cutFirst closing_ascii hclose,
    slice?_before_cut hclose, hnested, hpassed, hagain, Option.bind_eq_bind, Option.bind_some]

/-- Otherwise it fills the slot, and goes on behind its closer. -/
theorem pass_of_slot (hlast : cutLast opening inner = none) :
    scope.pass cursor (byteLength before) =
      some (.again ⟨cursor.written ++ before ++ (scope.fillPiece cursor.supply (.slot inner)).1, rest,
        (scope.fillPiece cursor.supply (.slot inner)).2⟩) := by
  have hnested : lastOffset? opening inner = none := by
    rw [lastOffset?_eq _ opening_ascii, hlast, Option.map_none]
  have hrest : cursor.rest = before ++ Piece.source (.slot inner) ++ rest := by
    rw [eq_of_cutFirst hopen, eq_of_cutFirst hclose]
    simp [Piece.source]
  have hstop : byteLength (before ++ Piece.source (.slot inner)) =
      byteLength before + 2 + byteLength inner + 2 := by
    rw [byteLength_append, byteLength_source_slot]
    omega
  have hsource := slice?_between (Piece.source (.slot inner)) rest before
  rw [← hrest, hstop] at hsource
  simp only [pass, slice?_behind_cut opening_ascii hopen, offset?_of_cutFirst closing_ascii hclose,
    slice?_before_cut hclose, hnested, slice?_before_cut hopen, hsource,
    slice?_behind_cut closing_ascii hclose, fillPiece, Option.bind_eq_bind, Option.bind_some]
  -- the source is sliced off only if the slot refers to nothing
  cases (scope.read cursor.supply (.ofName (trimBlanks inner))).1 with
  | none => rfl
  | some text => rfl

end Step

/-! ## All passes -/

/-- The text that reading on from a cursor is to give: what is written, and behind it what scanning
gives for the rest. -/
def outcome (scope : Scope) (cursor : Cursor) : String × Nat :=
  let (text, supply) := scope.resolveChars cursor.supply cursor.rest
  (String.ofList (cursor.written ++ text), supply)

section Run

variable {scope : Scope} {cursor : Cursor}

variable (scope) in
/-- **A pass finds all its slices.** It ends the reading with its outcome, or it keeps the outcome and
takes two bytes at least. -/
theorem pass_advances {start : Nat} (hstart : offset? opening cursor.rest = some start) :
    (scope.pass cursor start = some .left ∧ scope.outcome cursor = cursor.finish) ∨
      ∃ next, scope.pass cursor start = some (.again next) ∧
        byteLength next.rest + 2 ≤ byteLength cursor.rest ∧
        scope.outcome next = scope.outcome cursor := by
  rw [offset?_eq _ opening_ascii, Option.map_eq_some_iff] at hstart
  obtain ⟨⟨before, behind⟩, hopen, rfl⟩ := hstart
  have hlength : byteLength cursor.rest = byteLength before + 2 + byteLength behind := by
    rw [eq_of_cutFirst hopen, byteLength_append_marks opening_ascii]
  -- the cases are those of scanning: no closer, no opener before it, or one that is further inside
  cases hclose : cutFirst closing behind with
  | none =>
      left
      refine ⟨pass_of_unclosed hopen hclose, ?_⟩
      unfold outcome resolveChars
      rw [scan_of_unclosed hopen hclose]
      simp [fill, fillPiece, Cursor.finish]
  | some cut =>
      obtain ⟨inner, rest⟩ := cut
      right
      have hinner : byteLength behind = byteLength inner + 2 + byteLength rest := by
        rw [eq_of_cutFirst hclose, byteLength_append_marks closing_ascii]
      cases hlast : cutLast opening inner with
      | none =>
          refine ⟨_, pass_of_slot hopen hclose hlast, ?_, ?_⟩
          · dsimp only
            omega
          · have hscan := scan_of_cuts hopen hclose
            rw [hlast] at hscan
            unfold outcome
            rw [resolveChars_of_scan hscan (Prod.eta _).symm]
            simp only [List.append_assoc]
      | some cut =>
          obtain ⟨outer, name⟩ := cut
          refine ⟨_, pass_of_nested hopen hclose hlast, ?_, ?_⟩
          · have hname : byteLength inner = byteLength outer + 2 + byteLength name := by
              rw [eq_of_cutLast hlast, byteLength_append_marks opening_ascii]
            dsimp only
            rw [byteLength_append, byteLength_source_slot]
            omega
          · have hscan := scan_of_cuts hopen hclose
            rw [hlast] at hscan
            unfold outcome
            rw [resolveChars_of_scan hscan (Prod.eta _).symm,
              resolveChars_of_scan (scan_of_cutLast hclose hlast) (Prod.eta _).symm]
            simp only [List.append_assoc, List.nil_append]

/-- Where no opener is found reading ends. -/
theorem outcome_of_offset?_eq_none (hnone : offset? opening cursor.rest = none) :
    scope.outcome cursor = cursor.finish := by
  rw [offset?_eq _ opening_ascii, Option.map_eq_none_iff, cutFirst_eq_none_iff] at hnone
  unfold outcome
  rw [resolveChars_of_not_doubled hnone]
  rfl

/-- An opener has two bytes. -/
theorem two_le_of_offset? {start : Nat} (hstart : offset? opening cursor.rest = some start) :
    2 ≤ byteLength cursor.rest := by
  rw [offset?_eq _ opening_ascii, Option.map_eq_some_iff] at hstart
  obtain ⟨⟨before, behind⟩, hopen, -⟩ := hstart
  rw [eq_of_cutFirst hopen, byteLength_append_marks opening_ascii]
  omega

/-- **Half as many passes as there are bytes left are enough.** -/
theorem resolveBySlices_eq {passes : Nat} (hpasses : byteLength cursor.rest / 2 ≤ passes) :
    scope.resolveBySlices passes cursor = some (scope.outcome cursor) := by
  -- each pass that is left stands for two bytes of the rest
  induction passes generalizing cursor with
  | zero =>
      -- a rest of one byte holds no opener
      have hnone : offset? opening cursor.rest = none := by
        rw [Option.eq_none_iff_forall_ne_some]
        intro start hstart
        have htwo := two_le_of_offset? hstart
        omega
      rw [resolveBySlices, hnone, outcome_of_offset?_eq_none hnone]
      rfl
  | succ passes ih =>
      rw [resolveBySlices]
      cases hstart : offset? opening cursor.rest with
      | none => rw [outcome_of_offset?_eq_none hstart]
      | some start =>
          dsimp only
          rcases scope.pass_advances hstart with
            ⟨hleft, hfinish⟩ | ⟨next, hagain, hless, houtcome⟩
          · rw [hleft, hfinish]
          · rw [hagain, ← houtcome]
            exact ih (by omega)

end Run

/-- **Reading a template in passes slices in range and ends.** Every pass over every text finds all its
slices, and leaves the loop or shortens the text. Half as many passes as a template has bytes read it
to its end, and give the text that it resolves to. -/
theorem passes_slice_in_range_and_end (scope : Scope) :
    (∀ cursor start, offset? opening cursor.rest = some start →
      scope.pass cursor start = some .left ∨
        ∃ next, scope.pass cursor start = some (.again next) ∧
          byteLength next.rest < byteLength cursor.rest) ∧
    ∀ supply template,
      scope.resolveBySlices (template.utf8ByteSize / 2) (Cursor.start supply template) =
        some (scope.resolveText supply template) := by
  constructor
  · intro cursor start hstart
    rcases scope.pass_advances hstart with ⟨hleft, -⟩ | ⟨next, hagain, hless, -⟩
    · exact .inl hleft
    · exact .inr ⟨next, hagain, by omega⟩
  · intro supply template
    have hpasses : byteLength (Cursor.start supply template).rest / 2 ≤
        template.utf8ByteSize / 2 := by
      rw [utf8ByteSize_eq]
      exact Nat.le_refl _
    rw [resolveBySlices_eq hpasses]
    rfl

/-- A template with a character of two bytes and an opener inside of a slot. -/
theorem accented_slot_sliced :
    let scope : Scope := ⟨[("b", .str "ü")], fun _ => none⟩
    let cursor := Cursor.start 0 "é\x7b\x7ba \x7b\x7bb\x7d\x7d"
    offset? opening cursor.rest = some 2 ∧
      (∃ next, scope.pass cursor 2 = some (.again next) ∧
        byteLength next.rest < byteLength cursor.rest) ∧
      scope.resolveText 0 "é\x7b\x7ba \x7b\x7bb\x7d\x7d" = ("é\x7b\x7ba ü", 0) := by
  intro scope cursor
  obtain ⟨hpass, hread⟩ := passes_slice_in_range_and_end scope
  have hstart : offset? opening cursor.rest = some 2 := by decide
  have hstays : scope.pass cursor 2 ≠ some .left := by decide +kernel
  have htext := hread 0 "é\x7b\x7ba \x7b\x7bb\x7d\x7d"
  have hrun : scope.resolveBySlices 5 cursor = some ("é\x7b\x7ba ü", 0) := by decide +kernel
  refine ⟨hstart, (hpass cursor 2 hstart).resolve_left hstays, ?_⟩
  exact Option.some.inj (htext.symm.trans hrun)

end Scope

end ScenarioRunner

import ScenarioRunner.Proofs.Action.TableName

/-!
# What a statement says

A statement is written for a table whose name is accepted, and for no other one
(`statement_eq_ok_iff`). Such a name has no blanks, so the first one behind `UPDATE` ends it, and the
rest of the statement is the same for all tables up to the condition. Hence a statement cannot be
taken for that of another table or of another condition, whatever stands in the condition
(`statement_eq_iff`).
-/

set_option autoImplicit false

namespace ScenarioRunner

namespace SoftDelete

/-! ## The characters of a table -/

/-- A character that can come from the name of a table. -/
def TableChar (c : Char) : Prop := IsLetter c ∨ IsDecimal c ∨ c = '_' ∨ c = '.'

theorem Identifier.tableChar {part : List Char} (h : Identifier part) :
    ∀ c ∈ part, TableChar c := by
  obtain ⟨c, rest, rfl, hfirst, hrest⟩ := h
  intro d hd
  rcases List.mem_cons.1 hd with rfl | hd
  · rcases hfirst with hletter | hunderscore
    · exact .inl hletter
    · exact .inr (.inr (.inl hunderscore))
  · rcases hrest d hd with hletter | hdecimal | hunderscore
    · exact .inl hletter
    · exact .inr (.inl hdecimal)
    · exact .inr (.inr (.inl hunderscore))

/-- Nothing but letters, digits, underscores and points comes from a table. -/
theorem TableName.tableChar {table : String} (h : TableName table) :
    ∀ c ∈ table.toList, TableChar c := by
  obtain ⟨parts, -, hparts, hjoined⟩ := h
  rw [hjoined]
  clear hjoined
  -- a part is joined to those behind it by a point
  induction parts with
  | nil => simp
  | cons part parts ih =>
      have hpart := (hparts part List.mem_cons_self).tableChar
      have hrest := ih fun other hother => hparts other (List.mem_cons_of_mem _ hother)
      cases parts with
      | nil => simpa using hpart
      | cons next parts =>
          intro c hc
          rw [List.intercalate_cons_cons, List.append_assoc] at hc
          rcases List.mem_append.1 hc with hc | hc
          · exact hpart c hc
          · rcases List.mem_cons.1 hc with rfl | hc
            · exact .inr (.inr (.inr rfl))
            · exact hrest c hc

theorem TableName.noSpace {table : String} (h : TableName table) : ' ' ∉ table.toList := by
  intro hmem
  have hspace : ¬TableChar ' ' := by
    unfold TableChar IsLetter IsDecimal
    decide
  exact hspace (h.tableChar ' ' hmem)

/-! ## The parts of a statement -/

/-- The condition that is written into a statement: trimmed, and none if it is blank. -/
def writtenCondition (condition : Option String) : Option String :=
  (condition.map trimText).filter (· ≠ "")

/-- What a condition adds to a statement. -/
def clauseOf : Option String → String
  | none => ""
  | some condition => " AND " ++ condition

theorem conditionClause_eq (condition : Option String) :
    conditionClause condition = clauseOf (writtenCondition condition) := by
  unfold conditionClause writtenCondition
  cases condition with
  | none => rfl
  | some raw =>
      rw [Option.map_some, Option.getD_some]
      by_cases hblank : trimText raw = ""
      · rw [hblank]
        rfl
      · simp [Option.filter, clauseOf, hblank]

/-- **A statement is written for the tables with a name**, from the table and the condition. -/
theorem statement_eq_ok_iff {table text : String} {condition : Option String} :
    statement table condition = .ok text ↔ TableName table ∧
      text = s!"UPDATE {table} SET soft_deleted = 1, deleted_at = NOW() WHERE soft_deleted = 0" ++
        clauseOf (writtenCondition condition) := by
  rw [← checkTable_eq_ok_iff, ← conditionClause_eq]
  unfold statement
  cases checkTable table with
  | error e => simp
  | ok checked =>
      simp only [Except.ok.injEq, true_and]
      exact eq_comm

theorem exists_statement_iff {table : String} {condition : Option String} :
    (∃ text, statement table condition = .ok text) ↔ TableName table := by
  constructor
  · rintro ⟨text, h⟩
    exact (statement_eq_ok_iff.1 h).1
  · intro htable
    exact ⟨_, statement_eq_ok_iff.2 ⟨htable, rfl⟩⟩

/-! ## Telling statements apart -/

/-- A text is cut in one way at its first character of a kind. -/
theorem cut_unique {c : Char} {before before' behind behind' : List Char} (h : c ∉ before)
    (h' : c ∉ before') (heq : before ++ c :: behind = before' ++ c :: behind') :
    before = before' ∧ behind = behind' := by
  rcases List.append_eq_append_iff.1 heq with ⟨between, rfl, htail⟩ | ⟨between, rfl, htail⟩
  · cases between with
    | nil => simpa using htail
    | cons d between =>
        obtain rfl : c = d := (List.cons.inj htail).1
        exact absurd (by simp) h'
  · cases between with
    | nil => simpa [eq_comm] using htail
    | cons d between =>
        obtain rfl : c = d := (List.cons.inj htail).1
        exact absurd (by simp) h

/-- No condition adds what another one adds, and none adds what is added without a condition. -/
theorem clauseOf_injective : Function.Injective clauseOf := by
  have hsome : ∀ condition : String, " AND " ++ condition ≠ "" := by
    intro condition hempty
    simp at hempty
  intro condition condition' heq
  cases condition with
  | none =>
      cases condition' with
      | none => rfl
      | some right => exact absurd heq.symm (hsome right)
  | some left =>
      cases condition' with
      | none => exact absurd heq (hsome left)
      | some right => rw [(String.append_right_inj " AND ").1 heq]

/-- A statement with the table that it marks rows of set apart from what stands around it. -/
theorem toList_unconditional (table clause : String) :
    (s!"UPDATE {table} SET soft_deleted = 1, deleted_at = NOW() WHERE soft_deleted = 0" ++
        clause).toList =
      "UPDATE ".toList ++ (table.toList ++ ' ' ::
        ("SET soft_deleted = 1, deleted_at = NOW() WHERE soft_deleted = 0".toList ++
          clause.toList)) := by
  simp [toString, String.toList_append]

/-- **Two statements are the same exactly when their tables and conditions are.** -/
theorem statement_eq_iff {table table' text text' : String} {condition condition' : Option String}
    (h : statement table condition = .ok text) (h' : statement table' condition' = .ok text') :
    text = text' ↔ table = table' ∧ writtenCondition condition = writtenCondition condition' := by
  obtain ⟨htable, rfl⟩ := statement_eq_ok_iff.1 h
  obtain ⟨htable', rfl⟩ := statement_eq_ok_iff.1 h'
  constructor
  · intro heq
    have hchars := congrArg String.toList heq
    rw [toList_unconditional, toList_unconditional, List.append_cancel_left_eq] at hchars
    -- the name of a table ends at the first blank
    obtain ⟨hname, hrest⟩ := cut_unique htable.noSpace htable'.noSpace hchars
    rw [List.append_cancel_left_eq] at hrest
    exact ⟨String.toList_inj.1 hname, clauseOf_injective (String.toList_inj.1 hrest)⟩
  · rintro ⟨rfl, hcondition⟩
    rw [hcondition]

/-- **A statement is determined by its table and its condition, and determines them.** It is written
exactly for the tables that are identifiers joined by points, so nothing but letters, digits,
underscores and points comes from a table. The condition follows behind `AND`, trimmed, unless it is
blank. Two statements are the same only if they are written for the same table, and under the same
condition or both under none. -/
theorem statement_determines_table_and_condition :
    (∀ table condition, (∃ text, statement table condition = .ok text) ↔ TableName table) ∧
    (∀ table condition text, statement table condition = .ok text →
      (∀ c ∈ table.toList, TableChar c) ∧
      text = s!"UPDATE {table} SET soft_deleted = 1, deleted_at = NOW() WHERE soft_deleted = 0" ++
        clauseOf (writtenCondition condition)) ∧
    ∀ table condition text table' condition' text', statement table condition = .ok text →
      statement table' condition' = .ok text' →
        (text = text' ↔
          table = table' ∧ writtenCondition condition = writtenCondition condition') := by
  refine ⟨?_, ?_, ?_⟩
  · intro table condition
    exact exists_statement_iff
  · intro table condition text h
    obtain ⟨htable, htext⟩ := statement_eq_ok_iff.1 h
    exact ⟨htable.tableChar, htext⟩
  · intro table condition text table' condition' text' h h'
    exact statement_eq_iff h h'

/-- Blanks are no condition, and the statements for two tables differ under the same condition. -/
theorem app_users_told_apart :
    ∃ unlimited limited other, statement "app.users" (some " \t") = .ok unlimited ∧
      statement "app.users" (some " id = 1 ") = .ok limited ∧
      statement "users" (some "id = 1") = .ok other ∧
      unlimited =
        "UPDATE app.users SET soft_deleted = 1, deleted_at = NOW() WHERE soft_deleted = 0" ∧
      limited ≠ unlimited ∧ limited ≠ other := by
  obtain ⟨haccepted, hwritten, hsame⟩ := statement_determines_table_and_condition
  have htable : TableName "app.users" := (isTableName_iff "app.users").1 (by decide)
  have hother : TableName "users" := (isTableName_iff "users").1 (by decide)
  obtain ⟨unlimited, hunlimited⟩ := (haccepted "app.users" (some " \t")).2 htable
  obtain ⟨limited, hlimited⟩ := (haccepted "app.users" (some " id = 1 ")).2 htable
  obtain ⟨other, hother⟩ := (haccepted "users" (some "id = 1")).2 hother
  refine ⟨unlimited, limited, other, hunlimited, hlimited, hother, ?_, ?_, ?_⟩
  · rw [(hwritten _ _ _ hunlimited).2]
    decide +kernel
  · rw [Ne, hsame _ _ _ _ _ _ hlimited hunlimited]
    decide +kernel
  · rw [Ne, hsame _ _ _ _ _ _ hlimited hother]
    decide +kernel

end SoftDelete

end ScenarioRunner

import ScenarioRunner.Proofs.Action.Condition
import ScenarioRunner.Proofs.Action.TableName

/-!
# The rows that a soft deletion marks

The statement is to mark the rows that meet its condition and are not marked yet. The condition is written
behind a predicate and `AND`, without parentheses, so this predicate is read as a part of the first
conjunction only (`first_disjunct_guarded`). A condition without an `OR` outside of parentheses marks what it
should; any other one marks rows again for which a later conjunction is true
(`second_disjunct_not_guarded`).
-/

set_option autoImplicit false

namespace ScenarioRunner

namespace SoftDelete

open Condition

variable {α : Type} {predicate? : List Char → Option (α × List Char)} {guard : α}

/-- The reader takes the guard of the statement for a predicate, which ends before the `AND` behind it. -/
def ReadsGuard (predicate? : List Char → Option (α × List Char)) (guard : α) : Prop :=
  ∀ rest, predicate? ("soft_deleted = 0".toList ++ (" AND ".toList ++ rest)) =
    some (guard, " AND ".toList ++ rest)

/-- What is written behind the guard is written as a guarded condition. -/
theorem writes_guarded {text : List Char} {c : Disjunction α} (hguard : ReadsGuard predicate? guard)
    (h : Writes predicate? text c) :
    Writes predicate? ("soft_deleted = 0".toList ++ (" AND ".toList ++ text)) (c.guarded guard) := by
  have hfirst : token? predicate? ("soft_deleted = 0".toList ++ (" AND ".toList ++ text)) =
      some (.predicate guard, " AND ".toList ++ text) := by
    -- the guard begins with no keyword, so it is left to the reader of predicates
    have hword : token? predicate? ("soft_deleted = 0".toList ++ (" AND ".toList ++ text)) =
        (predicate? ("soft_deleted = 0".toList ++ (" AND ".toList ++ text))).map
          fun found => (.predicate found.1, found.2) := rfl
    rw [hword, hguard]
    rfl
  have hand : token? predicate? (" AND ".toList ++ text) = some (.and, ' ' :: text) := rfl
  unfold Writes
  rw [c.tokens_guarded]
  exact .next hfirst (.next hand (Lexes.of_blank (by decide) h))

/-- The condition is written behind the guard. -/
theorem statement_of_condition {table condition : String} (htable : TableName table)
    (hcondition : trimBlanks condition.toList ≠ []) :
    statement table (some condition) = .ok
      (s!"UPDATE {table} SET soft_deleted = 1, deleted_at = NOW() WHERE " ++
        ("soft_deleted = 0" ++ (" AND " ++ trimText condition))) := by
  have hempty : (trimText condition).isEmpty = false := by
    rw [← Bool.not_eq_true, String.isEmpty_iff, trimText, String.ofList_eq_empty_iff]
    exact hcondition
  have hclause : conditionClause (some condition) = " AND " ++ trimText condition := by
    unfold conditionClause
    dsimp only [Option.getD_some]
    rw [hempty]
    rfl
  have hguard : s!"UPDATE {table} SET soft_deleted = 1, deleted_at = NOW() WHERE soft_deleted = 0" =
      s!"UPDATE {table} SET soft_deleted = 1, deleted_at = NOW() WHERE " ++ "soft_deleted = 0" := by
    simp only [toString, String.append_assoc]
    rfl
  unfold statement
  rw [(checkTable_eq_ok_iff table).2 htable, hclause]
  dsimp only
  rw [hguard, String.append_assoc]

/-- No parentheses are written around a condition. -/
example : statement "users" (some " id = 1 OR id = 2 ") =
    .ok ("UPDATE users SET soft_deleted = 1, deleted_at = NOW() WHERE " ++
      "soft_deleted = 0 AND id = 1 OR id = 2") := by decide +kernel

/-- A guard of one alternative is one of both, unless the other is met without the guard. -/
theorem guards_both_iff (unmarked first later : Prop) :
    ((unmarked ∧ first) ∨ later ↔ unmarked ∧ (first ∨ later)) ↔ unmarked ∨ ¬later := by
  tauto

/-- **The rows that are marked are those that are not marked yet and meet the first conjunction, and all
that meet a later one.** So the statement marks what it should for a row exactly if the row is not marked
yet, or no later conjunction is true for it. The reader of predicates stands for the database; it has to
read the guard up to the `AND` behind it. -/
theorem first_disjunct_guarded (hguard : ReadsGuard predicate? guard) {table condition : String}
    (htable : TableName table) {c : Disjunction α}
    (hwritten : Writes predicate? (trimBlanks condition.toList) c) :
    ∃ clause, statement table (some condition) = .ok
        (s!"UPDATE {table} SET soft_deleted = 1, deleted_at = NOW() WHERE " ++ clause) ∧
      ∃ read : Disjunction α, (∀ other, Writes predicate? clause.toList other ↔ other = read) ∧
        ∃ first later, c.disjuncts = first :: later ∧ ∀ row : α → Bool,
          (read.truth row = true ↔
            (row guard = true ∧ first.truth row = true) ∨ ∃ d ∈ later, d.truth row = true) ∧
          ((read.truth row = true ↔ row guard = true ∧ c.truth row = true) ↔
            row guard = true ∨ ∀ d ∈ later, d.truth row = false) := by
  refine ⟨_, statement_of_condition htable hwritten.ne_nil, c.guarded guard, ?_, ?_⟩
  · have htrimmed : (trimText condition).toList = trimBlanks condition.toList := String.toList_ofList
    have hclause : Writes predicate?
        ("soft_deleted = 0" ++ (" AND " ++ trimText condition)).toList (c.guarded guard) := by
      rw [String.toList_append, String.toList_append, htrimmed]
      exact writes_guarded hguard hwritten
    exact fun other => ⟨fun h => h.unique hclause, fun h => h ▸ hclause⟩
  · obtain ⟨first, later, hdisjuncts⟩ := c.exists_disjuncts
    refine ⟨first, later, hdisjuncts, fun row => ?_⟩
    have hread := Disjunction.truth_guarded_iff guard row hdisjuncts
    have htruth : c.truth row = true ↔
        first.truth row = true ∨ ∃ d ∈ later, d.truth row = true := by
      rw [c.truth_iff, hdisjuncts, List.exists_mem_cons_iff]
    have hnone : (∀ d ∈ later, d.truth row = false) ↔ ¬∃ d ∈ later, d.truth row = true := by
      simp
    refine ⟨hread, ?_⟩
    rw [hread, htruth, hnone]
    exact guards_both_iff _ _ _

/-! ## A condition of two predicates -/

/-- A predicate up to a keyword or a closing parenthesis. -/
def spanPredicate : List Char → List Char × List Char
  | [] => ([], [])
  | c :: rest =>
    if c = ')' || " AND ".toList.isPrefixOf (c :: rest) || " OR ".toList.isPrefixOf (c :: rest) then
      ([], c :: rest)
    else
      let (predicate, behind) := spanPredicate rest
      (c :: predicate, behind)

/-- Reads a predicate as its text. -/
def readPredicate? (text : List Char) : Option (String × List Char) :=
  let (predicate, behind) := spanPredicate text
  if predicate.isEmpty then none else some (String.ofList predicate, behind)

/-- A row of the second identifier is marked although it is marked already. -/
theorem second_disjunct_not_guarded :
    ReadsGuard readPredicate? "soft_deleted = 0" ∧ TableName "users" ∧
      Writes readPredicate? (trimBlanks "id = 1 OR id = 2".toList)
        (.or (.single (.single (.predicate "id = 1"))) (.single (.predicate "id = 2"))) ∧
      ∃ clause, statement "users" (some "id = 1 OR id = 2") = .ok
          ("UPDATE users SET soft_deleted = 1, deleted_at = NOW() WHERE " ++ clause) ∧
        ∃ read : Disjunction String, Writes readPredicate? clause.toList read ∧
          read.truth (fun predicate => predicate == "id = 2") = true ∧
          ¬(fun predicate => predicate == "id = 2") "soft_deleted = 0" = true := by
  have hguard : ReadsGuard readPredicate? "soft_deleted = 0" := fun rest => rfl
  have htable : TableName "users" := (isTableName_iff "users").1 (by decide)
  have hwritten : Writes readPredicate? (trimBlanks "id = 1 OR id = 2".toList)
      (.or (.single (.single (.predicate "id = 1"))) (.single (.predicate "id = 2"))) :=
    .next rfl (.next rfl (.next rfl (.done rfl)))
  obtain ⟨clause, hstatement, read, hread, first, later, hdisjuncts, hrow⟩ :=
    first_disjunct_guarded hguard htable hwritten
  cases hdisjuncts
  refine ⟨hguard, htable, hwritten, clause, hstatement, read, (hread read).2 rfl, ?_, by decide⟩
  exact (hrow _).1.2 (.inr ⟨_, List.mem_singleton_self _, by decide⟩)

end SoftDelete

end ScenarioRunner

import ScenarioRunner.Action.Local
import ScenarioRunner.Proofs.Action.Statement
import ScenarioRunner.Proofs.Suite.Requirements

/-!
# Actions on a database

An action that has been validated is carried out: if it stands for a statement (`Action.StandsFor`),
this statement is issued once, and what comes of it is up to the database alone
(`CarriedOut`, `carriedOut_execute`). The statements that are said to be issued are those that the
database has received (`execute_recording`).
-/

set_option autoImplicit false

namespace ScenarioRunner

variable {σ : Type}

/-! ## What an action stands for -/

namespace Action

/-- Whether actions of a kind are carried out by a database. -/
def needsDatabase : Action → Bool
  | softDeleteCleanup .. | cleanup .. | sql _ => true
  | apiCall _ | shell _ => false

/-- The statement that an action stands for: that of its table and its condition, under both names
of a soft deletion, or its own one as it is. -/
inductive StandsFor : Action → String → Prop where
  | softDeleteCleanup {table statement : String} {condition : Option String}
      (written : SoftDelete.statement table condition = .ok statement) :
      StandsFor (.softDeleteCleanup table condition) statement
  | cleanup {table statement : String} {condition : Option String}
      (written : SoftDelete.statement table condition = .ok statement) :
      StandsFor (.cleanup table condition) statement
  | sql {statement : String} : StandsFor (.sql statement) statement

variable {action : Action}

theorem validate_eq_ok_iff : action.validate = .ok () ↔ action.Valid :=
  action.judges_validate.eq_ok_iff.trans action.requirements_met_iff

theorem StandsFor.unique {statement other : String} (h : action.StandsFor statement)
    (hother : action.StandsFor other) : statement = other := by
  cases h with
  | softDeleteCleanup written =>
      cases hother with
      | softDeleteCleanup written' => exact Except.ok.inj (written.symm.trans written')
  | cleanup written =>
      cases hother with
      | cleanup written' => exact Except.ok.inj (written.symm.trans written')
  | sql =>
      cases hother
      rfl

/-- A valid action that needs a database stands for a statement: the table of a soft deletion is not
refused once more. -/
theorem exists_standsFor (h : action.Valid) (hneeds : action.needsDatabase = true) :
    ∃ statement, action.StandsFor statement := by
  -- a soft deletion is valid if its table has a name, and that is when its statement is written
  cases action with
  | softDeleteCleanup table condition =>
      obtain ⟨statement, written⟩ := SoftDelete.exists_statement_iff.2 h
      exact ⟨statement, .softDeleteCleanup written⟩
  | cleanup table condition =>
      obtain ⟨statement, written⟩ := SoftDelete.exists_statement_iff.2 h
      exact ⟨statement, .cleanup written⟩
  | sql statement => exact ⟨statement, .sql⟩
  | apiCall template => cases hneeds
  | shell command => cases hneeds

end Action

/-! ## Issuing a statement -/

namespace Machine

/-- A machine that keeps a record of the statements that its database has received. -/
def recording (machine : Machine σ) : Machine (σ × List String) :=
  { database := machine.database.map fun execute statement state =>
      let (answer, inner) := execute statement state.1
      (answer, inner, state.2 ++ [statement])
    shell := fun command state =>
      let (ended, inner) := machine.shell command state.1
      (ended, inner, state.2) }

variable (machine : Machine σ)

/-- What is issued, and what it does to the state, does not depend on the kind of the action. -/
theorem issued_runStatement (kind kind' statement : String) (state : σ) :
    (machine.runStatement kind statement state).statements =
        (machine.runStatement kind' statement state).statements ∧
      (machine.runStatement kind statement state).state =
        (machine.runStatement kind' statement state).state := by
  unfold runStatement
  cases machine.database with
  | none => exact ⟨rfl, rfl⟩
  | some execute =>
      dsimp only
      rcases execute statement state with ⟨e | rows, after⟩
      · exact ⟨rfl, rfl⟩
      · exact ⟨rfl, rfl⟩

theorem runStatement_recording (kind statement : String) (state : σ) (record : List String) :
    machine.recording.runStatement kind statement (state, record) =
      let cleaned := machine.runStatement kind statement state
      ⟨cleaned.outcome, cleaned.statements, cleaned.state, record ++ cleaned.statements⟩ := by
  unfold runStatement recording
  cases machine.database with
  | none => simp
  | some execute =>
      dsimp only [Option.map_some]
      rcases execute statement state with ⟨e | rows, after⟩
      · rfl
      · rfl

/-- **The statements that an action is said to issue are those that the database has received.** -/
theorem execute_recording (action : Action) (state : σ) (record : List String) :
    machine.recording.execute action (state, record) =
      let cleaned := machine.execute action state
      ⟨cleaned.outcome, cleaned.statements, cleaned.state, record ++ cleaned.statements⟩ := by
  cases action with
  | softDeleteCleanup table condition | cleanup table condition =>
      cases hwritten : SoftDelete.statement table condition with
      | error e => simp [execute, hwritten]
      | ok statement => simp [execute, hwritten, runStatement_recording]
  | sql statement => exact machine.runStatement_recording _ statement state record
  | apiCall template => simp [execute]
  | shell command => simp [execute, runCommand, recording]

/-- What is done with a statement on a machine with a database: it is issued once, and whether that
goes well is up to the database. -/
structure CarriedOut (action : Action) (statement : String)
    (answer : Except Error Nat × σ) (cleaned : Cleaned σ) : Prop where
  issued : cleaned.statements = [statement]
  state_eq : cleaned.state = answer.2
  ok_iff : cleaned.outcome = .ok () ↔ ∃ rows, answer.1 = .ok rows
  failure : ∀ e, answer.1 = .error e → cleaned.outcome = .error (.cleanup action.kind e.message)

variable {machine} {action : Action} {statement : String} {state : σ}

theorem execute_of_standsFor (h : action.StandsFor statement) :
    machine.execute action state = machine.runStatement action.kind statement state := by
  cases h with
  | softDeleteCleanup written | cleanup written => simp [execute, written]
  | sql => rfl

/-- The statement of an action is issued, if there is a database. -/
theorem carriedOut_execute {executor : String → σ → Except Error Nat × σ}
    (hdatabase : machine.database = some executor) (h : action.StandsFor statement) :
    CarriedOut action statement (executor statement state) (machine.execute action state) := by
  rw [execute_of_standsFor h, runStatement, hdatabase]
  dsimp only
  -- the database answers with an error or with a number of rows, and the number is dropped
  rcases executor statement state with ⟨e | rows, after⟩
  · refine ⟨rfl, rfl, ?_, ?_⟩
    · simp
    · rintro other hother
      cases hother
      rfl
  · refine ⟨rfl, rfl, ?_, ?_⟩
    · simp
    · rintro other hother
      cases hother

/-- Without a database the statement of an action cannot be issued. -/
theorem execute_of_no_database (hdatabase : machine.database = none)
    (h : action.StandsFor statement) :
    machine.execute action state =
      ⟨.error (.cleanup action.kind "no database configured"), [], state⟩ := by
  rw [execute_of_standsFor h, runStatement, hdatabase]

/-- Requests and commands issue no statements, and the database receives none from them. -/
theorem nothing_issued_of_not_needsDatabase (h : action.needsDatabase = false)
    (record : List String) :
    (machine.execute action state).statements = [] ∧
      (machine.recording.execute action (state, record)).state.2 = record := by
  have hnone : (machine.execute action state).statements = [] := by
    cases action with
    | softDeleteCleanup table condition | cleanup table condition => cases h
    | sql statement => cases h
    | apiCall template => rfl
    | shell command => rfl
  refine ⟨hnone, ?_⟩
  rw [machine.execute_recording]
  dsimp only
  rw [hnone, List.append_nil]

end Machine

/-- **What validation accepts is carried out.** A validated action that needs a database stands for one
statement, since the name of its table is not refused any more. A machine with a database issues this
statement once and the action succeeds exactly when the database does; the error of the database is
passed on under the kind of the action. A machine without one fails and issues nothing. Other actions
issue nothing at all, and the database receives nothing from them. A soft deletion issues the same
under both of its names. -/
theorem validated_action_is_carried_out (action : Action) (h : action.validate = .ok ()) :
    (action.needsDatabase = true → ∃ statement,
      (∀ other, action.StandsFor other ↔ other = statement) ∧
      ∀ (machine : Machine σ) (state : σ) (record : List String),
        (∀ executor, machine.database = some executor →
          Machine.CarriedOut action statement (executor statement state)
            (machine.execute action state) ∧
          (machine.recording.execute action (state, record)).state =
            ((executor statement state).2, record ++ [statement])) ∧
        (machine.database = none → machine.execute action state =
          ⟨.error (.cleanup action.kind "no database configured"), [], state⟩)) ∧
    (action.needsDatabase = false → ∀ (machine : Machine σ) (state : σ) (record : List String),
      (machine.execute action state).statements = [] ∧
        (machine.recording.execute action (state, record)).state.2 = record) ∧
    (∀ table condition, action = .softDeleteCleanup table condition ∨
        action = .cleanup table condition →
      (∀ e, SoftDelete.statement table condition ≠ .error e) ∧
      ∀ (machine : Machine σ) (state : σ),
        (machine.execute (.softDeleteCleanup table condition) state).statements =
            (machine.execute (.cleanup table condition) state).statements ∧
          (machine.execute (.softDeleteCleanup table condition) state).state =
            (machine.execute (.cleanup table condition) state).state) := by
  have hvalid := Action.validate_eq_ok_iff.1 h
  refine ⟨?_, ?_, ?_⟩
  · intro hneeds
    obtain ⟨statement, hstands⟩ := Action.exists_standsFor hvalid hneeds
    refine ⟨statement, ?_, ?_⟩
    · intro other
      constructor
      · intro hother
        exact hother.unique hstands
      · rintro rfl
        exact hstands
    · intro machine state record
      refine ⟨?_, ?_⟩
      · intro executor hdatabase
        have hcarried : Machine.CarriedOut action statement (executor statement state)
            (machine.execute action state) := Machine.carriedOut_execute hdatabase hstands
        refine ⟨hcarried, ?_⟩
        rw [machine.execute_recording]
        dsimp only
        rw [hcarried.issued, hcarried.state_eq]
      · intro hdatabase
        exact Machine.execute_of_no_database hdatabase hstands
  · intro hneeds machine state record
    exact Machine.nothing_issued_of_not_needsDatabase hneeds record
  · intro table condition hdeletion
    -- both names of a soft deletion ask the same of its table
    have htable : SoftDelete.TableName table := by
      rcases hdeletion with rfl | rfl
      · exact hvalid
      · exact hvalid
    obtain ⟨statement, hwritten⟩ := SoftDelete.exists_statement_iff.2 htable
    refine ⟨?_, ?_⟩
    · intro e he
      rw [hwritten] at he
      cases he
    · intro machine state
      rw [Machine.execute_of_standsFor (.softDeleteCleanup hwritten),
        Machine.execute_of_standsFor (.cleanup hwritten)]
      exact machine.issued_runStatement _ _ _ _

/-- A machine whose database cannot be reached. -/
def lonelyMachine : Machine Unit :=
  { database := some fun _ state => (.error (.transport "connection refused"), state)
    shell := fun _ state => (.error "there is no shell", state) }

/-- The statement of a valid action is issued, and what the database says of it is passed on. -/
theorem app_users_not_reached :
    ∃ action : Action, action.validate = .ok () ∧ action.needsDatabase = true ∧
      (lonelyMachine.execute action ()).statements =
        ["UPDATE app.users SET soft_deleted = 1, deleted_at = NOW() WHERE soft_deleted = 0 AND id = 1"] ∧
      (lonelyMachine.execute action ()).outcome =
        .error (.cleanup "cleanup" "request failed: connection refused") := by
  have hvalid : (Action.cleanup "app.users" (some " id = 1 ")).validate = .ok () := by decide +kernel
  obtain ⟨hneeds, -, -⟩ := validated_action_is_carried_out (σ := Unit) _ hvalid
  obtain ⟨statement, hunique, hcarried⟩ := hneeds rfl
  obtain ⟨hissued, -⟩ := (hcarried lonelyMachine () []).1 _ rfl
  have hwritten : SoftDelete.statement "app.users" (some " id = 1 ") = .ok
      "UPDATE app.users SET soft_deleted = 1, deleted_at = NOW() WHERE soft_deleted = 0 AND id = 1" := by
    decide +kernel
  obtain rfl := (hunique _).1 (.cleanup hwritten)
  exact ⟨_, hvalid, rfl, hissued.issued, hissued.failure _ rfl⟩

end ScenarioRunner

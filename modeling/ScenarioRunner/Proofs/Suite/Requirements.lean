import ScenarioRunner.Proofs.Action.TableName
import ScenarioRunner.Suite.Validation

/-!
# What a suite is required to be

A requirement is a condition with the reason that is given when it is violated.
`Suite.requirements` lists those of a suite in the order in which they are checked. A check judges
requirements if it reports the first one that is violated (`Judges`); checks made one behind the
other judge the requirements of all (`Judges.before`, `Judges.each`), so every check of the validation
is its own small lemma. Without any violation a suite is well-formed (`requirements_met_iff`), whatever
its cases depend on.
-/

set_option autoImplicit false

namespace ScenarioRunner

/-! ## Requirements and their checks -/

/-- A condition, with the reason that is given when it is violated. -/
structure Requirement where
  condition : Prop
  reason : String

/-- The requirement of a part of a case. -/
def Requirement.inCase (name : String) (requirement : Requirement) : Requirement :=
  { requirement with reason := s!"test case '{name}': {requirement.reason}" }

/-- A check reports the first requirement that is violated, or succeeds if there is none. -/
inductive Judges : Except Error Unit → List Requirement → Prop where
  | met {requirements : List Requirement}
      (all : ∀ requirement ∈ requirements, requirement.condition) : Judges (.ok ()) requirements
  | violated {before after : List Requirement} {requirement : Requirement}
      (earlier : ∀ other ∈ before, other.condition) (violation : ¬ requirement.condition) :
      Judges (.error (.config requirement.reason)) (before ++ requirement :: after)

namespace Judges

variable {outcome : Except Error Unit} {requirements further : List Requirement}

/-- A check succeeds exactly when all requirements are met. -/
theorem eq_ok_iff (h : Judges outcome requirements) :
    outcome = .ok () ↔ ∀ requirement ∈ requirements, requirement.condition := by
  cases h with
  | met all => exact iff_of_true rfl all
  | violated earlier violation =>
      exact iff_of_false (by simp) fun all => violation (all _ (by simp))

/-- A check fails for the reason of the first requirement that is violated. -/
theorem eq_error_iff (h : Judges outcome requirements) (e : Error) :
    outcome = .error e ↔ ∃ before requirement after,
      requirements = before ++ requirement :: after ∧ (∀ other ∈ before, other.condition) ∧
        ¬ requirement.condition ∧ e = .config requirement.reason := by
  cases h with
  | met all =>
      refine iff_of_false (by simp) ?_
      rintro ⟨before, requirement, after, rfl, -, violation, -⟩
      exact violation (all _ (by simp))
  | @violated before after requirement earlier violation =>
      constructor
      · intro he
        cases he
        exact ⟨before, requirement, after, rfl, earlier, violation, rfl⟩
      · rintro ⟨before', requirement', after', hsplit, earlier', violation', rfl⟩
        -- neither violation stands among the requirements before the other one
        rcases List.append_eq_append_iff.1 hsplit with ⟨between, hbefore, hafter⟩ |
          ⟨between, hbefore, hafter⟩
        · cases between with
          | nil => cases hafter; rfl
          | cons other between =>
              cases hafter
              exact absurd (earlier' _ (by simp [hbefore])) violation
        · cases between with
          | nil => cases hafter; rfl
          | cons other between =>
              cases hafter
              exact absurd (earlier _ (by simp [hbefore])) violation'

theorem nil : Judges (.ok ()) [] := .met (by simp)

/-- A check that fails where a condition is violated, and goes on otherwise. -/
theorem of_violated {condition : Prop} {violated : Bool} {reason : String}
    (h : violated = true ↔ ¬ condition) (hrest : Judges outcome further) :
    Judges (if violated then .error (.config reason) else outcome) (⟨condition, reason⟩ :: further) := by
  cases violated with
  | true => exact @Judges.violated [] further ⟨condition, reason⟩ (by simp) (h.1 rfl)
  | false =>
      have hcondition : condition :=
        Classical.not_not.1 fun hviolation => Bool.false_ne_true (h.2 hviolation)
      cases hrest with
      | met all => exact .met (List.forall_mem_cons.2 ⟨hcondition, all⟩)
      | violated earlier violation =>
          rw [← List.cons_append]
          exact .violated (List.forall_mem_cons.2 ⟨hcondition, earlier⟩) violation

/-- A check that succeeds exactly under a condition. -/
theorem of_accepted {condition : Prop} {accepted : Bool} {reason : String}
    (h : accepted = true ↔ condition) :
    Judges (if accepted then .ok () else .error (.config reason)) [⟨condition, reason⟩] := by
  have hviolated : (!accepted) = true ↔ ¬ condition := by
    rw [← h, Bool.not_eq_true', Bool.not_eq_true]
  have hjudges : Judges (if !accepted then .error (.config reason) else .ok ())
      [⟨condition, reason⟩] := of_violated hviolated nil
  cases accepted with
  | true => exact hjudges
  | false => exact hjudges

/-- Two checks, of which the second is only made when the first succeeds. -/
theorem before {second : Except Error Unit} :
    Judges outcome requirements → Judges second further →
    Judges (match outcome with | .ok _ => second | .error e => .error e)
      (requirements ++ further) := by
  intro hfirst hsecond
  cases hfirst with
  | met all =>
      cases hsecond with
      | met all' => exact .met (List.forall_mem_append.2 ⟨all, all'⟩)
      | violated earlier violation =>
          rw [← List.append_assoc]
          exact .violated (List.forall_mem_append.2 ⟨all, earlier⟩) violation
  | violated earlier violation =>
      rw [List.append_assoc]
      exact .violated earlier violation

/-- The same check made of every item. -/
theorem each {α : Type} {check : α → Except Error Unit} {required : α → List Requirement}
    (h : ∀ a, Judges (check a) (required a)) (items : List α) :
    Judges (checkEach check items) (items.flatMap required) := by
  induction items with
  | nil => exact nil
  | cons a items ih =>
      rw [checkEach, List.flatMap_cons]
      exact (h a).before ih

/-- A check of a part of a case. -/
theorem inCase (h : Judges outcome requirements) (name : String) :
    Judges (outcome.mapError (Error.inCase name))
      (requirements.map (Requirement.inCase name)) := by
  cases h with
  | met all => exact .met (List.forall_mem_map.2 all)
  | @violated before after requirement earlier violation =>
      rw [List.map_append, List.map_cons]
      exact @Judges.violated _ _ (requirement.inCase name) (List.forall_mem_map.2 earlier) violation

end Judges

/-! ## Texts and methods -/

/-- A text with a character that is no white space. -/
def Nonblank (text : String) : Prop := ∃ c ∈ text.toList, isBlank c = false

theorem isBlankText_iff (text : String) : isBlankText text = true ↔ ¬ Nonblank text := by
  simp [isBlankText, Nonblank]

/-- A character of an HTTP token. -/
def TokenChar (c : Char) : Prop :=
  IsLetter c ∨ IsDecimal c ∨
    c ∈ ['!', '#', '$', '%', '&', '\'', '*', '+', '-', '.', '^', '_', '\x60', '|', '~']

/-- An HTTP token. -/
def HttpToken (method : String) : Prop := method ≠ "" ∧ ∀ c ∈ method.toList, TokenChar c

theorem isTokenChar_iff (c : Char) : isTokenChar c = true ↔ TokenChar c := by
  rw [isTokenChar, Bool.or_eq_true, isAlphanum_iff, List.contains_iff_mem, or_assoc]
  rfl

theorem isHttpToken_iff (method : String) : isHttpToken method = true ↔ HttpToken method := by
  simp only [isHttpToken, Bool.and_eq_true, Bool.not_eq_true', List.all_eq_true, isTokenChar_iff,
    HttpToken, String.isEmpty_eq_false_iff]

/-- The method of a request is a token. -/
def RequestTemplate.requirement (template : RequestTemplate) : Requirement :=
  ⟨HttpToken template.method, s!"invalid HTTP method '{template.method}'"⟩

theorem RequestTemplate.judges_validate (template : RequestTemplate) :
    Judges template.validate [template.requirement] :=
  Judges.of_accepted (isHttpToken_iff template.method)

/-! ## Actions -/

namespace Action

/-- What is required of an action. -/
def requirements : Action → List Requirement
  | softDeleteCleanup table _ | cleanup table _ =>
    [⟨table ≠ "", "table name is required"⟩,
      ⟨SoftDelete.TableName table, s!"invalid table name '{table}'"⟩]
  | sql statement => [⟨Nonblank statement, "sql action requires a statement"⟩]
  | apiCall template => [template.requirement]
  | shell command => [⟨Nonblank command, "shell action requires a command"⟩]

/-- An action that can be run: its table has a name that can be written into a statement, it has a
statement or a command, or the method of its request is a token. -/
def Valid : Action → Prop
  | softDeleteCleanup table _ | cleanup table _ => SoftDelete.TableName table
  | sql statement => Nonblank statement
  | apiCall template => HttpToken template.method
  | shell command => Nonblank command

theorem requirements_met_iff (action : Action) :
    (∀ requirement ∈ action.requirements, requirement.condition) ↔ action.Valid := by
  have htable : ∀ table : String, table ≠ "" ∧ SoftDelete.TableName table ↔
      SoftDelete.TableName table := fun table => and_iff_right_of_imp SoftDelete.TableName.ne_empty
  cases action with
  | softDeleteCleanup table condition => simpa [requirements, Valid] using htable table
  | cleanup table condition => simpa [requirements, Valid] using htable table
  | sql statement => simp [requirements, Valid]
  | apiCall template => simp [requirements, Valid, RequestTemplate.requirement]
  | shell command => simp [requirements, Valid]

end Action

theorem SoftDelete.judges_checkTable (table : String) :
    Judges (checkTable table)
      [⟨table ≠ "", "table name is required"⟩,
        ⟨TableName table, s!"invalid table name '{table}'"⟩] :=
  Judges.of_violated (by simp) (Judges.of_accepted (isTableName_iff table))

theorem Action.judges_validate (action : Action) : Judges action.validate action.requirements := by
  cases action with
  | softDeleteCleanup table condition => exact SoftDelete.judges_checkTable table
  | cleanup table condition => exact SoftDelete.judges_checkTable table
  | sql statement => exact Judges.of_violated (isBlankText_iff statement) .nil
  | apiCall template => exact template.judges_validate
  | shell command => exact Judges.of_violated (isBlankText_iff command) .nil

/-! ## Cases -/

namespace Case

/-- What is required of what a case declares, its name apart. -/
def partRequirements (c : Case) : List Requirement :=
  c.request.requirement ::
    ⟨∀ policy ∈ c.retry, 1 ≤ policy.attempts, "retry.times must be at least 1"⟩ ::
    c.save.map fun entry =>
      ⟨entry.1 ≠ "" ∧ entry.2 ≠ "", s!"save entry '{entry.1}' needs a variable name and a path"⟩

/-- What is required of a case behind others of some names. -/
def requirements (earlier : List String) (c : Case) : List Requirement :=
  ⟨Nonblank c.name, "test case name is required"⟩ ::
    ⟨c.name ∉ earlier, s!"duplicate test case name '{c.name}'"⟩ ::
    c.partRequirements.map (Requirement.inCase c.name)

/-- What is required of cases behind others of some names. -/
def allRequirements (earlier : List String) : List Case → List Requirement
  | [] => []
  | c :: rest => c.requirements earlier ++ allRequirements (c.name :: earlier) rest

theorem judges_checkRetry (c : Case) :
    Judges c.checkRetry
      [⟨∀ policy ∈ c.retry, 1 ≤ policy.attempts, "retry.times must be at least 1"⟩] := by
  refine Judges.of_violated ?_ .nil
  cases c.retry with
  | none => simp
  | some policy => simp

theorem judges_checkSaved (entry : String × String) :
    Judges (checkSaved entry)
      [⟨entry.1 ≠ "" ∧ entry.2 ≠ "",
        s!"save entry '{entry.1}' needs a variable name and a path"⟩] := by
  refine Judges.of_violated ?_ .nil
  rw [Bool.or_eq_true, String.isEmpty_iff, String.isEmpty_iff, not_and_or, not_not, not_not]

theorem judges_checkParts (c : Case) : Judges c.checkParts c.partRequirements := by
  have hsave := Judges.each judges_checkSaved c.save
  rw [← List.map_eq_flatMap] at hsave
  have h := c.request.judges_validate.before (c.judges_checkRetry.before hsave)
  -- each check is bound to the next one, which is the match of `Judges.before`
  unfold checkParts
  rcases hmethod : c.request.validate with e | _ <;> rw [hmethod] at h
  · exact h
  · rcases hretry : c.checkRetry with e | _ <;> rw [hretry] at h <;> exact h

theorem judges_check (earlier : List String) (c : Case) :
    Judges (c.check earlier) (c.requirements earlier) :=
  Judges.of_violated (isBlankText_iff c.name)
    (Judges.of_violated (by simp) (c.judges_checkParts.inCase c.name))

theorem judges_checkAll (earlier : List String) (cases : List Case) :
    Judges (checkAll earlier cases) (allRequirements earlier cases) := by
  -- each case counts as an earlier one for those behind it
  induction cases generalizing earlier with
  | nil => exact .nil
  | cons c rest ih =>
      rw [checkAll, allRequirements]
      exact (c.judges_check earlier).before (ih (c.name :: earlier))

/-- A case that can be run: it has a name, the method of its request is a token, a retry policy has an
attempt, and what it saves has names and paths. -/
structure WellFormed (c : Case) : Prop where
  name : Nonblank c.name
  method : HttpToken c.request.method
  retry : ∀ policy, c.retry = some policy → 1 ≤ policy.attempts
  save : ∀ entry ∈ c.save, entry.1 ≠ "" ∧ entry.2 ≠ ""

theorem requirements_met_iff (earlier : List String) (c : Case) :
    (∀ requirement ∈ c.requirements earlier, requirement.condition) ↔
      c.WellFormed ∧ c.name ∉ earlier := by
  unfold requirements partRequirements RequestTemplate.requirement
  rw [List.forall_mem_cons, List.forall_mem_cons, List.forall_mem_map, List.forall_mem_cons,
    List.forall_mem_cons, List.forall_mem_map]
  constructor
  · rintro ⟨hname, hfresh, hmethod, hretry, hsave⟩
    exact ⟨⟨hname, hmethod, hretry, hsave⟩, hfresh⟩
  · rintro ⟨⟨hname, hmethod, hretry, hsave⟩, hfresh⟩
    exact ⟨hname, hfresh, hmethod, hretry, hsave⟩

/-- Cases meet what is required of them when each can be run and their names differ, also from the
names of earlier cases. -/
theorem allRequirements_met_iff (earlier : List String) (cases : List Case) :
    (∀ requirement ∈ allRequirements earlier cases, requirement.condition) ↔
      (∀ c ∈ cases, c.WellFormed ∧ c.name ∉ earlier) ∧
        cases.Pairwise fun c d => c.name ≠ d.name := by
  induction cases generalizing earlier with
  | nil => simp [allRequirements]
  | cons c rest ih =>
      rw [allRequirements, List.forall_mem_append, requirements_met_iff, ih, List.forall_mem_cons,
        List.pairwise_cons]
      constructor
      · rintro ⟨hc, hrest, hnames⟩
        refine ⟨⟨hc, fun d hd => ⟨(hrest d hd).1, fun hmem => ?_⟩⟩, fun d hd heq => ?_, hnames⟩
        · exact (hrest d hd).2 (List.mem_cons_of_mem _ hmem)
        · exact (hrest d hd).2 (heq ▸ List.mem_cons_self)
      · rintro ⟨⟨hc, hrest⟩, hdiffer, hnames⟩
        refine ⟨hc, fun d hd => ⟨(hrest d hd).1, fun hmem => ?_⟩, hnames⟩
        rcases List.mem_cons.1 hmem with heq | hmem
        · exact hdiffer d hd heq.symm
        · exact (hrest d hd).2 hmem

end Case

/-! ## Suites -/

namespace Suite

/-- What is required of a suite, in the order in which it is checked. -/
def requirements (suite : Suite) : List Requirement :=
  ⟨Nonblank suite.name, "suite name is required"⟩ ::
    ((suite.setup ++ suite.teardown).flatMap Action.requirements ++
      Case.allRequirements [] suite.cases)

/-- A suite that can be run: it has a name, its actions and its cases can be run, and no two cases have
the same name, whatever scenarios they stand in. -/
structure WellFormed (suite : Suite) : Prop where
  name : Nonblank suite.name
  actions : ∀ action ∈ suite.setup ++ suite.teardown, action.Valid
  cases : ∀ c ∈ suite.cases, c.WellFormed
  names : suite.cases.Pairwise fun c d => c.name ≠ d.name

/-- The suite with other dependencies of its cases. -/
def withDependencies (suite : Suite) (dependsOn : Case → Option String) : Suite :=
  { suite with
    scenarios := suite.scenarios.map fun scenario =>
      { scenario with cases := scenario.cases.map fun c => { c with dependsOn := dependsOn c } } }

theorem judges_validate (suite : Suite) : Judges suite.validate suite.requirements := by
  have hactions := Judges.each Action.judges_validate (suite.setup ++ suite.teardown)
  have h : Judges (if isBlankText suite.name then .error (.config "suite name is required") else _)
      suite.requirements :=
    .of_violated (isBlankText_iff suite.name)
      (hactions.before (Case.judges_checkAll [] suite.cases))
  unfold validate
  rcases hchecked : checkEach Action.validate (suite.setup ++ suite.teardown) with e | _ <;>
    rw [hchecked] at h <;> exact h

/-- A suite meets all that is required of it exactly when it is well-formed. -/
theorem requirements_met_iff (suite : Suite) :
    (∀ requirement ∈ suite.requirements, requirement.condition) ↔ suite.WellFormed := by
  have hactions : (∀ requirement ∈ (suite.setup ++ suite.teardown).flatMap Action.requirements,
      requirement.condition) ↔ ∀ action ∈ suite.setup ++ suite.teardown, action.Valid := by
    rw [List.forall_mem_flatMap]
    simp only [Action.requirements_met_iff]
  rw [requirements, List.forall_mem_cons, List.forall_mem_append, hactions,
    Case.allRequirements_met_iff]
  constructor
  · rintro ⟨hname, hvalid, hcases, hnames⟩
    exact ⟨hname, hvalid, fun c hc => (hcases c hc).1, hnames⟩
  · rintro ⟨hname, hvalid, hcases, hnames⟩
    exact ⟨hname, hvalid, fun c hc => ⟨hcases c hc, List.not_mem_nil⟩, hnames⟩

/-- The check of a suite does not look at dependencies. -/
theorem validate_withDependencies (suite : Suite) (dependsOn : Case → Option String) :
    (suite.withDependencies dependsOn).validate = suite.validate := by
  have hcases : (suite.withDependencies dependsOn).cases =
      suite.cases.map fun c => { c with dependsOn := dependsOn c } := by
    unfold cases withDependencies
    rw [List.flatMap_map, List.map_flatMap]
  -- of the cases before it a check knows the names only
  have hchecked : ∀ (earlier : List String) (cases : List Case),
      Case.checkAll earlier (cases.map fun c => { c with dependsOn := dependsOn c }) =
        Case.checkAll earlier cases := by
    intro earlier cases
    induction cases generalizing earlier with
    | nil => rfl
    | cons c rest ih =>
        rw [List.map_cons, Case.checkAll, Case.checkAll, ih]
        rfl
  unfold validate
  rw [hcases, hchecked]
  rfl

/-- **A suite is accepted exactly when it is well-formed.** Otherwise the reason is the one of the
first requirement that is violated: of the name of the suite, of its setup, of its teardown, then of
each case in the order of the run, namely its name, that no earlier case has this name, its method,
its retry policy, and what it saves. Dependencies never count. -/
theorem validate_accepts_well_formed_suites (suite : Suite) :
    (suite.validate = .ok () ↔ suite.WellFormed) ∧
      (∀ e, suite.validate = .error e ↔ ∃ before requirement after,
        suite.requirements = before ++ requirement :: after ∧
        (∀ earlier ∈ before, earlier.condition) ∧ ¬ requirement.condition ∧
        e = .config requirement.reason) ∧
      ∀ dependsOn, (suite.withDependencies dependsOn).validate = suite.validate :=
  ⟨suite.judges_validate.eq_ok_iff.trans suite.requirements_met_iff,
    suite.judges_validate.eq_error_iff, suite.validate_withDependencies⟩

/-- Of two cases of the same name the later one is reported, though its method is no token either. -/
example :
    ({ name := "shop"
       scenarios :=
        [{ name := "a", cases := [{ name := "login", dependsOn := some "login" }] },
          { name := "b", cases := [{ name := "login", request := { method := "GE T" } }] }] } :
      Suite).validate = .error (.config "duplicate test case name 'login'") := by decide +kernel

end Suite

end ScenarioRunner

import ScenarioRunner.Proofs.Expectation.Verdict

/-!
# The failure that is reported

An expectation demands a status, then its fields in the order of their keys, then its assertions in the
order in which they are declared (`Expectation.demands`). Each demand has a verdict of its own, and checking
goes through the verdicts up to the first failure (`check_eq_forM`). So the error is that of the first demand
that fails, whatever comes behind it, while success depends on no order
(`first_failure_reported`).
-/

set_option autoImplicit false

namespace ScenarioRunner

/-! ## Going through a list up to the first failure -/

section Traversal

variable {ε α : Type} {f : α → Except ε Unit} {items later : List α} {e : ε}

/-- Nothing fails when each item succeeds. -/
theorem forM_eq_ok_iff : forM items f = .ok () ↔ ∀ item ∈ items, f item = .ok () := by
  induction items with
  | nil => exact iff_of_true rfl (List.forall_mem_nil _)
  | cons item rest ih =>
      rw [List.forM_cons, List.forall_mem_cons]
      cases hitem : f item with
      | error e => exact iff_of_false (by intro h; cases h) (by rintro ⟨h, -⟩; cases h)
      | ok _ => exact ih.trans (and_iff_right rfl).symm

/-- What fails is the first item that does, behind others that succeed. -/
theorem forM_eq_error_iff :
    forM items f = .error e ↔ ∃ before item later, items = before ++ item :: later ∧
      (∀ other ∈ before, f other = .ok ()) ∧ f item = .error e := by
  induction items with
  | nil =>
      constructor
      · intro h
        cases h
      · rintro ⟨before, item, later, h, -⟩
        simp at h
  | cons first rest ih =>
      rw [List.forM_cons]
      constructor
      · intro h
        cases hfirst : f first with
        | error e' =>
            rw [hfirst] at h
            cases h
            exact ⟨[], first, rest, rfl, List.forall_mem_nil _, hfirst⟩
        | ok _ =>
            rw [hfirst] at h
            obtain ⟨before, item, later, rfl, hbefore, hitem⟩ := ih.1 h
            exact ⟨first :: before, item, later, rfl, List.forall_mem_cons.2 ⟨hfirst, hbefore⟩, hitem⟩
      · rintro ⟨before, item, later, hitems, hbefore, hitem⟩
        cases before with
        | nil =>
            cases hitems
            rw [hitem]
            rfl
        | cons other before =>
            cases hitems
            obtain ⟨hother, hbefore⟩ := List.forall_mem_cons.1 hbefore
            rw [hother]
            exact ih.2 ⟨before, item, later, rfl, hbefore, hitem⟩

/-- What follows a failure changes nothing. -/
theorem forM_append_of_not_ok (h : ∃ item ∈ items, f item ≠ .ok ()) :
    forM (items ++ later) f = forM items f := by
  rw [List.forM_append]
  cases hitems : forM items f with
  | error e => rfl
  | ok _ =>
      obtain ⟨item, hmem, hitem⟩ := h
      exact absurd (forM_eq_ok_iff.1 hitems item hmem) hitem

end Traversal

/-! ## Demands -/

/-- What is demanded of a response. -/
inductive Demand where
  | status (expected : Nat)
  | field (key : String) (operand : Value)
  | assertion (assertion : Assertion)

namespace Demand

/-- The key of the field that is demanded. -/
def key? : Demand → Option String
  | field key _ => some key
  | _ => none

/-- The verdict on one demand alone. -/
def verdict (status : Nat) (body : Value) (scope : Scope) (supply : Nat) : Demand → Except Error Unit
  | .status expected =>
    if expected = 0 ∨ expected = status then .ok ()
    else .error (.assertion s!"status code mismatch: expected {expected}, got {status}")
  | field key operand =>
    Expectation.checkField key (body.get? key) (scope.resolveOperand supply operand).1
  | assertion a => (a.evaluate body scope supply).1

end Demand

namespace Expectation

variable {expectation other : Expectation} {status : Nat} {body : Value} {scope : Scope} {supply : Nat}

/-- What an expectation demands, in the order in which it is checked. -/
def demands (expectation : Expectation) : List Demand :=
  .status expectation.status ::
    ((expectation.fields.getD []).map (fun field => .field field.1 field.2) ++
      expectation.assertions.map .assertion)

/-- The fields are demanded in ascending order of their keys. -/
theorem pairwise_keys_demands (h : Fields.Ordered (expectation.fields.getD [])) :
    (expectation.demands.filterMap Demand.key?).Pairwise (· < ·) := by
  have hfields : ∀ fields : Fields Value,
      (fields.map fun field => Demand.field field.1 field.2).filterMap Demand.key? =
        fields.map Prod.fst := by
    intro fields
    rw [List.filterMap_map]
    exact congrFun List.filterMap_eq_map fields
  have hassertions : ∀ assertions : List Assertion,
      (assertions.map Demand.assertion).filterMap Demand.key? = [] := by
    intro assertions
    rw [List.filterMap_map, List.filterMap_eq_nil_iff]
    exact fun _ _ => rfl
  rw [demands, List.filterMap_cons_none rfl, List.filterMap_append, hfields, hassertions,
    List.append_nil, List.pairwise_map]
  exact h

/-! ## Checking -/

/-- Fields are checked up to the first one that fails. -/
theorem checkFields_eq_forM {fields : Fields Value} (h : ∀ field ∈ fields, field.2.Steady) :
    (checkFields body scope supply fields).1 =
      forM (fields.map fun field => .field field.1 field.2)
        (Demand.verdict status body scope supply) := by
  induction fields with
  | nil => rfl
  | cons field rest ih =>
      obtain ⟨key, operand⟩ := field
      rw [List.forall_mem_cons] at h
      obtain ⟨expected, hexpected⟩ := scope.resolveOperand_of_steady h.1
      rw [List.map_cons, List.forM_cons, Demand.verdict]
      -- the operand of a field that is not there is not resolved, but the verdict does not ask for it
      cases hactual : body.get? key with
      | none => simp [checkFields, hactual, checkField, bind, Except.bind]
      | some actual =>
          simp only [checkFields, hactual, Option.isSome_some, if_true, hexpected]
          cases checkField key (some actual) expected with
          | error e => rfl
          | ok _ => exact ih h.2

/-- Assertions are evaluated up to the first one that fails. -/
theorem checkAssertions_eq_forM {assertions : List Assertion}
    (h : ∀ assertion ∈ assertions, assertion.operand.Steady) :
    (checkAssertions body scope supply assertions).1 =
      forM (assertions.map Demand.assertion) (Demand.verdict status body scope supply) := by
  induction assertions with
  | nil => rfl
  | cons assertion rest ih =>
      rw [List.forall_mem_cons] at h
      obtain ⟨outcome, houtcome⟩ := evaluate_of_steady body scope h.1
      rw [List.map_cons, List.forM_cons, Demand.verdict, checkAssertions, houtcome]
      cases outcome with
      | error e => rfl
      | ok _ => exact ih h.2

/-- **A response is checked against one demand after the other, up to the first failure.** -/
theorem check_eq_forM (h : expectation.Steady) :
    (expectation.check status body scope supply).1 =
      forM expectation.demands (Demand.verdict status body scope supply) := by
  -- steady fields leave the supply of identifiers to the assertions as it is
  obtain ⟨outcome, houtcome⟩ := checkFields_of_steady body scope h.operands
  have hfields : (checkFields body scope supply (expectation.fields.getD [])).1 =
      forM ((expectation.fields.getD []).map fun field => .field field.1 field.2)
        (Demand.verdict status body scope supply) := checkFields_eq_forM (steady_of_mem h.operands)
  rw [houtcome] at hfields
  rw [demands, List.forM_cons, List.forM_append, ← hfields,
    ← checkAssertions_eq_forM h.assertions, Demand.verdict]
  unfold check
  by_cases hstatus : expectation.status = 0 ∨ expectation.status = status
  · have hskipped : (expectation.status != 0 && expectation.status != status) = false := by
      simpa [Decidable.or_iff_not_imp_left] using hstatus
    rw [if_pos hstatus, hskipped, houtcome]
    cases outcome with
    | error e => rfl
    | ok _ => rfl
  · have hmismatch : (expectation.status != 0 && expectation.status != status) = true := by
      simpa [not_or] using hstatus
    rw [if_neg hstatus, hmismatch]
    rfl

/-- Two expectations report the same failure if it is among what both demand first. -/
theorem check_eq_of_common_failure (h : expectation.Steady) (hother : other.Steady)
    {shown : List Demand} (hshown : shown <+: expectation.demands) (hshown' : shown <+: other.demands)
    (hfailure : ∃ demand ∈ shown, demand.verdict status body scope supply ≠ .ok ()) :
    (other.check status body scope supply).1 = (expectation.check status body scope supply).1 := by
  obtain ⟨later, hlater⟩ := hshown
  obtain ⟨later', hlater'⟩ := hshown'
  rw [check_eq_forM h, check_eq_forM hother, ← hlater, ← hlater', forM_append_of_not_ok hfailure,
    forM_append_of_not_ok hfailure]

/-- The order of the assertions does not matter for success. -/
theorem check_eq_ok_iff_of_perm (h : expectation.Steady) {assertions : List Assertion}
    (hperm : assertions.Perm expectation.assertions) :
    (({ expectation with assertions } : Expectation).check status body scope supply).1 = .ok () ↔
      (expectation.check status body scope supply).1 = .ok () := by
  have hsteady : ({ expectation with assertions } : Expectation).Steady :=
    ⟨h.fields, fun assertion hmem => h.assertions assertion (hperm.mem_iff.1 hmem)⟩
  rw [check_eq_ok_iff hsteady, check_eq_ok_iff h]
  simp only [hperm.mem_iff]

/-- What meets an expectation also meets one that demands less. -/
theorem check_eq_ok_of_subset (h : expectation.Steady) (hother : other.Steady)
    (hstatus : other.status = expectation.status)
    (hfields : expectation.fields.getD [] ⊆ other.fields.getD [])
    (hassertions : expectation.assertions ⊆ other.assertions)
    (hok : (other.check status body scope supply).1 = .ok ()) :
    (expectation.check status body scope supply).1 = .ok () := by
  rw [check_eq_ok_iff hother] at hok
  rw [check_eq_ok_iff h]
  obtain ⟨hfits, hfound, hholds⟩ := hok
  rw [hstatus] at hfits
  exact ⟨hfits, fun field hmem => hfound field (hfields hmem),
    fun assertion hmem => hholds assertion (hassertions hmem)⟩

/-- **The error of an expectation is that of the first demand that fails, and its success depends on no
order.** It is met when the status is unchecked or fits, every field is found with its value, and every
assertion holds. Otherwise the error is the verdict on the first demand that fails: the status comes before
the fields, these in ascending order of their keys, and then the assertions as they are declared. Another
expectation that begins with the same demands, up to one that fails, reports the same error. Moving assertions
changes no success, and more fields or assertions bring none about. -/
theorem first_failure_reported (hsteady : expectation.Steady)
    (hordered : Fields.Ordered (expectation.fields.getD [])) (status : Nat) (body : Value)
    (scope : Scope) (supply : Nat) :
    ((expectation.check status body scope supply).1 = .ok () ↔
        (expectation.status = 0 ∨ expectation.status = status) ∧
          (∀ field ∈ expectation.fields.getD [], ∃ actual, body.get? field.1 = some actual ∧
            actual.same (scope.resolveOperand supply field.2).1 = true) ∧
          ∀ assertion ∈ expectation.assertions,
            (assertion.evaluate body scope supply).1 = .ok ()) ∧
      (∀ e, (expectation.check status body scope supply).1 = .error e ↔
        ∃ before demand later, expectation.demands = before ++ demand :: later ∧
          (∀ earlier ∈ before, earlier.verdict status body scope supply = .ok ()) ∧
          demand.verdict status body scope supply = .error e) ∧
      (expectation.demands.filterMap Demand.key?).Pairwise (· < ·) ∧
      (∀ other : Expectation, other.Steady → ∀ shown, shown <+: expectation.demands →
        shown <+: other.demands →
        (∃ demand ∈ shown, demand.verdict status body scope supply ≠ .ok ()) →
        (other.check status body scope supply).1 = (expectation.check status body scope supply).1) ∧
      (∀ assertions : List Assertion, assertions.Perm expectation.assertions →
        ((({ expectation with assertions } : Expectation).check status body scope supply).1 = .ok () ↔
          (expectation.check status body scope supply).1 = .ok ())) ∧
      ∀ other : Expectation, other.Steady → other.status = expectation.status →
        expectation.fields.getD [] ⊆ other.fields.getD [] →
        expectation.assertions ⊆ other.assertions →
        (other.check status body scope supply).1 = .ok () →
        (expectation.check status body scope supply).1 = .ok () := by
  refine ⟨check_eq_ok_iff hsteady, ?_, pairwise_keys_demands hordered, ?_, ?_, ?_⟩
  · intro e
    rw [check_eq_forM hsteady]
    exact forM_eq_error_iff
  · intro other hother shown hshown hshown' hfailure
    exact check_eq_of_common_failure hsteady hother hshown hshown' hfailure
  · intro assertions hperm
    exact check_eq_ok_iff_of_perm hsteady hperm
  · intro other hother hstatus hfields hassertions hok
    exact check_eq_ok_of_subset hsteady hother hstatus hfields hassertions hok

/-- An expectation of a status, two fields and two assertions. -/
def invoiceExpectation : Expectation where
  status := 201
  fields := some [("note", .null), ("total", .str "7")]
  assertions := [⟨"total", .greaterThan, .int 9⟩, ⟨"paid", .equals, .bool true⟩]

/-- A body without a note fails at the field of the note, although nothing is paid either, and still does
with fewer assertions. With a note and a payment it fails at the first assertion, in either order of the
two. -/
theorem missing_note_reported :
    invoiceExpectation.Steady ∧ Fields.Ordered (invoiceExpectation.fields.getD []) ∧
      (invoiceExpectation.check 201 (.map [("total", .int 7)]) noteScope 0).1 =
        .error (.assertion "field 'note' not found in response") ∧
      (({ invoiceExpectation with assertions := [] } : Expectation).check 201
        (.map [("total", .int 7)]) noteScope 0).1 =
        .error (.assertion "field 'note' not found in response") ∧
      (({ invoiceExpectation with assertions := invoiceExpectation.assertions.reverse } :
          Expectation).check 201
        (.map [("note", .null), ("paid", .bool true), ("total", .int 7)]) noteScope 0).1 ≠ .ok () := by
  have hsteady : invoiceExpectation.Steady := by decide +kernel
  have hordered : Fields.Ordered (invoiceExpectation.fields.getD []) :=
    List.pairwise_pair.2 (by decide)
  obtain ⟨-, herror, -, hcommon, -, -⟩ :=
    first_failure_reported hsteady hordered 201 (.map [("total", .int 7)]) noteScope 0
  obtain ⟨-, -, -, -, hmoved, -⟩ := first_failure_reported hsteady hordered 201
    (.map [("note", .null), ("paid", .bool true), ("total", .int 7)]) noteScope 0
  have hmissing : (invoiceExpectation.check 201 (.map [("total", .int 7)]) noteScope 0).1 =
      .error (.assertion "field 'note' not found in response") :=
    (herror _).2 ⟨[.status 201], .field "note" .null, _, rfl,
      List.forall_mem_singleton.2 (by decide +kernel), by decide +kernel⟩
  have hfewer : ({ invoiceExpectation with assertions := [] } : Expectation).Steady :=
    ⟨hsteady.fields, List.forall_mem_nil _⟩
  refine ⟨hsteady, hordered, hmissing, ?_, ?_⟩
  · rw [← hmissing]
    exact hcommon _ hfewer [.status 201, .field "note" .null] ⟨_, rfl⟩ ⟨_, rfl⟩
      ⟨.field "note" .null, by simp, by decide +kernel⟩
  · rw [Ne, hmoved _ (List.reverse_perm _)]
    decide +kernel

end Expectation

end ScenarioRunner

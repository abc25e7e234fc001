import ScenarioRunner.Suite.Basic

/-!
# Templates without fresh identifiers

A template is steady if none of its slots asks for a fresh identifier. It resolves to the same text
at every place in the supply of identifiers and leaves the supply as it is; so a steady template is
built into the same request at every place (`build_of_steady`), and an expectation whose operands are
steady gives the same verdict (`check_of_steady`).
-/

set_option autoImplicit false

namespace ScenarioRunner

namespace Template

/-- Whether a piece is a slot for a fresh identifier. -/
def Piece.asksFresh : Piece → Bool
  | .text _ => false
  | .slot inner => decide (Reference.ofName (trimBlanks inner) = .fresh)

/-- No piece of a template is a slot for a fresh identifier. -/
def Steady (template : List Char) : Prop := ∀ piece ∈ scan template, piece.asksFresh = false

instance : DecidablePred Steady := fun template =>
  inferInstanceAs (Decidable (∀ piece ∈ scan template, piece.asksFresh = false))

end Template

namespace Value

mutual

/-- All strings inside are steady templates. -/
def Steady : Value → Prop
  | str s => Template.Steady s.toList
  | list items => SteadyItems items
  | map fields => SteadyFields fields
  | _ => True

/-- All strings inside the items are steady templates. -/
def SteadyItems : List Value → Prop
  | [] => True
  | v :: rest => v.Steady ∧ SteadyItems rest

/-- All strings inside the values of the entries are steady templates. -/
def SteadyFields : List (String × Value) → Prop
  | [] => True
  | (_, v) :: rest => v.Steady ∧ SteadyFields rest

end

end Value

/-- All templates of a request are steady. -/
structure RequestTemplate.Steady (template : RequestTemplate) : Prop where
  path : Template.Steady template.path.toList
  headers : ∀ entry ∈ template.headers, Template.Steady entry.2.toList
  query : ∀ entry ∈ template.query, Template.Steady entry.2.toList
  body : ∀ fields ∈ template.body, Value.SteadyFields fields

/-- All operands of an expectation are steady. -/
structure Expectation.Steady (expectation : Expectation) : Prop where
  fields : ∀ fields ∈ expectation.fields, Value.SteadyFields fields
  assertions : ∀ assertion ∈ expectation.assertions, assertion.operand.Steady

/-- The templates of the request of an action, if it has one, are steady. -/
def Action.Steady : Action → Prop
  | apiCall template => template.Steady
  | _ => True

/-- All templates of a suite are steady. -/
structure Suite.Steady (suite : Suite) : Prop where
  requests : ∀ c ∈ suite.cases, c.request.Steady
  expectations : ∀ c ∈ suite.cases, c.expect.Steady
  actions : ∀ action ∈ suite.setup ++ suite.teardown, action.Steady

/-! ## Deciding whether templates are steady -/

namespace Value

mutual

/-- Decides whether a value is steady. -/
def decideSteady : (v : Value) → Decidable v.Steady
  | str s => inferInstanceAs (Decidable (Template.Steady s.toList))
  | list items => decideSteadyItems items
  | map fields => decideSteadyFields fields
  | null | bool _ | int _ | uint _ | float _ => isTrue trivial

/-- Decides whether items are steady. -/
def decideSteadyItems : (items : List Value) → Decidable (SteadyItems items)
  | [] => isTrue trivial
  | v :: rest =>
    match decideSteady v, decideSteadyItems rest with
    | isTrue h, isTrue hrest => isTrue ⟨h, hrest⟩
    | isFalse h, _ => isFalse fun both => h both.1
    | _, isFalse h => isFalse fun both => h both.2

/-- Decides whether the values of entries are steady. -/
def decideSteadyFields : (fields : List (String × Value)) → Decidable (SteadyFields fields)
  | [] => isTrue trivial
  | (_, v) :: rest =>
    match decideSteady v, decideSteadyFields rest with
    | isTrue h, isTrue hrest => isTrue ⟨h, hrest⟩
    | isFalse h, _ => isFalse fun both => h both.1
    | _, isFalse h => isFalse fun both => h both.2

end

instance : DecidablePred Steady := decideSteady

instance : DecidablePred SteadyFields := decideSteadyFields

end Value

instance (template : RequestTemplate) : Decidable template.Steady :=
  decidable_of_iff
    (Template.Steady template.path.toList ∧
      (∀ entry ∈ template.headers, Template.Steady entry.2.toList) ∧
      (∀ entry ∈ template.query, Template.Steady entry.2.toList) ∧
      ∀ fields ∈ template.body, Value.SteadyFields fields)
    ⟨fun h => ⟨h.1, h.2.1, h.2.2.1, h.2.2.2⟩, fun h => ⟨h.path, h.headers, h.query, h.body⟩⟩

instance (expectation : Expectation) : Decidable expectation.Steady :=
  decidable_of_iff
    ((∀ fields ∈ expectation.fields, Value.SteadyFields fields) ∧
      ∀ assertion ∈ expectation.assertions, assertion.operand.Steady)
    ⟨fun h => ⟨h.1, h.2⟩, fun h => ⟨h.fields, h.assertions⟩⟩

instance : DecidablePred Action.Steady
  | .apiCall template => inferInstanceAs (Decidable template.Steady)
  | .softDeleteCleanup .. | .cleanup .. | .sql _ | .shell _ => isTrue trivial

instance (suite : Suite) : Decidable suite.Steady :=
  decidable_of_iff
    ((∀ c ∈ suite.cases, c.request.Steady) ∧ (∀ c ∈ suite.cases, c.expect.Steady) ∧
      ∀ action ∈ suite.setup ++ suite.teardown, action.Steady)
    ⟨fun h => ⟨h.1, h.2.1, h.2.2⟩, fun h => ⟨h.requests, h.expectations, h.actions⟩⟩

/-! ## Resolving steady templates -/

namespace Scope

variable (scope : Scope)

/-- A slot that asks for no fresh identifier is read without the supply. -/
theorem read_of_ne_fresh {reference : Template.Reference} (h : reference ≠ .fresh) :
    ∃ text, ∀ supply, scope.read supply reference = (text, supply) := by
  cases reference with
  | fresh => exact absurd rfl h
  | environment name => exact ⟨_, fun _ => rfl⟩
  | stored name => exact ⟨_, fun _ => rfl⟩

/-- Pieces without slots for fresh identifiers are filled without the supply. -/
theorem fill_of_steady {pieces : List Template.Piece}
    (h : ∀ piece ∈ pieces, piece.asksFresh = false) :
    ∃ text, ∀ supply, scope.fill supply pieces = (text, supply) := by
  induction pieces with
  | nil => exact ⟨[], fun _ => rfl⟩
  | cons piece rest ih =>
      obtain ⟨others, hrest⟩ := ih fun other hmem => h other (List.mem_cons_of_mem _ hmem)
      cases piece with
      | text content =>
          refine ⟨content ++ others, fun supply => ?_⟩
          simp only [fill, fillPiece, hrest]
      | slot inner =>
          -- a slot that nothing is found for keeps its text, which does not ask the supply
          have hslot := h (.slot inner) List.mem_cons_self
          obtain ⟨found, hread⟩ := scope.read_of_ne_fresh (of_decide_eq_false hslot)
          refine ⟨found.getD (Template.Piece.source (.slot inner)) ++ others, fun supply => ?_⟩
          simp only [fill, fillPiece, hread, hrest]

/-- A steady template resolves to one text. -/
theorem resolveText_of_steady {template : String} (h : Template.Steady template.toList) :
    ∃ text, ∀ supply, scope.resolveText supply template = (text, supply) := by
  obtain ⟨text, hfill⟩ := scope.fill_of_steady h
  refine ⟨String.ofList text, fun supply => ?_⟩
  simp only [resolveText, resolveChars, hfill]

mutual

/-- A steady operand resolves to one value. -/
theorem resolveOperand_of_steady {operand : Value} (h : operand.Steady) :
    ∃ v, ∀ supply, scope.resolveOperand supply operand = (v, supply) := by
  cases operand with
  | str s =>
      obtain ⟨text, htext⟩ := scope.resolveText_of_steady (by rwa [Value.Steady] at h)
      exact ⟨.str text, fun supply => by simp only [resolveOperand, htext]⟩
  | list items =>
      obtain ⟨items', hitems⟩ := resolveOperandItems_of_steady (by rwa [Value.Steady] at h)
      exact ⟨.list items', fun supply => by simp only [resolveOperand, hitems]⟩
  | map fields =>
      obtain ⟨fields', hfields⟩ := resolveOperandFields_of_steady (by rwa [Value.Steady] at h)
      exact ⟨.map fields', fun supply => by simp only [resolveOperand, hfields]⟩
  | null => exact ⟨.null, fun _ => by rw [resolveOperand] <;> simp⟩
  | bool b => exact ⟨.bool b, fun _ => by rw [resolveOperand] <;> simp⟩
  | int n => exact ⟨.int n, fun _ => by rw [resolveOperand] <;> simp⟩
  | uint n => exact ⟨.uint n, fun _ => by rw [resolveOperand] <;> simp⟩
  | float x => exact ⟨.float x, fun _ => by rw [resolveOperand] <;> simp⟩

/-- Steady items resolve to one list. -/
theorem resolveOperandItems_of_steady {items : List Value} (h : Value.SteadyItems items) :
    ∃ vs, ∀ supply, scope.resolveOperandItems supply items = (vs, supply) := by
  cases items with
  | nil => exact ⟨[], fun _ => rfl⟩
  | cons v rest =>
      rw [Value.SteadyItems] at h
      obtain ⟨w, hw⟩ := resolveOperand_of_steady h.1
      obtain ⟨ws, hws⟩ := resolveOperandItems_of_steady h.2
      exact ⟨w :: ws, fun supply => by simp only [resolveOperandItems, hw, hws]⟩

/-- Steady entries resolve to one list. -/
theorem resolveOperandFields_of_steady {fields : List (String × Value)}
    (h : Value.SteadyFields fields) :
    ∃ entries, ∀ supply, scope.resolveOperandFields supply fields = (entries, supply) := by
  cases fields with
  | nil => exact ⟨[], fun _ => rfl⟩
  | cons entry rest =>
      obtain ⟨key, v⟩ := entry
      rw [Value.SteadyFields] at h
      obtain ⟨w, hw⟩ := resolveOperand_of_steady h.1
      obtain ⟨ws, hws⟩ := resolveOperandFields_of_steady h.2
      exact ⟨(key, w) :: ws, fun supply => by simp only [resolveOperandFields, hw, hws]⟩

end

/-- A steady string of a request body resolves to one value. -/
theorem resolveField_of_steady {field : String} (h : Template.Steady field.toList) :
    ∃ v, ∀ supply, scope.resolveField supply field = (v, supply) := by
  obtain ⟨text, hfill⟩ := scope.fill_of_steady h
  cases hstored : scope.storedValue? field.toList with
  | some v => exact ⟨v, fun supply => by simp only [resolveField, hstored]⟩
  | none =>
      exact ⟨(scope.resolveField 0 field).1, fun supply => by
        simp only [resolveField, hstored, resolveChars, hfill]⟩

mutual

/-- A steady part of a request body resolves to one value. -/
theorem resolveValue_of_steady {part : Value} (h : part.Steady) :
    ∃ v, ∀ supply, scope.resolveValue supply part = (v, supply) := by
  cases part with
  | str s =>
      obtain ⟨v, hv⟩ := scope.resolveField_of_steady (by rwa [Value.Steady] at h)
      exact ⟨v, fun supply => by rw [resolveValue, hv]⟩
  | list items =>
      obtain ⟨items', hitems⟩ := resolveItems_of_steady (by rwa [Value.Steady] at h)
      exact ⟨.list items', fun supply => by simp only [resolveValue, hitems]⟩
  | map fields =>
      obtain ⟨fields', hfields⟩ := resolveFields_of_steady (by rwa [Value.Steady] at h)
      exact ⟨.map fields', fun supply => by simp only [resolveValue, hfields]⟩
  | null => exact ⟨.null, fun _ => by rw [resolveValue] <;> simp⟩
  | bool b => exact ⟨.bool b, fun _ => by rw [resolveValue] <;> simp⟩
  | int n => exact ⟨.int n, fun _ => by rw [resolveValue] <;> simp⟩
  | uint n => exact ⟨.uint n, fun _ => by rw [resolveValue] <;> simp⟩
  | float x => exact ⟨.float x, fun _ => by rw [resolveValue] <;> simp⟩

/-- Steady items of a request body resolve to one list. -/
theorem resolveItems_of_steady {items : List Value} (h : Value.SteadyItems items) :
    ∃ vs, ∀ supply, scope.resolveItems supply items = (vs, supply) := by
  cases items with
  | nil => exact ⟨[], fun _ => rfl⟩
  | cons v rest =>
      rw [Value.SteadyItems] at h
      obtain ⟨w, hw⟩ := resolveValue_of_steady h.1
      obtain ⟨ws, hws⟩ := resolveItems_of_steady h.2
      exact ⟨w :: ws, fun supply => by simp only [resolveItems, hw, hws]⟩

/-- Steady entries of a request body resolve to one list. -/
theorem resolveFields_of_steady {fields : List (String × Value)} (h : Value.SteadyFields fields) :
    ∃ entries, ∀ supply, scope.resolveFields supply fields = (entries, supply) := by
  cases fields with
  | nil => exact ⟨[], fun _ => rfl⟩
  | cons entry rest =>
      obtain ⟨key, v⟩ := entry
      rw [Value.SteadyFields] at h
      obtain ⟨w, hw⟩ := resolveValue_of_steady h.1
      obtain ⟨ws, hws⟩ := resolveFields_of_steady h.2
      exact ⟨(key, w) :: ws, fun supply => by simp only [resolveFields, hw, hws]⟩

end

/-- Steady texts resolve to one list. -/
theorem resolveTexts_of_steady {texts : Fields String}
    (h : ∀ entry ∈ texts, Template.Steady entry.2.toList) :
    ∃ resolved, ∀ supply, scope.resolveTexts supply texts = (resolved, supply) := by
  induction texts with
  | nil => exact ⟨[], fun _ => rfl⟩
  | cons entry rest ih =>
      obtain ⟨key, template⟩ := entry
      obtain ⟨text, htext⟩ := scope.resolveText_of_steady (h (key, template) List.mem_cons_self)
      obtain ⟨others, hrest⟩ := ih fun other hmem => h other (List.mem_cons_of_mem _ hmem)
      exact ⟨(key, text) :: others, fun supply => by simp only [resolveTexts, htext, hrest]⟩

end Scope

/-- A steady template is built into one request. -/
theorem RequestTemplate.build_of_steady {template : RequestTemplate} (h : template.Steady)
    (baseUrl : String) (scope : Scope) :
    ∃ request, ∀ supply, template.build baseUrl scope supply = (request, supply) := by
  obtain ⟨path, hpath⟩ := scope.resolveText_of_steady h.path
  obtain ⟨headers, hheaders⟩ := scope.resolveTexts_of_steady h.headers
  obtain ⟨query, hquery⟩ := scope.resolveTexts_of_steady h.query
  have hbody : ∃ body, ∀ supply, buildBody scope supply template.body = (body, supply) := by
    cases hdeclared : template.body with
    | none => exact ⟨none, fun _ => rfl⟩
    | some fields =>
        obtain ⟨entries, hentries⟩ := scope.resolveFields_of_steady (h.body fields hdeclared)
        exact ⟨some (Json.compactText (.map entries)), fun supply => by
          simp only [buildBody, hentries]⟩
  obtain ⟨body, hbody⟩ := hbody
  exact ⟨⟨UpperCase.ofText template.method, baseUrl ++ path, headers, query, body⟩, fun supply => by
    simp only [build, hpath, hheaders, hquery, hbody]⟩

namespace Expectation

variable (body : Value) (scope : Scope)

/-- An assertion with a steady operand has one verdict. -/
theorem evaluate_of_steady {assertion : Assertion} (h : assertion.operand.Steady) :
    ∃ outcome, ∀ supply, assertion.evaluate body scope supply = (outcome, supply) := by
  obtain ⟨expected, hexpected⟩ := scope.resolveOperand_of_steady h
  exact ⟨(assertion.evaluate body scope 0).1, fun supply => by
    simp only [Assertion.evaluate, hexpected]⟩

/-- Assertions with steady operands have one verdict. -/
theorem checkAssertions_of_steady {assertions : List Assertion}
    (h : ∀ assertion ∈ assertions, assertion.operand.Steady) :
    ∃ outcome, ∀ supply, checkAssertions body scope supply assertions = (outcome, supply) := by
  induction assertions with
  | nil => exact ⟨.ok (), fun _ => rfl⟩
  | cons assertion rest ih =>
      obtain ⟨first, hfirst⟩ := evaluate_of_steady body scope (h assertion List.mem_cons_self)
      obtain ⟨others, hrest⟩ := ih fun other hmem => h other (List.mem_cons_of_mem _ hmem)
      -- the first failure ends the check, and what follows is not resolved any more
      cases first with
      | error e => exact ⟨.error e, fun supply => by simp only [checkAssertions, hfirst]⟩
      | ok _ => exact ⟨others, fun supply => by simp only [checkAssertions, hfirst, hrest]⟩

/-- Fields with steady operands have one verdict. -/
theorem checkFields_of_steady {fields : Fields Value} (h : Value.SteadyFields fields) :
    ∃ outcome, ∀ supply, checkFields body scope supply fields = (outcome, supply) := by
  induction fields with
  | nil => exact ⟨.ok (), fun _ => rfl⟩
  | cons entry rest ih =>
      obtain ⟨key, operand⟩ := entry
      rw [Value.SteadyFields] at h
      obtain ⟨others, hrest⟩ := ih h.2
      obtain ⟨resolved, hresolved⟩ := scope.resolveOperand_of_steady h.1
      -- a missing field is reported before its operand is resolved
      have hfirst : ∃ expected, ∀ supply,
          (if (body.get? key).isSome then scope.resolveOperand supply operand
            else (operand, supply)) = (expected, supply) := by
        cases (body.get? key).isSome with
        | true => exact ⟨resolved, hresolved⟩
        | false => exact ⟨operand, fun _ => rfl⟩
      obtain ⟨expected, hexpected⟩ := hfirst
      cases houtcome : checkField key (body.get? key) expected with
      | error e =>
          exact ⟨.error e, fun supply => by simp only [checkFields, hexpected, houtcome]⟩
      | ok _ =>
          exact ⟨others, fun supply => by simp only [checkFields, hexpected, houtcome, hrest]⟩

/-- An expectation with steady operands has one verdict. -/
theorem check_of_steady {expectation : Expectation} (h : expectation.Steady) (status : Nat) :
    ∃ outcome, ∀ supply, expectation.check status body scope supply = (outcome, supply) := by
  have hsteady : Value.SteadyFields (expectation.fields.getD []) := by
    cases hfields : expectation.fields with
    | none => trivial
    | some fields => exact h.fields fields hfields
  obtain ⟨first, hfirst⟩ := checkFields_of_steady body scope hsteady
  obtain ⟨others, hrest⟩ := checkAssertions_of_steady body scope h.assertions
  -- the status is checked before the fields, and the fields before the assertions
  cases hstatus : (expectation.status != 0 && expectation.status != status) with
  | true =>
      exact ⟨(expectation.check status body scope 0).1, fun supply => by
        simp only [check, hstatus, if_true]⟩
  | false =>
      cases first with
      | error e =>
          exact ⟨.error e, fun supply => by
            simp only [check, hstatus, Bool.false_eq_true, if_false, hfirst]⟩
      | ok _ =>
          exact ⟨others, fun supply => by
            simp only [check, hstatus, Bool.false_eq_true, if_false, hfirst, hrest]⟩

end Expectation

end ScenarioRunner

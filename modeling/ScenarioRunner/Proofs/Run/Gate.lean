import ScenarioRunner.Run.Case

/-!
# The gate of a case

The gate of a case looks at the names of the results before it, and at which of them have passed
(`gate_map`). It is closed when the dependency of the case is not among the latter, and then its
error says whether the dependency is among the former (`gate_eq_error_iff`).
-/

set_option autoImplicit false

namespace ScenarioRunner

namespace CaseResult

variable {past : List CaseResult} {name : String}

/-- A change that keeps all names keeps what is found. -/
theorem find?_map {f : CaseResult → CaseResult} (hname : ∀ result, (f result).name = result.name)
    (past : List CaseResult) (name : String) :
    find? (past.map f) name = (find? past name).map f := by
  unfold find?
  rw [List.find?_map]
  congr
  funext result
  simp only [Function.comp, hname]

/-- A change that keeps all names, and which results have passed, keeps what has passed. -/
theorem hasPassed_map {f : CaseResult → CaseResult}
    (hname : ∀ result, (f result).name = result.name)
    (hpassed : ∀ result, (f result).passed = result.passed) (past : List CaseResult)
    (name : String) : hasPassed (past.map f) name = hasPassed past name := by
  unfold hasPassed
  rw [find?_map hname, Option.any_map]
  congr
  funext result
  exact hpassed result

/-- Something is found under the name of a result. -/
theorem isSome_find?_iff :
    (find? past name).isSome = true ↔ ∃ result ∈ past, result.name = name := by
  unfold find?
  rw [List.find?_isSome]
  simp

end CaseResult

namespace Case

variable {c : Case} {past : List CaseResult}

/-- **A gate looks at the names of results and at which of them have passed.** -/
theorem gate_map (c : Case) (f : CaseResult → CaseResult)
    (hname : ∀ result, (f result).name = result.name)
    (hpassed : ∀ result, (f result).passed = result.passed) (past : List CaseResult) :
    c.gate (past.map f) = c.gate past := by
  simp only [gate, CaseResult.hasPassed_map hname hpassed, CaseResult.find?_map hname,
    Option.isSome_map]

/-- Why a gate is closed whose dependency has not passed. -/
def closedReason (past : List CaseResult) (name : String) : Error :=
  .dependency name (if (CaseResult.find? past name).isSome then "did not pass" else "has not run")

/-- A gate is closed when there is a dependency that has not passed. -/
theorem gate_eq_error_iff {e : Error} :
    c.gate past = .error e ↔ ∃ name, c.dependency = some name ∧
      CaseResult.hasPassed past name = false ∧ e = closedReason past name := by
  unfold gate
  cases c.dependency with
  | none => simp
  | some name =>
      simp only [Option.some.injEq, exists_eq_left']
      cases CaseResult.hasPassed past name with
      | true => simp
      | false =>
          cases hfound : (CaseResult.find? past name).isSome with
          | true => simp [hfound, closedReason, @eq_comm _ e]
          | false => simp [hfound, closedReason, @eq_comm _ e]

/-- A gate is closed when there is no result of its dependency. -/
theorem gate_of_not_found {name : String} (hdependency : c.dependency = some name)
    (hnone : CaseResult.find? past name = none) :
    c.gate past = .error (.dependency name "has not run") := by
  refine gate_eq_error_iff.2 ⟨name, hdependency, ?_, ?_⟩
  · rw [CaseResult.hasPassed, hnone]
    rfl
  · rw [closedReason, hnone]
    rfl

end Case

end ScenarioRunner

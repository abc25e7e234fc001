import ScenarioRunner.Suite.Validation

/-!
# The names of the cases of a well-formed suite

No two cases of a well-formed suite have the same name, whatever scenarios they stand in. A suite
stays well-formed when some of its cases are left out (`validate_of_sublist`).
-/

set_option autoImplicit false

namespace ScenarioRunner

/-- A case that passes its check has a name that no earlier case has. -/
theorem Case.not_mem_of_check {earlier : List String} {c : Case} (h : c.check earlier = .ok ()) :
    c.name ∉ earlier := by
  unfold check at h
  split at h
  · cases h
  · split at h
    · cases h
    · next hfresh =>
        intro hmem
        exact hfresh (List.contains_iff_mem.2 hmem)

/-- Cases that pass their checks have names that differ, also from the names of earlier cases. -/
theorem Case.names_of_checkAll {earlier : List String} {cases : List Case}
    (h : checkAll earlier cases = .ok ()) :
    (cases.map Case.name).Nodup ∧ ∀ c ∈ cases, c.name ∉ earlier := by
  induction cases generalizing earlier with
  | nil => exact ⟨List.nodup_nil, by simp⟩
  | cons c rest ih =>
      rw [checkAll] at h
      split at h
      · next hc =>
          -- the name of `c` counts as an earlier one for the cases behind it
          obtain ⟨hnodup, hfresh⟩ := ih h
          have hname : c.name ∉ rest.map Case.name := by
            intro hmem
            obtain ⟨d, hd, hdname⟩ := List.mem_map.1 hmem
            exact hfresh d hd (by simp [hdname])
          refine ⟨List.nodup_cons.2 ⟨hname, hnodup⟩, ?_⟩
          intro d hd
          rcases List.mem_cons.1 hd with rfl | hd
          · exact not_mem_of_check hc
          · exact fun hmem => hfresh d hd (List.mem_cons_of_mem _ hmem)
      · cases h

/-- A case that passes its check behind others passes it behind fewer. -/
theorem Case.check_of_subset {earlier fewer : List String} {c : Case}
    (h : c.check earlier = .ok ()) (hfewer : fewer ⊆ earlier) : c.check fewer = .ok () := by
  unfold check at h ⊢
  split at h
  · cases h
  · next hname =>
      split at h
      · cases h
      · next hfresh =>
          have hfresh' : fewer.contains c.name ≠ true := by
            intro hmem
            exact hfresh (List.contains_iff_mem.2 (hfewer (List.contains_iff_mem.1 hmem)))
          rw [if_neg hname, if_neg hfresh']
          exact h

/-- Cases that pass their checks pass them when some are left out. -/
theorem Case.checkAll_of_sublist {earlier fewer : List String} {cases left : List Case}
    (h : checkAll earlier cases = .ok ()) (hleft : left.Sublist cases) (hfewer : fewer ⊆ earlier) :
    checkAll fewer left = .ok () := by
  induction hleft generalizing earlier fewer with
  | slnil => rfl
  | cons c _ ih =>
      rw [checkAll] at h
      split at h
      · exact ih h fun name hmem => List.mem_cons_of_mem _ (hfewer hmem)
      · cases h
  | cons_cons c _ ih =>
      rw [checkAll] at h ⊢
      split at h
      · next hc =>
          rw [check_of_subset hc hfewer]
          exact ih h (List.cons_subset_cons _ hfewer)
      · cases h

namespace Suite

variable {suite : Suite}

theorem validate_eq_ok_iff :
    suite.validate = .ok () ↔ isBlankText suite.name = false ∧
      checkEach Action.validate (suite.setup ++ suite.teardown) = .ok () ∧
      Case.checkAll [] suite.cases = .ok () := by
  unfold validate
  cases isBlankText suite.name with
  | true => simp
  | false => rcases checkEach Action.validate (suite.setup ++ suite.teardown) with e | _ <;> simp

/-- The cases of a well-formed suite have different names. -/
theorem nodup_names (hvalid : suite.validate = .ok ()) : (suite.cases.map Case.name).Nodup :=
  (Case.names_of_checkAll (validate_eq_ok_iff.1 hvalid).2.2).1

/-- In a well-formed suite a name belongs to one place only. -/
theorem index_unique (hvalid : suite.validate = .ok ()) {i j : Nat} {c d : Case}
    (hc : suite.cases[i]? = some c) (hd : suite.cases[j]? = some d) (hname : c.name = d.name) :
    i = j := by
  have hi : (suite.cases.map Case.name)[i]? = some c.name := by rw [List.getElem?_map, hc]; rfl
  have hj : (suite.cases.map Case.name)[j]? = some c.name := by
    rw [List.getElem?_map, hd, hname]
    rfl
  have hlength := (List.getElem?_eq_some_iff.1 hi).1
  exact (List.getElem?_inj hlength (nodup_names hvalid)).1 (hi.trans hj.symm)

/-- A well-formed suite is still well-formed when some of its cases are left out. -/
theorem validate_of_sublist {scenarios : List Scenario} (hvalid : suite.validate = .ok ())
    (hleft : ({ suite with scenarios } : Suite).cases.Sublist suite.cases) :
    ({ suite with scenarios } : Suite).validate = .ok () := by
  obtain ⟨hname, hactions, hcases⟩ := validate_eq_ok_iff.1 hvalid
  exact validate_eq_ok_iff.2
    ⟨hname, hactions, Case.checkAll_of_sublist hcases hleft (List.Subset.refl _)⟩

end Suite

end ScenarioRunner

import ScenarioRunner.Proofs.Template.Body

/-!
# Stored values in requests

Where the template of a request has one slot of a stored variable, the request that is built from it
has the value of this variable (`delivers_build`): in its body with the kind of the value, and in its
path, headers and query as the text of the value between the texts around the slot.
-/

set_option autoImplicit false

namespace ScenarioRunner

open Template

/-! ## Texts -/

/-- Integers are written in plain decimal digits. -/
theorem Json.ofList_integer (n : Int) : String.ofList (integer n) = toString n := by
  cases n with
  | ofNat n => rfl
  | negSucc n =>
      rw [integer, if_pos (Int.negSucc_lt_zero n)]
      exact @String.ofList_append ['-'] _

namespace Scope

variable {scope : Scope} {name : String} {v : Value}

/-- A slot between two texts without braces resolves to the text of the value between these texts. -/
theorem resolveText_around {before behind : String} (hbefore : Braceless before.toList)
    (hbehind : Braceless behind.toList) (hname : PlainName name)
    (hbound : Fields.get? scope.store name = some v) (supply : Nat) :
    scope.resolveText supply (before ++ slotOf name ++ behind) =
      (before ++ v.text ++ behind, supply) := by
  have htext := resolveText_slot hbefore.1 hbehind.1 hname hbound supply
  rw [String.ofList_append, String.ofList_append, String.ofList_append, String.ofList_append,
    String.ofList_toList, String.ofList_toList] at htext
  rw [slotOf, Value.text_eq]
  exact htext

/-- Each of some texts is resolved at some place in the supply. -/
theorem get?_resolveTexts {templates : Fields String} {key template : String}
    (h : Fields.get? templates key = some template) (supply : Nat) :
    ∃ place, Fields.get? (scope.resolveTexts supply templates).1 key =
      some (scope.resolveText place template).1 := by
  induction templates generalizing supply with
  | nil => cases h
  | cons entry rest ih =>
      obtain ⟨k, first⟩ := entry
      unfold Fields.get? at h ih ⊢
      rw [Fields.lookup_cons_eq_ite] at h
      rw [resolveTexts]
      dsimp only
      rw [Fields.lookup_cons_eq_ite]
      split at h
      · next hkey =>
          cases h
          exact ⟨supply, by rw [if_pos hkey]⟩
      · next hkey =>
          rw [if_neg hkey]
          exact ih h _

end Scope

/-! ## Requests -/

namespace RequestTemplate

/-- A request has a value in all places where its template has the slot of a name. -/
structure Delivers (template : RequestTemplate) (baseUrl : String) (scope : Scope) (name : String)
    (v : Value) (request : Request) : Prop where
  /-- The value is found in the body that is sent, if it is portable, where the template has a string
  that is the slot. -/
  body : ∀ fields, template.body = some fields → scope.PortableBody fields →
    ∃ text decoded, request.body = some text ∧ decodeBody (Utf8.encode text) = .ok decoded ∧
      ∀ place, (Value.map fields).at? place = some (.str (slotOf name)) →
        decoded.at? place = some v
  /-- The path has the text of the value for a slot between two texts without braces. -/
  path : ∀ before behind, Braceless before.toList → Braceless behind.toList →
    template.path = before ++ slotOf name ++ behind →
    request.url = baseUrl ++ (before ++ v.text ++ behind)
  /-- A header has the text of the value for a slot between two texts without braces. -/
  header : ∀ key before behind, Braceless before.toList → Braceless behind.toList →
    Fields.get? template.headers key = some (before ++ slotOf name ++ behind) →
    Fields.get? request.headers key = some (before ++ v.text ++ behind)
  /-- A query value has the text of the value for a slot between two texts without braces. -/
  query : ∀ key before behind, Braceless before.toList → Braceless behind.toList →
    Fields.get? template.query key = some (before ++ slotOf name ++ behind) →
    Fields.get? request.query key = some (before ++ v.text ++ behind)

variable {template : RequestTemplate} {scope : Scope} {name : String} {v : Value}

/-- **A request has the value of a stored variable where its template has the slot of the variable.** -/
theorem delivers_build
    (hsteady : ∀ fields, template.body = some fields → (Value.map fields).Steady)
    (hcanonical : ∀ fields, template.body = some fields → (Value.map fields).Canonical)
    (hstore : ∀ name v, Fields.get? scope.store name = some v → v.Canonical)
    (hname : PlainName name) (hbound : Fields.get? scope.store name = some v) (hv : v.Normal)
    (baseUrl : String) (supply : Nat) :
    template.Delivers baseUrl scope name v (template.build baseUrl scope supply).1 := by
  have hvalues : ∀ (templates : Fields String) (place : Nat) (key before behind : String),
      Braceless before.toList → Braceless behind.toList →
      Fields.get? templates key = some (before ++ slotOf name ++ behind) →
      Fields.get? (scope.resolveTexts place templates).1 key =
        some (before ++ v.text ++ behind) := by
    intro templates place key before behind hbefore hbehind hfound
    obtain ⟨later, htext⟩ := scope.get?_resolveTexts hfound place
    rw [htext, Scope.resolveText_around hbefore hbehind hname hbound]
  constructor
  · intro fields hfields hportable
    obtain ⟨text, decoded, htext, hdecoded, hplaces⟩ := Scope.decodeBody_of_portable
      (hsteady fields hfields) (hcanonical fields hfields) hstore hportable
      (scope.resolveTexts (scope.resolveTexts (scope.resolveText supply template.path).2
        template.headers).2 template.query).2
    refine ⟨text, decoded, ?_, hdecoded, fun place => hplaces name v place hname hbound hv⟩
    rw [← htext, ← hfields]
    rfl
  · intro before behind hbefore hbehind hpath
    have htext := Scope.resolveText_around hbefore hbehind hname hbound supply
    rw [← hpath] at htext
    change baseUrl ++ (scope.resolveText supply template.path).1 = _
    rw [htext]
  · intro key before behind hbefore hbehind hheader
    exact hvalues template.headers _ key before behind hbefore hbehind hheader
  · intro key before behind hbefore hbehind hquery
    exact hvalues template.query _ key before behind hbefore hbehind hquery

end RequestTemplate

end ScenarioRunner

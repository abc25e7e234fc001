import ScenarioRunner.Proofs.Json.Reading
import ScenarioRunner.Proofs.Request
import ScenarioRunner.Proofs.Run.Captures

/-!
# Captured values in later requests

A turn binds a name to a value when its case passes and saves the value under this name. The next turn
finds the value (`stored_of_binds`), and a turn that does not bind the name hands on what it has found
(`stored_of_not_binds`); so a value is found until the name is bound again (`stored_until_bound`).
All values that a run stores are in key order, and those that are bound are normal, since the reader
made them. What a later request is sent with is therefore the value that was captured
(`captured_value_reaches_later_requests`).
-/

set_option autoImplicit false

namespace ScenarioRunner

open Template

variable {σ : Type}

/-- What readers make of a suite: the maps of its variables and bodies are in key order, and so are
the variables that its cases save. -/
structure Suite.Canonical (suite : Suite) : Prop where
  bindings : ∀ entry ∈ suite.bindings, entry.2.Canonical
  bodies : ∀ c ∈ suite.cases, ∀ fields, c.request.body = some fields → (Value.map fields).Canonical
  saves : ∀ c ∈ suite.cases, c.save.Ordered

/-! ## One turn -/

namespace Turn

variable {turn : Turn σ} {name : String} {v w : Value}

/-- The case passes, and saves under a name what a path of its finds in the body of its last
response. -/
def Binds (turn : Turn σ) (name : String) (v : Value) : Prop :=
  turn.result.outcome = .passed ∧ ∃ path response body, (name, path) ∈ turn.case.save ∧
    turn.LastResponse response ∧ decodeBody response.body = .ok body ∧ body.lookup? path = some v

/-- There is one last response. -/
theorem LastResponse.unique {first second : Response} (hfirst : turn.LastResponse first)
    (hsecond : turn.LastResponse second) : first = second := by
  rw [lastResponse_iff] at hfirst hsecond
  exact Except.ok.inj (hfirst.2.symm.trans hsecond.2)

/-- A case that passes captures from the object of its last response. -/
theorem captures_of_passed (hpassed : turn.result.outcome = .passed) {response : Response}
    (hlast : turn.LastResponse response) {body : Value} (hbody : decodeBody response.body = .ok body) :
    turn.captures = turn.case.captures body := by
  have hresponse := turn.ends.response_eq hlast
  rw [hbody] at hresponse
  unfold captures Case.capturesOf result
  rw [show turn.executed.result.outcome = .passed from hpassed, hresponse]

/-- The captures of a turn are what it binds. -/
theorem mem_captures_iff_binds : (name, v) ∈ turn.captures ↔ turn.Binds name v := by
  constructor
  · intro hmem
    have hpassed : turn.result.outcome = .passed := by
      by_contra hne
      rw [captures_of_ne_passed hne] at hmem
      cases hmem
    obtain ⟨response, fields, hlast, hbody, -⟩ := turn.ends.passed_iff.1 hpassed
    rw [captures_of_passed hpassed hlast hbody, Case.mem_captures_iff] at hmem
    obtain ⟨path, hsave, hfound⟩ := hmem
    exact ⟨hpassed, path, response, _, hsave, hlast, hbody, hfound⟩
  · rintro ⟨hpassed, path, response, body, hsave, hlast, hbody, hfound⟩
    rw [captures_of_passed hpassed hlast hbody, Case.mem_captures_iff]
    exact ⟨path, hsave, hfound⟩

/-- A name is bound to one value. -/
theorem Binds.unique (hsave : turn.case.save.Ordered) (hv : turn.Binds name v)
    (hw : turn.Binds name w) : w = v := by
  obtain ⟨-, path, response, body, hpath, hlast, hbody, hfound⟩ := hv
  obtain ⟨-, path', response', body', hpath', hlast', hbody', hfound'⟩ := hw
  -- in key order the name has one path, and there is one response to follow it in
  rw [← Fields.get?_eq_some_iff hsave] at hpath hpath'
  obtain rfl := Option.some.inj (hpath.symm.trans hpath')
  obtain rfl := hlast.unique hlast'
  obtain rfl := Except.ok.inj (hbody.symm.trans hbody')
  exact Option.some.inj (hfound'.symm.trans hfound)

/-- A case that passes has sent a request. -/
theorem exists_request_of_passed (hpassed : turn.result.outcome = .passed) :
    ∃ time request, .request time request ∈ turn.events := by
  obtain ⟨response, fields, ⟨x, hx, -⟩, -, -⟩ := turn.ends.passed_iff.1 hpassed
  rw [turn.events_eq]
  exact ⟨x.time, x.request, List.mem_map_of_mem (List.mem_of_getLast? hx)⟩

/-- What is bound was made by the reader. -/
theorem Binds.normal (h : turn.Binds name v) : v.Normal := by
  obtain ⟨-, path, response, body, -, -, hbody, hfound⟩ := h
  exact (normal_of_decodeBody hbody).lookup? hfound

/-- Behind a turn that binds a name the value is found under it. -/
theorem stored_of_binds (hsave : turn.case.save.Ordered) (h : turn.Binds name v) :
    Fields.get? (Fields.insertAll turn.captures turn.store) name = some v := by
  apply Fields.get?_insertAll_of_mem (mem_captures_iff_binds.2 h)
  intro w hw
  exact h.unique hsave (mem_captures_iff_binds.1 hw)

/-- Behind a turn that does not bind a name the same is found under it as before. -/
theorem stored_of_not_binds (h : ∀ w, ¬turn.Binds name w) :
    Fields.get? (Fields.insertAll turn.captures turn.store) name = Fields.get? turn.store name := by
  apply Fields.get?_insertAll_of_not_mem
  intro w hw
  exact h w (mem_captures_iff_binds.1 hw)

/-- A turn keeps the key order of what is stored. -/
theorem canonical_of_stored (h : ∀ name v, Fields.get? turn.store name = some v → v.Canonical)
    (hfound : Fields.get? (Fields.insertAll turn.captures turn.store) name = some v) :
    v.Canonical := by
  rw [Fields.get?_insertAll] at hfound
  cases hcaptured : turn.captures.reverse.lookup name with
  | none =>
      rw [hcaptured, Option.none_or] at hfound
      exact h name v hfound
  | some w =>
      -- what the turn captures was made by the reader, in key order
      rw [hcaptured, Option.some_or] at hfound
      cases hfound
      have hmem := List.mem_reverse.1 (Fields.mem_of_get? hcaptured)
      exact (mem_captures_iff_binds.1 hmem).normal.canonical

end Turn

/-! ## A run -/

namespace Suite

variable {suite : Suite} {setting : Setting σ} {world : World σ} {report : Report} {i j : Nat}
  {a b : Turn σ} {name : String} {v : Value}

/-- A turn finds the initial variables with the captures of the turns before it. -/
theorem store_of_turn (ha : (suite.turns setting world)[i]? = some a) :
    a.store = Fields.insertAll (((suite.turns setting world).take i).flatMap Turn.captures)
      suite.bindings := by
  obtain ⟨-, -, -, hstore, -⟩ := turn_eq ha
  rw [hstore, casePhaseAt, Case.store_executeAll, ← Case.take_turns,
    ← turns_of_setup (setup_of_turn ha)]

/-- A turn finds what the one before it leaves behind. -/
theorem store_of_next (ha : (suite.turns setting world)[i]? = some a)
    (hb : (suite.turns setting world)[i + 1]? = some b) :
    b.store = Fields.insertAll a.captures a.store := by
  rw [store_of_turn hb, List.take_add_one, ha, Option.toList_some, List.flatMap_append,
    List.flatMap_singleton, Fields.insertAll_append, ← store_of_turn ha]

/-- Before a turn that is not the first there is another one. -/
theorem exists_turn_before (hb : (suite.turns setting world)[i + 1]? = some b) :
    ∃ a, (suite.turns setting world)[i]? = some a := by
  obtain ⟨hlt, -⟩ := List.getElem?_eq_some_iff.1 hb
  exact ⟨_, List.getElem?_eq_getElem (Nat.lt_of_succ_lt hlt)⟩

/-- All values that are stored in a run are in key order. -/
theorem canonical_of_turn (hcanonical : suite.Canonical)
    (ha : (suite.turns setting world)[i]? = some a) :
    ∀ name v, Fields.get? a.store name = some v → v.Canonical := by
  induction i generalizing a with
  | zero =>
      intro name v hfound
      rw [store_of_turn ha] at hfound
      exact hcanonical.bindings (name, v) (Fields.mem_of_get? hfound)
  | succ i ih =>
      obtain ⟨before, hbefore⟩ := exists_turn_before ha
      intro name v hfound
      rw [store_of_next hbefore ha] at hfound
      exact Turn.canonical_of_stored (ih hbefore) hfound

/-- **A captured value is found until its name is bound again.** -/
theorem stored_until_bound (hcanonical : suite.Canonical)
    (ha : (suite.turns setting world)[i]? = some a) (hbinds : a.Binds name v)
    (hb : (suite.turns setting world)[j]? = some b) (hij : i < j)
    (hkept : ∀ k turn, i < k → k < j → (suite.turns setting world)[k]? = some turn →
      ∀ w, ¬turn.Binds name w) :
    Fields.get? b.store name = some v := by
  have hsave : a.case.save.Ordered := hcanonical.saves _ (List.mem_of_getElem? (case_of_turn ha))
  -- the induction is on the later turn: the one before it is the turn that binds, or hands on
  induction j generalizing b with
  | zero => exact absurd hij (Nat.not_lt_zero i)
  | succ j ih =>
      obtain ⟨before, hbefore⟩ := exists_turn_before hb
      rw [store_of_next hbefore hb]
      rcases Nat.lt_succ_iff_lt_or_eq.1 hij with hlt | rfl
      · rw [Turn.stored_of_not_binds (hkept j before hlt (Nat.lt_succ_self j) hbefore)]
        apply ih hbefore hlt
        intro k turn hik hkj
        exact hkept k turn hik (Nat.lt_succ_of_lt hkj)
      · rw [ha] at hbefore
        cases hbefore
        exact Turn.stored_of_binds hsave hbinds

end Suite

/-! ## A run that sends an identifier on -/

namespace Shipment

/-- A transport that replies from a script. -/
def setting : Setting Script := ⟨fun _ script => script.next, none, fun _ => none, none⟩

/-- Creates an order, reads a note, and ships the order. -/
def suite : Suite :=
  { name := "shop"
    scenarios :=
      [{ name := "orders"
         cases :=
           [{ name := "create", save := [("id", "order.id")] },
            { name := "note", save := [("note", "text")] },
            { name := "ship"
              request :=
                { method := "POST"
                  path := "/orders/\x7b\x7bid\x7d\x7d/ship"
                  body := some [("orders", .list [.str "\x7b\x7bid\x7d\x7d"])] } }] }] }

/-- The object that describes the order. No float is its identifier. -/
def created : Fields Value := [("order", .map [("id", .int 9007199254740993)])]

/-- The order is created, and there is no note. -/
def world : World Script := ⟨0, 0, [⟨1, .ok ⟨201, [], Utf8.encode (Json.compactText (.map created))⟩⟩]⟩

theorem slotOf_id : slotOf "id" = "\x7b\x7bid\x7d\x7d" := by decide

theorem plainName : PlainName "id" := ⟨by decide, by decide, by decide, by decide⟩

theorem canonical : suite.Canonical := by
  constructor
  · intro entry hentry
    cases hentry
  · intro c hc fields hfields
    simp only [suite, Suite.cases, List.flatMap_cons, List.flatMap_nil, List.append_nil,
      List.mem_cons, List.not_mem_nil, or_false] at hc
    rcases hc with rfl | rfl | rfl
    · cases hfields
    · cases hfields
    · cases hfields
      simp [Value.Canonical, Value.CanonicalFields, Value.CanonicalItems, Fields.Ordered]
  · intro c hc
    simp only [suite, Suite.cases, List.flatMap_cons, List.flatMap_nil, List.append_nil,
      List.mem_cons, List.not_mem_nil, or_false] at hc
    rcases hc with rfl | rfl | rfl
    · simp [Fields.Ordered]
    · simp [Fields.Ordered]
    · simp [Fields.Ordered]

theorem decodeBody_created : decodeBody (Utf8.encode (Json.compactText (.map created))) =
    .ok (.map created) := by
  have hfree : (Value.map created).FloatFree := by
    intro x
    simp [created, Value.leaves, Value.leavesOfFields]
  have hcanonical : (Value.map created).Canonical := by
    simp [created, Value.Canonical, Value.CanonicalFields, Fields.Ordered]
  exact decodeBody_compactText hfree hcanonical (by decide)

theorem setup_eq_none : (suite.setupPhase setting world).1 = none := by decide +kernel

set_option maxRecDepth 20000 in
theorem outcomes_eq : ((suite.turns setting world).map fun turn => turn.result.outcome) =
    [.passed, .passed, .passed] := by
  decide +kernel

set_option maxRecDepth 20000 in
theorem last_reply_eq : ((suite.turns setting world)[0]?.map fun turn =>
    turn.exchanges.getLast?.map fun x => x.reply.outcome.toOption) =
    some (some (some ⟨201, [], Utf8.encode (Json.compactText (.map created))⟩)) := by
  decide +kernel

/-- Each case has its turn, and passes. -/
theorem exists_turn {i : Nat} {c : Case} (hc : suite.cases[i]? = some c) :
    ∃ turn, (suite.turns setting world)[i]? = some turn ∧ turn.case = c ∧
      turn.result.outcome = .passed := by
  obtain ⟨turn, hturn, hcase⟩ := Suite.turn_of_case (Suite.run_of_setup setup_eq_none) hc
  have hpassed : turn.result.outcome ∈
      (suite.turns setting world).map fun turn => turn.result.outcome :=
    List.mem_map_of_mem (List.mem_of_getElem? hturn)
  rw [outcomes_eq] at hpassed
  exact ⟨turn, hturn, hcase, by simpa using hpassed⟩

/-- The first case captures the identifier. -/
theorem binds_id {a : Turn Script} (ha : (suite.turns setting world)[0]? = some a) :
    a.Binds "id" (.int 9007199254740993) := by
  obtain ⟨turn, hturn, hcase, hpassed⟩ := exists_turn (i := 0) rfl
  obtain rfl := Option.some.inj (ha.symm.trans hturn)
  obtain ⟨response, fields, hlast, -, -⟩ := a.ends.passed_iff.1 hpassed
  have hresponse : response.body = Utf8.encode (Json.compactText (.map created)) := by
    obtain ⟨x, hx, -, houtcome⟩ := hlast
    have hreply := last_reply_eq
    rw [ha, Option.map_some, hx, Option.map_some, houtcome] at hreply
    have hsome : some response = _ := Option.some.inj (Option.some.inj hreply)
    rw [Option.some.inj hsome]
  refine ⟨hpassed, "order.id", response, .map created, ?_, hlast, ?_, rfl⟩
  · rw [hcase]
    exact List.mem_singleton_self _
  · rw [hresponse]
    exact decodeBody_created

/-- The second case does not capture it again. -/
theorem not_binds_id {k : Nat} {turn : Turn Script} (hfirst : 0 < k) (hlast : k < 2)
    (hturn : (suite.turns setting world)[k]? = some turn) (w : Value) : ¬turn.Binds "id" w := by
  rintro ⟨-, path, -, -, hsave, -⟩
  obtain rfl : k = 1 := by omega
  obtain ⟨other, hother, hcase, -⟩ := exists_turn (i := 1) rfl
  obtain rfl := Option.some.inj (hturn.symm.trans hother)
  rw [hcase] at hsave
  simp at hsave

/-- The body of the third case is portable once the identifier is stored. -/
theorem portable {scope : Scope}
    (hbound : Fields.get? scope.store "id" = some (.int 9007199254740993)) :
    scope.PortableBody [("orders", .list [.str "\x7b\x7bid\x7d\x7d"])] := by
  have hstored := Scope.storedValue?_slotOf plainName hbound
  have hfilled := Scope.filled_slotOf plainName hbound
  rw [slotOf_id] at hstored hfilled
  have hleaves : ∀ s, .str s ∈
      (Value.map [("orders", .list [.str "\x7b\x7bid\x7d\x7d"])]).leaves →
      s = "\x7b\x7bid\x7d\x7d" := by
    intro s hs
    simpa [Value.leaves, Value.leavesOfFields, Value.leavesOfItems] using hs
  constructor
  · intro x
    simp [Value.leaves, Value.leavesOfFields, Value.leavesOfItems]
  · intro s hs
    obtain rfl := hleaves s hs
    decide +kernel
  · intro s v hs hv
    obtain rfl := hleaves s hs
    obtain rfl := Option.some.inj (hstored.symm.trans hv)
    intro x
    simp [Value.leaves]
  · rw [Scope.resolveValue_eq_mapLeaves (by decide +kernel), Value.mapLeaves_map]
    simp [Value.mapLeaves, Value.mapLeavesOfItems, hfilled, Value.nesting, Value.nestingFields,
      Value.nestingItems]

end Shipment

/-! ## Later requests -/

namespace Suite

variable {suite : Suite} {setting : Setting σ} {world : World σ} {report : Report} {i j : Nat}
  {a b : Turn σ} {name : String} {v : Value}

/-- **Captured data reaches later requests with its type intact.** Where a case passes and saves a name
from a path of its response, each later request of the run has the value that stands there, as long as
no case in between binds the name again: in its body, wherever the template has the slot of the name,
the value is decoded as it was, and in its path, headers and query stands its text, which is plain
digits for an integer. -/
theorem captured_value_reaches_later_requests (hcanonical : suite.Canonical)
    (hsteady : suite.Steady) (hrun : (suite.run setting world).1 = .ok report)
    (ha : (suite.turns setting world)[i]? = some a) (hname : PlainName name)
    (hbinds : a.Binds name v) (hb : (suite.turns setting world)[j]? = some b) (hij : i < j)
    (hkept : ∀ k turn, i < k → k < j → (suite.turns setting world)[k]? = some turn →
      ∀ w, ¬turn.Binds name w)
    {time : Nat} {request : Request} (hsent : .request time request ∈ b.events) :
    report.results[i]? = some a.result ∧ .request time request ∈ report.events ∧
      b.case.request.Delivers suite.baseUrl b.scope name v request ∧
      (∀ n, v = .int n → v.text = toString n.toInt) ∧
      ∀ n, v = .uint n → v.text = toString n.toNat := by
  refine ⟨result_of_turn hrun ha, ?_, ?_, ?_, ?_⟩
  · obtain ⟨-, -, hevents⟩ := report_of_run hrun
    rw [hevents, List.mem_append, List.mem_append, List.mem_flatMap]
    exact .inl (.inr ⟨b, List.mem_of_getElem? hb, hsent⟩)
  · have hcase : b.case ∈ suite.cases := List.mem_of_getElem? (case_of_turn hb)
    have hbound := stored_until_bound hcanonical ha hbinds hb hij hkept
    rw [b.events_eq] at hsent
    obtain ⟨x, hx, hevent⟩ := List.mem_map.1 hsent
    cases hevent
    obtain ⟨supply, hrequest⟩ := Turn.request_of_mem_exchanges hx
    rw [(turn_eq hb).2.1] at hrequest
    rw [hrequest]
    apply RequestTemplate.delivers_build
    · exact fun fields hfields => (hsteady.requests _ hcase).body fields hfields
    · exact hcanonical.bodies _ hcase
    · exact canonical_of_turn hcanonical hb
    · exact hname
    · exact hbound
    · exact hbinds.normal
  · rintro n rfl
    exact Json.ofList_integer n.toInt
  · rintro n rfl
    exact Json.ofList_integer n.toNat

/-- The identifier of an order, which no float can hold, is sent on as a number in a body and as digits
in a path. -/
theorem order_id_sent_on :
    Shipment.suite.Canonical ∧ Shipment.suite.Steady ∧ PlainName "id" ∧
      ∃ report a b time request,
        (Shipment.suite.run Shipment.setting Shipment.world).1 = .ok report ∧
        (Shipment.suite.turns Shipment.setting Shipment.world)[0]? = some a ∧
        a.Binds "id" (.int 9007199254740993) ∧
        (Shipment.suite.turns Shipment.setting Shipment.world)[2]? = some b ∧
        .request time request ∈ b.events ∧
        request.url = "/orders/9007199254740993/ship" ∧
        ∃ text decoded, request.body = some text ∧ decodeBody (Utf8.encode text) = .ok decoded ∧
          decoded.at? [.entry "orders", .item 0] = some (.int 9007199254740993) := by
  have hcanonical := Shipment.canonical
  have hsteady : Shipment.suite.Steady := by decide +kernel
  have hname := Shipment.plainName
  have hrun := run_of_setup Shipment.setup_eq_none
  obtain ⟨a, ha, -, -⟩ := Shipment.exists_turn (i := 0) rfl
  obtain ⟨b, hb, hcase, hpassed⟩ := Shipment.exists_turn (i := 2) rfl
  have hbinds := Shipment.binds_id ha
  obtain ⟨time, request, hsent⟩ := Turn.exists_request_of_passed hpassed
  have hkept : ∀ k turn, 0 < k → k < 2 →
      (Shipment.suite.turns Shipment.setting Shipment.world)[k]? = some turn →
      ∀ w, ¬turn.Binds "id" w := fun k turn => Shipment.not_binds_id
  obtain ⟨-, -, hdelivers, -, -⟩ := captured_value_reaches_later_requests hcanonical hsteady hrun ha
    hname hbinds hb (by decide) hkept hsent
  refine ⟨hcanonical, hsteady, hname, _, a, b, time, request, hrun, ha, hbinds, hb, hsent, ?_, ?_⟩
  · have hpath : b.case.request.path = "/orders/" ++ slotOf "id" ++ "/ship" := by
      rw [hcase, Shipment.slotOf_id]
      rfl
    rw [hdelivers.path _ _ (by decide) (by decide) hpath]
    decide +kernel
  · have hbound := stored_until_bound hcanonical ha hbinds hb (by decide) hkept
    obtain ⟨text, decoded, htext, hdecoded, hplaces⟩ :=
      hdelivers.body _ (by rw [hcase]) (Shipment.portable hbound)
    refine ⟨text, decoded, htext, hdecoded, hplaces _ ?_⟩
    rw [Shipment.slotOf_id]
    rfl

end Suite

end ScenarioRunner

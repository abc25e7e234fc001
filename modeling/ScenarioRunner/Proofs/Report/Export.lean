import Mathlib.Data.List.Forall2
import ScenarioRunner.Proofs.Json.Pretty
import ScenarioRunner.Proofs.Json.Reading
import ScenarioRunner.Report.Export

/-!
# Exported results are read back

An exported list of results is JSON text from which every result can be told: its names, whether the
case has passed, its duration, its error and its response (`CaseResult.ShownBy`). The objects of a
result and of its response have their keys in the order of the export, so they are read with their
keys in order. Around the body of a response stand three containers. The text is read back exactly
when each body leaves room for them (`exported_results_read_back`); a body that a reader has just
accepted may not.
-/

set_option autoImplicit false

namespace ScenarioRunner

/-! ## What an object shows -/

/-- An object shows a response: its status, its body and its headers, and nothing else. -/
structure Snapshot.ShownBy (snapshot : Snapshot) (fields : Fields Value) : Prop where
  status : fields.get? "status_code" = Value.ofInteger? snapshot.status
  body : fields.get? "body" = some snapshot.body
  headers : fields.get? "headers" =
    some (.map (snapshot.headers.map fun entry => (entry.1, .list (entry.2.map .str))))
  keys : ∀ entry ∈ fields, entry.1 ∈ ["status_code", "body", "headers"]

/-- An object shows a result: its names, whether it has passed, its duration, which is cut at the
greatest integer of 64 bits, its error and its response if there are any, and nothing else. -/
structure CaseResult.ShownBy (result : CaseResult) (fields : Fields Value) : Prop where
  scenario : fields.get? "scenario" = some (.str result.scenario)
  name : fields.get? "name" = some (.str result.name)
  passed : fields.get? "passed" = some (.bool result.passed)
  duration : fields.get? "duration" =
    Value.ofInteger? (min result.duration (Value.unsignedBound - 1) : Nat)
  error : fields.get? "error" = result.error?.map .str
  response : match result.response with
    | none => fields.get? "response" = none
    | some snapshot => ∃ part, fields.get? "response" = some (.map part) ∧ snapshot.ShownBy part
  keys : ∀ entry ∈ fields,
    entry.1 ∈ ["scenario", "name", "passed", "duration", "error", "response"]

/-- A response of which JSON text keeps everything: the status has 16 bits, each header stands once
and in order, and the body is a portable value. -/
structure Snapshot.Lossless (snapshot : Snapshot) : Prop where
  status : snapshot.status < 0x10000
  headers : snapshot.headers.Ordered
  portable : snapshot.body.Portable
  canonical : snapshot.body.Canonical

/-! ## Integers -/

namespace Value

theorem narrowLeaf_ofNat (n : Nat) : (ofNat n).NarrowLeaf := narrowLeaf_ofUInt64 _

/-- A natural number is exported as the integer that it is, or as the greatest one. -/
theorem ofInteger?_min (n : Nat) :
    ofInteger? (min n (unsignedBound - 1) : Nat) = some (ofNat n) := by
  have hlt : min n (unsignedBound - 1) < unsignedBound := by unfold unsignedBound; omega
  unfold ofNat ofUInt64 ofInteger?
  rw [UInt64.toNat_ofNat_of_lt' hlt]
  generalize min n (unsignedBound - 1) = m at hlt
  by_cases hm : m < signedBound
  · rw [if_pos (by unfold signedBound at *; omega), if_pos hm]
    rfl
  · rw [if_neg (by unfold signedBound at *; omega), if_pos (by omega), if_neg hm, Int.toNat_natCast]

theorem portable_ofNat (n : Nat) : (ofNat n).Portable := by
  unfold ofNat ofUInt64
  split
  · trivial
  · next hbound => exact Nat.not_lt.1 hbound

end Value

/-! ## Responses -/

namespace Snapshot

/-- The headers as they are exported. -/
def headersValue (snapshot : Snapshot) : Value :=
  .map (snapshot.headers.map fun entry => (entry.1, .list (entry.2.map .str)))

/-- The object that is read back from an exported response. -/
def object (snapshot : Snapshot) : Fields Value :=
  Fields.ofList [("status_code", .ofNat snapshot.status), ("body", snapshot.body),
    ("headers", snapshot.headersValue)]

variable {snapshot : Snapshot}

theorem portable_headersValue (snapshot : Snapshot) : snapshot.headersValue.Portable := by
  refine Value.portable_map_iff.2 (List.forall_mem_map.2 fun entry _ => ?_)
  exact Value.portable_list_iff.2 (List.forall_mem_map.2 fun _ _ => trivial)

theorem canonical_headersValue (h : snapshot.headers.Ordered) :
    snapshot.headersValue.Canonical := by
  refine Value.canonical_map_iff.2 ⟨List.pairwise_map.2 h, List.forall_mem_map.2 fun entry _ => ?_⟩
  exact Value.canonical_list_iff.2 (List.forall_mem_map.2 fun _ _ => trivial)

/-- Around the texts of the headers stand two containers. -/
theorem nesting_headersValue_le (snapshot : Snapshot) : snapshot.headersValue.nesting ≤ 2 := by
  refine Value.nesting_map_le_iff.2 (List.forall_mem_map.2 fun entry _ => ?_)
  exact Value.nesting_list_le_iff.2 (List.forall_mem_map.2 fun _ _ => Nat.le_refl 0)

theorem portable_exported (h : snapshot.Lossless) : snapshot.exported.Portable := by
  refine Value.portable_map_iff.2 ?_
  simp only [List.forall_mem_cons]
  exact ⟨Value.portable_ofNat _, h.portable, snapshot.portable_headersValue, by simp⟩

theorem nesting_exported_le (h : snapshot.body.nesting + 3 ≤ Json.nestingLimit) :
    snapshot.exported.nesting ≤ Json.nestingLimit - 2 := by
  have hheaders := snapshot.nesting_headersValue_le
  have hstatus := (Value.narrowLeaf_ofNat snapshot.status).isLeaf.nesting_eq
  refine Value.nesting_map_le_iff.2 ?_
  simp only [List.forall_mem_cons]
  refine ⟨by rw [hstatus]; exact Nat.zero_le _, ?_, Nat.le_trans hheaders (by decide), by simp⟩
  exact Nat.le_of_add_le_add_right h

theorem arranged_exported (h : snapshot.Lossless) :
    snapshot.exported.arranged = .map snapshot.object := by
  have hstatus := (Value.narrowLeaf_ofNat snapshot.status).isLeaf.arranged_eq
  have hbody := Value.arranged_of_canonical h.canonical
  have hheaders := Value.arranged_of_canonical (canonical_headersValue h.headers)
  rw [exported, Value.arranged_map]
  simp only [List.map_cons, List.map_nil, hstatus, hbody]
  change Value.map (Fields.ofList [_, _, ("headers", snapshot.headersValue.arranged)]) = _
  rw [hheaders]
  rfl

theorem shownBy_object (h : snapshot.Lossless) : snapshot.ShownBy snapshot.object := by
  have hstatus := Value.ofInteger?_min snapshot.status
  rw [Nat.min_eq_left (Nat.le_of_lt (Nat.lt_trans h.status (by decide)))] at hstatus
  refine ⟨?_, ?_, ?_, fun entry hentry => ?_⟩
  · rw [hstatus, object, Fields.get?_ofList]
    rfl
  · rw [object, Fields.get?_ofList]
    rfl
  · rw [object, Fields.get?_ofList]
    rfl
  · rcases Fields.mem_insertAll hentry with hmem | hmem
    · exact List.mem_map_of_mem hmem
    · cases hmem

end Snapshot

/-! ## Results -/

namespace CaseResult

/-- The entries of a result, given what stands for a response. -/
def entries (result : CaseResult) (shown : Snapshot → Value) : List (String × Value) :=
  [("scenario", .str result.scenario), ("name", .str result.name),
      ("passed", .bool result.passed), ("duration", .ofNat result.duration)]
    ++ result.error?.toList.map (fun message => ("error", .str message))
    ++ result.response.toList.map fun snapshot => ("response", shown snapshot)

/-- The object that is read back from an exported result. -/
def object (result : CaseResult) : Fields Value :=
  Fields.ofList (result.entries fun snapshot => .map snapshot.object)

variable {result : CaseResult}

/-- What holds of all leaves and of what stands for the response holds of the values of all
entries. -/
theorem forall_mem_entries {p : Value → Prop} {shown : Snapshot → Value}
    (hstr : ∀ s, p (.str s)) (hbool : ∀ b, p (.bool b)) (hnat : ∀ n, p (.ofNat n))
    (hresponse : ∀ snapshot ∈ result.response, p (shown snapshot)) :
    ∀ entry ∈ result.entries shown, p entry.2 := by
  intro entry hentry
  simp only [entries, List.mem_append, List.mem_cons, List.mem_map, List.not_mem_nil,
    or_false] at hentry
  rcases hentry with ((rfl | rfl | rfl | rfl) | ⟨message, -, rfl⟩) | ⟨snapshot, hmem, rfl⟩
  · exact hstr _
  · exact hstr _
  · exact hbool _
  · exact hnat _
  · exact hstr _
  · exact hresponse snapshot (Option.mem_toList.1 hmem)

theorem keys_of_mem_entries {shown : Snapshot → Value} {entry : String × Value}
    (h : entry ∈ result.entries shown) :
    entry.1 ∈ ["scenario", "name", "passed", "duration", "error", "response"] := by
  simp only [entries, List.mem_append, List.mem_cons, List.mem_map, List.not_mem_nil,
    or_false] at h
  rcases h with ((rfl | rfl | rfl | rfl) | ⟨message, -, rfl⟩) | ⟨snapshot, -, rfl⟩ <;> simp

theorem portable_exported (h : ∀ snapshot ∈ result.response, snapshot.Lossless) :
    result.exported.Portable :=
  Value.portable_map_iff.2 <| forall_mem_entries (fun _ => trivial) (fun _ => trivial)
    Value.portable_ofNat fun snapshot hmem => Snapshot.portable_exported (h snapshot hmem)

theorem nesting_exported_le
    (h : ∀ snapshot ∈ result.response, snapshot.body.nesting + 3 ≤ Json.nestingLimit) :
    result.exported.nesting ≤ Json.nestingLimit - 1 := by
  have hleaf : ∀ v : Value, v.IsLeaf → v.nesting ≤ Json.nestingLimit - 2 := by
    intro v hv
    rw [hv.nesting_eq]
    exact Nat.zero_le _
  exact Value.nesting_map_le_iff.2 <| forall_mem_entries (p := (·.nesting ≤ Json.nestingLimit - 2))
    (fun _ => hleaf _ trivial) (fun _ => hleaf _ trivial)
    (fun n => hleaf _ (Value.narrowLeaf_ofNat n).isLeaf)
    fun snapshot hmem => Snapshot.nesting_exported_le (h snapshot hmem)

theorem arranged_exported (h : ∀ snapshot ∈ result.response, snapshot.Lossless) :
    result.exported.arranged = .map result.object := by
  have hduration := (Value.narrowLeaf_ofNat result.duration).isLeaf.arranged_eq
  have hentries : (result.entries Snapshot.exported).map
      (fun entry => (entry.1, entry.2.arranged)) =
      result.entries fun snapshot => .map snapshot.object := by
    unfold entries
    rcases hresponse : result.response with _ | snapshot
    · cases result.error? <;> simp [hduration, Value.arranged]
    · have hsnapshot := Snapshot.arranged_exported (h snapshot hresponse)
      cases result.error? <;> simp [hduration, hsnapshot, Value.arranged]
  change (Value.map (result.entries Snapshot.exported)).arranged = _
  rw [Value.arranged_map, hentries, object]

/-- The error and the response are found under their names if they are there. -/
theorem get?_object (result : CaseResult) (name : String) :
    result.object.get? name =
      if name = "response" then result.response.map fun snapshot => .map snapshot.object
      else if name = "error" then result.error?.map .str
      else Fields.get? [("duration", .ofNat result.duration), ("passed", .bool result.passed),
        ("name", .str result.name), ("scenario", .str result.scenario)] name := by
  -- the last entry of a name counts, and the entries that may be missing stand last
  rw [object, Fields.get?_ofList, entries]
  simp only [List.reverse_append, List.lookup_append]
  by_cases hresponse : name = "response"
  · subst hresponse
    rw [if_pos rfl]
    cases result.response <;> cases result.error? <;> rfl
  · rw [if_neg hresponse]
    by_cases herror : name = "error"
    · subst herror
      rw [if_pos rfl]
      cases result.response <;> cases result.error? <;> rfl
    · rw [if_neg herror]
      cases result.response <;> cases result.error? <;>
        simp [Fields.lookup_cons_eq_ite, hresponse, herror, Fields.get?]

theorem shownBy_object (h : ∀ snapshot ∈ result.response, snapshot.Lossless) :
    result.ShownBy result.object where
  scenario := result.get?_object _
  name := result.get?_object _
  passed := result.get?_object _
  duration := by
    rw [get?_object, Value.ofInteger?_min]
    rfl
  error := result.get?_object _
  response := by
    have hget := result.get?_object "response"
    rcases hresponse : result.response with _ | snapshot
    · rw [hresponse] at hget
      exact hget
    · rw [hresponse] at hget
      exact ⟨_, hget, Snapshot.shownBy_object (h snapshot hresponse)⟩
  keys entry hentry :=
    keys_of_mem_entries ((Fields.mem_insertAll hentry).resolve_right List.not_mem_nil)

end CaseResult

/-! ## Exports -/

/-- The text of exported results is read as a list with one object for each result, which shows
it. -/
def ReadsBack (results : List CaseResult) : Prop :=
  ∃ objects : List (Fields Value),
    Json.read (Utf8.encode (exportText results)) = .ok (.list (objects.map .map)) ∧
      List.Forall₂ CaseResult.ShownBy results objects

/-- Each of some results that are read back is shown by one of the objects. -/
theorem exists_shown {results : List CaseResult} {objects : List (Fields Value)}
    (h : List.Forall₂ CaseResult.ShownBy results objects) {result : CaseResult}
    (hresult : result ∈ results) : ∃ fields ∈ objects, result.ShownBy fields := by
  induction h with
  | nil => cases hresult
  | @cons first fields _ _ hfirst _ ih =>
      rcases List.mem_cons.1 hresult with rfl | hmem
      · exact ⟨fields, List.mem_cons_self, hfirst⟩
      · obtain ⟨fields, hfields, hshown⟩ := ih hmem
        exact ⟨fields, List.mem_cons_of_mem _ hfields, hshown⟩

/-- Around the body of a response that is read back three more containers have been read. -/
theorem nesting_body_le {results : List CaseResult} (h : ReadsBack results) {result : CaseResult}
    (hresult : result ∈ results) {snapshot : Snapshot}
    (hsnapshot : result.response = some snapshot) :
    snapshot.body.nesting + 3 ≤ Json.nestingLimit := by
  obtain ⟨objects, hread, hshown⟩ := h
  obtain ⟨fields, hfields, hobject⟩ := exists_shown hshown hresult
  have hresponse := hobject.response
  rw [hsnapshot] at hresponse
  obtain ⟨part, hpart, hsnapshot⟩ := hresponse
  -- from the list to the object of the result, to that of the response, and to the body
  have hlist : (Value.list (objects.map .map)).nesting ≤ 126 + 1 := Json.nesting_le_of_read hread
  have hmap := Value.nesting_list_le_iff.1 hlist _ (List.mem_map_of_mem hfields)
  have hinner := Value.nesting_map_le_iff.1 hmap _ (Fields.mem_of_get? hpart)
  have hbody := Value.nesting_map_le_iff.1 hinner _ (Fields.mem_of_get? hsnapshot.body)
  exact Nat.add_le_add_right hbody 3

/-- **Exported results are read back.** The text of results whose responses lose nothing in JSON is
read as a list with one object for each result, in their order. Each object shows the names of its
result with all their characters, whether the case has passed, its duration in milliseconds, exactly
the error that is recorded and exactly the response that is, and nothing else. This is so if and
only if the reader can go three containers deeper than each body nests. -/
theorem exported_results_read_back {results : List CaseResult}
    (hlossless : ∀ result ∈ results, ∀ snapshot ∈ result.response, snapshot.Lossless) :
    ReadsBack results ↔ ∀ result ∈ results, ∀ snapshot ∈ result.response,
      snapshot.body.nesting + 3 ≤ Json.nestingLimit := by
  refine ⟨fun h result hresult snapshot => nesting_body_le h hresult, fun hnesting => ?_⟩
  have hportable : (Value.list (results.map CaseResult.exported)).Portable :=
    Value.portable_list_iff.2 (List.forall_mem_map.2 fun result hresult =>
      CaseResult.portable_exported (hlossless result hresult))
  have hdepth : (Value.list (results.map CaseResult.exported)).nesting ≤ Json.nestingLimit :=
    Value.nesting_list_le_iff.2 (List.forall_mem_map.2 fun result hresult =>
      CaseResult.nesting_exported_le (hnesting result hresult))
  have harranged : (results.map CaseResult.exported).map Value.arranged =
      (results.map CaseResult.object).map .map := by
    rw [List.map_map, List.map_map]
    exact List.map_congr_left fun result hresult =>
      CaseResult.arranged_exported (hlossless result hresult)
  refine ⟨results.map CaseResult.object, ?_, List.forall₂_map_right_iff.2 (List.forall₂_same.2
    fun result hresult => CaseResult.shownBy_object (hlossless result hresult))⟩
  rw [exportText, Json.read_prettyText hportable hdepth, Value.arranged_list, harranged]

/-! ## Results of three cases, and a body that is too deep -/

/-- A case that has passed, one that has failed after more time than 64 bits can hold, and one that
was skipped. -/
def threeResults : List CaseResult :=
  [.pass "orders" "create \"é\"" 120 (some ⟨201, [("a", ["1", "2"]), ("b", [])],
      .map [("id", .uint 18446744073709551615), ("lines", .list [.int (-1), .null])]⟩),
    .fail "orders" "read" 18446744073709551616 (.decode "1\n\t\\😀")
      (some ⟨500, [], .str "<html>\u0001"⟩),
    .skip "orders" "list" (.dependency "read" "did not pass")]

theorem threeResults_read_back :
    (∀ result ∈ threeResults, ∀ snapshot ∈ result.response, snapshot.Lossless) ∧
      (∀ result ∈ threeResults, ∀ snapshot ∈ result.response,
        snapshot.body.nesting + 3 ≤ Json.nestingLimit) ∧
      ReadsBack threeResults := by
  have hlossless : ∀ result ∈ threeResults, ∀ snapshot ∈ result.response, snapshot.Lossless := by
    simp only [threeResults, CaseResult.pass, CaseResult.fail, CaseResult.skip,
      List.forall_mem_cons, Option.mem_def, Option.some.injEq, forall_eq', reduceCtorEq,
      false_implies, implies_true, List.not_mem_nil, and_true]
    constructor
    · constructor <;>
        simp only [Fields.Ordered, Value.Portable, Value.PortableItems, Value.PortableFields,
          Value.Canonical, Value.CanonicalItems, Value.CanonicalFields] <;>
        decide
    · constructor <;> simp only [Fields.Ordered, Value.Portable, Value.Canonical] <;> decide
  have hnesting : ∀ result ∈ threeResults, ∀ snapshot ∈ result.response,
      snapshot.body.nesting + 3 ≤ Json.nestingLimit := by
    simp only [threeResults, CaseResult.pass, CaseResult.fail, CaseResult.skip,
      List.forall_mem_cons, Option.mem_def, Option.some.injEq, forall_eq', reduceCtorEq,
      false_implies, implies_true, List.not_mem_nil, and_true]
    decide
  exact ⟨hlossless, hnesting, (exported_results_read_back hlossless).2 hnesting⟩

/-- A text in lists, each but one inside another. -/
def nestedText : Nat → Value
  | 0 => .str "a"
  | n + 1 => .list [nestedText n]

theorem nestedText_facts (n : Nat) :
    (nestedText n).Portable ∧ (nestedText n).Canonical ∧ (nestedText n).nesting = n := by
  induction n with
  | zero => exact ⟨trivial, trivial, rfl⟩
  | succ n ih =>
      obtain ⟨hportable, hcanonical, hnesting⟩ := ih
      refine ⟨⟨hportable, trivial⟩, ⟨hcanonical, trivial⟩, ?_⟩
      rw [nestedText, Value.nesting, Value.nestingItems, hnesting, Value.nestingItems, Nat.max_zero]

/-- An object in which containers nest 125 deep. -/
def deepFields : Fields Value := [("a", nestedText 124)]

/-- A case that has passed with such a body. -/
def deepResults : List CaseResult :=
  [.pass "orders" "create" 5 (some ⟨200, [], .map deepFields⟩)]

/-- A response with such a body is decoded, and nothing in it is lost in JSON, but around it there
is no room for three more containers. -/
theorem deepResults_not_read_back :
    decodeBody (Utf8.encode (Json.compactText (.map deepFields))) = .ok (.map deepFields) ∧
      (∀ result ∈ deepResults, ∀ snapshot ∈ result.response,
        snapshot.Lossless ∧ snapshot.body.nesting < Json.nestingLimit) ∧
      ¬ ReadsBack deepResults := by
  obtain ⟨hportable, hcanonical, hnested⟩ := nestedText_facts 124
  have hnesting : (Value.map deepFields).nesting = 125 := by
    rw [deepFields, Value.nesting, Value.nestingFields, hnested]
    rfl
  have hlossless : Snapshot.Lossless ⟨200, [], .map deepFields⟩ :=
    ⟨by decide, .nil, ⟨hportable, trivial⟩, ⟨List.pairwise_singleton _ _, hcanonical, trivial⟩⟩
  refine ⟨decodeBody_of_read (Json.encode_compactText_map _)
    (Json.read_compactText hlossless.portable hlossless.canonical ?_), ?_, fun hread => ?_⟩
  · rw [hnesting]
    decide
  · simp only [deepResults, CaseResult.pass, List.forall_mem_singleton, Option.mem_def,
      Option.some.injEq, forall_eq']
    refine ⟨hlossless, ?_⟩
    rw [hnesting]
    decide
  · have hroom := nesting_body_le hread List.mem_cons_self rfl
    rw [hnesting] at hroom
    revert hroom
    decide

end ScenarioRunner

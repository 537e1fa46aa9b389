import AgentDelegation.Proofs.Transport.Answers
import AgentDelegation.Proofs.Transport.Encoding
import AgentDelegation.Proofs.Transport.Envelope

/-!
# Reports of an error

A peer reports an error by a payload that is an object with a member `error`. The report is heard exactly if
the whole object is taken for a response (`Envelope`): then the stream has an item for it and a delegation
that still waits ends with it. Otherwise the payload is passed over like one that is not JSON, although it
is an object and says that something went wrong (`decodeRpc_numberedRefusal`).
-/

namespace AgentDelegation

open Json

namespace Payload

open Rpc Settlement

variable {text : String} {members : List (String × Source)} {response : RpcResponse} {error : RpcError}

/-- The members of an object that is taken for a response with an error. -/
def Reports (members : List (String × Source)) (error : RpcError) : Prop :=
  ∃ response, Envelope members response ∧ response.error = some error

theorem decodeRpc_of_reports (h : (Document.ofText text).IsObject members) (hreports : Reports members error) :
    decodeRpc text = .error (.rpc error.code error.message) := by
  obtain ⟨response, henvelope, herror⟩ := hreports
  exact decodeRpc_of_error h henvelope herror

/-- A response with a member `error` that is not null is a response with an error. -/
theorem reports_of_envelope {v : Source} (hmember : ("error", v) ∈ members) (hv : v ≠ .null)
    (henvelope : Envelope members response) : ∃ error, Reports members error := by
  have hvalue : v ∈ valuesOf "error" members := mem_valuesOf_iff.mpr hmember
  have hsays := henvelope.error
  generalize hsaid : response.error = said at hsays
  cases hsays with
  | absent hnone =>
      rw [hnone] at hvalue
      cases hvalue
  | member hsole hreads =>
      rw [hsole, List.mem_singleton] at hvalue
      cases hreads with
      | null => exact absurd hvalue hv
      | given => exact ⟨_, response, henvelope, hsaid⟩

theorem error_eq_none_of_envelope (hnull : ∀ v, ("error", v) ∈ members → v = .null)
    (henvelope : Envelope members response) : response.error = none := by
  have hsays := henvelope.error
  generalize response.error = said at hsays
  cases hsays with
  | absent _ hdefault => exact (Option.some.inj hdefault).symm
  | @member n _ hsole hreads =>
      have hvalue : n ∈ valuesOf "error" members := by
        rw [hsole]
        exact List.mem_singleton_self n
      cases hreads with
      | null => rfl
      | given hn => exact absurd (hnull n (mem_valuesOf_iff.mp hvalue)) hn

theorem decodeResult_eq_none_iff {v : Value} : decodeResult v = .ok none ↔ StreamResult.classify v = none := by
  rw [decodeResult, StreamResult.ofValue]
  cases hclassify : StreamResult.classify v with
  | none => simp
  | some found =>
      obtain ⟨kind, inner⟩ := found
      cases hread : StreamResult.readAs kind inner <;> simp [hread, Except.map]

theorem decodeRpc_eq_none_iff_of_envelope (h : (Document.ofText text).IsObject members)
    (henvelope : Envelope members response) (herror : response.error = none) :
    decodeRpc text = .ok none ↔ ∀ v, response.result = some v → StreamResult.classify v = none := by
  rw [decodeRpc_of_no_error h henvelope herror]
  cases response.result with
  | none => simp
  | some v => simp [decodeResult_eq_none_iff]

/-! ### Heard or passed over -/

theorem envelope_or_not (members : List (String × Source)) :
    (∃ response, Envelope members response) ∨ ∀ response, ¬ Envelope members response := by
  rw [← not_exists]
  exact Classical.em _

theorem decodeRpc_eq_error_iff (hobject : (Document.ofText text).IsObject members) {v : Source}
    (hmember : ("error", v) ∈ members) (hv : v ≠ .null) (failure : TransportFailure) :
    decodeRpc text = .error failure
      ↔ ∃ error, Reports members error ∧ failure = .rpc error.code error.message := by
  constructor
  · intro hfailure
    rcases envelope_or_not members with ⟨response, henvelope⟩ | hnone
    · obtain ⟨error, hreports⟩ := reports_of_envelope hmember hv henvelope
      rw [decodeRpc_of_reports hobject hreports] at hfailure
      exact ⟨error, hreports, (Except.error.inj hfailure).symm⟩
    · rw [decodeRpc_of_not_envelope hobject hnone] at hfailure
      cases hfailure
  · rintro ⟨error, hreports, rfl⟩
    exact decodeRpc_of_reports hobject hreports

theorem decodeRpc_eq_none_iff_of_error (hobject : (Document.ofText text).IsObject members) {v : Source}
    (hmember : ("error", v) ∈ members) (hv : v ≠ .null) :
    decodeRpc text = .ok none ↔ ∀ response, ¬ Envelope members response := by
  constructor
  · intro hskipped response henvelope
    obtain ⟨error, hreports⟩ := reports_of_envelope hmember hv henvelope
    rw [decodeRpc_of_reports hobject hreports] at hskipped
    cases hskipped
  · exact decodeRpc_of_not_envelope hobject

theorem decodeRpc_eq_none_iff_of_no_error (hobject : (Document.ofText text).IsObject members)
    (hnull : ∀ v, ("error", v) ∈ members → v = .null) :
    decodeRpc text = .ok none ↔ (∀ response, ¬ Envelope members response) ∨
      ∃ response, Envelope members response ∧ ∀ v, response.result = some v → StreamResult.classify v = none := by
  constructor
  · intro hskipped
    rcases envelope_or_not members with ⟨response, henvelope⟩ | hnone
    · have herror := error_eq_none_of_envelope hnull henvelope
      exact .inr ⟨response, henvelope, (decodeRpc_eq_none_iff_of_envelope hobject henvelope herror).mp hskipped⟩
    · exact .inl hnone
  · rintro (hnone | ⟨response, henvelope, hresult⟩)
    · exact decodeRpc_of_not_envelope hobject hnone
    · have herror := error_eq_none_of_envelope hnull henvelope
      exact (decodeRpc_eq_none_iff_of_envelope hobject henvelope herror).mpr hresult

theorem items_of_reports (hobject : (Document.ofText text).IsObject members) (hreports : Reports members error)
    (tracker : Tracker) (before after : List (Except TransportFailure String)) :
    items decodeRpc tracker (before ++ .ok text :: after)
      = items decodeRpc tracker before
        ++ .error (.rpc error.code error.message)
          :: items decodeRpc (trackerAfter decodeRpc tracker before) after := by
  rw [items_append, items_cons_of_error (decodeRpc_of_reports hobject hreports)]

theorem items_of_not_envelope (hobject : (Document.ofText text).IsObject members)
    (hnone : ∀ response, ¬ Envelope members response) (tracker : Tracker)
    (before after : List (Except TransportFailure String)) :
    items decodeRpc tracker (before ++ .ok text :: after) = items decodeRpc tracker (before ++ after) := by
  rw [items_append, items_cons_of_none (decodeRpc_of_not_envelope hobject hnone), ← items_append]

/-- A report of an error is heard if and only if the object that holds it is taken for a response. Then
every stream has an item for it at its place, and a delegation that nothing before decides ends with it;
otherwise it is passed over. An object without a report is passed over if it is not taken for a response or
has no result of a known sort. -/
theorem error_report_heard_iff (text : String) (members : List (String × Source))
    (hobject : (Document.ofText text).IsObject members) :
    (∀ v, ("error", v) ∈ members → v ≠ .null →
      (∀ failure, decodeRpc text = .error failure
        ↔ ∃ error, Reports members error ∧ failure = .rpc error.code error.message) ∧
      (decodeRpc text = .ok none ↔ ∀ response, ¬ Envelope members response)) ∧
    (∀ error, Reports members error →
      (∀ tracker before after, items decodeRpc tracker (before ++ .ok text :: after)
        = items decodeRpc tracker before
          ++ .error (.rpc error.code error.message)
            :: items decodeRpc (trackerAfter decodeRpc tracker before) after) ∧
      ∀ (delegator : Delegator) (id agent task : String) (response : Http.Response)
        (before after : List (Except TransportFailure String)),
        delegator.Answered id agent task decodeRpc response → response.isSuccess = true →
        EventStream.payloads response = before ++ .ok text :: after → 0 < delegator.timeout.totalNanos →
        (∀ outcome, ¬ FirstDecision agent ((items decodeRpc .empty before).map Move.ofItem) outcome) →
        (delegator.delegate id agent task).outcome
          = .error (.transport agent (.rpc error.code error.message))) ∧
    ((∀ response, ¬ Envelope members response) → ∀ tracker before after,
      items decodeRpc tracker (before ++ .ok text :: after) = items decodeRpc tracker (before ++ after)) ∧
    ((∀ v, ("error", v) ∈ members → v = .null) →
      (decodeRpc text = .ok none ↔ (∀ response, ¬ Envelope members response) ∨
        ∃ response, Envelope members response ∧
          ∀ v, response.result = some v → StreamResult.classify v = none)) := by
  refine ⟨fun v hmember hv => ⟨?_, ?_⟩, fun error hreports => ⟨items_of_reports hobject hreports, ?_⟩,
    items_of_not_envelope hobject, decodeRpc_eq_none_iff_of_no_error hobject⟩
  · exact decodeRpc_eq_error_iff hobject hmember hv
  · exact decodeRpc_eq_none_iff_of_error hobject hmember hv
  · intro delegator id agent task response before after hanswered hsuccess hpayloads htimeout hopen
    have hitems := items_of_reports hobject hreports .empty before after
    rw [← hpayloads] at hitems
    exact Delegator.outcome_of_items_eq hanswered hsuccess htimeout hitems hopen

/-- A report of an error. -/
def refusal : String :=
  "\x7b\"jsonrpc\":\"2.0\",\"id\":\"1\",\"error\":\x7b\"code\":-32601,\"message\":\"Method not found\"\x7d\x7d"

def refusalMembers : List (String × Source) :=
  [("jsonrpc", .str "2.0"), ("id", .str "1"),
    ("error", .obj [("code", .num (.int (-32601))), ("message", .str "Method not found")] none)]

theorem isObject_refusal : (Document.ofText refusal).IsObject refusalMembers := by
  have hscan : Token.scan refusal.toList
      = [.openObject, .str "jsonrpc", .colon, .str "2.0", .comma, .str "id", .colon, .str "1", .comma,
        .str "error", .colon, .openObject, .str "code", .colon, .num (.int (-32601)), .comma, .str "message",
        .colon, .str "Method not found", .closeObject, .closeObject] := by
    decide +kernel
  rw [Document.ofText_of_scan hscan rfl]
  exact ⟨rfl, rfl, rfl⟩

theorem reports_refusal : Reports refusalMembers ⟨-32601, "Method not found", none⟩ := by
  refine ⟨⟨"2.0", none, some ⟨-32601, "Method not found", none⟩, some (.str "1")⟩, ⟨?_, ?_, ?_, ?_, ?_⟩, rfl⟩
  · exact .member rfl rfl
  · exact .absent rfl rfl
  · refine .member rfl (.given (by simp) (.object ?_ ?_ ?_ (by simp)))
    · exact .member rfl ⟨rfl, by decide⟩
    · exact .member rfl rfl
    · exact .absent rfl rfl
  · exact .member rfl (.given (by simp) ⟨_, rfl, rfl⟩)
  · simp [refusalMembers]

open EventStream in
theorem error_report_heard_refusal :
    (Document.ofText refusal).IsObject refusalMembers ∧ Reports refusalMembers ⟨-32601, "Method not found", none⟩ ∧
    decodeRpc refusal = .error (.rpc (-32601) "Method not found") ∧
    ((Delegator.responding .jsonRpc (lineStream [refusal])).delegate "m" "orders" "ship").outcome
      = .error (.transport "orders" (.rpc (-32601) "Method not found")) := by
  obtain ⟨hheard, hitems, -, -⟩ := error_report_heard_iff refusal refusalMembers isObject_refusal
  have hmember : ("error", .obj [("code", .num (.int (-32601))), ("message", .str "Method not found")] none)
      ∈ refusalMembers := by simp [refusalMembers]
  have hpayloads : payloads (lineStream [refusal]) = [] ++ .ok refusal :: [] :=
    payloads_lineStream (by decide +kernel) (by decide +kernel) (by decide +kernel)
  have hopen : ∀ outcome, ¬ FirstDecision "orders" [] outcome := by
    intro outcome hfirst
    rw [← outcome?_run_start_iff] at hfirst
    cases hfirst
  refine ⟨isObject_refusal, reports_refusal, ?_, ?_⟩
  · exact ((hheard _ hmember (by simp)).1 _).mpr ⟨_, reports_refusal, rfl⟩
  · exact (hitems _ reports_refusal).2 _ _ _ _ _ _ _ (Delegator.answered_responding_rpc _ _ _) (by decide) hpayloads
      (by decide) hopen

/-- The same report, but with the version of the protocol as a number. -/
def numberedRefusal : String :=
  "\x7b\"jsonrpc\":2.0,\"id\":\"1\",\"error\":\x7b\"code\":-32601,\"message\":\"Method not found\"\x7d\x7d"

def numberedMembers : List (String × Source) :=
  [("jsonrpc", .num (.float (Decimal.Double.ofNat 2))), ("id", .str "1"),
    ("error", .obj [("code", .num (.int (-32601))), ("message", .str "Method not found")] none)]

open EventStream in
/-- It is passed over, and the delegation waits until its time is up. -/
theorem decodeRpc_numberedRefusal :
    (Document.ofText numberedRefusal).IsObject numberedMembers ∧
    (∃ v, ("error", v) ∈ numberedMembers ∧ v ≠ .null) ∧
    decodeRpc numberedRefusal = .ok none ∧
    ((Delegator.responding .jsonRpc (lineStream [numberedRefusal])).delegate "m" "orders" "ship").outcome
      = .error (.timedOut "orders" (.ofSeconds 60)) := by
  have hscan : Token.scan numberedRefusal.toList
      = [.openObject, .str "jsonrpc", .colon, .num (.float (Decimal.Double.ofNat 2)), .comma, .str "id", .colon,
        .str "1", .comma, .str "error", .colon, .openObject, .str "code", .colon, .num (.int (-32601)), .comma,
        .str "message", .colon, .str "Method not found", .closeObject, .closeObject] := by
    decide +kernel
  have hobject : (Document.ofText numberedRefusal).IsObject numberedMembers := by
    rw [Document.ofText_of_scan hscan rfl]
    exact ⟨rfl, rfl, rfl⟩
  have hskipped : decodeRpc numberedRefusal = .ok none := by
    refine decodeRpc_of_not_envelope hobject fun response henvelope => ?_
    cases henvelope.jsonrpc with
    | absent hnone => cases hnone
    | member hsole htext =>
        obtain rfl := (List.cons.inj hsole).1
        cases htext
  have hpayloads : payloads (lineStream [numberedRefusal]) = [.ok numberedRefusal] :=
    payloads_lineStream (by decide +kernel) (by decide +kernel) (by decide +kernel)
  refine ⟨hobject, ⟨_, .tail _ (.tail _ (.head _)), by simp⟩, hskipped, ?_⟩
  rw [Delegator.outcome_of_answered (Delegator.answered_responding_rpc _ _ _) (by decide) (by decide), hpayloads,
    items_cons_of_none hskipped]
  rfl

end Payload

end AgentDelegation

import AgentDelegation.Proofs.Transport.Answers
import AgentDelegation.Proofs.Transport.Encoding
import AgentDelegation.Proofs.Transport.Envelope

/-!
# The same results over either binding

Over HTTP+JSON a payload is a result, over JSON-RPC it is an object with the result among its members. One
is read as a free-form value and the other as a response, with a type for each member, and a null there
counts as no member at all. Still, a payload that carries a value (`Carries`) comes to the same over either
binding, whether or not the value is a result of a known sort, so streams of such payloads have the same
items and delegations over them the same outcome.
-/

namespace AgentDelegation

open Json

/-- The names at the top of a text that is an object, in document order. -/
def Json.Document.memberNames (document : Document) : List String :=
  match document.root with
  | .obj members _ => members.map Prod.fst
  | _ => []

namespace Payload

open Rpc

variable {text : String} {v : Value}

/-- A text that is an object without repeated members, carries a value as its result and reports no error. -/
inductive Carries (text : String) (v : Value) : Prop where
  | intro {members : Members} (hparse : Json.parse text = .ok (.obj members))
      (hnodup : (Document.ofText text).memberNames.Nodup)
      (hresult : (Value.obj members).get? "result" = some v)
      (herror : (Value.obj members).get? "error" = none ∨ (Value.obj members).get? "error" = some .null)
      (hjsonrpc : ∀ x, (Value.obj members).get? "jsonrpc" = some x → ∃ s, x = .str s) : Carries text v

/-- A value as a response has it: null counts as none. -/
def given? : Value → Option Value
  | .null => none
  | v => some v

theorem given?_of_ne_null (h : v ≠ .null) : given? v = some v := by
  cases v <;> first | rfl | exact absurd rfl h

theorem orNull_kept {n : Source} (h : n.Kept v) : OrNull Source.Kept n (given? v) := by
  by_cases hn : n = .null
  · subst hn
    obtain ⟨w, hw, rfl⟩ := h
    obtain rfl := Except.ok.inj hw
    exact .null
  · have hv : v ≠ .null := fun he => hn (Source.kept_null_iff.mp (he ▸ h))
    rw [given?_of_ne_null hv]
    exact .given hn h

/-- A payload that carries a value is taken for a response with that value and without an error. -/
theorem envelope_of_carries (h : Carries text v) :
    ∃ members response, (Document.ofText text).IsObject members ∧ Envelope members response ∧
      response.error = none ∧ response.result = given? v := by
  obtain ⟨hparse, hnodup, hresult, herror, hjsonrpc⟩ := h
  obtain ⟨members, kept, hobject, hkept, rfl⟩ := Document.exists_isObject_of_parse hparse
  rw [Document.memberNames, hobject.root_eq] at hnodup
  -- What the value has under a name is what the tree has there, and of that the response is read.
  have hnames := Source.lookup_settledMembers_of_nodup hkept hnodup
  have hothers := Source.skipMember_of_bufferMembers hkept
  have hsaidResult : Says "result" (OrNull Source.Kept) (some none) members (given? v) := by
    rcases hnames "result" with ⟨-, hnone⟩ | ⟨n, x, hsole, hx, hsome⟩
    · cases hnone.symm.trans hresult
    · obtain rfl : x = v := Option.some.inj (hsome.symm.trans hresult)
      exact .member hsole (orNull_kept hx)
  have hsaidError : Says "error" (OrNull ErrorValue) (some none) members none := by
    rcases hnames "error" with ⟨hnone, -⟩ | ⟨n, x, hsole, hx, hsome⟩
    · exact .absent hnone rfl
    · rcases herror with hnone | hnull
      · cases hsome.symm.trans hnone
      · obtain rfl : x = .null := Option.some.inj (hsome.symm.trans hnull)
        obtain rfl := Source.kept_null_iff.mp hx
        exact .member hsole .null
  have hsaidVersion : ∃ s, Says "jsonrpc" IsText (some "") members s := by
    rcases hnames "jsonrpc" with ⟨hnone, -⟩ | ⟨n, x, hsole, hx, hsome⟩
    · exact ⟨"", .absent hnone rfl⟩
    · obtain ⟨s, rfl⟩ := hjsonrpc x hsome
      exact ⟨s, .member hsole (Source.kept_str_iff.mp hx)⟩
  have hsaidId : ∃ x, Says "id" (OrNull Source.Kept) (some none) members x := by
    rcases hnames "id" with ⟨hnone, -⟩ | ⟨n, x, hsole, hx, -⟩
    · exact ⟨none, .absent hnone rfl⟩
    · exact ⟨given? x, .member hsole (orNull_kept hx)⟩
  obtain ⟨version, hversion⟩ := hsaidVersion
  obtain ⟨id, hid⟩ := hsaidId
  exact ⟨members, ⟨version, given? v, none, id⟩, hobject,
    ⟨hversion, hsaidResult, hsaidError, hid, fun member hmember _ => hothers member hmember⟩, rfl, rfl⟩

/-! ### Payloads -/

theorem decodeRest_of_parse (h : Json.parse text = .ok v) : decodeRest text = decodeResult v := by
  rw [decodeRest, h]

theorem decodeRpc_of_carries (h : Carries text v) : decodeRpc text = decodeResult v := by
  obtain ⟨members, response, hobject, henvelope, herror, hresult⟩ := envelope_of_carries h
  rw [decodeRpc_of_no_error hobject henvelope herror, hresult]
  cases v <;> rfl

theorem decode_eq_of_carried {values : List Value} {plain wrapped : List String}
    (hplain : List.Forall₂ (fun text v => Json.parse text = .ok v) plain values)
    (hwrapped : List.Forall₂ Carries wrapped values) :
    List.Forall₂ (fun text text' => decodeRest text = decodeRpc text') plain wrapped := by
  induction hplain generalizing wrapped with
  | nil =>
      cases hwrapped
      exact .nil
  | cons hparse _ ih =>
      cases hwrapped with
      | cons hcarries hrest =>
          exact .cons ((decodeRest_of_parse hparse).trans (decodeRpc_of_carries hcarries).symm) (ih hrest)

/-! ### Streams -/

theorem items_congr {decode other : String → Except TransportFailure (Option StreamResult)}
    {texts texts' : List String} (h : List.Forall₂ (fun text text' => decode text = other text') texts texts')
    (tracker : Tracker) : items decode tracker (texts.map .ok) = items other tracker (texts'.map .ok) := by
  induction h generalizing tracker with
  | nil => rfl
  | @cons text text' _ _ hfirst _ ih =>
      simp only [List.map_cons, items, bind, Except.bind, hfirst]
      cases other text' with
      | error failure => exact congrArg _ (ih tracker)
      | ok result? =>
          cases result? with
          | none => exact ih tracker
          | some result => exact congrArg _ (ih (tracker.next result))

/-- Payloads that carry the same values over either binding are decoded alike, one by one: each to the same
result, to the same failure, or to nothing. So the streams have the same items, with the same tasks in the
same events, and delegations over them the same outcome. -/
theorem bindings_agree {values : List Value} {plain wrapped : List String}
    (hplain : List.Forall₂ (fun text v => Json.parse text = .ok v) plain values)
    (hwrapped : List.Forall₂ Carries wrapped values) :
    List.Forall₂ (fun text text' => decodeRest text = decodeRpc text') plain wrapped ∧
    (∀ tracker, items decodeRest tracker (plain.map .ok) = items decodeRpc tracker (wrapped.map .ok)) ∧
    ∀ (delegator other : Delegator) (id id' agent task task' : String) (response response' : Http.Response),
      delegator.Answered id agent task decodeRest response → response.isSuccess = true →
      EventStream.payloads response = plain.map .ok →
      other.Answered id' agent task' decodeRpc response' → response'.isSuccess = true →
      EventStream.payloads response' = wrapped.map .ok → delegator.timeout = other.timeout →
      (delegator.delegate id agent task).outcome = (other.delegate id' agent task').outcome := by
  have hdecode := decode_eq_of_carried hplain hwrapped
  have hitems := items_congr hdecode
  refine ⟨hdecode, hitems, ?_⟩
  intro delegator other id id' agent task task' response response' hanswered hsuccess hpayloads hanswered' hsuccess'
    hpayloads' htimeout
  have hplays := hanswered.plays hsuccess
  have hplays' := hanswered'.plays hsuccess'
  rw [hpayloads, hitems] at hplays
  rw [hpayloads'] at hplays'
  exact Delegator.outcome_congr hplays hplays' htimeout fun _ => rfl

def failing : Value := .obj [("task", .obj [("id", .str "t"), ("status", .obj [("state", .str "failed")])])]

def failingText : String := "\x7b\"task\":\x7b\"id\":\"t\",\"status\":\x7b\"state\":\"failed\"\x7d\x7d\x7d"

def wrappedNull : String := "\x7b\"error\":null,\"result\":null\x7d"

def wrappedFailing : String :=
  "\x7b\"result\":" ++ failingText ++ ",\"id\":7,\"jsonrpc\":\"2.0\",\"trace\":[]\x7d"

theorem parse_plain :
    List.Forall₂ (fun text v => Json.parse text = .ok v) ["null", failingText] [.null, failing] := by
  have hnull : Token.scan "null".toList = [.null] := by decide +kernel
  have hfailing : Token.scan failingText.toList
      = [.openObject, .str "task", .colon, .openObject, .str "id", .colon, .str "t", .comma, .str "status", .colon,
        .openObject, .str "state", .colon, .str "failed", .closeObject, .closeObject, .closeObject] := by
    decide +kernel
  have hkept : Source.Kept (.obj [("task", .obj [("id", .str "t"), ("status", .obj [("state", .str "failed")] none)]
      none)] none) failing := ⟨_, rfl, rfl⟩
  exact .cons (Format.parse_of_scan hnull rfl ⟨_, rfl, rfl⟩) (.cons (Format.parse_of_scan hfailing rfl hkept) .nil)

theorem carries_wrapped : List.Forall₂ Carries [wrappedNull, wrappedFailing] [.null, failing] := by
  have hnull : Token.scan wrappedNull.toList
      = [.openObject, .str "error", .colon, .null, .comma, .str "result", .colon, .null, .closeObject] := by
    decide +kernel
  have hfailing : Token.scan wrappedFailing.toList
      = [.openObject, .str "result", .colon, .openObject, .str "task", .colon, .openObject, .str "id", .colon,
        .str "t", .comma, .str "status", .colon, .openObject, .str "state", .colon, .str "failed", .closeObject,
        .closeObject, .closeObject, .comma, .str "id", .colon, .num (.int 7), .comma, .str "jsonrpc", .colon,
        .str "2.0", .comma, .str "trace", .colon, .openArray, .closeArray, .closeObject] := by
    decide +kernel
  have hversion {x : Value} (hx : some (.str "2.0") = some x) : ∃ s, x = .str s := ⟨"2.0", (Option.some.inj hx).symm⟩
  refine .cons (.intro (Format.parse_of_scan hnull rfl ⟨_, rfl, rfl⟩) ?_ rfl (.inr rfl) ?_)
    (.cons (.intro (Format.parse_of_scan hfailing rfl ⟨_, rfl, rfl⟩) ?_ rfl (.inl rfl) fun x hx => hversion hx) .nil)
  · rw [Document.ofText_of_scan hnull rfl]
    decide
  · intro x hx
    cases hx
  · rw [Document.ofText_of_scan hfailing rfl]
    decide

open EventStream in
theorem bindings_agree_failing :
    List.Forall₂ (fun text v => Json.parse text = .ok v) ["null", failingText] [.null, failing] ∧
    List.Forall₂ Carries [wrappedNull, wrappedFailing] [.null, failing] ∧
    ((Delegator.responding .httpJson (lineStream ["null", failingText])).delegate "m" "orders" "ship").outcome
      = .error (.remote "orders" .failed none) ∧
    ((Delegator.responding .jsonRpc (lineStream [wrappedNull, wrappedFailing])).delegate "n" "orders" "ship").outcome
      = .error (.remote "orders" .failed none) := by
  have hplain : payloads (lineStream ["null", failingText]) = ["null", failingText].map .ok :=
    payloads_lineStream (by decide +kernel) (by decide +kernel) (by decide +kernel)
  have hwrapped : payloads (lineStream [wrappedNull, wrappedFailing]) = [wrappedNull, wrappedFailing].map .ok :=
    payloads_lineStream (by decide +kernel) (by decide +kernel) (by decide +kernel)
  have hanswered := Delegator.answered_responding_rest "m" "ship" (lineStream ["null", failingText])
  have hresult : decodeResult failing = .ok (some (.task (Task.ofState "t" .failed))) := by decide +kernel
  have houtcome :
      ((Delegator.responding .httpJson (lineStream ["null", failingText])).delegate "m" "orders" "ship").outcome
        = .error (.remote "orders" .failed none) := by
    obtain ⟨hnull, hfailing⟩ := List.forall₂_cons.mp parse_plain
    have hskipped : decodeRest "null" = .ok none := decodeRest_of_parse hnull
    have hread := (decodeRest_of_parse (List.forall₂_cons.mp hfailing).1).trans hresult
    rw [Delegator.outcome_of_answered hanswered (by decide) (by decide), hplain, List.map_cons,
      items_cons_of_none hskipped]
    simp only [List.map_cons, List.map_nil, items, bind, Except.bind, hread]
    rfl
  refine ⟨parse_plain, carries_wrapped, houtcome, ?_⟩
  rw [← (bindings_agree parse_plain carries_wrapped).2.2 _ _ "m" "n" _ "ship" "ship" _ _ hanswered (by decide) hplain
    (Delegator.answered_responding_rpc _ _ _) (by decide) hwrapped rfl, houtcome]

end Payload

end AgentDelegation

import AgentDelegation.Proofs.Delegation.Streams
import AgentDelegation.Transport.Http

/-!
# Delegations answered over HTTP

Over either binding the payloads of the response become items one after another, all of them at once and
then the end of the stream. So a delegation that is answered over HTTP comes to the first decision among
its items, each of which stands for one move (`outcome_of_answered`); what the items are depends on the
binding through the decoder alone.
-/

namespace AgentDelegation

namespace Payload

variable {decode : String → Except TransportFailure (Option StreamResult)}

/-- The tracker behind payloads: of these only the results move it. -/
def trackerAfter (decode : String → Except TransportFailure (Option StreamResult)) (tracker : Tracker) :
    List (Except TransportFailure String) → Tracker
  | [] => tracker
  | payload :: rest =>
    match payload >>= decode with
    | .ok (some result) => trackerAfter decode (tracker.next result) rest
    | .ok none | .error _ => trackerAfter decode tracker rest

theorem items_append (tracker : Tracker) (first second : List (Except TransportFailure String)) :
    items decode tracker (first ++ second)
      = items decode tracker first ++ items decode (trackerAfter decode tracker first) second := by
  induction first generalizing tracker with
  | nil => rfl
  | cons payload rest ih =>
      rw [List.cons_append, items, items, trackerAfter]
      cases payload >>= decode with
      | error failure => simp [ih]
      | ok result? => cases result? <;> simp [ih]

theorem items_cons_of_none {text : String} (h : decode text = .ok none) (tracker : Tracker)
    (rest : List (Except TransportFailure String)) :
    items decode tracker (.ok text :: rest) = items decode tracker rest := by
  rw [items]
  simp only [bind, Except.bind, h]

theorem items_cons_of_error {text : String} {failure : TransportFailure} (h : decode text = .error failure)
    (tracker : Tracker) (rest : List (Except TransportFailure String)) :
    items decode tracker (.ok text :: rest) = .error failure :: items decode tracker rest := by
  rw [items]
  simp only [bind, Except.bind, h]

end Payload

namespace Settlement.Move

/-- What an item of a stream means to a delegation. -/
def ofItem : Item → Move
  | .ok news => .event news
  | .error failure => .disconnect failure

end Settlement.Move

namespace Delegator

open Settlement Happening

/-- A delegation whose message goes out over HTTP, over the binding that a decoder belongs to, and is
answered with a response. -/
inductive Answered (delegator : Delegator) (id agent task : String) :
    (String → Except TransportFailure (Option StreamResult)) → Http.Response → Prop where
  | overRpc {card : AgentCard} {url requestId : String} {network : Http.Network} {interface : RpcInterface}
      {response : Http.Response}
      (hroute : delegator.route agent = .ok ⟨card, .jsonRpc, url, RpcInterface.connector network requestId⟩)
      (hinterface : RpcInterface.ofCard card url = .ok interface)
      (hsend : Http.send network (interface.request requestId (.ofUser id task)) = .ok (some response)) :
      Answered delegator id agent task Payload.decodeRpc response
  | overRest {card : AgentCard} {url : String} {network : Http.Network} {interface : RestInterface}
      {response : Http.Response}
      (hroute : delegator.route agent = .ok ⟨card, .httpJson, url, RestInterface.connector network⟩)
      (hinterface : RestInterface.of url = .ok interface)
      (hsend : Http.send network (interface.request (.ofUser id task)) = .ok (some response)) :
      Answered delegator id agent task Payload.decodeRest response

variable {delegator : Delegator} {id agent task : String} {response : Http.Response}
  {decode : String → Except TransportFailure (Option StreamResult)}

theorem Answered.plays (h : delegator.Answered id agent task decode response)
    (hsuccess : response.isSuccess = true) :
    delegator.Plays id agent task
      ((Payload.items decode .empty (EventStream.payloads response)).map ofItem ++ [.finish]) := by
  cases h with
  | overRpc hroute hinterface hsend =>
      refine ⟨_, _, hroute, congrArg (Except.map _) hinterface, ?_⟩
      exact (congrArg (playResponse _) hsend).trans (if_pos hsuccess)
  | overRest hroute hinterface hsend =>
      refine ⟨_, _, hroute, congrArg (Except.map _) hinterface, ?_⟩
      exact (congrArg (playResponse _) hsend).trans (if_pos hsuccess)

theorem arrivalsBefore_map_ofItem {limit : Nat} (h : 0 < limit) (items : List Item) :
    arrivalsBefore 0 limit (items.map ofItem ++ [.finish]) = items.map Move.ofItem := by
  induction items with
  | nil => rfl
  | cons item rest ih =>
      cases item with
      | ok news => exact (arrivalsBefore_event _ h news).trans (congrArg _ ih)
      | error failure => exact (arrivalsBefore_failure _ h failure).trans (congrArg _ ih)

theorem outcome_of_answered (h : delegator.Answered id agent task decode response)
    (hsuccess : response.isSuccess = true) (htimeout : 0 < delegator.timeout.totalNanos) :
    (delegator.delegate id agent task).outcome
      = (start.run agent ((Payload.items decode .empty (EventStream.payloads response)).map Move.ofItem)).await agent
          delegator.timeout := by
  rw [outcome_of_plays (h.plays hsuccess) htimeout, arrivalsWithin_eq_arrivalsBefore,
    arrivalsBefore_map_ofItem (Nat.pos_of_ne_zero (Duration.ticks_ne_zero htimeout))]

/-- The first failure among the items ends a delegation that nothing before it decides. -/
theorem outcome_of_items_eq (h : delegator.Answered id agent task decode response)
    (hsuccess : response.isSuccess = true) (htimeout : 0 < delegator.timeout.totalNanos) {before after : List Item}
    {failure : TransportFailure}
    (hitems : Payload.items decode .empty (EventStream.payloads response) = before ++ .error failure :: after)
    (hopen : ∀ outcome, ¬ FirstDecision agent (before.map Move.ofItem) outcome) :
    (delegator.delegate id agent task).outcome = .error (.transport agent failure) := by
  rw [outcome_of_answered h hsuccess htimeout, hitems, List.map_append, run_append, run_of_not_firstDecision hopen,
    List.map_cons, run_cons, Move.ofItem, run_of_settled agent (isPending_after_of_decides (.disconnect failure) _)]
  rfl

/-- One agent with one interface, over a network that gives every request the same response. -/
def responding (binding : Binding) (response : Http.Response) : Delegator where
  directory := .ofCards [("orders", { AgentCard.blank with supportedInterfaces := [.of "http://[::1]/a2a" binding] })]
  connectors := .overHttp (fun _ => .response response) "1"
  timeout := .ofSeconds 60

def localUrl (path : List String) : Url :=
  ⟨"http", some (.ofHost (.ipv6 [0, 0, 0, 0, 0, 0, 0, 1])), false, .segments path, none, none⟩

theorem answered_responding_rpc (id task : String) (response : Http.Response) :
    (responding .jsonRpc response).Answered id "orders" task Payload.decodeRpc response := by
  have hroute : (responding .jsonRpc response).route "orders"
      = .ok ⟨{ AgentCard.blank with supportedInterfaces := [.of "http://[::1]/a2a" .jsonRpc] }, .jsonRpc,
        "http://[::1]/a2a", RpcInterface.connector (fun _ => .response response) "1"⟩ := rfl
  have hinterface : RpcInterface.ofCard
      { AgentCard.blank with supportedInterfaces := [.of "http://[::1]/a2a" .jsonRpc] } "http://[::1]/a2a"
        = .ok ⟨localUrl ["a2a"], Rpc.sendStreamingMessage⟩ := by
    decide +kernel
  exact .overRpc hroute hinterface rfl

theorem answered_responding_rest (id task : String) (response : Http.Response) :
    (responding .httpJson response).Answered id "orders" task Payload.decodeRest response := by
  have hroute : (responding .httpJson response).route "orders"
      = .ok ⟨{ AgentCard.blank with supportedInterfaces := [.of "http://[::1]/a2a" .httpJson] }, .httpJson,
        "http://[::1]/a2a", RestInterface.connector (fun _ => .response response)⟩ := rfl
  have hinterface : RestInterface.of "http://[::1]/a2a" = .ok ⟨localUrl ["a2a", "message:stream"]⟩ := by
    decide +kernel
  exact .overRest hroute hinterface rfl

end Delegator

end AgentDelegation

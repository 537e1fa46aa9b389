import AgentDelegation.Proofs.Delegation.Outcome

/-!
# The way to an agent

A route is found in three passes: one over the card and the connectors for a binding that both have, one
over the card for its address, one over the connectors for its connector. `IsRoute` says without any pass
what the way to an agent has to be. Where card and connectors share a binding the passes find that way,
and otherwise the first of them already fails, so the failures of the other two never come up.
-/

namespace AgentDelegation

/-- The first element of a list with a property. -/
def IsFirst {α : Type} (p : α → Prop) (list : List α) (x : α) : Prop :=
  ∃ before after, list = before ++ x :: after ∧ p x ∧ ∀ y ∈ before, ¬ p y

theorem find?_eq_some_iff_isFirst {α : Type} {p : α → Bool} {q : α → Prop} (h : ∀ x, p x = true ↔ q x)
    {list : List α} {x : α} : list.find? p = some x ↔ IsFirst q list x := by
  rw [List.find?_eq_some_iff_append]
  constructor
  · rintro ⟨hx, before, after, hlist, hbefore⟩
    exact ⟨before, after, hlist, (h x).mp hx, fun y hy hq => by simpa [(h y).mpr hq] using hbefore y hy⟩
  · rintro ⟨before, after, hlist, hx, hbefore⟩
    exact ⟨(h x).mpr hx, before, after, hlist, fun y hy => by simpa [← h y] using hbefore y hy⟩

/-! ### Names of a directory -/

namespace Directory

theorem pairwise_names (directory : Directory) : directory.names.Pairwise (· < ·) :=
  List.pairwise_map.mpr directory.cards.ordered

@[simp] theorem mem_names_iff {directory : Directory} {name : String} :
    name ∈ directory.names ↔ ∃ card, directory.get? name = some card := by
  rw [← Option.ne_none_iff_exists', ne_eq]
  exact (not_iff_comm.mp Entries.lookup_eq_none_iff.symm).symm

end Directory

/-! ### What a card offers -/

namespace AgentCard

variable {card : AgentCard} {binding : Binding} {url : String}

/-- The card lists an interface that speaks the binding. -/
def Offers (card : AgentCard) (binding : Binding) : Prop :=
  ∃ interface ∈ card.listedInterfaces, interface.binding? = some binding

theorem mem_interfaces_iff :
    (binding, url) ∈ card.interfaces
      ↔ ∃ interface ∈ card.listedInterfaces, interface.binding? = some binding ∧ interface.url = url := by
  simp [interfaces]

theorem advertises_iff : card.advertises binding = true ↔ card.Offers binding := by
  simp only [advertises, List.any_eq_true, beq_iff_eq, Prod.exists, mem_interfaces_iff, Offers]
  constructor
  · rintro ⟨_, _, ⟨interface, hmem, hbinding, -⟩, rfl⟩
    exact ⟨interface, hmem, hbinding⟩
  · rintro ⟨interface, hmem, hbinding⟩
    exact ⟨binding, interface.url, ⟨interface, hmem, hbinding, rfl⟩, rfl⟩

@[simp] theorem mem_bindings_iff : binding ∈ card.bindings ↔ card.Offers binding := by
  rw [bindings, Binding.filter, List.mem_filter, advertises_iff]
  exact and_iff_right (Binding.mem_all binding)

theorem interfaceUrl?_eq (card : AgentCard) (binding : Binding) :
    card.interfaceUrl? binding
      = (card.listedInterfaces.find? fun interface => interface.binding? == some binding).map (·.url) := by
  rw [interfaceUrl?, interfaces, List.find?_filterMap, Option.map_bind]
  have hmatch : (fun interface : AgentInterface =>
      (interface.binding?.map (·, interface.url)).any fun entry => entry.1 == binding)
        = fun interface => interface.binding? == some binding := by
    funext interface
    cases interface.binding? <;> rfl
  rw [hmatch]
  cases hfind : card.listedInterfaces.find? fun interface => interface.binding? == some binding with
  | none => rfl
  | some interface =>
      have hbinding : interface.binding? = some binding := by simpa using List.find?_some hfind
      simp [hbinding]

theorem interfaceUrl?_eq_some_iff :
    card.interfaceUrl? binding = some url
      ↔ ∃ interface, IsFirst (fun other : AgentInterface => other.binding? = some binding)
          card.listedInterfaces interface ∧ interface.url = url := by
  rw [interfaceUrl?_eq, Option.map_eq_some_iff]
  simp only [find?_eq_some_iff_isFirst fun other : AgentInterface =>
    (beq_iff_eq (a := other.binding?) (b := some binding))]

theorem exists_interfaceUrl? (h : card.Offers binding) : ∃ url, card.interfaceUrl? binding = some url := by
  obtain ⟨interface, hmem, hbinding⟩ := h
  rw [← Option.isSome_iff_exists, interfaceUrl?_eq, Option.isSome_map, List.find?_isSome]
  exact ⟨interface, hmem, by simpa using hbinding⟩

end AgentCard

/-! ### What is registered -/

namespace Connectors

variable {registered : List Connector} {binding : Binding}

/-- A connector of the binding is among those registered. -/
def Serves (registered : List Connector) (binding : Binding) : Prop :=
  ∃ connector ∈ registered, connector.binding = binding

theorem list_foldl_register (connectors : Connectors) (registered : List Connector) :
    (registered.foldl register connectors).list = registered.reverse ++ connectors.list := by
  induction registered generalizing connectors with
  | nil => rfl
  | cons connector rest ih => rw [List.foldl_cons, ih, List.reverse_cons, List.append_assoc]; rfl

@[simp] theorem list_ofList (registered : List Connector) : (ofList registered).list = registered.reverse := by
  rw [ofList, list_foldl_register]
  exact List.append_nil _

/-- Of several connectors of a binding the latest counts. -/
theorem get?_ofList_eq_some_iff {connector : Connector} :
    (ofList registered).get? binding = some connector
      ↔ IsFirst (fun other : Connector => other.binding = binding) registered.reverse connector := by
  rw [get?, list_ofList]
  exact find?_eq_some_iff_isFirst fun other => beq_iff_eq

theorem has_ofList_iff : (ofList registered).has binding = true ↔ Serves registered binding := by
  simp [has, get?, list_ofList, Serves]

@[simp] theorem mem_available_iff : binding ∈ (ofList registered).available ↔ Serves registered binding := by
  rw [available, Binding.filter, List.mem_filter, has_ofList_iff]
  exact and_iff_right (Binding.mem_all binding)

end Connectors

open Connectors (Serves)

/-- The way that a message to an agent is to take: over the first of all bindings that the agent's card
offers and a connector is registered for, to the first interface of that binding on the card, through the
latest connector of that binding. -/
structure IsRoute (card : AgentCard) (registered : List Connector) (route : Route) : Prop where
  card_eq : route.card = card
  binding : IsFirst (fun binding => card.Offers binding ∧ Serves registered binding) Binding.all route.binding
  url : ∃ interface, IsFirst (fun other : AgentInterface => other.binding? = some route.binding)
    card.listedInterfaces interface ∧ interface.url = route.url
  connector : IsFirst (fun other : Connector => other.binding = route.binding) registered.reverse route.connector

/-- The other connectors play no part: a route is still the route when its connector is the only one. -/
theorem IsRoute.alone {card : AgentCard} {registered : List Connector} {route : Route}
    (h : IsRoute card registered route) :
    IsRoute card [route.connector] route := by
  obtain ⟨hcard, ⟨better, worse, hall, ⟨hoffers, hserves⟩, hbetter⟩, hurl, hconnector⟩ := h
  have hbinding : route.connector.binding = route.binding := by
    obtain ⟨-, -, -, hbinding, -⟩ := hconnector
    exact hbinding
  refine ⟨hcard, ⟨better, worse, hall, ⟨hoffers, _, List.mem_singleton_self _, hbinding⟩, ?_⟩, hurl,
    [], [], rfl, hbinding, by simp⟩
  rintro other hother ⟨-, connector, hmem, hsame⟩
  obtain rfl : other = route.binding := by rw [← hsame, List.mem_singleton.mp hmem, hbinding]
  exact hbetter _ hother ⟨hoffers, hserves⟩

namespace Delegator

variable {delegator : Delegator} {registered : List Connector} {agent : String} {card : AgentCard}

theorem select?_eq_some_iff {binding : Binding} :
    card.select? (Connectors.ofList registered).available.contains = some binding
      ↔ IsFirst (fun binding => card.Offers binding ∧ Serves registered binding) Binding.all binding := by
  rw [AgentCard.select?]
  refine find?_eq_some_iff_isFirst fun other => ?_
  rw [Bool.and_eq_true, AgentCard.advertises_iff, List.contains_iff_mem, Connectors.mem_available_iff]

theorem select?_eq_none_iff :
    card.select? (Connectors.ofList registered).available.contains = none
      ↔ ∀ binding, card.Offers binding → ¬ Serves registered binding := by
  simp only [AgentCard.select?, List.find?_eq_none, Binding.mem_all, true_implies, Bool.and_eq_true,
    AgentCard.advertises_iff, List.contains_iff_mem, Connectors.mem_available_iff, not_and]

theorem route_eq_ok_iff (hconnectors : delegator.connectors = .ofList registered)
    (hcard : delegator.directory.get? agent = some card) {route : Route} :
    delegator.route agent = .ok route ↔ IsRoute card registered route := by
  constructor
  · intro h
    simp only [Delegator.route, hcard, hconnectors] at h
    cases hselect : card.select? (Connectors.ofList registered).available.contains with
    | none => simp [hselect] at h
    | some binding =>
        cases hurl : card.interfaceUrl? binding with
        | none => simp [hselect, hurl] at h
        | some url =>
            cases hget : (Connectors.ofList registered).get? binding with
            | none => simp [hselect, hurl, hget] at h
            | some connector =>
                simp only [hselect, hurl, hget, Except.ok.injEq] at h
                subst h
                exact ⟨rfl, select?_eq_some_iff.mp hselect, AgentCard.interfaceUrl?_eq_some_iff.mp hurl,
                  Connectors.get?_ofList_eq_some_iff.mp hget⟩
  · intro h
    obtain ⟨rfl, hbinding, hurl, hconnector⟩ := h
    simp only [Delegator.route, hcard, hconnectors, select?_eq_some_iff.mpr hbinding,
      AgentCard.interfaceUrl?_eq_some_iff.mpr hurl, Connectors.get?_ofList_eq_some_iff.mpr hconnector]

theorem route_of_isRoute (hconnectors : delegator.connectors = .ofList registered)
    (hcard : delegator.directory.get? agent = some card) {route : Route} (h : IsRoute card registered route) :
    delegator.route agent = .ok route :=
  (route_eq_ok_iff hconnectors hcard).mpr h

/-- What is chosen has an address and a connector. -/
theorem exists_isRoute {binding : Binding} (hoffers : card.Offers binding)
    (hserves : Serves registered binding) : ∃ route, IsRoute card registered route := by
  cases hselect : card.select? (Connectors.ofList registered).available.contains with
  | none => exact (select?_eq_none_iff.mp hselect binding hoffers hserves).elim
  | some chosen =>
      have hfirst := select?_eq_some_iff.mp hselect
      obtain ⟨-, -, -, ⟨hcard, hregistered⟩, -⟩ := hfirst
      obtain ⟨url, hurl⟩ := AgentCard.exists_interfaceUrl? hcard
      obtain ⟨connector, hget⟩ := Option.isSome_iff_exists.mp (Connectors.has_ofList_iff.mpr hregistered)
      exact ⟨⟨card, chosen, url, connector⟩, rfl, select?_eq_some_iff.mp hselect,
        AgentCard.interfaceUrl?_eq_some_iff.mp hurl, Connectors.get?_ofList_eq_some_iff.mp hget⟩

theorem route_of_unknown (hcard : delegator.directory.get? agent = none) :
    delegator.route agent = .error (.unknownAgent agent delegator.directory.names) := by
  simp only [Delegator.route, hcard]

theorem route_of_no_shared (hconnectors : delegator.connectors = .ofList registered)
    (hcard : delegator.directory.get? agent = some card)
    (hshared : ∀ binding, card.Offers binding → ¬ Serves registered binding) :
    delegator.route agent
      = .error (.noSharedBinding agent card.bindings (Connectors.ofList registered).available) := by
  simp only [Delegator.route, hcard, hconnectors, select?_eq_none_iff.mpr hshared]

/-- No other failure comes of looking for a route: it needs an agent that is not in the directory, or a
card that shares no binding with the connectors. -/
theorem route_eq_error_iff (hconnectors : delegator.connectors = .ofList registered)
    {failure : DelegationFailure} :
    delegator.route agent = .error failure
      ↔ (delegator.directory.get? agent = none ∧ failure = .unknownAgent agent delegator.directory.names) ∨
        ∃ card, delegator.directory.get? agent = some card ∧
          (∀ binding, card.Offers binding → ¬ Serves registered binding) ∧
          failure = .noSharedBinding agent card.bindings (Connectors.ofList registered).available := by
  constructor
  · intro h
    cases hcard : delegator.directory.get? agent with
    | none =>
        rw [route_of_unknown hcard] at h
        exact .inl ⟨rfl, (Except.error.inj h).symm⟩
    | some card =>
        by_cases hshared : ∃ binding, card.Offers binding ∧ Serves registered binding
        · obtain ⟨binding, hoffers, hserves⟩ := hshared
          obtain ⟨route, hroute⟩ := exists_isRoute hoffers hserves
          rw [route_of_isRoute hconnectors hcard hroute] at h
          cases h
        · have hnone : ∀ binding, card.Offers binding → ¬ Serves registered binding :=
            fun binding hoffers hserves => hshared ⟨binding, hoffers, hserves⟩
          rw [route_of_no_shared hconnectors hcard hnone] at h
          exact .inr ⟨card, rfl, hnone, (Except.error.inj h).symm⟩
  · rintro (⟨hcard, rfl⟩ | ⟨card, hcard, hnone, rfl⟩)
    · exact route_of_unknown hcard
    · exact route_of_no_shared hconnectors hcard hnone

theorem delegate_of_route_error {failure : DelegationFailure} (h : delegator.route agent = .error failure)
    (id task : String) : delegator.delegate id agent task = ⟨none, none, .error failure⟩ := by
  simp only [delegate, h]

theorem delegate_of_refused {route : Route} {failure : TransportFailure}
    (hroute : delegator.route agent = .ok route)
    (hconnect : route.connector.connect route.card route.url = .error failure) (id task : String) :
    delegator.delegate id agent task
      = ⟨some (route.binding, route.url), none, .error (.transport agent failure)⟩ := by
  simp only [delegate, hroute, hconnect]

/-- With time to spend, an open connection is given the message. -/
theorem delegate_of_connected {route : Route} {transport : Transport}
    (hroute : delegator.route agent = .ok route)
    (hconnect : route.connector.connect route.card route.url = .ok transport)
    (htimeout : 0 < delegator.timeout.totalNanos) (id task : String) :
    (delegator.delegate id agent task).asked = some (route.binding, route.url) ∧
      (delegator.delegate id agent task).sent = some (.ofUser id task) := by
  simp only [delegate, hroute, hconnect, exchange, if_neg (Duration.ticks_ne_zero htimeout), true_and]
  cases transport.send (.ofUser id task) <;> rfl

/-- What a delegation asks for and sends, by what the directory, the card and the registrations say. An
agent that is not in the directory, and one whose card shares no binding with the connectors, make it fail
before it asks for anything, and the failure lists what there is. Otherwise one connection is asked for,
that of the route, and the message is sent once if it opens; the report is the same as with the connector
of the route alone. -/
theorem delegate_takes_the_route (hconnectors : delegator.connectors = .ofList registered)
    (htimeout : 0 < delegator.timeout.totalNanos) (id agent task : String) :
    (delegator.directory.get? agent = none →
      delegator.delegate id agent task
        = ⟨none, none, .error (.unknownAgent agent delegator.directory.names)⟩ ∧
      delegator.directory.names.Pairwise (· < ·) ∧
      ∀ name, name ∈ delegator.directory.names ↔ ∃ card, delegator.directory.get? name = some card) ∧
    ∀ card, delegator.directory.get? agent = some card →
      ((∀ binding, card.Offers binding → ¬ Serves registered binding) →
        ∃ advertised available,
          delegator.delegate id agent task
            = ⟨none, none, .error (.noSharedBinding agent advertised available)⟩ ∧
          advertised.Sublist [.grpc, .jsonRpc, .httpJson] ∧
          (∀ binding, binding ∈ advertised ↔ card.Offers binding) ∧
          available.Sublist [.grpc, .jsonRpc, .httpJson] ∧
          ∀ binding, binding ∈ available ↔ Serves registered binding) ∧
      ∀ binding, card.Offers binding → Serves registered binding →
        ∃ route, IsRoute card registered route ∧
          (∀ failure, route.connector.connect card route.url = .error failure →
            delegator.delegate id agent task
              = ⟨some (route.binding, route.url), none, .error (.transport agent failure)⟩) ∧
          (∀ transport, route.connector.connect card route.url = .ok transport →
            (delegator.delegate id agent task).asked = some (route.binding, route.url) ∧
            (delegator.delegate id agent task).sent = some (.ofUser id task)) ∧
          delegator.delegate id agent task
            = { delegator with connectors := .ofList [route.connector] }.delegate id agent task := by
  refine ⟨fun hcard => ?_, fun card hcard => ⟨fun hnone => ?_, fun binding hoffers hserves => ?_⟩⟩
  · exact ⟨delegate_of_route_error (route_of_unknown hcard) id task, Directory.pairwise_names _,
      fun name => Directory.mem_names_iff⟩
  · exact ⟨_, _, delegate_of_route_error (route_of_no_shared hconnectors hcard hnone) id task,
      List.filter_sublist, fun other => AgentCard.mem_bindings_iff,
      List.filter_sublist, fun other => Connectors.mem_available_iff⟩
  · obtain ⟨route, hroute⟩ := exists_isRoute hoffers hserves
    have hway : delegator.route agent = .ok route := route_of_isRoute hconnectors hcard hroute
    have halone : { delegator with connectors := .ofList [route.connector] }.route agent = .ok route :=
      @route_of_isRoute { delegator with connectors := .ofList [route.connector] } _ _ _ rfl hcard _ hroute.alone
    refine ⟨route, hroute, fun failure hconnect => ?_, fun transport hconnect => ?_, ?_⟩
    · exact delegate_of_refused hway (hroute.card_eq ▸ hconnect) id task
    · exact delegate_of_connected hway (hroute.card_eq ▸ hconnect) htimeout id task
    · simp only [delegate, hway, halone]

/-- A card in both layouts; one of its bindings is unknown, and the preferred one of the others is served by
no connector of `twoServed`. -/
def mixedCard : AgentCard :=
  { AgentCard.blank with
    supportedInterfaces := [⟨"http://fax", "FAX"⟩, ⟨"http://rest", " http_json "⟩]
    url := some "http://main"
    preferredTransport := some "grpc"
    additionalInterfaces := [⟨"http://first", "json-rpc"⟩, ⟨"http://second", "JSONRPC"⟩] }

def faxCard : AgentCard := { AgentCard.blank with supportedInterfaces := [⟨"http://fax", "FAX"⟩] }

/-- Connectors of two bindings, where the later one for JSON-RPC takes the place of one that always fails. -/
def twoServed : List Connector :=
  [⟨.jsonRpc, fun _ _ => .error (.http "old")⟩, ⟨.httpJson, fun _ _ => .ok ⟨fun _ => .ok []⟩⟩,
    ⟨.jsonRpc, fun _ _ => .ok ⟨fun _ => .ok []⟩⟩]

def wellConnected : Delegator where
  directory := .ofCards [("orders", mixedCard), ("faxes", faxCard)]
  connectors := .ofList twoServed
  timeout := .ofSeconds 60

theorem delegate_wellConnected : 0 < wellConnected.timeout.totalNanos ∧
    wellConnected.delegate "m" "nobody" "ship"
      = ⟨none, none, .error (.unknownAgent "nobody" ["faxes", "orders"])⟩ ∧
    (∃ available, wellConnected.delegate "m" "faxes" "ship"
      = ⟨none, none, .error (.noSharedBinding "faxes" [] available)⟩) ∧
    (wellConnected.delegate "m" "orders" "ship").asked = some (.jsonRpc, "http://first") ∧
    (wellConnected.delegate "m" "orders" "ship").sent = some (.ofUser "m" "ship") := by
  have htimeout : 0 < wellConnected.timeout.totalNanos := by decide
  have hreport := @delegate_takes_the_route wellConnected twoServed rfl htimeout "m"
  have hunknown := (hreport "nobody" "ship").1 rfl
  have hnone : ∀ binding, ¬ faxCard.Offers binding := by
    intro binding h
    rw [← AgentCard.mem_bindings_iff] at h
    exact List.not_mem_nil (show binding ∈ [] from h)
  obtain ⟨advertised, available, hfaxes, -, hadvertised, -⟩ :=
    ((hreport "faxes" "ship").2 faxCard rfl).1 fun binding hoffers => (hnone binding hoffers).elim
  obtain rfl : advertised = [] :=
    List.eq_nil_iff_forall_not_mem.mpr fun binding h => hnone binding ((hadvertised binding).mp h)
  have hway : wellConnected.route "orders"
      = .ok ⟨mixedCard, .jsonRpc, "http://first", ⟨.jsonRpc, fun _ _ => .ok ⟨fun _ => .ok []⟩⟩⟩ := rfl
  obtain ⟨route, hroute, -, hconnected, -⟩ :=
    ((hreport "orders" "ship").2 mixedCard rfl).2 .jsonRpc (AgentCard.advertises_iff.mp rfl)
      ⟨_, List.mem_cons_self, rfl⟩
  obtain rfl := Except.ok.inj ((route_of_isRoute rfl rfl hroute).symm.trans hway)
  exact ⟨htimeout, hunknown.1, ⟨available, hfaxes⟩, hconnected _ rfl⟩

end Delegator

end AgentDelegation

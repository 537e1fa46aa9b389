import AgentDelegation.Delegation.Watch
import AgentDelegation.Directory.Basic

/-!
# Delegating a task

A task goes to a named agent of the directory. Of the bindings that the agent's card advertises and a
connector is registered for, the preferred one is taken, with the address of its first interface on the
card. The message is sent once; whatever the stream then does within the time, the delegation has one
outcome.
-/

namespace AgentDelegation

/-- An open connection: it takes a message and plays a stream, or refuses the message. -/
structure Transport where
  send : Message → Except TransportFailure (List Happening)

/-- Opens connections of one binding to the address of a card. -/
structure Connector where
  binding : Binding
  connect : AgentCard → String → Except TransportFailure Transport

/-- The registered connectors, the latest first. -/
structure Connectors where
  list : List Connector

namespace Connectors

def empty : Connectors := ⟨[]⟩

/-- Registers a connector in place of an earlier one of its binding. -/
def register (connectors : Connectors) (connector : Connector) : Connectors :=
  ⟨connector :: connectors.list⟩

def ofList (connectors : List Connector) : Connectors := connectors.foldl register empty

/-- The connector of a binding, the latest of several. -/
def get? (connectors : Connectors) (binding : Binding) : Option Connector :=
  connectors.list.find? fun connector => connector.binding == binding

def has (connectors : Connectors) (binding : Binding) : Bool := (connectors.get? binding).isSome

/-- The bindings with a connector, in priority order. -/
def available (connectors : Connectors) : List Binding := Binding.filter connectors.has

@[simp] theorem get?_register_self (connectors : Connectors) (connector : Connector) :
    (connectors.register connector).get? connector.binding = some connector := by
  simp [get?, register]

theorem get?_register_of_ne (connectors : Connectors) (connector : Connector) {binding : Binding}
    (h : connector.binding ≠ binding) :
    (connectors.register connector).get? binding = connectors.get? binding := by
  simp [get?, register, h]

end Connectors

/-- The way to an agent: its card, the binding to talk over, the address, and the connector to open it. -/
structure Route where
  card : AgentCard
  binding : Binding
  url : String
  connector : Connector

/-- Everything a delegation does and comes to: the address it had a connection opened to, the message it
sent, and the outcome. -/
structure Report where
  asked : Option (Binding × String)
  sent : Option Message
  outcome : Outcome

structure Delegator where
  directory : Directory
  connectors : Connectors
  timeout : Duration

namespace Delegator

/-- How long a delegation takes at most, unless told otherwise. -/
def defaultTimeout : Duration := .ofSeconds 60

/-- The way to an agent. A binding is chosen first; its address and its connector are looked up after that,
and are always found (`route_eq_error_iff`). -/
def route (delegator : Delegator) (agent : String) : Except DelegationFailure Route :=
  match delegator.directory.get? agent with
  | none => .error (.unknownAgent agent delegator.directory.names)
  | some card =>
    let available := delegator.connectors.available
    match card.select? available.contains with
    | none => .error (.noSharedBinding agent card.bindings available)
    | some binding =>
      match card.interfaceUrl? binding with
      | none => .error (.aborted agent ("card lists no " ++ binding.name ++ " interface URL"))
      | some url =>
        match delegator.connectors.get? binding with
        | none => .error (.transport agent (.unsupported binding))
        | some connector => .ok ⟨card, binding, url, connector⟩

/-- Sends a message over an open connection and reads the stream for the given number of milliseconds.
Without any time the message is not sent. -/
def exchange (agent : String) (transport : Transport) (millis : Nat) (message : Message) :
    Option Message × Progress :=
  if millis = 0 then (none, ⟨.start, true⟩)
  else
    match transport.send message with
    | .error failure => (some message, ⟨Settlement.start.after agent (.disconnect failure), false⟩)
    | .ok stream => (some message, Settlement.start.watch agent millis stream)

/-- Hands a task to a named agent; `id` is the id of the message. -/
def delegate (delegator : Delegator) (id agent task : String) : Report :=
  match delegator.route agent with
  | .error failure => ⟨none, none, .error failure⟩
  | .ok route =>
    match route.connector.connect route.card route.url with
    | .error failure => ⟨some (route.binding, route.url), none, .error (.transport agent failure)⟩
    | .ok transport =>
      let exchanged := exchange agent transport delegator.timeout.ticks (.ofUser id task)
      ⟨some (route.binding, route.url), exchanged.1, exchanged.2.settlement.await agent delegator.timeout⟩

end Delegator

end AgentDelegation

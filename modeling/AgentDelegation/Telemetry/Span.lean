/-!
# Spans

A span marks one activity in the telemetry. The names of its fields are fixed when it is opened; a field
may still be without a value then, and a value can be recorded only for a field that the span has.
-/

namespace AgentDelegation

inductive Level where
  | info
  | debug
deriving DecidableEq, Repr, Inhabited

structure Span where
  name : String
  level : Level
  fields : List (String × Option String)
deriving DecidableEq, Repr, Inhabited

namespace Span

/-- The span of a delegation; the transport is not known yet. -/
def delegation (agent : String) : Span :=
  ⟨"a2a.delegate", .info, [("agent.name", some agent), ("transport", none), ("otel.kind", some "client")]⟩

def cardFetch (agent url : String) : Span :=
  ⟨"a2a.card.fetch", .info, [("agent.name", some agent), ("card.url", some url), ("otel.kind", some "client")]⟩

def skillRegistration (id : String) : Span :=
  ⟨"skill.register", .debug, [("skill.id", some id)]⟩

/-- Gives a field a value in place of an earlier one; a span without the field stays as it is. -/
def record (span : Span) (field value : String) : Span :=
  { span with fields := span.fields.map fun (name, old) => (name, if name = field then some value else old) }

def recordTransport (span : Span) (transport : String) : Span := span.record "transport" transport

def values (span : Span) : List (String × String) :=
  span.fields.filterMap fun (name, value) => value.map (name, ·)

end Span

end AgentDelegation

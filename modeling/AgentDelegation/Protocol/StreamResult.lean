import AgentDelegation.Protocol.Task

/-!
# Results of a stream

A remote agent answers a message with a stream of results: whole tasks, plain messages, and updates of a
task's status or artifacts. Three encodings are in use. The older protocol names the sort of a result in
the member `kind`; the newer one wraps the result in an object with one member named for its sort; and
some agents send the bare object, whose sort is told by its members. They are tried in that order, and
the first that applies decides, even if the result then fails to decode.
-/

namespace AgentDelegation

open Json

inductive StreamResult where
  | task (task : Task)
  | message (message : Message)
  | status (update : StatusUpdate)
  | artifact (update : ArtifactUpdate)
deriving DecidableEq, Repr, Inhabited

/-- The four sorts of results. -/
inductive ResultKind where
  | task
  | message
  | status
  | artifact
deriving DecidableEq, Repr, Inhabited

namespace ResultKind

/-- The sort named by the member `kind`. -/
def ofName? : String → Option ResultKind
  | "task" => some .task
  | "message" => some .message
  | "status-update" => some .status
  | "artifact-update" => some .artifact
  | _ => none

/-- The sort a wrapper's only member is named for. -/
def ofWrapper? : String → Option ResultKind
  | "task" => some .task
  | "message" => some .message
  | "msg" => some .message
  | "statusUpdate" => some .status
  | "artifactUpdate" => some .artifact
  | _ => none

def ofShape? (has : String → Bool) : Option ResultKind :=
  if has "taskId" && has "artifact" then some .artifact
  else if has "taskId" && has "status" then some .status
  else if has "id" && has "status" then some .task
  else if has "role" && has "parts" then some .message
  else none

end ResultKind

namespace StreamResult

def readAs (kind : ResultKind) (v : Value) : Except Fault StreamResult :=
  match kind with
  | .task => (Task.format.readValue v).map .task
  | .message => (Message.format.readValue v).map .message
  | .status => (StatusUpdate.format.readValue v).map .status
  | .artifact => (ArtifactUpdate.format.readValue v).map .artifact

/-- The sort that the member `kind` of a value names. -/
def kind? (v : Value) : Option ResultKind :=
  match v.get? "kind" with
  | some (.str kind) => ResultKind.ofName? kind
  | _ => none

def wrapped? : Value → Option (ResultKind × Value)
  | .obj [(name, inner)] => (ResultKind.ofWrapper? name).map (·, inner)
  | _ => none

def shape? : Value → Option ResultKind
  | .obj members => ResultKind.ofShape? fun name => (members.lookup name).isSome
  | _ => none

/-- How a value is to be decoded: as which sort, and which part of it. -/
def classify (v : Value) : Option (ResultKind × Value) :=
  match kind? v with
  | some kind => some (kind, v)
  | none =>
    match wrapped? v with
    | some found => some found
    | none => (shape? v).map (·, v)

/-- Decodes a value as a result; values of no known sort are passed over. -/
def ofValue (v : Value) : Except Fault (Option StreamResult) :=
  match classify v with
  | none => .ok none
  | some (kind, inner) => (readAs kind inner).map some

end StreamResult

/-- What a stream delivers: a task sent whole, the task as it stands after an update, or a message that
belongs to no task. -/
inductive Event where
  | snapshot (task : Task)
  | update (task : Task)
  | message (message : Message)
deriving DecidableEq, Repr, Inhabited

namespace Event

def task? : Event → Option Task
  | .snapshot task => some task
  | .update task => some task
  | .message _ => none

end Event

end AgentDelegation

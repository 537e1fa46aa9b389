import AgentDelegation.Protocol.Message

/-!
# Tasks

A task is what a remote agent makes of a message: it has a state, and artifacts that carry its answer.
The answer of a task is the text of its artifacts, parts and artifacts in order, with everything that is
not text left out.
-/

namespace AgentDelegation

open Json

structure Artifact where
  artifactId : String
  name : Option String
  description : Option String
  parts : List Part
  metadata : Option Members
deriving DecidableEq, Repr, Inhabited

namespace Artifact

def record : Record Artifact Artifact :=
  mk <$> .defaulted "artifactId" .text "" artifactId
    <*> .optional "name" .text name
    <*> .optional "description" .text description
    <*> .defaulted "parts" (.list Part.format) [] parts
    <*> .optional "metadata" .members metadata

def format : Format Artifact := record.format "Artifact"

def ofText (id text : String) : Artifact := ⟨id, none, none, [.ofText text], none⟩

end Artifact

inductive TaskState where
  | submitted
  | working
  | inputRequired
  | completed
  | failed
  | canceled
  | rejected
  | authRequired
  | unknown
deriving DecidableEq, Repr, Inhabited

namespace TaskState

def name : TaskState → String
  | .submitted => "submitted"
  | .working => "working"
  | .inputRequired => "input-required"
  | .completed => "completed"
  | .failed => "failed"
  | .canceled => "canceled"
  | .rejected => "rejected"
  | .authRequired => "auth-required"
  | .unknown => "unknown"

/-- The spellings of the states in both protocol versions, in the order messages list them. -/
def spellings : List (String × TaskState) :=
  [("TASK_STATE_SUBMITTED", .submitted), ("submitted", .submitted),
   ("TASK_STATE_WORKING", .working), ("working", .working),
   ("TASK_STATE_INPUT_REQUIRED", .inputRequired), ("input-required", .inputRequired),
   ("TASK_STATE_COMPLETED", .completed), ("completed", .completed),
   ("TASK_STATE_FAILED", .failed), ("failed", .failed),
   ("TASK_STATE_CANCELED", .canceled), ("TASK_STATE_CANCELLED", .canceled),
   ("canceled", .canceled), ("cancelled", .canceled),
   ("TASK_STATE_REJECTED", .rejected), ("rejected", .rejected),
   ("TASK_STATE_AUTH_REQUIRED", .authRequired), ("auth-required", .authRequired),
   ("TASK_STATE_UNSPECIFIED", .unknown), ("unknown", .unknown)]

def format : Format TaskState := .variants spellings name

/-- After these states the remote agent produces nothing more. -/
def isTerminal : TaskState → Bool
  | .completed | .failed | .canceled | .rejected => true
  | _ => false

end TaskState

structure TaskStatus where
  state : TaskState
  message : Option Message
  timestamp : Option String
deriving DecidableEq, Repr, Inhabited

namespace TaskStatus

def record : Record TaskStatus TaskStatus :=
  mk <$> .required "state" TaskState.format state
    <*> .optional "message" Message.format message
    <*> .optional "timestamp" .text timestamp

def format : Format TaskStatus := record.format "TaskStatus"

def ofState (state : TaskState) : TaskStatus := ⟨state, none, none⟩

end TaskStatus

structure Task where
  id : String
  contextId : Option String
  status : TaskStatus
  artifacts : Option (List Artifact)
  history : Option (List Message)
deriving DecidableEq, Repr, Inhabited

namespace Task

def record : Record Task Task :=
  mk <$> .required "id" .text id
    <*> .optional "contextId" .text contextId
    <*> .required "status" TaskStatus.format status
    <*> .optional "artifacts" (.list Artifact.format) artifacts
    <*> .optional "history" (.list Message.format) history

def format : Format Task := record.format "Task"

def ofState (id : String) (state : TaskState) : Task := ⟨id, none, .ofState state, none, none⟩

def state (task : Task) : TaskState := task.status.state

/-- The answer of a task: the texts of its artifacts, joined. -/
def answer (task : Task) : String :=
  String.join (((task.artifacts.getD []).flatMap Artifact.parts).filterMap Part.text?)

end Task

/-- News about the state of a task. -/
structure StatusUpdate where
  taskId : String
  contextId : Option String
  status : TaskStatus
  isFinal : Bool
deriving DecidableEq, Repr, Inhabited

namespace StatusUpdate

def record : Record StatusUpdate StatusUpdate :=
  mk <$> .required "taskId" .text taskId
    <*> .optional "contextId" .text contextId
    <*> .required "status" TaskStatus.format status
    <*> .defaulted "final" .flag false isFinal

def format : Format StatusUpdate := record.format "TaskStatusUpdateEvent"

end StatusUpdate

/-- A piece of an artifact of a task, to be put in place of the artifact or added to its end. -/
structure ArtifactUpdate where
  taskId : String
  contextId : Option String
  artifact : Artifact
  append : Bool
  lastChunk : Bool
deriving DecidableEq, Repr, Inhabited

namespace ArtifactUpdate

def record : Record ArtifactUpdate ArtifactUpdate :=
  mk <$> .required "taskId" .text taskId
    <*> .optional "contextId" .text contextId
    <*> .required "artifact" Artifact.format artifact
    <*> .defaulted "append" .flag false append
    <*> .defaulted "lastChunk" .flag false lastChunk

def format : Format ArtifactUpdate := record.format "TaskArtifactUpdateEvent"

end ArtifactUpdate

end AgentDelegation

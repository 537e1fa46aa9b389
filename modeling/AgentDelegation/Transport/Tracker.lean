import AgentDelegation.Protocol.StreamResult

/-!
# Following a task

An update says what changed, and whoever waits for a task wants to see it whole. A tracker holds the task
that a stream is about as it stands, and turns each result into an event that carries it: a task sent
whole takes the place of the tracked one, an update is applied to it, and a message changes nothing. An
update of another task than the tracked one begins with a fresh task in the state `submitted`.
-/

namespace AgentDelegation

namespace Artifact

/-- Puts a piece in place of the first artifact with its id, or appends the piece's parts to that
artifact; without such an artifact the piece goes to the end. -/
def merge (append : Bool) (piece : Artifact) : List Artifact → List Artifact
  | [] => [piece]
  | artifact :: rest =>
    if artifact.artifactId = piece.artifactId then
      (if append then { artifact with parts := artifact.parts ++ piece.parts } else piece) :: rest
    else artifact :: merge append piece rest

/-- Merging leaves the ids as they are and adds the piece's id if it is new. -/
theorem map_artifactId_merge (append : Bool) (piece : Artifact) (artifacts : List Artifact) :
    (merge append piece artifacts).map artifactId
      = if piece.artifactId ∈ artifacts.map artifactId then artifacts.map artifactId
        else artifacts.map artifactId ++ [piece.artifactId] := by
  induction artifacts with
  | nil => simp [merge]
  | cons artifact rest ih =>
      by_cases h : artifact.artifactId = piece.artifactId
      · cases append <;> simp [merge, h]
      · have h' : ¬ piece.artifactId = artifact.artifactId := fun e => h e.symm
        simp only [merge, if_neg h, List.map_cons, ih, List.mem_cons, h', false_or]
        split <;> simp

end Artifact

/-- The task that a stream is about, once there is one. -/
structure Tracker where
  task : Option Task
deriving DecidableEq, Repr, Inhabited

namespace Tracker

def empty : Tracker := ⟨none⟩

/-- The tracked task if it has the given id, and else a fresh one. -/
def taskFor (tracker : Tracker) (id : String) (contextId : Option String) : Task :=
  match tracker.task with
  | some task => if task.id = id then task else { Task.ofState id .submitted with contextId := contextId }
  | none => { Task.ofState id .submitted with contextId := contextId }

def applyStatus (tracker : Tracker) (update : StatusUpdate) : Task :=
  { tracker.taskFor update.taskId update.contextId with status := update.status }

def applyArtifact (tracker : Tracker) (update : ArtifactUpdate) : Task :=
  let task := tracker.taskFor update.taskId update.contextId
  { task with artifacts := some (Artifact.merge update.append update.artifact (task.artifacts.getD [])) }

def event (tracker : Tracker) : StreamResult → Event
  | .task task => .snapshot task
  | .message message => .message message
  | .status update => .update (tracker.applyStatus update)
  | .artifact update => .update (tracker.applyArtifact update)

def next (tracker : Tracker) (result : StreamResult) : Tracker :=
  match (tracker.event result).task? with
  | some task => ⟨some task⟩
  | none => tracker

def after (tracker : Tracker) (results : List StreamResult) : Tracker := results.foldl next tracker

def events (tracker : Tracker) : List StreamResult → List Event
  | [] => []
  | result :: rest => tracker.event result :: (tracker.next result).events rest

@[simp] theorem next_message (tracker : Tracker) (message : Message) :
    tracker.next (.message message) = tracker := rfl

@[simp] theorem next_task (tracker : Tracker) (task : Task) : tracker.next (.task task) = ⟨some task⟩ := rfl

/-- An event about a task carries the task that is tracked after it. -/
theorem task_next_of_task_event {tracker : Tracker} {result : StreamResult} {task : Task}
    (h : (tracker.event result).task? = some task) : (tracker.next result).task = some task := by
  simp [next, h]

end Tracker

end AgentDelegation

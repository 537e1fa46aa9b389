import AgentDelegation.Transport.Tracker
import Mathlib.Data.List.Induction

/-!
# The current run of a stream

What a tracker holds depends only on the end of what it was told: on the last result that began over, a
task sent whole or an update of another task than before, and on the updates since. That end is the
current run. It is described here by the results alone, and `task_after_run` says that the tracker holds
what the updates of the run make of the task that it begins with.
-/

namespace AgentDelegation

namespace StreamResult

/-- The id of the task that a result is about; a message is about none. -/
def taskId? : StreamResult → Option String
  | .task snapshot => some snapshot.id
  | .message _ => none
  | .status update => some update.taskId
  | .artifact update => some update.taskId

def piece? : StreamResult → Option ArtifactUpdate
  | .artifact update => some update
  | .task _ | .message _ | .status _ => none

def lastTaskId? (results : List StreamResult) : Option String := (results.filterMap taskId?).getLast?

/-- Whether a result begins a run after earlier ones: a task sent whole always does, an update does if the
results were about another task before, or about none. -/
def Begins (earlier : List StreamResult) : StreamResult → Prop
  | .task _ => True
  | .message _ => False
  | .status update => lastTaskId? earlier ≠ some update.taskId
  | .artifact update => lastTaskId? earlier ≠ some update.taskId

def Continues (earlier : List StreamResult) : List StreamResult → Prop
  | [] => True
  | result :: rest => ¬ Begins earlier result ∧ Continues (earlier ++ [result]) rest

/-- The task that a run begins with: the one sent whole, or a fresh one for the task that the update
names. -/
def base? : StreamResult → Option Task
  | .task snapshot => some snapshot
  | .message _ => none
  | .status update => some { Task.ofState update.taskId .submitted with contextId := update.contextId }
  | .artifact update => some { Task.ofState update.taskId .submitted with contextId := update.contextId }

/-- The current run of a sequence of results: the last result that begins a run, and all results from
there on. -/
structure Run (results : List StreamResult) where
  earlier : List StreamResult
  first : StreamResult
  later : List StreamResult
  /-- The task that the run begins with. -/
  base : Task
  results_eq : results = earlier ++ first :: later
  begins : Begins earlier first
  continues : Continues (earlier ++ [first]) later
  base_eq : first.base? = some base

namespace Run

variable {results : List StreamResult}

def baseArtifacts (run : Run results) : List Artifact := run.base.artifacts.getD []

def pieces (run : Run results) : List ArtifactUpdate := (run.first :: run.later).filterMap piece?

end Run

/-! ### Which results begin a run -/

@[simp] theorem lastTaskId?_concat (results : List StreamResult) (result : StreamResult) :
    lastTaskId? (results ++ [result]) = result.taskId?.or (lastTaskId? results) := by
  cases hid : result.taskId? <;> simp [lastTaskId?, hid]

theorem lastTaskId?_eq_none_iff {results : List StreamResult} :
    lastTaskId? results = none ↔ ∀ result ∈ results, result.taskId? = none := by
  simp [lastTaskId?]

theorem continues_concat {earlier later : List StreamResult} {result : StreamResult}
    (hlater : Continues earlier later) (hresult : ¬ Begins (earlier ++ later) result) :
    Continues earlier (later ++ [result]) := by
  induction later generalizing earlier with
  | nil => exact ⟨by simpa using hresult, trivial⟩
  | cons next rest ih => exact ⟨hlater.1, ih hlater.2 (by simpa using hresult)⟩

theorem exists_base_of_begins {earlier : List StreamResult} {result : StreamResult}
    (h : Begins earlier result) : ∃ base, result.base? = some base := by
  cases result with
  | message => cases h
  | task | status | artifact => exact ⟨_, rfl⟩

theorem taskId?_of_not_begins {earlier : List StreamResult} {result : StreamResult}
    (h : ¬ Begins earlier result) : ∀ id, result.taskId? = some id → lastTaskId? earlier = some id := by
  intro id hid
  cases result with
  | message => cases hid
  | task => exact absurd trivial h
  | status | artifact => exact Option.some.inj hid ▸ not_not.mp h

theorem nonempty_run {results : List StreamResult} (h : lastTaskId? results ≠ none) : Nonempty (Run results) := by
  induction results using List.reverseRecOn with
  | nil => exact absurd rfl h
  | append_singleton results result ih =>
      by_cases hbegins : Begins results result
      · obtain ⟨base, hbase⟩ := exists_base_of_begins hbegins
        exact ⟨⟨results, result, [], base, rfl, hbegins, trivial, hbase⟩⟩
      · have hresults : lastTaskId? results ≠ none := by
          intro hnone
          cases hid : result.taskId? with
          | none => simp [hid, hnone] at h
          | some id => simp [taskId?_of_not_begins hbegins id hid] at hnone
        obtain ⟨earlier, first, later, base, heq, hfirst, hlater, hbase⟩ := ih hresults
        refine ⟨⟨earlier, first, later ++ [result], base, by simp [heq], hfirst, ?_, hbase⟩⟩
        exact continues_concat hlater (by simpa [heq] using hbegins)

end StreamResult

open StreamResult

def Task.absorb (task : Task) : StreamResult → Task
  | .status update => { task with status := update.status }
  | .artifact update =>
    { task with artifacts := some (Artifact.merge update.append update.artifact (task.artifacts.getD [])) }
  | .task _ | .message _ => task

namespace Tracker

@[simp] theorem id_taskFor (tracker : Tracker) (id : String) (contextId : Option String) :
    (tracker.taskFor id contextId).id = id := by
  rw [taskFor]
  split
  · split
    · assumption
    · rfl
  · rfl

@[simp] theorem after_concat (tracker : Tracker) (results : List StreamResult) (result : StreamResult) :
    tracker.after (results ++ [result]) = (tracker.after results).next result := by
  simp only [after, List.foldl_append, List.foldl_cons, List.foldl_nil]

theorem map_id_task_next (tracker : Tracker) (result : StreamResult) :
    (tracker.next result).task.map Task.id = result.taskId?.or (tracker.task.map Task.id) := by
  cases result with
  | task | message => rfl
  | status update => simp [next, event, Event.task?, applyStatus, taskId?]
  | artifact update => simp [next, event, Event.task?, applyArtifact, taskId?]

theorem map_id_task_after (results : List StreamResult) :
    (empty.after results).task.map Task.id = lastTaskId? results := by
  induction results using List.reverseRecOn with
  | nil => rfl
  | append_singleton results result ih => rw [after_concat, map_id_task_next, ih, lastTaskId?_concat]

theorem taskFor_of_ne (tracker : Tracker) {id : String} (h : tracker.task.map Task.id ≠ some id)
    (contextId : Option String) :
    tracker.taskFor id contextId = { Task.ofState id .submitted with contextId := contextId } := by
  rw [taskFor]
  split
  · rename_i task htask
    rw [if_neg]
    rintro rfl
    exact h (by rw [htask]; rfl)
  · rfl

theorem taskFor_of_task {tracker : Tracker} {task : Task} (h : tracker.task = some task)
    (contextId : Option String) : tracker.taskFor task.id contextId = task := by
  rw [taskFor, h]
  exact if_pos rfl

variable {earlier : List StreamResult} {result : StreamResult}

theorem task_next_of_begins (h : Begins earlier result) {base : Task} (hbase : result.base? = some base) :
    ((empty.after earlier).next result).task = some (base.absorb result) := by
  cases result with
  | message => cases hbase
  | task snapshot => obtain rfl : snapshot = base := Option.some.inj hbase; rfl
  | status update =>
      obtain rfl := Option.some.inj hbase
      have hfor := taskFor_of_ne (empty.after earlier) (by rw [map_id_task_after]; exact h)
      simp only [next, event, Event.task?, applyStatus, hfor, Task.absorb]
  | artifact update =>
      obtain rfl := Option.some.inj hbase
      have hfor := taskFor_of_ne (empty.after earlier) (by rw [map_id_task_after]; exact h)
      simp only [next, event, Event.task?, applyArtifact, hfor, Task.absorb]

theorem task_next_of_not_begins (h : ¬ Begins earlier result) {task : Task}
    (htask : (empty.after earlier).task = some task) :
    ((empty.after earlier).next result).task = some (task.absorb result) := by
  have hid : lastTaskId? earlier = some task.id := by rw [← map_id_task_after, htask]; rfl
  cases result with
  | task => exact absurd trivial h
  | message => exact htask
  | status update =>
      have hfor := taskFor_of_task htask update.contextId
      rw [Option.some.inj (hid.symm.trans (not_not.mp h))] at hfor
      simp only [next, event, Event.task?, applyStatus, hfor, Task.absorb]
  | artifact update =>
      have hfor := taskFor_of_task htask update.contextId
      rw [Option.some.inj (hid.symm.trans (not_not.mp h))] at hfor
      simp only [next, event, Event.task?, applyArtifact, hfor, Task.absorb]

theorem task_after_of_continues {later : List StreamResult} (h : Continues earlier later) {task : Task}
    (htask : (empty.after earlier).task = some task) :
    (empty.after (earlier ++ later)).task = some (later.foldl Task.absorb task) := by
  induction later generalizing earlier task with
  | nil => simpa using htask
  | cons result rest ih =>
      obtain ⟨hresult, hrest⟩ := h
      have hnext := task_next_of_not_begins hresult htask
      rw [← after_concat] at hnext
      simpa using ih hrest hnext

/-- The tracker holds what the updates of the current run make of the task that the run begins with. -/
theorem task_after_run {results : List StreamResult} (run : Run results) :
    (empty.after results).task = some ((run.first :: run.later).foldl Task.absorb run.base) := by
  have hfirst := task_next_of_begins run.begins run.base_eq
  rw [← after_concat] at hfirst
  have hlater := task_after_of_continues run.continues hfirst
  rw [List.append_assoc, List.singleton_append, ← run.results_eq] at hlater
  exact hlater

end Tracker

end AgentDelegation

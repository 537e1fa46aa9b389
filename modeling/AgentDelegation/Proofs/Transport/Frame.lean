import AgentDelegation.Proofs.Transport.Run

/-!
# What each result leaves alone

A status update changes the status of the tracked task and nothing else, and a piece changes its artifacts
and nothing else. So for a whole run of updates the task keeps the id, the context and the history that the
run began with, and its status is the last one that was told. Only the result that begins a run replaces
the task, and then nothing of the earlier one is left.
-/

namespace AgentDelegation

namespace StreamResult

def status? : StreamResult → Option TaskStatus
  | .status update => some update.status
  | .task _ | .message _ | .artifact _ => none

namespace Run

variable {results : List StreamResult}

def statuses (run : Run results) : List TaskStatus := (run.first :: run.later).filterMap status?

end Run

/-! ### There is one current run -/

theorem not_begins_of_continues {earlier middle later : List StreamResult} {result : StreamResult}
    (h : Continues earlier (middle ++ result :: later)) : ¬ Begins (earlier ++ middle) result := by
  induction middle generalizing earlier with
  | nil => simpa using h.1
  | cons next rest ih => simpa using ih h.2

/-- No result after the first of a run begins another. -/
theorem Run.length_le_of_begins {results : List StreamResult} (run : Run results)
    {earlier later : List StreamResult} {result : StreamResult} (heq : results = earlier ++ result :: later)
    (hbegins : Begins earlier result) : earlier.length ≤ run.earlier.length := by
  by_contra hlonger
  have hsplit : run.earlier ++ run.first :: run.later = earlier ++ result :: later :=
    run.results_eq.symm.trans heq
  obtain ⟨middle, hmiddle, hlater⟩ : ∃ middle, earlier = run.earlier ++ run.first :: middle ∧
      run.later = middle ++ result :: later := by
    rcases List.append_eq_append_iff.mp hsplit with ⟨middle, rfl, hrest⟩ | ⟨middle, hearlier, -⟩
    · cases middle with
      | nil => simp at hlonger
      | cons first middle =>
          obtain ⟨rfl, hlater⟩ := List.cons.inj hrest
          exact ⟨middle, rfl, hlater⟩
    · simp [hearlier] at hlonger
  have hnot := not_begins_of_continues (hlater ▸ run.continues)
  rw [hmiddle, ← List.singleton_append, ← List.append_assoc] at hbegins
  exact hnot hbegins

instance subsingleton_run (results : List StreamResult) : Subsingleton (Run results) where
  allEq run other := by
    have hlength : run.earlier.length = other.earlier.length :=
      Nat.le_antisymm (other.length_le_of_begins run.results_eq run.begins)
        (run.length_le_of_begins other.results_eq other.begins)
    obtain ⟨earlier, first, later, base, heq, hbegins, hcontinues, hbase⟩ := run
    obtain ⟨earlier', first', later', base', heq', hbegins', hcontinues', hbase'⟩ := other
    obtain ⟨rfl, hrest⟩ := List.append_inj (heq.symm.trans heq') hlength
    obtain ⟨rfl, rfl⟩ := List.cons.inj hrest
    obtain rfl := Option.some.inj (hbase.symm.trans hbase')
    rfl

end StreamResult

open StreamResult

/-! ### One update, and a run of updates -/

namespace Task

/-- Agreement in what no update changes. -/
structure SameOrigin (task other : Task) : Prop where
  id_eq : task.id = other.id
  contextId_eq : task.contextId = other.contextId
  history_eq : task.history = other.history

theorem SameOrigin.trans {first second third : Task} (h : first.SameOrigin second)
    (h' : second.SameOrigin third) : first.SameOrigin third :=
  ⟨h.id_eq.trans h'.id_eq, h.contextId_eq.trans h'.contextId_eq, h.history_eq.trans h'.history_eq⟩

theorem sameOrigin_absorb (task : Task) (result : StreamResult) : (task.absorb result).SameOrigin task := by
  cases result <;> exact ⟨rfl, rfl, rfl⟩

theorem sameOrigin_foldl_absorb (task : Task) (results : List StreamResult) :
    (results.foldl absorb task).SameOrigin task := by
  induction results generalizing task with
  | nil => exact ⟨rfl, rfl, rfl⟩
  | cons result rest ih => exact (ih _).trans (task.sameOrigin_absorb result)

theorem status_absorb (task : Task) (result : StreamResult) :
    (task.absorb result).status = result.status?.getD task.status := by
  cases result <;> rfl

theorem status_foldl_absorb (task : Task) (results : List StreamResult) :
    (results.foldl absorb task).status = (results.filterMap status?).getLast?.getD task.status := by
  induction results using List.reverseRecOn with
  | nil => rfl
  | append_singleton results result ih =>
      rw [List.foldl_append, List.foldl_cons, List.foldl_nil, status_absorb, ih]
      cases hstatus : result.status? <;> simp [hstatus]

end Task

namespace Tracker

/-! ### Events -/

theorem getElem?_events (tracker : Tracker) (results : List StreamResult) (n : Nat) :
    (tracker.events results)[n]? = results[n]?.map (tracker.after (results.take n)).event := by
  induction results generalizing tracker n with
  | nil => rfl
  | cons result rest ih =>
      cases n with
      | zero => rfl
      | succ n => exact ih (tracker.next result) n

theorem after_take_succ (tracker : Tracker) {results : List StreamResult} {n : Nat} {result : StreamResult}
    (h : results[n]? = some result) :
    tracker.after (results.take (n + 1)) = (tracker.after (results.take n)).next result := by
  rw [List.take_add_one, h, Option.toList_some, after_concat]

theorem task?_event (tracker : Tracker) {result : StreamResult} (h : result.taskId? ≠ none) :
    ∃ task, (tracker.event result).task? = some task := by
  cases result with
  | message => exact absurd rfl h
  | task | status | artifact => exact ⟨_, rfl⟩

theorem task_next_status {tracker : Tracker} {task : Task} (h : tracker.task = some task)
    {update : StatusUpdate} (hid : task.id = update.taskId) :
    (tracker.next (.status update)).task = some { task with status := update.status } := by
  have hfor := taskFor_of_task h update.contextId
  rw [hid] at hfor
  simp only [next, event, Event.task?, applyStatus, hfor]

theorem task_after_eq_none_iff {results : List StreamResult} :
    (empty.after results).task = none ↔ ∀ result ∈ results, result.taskId? = none := by
  rw [← lastTaskId?_eq_none_iff, ← map_id_task_after, Option.map_eq_none_iff]

/-- What is tracked after any results, field by field. The tracked id is the last one that was named, so a
run begins with each whole task and with each update of another task than the tracked one. Nothing is
tracked if no task was named. Otherwise there is one current run, the tracked task has the id, the context
and the history of its base, and its status is the last that the run told, or that of the base. Each event
about a task carries the task that is tracked after it, a message is passed on and changes nothing, and a
status update of the tracked task changes its status only. -/
theorem frame_after (results : List StreamResult) :
    (empty.after results).task.map Task.id = lastTaskId? results ∧
    ((empty.after results).task = none ↔ ∀ result ∈ results, result.taskId? = none) ∧
    ((empty.after results).task ≠ none → Nonempty (Run results) ∧ Subsingleton (Run results)) ∧
    (∀ run : Run results, ∃ task, (empty.after results).task = some task ∧ task.SameOrigin run.base ∧
      task.status = run.statuses.getLast?.getD run.base.status) ∧
    ∀ n result, results[n]? = some result → ∃ event, (empty.events results)[n]? = some event ∧
      (result.taskId? ≠ none →
        ∃ task, event.task? = some task ∧ (empty.after (results.take (n + 1))).task = some task) ∧
      (∀ message, result = .message message → event = .message message ∧
        empty.after (results.take (n + 1)) = empty.after (results.take n)) ∧
      ∀ update task, result = .status update → (empty.after (results.take n)).task = some task →
        task.id = update.taskId →
        (empty.after (results.take (n + 1))).task = some { task with status := update.status } := by
  refine ⟨map_id_task_after results, task_after_eq_none_iff, fun htask => ⟨?_, subsingleton_run results⟩,
    fun run => ?_, fun n result hresult => ?_⟩
  · refine nonempty_run fun hnone => htask ?_
    rwa [← map_id_task_after, Option.map_eq_none_iff] at hnone
  · exact ⟨_, task_after_run run, Task.sameOrigin_foldl_absorb _ _, Task.status_foldl_absorb _ _⟩
  · have hafter := empty.after_take_succ hresult
    refine ⟨_, by rw [getElem?_events, hresult]; rfl, fun hnamed => ?_, ?_, ?_⟩
    · obtain ⟨task, htask⟩ := (empty.after (results.take n)).task?_event hnamed
      exact ⟨task, htask, by rw [hafter]; exact task_next_of_task_event htask⟩
    · rintro message rfl
      exact ⟨rfl, by rw [hafter, next_message]⟩
    · rintro update task rfl htask hid
      rw [hafter]
      exact task_next_status htask hid

/-- News of one task, then another task sent whole with a context and a history, and its updates among
messages; one of them names another context. -/
def switching : List StreamResult :=
  [.message (.ofUser "m" "hello"), .status ⟨"first", some "c", .ofState .working, false⟩,
    .task { Task.ofState "second" .submitted with
      contextId := some "d", history := some [.ofUser "n" "and now this"] },
    .artifact ⟨"second", some "e", .ofText "a" "done", false, true⟩,
    .status ⟨"second", none, .ofState .inputRequired, false⟩, .message (.ofUser "o" "well?"),
    .artifact ⟨"second", none, .ofText "b" "nearly", false, true⟩]

def switchingRun : Run switching where
  earlier := switching.take 2
  first := .task { Task.ofState "second" .submitted with
    contextId := some "d", history := some [.ofUser "n" "and now this"] }
  later := switching.drop 3
  base := { Task.ofState "second" .submitted with
    contextId := some "d", history := some [.ofUser "n" "and now this"] }
  results_eq := rfl
  begins := trivial
  continues := ⟨fun h => h rfl, fun h => h rfl, fun h => h, fun h => h rfl, trivial⟩
  base_eq := rfl

theorem frame_after_switching : (empty.after switching).task ≠ none ∧
    (∃ task, (empty.after switching).task = some task ∧ task.id = "second" ∧ task.contextId = some "d" ∧
      task.history = some [.ofUser "n" "and now this"] ∧ task.status = .ofState .inputRequired) ∧
    (∃ task, (empty.events switching)[4]? = some (.update task) ∧
      (empty.after (switching.take 5)).task = some task ∧ task.artifacts = some [.ofText "a" "done"]) ∧
    (empty.events switching)[5]? = some (.message (.ofUser "o" "well?")) ∧
    empty.after (switching.take 6) = empty.after (switching.take 5) := by
  obtain ⟨-, -, -, hrun, hevents⟩ := frame_after switching
  obtain ⟨task, htask, horigin, hstatus⟩ := hrun switchingRun
  refine ⟨by simp [htask], ⟨task, htask, horigin.id_eq, horigin.contextId_eq, horigin.history_eq, hstatus⟩, ?_, ?_⟩
  · obtain ⟨event, hevent, hnamed, -, hkept⟩ := hevents 4 _ rfl
    obtain ⟨carried, hcarried, hafter⟩ := hnamed (by simp [taskId?])
    have hupdated := hkept _ _ rfl rfl rfl
    obtain rfl := Option.some.inj (hafter.symm.trans hupdated)
    exact ⟨_, hevent.trans (by cases hevent; rfl), hafter, rfl⟩
  · obtain ⟨event, hevent, -, hmessage, -⟩ := hevents 5 _ rfl
    obtain ⟨rfl, hsame⟩ := hmessage _ rfl
    exact ⟨hevent, hsame⟩

end Tracker

end AgentDelegation

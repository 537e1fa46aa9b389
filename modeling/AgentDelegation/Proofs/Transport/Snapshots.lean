import AgentDelegation.Proofs.Delegation.Streams
import AgentDelegation.Transport.Tracker
import Mathlib.Data.List.Forall2

/-!
# Whole tasks in place of updates

A peer may tell the news of a task in updates, or send the task whole each time it changes. It comes to
the same: where an update is replaced by the task as it was reported on the update, the tracker goes on as
before (`next_result_event`), and every event carries the task that it carried. All that a tracker knows
stands in the tasks that it reports.
-/

namespace AgentDelegation

namespace Event

/-- The result that tells an event whole: the task that it carries, or its message. -/
def result : Event → StreamResult
  | .snapshot task => .task task
  | .update task => .task task
  | .message said => .message said

/-- The same news, except that a task may come whole in place of an update. -/
inductive SameNews : Event → Event → Prop where
  | same (event : Event) : SameNews event event
  | whole (task : Task) : SameNews (.update task) (.snapshot task)

theorem SameNews.task?_eq {event other : Event} (h : SameNews event other) : other.task? = event.task? := by
  cases h <;> rfl

theorem map_task?_of_sameNews {events others : List Event} (h : List.Forall₂ SameNews events others) :
    others.map task? = events.map task? := by
  induction h with
  | nil => rfl
  | cons hfirst _ ih => rw [List.map_cons, List.map_cons, hfirst.task?_eq, ih]

end Event

namespace Tracker

open Event

/-- The results with each chosen update replaced by the whole task that was reported on it. A task sent
whole and a message stay what they are, chosen or not. -/
def restate (tracker : Tracker) : List (StreamResult × Bool) → List StreamResult
  | [] => []
  | (result, chosen) :: rest =>
    (if chosen then (tracker.event result).result else result) :: (tracker.next result).restate rest

theorem next_result_event (tracker : Tracker) (result : StreamResult) :
    tracker.next (tracker.event result).result = tracker.next result := by
  cases result <;> rfl

theorem sameNews_event_result (tracker : Tracker) (result : StreamResult) :
    SameNews (tracker.event result) (tracker.event (tracker.event result).result) := by
  cases result with
  | task | message => exact .same _
  | status | artifact => exact .whole _

theorem next_ite_result (tracker : Tracker) (result : StreamResult) (chosen : Bool) :
    tracker.next (if chosen then (tracker.event result).result else result) = tracker.next result := by
  cases chosen with
  | false => rfl
  | true => exact tracker.next_result_event result

theorem after_take_restate (tracker : Tracker) (marked : List (StreamResult × Bool)) (n : Nat) :
    tracker.after ((tracker.restate marked).take n) = tracker.after ((marked.map Prod.fst).take n) := by
  induction marked generalizing tracker n with
  | nil => rfl
  | cons mark rest ih =>
      cases n with
      | zero => rfl
      | succ n =>
          obtain ⟨result, chosen⟩ := mark
          have hrest := ih (tracker.next result) n
          rw [after, after] at hrest
          simp only [restate, after, List.map_cons, List.take_succ_cons, List.foldl_cons, next_ite_result, hrest]

theorem sameNews_events_restate (tracker : Tracker) (marked : List (StreamResult × Bool)) :
    List.Forall₂ SameNews (tracker.events (marked.map Prod.fst)) (tracker.events (tracker.restate marked)) := by
  induction marked generalizing tracker with
  | nil => exact .nil
  | cons mark rest ih =>
      obtain ⟨result, chosen⟩ := mark
      simp only [restate, events, List.map_cons, next_ite_result]
      refine .cons ?_ (ih _)
      cases chosen with
      | false => exact .same _
      | true => exact tracker.sameNews_event_result result

open Settlement Happening in
/-- Whichever updates a peer replaces by the whole tasks reported on them, the tracker holds the same task
after every result and the events carry the same tasks. So a delegation stands the same after every event,
and two delegations whose streams differ in nothing else have the same outcome. -/
theorem restate_tells_the_same (marked : List (StreamResult × Bool)) :
    (∀ n, empty.after ((empty.restate marked).take n) = empty.after ((marked.map Prod.fst).take n)) ∧
    List.Forall₂ SameNews (empty.events (marked.map Prod.fst)) (empty.events (empty.restate marked)) ∧
    (∀ agent n, start.run agent (((empty.events (empty.restate marked)).take n).map .event)
      = start.run agent (((empty.events (marked.map Prod.fst)).take n).map .event)) ∧
    ∀ stream whole : List Happening, stream.filterMap event? = empty.events (marked.map Prod.fst) →
      whole.filterMap event? = empty.events (empty.restate marked) → stream.map aside? = whole.map aside? →
      ∀ (delegator other : Delegator) (id id' agent task task' : String),
        delegator.Plays id agent task stream → other.Plays id' agent task' whole →
        delegator.timeout = other.timeout →
        (delegator.delegate id agent task).outcome = (other.delegate id' agent task').outcome := by
  have hnews := empty.sameNews_events_restate marked
  refine ⟨empty.after_take_restate marked, hnews, fun agent n => ?_, ?_⟩
  · refine run_events_congr ?_ start
    rw [List.map_take, List.map_take, map_task?_of_sameNews hnews]
  · intro stream whole hstream hwhole haside delegator other id id' agent task task' hplays hplays' htimeout
    refine Delegator.outcome_congr hplays hplays' htimeout fun left => watch_congr haside ?_ start left
    rw [hstream, hwhole, map_task?_of_sameNews hnews]

/-- A greeting in two pieces between two changes of state; all but the first piece are chosen. -/
def greeting : List (StreamResult × Bool) :=
  [(.status ⟨"t", none, .ofState .working, false⟩, true),
    (.artifact ⟨"t", none, .ofText "a" "Hello, ", false, false⟩, false),
    (.artifact ⟨"t", none, .ofText "a" "world", true, true⟩, true),
    (.status ⟨"t", none, .ofState .completed, true⟩, true)]

/-- A stream that delivers the events of results after a pause. -/
def delivering (results : List StreamResult) : List Happening :=
  .pause 40 :: (empty.events results).map .event

open Settlement Happening Delegator in
theorem restate_greeting : empty.restate greeting ≠ greeting.map Prod.fst ∧
    (delivering (greeting.map Prod.fst)).map aside? = (delivering (empty.restate greeting)).map aside? ∧
    ((playing ⟨1, 0⟩ (delivering (greeting.map Prod.fst))).delegate "m" "orders" "greet").outcome
      = .ok "Hello, world" ∧
    ((playing ⟨1, 0⟩ (delivering (empty.restate greeting))).delegate "n" "orders" "greet").outcome
      = .ok "Hello, world" := by
  have haside : (delivering (greeting.map Prod.fst)).map aside?
      = (delivering (empty.restate greeting)).map aside? := by decide
  have houtcome : ((playing ⟨1, 0⟩ (delivering (greeting.map Prod.fst))).delegate "m" "orders" "greet").outcome
      = .ok "Hello, world" := by decide +kernel
  refine ⟨by decide, haside, houtcome, ?_⟩
  rw [← houtcome]
  exact ((restate_tells_the_same greeting).2.2.2 _ _ (by decide) (by decide) haside _ _ _ _ _ _ _
    ⟨_, _, route_playing _ _, rfl, rfl⟩ ⟨_, _, route_playing _ _, rfl, rfl⟩ rfl).symm

end Tracker

end AgentDelegation

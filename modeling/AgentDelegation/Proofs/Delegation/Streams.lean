import AgentDelegation.Proofs.Delegation.Outcome

/-!
# Streams that come to the same

Of an event a delegation reads the task and nothing else. So two streams that do the same at the same
times, with events about the same tasks, come to the same (`watch_congr`). A delegation is seen here
through the stream that its message opens, `Delegator.Plays`, whatever the way to it: that stream and the
timeout fix its outcome.
-/

namespace AgentDelegation

namespace Happening

def event? : Happening → Option Event
  | .event news => some news
  | .failure _ | .crash _ | .pause _ | .finish => none

/-- What a stream does besides delivering events. -/
def aside? : Happening → Option Happening
  | .event _ => none
  | step => some step

theorem eq_of_aside? {step other : Happening} (h : other.aside? = some step) : other = step := by
  cases other <;> cases h <;> rfl

end Happening

namespace Settlement

open Happening

variable {agent : String}

theorem after_event_congr {news other : Event} (h : news.task? = other.task?) (s : Settlement) :
    s.after agent (.event news) = s.after agent (.event other) := by
  simp only [after, proposal, h]

theorem run_events_congr {news others : List Event} (h : news.map Event.task? = others.map Event.task?)
    (s : Settlement) : s.run agent (news.map .event) = s.run agent (others.map .event) := by
  induction news generalizing others s with
  | nil => simp_all
  | cons first rest ih =>
      cases others with
      | nil => simp at h
      | cons other others =>
          obtain ⟨hfirst, hrest⟩ := List.cons.inj h
          rw [List.map_cons, List.map_cons, run_cons, run_cons, after_event_congr hfirst, ih hrest]

theorem watch_congr {stream other : List Happening} (haside : stream.map aside? = other.map aside?)
    (htasks : (stream.filterMap event?).map Event.task? = (other.filterMap event?).map Event.task?)
    (s : Settlement) (left : Nat) : s.watch agent left stream = s.watch agent left other := by
  induction stream generalizing other s left with
  | nil => simp_all
  | cons step rest ih =>
      cases other with
      | nil => simp at haside
      | cons step' rest' =>
          obtain ⟨hstep, hrest⟩ := List.cons.inj haside
          by_cases hleft : left = 0
          · rw [hleft, watch_zero, watch_zero]
          · cases step with
            | event news =>
                cases step' with
                | event news' =>
                    obtain ⟨hnews, hmore⟩ := List.cons.inj htasks
                    simp only [watch, if_neg hleft, after_event_congr hnews, ih hrest hmore]
                | failure | crash | pause | finish => cases hstep
            | failure | crash | pause | finish =>
                obtain rfl := eq_of_aside? hstep.symm
                simp only [watch, if_neg hleft, ih hrest htasks]

end Settlement

namespace Delegator

open Settlement Happening

/-- On the way that the delegator takes to the agent, the message that carries the task opens the stream. -/
def Plays (delegator : Delegator) (id agent task : String) (stream : List Happening) : Prop :=
  ∃ route transport, delegator.route agent = .ok route ∧
    route.connector.connect route.card route.url = .ok transport ∧
    transport.send (.ofUser id task) = .ok stream

variable {delegator other : Delegator} {id id' agent task task' : String} {stream stream' : List Happening}

theorem outcome_of_plays (h : delegator.Plays id agent task stream) (htimeout : 0 < delegator.timeout.totalNanos) :
    (delegator.delegate id agent task).outcome
      = (start.run agent (arrivalsWithin delegator.timeout stream)).await agent delegator.timeout := by
  obtain ⟨route, transport, hroute, hconnect, hsend⟩ := h
  rw [outcome_delegate hroute hconnect, settlement_exchange htimeout hsend]

/-- Streams that are watched alike give delegations with the same timeout the same outcome. -/
theorem outcome_congr (h : delegator.Plays id agent task stream) (h' : other.Plays id' agent task' stream')
    (htimeout : delegator.timeout = other.timeout)
    (hwatch : ∀ left, start.watch agent left stream = start.watch agent left stream') :
    (delegator.delegate id agent task).outcome = (other.delegate id' agent task').outcome := by
  obtain ⟨route, transport, hroute, hconnect, hsend⟩ := h
  obtain ⟨route', transport', hroute', hconnect', hsend'⟩ := h'
  rw [outcome_delegate hroute hconnect, outcome_delegate hroute' hconnect', ← htimeout, exchange, exchange]
  split
  · rfl
  · simp only [hsend, hsend', hwatch]

end Delegator

end AgentDelegation

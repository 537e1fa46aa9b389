import AgentDelegation.Delegation.Delegator
import AgentDelegation.Proofs.Delegation.Decision

/-!
# The outcome of a delegation

A delegation reads a stream against the clock. `arrivals` says what the stream yields and when, up to its
end; what is in time of that is a history of moves, and reading the stream for a while is that history
(`settlement_watch`). So the outcome is the first decision among the arrivals in time, and without one the
delegation runs out of time, whether the stream stays silent or ends early.
-/

namespace AgentDelegation

namespace Happening

/-- What a stream yields until it ends, each item with the millisecond of its arrival. -/
def arrivals (clock : Nat) : List Happening → List (Nat × Settlement.Move)
  | [] => []
  | .finish :: _ => []
  | .pause millis :: rest => arrivals (clock + millis) rest
  | .event news :: rest => (clock, .event news) :: arrivals clock rest
  | .failure cause :: rest => (clock, .disconnect cause) :: arrivals clock rest
  | .crash reason :: rest => (clock, .abort (crashMessage reason)) :: arrivals clock rest

/-- What of a stream arrives before a timeout, counted from its start. -/
def arrivalsWithin (timeout : Duration) (stream : List Happening) : List Settlement.Move :=
  ((arrivals 0 stream).filter fun arrival => arrival.1 * 1000000 < timeout.totalNanos).map Prod.snd

def arrivalsBefore (clock limit : Nat) (stream : List Happening) : List Settlement.Move :=
  ((arrivals clock stream).filter fun arrival => arrival.1 < limit).map Prod.snd

theorem arrivalsWithin_eq_arrivalsBefore (timeout : Duration) (stream : List Happening) :
    arrivalsWithin timeout stream = arrivalsBefore 0 timeout.ticks stream := by
  rw [arrivalsWithin, arrivalsBefore]
  congr 1
  exact List.filter_congr fun arrival _ => decide_eq_decide.mpr (timeout.lt_ticks_iff arrival.1).symm

theorem le_of_mem_arrivals {clock : Nat} {stream : List Happening} {arrival : Nat × Settlement.Move}
    (h : arrival ∈ arrivals clock stream) : clock ≤ arrival.1 := by
  induction stream generalizing clock with
  | nil => simp [arrivals] at h
  | cons step rest ih =>
      cases step with
      | finish => simp [arrivals] at h
      | pause millis => have := ih h; omega
      | event | failure | crash =>
          rcases List.mem_cons.mp h with rfl | h
          · exact Nat.le_refl _
          · exact ih h

theorem arrivalsBefore_of_le {clock limit : Nat} (h : limit ≤ clock) (stream : List Happening) :
    arrivalsBefore clock limit stream = [] := by
  rw [arrivalsBefore, List.map_eq_nil_iff, List.filter_eq_nil_iff]
  intro arrival harrival
  have := le_of_mem_arrivals harrival
  simp only [decide_eq_true_eq]
  omega

variable {clock limit : Nat} (rest : List Happening)

theorem arrivalsBefore_pause (millis : Nat) :
    arrivalsBefore clock limit (.pause millis :: rest) = arrivalsBefore (clock + millis) limit rest := rfl

theorem arrivalsBefore_event (h : clock < limit) (news : Event) :
    arrivalsBefore clock limit (.event news :: rest) = .event news :: arrivalsBefore clock limit rest := by
  simp [arrivalsBefore, arrivals, h]

theorem arrivalsBefore_failure (h : clock < limit) (cause : TransportFailure) :
    arrivalsBefore clock limit (.failure cause :: rest)
      = .disconnect cause :: arrivalsBefore clock limit rest := by
  simp [arrivalsBefore, arrivals, h]

theorem arrivalsBefore_crash (h : clock < limit) (reason : Option String) :
    arrivalsBefore clock limit (.crash reason :: rest)
      = .abort (crashMessage reason) :: arrivalsBefore clock limit rest := by
  simp [arrivalsBefore, arrivals, h]

end Happening

namespace Settlement

open Happening

variable {agent : String}

theorem settlement_watch (s : Settlement) (clock left : Nat) (stream : List Happening) :
    (s.watch agent left stream).settlement = s.run agent (arrivalsBefore clock (clock + left) stream) := by
  induction stream generalizing s clock left with
  | nil => rfl
  | cons step rest ih =>
      by_cases hleft : left = 0
      · rw [hleft, watch_zero, Nat.add_zero, arrivalsBefore_of_le (Nat.le_refl clock), run_nil]
      · have hclock : clock < clock + left := by omega
        cases step with
        | finish => rw [watch, if_neg hleft]; rfl
        | pause millis =>
            rw [watch, if_neg hleft, arrivalsBefore_pause, ih _ (clock + millis)]
            by_cases hmillis : millis ≤ left
            · rw [show clock + millis + (left - millis) = clock + left by omega]
            · rw [arrivalsBefore_of_le (by omega), arrivalsBefore_of_le (by omega)]
        | failure cause =>
            rw [watch, if_neg hleft, arrivalsBefore_failure rest hclock, run_cons,
              run_of_settled agent (isPending_after_of_decides (.disconnect cause) s)]
        | crash reason =>
            rw [watch, if_neg hleft, arrivalsBefore_crash rest hclock, run_cons,
              run_of_settled agent (isPending_after_of_decides (.abort (crashMessage reason)) s)]
        | event news =>
            rw [watch, if_neg hleft, arrivalsBefore_event rest hclock, run_cons]
            cases hopen : (s.after agent (.event news)).isPending with
            | true => rw [if_pos rfl]; exact ih _ clock left
            | false => rw [if_neg Bool.false_ne_true, run_of_settled agent hopen]

theorem await_of_outcome? {timeout : Duration} {s : Settlement} {outcome : Outcome}
    (h : s.outcome? = some outcome) : s.await agent timeout = outcome := by
  cases s <;> cases h <;> rfl

end Settlement

namespace Delegator

open Settlement Happening

theorem settlement_exchange {agent : String} {transport : Transport} {timeout : Duration} {message : Message}
    {stream : List Happening} (htimeout : 0 < timeout.totalNanos) (hsend : transport.send message = .ok stream) :
    (exchange agent transport timeout.ticks message).2.settlement
      = start.run agent (arrivalsWithin timeout stream) := by
  rw [exchange, if_neg (Duration.ticks_ne_zero htimeout), hsend, arrivalsWithin_eq_arrivalsBefore]
  simp only [settlement_watch start 0, Nat.zero_add]

theorem settlement_exchange_of_error {agent : String} {transport : Transport} {timeout : Duration}
    {message : Message} {failure : TransportFailure} (htimeout : 0 < timeout.totalNanos)
    (hsend : transport.send message = .error failure) :
    (exchange agent transport timeout.ticks message).2.settlement = .failed (.transport agent failure) := by
  rw [exchange, if_neg (Duration.ticks_ne_zero htimeout), hsend]
  rfl

theorem outcome_delegate {delegator : Delegator} {agent : String} {route : Route} {transport : Transport}
    (hroute : delegator.route agent = .ok route)
    (hconnect : route.connector.connect route.card route.url = .ok transport) (id task : String) :
    (delegator.delegate id agent task).outcome
      = (exchange agent transport delegator.timeout.ticks (.ofUser id task)).2.settlement.await agent
          delegator.timeout := by
  simp only [delegate, hroute, hconnect]

/-- Over an open connection a delegation comes to the first decision among what its stream yields before
the timeout, to a timeout if there is none, and to the failure of the connection if that refuses the
message. -/
theorem outcome_delegate_eq_firstDecision {delegator : Delegator} {agent : String} {route : Route}
    {transport : Transport} (hroute : delegator.route agent = .ok route)
    (hconnect : route.connector.connect route.card route.url = .ok transport)
    (htimeout : 0 < delegator.timeout.totalNanos) (id task : String) :
    (∀ failure, transport.send (.ofUser id task) = .error failure →
      (delegator.delegate id agent task).outcome = .error (.transport agent failure)) ∧
    ∀ stream, transport.send (.ofUser id task) = .ok stream →
      (∀ outcome, FirstDecision agent (arrivalsWithin delegator.timeout stream) outcome →
        (delegator.delegate id agent task).outcome = outcome) ∧
      ((∀ outcome, ¬ FirstDecision agent (arrivalsWithin delegator.timeout stream) outcome) →
        (delegator.delegate id agent task).outcome = .error (.timedOut agent delegator.timeout)) := by
  rw [outcome_delegate hroute hconnect]
  refine ⟨fun failure hsend => ?_, fun stream hsend => ?_⟩
  · rw [settlement_exchange_of_error htimeout hsend]
    rfl
  · rw [settlement_exchange htimeout hsend]
    refine ⟨fun outcome hfirst => ?_, fun hnone => ?_⟩
    · exact await_of_outcome? (outcome?_run_start_iff.mpr hfirst)
    · rw [run_of_not_firstDecision hnone]
      rfl

/-- One agent, reached over connections that all play the same stream. -/
def playing (timeout : Duration) (stream : List Happening) : Delegator where
  directory := .ofCards [("orders", { AgentCard.blank with url := some "http://orders" })]
  connectors := .ofList [⟨.jsonRpc, fun _ _ => .ok ⟨fun _ => .ok stream⟩⟩]
  timeout := timeout

theorem route_playing (timeout : Duration) (stream : List Happening) :
    (playing timeout stream).route "orders" = .ok ⟨{ AgentCard.blank with url := some "http://orders" },
      .jsonRpc, "http://orders", ⟨.jsonRpc, fun _ _ => .ok ⟨fun _ => .ok stream⟩⟩⟩ := by
  rfl

def taskSaying (state : TaskState) (text : String) : Task :=
  { Task.ofState "t" state with artifacts := some [.ofText "a" text] }

/-- A draft, the answer after a second and a half, and a failure right behind it. -/
def answering : List Happening :=
  [.event (.update (taskSaying .working "draft")), .pause 1500,
    .event (.snapshot (taskSaying .completed "final")), .failure (.stream "reset")]

/-- An answer that comes a nanosecond before the time is up counts, and neither the draft before it nor the
failure after it does. -/
theorem outcome_playing_answering : 0 < (⟨1, 500000001⟩ : Duration).totalNanos ∧
    ((playing ⟨1, 500000001⟩ answering).delegate "m" "orders" "ship").outcome = .ok "final" := by
  have htimeout : 0 < (⟨1, 500000001⟩ : Duration).totalNanos := by decide
  have hanswer : (taskSaying .completed "final").answer = "final" := by decide
  have hstream := (outcome_delegate_eq_firstDecision (route_playing ⟨1, 500000001⟩ answering) rfl htimeout "m"
    "ship").2 answering rfl
  refine ⟨htimeout, hanswer ▸ hstream.1 _ ⟨[.event (.update (taskSaying .working "draft"))],
    .event (.snapshot (taskSaying .completed "final")), [.disconnect (.stream "reset")], rfl,
    .completed rfl rfl, ?_⟩⟩
  intro other hother o ho
  rw [List.mem_singleton.mp hother, decides_iff_outcome?_after ""] at ho
  cases ho

end Delegator

end AgentDelegation

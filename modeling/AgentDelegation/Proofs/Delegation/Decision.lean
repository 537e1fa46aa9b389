import AgentDelegation.Delegation.Settlement
import Mathlib.Data.List.Induction

/-!
# The first decision

What a delegation comes to is decided by one move of its history, the first that decides anything. Here
`Decides` says move by move what is decided, without looking at any state, and `FirstDecision` picks the
move out of a history. The main fact is `outcome?_run_eq_some_iff`: the state after any history has the
outcome of its first decision, and none as long as there is no decision. All that observers see follows
from it: waits agree, and nothing that comes later counts.
-/

namespace AgentDelegation.Settlement

variable {agent : String}

/-- What the message of a status says about the end of a task: nothing if it is missing or empty. -/
inductive Reason : Option Message → Option String → Prop where
  | missing : Reason none none
  | empty {message : Message} (hempty : message.text = "") : Reason (some message) none
  | given {message : Message} (htext : message.text ≠ "") : Reason (some message) (some message.text)

/-- The outcome that a move decides on while nothing is decided yet. -/
inductive Decides (agent : String) : Move → Outcome → Prop where
  | completed {event : Event} {task : Task} (htask : event.task? = some task)
      (hstate : task.state = .completed) : Decides agent (.event event) (.ok task.answer)
  | ended {event : Event} {task : Task} {reason : Option String} (htask : event.task? = some task)
      (hstate : task.state = .failed ∨ task.state = .canceled ∨ task.state = .rejected)
      (hreason : Reason task.status.message reason) :
      Decides agent (.event event) (.error (.remote agent task.state reason))
  | disconnect (failure : TransportFailure) :
      Decides agent (.disconnect failure) (.error (.transport agent failure))
  | abort (message : String) : Decides agent (.abort message) (.error (.aborted agent message))
  | wait (timeout : Duration) : Decides agent (.wait timeout) (.error (.timedOut agent timeout))

/-- The first move of a history that decides anything decides on an outcome. -/
def FirstDecision (agent : String) (moves : List Move) (outcome : Outcome) : Prop :=
  ∃ earlier move later, moves = earlier ++ move :: later ∧ Decides agent move outcome ∧
    ∀ other ∈ earlier, ∀ o, ¬ Decides agent other o

def Move.task? : Move → Option Task
  | .event news => news.task?
  | .disconnect _ | .abort _ | .wait _ => none

/-- The answer of the task as last seen in a history. -/
def latestAnswer (moves : List Move) : String :=
  match (moves.filterMap Move.task?).getLast? with
  | some task => task.answer
  | none => ""

/-! ### One move -/

theorem reason_iff_statusText? {status : TaskStatus} {reason : Option String} :
    Reason status.message reason ↔ statusText? status = reason := by
  constructor
  · intro h
    generalize hmessage : status.message = message at h
    cases h with
    | missing => simp [statusText?, hmessage]
    | empty hempty => simp [statusText?, hmessage, hempty]
    | given htext => simp [statusText?, hmessage, htext]
  · rintro rfl
    cases hmessage : status.message with
    | none =>
        have htext : statusText? status = none := by simp [statusText?, hmessage]
        rw [htext]
        exact .missing
    | some message =>
        by_cases hempty : message.text = ""
        · have htext : statusText? status = none := by simp [statusText?, hmessage, hempty]
          rw [htext]
          exact .empty hempty
        · have htext : statusText? status = some message.text := by simp [statusText?, hmessage, hempty]
          rw [htext]
          exact .given hempty

theorem decides_iff_outcome?_after (best : String) {move : Move} {outcome : Outcome} :
    Decides agent move outcome ↔ ((pending best).after agent move).outcome? = some outcome := by
  constructor
  · intro h
    cases h with
    | completed htask hstate => simp [after, proposal, htask, ofTask, hstate, outcome?]
    | ended htask hstate hreason =>
        rw [reason_iff_statusText?] at hreason
        rcases hstate with hstate | hstate | hstate <;>
          simp [after, proposal, htask, ofTask, hstate, hreason, outcome?]
    | disconnect | abort | wait => rfl
  · intro h
    cases move with
    | disconnect failure => cases h; exact .disconnect failure
    | abort message => cases h; exact .abort message
    | wait timeout => cases h; exact .wait timeout
    | event event =>
        cases htask : event.task? with
        | none => simp [after, proposal, htask, outcome?] at h
        | some task =>
            have hreason : Reason task.status.message (statusText? task.status) := reason_iff_statusText?.mpr rfl
            simp only [after, settle_pending, proposal, htask] at h
            cases hstate : task.state <;> simp only [ofTask, hstate, outcome?, reduceCtorEq, Option.some.injEq] at h
            case completed => exact h ▸ .completed htask hstate
            all_goals
              rw [← h, ← hstate]
              exact .ended htask (by simp [hstate]) hreason

theorem isPending_after_of_decides {move : Move} {outcome : Outcome} (h : Decides agent move outcome)
    (s : Settlement) : (s.after agent move).isPending = false := by
  cases hs : s.isPending with
  | false => rwa [after, settle_of_settled hs]
  | true =>
      cases s with
      | resolved | failed => cases hs
      | pending best =>
          rw [← Bool.not_eq_true, ← outcome?_eq_none_iff, (decides_iff_outcome?_after best).mp h]
          simp

theorem decides_functional {move : Move} {outcome other : Outcome} (h : Decides agent move outcome)
    (hother : Decides agent move other) : outcome = other := by
  rw [decides_iff_outcome?_after ""] at h hother
  exact Option.some.inj (h.symm.trans hother)

/-- A move that decides nothing leaves the matter open, with the answer that it brings. -/
theorem after_of_not_decides {best : String} {move : Move} (h : ∀ o, ¬ Decides agent move o) :
    (pending best).after agent move = pending ((move.task?.map Task.answer).getD best) := by
  have hnone : ((pending best).after agent move).outcome? = none := by
    rw [Option.eq_none_iff_forall_ne_some]
    exact fun o ho => h o ((decides_iff_outcome?_after best).mpr ho)
  cases move with
  | disconnect | abort | wait => cases hnone
  | event event =>
      cases htask : event.task? with
      | none => simp [after, proposal, Move.task?, htask]
      | some task =>
          simp only [after, settle_pending, proposal, htask] at hnone ⊢
          cases hstate : task.state <;> simp_all [ofTask, outcome?, Move.task?]

/-! ### Histories -/

theorem firstDecision_cons_of_decides {move : Move} {o : Outcome} (h : Decides agent move o)
    {later : List Move} {outcome : Outcome} : FirstDecision agent (move :: later) outcome ↔ outcome = o := by
  constructor
  · rintro ⟨earlier, decisive, rest, heq, hdecides, hothers⟩
    cases earlier with
    | nil =>
        obtain ⟨rfl, rfl⟩ := List.cons.inj heq
        exact decides_functional hdecides h
    | cons first earlier =>
        obtain ⟨rfl, rfl⟩ := List.cons.inj heq
        exact absurd h (hothers _ (by simp) o)
  · rintro rfl
    exact ⟨[], move, later, rfl, h, by simp⟩

theorem firstDecision_cons_of_not_decides {move : Move} (h : ∀ o, ¬ Decides agent move o) {later : List Move}
    {outcome : Outcome} : FirstDecision agent (move :: later) outcome ↔ FirstDecision agent later outcome := by
  constructor
  · rintro ⟨earlier, decisive, rest, heq, hdecides, hothers⟩
    cases earlier with
    | nil =>
        obtain ⟨rfl, rfl⟩ := List.cons.inj heq
        exact absurd hdecides (h outcome)
    | cons first earlier =>
        obtain ⟨rfl, rfl⟩ := List.cons.inj heq
        exact ⟨earlier, decisive, rest, rfl, hdecides, fun other hother => hothers other (by simp [hother])⟩
  · rintro ⟨earlier, decisive, rest, rfl, hdecides, hothers⟩
    refine ⟨move :: earlier, decisive, rest, rfl, hdecides, fun other hother => ?_⟩
    rcases List.mem_cons.mp hother with rfl | hother
    · exact h
    · exact hothers other hother

theorem outcome?_run_eq_some_iff {best : String} {moves : List Move} {outcome : Outcome} :
    ((pending best).run agent moves).outcome? = some outcome ↔ FirstDecision agent moves outcome := by
  induction moves generalizing best with
  | nil => simp [outcome?, FirstDecision]
  | cons move rest ih =>
      rw [run_cons]
      by_cases hmove : ∃ o, Decides agent move o
      · obtain ⟨o, ho⟩ := hmove
        have hafter := (decides_iff_outcome?_after best).mp ho
        rw [run_of_settled agent (isPending_after_of_decides ho _), hafter, Option.some.injEq,
          firstDecision_cons_of_decides ho, eq_comm]
      · have hopen : ∀ o, ¬ Decides agent move o := not_exists.mp hmove
        rw [after_of_not_decides hopen, ih, firstDecision_cons_of_not_decides hopen]

theorem outcome?_run_start_iff {moves : List Move} {outcome : Outcome} :
    (start.run agent moves).outcome? = some outcome ↔ FirstDecision agent moves outcome :=
  outcome?_run_eq_some_iff

theorem firstDecision_functional {moves : List Move} {outcome other : Outcome}
    (h : FirstDecision agent moves outcome) (hother : FirstDecision agent moves other) : outcome = other := by
  rw [← outcome?_run_start_iff] at h hother
  exact Option.some.inj (h.symm.trans hother)

theorem FirstDecision.append {moves : List Move} {outcome : Outcome} (h : FirstDecision agent moves outcome)
    (later : List Move) : FirstDecision agent (moves ++ later) outcome := by
  obtain ⟨earlier, move, rest, rfl, hdecides, hothers⟩ := h
  exact ⟨earlier, move, rest ++ later, by simp, hdecides, hothers⟩

theorem latestAnswer_concat (moves : List Move) (move : Move) :
    latestAnswer (moves ++ [move]) = (move.task?.map Task.answer).getD (latestAnswer moves) := by
  cases htask : move.task? <;> simp [latestAnswer, htask]

theorem run_of_not_firstDecision {moves : List Move} (h : ∀ o, ¬ FirstDecision agent moves o) :
    start.run agent moves = pending (latestAnswer moves) := by
  induction moves using List.reverseRecOn with
  | nil => rfl
  | append_singleton moves move ih =>
      have hmoves := ih fun o ho => h o (ho.append [move])
      have hmove : ∀ o, ¬ Decides agent move o := by
        intro o ho
        apply h o
        rw [← outcome?_run_start_iff, run_append, hmoves, run_cons, run_nil]
        exact (decides_iff_outcome?_after _).mp ho
      rw [run_append, hmoves, run_cons, run_nil, after_of_not_decides hmove, latestAnswer_concat]

/-! ### What observers see -/

theorem getElem?_replies (s : Settlement) (earlier : List Move) (move : Move) (later : List Move) :
    (s.replies agent (earlier ++ move :: later))[earlier.length]?
      = some ((s.run agent earlier).reply agent move) := by
  induction earlier generalizing s with
  | nil => rfl
  | cons first earlier ih =>
      rw [List.cons_append, replies, List.length_cons, List.getElem?_cons_succ, ih]
      rfl

theorem firstDecision_await (earlier : List Move) (timeout : Duration) :
    FirstDecision agent (earlier ++ [.wait timeout]) ((start.run agent earlier).await agent timeout) := by
  rw [← outcome?_run_start_iff, run_append, run_cons, run_nil, outcome?_after_wait]

theorem best_of_outcome? {s : Settlement} {outcome : Outcome} (h : s.outcome? = some outcome) :
    s.best = match outcome with | .ok answer => answer | .error _ => "" := by
  cases s <;> cases h <;> rfl

/-- The history of a matter, seen from its start: it is settled at most once, by its first decision, and
whoever observes it is told the same. -/
structure Coherent (agent : String) (moves : List Move) : Prop where
  stays : ∀ earlier later, moves = earlier ++ later → (start.run agent earlier).isPending = false →
    start.run agent moves = start.run agent earlier
  /-- It is settled exactly if there is a decision, with the outcome of the first. -/
  decided : ∀ outcome, (start.run agent moves).outcome? = some outcome ↔ FirstDecision agent moves outcome
  unique : ∀ outcome other, FirstDecision agent moves outcome → FirstDecision agent moves other → outcome = other
  /-- Every wait reports the first decision of the whole history. -/
  waits : ∀ earlier timeout later, moves = earlier ++ .wait timeout :: later → ∃ outcome,
    FirstDecision agent moves outcome ∧ (start.replies agent moves)[earlier.length]? = some (.outcome outcome)
  /-- Every event reports whether the matter is settled after it. -/
  events : ∀ earlier event later, moves = earlier ++ .event event :: later → ∃ settled,
    (start.replies agent moves)[earlier.length]? = some (.settled settled) ∧
      (settled = true ↔ (start.run agent (earlier ++ [.event event])).isPending = false)
  best_of_open : (∀ outcome, ¬ FirstDecision agent moves outcome) →
    (start.run agent moves).best = latestAnswer moves
  best_of_ok : ∀ answer, FirstDecision agent moves (.ok answer) → (start.run agent moves).best = answer
  best_of_error : ∀ failure, FirstDecision agent moves (.error failure) → (start.run agent moves).best = ""

theorem coherent_history (agent : String) (moves : List Move) : Coherent agent moves where
  stays := by
    rintro earlier later rfl hsettled
    rw [run_append, run_of_settled agent hsettled]
  decided _ := outcome?_run_eq_some_iff
  unique _ _ := firstDecision_functional
  waits := by
    rintro earlier timeout later rfl
    refine ⟨_, ?_, getElem?_replies start earlier (.wait timeout) later⟩
    simpa using (firstDecision_await earlier timeout).append later
  events := by
    rintro earlier event later rfl
    refine ⟨_, getElem?_replies start earlier (.event event) later, ?_⟩
    rw [run_append, run_cons, run_nil, Bool.not_eq_true']
  best_of_open h := by rw [run_of_not_firstDecision h]; rfl
  best_of_ok _ h := best_of_outcome? (outcome?_run_start_iff.mpr h)
  best_of_error _ h := best_of_outcome? (outcome?_run_start_iff.mpr h)

end AgentDelegation.Settlement

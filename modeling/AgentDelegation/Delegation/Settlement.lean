import AgentDelegation.Delegation.Failure
import AgentDelegation.Protocol.StreamResult

/-!
# Settling a delegation

While an answer is awaited, every event about a task replaces what is known so far; the first event that
decides the task, the first failure, or the first wait that runs out settles the matter for good. The main
statement is `settle_of_settled`: after that nothing changes it any more.
-/

namespace AgentDelegation

inductive Settlement where
  /-- Undecided; `best` is the answer of the task as last seen. -/
  | pending (best : String)
  | resolved (answer : String)
  | failed (failure : DelegationFailure)
deriving DecidableEq, Repr, Inhabited

namespace Settlement

def start : Settlement := .pending ""

def isPending : Settlement → Bool
  | .pending _ => true
  | _ => false

/-- The answer so far; a failure leaves none. -/
def best : Settlement → String
  | .pending best => best
  | .resolved answer => answer
  | .failed _ => ""

def outcome? : Settlement → Option Outcome
  | .pending _ => none
  | .resolved answer => some (.ok answer)
  | .failed failure => some (.error failure)

/-- Goes on to the next state, unless the matter is settled. -/
def settle (s next : Settlement) : Settlement :=
  match s with
  | .pending _ => next
  | s => s

/-- The text of the message that a status comes with, unless it is empty. -/
def statusText? (status : TaskStatus) : Option String :=
  (status.message.map Message.text).filter fun text => !text.isEmpty

def ofTask (agent : String) (task : Task) : Settlement :=
  match task.state with
  | .completed => .resolved task.answer
  | .failed | .canceled | .rejected => .failed (.remote agent task.state (statusText? task.status))
  | .submitted | .working | .inputRequired | .authRequired | .unknown => .pending task.answer

/-- What can happen to the delegation while it is awaited. -/
inductive Move where
  | event (event : Event)
  | disconnect (failure : TransportFailure)
  | abort (message : String)
  /-- A wait that ends after the given time at the latest. -/
  | wait (timeout : Duration)
deriving DecidableEq, Repr, Inhabited

/-- The state that a move leads to from an undecided one; an event without a task says nothing. -/
def proposal (agent : String) (s : Settlement) : Move → Settlement
  | .event event =>
    match event.task? with
    | some task => ofTask agent task
    | none => s
  | .disconnect failure => .failed (.transport agent failure)
  | .abort message => .failed (.aborted agent message)
  | .wait timeout => .failed (.timedOut agent timeout)

def after (agent : String) (s : Settlement) (move : Move) : Settlement := s.settle (s.proposal agent move)

def run (agent : String) (s : Settlement) (moves : List Move) : Settlement := moves.foldl (after agent) s

/-- What a wait for the end of the matter comes to; one that runs out is a failure. -/
def await (agent : String) (timeout : Duration) : Settlement → Outcome
  | .pending _ => .error (.timedOut agent timeout)
  | .resolved answer => .ok answer
  | .failed failure => .error failure

/-- What a move reports to whoever makes it. -/
inductive Reply where
  /-- An event reports whether the matter is settled after it. -/
  | settled (settled : Bool)
  | nothing
  /-- A wait reports its outcome. -/
  | outcome (outcome : Outcome)
deriving Repr, Inhabited

/-- What a move reports, made on a state. -/
def reply (agent : String) (s : Settlement) : Move → Reply
  | .event event => .settled (!(s.after agent (.event event)).isPending)
  | .disconnect _ | .abort _ => .nothing
  | .wait timeout => .outcome (s.await agent timeout)

/-- What the moves of a sequence report, one after another. -/
def replies (agent : String) (s : Settlement) : List Move → List Reply
  | [] => []
  | move :: rest => s.reply agent move :: (s.after agent move).replies agent rest

@[simp] theorem settle_pending (best : String) (next : Settlement) : (pending best).settle next = next := rfl

@[simp] theorem settle_of_settled {s : Settlement} (h : s.isPending = false) (next : Settlement) :
    s.settle next = s := by
  cases s <;> simp_all [isPending, settle]

/-- A settled matter stays as it is, whatever happens. -/
theorem run_of_settled (agent : String) {s : Settlement} (h : s.isPending = false) (moves : List Move) :
    s.run agent moves = s := by
  induction moves with
  | nil => rfl
  | cons move rest ih => rw [run, List.foldl_cons, after, settle_of_settled h]; exact ih

@[simp] theorem run_nil (agent : String) (s : Settlement) : s.run agent [] = s := rfl

@[simp] theorem run_cons (agent : String) (s : Settlement) (move : Move) (rest : List Move) :
    s.run agent (move :: rest) = (s.after agent move).run agent rest := rfl

@[simp] theorem run_append (agent : String) (s : Settlement) (first second : List Move) :
    s.run agent (first ++ second) = (s.run agent first).run agent second := by
  simp only [run, List.foldl_append]

theorem outcome?_eq_none_iff {s : Settlement} : s.outcome? = none ↔ s.isPending = true := by
  cases s <;> simp [outcome?, isPending]

/-- A wait settles the matter, and its outcome is what it says. -/
theorem outcome?_after_wait (agent : String) (timeout : Duration) (s : Settlement) :
    (s.after agent (.wait timeout)).outcome? = some (s.await agent timeout) := by
  cases s <;> rfl

end Settlement

end AgentDelegation

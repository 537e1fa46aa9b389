import AgentDelegation.Delegation.Settlement

/-!
# Watching a stream

A stream is given by what it does, in order, on a clock of milliseconds; after its last step it stays
open and silent. It is read until it settles the delegation, ends or crashes, or the time is up. What
happens at the very moment the time is up comes too late.
-/

namespace AgentDelegation

/-- One step of a stream. -/
inductive Happening where
  | event (event : Event)
  | failure (failure : TransportFailure)
  /-- The reader of the stream breaks down, with or without a text that says why. -/
  | crash (reason : Option String)
  | pause (millis : Nat)
  | finish
deriving DecidableEq, Repr, Inhabited

/-- How a delegation stands: what is known, and whether the stream is still being read. -/
structure Progress where
  settlement : Settlement
  active : Bool
deriving DecidableEq, Repr, Inhabited

def crashMessage (reason : Option String) : String :=
  "event pump panicked: " ++ reason.getD "unknown panic"

namespace Settlement

def watch (agent : String) (s : Settlement) (left : Nat) : List Happening → Progress
  | [] => ⟨s, true⟩
  | step :: rest =>
    if left = 0 then ⟨s, true⟩
    else
      match step with
      | .pause millis => s.watch agent (left - millis) rest
      | .finish => ⟨s, false⟩
      | .failure failure => ⟨s.after agent (.disconnect failure), false⟩
      | .crash reason => ⟨s.after agent (.abort (crashMessage reason)), false⟩
      | .event event =>
        if (s.after agent (.event event)).isPending then (s.after agent (.event event)).watch agent left rest
        else ⟨s.after agent (.event event), false⟩

@[simp] theorem watch_zero (agent : String) (s : Settlement) (stream : List Happening) :
    s.watch agent 0 stream = ⟨s, true⟩ := by
  cases stream <;> simp [watch]

@[simp] theorem watch_nil (agent : String) (s : Settlement) (left : Nat) :
    s.watch agent left [] = ⟨s, true⟩ := rfl

end Settlement

end AgentDelegation

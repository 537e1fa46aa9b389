import AgentDelegation.Duration
import AgentDelegation.Protocol.Task
import AgentDelegation.Transport.Failure

/-!
# Failures of a delegation

Every failure names the agent that the task was meant for.
-/

namespace AgentDelegation

inductive DelegationFailure where
  | unknownAgent (name : String) (known : List String)
  | noSharedBinding (agent : String) (advertised available : List Binding)
  | timedOut (agent : String) (timeout : Duration)
  /-- The remote agent ended the task without completing it. -/
  | remote (agent : String) (state : TaskState) (message : Option String)
  | transport (agent : String) (cause : TransportFailure)
  /-- The delegation itself went wrong. -/
  | aborted (agent message : String)
deriving DecidableEq, Repr, Inhabited

namespace DelegationFailure

def agent : DelegationFailure → String
  | .unknownAgent name _ => name
  | .noSharedBinding agent _ _ => agent
  | .timedOut agent _ => agent
  | .remote agent _ _ => agent
  | .transport agent _ => agent
  | .aborted agent _ => agent

/-- The cause behind the failure, where there is one. -/
def cause? : DelegationFailure → Option TransportFailure
  | .transport _ cause => some cause
  | _ => none

def message : DelegationFailure → String
  | .unknownAgent name known => "Agent '" ++ name ++ "' not found. Available agents: " ++ ", ".intercalate known
  | .noSharedBinding agent advertised available =>
    "Agent '" ++ agent ++ "' shares no transport with this client (advertised: " ++ Binding.join advertised
      ++ "; available: " ++ Binding.join available ++ ")"
  | .timedOut agent timeout => "Agent '" ++ agent ++ "' did not complete the task within " ++ timeout.text ++ "s"
  | .remote agent state none => "Agent '" ++ agent ++ "' reported task " ++ state.name
  | .remote agent state (some message) => "Agent '" ++ agent ++ "' reported task " ++ state.name ++ ": " ++ message
  | .transport agent cause => "Transport error talking to agent '" ++ agent ++ "': " ++ cause.message
  | .aborted agent message => "Delegation to agent '" ++ agent ++ "' failed: " ++ message

end DelegationFailure

/-- What a delegation comes to: the answer of the completed task, or a failure. -/
abbrev Outcome := Except DelegationFailure String

end AgentDelegation

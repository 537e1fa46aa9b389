import AgentDelegation.Delegation.Delegator
import AgentDelegation.Skill.Registry

/-!
# Delegation as a tool

A planner hands tasks to remote agents by calling a skill. It always gets a text back: the answer of the
remote agent, or a sentence that says what went wrong. Only arguments of the wrong shape are a failure of
the skill itself, and then nothing is delegated.
-/

namespace AgentDelegation

open Json

/-- What the skill is called with. -/
structure SendArguments where
  agent : String
  task : String
deriving DecidableEq, Repr, Inhabited

namespace SendArguments

def record : Record SendArguments SendArguments :=
  mk <$> .required "agentName" .text agent
    <*> .required "task" .text task

def format : Format SendArguments := record.format "SendMessageArgs"

end SendArguments

/-- What a call of a skill comes to: the delegations that it makes, in order, and a value or a failure. -/
structure SkillRun where
  delegations : List Report
  result : Except SkillFailure Value

/-- Whoever calls a skill sees the result only. -/
instance : Coe SkillRun (Except SkillFailure Value) := ⟨SkillRun.result⟩

/-- What a skill does, given a fresh id and arguments. -/
abbrev SkillAction := String → Value → SkillRun

namespace Delegator

def sendMessageName : String := "send_message"

def reply (agent : String) : Outcome → String
  | .ok answer => answer
  | .error (.unknownAgent name known) => (DelegationFailure.unknownAgent name known).message
  | .error failure => "Error communicating with agent '" ++ agent ++ "': " ++ failure.message

def sendMessage (delegator : Delegator) (id agent task : String) : String :=
  reply agent (delegator.delegate id agent task).outcome

def property (description : String) : Value :=
  .obj [("type", .str "string"), ("description", .str description)]

def sendMessageSchema : Value :=
  .obj [
    ("properties", .obj [
      ("agentName", property "Name of the remote agent, as listed under available agents."),
      ("task", property "Self-contained description of the work for the remote agent.")]),
    ("required", .ofStrings ["agentName", "task"]),
    ("type", .str "object")]

def sendMessageSkill : SkillDescriptor where
  id := sendMessageName
  name := sendMessageName
  description := "Sends a task to a remote agent. Provide the agent name and a self-contained task description."
  inputModes := ["text"]
  outputModes := ["text"]
  tags := ["delegation"]
  examples := []
  inputSchema := some sendMessageSchema

def readArguments (args : Value) : Except SkillFailure SendArguments :=
  match SendArguments.format.readValue args with
  | .ok arguments => .ok arguments
  | .error fault => .error (.action sendMessageName ("invalid arguments: " ++ fault.message))

def sendMessageAction (delegator : Delegator) : SkillAction := fun id args =>
  match readArguments args with
  | .error failure => ⟨[], .error failure⟩
  | .ok arguments =>
    let report := delegator.delegate id arguments.agent arguments.task
    ⟨[report], .ok (.str (reply arguments.agent report.outcome))⟩

def registerInto {α : Type} (registry : SkillRegistry α) (action : α) : Except SkillFailure (SkillRegistry α) :=
  registry.register sendMessageSkill action

/-- What a planner is told about routing, with the known agents at the end. -/
def systemPrompt (delegator : Delegator) : String :=
  "\n".intercalate [
    "You route user requests to specialised remote agents.",
    "",
    "- Use the `send_message` tool to hand a task to a remote agent.",
    "- Remote agents do not see this conversation. Put every detail they need into the task.",
    "- Contact the agents you need directly; do not ask the user which one to use.",
    "- Show the user the remote agent's full answer.",
    "- If a remote agent asks for confirmation the user has not given, ask the user.",
    "- Answer only from tool results. If something is missing, ask the user.",
    "",
    "Available agents:",
    delegator.directory.describeAll]

end Delegator

end AgentDelegation

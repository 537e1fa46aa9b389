import AgentDelegation.Directory.Gathering
import AgentDelegation.Directory.Resolver
import AgentDelegation.Host.CommandLine
import AgentDelegation.Host.Settings
import AgentDelegation.Host.Tools
import AgentDelegation.Transport.Http

/-!
# The host

A host is started from its settings: it looks up the cards of the configured agents, gets ready to
delegate to those it found, and registers delegation as its one skill. After that every command is
answered with a text.
-/

namespace AgentDelegation

open Json

structure Host where
  settings : Settings
  delegator : Delegator
  registry : SkillRegistry SkillAction

namespace Host

/-- The host that delegates for agents which are found and spoken to over a network; `id` is the id of its
requests. -/
def start (settings : Settings) (network : Http.Network) (id : String) : Except SkillFailure Host :=
  let directory := Directory.build settings.remoteAgents (CardUrl.fetch network)
  let delegator : Delegator := ⟨directory, .overHttp network id, settings.delegation.timeout⟩
  (Delegator.registerInto .empty delegator.sendMessageAction).map fun registry => ⟨settings, delegator, registry⟩

def card (host : Host) : AgentCard := host.settings.agent.card host.registry

/-- An agent as the planner's operator sees it: its name, and from its card the name, the bindings in
priority order and the description, between tabs. -/
def agentLine (name : String) (card : AgentCard) : String :=
  "\t".intercalate
    [name, card.name, "[" ++ ", ".intercalate (card.bindings.map Binding.name) ++ "]", card.description]

/-- The agents that could be found, one after another in name order. -/
def listAgents (host : Host) : String :=
  if host.delegator.directory.isEmpty then "No remote agents available."
  else "\n".intercalate (host.delegator.directory.cards.entries.map fun (name, card) => agentLine name card)

def describeSkills (host : Host) : String :=
  host.registry.describe
    ++ "\nDefault input modes: " ++ ", ".intercalate host.registry.inputModes
    ++ "\nDefault output modes: " ++ ", ".intercalate host.registry.outputModes
    ++ "\n\n" ++ (AgentCard.format.write host.card).pretty

/-- The answer to a command; `id` is the id of a message that it sends. -/
def run (host : Host) (id : String) : Command → String
  | .agents => host.listAgents
  | .send agent task => host.delegator.sendMessage id agent task
  | .skills => host.describeSkills
  | .prompt => host.delegator.systemPrompt

/-- Nothing keeps the first skill out of a registry, so every host starts. -/
theorem exists_start_eq_ok (settings : Settings) (network : Http.Network) (id : String) :
    ∃ host, start settings network id = .ok host := by
  have hnone : SkillRegistry.refusal? (α := SkillAction) [] Delegator.sendMessageSkill = none := by
    rw [SkillRegistry.refusal?_eq_none_iff]
    exact ⟨by decide +kernel, by decide +kernel, by simp, by simp⟩
  simp only [start, Delegator.registerInto]
  generalize hregister : SkillRegistry.register _ _ _ = registered
  cases registered with
  | ok registry => exact ⟨_, rfl⟩
  | error failure =>
    rw [SkillRegistry.register_eq_error_iff, SkillRegistry.skills_empty, hnone] at hregister
    cases hregister

end Host

end AgentDelegation

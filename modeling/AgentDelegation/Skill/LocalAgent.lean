import AgentDelegation.Skill.Registry

/-!
# The card of the local agent

How this agent presents itself to others: its settings and its registered skills, put together into the
card that they discover.
-/

namespace AgentDelegation

open Json

/-- The settings of the local agent. -/
structure LocalAgent where
  name : String
  description : String
  version : String
  url : String
  bindings : List Binding
deriving DecidableEq, Repr, Inhabited

namespace LocalAgent

/-- The settings of an agent of which only name and address are known. -/
def of (name url : String) : LocalAgent := ⟨name, "", "1.0.0", url, [.jsonRpc]⟩

def record : Record LocalAgent LocalAgent :=
  mk <$> .required "name" .text name
    <*> .defaulted "description" .text "" description
    <*> .defaulted "version" .text "1.0.0" version
    <*> .required "url" .text url
    <*> .defaulted "bindings" (.list Binding.format) [.jsonRpc] bindings

def format : Format LocalAgent := record.format "LocalAgentConfig"

/-- The agent's own description followed by the summary of its skills. -/
def fullDescription (agent : LocalAgent) (summary : String) : String :=
  " ".intercalate ([Text.trim agent.description, summary].filter fun part => !part.isEmpty)

/-- The card with the registered skills: one interface for each configured binding, all at the
configured address. -/
def card {α : Type} (agent : LocalAgent) (registry : SkillRegistry α) : AgentCard :=
  { AgentCard.blank with
    name := agent.name
    description := agent.fullDescription registry.describe
    version := agent.version
    supportedInterfaces := agent.bindings.map (AgentInterface.of agent.url)
    capabilities := { Capabilities.none with streaming := true }
    defaultInputModes := registry.inputModes
    defaultOutputModes := registry.outputModes
    skills := registry.list.map SkillDescriptor.summary }

end LocalAgent

end AgentDelegation

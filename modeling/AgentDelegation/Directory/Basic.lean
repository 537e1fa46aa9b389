import AgentDelegation.Directory.Failure
import AgentDelegation.Json.Printer
import AgentDelegation.Protocol.Card

/-!
# The directory of remote agents

The agents that tasks can be handed to, by the names they are configured under. A directory is filled
once, from the cards that could be had; an agent without a card is left out and does not keep the others
from being found.
-/

namespace AgentDelegation

open Json

/-- Where a remote agent is found. -/
structure RemoteAgent where
  endpoint : String
  /-- Kept for other tools; no task is sent there. -/
  healthUrl : Option String
deriving DecidableEq, Repr, Inhabited

namespace RemoteAgent

def record : Record RemoteAgent RemoteAgent :=
  mk <$> .required "endpoint" .text endpoint
    <*> .optional "health_url" .text healthUrl

def format : Format RemoteAgent := record.format "RemoteAgentSetting"

end RemoteAgent

structure Directory where
  cards : NameMap AgentCard
deriving Inhabited

namespace Directory

def empty : Directory := ⟨.empty⟩

/-- The directory of named cards; of several cards with one name the last stays. -/
def ofCards (cards : List (String × AgentCard)) : Directory := ⟨.ofList cards⟩

/-- The agents whose cards can be had, with their cards. -/
def resolved (agents : NameMap RemoteAgent) (resolve : String → Except CardFailure AgentCard) :
    List (String × AgentCard) :=
  agents.entries.filterMap fun (name, agent) => (resolve agent.endpoint).toOption.map (name, ·)

/-- The failures of the agents that are left out, by name. -/
def problems (agents : NameMap RemoteAgent) (resolve : String → Except CardFailure AgentCard) :
    List (String × CardFailure) :=
  agents.entries.filterMap fun (name, agent) =>
    match resolve agent.endpoint with
    | .ok _ => none
    | .error failure => some (name, failure)

def get? (directory : Directory) (name : String) : Option AgentCard := directory.cards.get? name

def names (directory : Directory) : List String := directory.cards.names

def size (directory : Directory) : Nat := directory.cards.size

def isEmpty (directory : Directory) : Bool := directory.cards.isEmpty

/-- What a planner is told of an agent, as one line of JSON; a card without a name is left out of it. -/
def describe (name : String) (card : AgentCard) : String :=
  let description := if card.description.isEmpty then "No description" else card.description
  let cardName := if card.name.isEmpty then "" else ", \"card\": " ++ stringText card.name
  "\x7b\"name\": " ++ stringText name ++ cardName ++ ", \"description\": " ++ stringText description ++ "\x7d"

/-- One line for each agent, in name order. -/
def describeAll (directory : Directory) : String :=
  "\n".intercalate (directory.cards.entries.map fun (name, card) => describe name card)

end Directory

end AgentDelegation

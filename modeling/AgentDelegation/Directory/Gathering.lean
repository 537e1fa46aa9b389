import AgentDelegation.Directory.Basic

/-!
# Gathering the cards

The cards of all configured agents are fetched at the same time, and the fetches end in any order. What a
fetch brings stays in its place among the others, with the name it was made for; once the last has ended,
the cards that were brought make the directory.
-/

namespace AgentDelegation

/-- The fetch of a card for one agent, and what it brought once it has ended. -/
structure CardFetch where
  name : String
  endpoint : String
  result : Option (Except CardFailure AgentCard)

namespace CardFetch

def finish (resolve : String → Except CardFailure AgentCard) (fetch : CardFetch) : CardFetch :=
  { fetch with result := some (resolve fetch.endpoint) }

/-- The agent with its card, if the fetch brought one. -/
def found? (fetch : CardFetch) : Option (String × AgentCard) :=
  match fetch.result with
  | some (.ok card) => some (fetch.name, card)
  | some (.error _) | none => none

end CardFetch

/-- The fetches that a directory is made of, in the order of their names. -/
structure Gathering where
  fetches : List CardFetch

namespace Gathering

variable (resolve : String → Except CardFailure AgentCard)

/-- All fetches, and none has ended yet. -/
def start (agents : NameMap RemoteAgent) : Gathering :=
  ⟨agents.entries.map fun (name, agent) => ⟨name, agent.endpoint, none⟩⟩

/-- The fetch for a name ends. -/
def finish (gathering : Gathering) (name : String) : Gathering :=
  ⟨gathering.fetches.map fun fetch => if fetch.name = name then fetch.finish resolve else fetch⟩

/-- The fetches for some names end, one after another. -/
def after (gathering : Gathering) (names : List String) : Gathering := names.foldl (finish resolve) gathering

def isOver (gathering : Gathering) : Bool := gathering.fetches.all fun fetch => fetch.result.isSome

/-- The cards that have been brought, in the order of the fetches. -/
def found (gathering : Gathering) : List (String × AgentCard) := gathering.fetches.filterMap CardFetch.found?

/-- The directory, which is not made before all fetches have ended. -/
def directory? (gathering : Gathering) : Option Directory :=
  if gathering.isOver then some (.ofCards gathering.found) else none

end Gathering

namespace Directory

/-- The directory of the agents whose cards can be had; here the fetches end in the order of the names. -/
def build (agents : NameMap RemoteAgent) (resolve : String → Except CardFailure AgentCard) : Directory :=
  ofCards ((Gathering.start agents).after resolve agents.names).found

end Directory

end AgentDelegation

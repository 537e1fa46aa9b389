import AgentDelegation.Protocol.Binding
import AgentDelegation.Json.Record

/-!
# Agent cards

A card tells what an agent is called, what it can do and where it takes messages. Interfaces are listed
in two layouts: the newer protocol has one list, the older one a main address with a preferred binding
and a list of further interfaces. Whatever the layout, `AgentCard.interfaces` gives the interfaces with a
known binding in card order.
-/

namespace AgentDelegation

open Json

/-- An address and the name of the binding it speaks. -/
structure AgentInterface where
  url : String
  binding : String
deriving DecidableEq, Repr, Inhabited

namespace AgentInterface

/-- The older protocol calls the binding a transport. -/
def record : Record AgentInterface AgentInterface :=
  mk <$> .required "url" .text url
    <*> .requiredAs "protocolBinding" "transport" .text binding

def format : Format AgentInterface := record.format "AgentInterface"

def of (url : String) (binding : Binding) : AgentInterface := ⟨url, binding.name⟩

def binding? (interface : AgentInterface) : Option Binding := Binding.ofText? interface.binding

end AgentInterface

structure AgentSkill where
  id : String
  name : String
  description : String
  tags : List String
  examples : List String
  inputModes : List String
  outputModes : List String
deriving DecidableEq, Repr, Inhabited

namespace AgentSkill

def record : Record AgentSkill AgentSkill :=
  mk <$> .required "id" .text id
    <*> .required "name" .text name
    <*> .defaulted "description" .text "" description
    <*> .defaulted "tags" .texts [] tags
    <*> .listed "examples" .text examples
    <*> .listed "inputModes" .text inputModes
    <*> .listed "outputModes" .text outputModes

def format : Format AgentSkill := record.format "AgentSkill"

def of (id name description : String) : AgentSkill := ⟨id, name, description, [], [], [], []⟩

end AgentSkill

structure Capabilities where
  streaming : Bool
  pushNotifications : Bool
  stateTransitionHistory : Bool
deriving DecidableEq, Repr, Inhabited

namespace Capabilities

def none : Capabilities := ⟨false, false, false⟩

def record : Record Capabilities Capabilities :=
  mk <$> .defaulted "streaming" .flag false streaming
    <*> .defaulted "pushNotifications" .flag false pushNotifications
    <*> .defaulted "stateTransitionHistory" .flag false stateTransitionHistory

def format : Format Capabilities := record.format "AgentCapabilities"

end Capabilities

structure AgentCard where
  name : String
  description : String
  version : String
  protocolVersion : Option String
  supportedInterfaces : List AgentInterface
  url : Option String
  preferredTransport : Option String
  additionalInterfaces : List AgentInterface
  capabilities : Capabilities
  defaultInputModes : List String
  defaultOutputModes : List String
  skills : List AgentSkill
deriving DecidableEq, Repr, Inhabited

namespace AgentCard

def record : Record AgentCard AgentCard :=
  mk <$> .required "name" .text name
    <*> .defaulted "description" .text "" description
    <*> .defaulted "version" .text "" version
    <*> .optional "protocolVersion" .text protocolVersion
    <*> .listed "supportedInterfaces" AgentInterface.format supportedInterfaces
    <*> .optional "url" .text url
    <*> .optional "preferredTransport" .text preferredTransport
    <*> .listed "additionalInterfaces" AgentInterface.format additionalInterfaces
    <*> .defaulted "capabilities" Capabilities.format .none capabilities
    <*> .defaulted "defaultInputModes" .texts [] defaultInputModes
    <*> .defaulted "defaultOutputModes" .texts [] defaultOutputModes
    <*> .defaulted "skills" (.list AgentSkill.format) [] skills

def format : Format AgentCard := record.format "AgentCard"

/-- The card a new agent starts from: the newer layout, without interfaces or skills. -/
def blank : AgentCard where
  name := ""
  description := ""
  version := "1.0.0"
  protocolVersion := some "1.0"
  supportedInterfaces := []
  url := none
  preferredTransport := none
  additionalInterfaces := []
  capabilities := .none
  defaultInputModes := []
  defaultOutputModes := []
  skills := []

/-- The main interface of the older layout; its binding is JSON-RPC unless the card prefers another. -/
def mainInterface (card : AgentCard) : Option AgentInterface :=
  card.url.map fun url => ⟨url, card.preferredTransport.getD "JSONRPC"⟩

/-- All interfaces in card order. -/
def listedInterfaces (card : AgentCard) : List AgentInterface :=
  card.supportedInterfaces ++ card.mainInterface.toList ++ card.additionalInterfaces

/-- The interfaces with a known binding, in card order. -/
def interfaces (card : AgentCard) : List (Binding × String) :=
  card.listedInterfaces.filterMap fun interface => interface.binding?.map (·, interface.url)

def advertises (card : AgentCard) (binding : Binding) : Bool :=
  card.interfaces.any fun entry => entry.1 == binding

/-- The advertised bindings in priority order. -/
def bindings (card : AgentCard) : List Binding := Binding.filter card.advertises

/-- The address of the first interface with a binding. -/
def interfaceUrl? (card : AgentCard) (binding : Binding) : Option String :=
  (card.interfaces.find? fun entry => entry.1 == binding).map (·.2)

/-- The binding to talk over: the preferred one of those that the card advertises and `available` has. -/
def select? (card : AgentCard) (available : Binding → Bool) : Option Binding :=
  Binding.all.find? fun binding => card.advertises binding && available binding

end AgentCard

end AgentDelegation

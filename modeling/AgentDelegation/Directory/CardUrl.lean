import AgentDelegation.Directory.Failure
import AgentDelegation.Url.Parse

/-!
# Where a card is published

An agent publishes its card at a fixed place below its endpoint. Slashes at the end of the endpoint's path
do not count, and its query and fragment are left out.
-/

namespace AgentDelegation.CardUrl

/-- The place below the endpoint. -/
def wellKnown : String := ".well-known/agent-card.json"

def ofEndpoint (endpoint : String) : Except CardFailure Url :=
  match Url.parse endpoint with
  | .error fault => .error (.invalidEndpoint endpoint fault.message)
  | .ok url =>
    if url.path.isRooted then
      let card := url.withPath (Url.trimSlashes url.path.text ++ "/" ++ wellKnown)
      .ok { card with query := none, fragment := none }
    else .error (.invalidEndpoint endpoint "endpoint cannot carry a path")

end AgentDelegation.CardUrl

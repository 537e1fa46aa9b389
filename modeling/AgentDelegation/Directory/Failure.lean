/-!
# Failures to obtain a card

Why the card of a remote agent could not be had.
-/

namespace AgentDelegation

inductive CardFailure where
  | invalidEndpoint (url reason : String)
  | fetch (url message : String)
  | status (url : String) (status : Nat)
  | parse (url message : String)
deriving DecidableEq, Repr, Inhabited

namespace CardFailure

def message : CardFailure → String
  | .invalidEndpoint url reason => "invalid agent endpoint '" ++ url ++ "': " ++ reason
  | .fetch url message => "failed to fetch agent card from " ++ url ++ ": " ++ message
  | .status url code => "failed to fetch agent card from " ++ url ++ ": HTTP " ++ toString code
  | .parse url message => "failed to parse agent card from " ++ url ++ ": " ++ message

end CardFailure

end AgentDelegation

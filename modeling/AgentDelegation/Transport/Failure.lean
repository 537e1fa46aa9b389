import AgentDelegation.Protocol.Binding

/-!
# Failures of a transport

What can go wrong between sending a message and the end of its stream.
-/

namespace AgentDelegation

inductive TransportFailure where
  | http (message : String)
  | status (status : Nat) (body : String)
  | rpc (code : Int) (message : String)
  | decode (message : String)
  | stream (message : String)
  | invalidEndpoint (url reason : String)
  | unsupported (binding : Binding)
deriving DecidableEq, Repr, Inhabited

namespace TransportFailure

def message : TransportFailure → String
  | .http message => "HTTP request failed: " ++ message
  | .status code body => "unexpected HTTP status " ++ toString code ++ ": " ++ body
  | .rpc code message => "RPC error: " ++ message ++ " (" ++ toString code ++ ")"
  | .decode message => "failed to decode event: " ++ message
  | .stream message => "event stream error: " ++ message
  | .invalidEndpoint url reason => "invalid endpoint '" ++ url ++ "': " ++ reason
  | .unsupported binding => "no " ++ binding.name ++ " transport is registered"

end TransportFailure

end AgentDelegation

import AgentDelegation.Json.Document
import AgentDelegation.Protocol.Rpc
import AgentDelegation.Transport.Failure
import AgentDelegation.Transport.Tracker

/-!
# From payloads to events

Each payload of a stream is decoded by the rules of its binding. One that is not JSON, or that holds no
result of a known sort, is passed over; a result goes through the tracker; a failure becomes an item of
its own and does not end the stream.
-/

namespace AgentDelegation

open Json

abbrev Item := Except TransportFailure Event

namespace Payload

def decodeResult (v : Value) : Except TransportFailure (Option StreamResult) :=
  match StreamResult.ofValue v with
  | .ok result => .ok result
  | .error fault => .error (.decode fault.message)

/-- The rules of JSON-RPC: a payload is a response, and an error in it is reported before any result. -/
def decodeRpc (text : String) : Except TransportFailure (Option StreamResult) :=
  match RpcResponse.format.readText text with
  | .error _ => .ok none
  | .ok response =>
    match response.error, response.result with
    | some error, _ => .error (.rpc error.code error.message)
    | none, none => .ok none
    | none, some v => decodeResult v

/-- The rules of HTTP+JSON: a payload is a result. -/
def decodeRest (text : String) : Except TransportFailure (Option StreamResult) :=
  match Json.parse text with
  | .error _ => .ok none
  | .ok v => decodeResult v

/-- The items of a stream, given its payloads. -/
def items (decode : String → Except TransportFailure (Option StreamResult)) (tracker : Tracker) :
    List (Except TransportFailure String) → List Item
  | [] => []
  | payload :: rest =>
    match payload >>= decode with
    | .error failure => .error failure :: items decode tracker rest
    | .ok none => items decode tracker rest
    | .ok (some result) => .ok (tracker.event result) :: items decode (tracker.next result) rest

end Payload

end AgentDelegation

import AgentDelegation.Directory.CardUrl
import AgentDelegation.Http.Network
import AgentDelegation.Json.Document
import AgentDelegation.Protocol.Card

/-!
# Fetching cards

The card of an agent is fetched from where it is published. A network that stays silent is given up in
the end, which reads like a request that was not answered.
-/

namespace AgentDelegation.CardUrl

open Json

def request (url : Url) : Http.Request := ⟨.get, url, some "*/*", none, ""⟩

def readCard (url : String) (bytes : List UInt8) : Except CardFailure AgentCard :=
  match Text.Utf8.decode? bytes with
  | none => .error (.parse url Fault.malformed.message)
  | some cs =>
    match AgentCard.format.readChars cs with
    | .ok card => .ok card
    | .error fault => .error (.parse url fault.message)

def readResponse (url : String) (response : Http.Response) : Except CardFailure AgentCard :=
  if response.isSuccess then
    match response.bytes with
    | .ok bytes => readCard url bytes
    | .error failure => .error (.fetch url failure.message)
  else .error (.status url response.status)

def fetch (network : Http.Network) (endpoint : String) : Except CardFailure AgentCard := do
  let url ← ofEndpoint endpoint
  match Http.send network (request url) with
  | .ok (some response) => readResponse url.text response
  | .ok none => .error (.fetch url.text (Http.Failure.unanswered url.withoutUser).message)
  | .error failure => .error (.fetch url.text failure.message)

end AgentDelegation.CardUrl

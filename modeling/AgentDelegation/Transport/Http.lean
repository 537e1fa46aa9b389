import AgentDelegation.Delegation.Delegator
import AgentDelegation.Transport.EventStream
import AgentDelegation.Transport.Payload
import AgentDelegation.Url.Parse

/-!
# Transports over HTTP

Both bindings over HTTP post the message and read the stream off the response. JSON-RPC posts a request
to the interface itself, under a method that depends on the agent's protocol version; HTTP+JSON posts the
bare message to an address below the interface.
-/

namespace AgentDelegation

open Json

def parseEndpoint (url : String) : Except TransportFailure Url :=
  match Url.parse url with
  | .ok parsed => .ok parsed
  | .error fault => .error (.invalidEndpoint url fault.message)

def streamRequest (url : Url) (body : Value) : Http.Request :=
  ⟨.post, url, some "text/event-stream", some "application/json", body.compact⟩

namespace Happening

def ofItem : Item → Happening
  | .ok e => .event e
  | .error f => .failure f

end Happening

/-- The body of a refusal, as far as it can be had. -/
def refusalText (response : Http.Response) : String :=
  match response.text with
  | .ok text => text
  | .error _ => ""

/-- What becomes of a sent request: a refusal, or the stream that its response plays. -/
def playResponse (decode : String → Except TransportFailure (Option StreamResult)) :
    Except Http.Failure (Option Http.Response) → Except TransportFailure (List Happening)
  | .error failure => .error (.http failure.message)
  | .ok none => .ok []
  | .ok (some response) =>
    if response.isSuccess then
      .ok ((Payload.items decode .empty (EventStream.payloads response)).map Happening.ofItem ++ [.finish])
    else .error (.status response.status (refusalText response))

/-- An interface that speaks JSON-RPC. -/
structure RpcInterface where
  url : Url
  method : String
deriving DecidableEq, Repr, Inhabited

namespace RpcInterface

def of (url : String) : Except TransportFailure RpcInterface :=
  (parseEndpoint url).map fun url => ⟨url, Rpc.messageStream⟩

def ofCard (card : AgentCard) (url : String) : Except TransportFailure RpcInterface :=
  (of url).map fun interface => { interface with method := Rpc.streamingMethod card.protocolVersion }

/-- The request that carries a message; `id` is the id of the request. -/
def request (interface : RpcInterface) (id : String) (message : Message) : Http.Request :=
  streamRequest interface.url
    (RpcRequest.format.write (.of id interface.method (SendParams.format.write (.textOnly message)).settled))

def transport (interface : RpcInterface) (network : Http.Network) (id : String) : Transport :=
  ⟨fun message => playResponse Payload.decodeRpc (Http.send network (interface.request id message))⟩

def connector (network : Http.Network) (id : String) : Connector :=
  ⟨.jsonRpc, fun card url => (ofCard card url).map fun interface => interface.transport network id⟩

end RpcInterface

/-- An interface that speaks HTTP+JSON, by the address that messages are posted to. -/
structure RestInterface where
  streamUrl : Url
deriving DecidableEq, Repr, Inhabited

namespace RestInterface

def of (url : String) : Except TransportFailure RestInterface := do
  let base ← parseEndpoint url
  let streamUrl ← parseEndpoint (Url.trimSlashes base.text ++ "/message:stream")
  .ok ⟨streamUrl⟩

def request (interface : RestInterface) (message : Message) : Http.Request :=
  streamRequest interface.streamUrl (SendParams.format.write (.textOnly message))

def transport (interface : RestInterface) (network : Http.Network) : Transport :=
  ⟨fun message => playResponse Payload.decodeRest (Http.send network (interface.request message))⟩

def connector (network : Http.Network) : Connector :=
  ⟨.httpJson, fun _ url => (of url).map fun interface => interface.transport network⟩

end RestInterface

namespace Connectors

/-- The connectors over HTTP; `id` is the id of the requests. -/
def overHttp (network : Http.Network) (id : String) : Connectors :=
  .ofList [RpcInterface.connector network id, RestInterface.connector network]

end Connectors

end AgentDelegation

import AgentDelegation.Text.Utf8
import AgentDelegation.Url.Basic

/-!
# Requests over a network

A network answers a request with a response, refuses it, or stays silent. Only addresses of the web are
sent; user and password are taken out of the address before that, so failures never show them.
-/

namespace AgentDelegation.Http

inductive Method where
  | get
  | post
deriving DecidableEq, Repr, Inhabited

namespace Method

def name : Method → String
  | .get => "GET"
  | .post => "POST"

end Method

structure Request where
  method : Method
  url : Url
  accept : Option String
  contentType : Option String
  body : String
deriving DecidableEq, Repr, Inhabited

/-- A response: its body arrives in pieces, and breaks off after them unless it is complete. -/
structure Response where
  status : Nat
  contentType : Option String
  chunks : List (List UInt8)
  complete : Bool
deriving DecidableEq, Repr, Inhabited

inductive Reply where
  | refused
  | silent
  | response (response : Response)
deriving DecidableEq, Repr, Inhabited

abbrev Network := Request → Reply

/-- The network that nothing can be reached over. -/
def Network.unreachable : Network := fun _ => .refused

inductive Failure where
  /-- No request can be made of the address. -/
  | unsendable (url : Url)
  /-- The request was not answered. -/
  | unanswered (url : Url)
  /-- The body of the response broke off. -/
  | brokenBody
deriving DecidableEq, Repr, Inhabited

namespace Failure

def message : Failure → String
  | .unsendable url => "builder error for url (" ++ url.text ++ ")"
  | .unanswered url => "error sending request for url (" ++ url.text ++ ")"
  | .brokenBody => "error decoding response body"

end Failure

/-- Characters that may stand in the host of an address and not in that of a request. -/
def isUnsendableChar (c : Char) : Bool := ['\x22', '`', '\x7b', '\x7d'].contains c

def isSendable (url : Url) : Bool :=
  (url.scheme == "http" || url.scheme == "https")
    && !(url.authority.any fun authority => authority.host.text.toList.any isUnsendableChar)

/-- Sends a request; a silent network gives no response. -/
def send (network : Network) (request : Request) : Except Failure (Option Response) :=
  let request := { request with url := request.url.withoutUser }
  if isSendable request.url then
    match network request with
    | .refused => .error (.unanswered request.url)
    | .silent => .ok none
    | .response response => .ok (some response)
  else .error (.unsendable request.url)

namespace Response

def isSuccess (response : Response) : Bool := 200 ≤ response.status && response.status < 300

/-- The body, if it arrives whole. -/
def bytes (response : Response) : Except Failure (List UInt8) :=
  if response.complete then .ok response.chunks.flatten else .error .brokenBody

def text (response : Response) : Except Failure String :=
  response.bytes.map fun bytes => String.ofList (Text.Utf8.decodeLossy bytes)

end Response

end AgentDelegation.Http

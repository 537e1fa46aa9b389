import AgentDelegation.Protocol.Message
import AgentDelegation.Text.Blank
import AgentDelegation.Text.Digits

/-!
# Remote procedure calls

The JSON-RPC binding wraps a message into a request and each result of the stream into a response. The
method that opens a stream was renamed with version 1 of the protocol.
-/

namespace AgentDelegation

open Json

structure RpcRequest where
  jsonrpc : String
  method : String
  params : Option Value
  id : Option Value
deriving DecidableEq, Repr, Inhabited

namespace RpcRequest

def record : Record RpcRequest RpcRequest :=
  mk <$> .required "jsonrpc" .text jsonrpc
    <*> .required "method" .text method
    <*> .nullable "params" .any (some none) params
    <*> .nullable "id" .any none id

def format : Format RpcRequest := record.format "JsonRpcRequest"

def of (id method : String) (params : Value) : RpcRequest := ⟨"2.0", method, some params, some (.str id)⟩

end RpcRequest

structure RpcError where
  code : Int
  message : String
  data : Option Value
deriving DecidableEq, Repr, Inhabited

namespace RpcError

def record : Record RpcError RpcError :=
  mk <$> .required "code" .signed code
    <*> .required "message" .text message
    <*> .placed "data" .any data

def format : Format RpcError := record.format "JsonRpcError"

end RpcError

structure RpcResponse where
  jsonrpc : String
  result : Option Value
  error : Option RpcError
  id : Option Value
deriving DecidableEq, Repr, Inhabited

namespace RpcResponse

def record : Record RpcResponse RpcResponse :=
  mk <$> .defaulted "jsonrpc" .text "" jsonrpc
    <*> .placed "result" .any result
    <*> .placed "error" RpcError.format error
    <*> .nullable "id" .any (some none) id

def format : Format RpcResponse := record.format "JsonRpcResponse"

end RpcResponse

/-- What the sender of a message accepts in answer. -/
structure SendConfiguration where
  acceptedOutputModes : List String
  blocking : Option Bool
deriving DecidableEq, Repr, Inhabited

namespace SendConfiguration

def record : Record SendConfiguration SendConfiguration :=
  mk <$> .required "acceptedOutputModes" .texts acceptedOutputModes
    <*> .placed "blocking" .flag blocking

def format : Format SendConfiguration := record.format "MessageSendConfiguration"

end SendConfiguration

structure SendParams where
  message : Message
  configuration : Option SendConfiguration
deriving DecidableEq, Repr, Inhabited

namespace SendParams

def record : Record SendParams SendParams :=
  mk <$> .required "message" Message.format message
    <*> .placed "configuration" SendConfiguration.format configuration

def format : Format SendParams := record.format "MessageSendParams"

/-- A message that is to be answered in text only. -/
def textOnly (message : Message) : SendParams := ⟨message, some ⟨["text"], none⟩⟩

end SendParams

namespace Rpc

def messageStream : String := "message/stream"

def sendStreamingMessage : String := "SendStreamingMessage"

/-- The number that a text of ASCII digits, with or without a plus sign, spells within thirty-two bits. -/
def decimal32? (cs : List Char) : Option Nat :=
  let digits := match cs with
    | '+' :: rest => rest
    | cs => cs
  if digits.isEmpty || !digits.all Char.isDigit then none
  else
    let n := Text.number 10 digits
    if n < 4294967296 then some n else none

/-- The major number of a protocol version: what stands before its first point. -/
def major? (version : String) : Option Nat :=
  decimal32? ((Text.trimChars version.toList).takeWhile (· != '.'))

/-- The method that opens a stream at an agent of the given protocol version. -/
def streamingMethod (version : Option String) : String :=
  match version.bind major? with
  | some major => if 1 ≤ major then sendStreamingMessage else messageStream
  | none => messageStream

end Rpc

end AgentDelegation

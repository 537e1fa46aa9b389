import AgentDelegation.Json.Format
import AgentDelegation.Text.Blank

/-!
# Transport bindings

An agent advertises the bindings it can be reached over, in one of several spellings. The three known
bindings have a fixed priority, which is the order of `Binding.all`.
-/

namespace AgentDelegation

inductive Binding where
  | grpc
  | jsonRpc
  | httpJson
deriving DecidableEq, Repr, Inhabited

namespace Binding

/-- The bindings, the preferred ones first. -/
def all : List Binding := [.grpc, .jsonRpc, .httpJson]

def name : Binding → String
  | .grpc => "GRPC"
  | .jsonRpc => "JSONRPC"
  | .httpJson => "HTTP+JSON"

/-- The accepted spellings, in capitals. -/
def spellings : List (String × Binding) :=
  [("GRPC", .grpc), ("JSONRPC", .jsonRpc), ("JSON-RPC", .jsonRpc), ("JSON_RPC", .jsonRpc),
   ("HTTP+JSON", .httpJson), ("HTTP_JSON", .httpJson), ("REST", .httpJson)]

/-- The binding a text spells, whatever the case of its ASCII letters and the white space around it. -/
def ofText? (text : String) : Option Binding :=
  spellings.lookup (String.ofList ((Text.trim text).toList.map Char.toUpper))

theorem mem_all (b : Binding) : b ∈ all := by cases b <;> decide

theorem ofText?_name (b : Binding) : ofText? b.name = some b := by cases b <;> decide +kernel

/-- The bindings that satisfy a condition, in priority order. -/
def filter (p : Binding → Bool) : List Binding := all.filter p

/-- The names of bindings separated by commas, or the word `none`. -/
def join (bindings : List Binding) : String :=
  if bindings.isEmpty then "none" else ", ".intercalate (bindings.map name)

def parse (text : String) : Except String Binding :=
  match ofText? text with
  | some b => .ok b
  | none => .error ("unknown transport binding '" ++ text ++ "'")

def format : Json.Format Binding := .parsed parse name

end Binding

end AgentDelegation

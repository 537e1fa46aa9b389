import AgentDelegation.Json.Value
import AgentDelegation.Text.Quoted

/-!
# Why a document is refused

A document that does not have the wanted shape is refused for one cause, the first one in document
order. The wording of a cause is fixed by `Fault.message`; where only the sort of cause matters, it is
given by `Fault.category`.
-/

namespace AgentDelegation.Json

open AgentDelegation.Decimal

/-- What stands where something else is wanted. -/
inductive Found where
  | null
  | bool (b : Bool)
  | num (n : Number)
  | str (s : String)
  | sequence
  | map
deriving DecidableEq, Repr, Inhabited

inductive Fault where
  /-- The text is not JSON. -/
  | malformed
  /-- The text ends too early. -/
  | truncated
  | wrongType (found : Found) (wanted : String)
  | wrongValue (found : Found) (wanted : String)
  | wrongLength (length : Nat) (wanted : String)
  | unknownVariant (name : String) (known : List String)
  | unmatched (type : String)
  | missing (field : String)
  | duplicate (field : String)
  /-- A text that its type turns down, with the type's own words. -/
  | refused (reason : String)
deriving DecidableEq, Repr, Inhabited

inductive Category where
  | malformed
  | truncated
  | mistyped
deriving DecidableEq, Repr, Inhabited

/-- The text of a number, an integer in decimal and a double in the layout of JSON. -/
def Number.text : Number → String
  | .int n => toString n
  | .float x => x.format .json

def Found.describe : Found → String
  | .null => "null"
  | .bool b => "boolean `" ++ toString b ++ "`"
  | .num (.int n) => "integer `" ++ toString n ++ "`"
  | .num (.float x) => "floating point `" ++ x.format .json ++ "`"
  | .str s => "string " ++ Text.quoted s
  | .sequence => "sequence"
  | .map => "map"

namespace Fault

def category : Fault → Category
  | .malformed => .malformed
  | .truncated => .truncated
  | _ => .mistyped

def alternatives : List String → String
  | [] => "there are no variants"
  | [a] => "expected `" ++ a ++ "`"
  | [a, b] => "expected `" ++ a ++ "` or `" ++ b ++ "`"
  | names => "expected one of " ++ ", ".intercalate (names.map fun name => "`" ++ name ++ "`")

def message : Fault → String
  | .malformed => "malformed text"
  | .truncated => "text ends early"
  | .wrongType found wanted => "invalid type: " ++ found.describe ++ ", expected " ++ wanted
  | .wrongValue found wanted => "invalid value: " ++ found.describe ++ ", expected " ++ wanted
  | .wrongLength length wanted => "invalid length " ++ toString length ++ ", expected " ++ wanted
  | .unknownVariant name known => "unknown variant `" ++ name ++ "`, " ++ alternatives known
  | .unmatched type => "data did not match any variant of untagged enum " ++ type
  | .missing field => "missing field `" ++ field ++ "`"
  | .duplicate field => "duplicate field `" ++ field ++ "`"
  | .refused reason => reason

end Fault

end AgentDelegation.Json

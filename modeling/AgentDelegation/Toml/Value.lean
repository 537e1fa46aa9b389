import AgentDelegation.Json.Readable

/-!
# TOML values

What a settings file holds. A table remembers how it came about, because that decides who may add to it:
a table that was only implied by a longer header may still get its own header, a table made by a dotted
key may grow by further dotted keys, and an inline table is finished where it stands.

A value is also a document for the typed decoders. A record may be written as an array of its fields, with
or without further elements, and a moment is a table with one member of a reserved name.
-/

namespace AgentDelegation.Toml

open Json Decimal

/-- How a table came about. -/
inductive Origin where
  | header
  /-- By a header that names a table inside it. -/
  | implied
  | dottedKey
  | inlined
deriving DecidableEq, Repr, Inhabited

inductive Value where
  | text (s : String)
  | integer (n : Int)
  | float (x : Double)
  | flag (b : Bool)
  /-- A date, a time of day or both, as written. -/
  | moment (s : String)
  | array (items : List Value)
  | table (origin : Origin) (entries : List (String × Value))
  /-- The tables of an array that grows by headers. -/
  | tables (elements : List (List (String × Value)))
deriving Repr, Inhabited

abbrev Table := List (String × Value)

namespace Value

/-- The name under which a decoder finds the text of a moment. -/
def momentName : String := "datetime"

/-- The whole array is read, and elements that a record has no field for do not matter. -/
def view : Value → View Value
  | .text s => .str s
  | .integer n => .num (.int n)
  | .float x => .num (.float x)
  | .flag b => .bool b
  | .moment s => .obj [(momentName, .text s)] none
  | .array items => .arr items none none
  | .table _ entries => .obj entries none
  | .tables elements => .arr (elements.map (.table .header)) none none

def variant : Value → VariantView Value
  | .text s => .named s
  | .table _ [(name, contents)] => .keyed name contents none
  | v => .unreadable (v.view.mismatch "string or map")

mutual

/-- The value without what JSON cannot say. -/
def toJson : Value → Json.Value
  | .text s => .str s
  | .integer n => .num (.int n)
  | .float x => .num (.float x)
  | .flag b => .bool b
  | .moment s => .obj [(momentName, .str s)]
  | .array items => .arr (itemsToJson items)
  | .table _ entries => .obj (tableToJson entries)
  | .tables elements => .arr (tablesToJson elements)

def itemsToJson : List Value → List Json.Value
  | [] => []
  | v :: rest => v.toJson :: itemsToJson rest

def tableToJson : Table → Members
  | [] => []
  | (name, v) :: rest => (name, v.toJson) :: tableToJson rest

def tablesToJson : List Table → List Json.Value
  | [] => []
  | entries :: rest => .obj (tableToJson entries) :: tablesToJson rest

end

instance : Readable Value where
  view := view
  variant := variant
  skip _ := none
  buffer v := .ok v.toJson
  keep v := v

end Value

end AgentDelegation.Toml

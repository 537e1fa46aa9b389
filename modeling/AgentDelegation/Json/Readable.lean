import AgentDelegation.Json.Fault

/-!
# One look at a document

Typed values are decoded from three kinds of document: JSON values, JSON texts as they stand (with their
repeated members, and with the place where the text breaks off), and settings files. A decoder takes one
look at a node at a time and is written once for all of them.

The kinds differ in four points only: what is said of an array with more elements than a record has
fields, what may stand for the name of a variant, what a member that nobody asked for must satisfy, and
what becomes of a free-form value that is kept.
-/

namespace AgentDelegation.Json

/-- What one look at a node shows. A text that breaks off inside an array or an object shows the part
that came before, and the fault. -/
inductive View (ν : Type) where
  | null
  | bool (b : Bool)
  | num (n : Number)
  | str (s : String)
  /-- The elements, the fault that the array breaks off with, and what a record says of elements that
  it has no field for. -/
  | arr (items : List ν) (stop surplus : Option Fault)
  | obj (members : List (String × ν)) (stop : Option Fault)
  | unreadable (fault : Fault)

/-- What stands for the name of a variant without contents: its name, or a member of that name. -/
inductive VariantView (ν : Type) where
  | named (name : String)
  /-- A member's name and value, and what is wrong with the rest of the object. -/
  | keyed (name : String) (contents : ν) (rest : Option Fault)
  | unreadable (fault : Fault)

class Readable (ν : Type) where
  view : ν → View ν
  variant : ν → VariantView ν
  /-- What is wrong with a node even if its contents do not matter. -/
  skip : ν → Option Fault
  /-- The whole node as a free-form value, repeated members included. -/
  buffer : ν → Except Fault Value
  /-- What becomes of a free-form value that is kept. -/
  keep : Value → Value

def freeForm {ν : Type} [Readable ν] (n : ν) : Except Fault Value :=
  (Readable.buffer n).map (@Readable.keep ν _)

def View.mismatch {ν : Type} (view : View ν) (wanted : String) : Fault :=
  match view with
  | .null => .wrongType .null wanted
  | .bool b => .wrongType (.bool b) wanted
  | .num n => .wrongType (.num n) wanted
  | .str s => .wrongType (.str s) wanted
  | .arr _ _ _ => .wrongType .sequence wanted
  | .obj _ _ => .wrongType .map wanted
  | .unreadable fault => fault

namespace Value

def view : Value → View Value
  | .null => .null
  | .bool b => .bool b
  | .num n => .num n
  | .str s => .str s
  | .arr items => .arr items none (some (.wrongLength items.length "fewer elements in array"))
  | .obj members => .obj members none

def variant : Value → VariantView Value
  | .str s => .named s
  | .obj [(name, contents)] => .keyed name contents none
  | .obj _ => .unreadable (.wrongValue .map "map with a single key")
  | v => .unreadable (v.view.mismatch "string or map")

/-- A value is whole, so nothing is wrong with what is passed over, and what is kept stays as it is. -/
instance : Readable Value where
  view := Value.view
  variant := Value.variant
  skip _ := none
  buffer v := .ok v
  keep v := v

end Value

end AgentDelegation.Json

import AgentDelegation.NameMap
import AgentDelegation.Decimal.Shortest

/-!
# JSON values

Free-form values pass through the library unread: metadata, data parts, parameters, schemas, and the
results of a stream before they are classified. An object is a list of members. Values made from a text
have their members in name order and without repetition, which is the form `Value.settled` gives; the
typed decoders accept any order.
-/

namespace AgentDelegation.Json

open AgentDelegation.Decimal

/-- A number that is an integer of at most sixty-four bits keeps all its digits; any other is a double. -/
inductive Number where
  | int (n : Int)
  | float (x : Double)
deriving DecidableEq, Repr, Inhabited

inductive Value where
  | null
  | bool (b : Bool)
  | num (n : Number)
  | str (s : String)
  | arr (items : List Value)
  | obj (members : List (String × Value))
deriving Repr, Inhabited

abbrev Members := List (String × Value)

namespace Value

/-- The member of an object; other values have none. -/
def get? (v : Value) (name : String) : Option Value :=
  match v with
  | .obj members => members.lookup name
  | _ => none

def string? : Value → Option String
  | .str s => some s
  | _ => none

def ofInt (n : Int) : Value := .num (.int n)

def ofNat (n : Nat) : Value := ofInt n

/-- An optional value, absent as null. -/
def ofOption {α : Type} (write : α → Value) : Option α → Value
  | none => .null
  | some x => write x

def ofStrings (texts : List String) : Value := .arr (texts.map .str)

mutual

/-- The value with the members of every object in name order, the last of several with one name. -/
def settled : Value → Value
  | .arr items => .arr (settledItems items)
  | .obj members => .obj (settledMembers members [])
  | v => v

def settledItems : List Value → List Value
  | [] => []
  | v :: rest => v.settled :: settledItems rest

def settledMembers : List (String × Value) → List (String × Value) → List (String × Value)
  | [], sorted => sorted
  | (name, v) :: rest, sorted => settledMembers rest (Entries.insert name v.settled sorted)

end

mutual

def decEq : (v w : Value) → Decidable (v = w)
  | .null, .null => isTrue rfl
  | .bool a, .bool b => if h : a = b then isTrue (h ▸ rfl) else isFalse (fun e => h (Value.bool.inj e))
  | .num a, .num b => if h : a = b then isTrue (h ▸ rfl) else isFalse (fun e => h (Value.num.inj e))
  | .str a, .str b => if h : a = b then isTrue (h ▸ rfl) else isFalse (fun e => h (Value.str.inj e))
  | .arr a, .arr b =>
    match decEqItems a b with
    | isTrue h => isTrue (h ▸ rfl)
    | isFalse h => isFalse (fun e => h (Value.arr.inj e))
  | .obj a, .obj b =>
    match decEqMembers a b with
    | isTrue h => isTrue (h ▸ rfl)
    | isFalse h => isFalse (fun e => h (Value.obj.inj e))
  | .null, .bool _ | .null, .num _ | .null, .str _ | .null, .arr _ | .null, .obj _
  | .bool _, .null | .bool _, .num _ | .bool _, .str _ | .bool _, .arr _ | .bool _, .obj _
  | .num _, .null | .num _, .bool _ | .num _, .str _ | .num _, .arr _ | .num _, .obj _
  | .str _, .null | .str _, .bool _ | .str _, .num _ | .str _, .arr _ | .str _, .obj _
  | .arr _, .null | .arr _, .bool _ | .arr _, .num _ | .arr _, .str _ | .arr _, .obj _
  | .obj _, .null | .obj _, .bool _ | .obj _, .num _ | .obj _, .str _ | .obj _, .arr _ =>
    isFalse (fun e => by cases e)

def decEqItems : (a b : List Value) → Decidable (a = b)
  | [], [] => isTrue rfl
  | [], _ :: _ => isFalse (fun e => by cases e)
  | _ :: _, [] => isFalse (fun e => by cases e)
  | v :: a, w :: b =>
    match decEq v w, decEqItems a b with
    | isTrue h, isTrue hs => isTrue (by rw [h, hs])
    | isFalse h, _ => isFalse (fun e => h (List.cons.inj e).1)
    | _, isFalse hs => isFalse (fun e => hs (List.cons.inj e).2)

def decEqMembers : (a b : List (String × Value)) → Decidable (a = b)
  | [], [] => isTrue rfl
  | [], _ :: _ => isFalse (fun e => by cases e)
  | _ :: _, [] => isFalse (fun e => by cases e)
  | (m, v) :: a, (n, w) :: b =>
    if hn : m = n then
      match decEq v w, decEqMembers a b with
      | isTrue h, isTrue hs => isTrue (by rw [hn, h, hs])
      | isFalse h, _ => isFalse (fun e => h (Prod.mk.inj (List.cons.inj e).1).2)
      | _, isFalse hs => isFalse (fun e => hs (List.cons.inj e).2)
    else isFalse (fun e => hn (Prod.mk.inj (List.cons.inj e).1).1)

end

instance : DecidableEq Value := decEq

end Value

end AgentDelegation.Json

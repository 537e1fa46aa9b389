import AgentDelegation.Json.Format

/-!
# Records

A record is described field by field, once, in the order of its declaration; the description reads it
and writes it. A record is written as an object. It is read from an object, whose members may come in any
order and among others, or from an array of the fields in their order.

Of the faults of an object the one that stands first in the document is reported: each fault carries the
place of its member, a repeated member is a fault at its second place, and fields that are missing are
reported after all members, in the order of their declaration.
-/

namespace AgentDelegation.Json

/-- A value, or a fault and its place among the members. -/
abbrev Placed (α : Type) := Except (Nat × Fault) α

namespace Placed

/-- Applies a function to a value; of two faults the earlier one stays, and the left one of two at the
same place. -/
def apply {α β : Type} (f : Placed (α → β)) (x : Placed α) : Placed β :=
  match f, x with
  | .ok f, .ok x => .ok (f x)
  | .ok _, .error fault => .error fault
  | .error fault, .ok _ => .error fault
  | .error (i, fault), .error (j, fault') => if j < i then .error (j, fault') else .error (i, fault)

def check {α : Type} (x : Placed α) (condition : Placed Unit) : Placed α :=
  apply (x.map fun a _ => a) condition

end Placed

/-- One field: its spellings, of which the first is written, the format of its value, what it is when the
member is missing and when an array is too short for it, and whether it is left out in writing. -/
structure Field (α : Type) where
  name : String
  otherName? : Option String
  format : Format α
  missing : Option α
  short : Option α
  omit? : α → Bool

namespace Field

def matches? {α : Type} (field : Field α) (name : String) : Bool :=
  name == field.name || field.otherName? == some name

/-- The members that belong to the field, with their places. -/
def occurrences {α ν : Type} (field : Field α) : Nat → List (String × ν) → List (Nat × ν)
  | _, [] => []
  | i, (name, n) :: rest =>
    if field.matches? name then (i, n) :: field.occurrences (i + 1) rest
    else field.occurrences (i + 1) rest

/-- The field's value among members; `size` is their number. -/
def readMember {α ν : Type} [Readable ν] (field : Field α) (members : List (String × ν)) : Placed α :=
  match field.occurrences 0 members with
  | [] =>
    match field.missing with
    | some x => .ok x
    | none => .error (members.length + 1, .missing field.name)
  | (i, n) :: more =>
    match field.format.read n, more with
    | .error fault, _ => .error (i, fault)
    | .ok x, [] => .ok x
    | .ok _, (j, _) :: _ => .error (j, .duplicate field.name)

end Field

/-- What is left of an array that is read as a record, and the number of the field that comes next. -/
structure Row (ν : Type) where
  items : List ν
  place : Nat
  stop : Option Fault

/-- A description of a part of a record of type `σ` that reads to `α`. -/
structure Record (σ α : Type) where
  knows : String → Bool
  size : Nat
  readMembers : {ν : Type} → [Readable ν] → List (String × ν) → Placed α
  readRow : {ν : Type} → [Readable ν] → String → Row ν → Except Fault (α × Row ν)
  write : σ → Members

namespace Record

def pure {σ α : Type} (x : α) : Record σ α where
  knows _ := false
  size := 0
  readMembers _ := .ok x
  readRow _ row := .ok (x, row)
  write _ := []

def apply {σ α β : Type} (f : Record σ (α → β)) (x : Record σ α) : Record σ β where
  knows name := f.knows name || x.knows name
  size := f.size + x.size
  readMembers members := (f.readMembers members).apply (x.readMembers members)
  readRow shape row := do
    let (g, row) ← f.readRow shape row
    let (a, row) ← x.readRow shape row
    .ok (g a, row)
  write s := f.write s ++ x.write s

/-- A description of one field, given how the field is taken from the record. -/
def field {σ α : Type} (field : Field α) (get : σ → α) : Record σ α where
  knows := field.matches?
  size := 1
  readMembers := field.readMember
  readRow shape row :=
    match row.items with
    | n :: rest => do
      let x ← field.format.read n
      .ok (x, { row with items := rest, place := row.place + 1 })
    | [] =>
      match row.stop, field.short with
      | some fault, _ => .error fault
      | none, some x => .ok (x, { row with place := row.place + 1 })
      | none, none => .error (.wrongLength row.place shape)
  write s := if field.omit? (get s) then [] else [(field.name, field.format.write (get s))]

def required {σ α : Type} (name : String) (format : Format α) (get : σ → α) : Record σ α :=
  field ⟨name, none, format, none, none, fun _ => false⟩ get

/-- A field that must be there, under either of two names. -/
def requiredAs {σ α : Type} (name otherName : String) (format : Format α) (get : σ → α) : Record σ α :=
  field ⟨name, some otherName, format, none, none, fun _ => false⟩ get

def defaulted {σ α : Type} (name : String) (format : Format α) (default : α) (get : σ → α) : Record σ α :=
  field ⟨name, none, format, some default, some default, fun _ => false⟩ get

def listed {σ α : Type} (name : String) (format : Format α) (get : σ → List α) : Record σ (List α) :=
  field ⟨name, none, .list format, some [], some [], List.isEmpty⟩ get

/-- A field that may be missing or null and is left out when there is nothing to write. -/
def optional {σ α : Type} (name : String) (format : Format α) (get : σ → Option α) : Record σ (Option α) :=
  field ⟨name, none, .optional format, some none, some none, Option.isNone⟩ get

def placed {σ α : Type} (name : String) (format : Format α) (get : σ → Option α) : Record σ (Option α) :=
  field ⟨name, none, .optional format, some none, none, Option.isNone⟩ get

/-- An optional field written as null when there is nothing to write. -/
def nullable {σ α : Type} (name : String) (format : Format α) (short : Option (Option α))
    (get : σ → Option α) : Record σ (Option α) :=
  field ⟨name, none, .optional format, some none, short, fun _ => false⟩ get

/-- The first fault among the members that no field knows. -/
def unknownFault {ν : Type} [Readable ν] (knows : String → Bool) : Nat → List (String × ν) → Placed Unit
  | _, [] => .ok ()
  | i, (name, n) :: rest =>
    match knows name, Readable.skip n with
    | false, some fault => .error (i, fault)
    | _, _ => unknownFault knows (i + 1) rest

def stopFault (place : Nat) (stop : Option Fault) : Placed Unit :=
  match stop with
  | none => .ok ()
  | some fault => .error (place, fault)

def readObject {σ α ν : Type} [Readable ν] (record : Record σ α) (members : List (String × ν))
    (stop : Option Fault) : Except Fault α :=
  let fields := Placed.check (record.readMembers members) (unknownFault record.knows 0 members)
  match Placed.check fields (stopFault members.length stop) with
  | .ok x => .ok x
  | .error (_, fault) => .error fault

def readArray {σ α ν : Type} [Readable ν] (record : Record σ α) (shape : String) (items : List ν)
    (stop surplus : Option Fault) : Except Fault α := do
  let (x, row) ← record.readRow shape ⟨items, 0, stop⟩
  Format.unlessStopped (if row.items.isEmpty then stop else surplus) x

def format {σ : Type} (name : String) (record : Record σ σ) : Format σ where
  read n :=
    match Readable.view n with
    | .obj members stop => record.readObject members stop
    | .arr items stop surplus =>
      record.readArray ("struct " ++ name ++ " with " ++ toString record.size ++ " elements") items stop surplus
    | view => .error (view.mismatch ("struct " ++ name))
  write s := .obj (record.write s)

end Record

instance {σ : Type} : Functor (Record σ) where
  map f r := (Record.pure f).apply r

instance {σ : Type} : Seq (Record σ) where
  seq f x := f.apply (x ())

end AgentDelegation.Json

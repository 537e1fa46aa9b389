import AgentDelegation.Json.Readable

/-!
# Formats

A format says how values of one type are read from a document and written as a JSON value. The formats
here are those of texts, flags, numbers, lists, optional and free-form values, and names of variants;
records of named fields are put together from them in the next module.
-/

namespace AgentDelegation.Json

structure Format (α : Type) where
  read : {ν : Type} → [Readable ν] → ν → Except Fault α
  write : α → Value

namespace Format

def readValue {α : Type} (format : Format α) (v : Value) : Except Fault α := format.read v

/-- Decodes a JSON value whose fault does not matter. -/
def readValue? {α : Type} (format : Format α) (v : Value) : Option α := (format.readValue v).toOption

def text : Format String where
  read n :=
    match Readable.view n with
    | .str s => .ok s
    | view => .error (view.mismatch "a string")
  write := .str

def flag : Format Bool where
  read n :=
    match Readable.view n with
    | .bool b => .ok b
    | view => .error (view.mismatch "a boolean")
  write := .bool

/-- Integers of a range, named in messages. -/
def integer (name : String) (low high : Int) : Format Int where
  read n :=
    match Readable.view n with
    | .num (.int k) => if low ≤ k ∧ k ≤ high then .ok k else .error (.wrongValue (.num (.int k)) name)
    | view => .error (view.mismatch name)
  write := .ofInt

def signed : Format Int := integer "i64" (-9223372036854775808) 9223372036854775807

def unsigned : Format Nat where
  read n := ((integer "u64" 0 18446744073709551615).read n).map Int.toNat
  write := .ofNat

/-- Null stands for absence. -/
def optional {α : Type} (format : Format α) : Format (Option α) where
  read n :=
    match Readable.view n with
    | .null => .ok none
    | _ => (format.read n).map some
  write := .ofOption format.write

def readItems {α ν : Type} [Readable ν] (format : Format α) : List ν → Except Fault (List α)
  | [] => .ok []
  | n :: rest =>
    match format.read n with
    | .error fault => .error fault
    | .ok x => (readItems format rest).map (x :: ·)

/-- Reports the fault a container breaks off with, if there is one. -/
def unlessStopped {α : Type} (stop : Option Fault) (x : α) : Except Fault α :=
  match stop with
  | none => .ok x
  | some fault => .error fault

def list {α : Type} (format : Format α) : Format (List α) where
  read n :=
    match Readable.view n with
    | .arr items stop _ => readItems format items >>= unlessStopped stop
    | view => .error (view.mismatch "a sequence")
  write xs := .arr (xs.map format.write)

def texts : Format (List String) := list text

/-- Any value, kept as it is. -/
def any : Format Value where
  read n := freeForm n
  write v := v

def members : Format Members where
  read n :=
    match Readable.view n with
    | .obj _ _ =>
      (freeForm n).map fun v =>
        match v with
        | .obj members => members
        | _ => []
    | view => .error (view.mismatch "a map")
  write := .obj

def readEntries {α ν : Type} [Readable ν] (format : Format α) :
    List (String × ν) → NameMap α → Except Fault (NameMap α)
  | [], map => .ok map
  | (name, n) :: rest, map =>
    match format.read n with
    | .error fault => .error fault
    | .ok x => readEntries format rest (map.insert name x)

def entries {α : Type} (format : Format α) : Format (NameMap α) where
  read n :=
    match Readable.view n with
    | .obj members stop => readEntries format members .empty >>= unlessStopped stop
    | view => .error (view.mismatch "a map")
  write map := .obj (map.entries.map fun entry => (entry.1, format.write entry.2))

def readUnit {ν : Type} [Readable ν] (n : ν) : Except Fault Unit :=
  match Readable.view n with
  | .null => .ok ()
  | view => .error (view.mismatch "unit")

def findVariant {α : Type} (spellings : List (String × α)) (name : String) : Except Fault α :=
  match spellings.lookup name with
  | some x => .ok x
  | none => .error (.unknownVariant name (spellings.map (·.1)))

/-- Variants without contents, each under any of its spellings and written under one. -/
def variants {α : Type} (spellings : List (String × α)) (name : α → String) : Format α where
  read n :=
    match Readable.variant n with
    | .named s => findVariant spellings s
    | .keyed s contents rest => do
      let x ← findVariant spellings s
      readUnit contents
      unlessStopped rest x
    | .unreadable fault => .error fault
  write x := .str (name x)

def parsed {α : Type} (parse : String → Except String α) (print : α → String) : Format α where
  read n := do
    match parse (← text.read n) with
    | .ok x => .ok x
    | .error reason => .error (.refused reason)
  write x := .str (print x)

end Format

end AgentDelegation.Json

import AgentDelegation.Toml.Value

/-!
# Growing tables

A document fills its tables piece by piece, and whether a piece may be added depends on how the table it
goes into came about. A header opens a table that has no header yet; a dotted key goes through tables that
have none and ends in a table made by dotted keys; no key is given twice. An array of tables is entered at
its last table.
-/

namespace AgentDelegation.Toml

/-- A name, and the names of the tables it is looked up in, from the outside in. -/
structure Key where
  path : List String
  name : String
deriving DecidableEq, Repr, Inhabited

namespace Value

/-- The table that a value lets its contents be added to, and the value that it is after a change. -/
def opened? : Value → Option (Table × (Table → Value))
  | .table .inlined _ => none
  | .table origin entries => some (entries, .table origin)
  | .tables elements =>
    elements.getLast?.map fun last => (last, fun changed => .tables (elements.dropLast ++ [changed]))
  | _ => none

/-- Whether a dotted key may go through the value, or end in it. -/
def admitsDotted (last : Bool) : Value → Bool
  | .table .dottedKey _ => true
  | .table .implied _ => !last
  | .tables _ => !last
  | _ => false

end Value

namespace Table

/-- Changes the table of a name. Where the name has none it gets one of the given origin. -/
def change (origin : Origin) (name : String) (edit : Table → Option Table) (entries : Table) : Option Table :=
  match entries.lookup name with
  | none => (edit []).map fun inner => Entries.insert name (.table origin inner) entries
  | some v =>
    match v.opened? with
    | none => none
    | some (inner, close) => (edit inner).map fun inner => Entries.insert name (close inner) entries

/-- Changes the table at a path of names; tables that are missing on the way are implied. -/
def within (path : List String) (edit : Table → Option Table) : Table → Option Table :=
  path.foldr (change .implied) edit

def add (name : String) (v : Value) (entries : Table) : Option Table :=
  if (entries.lookup name).isNone then some (Entries.insert name v entries) else none

def assign (name : String) (v : Value) : List String → Table → Option Table
  | [], entries => entries.add name v
  | step :: path, entries =>
    if (entries.lookup step).all (Value.admitsDotted path.isEmpty) then
      entries.change .dottedKey step (assign name v path)
    else none

def declare (name : String) (entries : Table) : Option Table :=
  match entries.lookup name with
  | none => some (Entries.insert name (.table .header []) entries)
  | some (.table .implied inner) => some (Entries.insert name (.table .header inner) entries)
  | some _ => none

def append (name : String) (entries : Table) : Option Table :=
  match entries.lookup name with
  | none => some (Entries.insert name (.tables [[]]) entries)
  | some (.tables elements) => some (Entries.insert name (.tables (elements ++ [[]])) entries)
  | some _ => none

end Table

end AgentDelegation.Toml

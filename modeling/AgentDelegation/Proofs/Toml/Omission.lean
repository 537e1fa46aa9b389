import AgentDelegation.Proofs.Json.Fields
import AgentDelegation.Toml.Value

/-!
# Documents with members left out

Members of a document are left out all at once, each given by the names on the way to it. A field of a
record reads alike without them as long as two things hold of the members under its name: one that is left
out says what the field is without any, and one that stays reads alike with what is left out inside it. A
record reads alike if all its fields do (`Survives`).
-/

namespace AgentDelegation

namespace Toml.Value

open Json

mutual

/-- The document without the members whose paths are gone. -/
def without (gone : List String → Bool) : Value → Value
  | .table origin entries => .table origin (entriesWithout gone entries)
  | v => v

def entriesWithout (gone : List String → Bool) : Table → Table
  | [] => []
  | (name, v) :: rest =>
    if gone [name] then entriesWithout gone rest
    else (name, v.without fun path => gone (name :: path)) :: entriesWithout gone rest

end

/-- The values at the end of a path of names. -/
inductive Holds : Value → List String → Value → Prop where
  | here (v : Value) : Holds v [] v
  | inside {origin : Origin} {entries : Table} {name : String} {path : List String} {v w : Value}
      (hmem : (name, v) ∈ entries) (hpath : Holds v path w) : Holds (.table origin entries) (name :: path) w

@[simp] theorem holds_nil_iff {v w : Value} : v.Holds [] w ↔ v = w := by
  constructor
  · rintro ⟨⟩
    rfl
  · rintro rfl
    exact .here v

@[simp] theorem holds_cons_iff {origin : Origin} {entries : Table} {name : String} {path : List String} {w : Value} :
    (Value.table origin entries).Holds (name :: path) w ↔ ∃ v, (name, v) ∈ entries ∧ v.Holds path w := by
  constructor
  · rintro (- | ⟨hmem, hpath⟩)
    exact ⟨_, hmem, hpath⟩
  · rintro ⟨v, hmem, hpath⟩
    exact .inside hmem hpath

mutual

theorem without_eq_self {gone : List String → Bool} (v : Value)
    (h : ∀ path w, v.Holds path w → gone path = false) : v.without gone = v := by
  cases v with
  | table origin entries =>
      rw [without, entriesWithout_eq_self entries fun name v hmem path w hpath => h _ w (.inside hmem hpath)]
  | _ => rfl

theorem entriesWithout_eq_self {gone : List String → Bool} (entries : Table)
    (h : ∀ name v, (name, v) ∈ entries → ∀ path w, v.Holds path w → gone (name :: path) = false) :
    entriesWithout gone entries = entries := by
  cases entries with
  | nil => rfl
  | cons entry rest =>
      obtain ⟨name, v⟩ := entry
      rw [entriesWithout, h name v List.mem_cons_self [] v (.here v), if_neg Bool.false_ne_true,
        without_eq_self v (h name v List.mem_cons_self),
        entriesWithout_eq_self rest fun other w hmem => h other w (List.mem_cons_of_mem _ hmem)]

end

theorem valuesOf_entriesWithout (gone : List String → Bool) (name : String) (entries : Table) :
    valuesOf name (entriesWithout gone entries)
      = if gone [name] then [] else (valuesOf name entries).map (without fun path => gone (name :: path)) := by
  induction entries with
  | nil => simp [entriesWithout]
  | cons entry rest ih =>
      obtain ⟨other, v⟩ := entry
      by_cases hname : other = name
      · subst hname
        rw [entriesWithout, valuesOf_cons_self]
        split <;> simp_all [valuesOf_cons_self]
      · rw [entriesWithout, valuesOf_cons_of_ne hname, ← ih]
        split
        · rfl
        · rw [valuesOf_cons_of_ne hname]

end Toml.Value

namespace Json.Record

open Toml Value

variable {α β σ : Type} {gone : List String → Bool} {entries : Table}

/-- What is read from the members is also read with those left out that are gone. -/
structure Survives (record : Record σ α) (gone : List String → Bool) (entries : Table) : Prop where
  readMembers {x : α} (hread : record.readMembers entries = .ok x) :
    record.readMembers (entriesWithout gone entries) = .ok x

theorem Survives.field {field : Field α} {get : σ → α} (hname : field.otherName? = none)
    (hgone : ∀ v, (field.name, v) ∈ entries → gone [field.name] = true →
      ∀ x, field.format.read v = .ok x → field.missing = some x)
    (hkept : ∀ v, (field.name, v) ∈ entries → gone [field.name] = false →
      ∀ x, field.format.read v = .ok x →
        field.format.read (v.without fun path => gone (field.name :: path)) = .ok x) :
    (Record.field field get).Survives gone entries where
  readMembers {x} hread := by
    have hreads {members : Table} : (Record.field field get).readMembers members = .ok x
        ↔ Says field.name (fun v x => field.format.read v = .ok x) field.missing members x :=
      readMembers_field_eq_ok_iff hname fun _ _ => Iff.rfl
    have hvalues := valuesOf_entriesWithout gone field.name entries
    rw [hreads] at hread ⊢
    cases hread with
    | absent hnone hdefault =>
        rw [hnone, List.map_nil, ite_self] at hvalues
        exact .absent hvalues hdefault
    | @member v _ hsole hread =>
        have hmem : (field.name, v) ∈ entries := mem_valuesOf_iff.mp (hsole ▸ List.mem_singleton_self v)
        cases hcase : gone [field.name] with
        | true =>
            rw [hcase, if_pos rfl] at hvalues
            exact .absent hvalues (hgone v hmem hcase x hread)
        | false =>
            rw [hcase, if_neg Bool.false_ne_true, hsole] at hvalues
            exact .member hvalues (hkept v hmem hcase x hread)

theorem Survives.map {record : Record σ α} (h : record.Survives gone entries) (f : α → β) :
    (f <$> record).Survives gone entries where
  readMembers hread := by
    obtain ⟨a, ha, rfl⟩ := readMembers_map_eq_ok_iff.mp hread
    exact readMembers_map_eq_ok_iff.mpr ⟨a, h.readMembers ha, rfl⟩

theorem Survives.seq {first : Record σ (α → β)} {second : Record σ α} (h : first.Survives gone entries)
    (h' : second.Survives gone entries) : (first <*> second).Survives gone entries where
  readMembers hread := by
    obtain ⟨g, a, hg, ha, rfl⟩ := readMembers_seq_eq_ok_iff.mp hread
    exact readMembers_seq_eq_ok_iff.mpr ⟨g, a, h.readMembers hg, h'.readMembers ha, rfl⟩

/-- A value that is read as a record is a table, or it has no members that could be left out. -/
theorem read_format_without {record : Record σ σ} {shape : String} {v : Toml.Value} {x : σ}
    (h : ∀ origin entries, v = .table origin entries → record.Survives gone entries)
    (hread : (record.format shape).read v = .ok x) : (record.format shape).read (v.without gone) = .ok x := by
  cases v with
  | table origin entries =>
      have hobject {entries : Table} : (record.format shape).read (Toml.Value.table origin entries) = .ok x
          ↔ record.readMembers entries = .ok x := by
        change record.readObject entries none = .ok x ↔ _
        rw [readObject_eq_ok_iff]
        exact and_iff_left ⟨fun _ _ _ => rfl, rfl⟩
      rw [hobject] at hread
      exact hobject.mpr ((h origin entries rfl).readMembers hread)
  | _ => exact hread

end Json.Record

end AgentDelegation

/-!
# Entries in the order of their names

Agents, settings, skills and the members of a JSON object are all kept by name, and whatever is printed
of them follows the code point order of the names. A map is a list of entries with strictly increasing
names, so its list of names is in order and without repetition by construction; inserting a name that is
already there replaces its entry. The main statements are the look-up laws `lookup_insert_self` and
`lookup_insert_of_ne`.
-/

namespace AgentDelegation

namespace Entries

/-- Inserts into entries with increasing names, replacing an entry of the same name. -/
def insert {α : Type} (name : String) (x : α) : List (String × α) → List (String × α)
  | [] => [(name, x)]
  | (n, y) :: rest =>
    if name < n then (name, x) :: (n, y) :: rest
    else if n < name then (n, y) :: insert name x rest
    else (name, x) :: rest

def Ordered {α : Type} (entries : List (String × α)) : Prop :=
  entries.Pairwise fun a b => a.1 < b.1

/-- The entries in name order; of several with one name the last stays. -/
def sort {α : Type} (entries : List (String × α)) : List (String × α) :=
  entries.foldl (fun sorted entry => insert entry.1 entry.2 sorted) []

theorem eq_of_not_lt_of_not_lt {a b : String} (hab : ¬ a < b) (hba : ¬ b < a) : a = b :=
  String.le_antisymm (String.not_lt.1 hba) (String.not_lt.1 hab)

theorem fst_of_mem_insert {α : Type} {name : String} {x : α} {entries : List (String × α)}
    {entry : String × α} (h : entry ∈ insert name x entries) :
    entry = (name, x) ∨ entry ∈ entries := by
  induction entries with
  | nil => simpa [insert] using h
  | cons head rest ih =>
      obtain ⟨n, y⟩ := head
      simp only [insert] at h
      split at h
      · simpa using h
      · split at h
        · rcases List.mem_cons.1 h with h | h
          · exact Or.inr (by simp [h])
          · exact (ih h).imp_right (List.mem_cons_of_mem _)
        · rcases List.mem_cons.1 h with h | h
          · exact Or.inl h
          · exact Or.inr (List.mem_cons_of_mem _ h)

theorem Ordered.insert {α : Type} {entries : List (String × α)} (h : Ordered entries)
    (name : String) (x : α) : Ordered (insert name x entries) := by
  induction entries with
  | nil => simp [Entries.insert, Ordered]
  | cons head rest ih =>
      obtain ⟨n, y⟩ := head
      obtain ⟨hhead, hrest⟩ := List.pairwise_cons.1 h
      simp only [Entries.insert]
      split
      · rename_i hlt
        refine List.pairwise_cons.2 ⟨fun entry hentry => ?_, h⟩
        rcases List.mem_cons.1 hentry with hentry | hentry
        · simpa [hentry] using hlt
        · exact String.lt_trans hlt (hhead _ hentry)
      · split
        · rename_i hlt
          refine List.pairwise_cons.2 ⟨fun entry hentry => ?_, ih hrest⟩
          rcases fst_of_mem_insert hentry with hentry | hentry
          · simpa [hentry] using hlt
          · exact hhead _ hentry
        · rename_i hnot hnot'
          have heq := eq_of_not_lt_of_not_lt hnot hnot'
          subst heq
          exact List.pairwise_cons.2 ⟨fun entry hentry => hhead _ hentry, hrest⟩

theorem lookup_cons_of_ne {α : Type} {name other : String} (h : other ≠ name) (x : α) (entries : List (String × α)) :
    List.lookup other ((name, x) :: entries) = entries.lookup other := by
  rw [List.lookup_cons, beq_false_of_ne h]

theorem lookup_insert_self {α : Type} (name : String) (x : α) (entries : List (String × α)) :
    (insert name x entries).lookup name = some x := by
  induction entries with
  | nil => simp [insert]
  | cons head rest ih =>
      obtain ⟨n, y⟩ := head
      simp only [insert]
      split
      · simp
      · split
        · rename_i hlt
          have hne : name ≠ n := fun h => String.lt_irrefl name (h ▸ hlt)
          rw [lookup_cons_of_ne hne, ih]
        · simp

theorem lookup_insert_of_ne {α : Type} {name other : String} (hne : other ≠ name) (x : α)
    (entries : List (String × α)) : (insert name x entries).lookup other = entries.lookup other := by
  induction entries with
  | nil => exact lookup_cons_of_ne hne x []
  | cons head rest ih =>
      obtain ⟨n, y⟩ := head
      simp only [insert]
      split
      · exact lookup_cons_of_ne hne x _
      · split
        · rw [List.lookup_cons, List.lookup_cons, ih]
        · rename_i hnot hnot'
          have heq := eq_of_not_lt_of_not_lt hnot hnot'
          subst heq
          rw [lookup_cons_of_ne hne, lookup_cons_of_ne hne]

theorem lookup_eq_none_iff {α : Type} {name : String} {entries : List (String × α)} :
    entries.lookup name = none ↔ name ∉ entries.map (·.1) := by
  simp only [List.lookup_eq_none_iff, bne_iff_ne, List.mem_map, not_exists, not_and]
  exact ⟨fun h entry hentry heq => h entry hentry heq.symm, fun h entry hentry heq => h entry hentry heq.symm⟩

theorem insert_of_forall_lt {α : Type} {name : String} {x : α} {entries : List (String × α)}
    (h : ∀ entry ∈ entries, entry.1 < name) : insert name x entries = entries ++ [(name, x)] := by
  induction entries with
  | nil => rfl
  | cons entry rest ih =>
      obtain ⟨other, y⟩ := entry
      obtain ⟨hlt, hrest⟩ := List.forall_mem_cons.1 h
      rw [insert, if_neg (String.lt_asymm hlt), if_pos hlt, ih hrest]
      rfl

theorem Ordered.nodup {α : Type} {entries : List (String × α)} (h : Ordered entries) :
    (entries.map Prod.fst).Nodup := by
  refine List.pairwise_map.2 (h.imp ?_)
  intro first second hlt hsame
  rw [hsame] at hlt
  exact String.lt_irrefl _ hlt

end Entries

/-- Entries with strictly increasing names. -/
structure NameMap (α : Type) where
  entries : List (String × α)
  ordered : Entries.Ordered entries

namespace NameMap

def empty {α : Type} : NameMap α := ⟨[], List.Pairwise.nil⟩

instance {α : Type} : Inhabited (NameMap α) := ⟨empty⟩

instance {α : Type} [DecidableEq α] : DecidableEq (NameMap α) := fun a b =>
  match decEq a.entries b.entries with
  | isTrue h => isTrue (by cases a; cases b; cases h; rfl)
  | isFalse h => isFalse (fun hab => h (hab ▸ rfl))

/-- Adds an entry, replacing one of the same name. -/
def insert {α : Type} (map : NameMap α) (name : String) (x : α) : NameMap α :=
  ⟨Entries.insert name x map.entries, map.ordered.insert name x⟩

def get? {α : Type} (map : NameMap α) (name : String) : Option α :=
  map.entries.lookup name

def names {α : Type} (map : NameMap α) : List String :=
  map.entries.map (·.1)

def size {α : Type} (map : NameMap α) : Nat :=
  map.entries.length

def isEmpty {α : Type} (map : NameMap α) : Bool :=
  map.entries.isEmpty

def insertAll {α : Type} (map : NameMap α) (entries : List (String × α)) : NameMap α :=
  entries.foldl (fun map entry => map.insert entry.1 entry.2) map

def ofList {α : Type} (entries : List (String × α)) : NameMap α :=
  empty.insertAll entries

@[simp] theorem entries_empty {α : Type} : (empty : NameMap α).entries = [] := rfl

@[simp] theorem get?_empty {α : Type} (name : String) : (empty : NameMap α).get? name = none := rfl

@[simp] theorem get?_insert_self {α : Type} (map : NameMap α) (name : String) (x : α) :
    (map.insert name x).get? name = some x :=
  Entries.lookup_insert_self name x map.entries

theorem get?_insert_of_ne {α : Type} (map : NameMap α) {name other : String} (hne : other ≠ name) (x : α) :
    (map.insert name x).get? other = map.get? other :=
  Entries.lookup_insert_of_ne hne x map.entries

end NameMap

end AgentDelegation

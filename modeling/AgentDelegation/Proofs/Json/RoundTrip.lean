import AgentDelegation.Proofs.Json.Trees

/-!
# What is written reads back

A format restores what it reads: whatever it makes of a value, it writes in a form that it reads as the
same again. The written form may reach the reader as it stands or with its members in name order, so the
laws are stated for any arrangement of members that keeps what objects have under each name. A free-form
value is restored only if the arrangement leaves it alone, which is why the values to be read are taken to
be arranged already.

An optional value needs more than that: what was read from anything but null must not be written as null,
or it would be taken for absent.
-/

namespace AgentDelegation.Json

variable {α : Type} {arrange : Value → Value}

/-! ### Arrangements -/

/-- A way to arrange the members of all objects of a value. -/
structure Arrangement (arrange : Value → Value) : Prop where
  null : arrange .null = .null
  bool (b : Bool) : arrange (.bool b) = .bool b
  num (n : Number) : arrange (.num n) = .num n
  str (s : String) : arrange (.str s) = .str s
  arr (items : List Value) : arrange (.arr items) = .arr (items.map arrange)
  /-- An object without repeated names keeps what it has under each. -/
  obj (members : Members) : ∃ arranged, arrange (.obj members) = .obj arranged ∧
    ((members.map Prod.fst).Nodup →
      ∀ name, valuesOf name arranged = (valuesOf name members).map arrange)
  /-- Members in name order stay where they are. -/
  ordered {members : Members} : Entries.Ordered members →
    arrange (.obj members) = .obj (members.map fun member => (member.1, arrange member.2))
  /-- What stands in an arranged object is arranged. -/
  member {members : Members} : arrange (.obj members) = .obj members →
    ∀ member ∈ members, arrange member.2 = member.2

namespace Arrangement

theorem empty (harrange : Arrangement arrange) : arrange (.obj []) = .obj [] := harrange.ordered .nil

theorem of_id : Arrangement id where
  null := rfl
  bool _ := rfl
  num _ := rfl
  str _ := rfl
  arr items := by rw [List.map_id]; rfl
  obj members := ⟨members, rfl, fun _ name => (List.map_id _).symm⟩
  ordered _ := by simp
  member _ _ _ := rfl

theorem item (harrange : Arrangement arrange) {items : List Value} (h : arrange (.arr items) = .arr items) :
    ∀ item ∈ items, arrange item = item := by
  rw [harrange.arr, Value.arr.injEq] at h
  exact List.map_inj_left.mp (h.trans (List.map_id items).symm)

theorem ne_null (harrange : Arrangement arrange) {v : Value} (h : v ≠ .null) : arrange v ≠ .null := by
  cases v with
  | null => exact absurd rfl h
  | bool b => simp [harrange.bool]
  | num n => simp [harrange.num]
  | str s => simp [harrange.str]
  | arr items => simp [harrange.arr]
  | obj members =>
      obtain ⟨arranged, harranged, -⟩ := harrange.obj members
      simp [harranged]

end Arrangement

/-! ### Settled values -/

namespace Value

theorem settledItems_eq_map (items : List Value) : settledItems items = items.map settled := by
  induction items with
  | nil => rfl
  | cons v rest ih => rw [settledItems, ih]; rfl

theorem ordered_settledMembers {members kept : Members} (h : Entries.Ordered kept) :
    Entries.Ordered (settledMembers members kept) := by
  induction members generalizing kept with
  | nil => exact h
  | cons member rest ih =>
      obtain ⟨name, v⟩ := member
      exact ih (h.insert name v.settled)

theorem settledMembers_of_ordered {members kept : Members} (h : Entries.Ordered (kept ++ members)) :
    settledMembers members kept = kept ++ members.map fun member => (member.1, member.2.settled) := by
  induction members generalizing kept with
  | nil => simp [settledMembers]
  | cons member rest ih =>
      obtain ⟨name, v⟩ := member
      have hlast : ∀ entry ∈ kept, entry.1 < name := fun entry hentry =>
        (List.pairwise_append.mp h).2.2 entry hentry (name, v) List.mem_cons_self
      have hnext : Entries.Ordered (kept ++ [(name, v.settled)] ++ rest) := by
        rw [Entries.Ordered, ← List.pairwise_map] at h ⊢
        simpa using h
      rw [settledMembers, Entries.insert_of_forall_lt hlast, ih hnext, List.append_assoc]
      rfl

theorem settled_obj_of_ordered {members : Members} (h : Entries.Ordered members) :
    (Value.obj members).settled = .obj (members.map fun member => (member.1, member.2.settled)) := by
  have hmembers : Entries.Ordered ([] ++ members) := h
  rw [settled, settledMembers_of_ordered hmembers, List.nil_append]

theorem valuesOf_settledMembers {members : Members} (h : (members.map Prod.fst).Nodup) (name : String) :
    valuesOf name (settledMembers members []) = (valuesOf name members).map settled := by
  have hsettled : ((settledMembers members []).map Prod.fst).Nodup := (ordered_settledMembers .nil).nodup
  have hget := lookup_settledMembers name members []
  rw [lookup_eq_head?_valuesOf] at hget
  rcases valuesOf_eq_nil_or_singleton h name with hnone | ⟨v, hsole⟩
  · rw [hnone] at hget ⊢
    exact List.head?_eq_none_iff.mp hget
  · rw [hsole] at hget ⊢
    rcases valuesOf_eq_nil_or_singleton hsettled name with hnone | ⟨w, hkept⟩
    · rw [hnone] at hget
      cases hget
    · rw [hkept] at hget ⊢
      exact congrArg (fun w => [w]) (Option.some.inj hget)

end Value

theorem Arrangement.of_settled : Arrangement Value.settled where
  null := rfl
  bool _ := rfl
  num _ := rfl
  str _ := rfl
  arr items := by rw [Value.settled, Value.settledItems_eq_map]
  obj members := ⟨_, rfl, Value.valuesOf_settledMembers⟩
  ordered := Value.settled_obj_of_ordered
  member := by
    intro members h
    have hmembers : Value.settledMembers members [] = members := Value.obj.inj h
    have hordered : Entries.Ordered members := hmembers ▸ Value.ordered_settledMembers .nil
    rw [Value.settled_obj_of_ordered hordered, Value.obj.injEq] at h
    intro member hmember
    have hsame := List.map_inj_left.mp (h.trans (List.map_id members).symm) member hmember
    exact congrArg Prod.snd hsame

/-! ### Formats that restore what they read -/

/-- What a value is written as, once arranged, reads as the value again. -/
def Format.Rereads (arrange : Value → Value) (format : Format α) (x : α) : Prop :=
  format.readValue (arrange (format.write x)) = .ok x

structure Format.Restores (arrange : Value → Value) (format : Format α) : Prop where
  rereads {v : Value} {x : α} : arrange v = v → format.readValue v = .ok x → format.Rereads arrange x
  ne_null {v : Value} {x : α} : v ≠ .null → format.readValue v = .ok x → format.write x ≠ .null

namespace Format

/-- A format of scalars, which no arrangement changes. -/
theorem restores_of_scalar {format : Format α}
    (hwrite : ∀ v x, format.readValue v = .ok x →
      format.readValue (format.write x) = .ok x ∧ arrange (format.write x) = format.write x ∧
        format.write x ≠ .null) :
    format.Restores arrange where
  rereads _ h := by
    obtain ⟨hread, hsame, -⟩ := hwrite _ _ h
    rw [Rereads, hsame]
    exact hread
  ne_null _ h := (hwrite _ _ h).2.2

theorem restores_any : any.Restores arrange where
  rereads harranged h := by
    obtain rfl := Except.ok.inj h
    rw [Rereads]
    exact congrArg Except.ok harranged
  ne_null hnull h := by
    obtain rfl := Except.ok.inj h
    exact hnull

theorem restores_members : members.Restores arrange where
  rereads {v x} harranged h := by
    cases v with
    | obj held =>
        obtain rfl : held = x := Except.ok.inj h
        rw [Rereads]
        exact (congrArg members.readValue harranged).trans rfl
    | _ => cases h
  ne_null _ _ := by simp [members]

/-! ### How optional values, lists and maps are read -/

theorem readValue_optional_eq_ok_iff {format : Format α} {v : Value} {x : Option α} :
    (optional format).readValue v = .ok x
      ↔ (v = .null ∧ x = none) ∨ (v ≠ .null ∧ ∃ y, format.readValue v = .ok y ∧ x = some y) := by
  by_cases hnull : v = .null
  · subst hnull
    simp [readValue, optional, Readable.view, Value.view, eq_comm]
  · have hread : (optional format).readValue v = (format.readValue v).map some := by
      cases v <;> first | exact absurd rfl hnull | rfl
    rw [hread]
    cases format.readValue v <;> simp [Except.map, hnull, eq_comm]

theorem readItems_eq_ok_iff {ν : Type} [Readable ν] {format : Format α} {items : List ν} {xs : List α} :
    readItems format items = .ok xs ↔ List.Forall₂ (fun n x => format.read n = .ok x) items xs := by
  induction items generalizing xs with
  | nil => simp [readItems, eq_comm]
  | cons n rest ih =>
      rw [readItems, List.forall₂_cons_left_iff]
      cases hn : format.read n with
      | error fault => simp
      | ok x =>
          simp only [← ih, Except.ok.injEq]
          cases hrest : readItems format rest with
          | error fault => simp [Except.map]
          | ok ys => simp [Except.map, eq_comm]

theorem readValue_list_eq_ok_iff {format : Format α} {v : Value} {xs : List α} :
    (list format).readValue v = .ok xs
      ↔ ∃ items, v = .arr items ∧ List.Forall₂ (fun n x => format.readValue n = .ok x) items xs := by
  cases v with
  | arr items =>
      simp only [Value.arr.injEq, exists_eq_left']
      change readItems format items >>= unlessStopped none = .ok xs ↔ _
      rw [bind_eq_ok_iff]
      simp only [unlessStopped, Except.ok.injEq, exists_eq_right, readItems_eq_ok_iff, readValue]
  | _ => simp [readValue, list, Readable.view, Value.view]

theorem Restores.rereads_of_items {format : Format α} (h : format.Restores arrange) {items : List Value}
    {xs : List α} (hitems : List.Forall₂ (fun n x => format.readValue n = .ok x) items xs)
    (harranged : ∀ item ∈ items, arrange item = item) : ∀ x ∈ xs, format.Rereads arrange x := by
  induction hitems with
  | nil => simp
  | cons hread _ ih =>
      obtain ⟨hitem, hrest⟩ := List.forall_mem_cons.mp harranged
      exact List.forall_mem_cons.mpr ⟨h.rereads hitem hread, ih hrest⟩

/-- Every entry of a map that is read was read from a member. -/
theorem exists_member_of_readEntries {ν : Type} [Readable ν] {format : Format α} {members : List (String × ν)}
    {map read : NameMap α} (h : readEntries format members map = .ok read) :
    ∀ entry ∈ read.entries, entry ∈ map.entries ∨ ∃ member ∈ members, format.read member.2 = .ok entry.2 := by
  induction members generalizing map with
  | nil =>
      obtain rfl := Except.ok.inj h
      exact fun entry hentry => .inl hentry
  | cons member rest ih =>
      obtain ⟨name, n⟩ := member
      rw [readEntries] at h
      cases hn : format.read n with
      | error fault => simp [hn] at h
      | ok x =>
          simp only [hn] at h
          intro entry hentry
          rcases ih h entry hentry with hmap | ⟨member, hmember, hread⟩
          · rcases Entries.fst_of_mem_insert hmap with rfl | hmap
            · exact .inr ⟨(name, n), List.mem_cons_self, hn⟩
            · exact .inl hmap
          · exact .inr ⟨member, List.mem_cons_of_mem _ hmember, hread⟩

/-- Entries in name order are read to the end of a map. -/
theorem readEntries_of_ordered {format : Format α} {entries : List (String × α)} {map : NameMap α}
    (hordered : Entries.Ordered (map.entries ++ entries))
    (h : ∀ entry ∈ entries, format.Rereads arrange entry.2) :
    ∃ read, readEntries format (entries.map fun entry => (entry.1, arrange (format.write entry.2))) map = .ok read ∧
      read.entries = map.entries ++ entries := by
  induction entries generalizing map with
  | nil => exact ⟨map, rfl, (List.append_nil _).symm⟩
  | cons entry rest ih =>
      obtain ⟨name, x⟩ := entry
      obtain ⟨hx, hrest⟩ := List.forall_mem_cons.mp h
      have hlast : ∀ entry ∈ map.entries, entry.1 < name := fun entry hentry =>
        (List.pairwise_append.mp hordered).2.2 entry hentry (name, x) List.mem_cons_self
      have hinsert : (map.insert name x).entries = map.entries ++ [(name, x)] := Entries.insert_of_forall_lt hlast
      have hnext : Entries.Ordered ((map.insert name x).entries ++ rest) := by simpa [hinsert] using hordered
      obtain ⟨read, hread, hentries⟩ := ih hnext hrest
      refine ⟨read, ?_, by rw [hentries, hinsert, List.append_assoc]; rfl⟩
      rw [List.map_cons, readEntries]
      have hfirst : format.read (arrange (format.write x)) = .ok x := hx
      simp only [hfirst]
      exact hread

/-! ### Each format -/

variable (harrange : Arrangement arrange)
include harrange

theorem restores_text : text.Restores arrange := by
  refine restores_of_scalar fun v x h => ?_
  cases v with
  | str s => exact ⟨rfl, harrange.str x, by simp [text]⟩
  | _ => cases h

theorem rereads_text (s : String) : text.Rereads arrange s := (restores_text harrange).rereads (harrange.str s) rfl

theorem restores_flag : flag.Restores arrange := by
  refine restores_of_scalar fun v x h => ?_
  cases v with
  | bool b => exact ⟨rfl, harrange.bool x, by simp [flag]⟩
  | _ => cases h

theorem rereads_flag (b : Bool) : flag.Rereads arrange b := (restores_flag harrange).rereads (harrange.bool b) rfl

theorem restores_signed : signed.Restores arrange := by
  refine restores_of_scalar fun v x h => ?_
  have hsame : v = signed.write x := by
    cases v with
    | num n =>
        cases n with
        | float => cases h
        | int k =>
            simp only [signed, integer, readValue, Readable.view, Value.view] at h
            split at h <;> cases h
            rfl
    | _ => cases h
  subst hsame
  exact ⟨h, harrange.num _, by simp [signed, integer, Value.ofInt]⟩

theorem rereads_unsigned {n : Nat} (h : n ≤ 18446744073709551615) : unsigned.Rereads arrange n := by
  have hwrite : arrange (unsigned.write n) = .num (.int n) := harrange.num _
  have hrange : (0 : Int) ≤ n ∧ (n : Int) ≤ 18446744073709551615 := by omega
  rw [Rereads, hwrite]
  simp only [readValue, unsigned, integer, Readable.view, Value.view, if_pos hrange, Except.map, Int.toNat_natCast]

theorem restores_unsigned : unsigned.Restores arrange where
  rereads {v n} _ h := by
    refine rereads_unsigned harrange ?_
    cases v with
    | num number =>
        cases number with
        | float => cases h
        | int k =>
            simp only [unsigned, integer, readValue, Readable.view, Value.view] at h
            split at h
            · rename_i hrange
              obtain rfl : k.toNat = n := Except.ok.inj h
              omega
            · cases h
    | _ => cases h
  ne_null _ _ := by simp [unsigned, Value.ofNat, Value.ofInt]

/-- Variants, each written under one of its own spellings. -/
theorem restores_variants {spellings : List (String × α)} {name : α → String}
    (hname : ∀ x, findVariant spellings (name x) = .ok x) : (variants spellings name).Restores arrange :=
  restores_of_scalar fun _ x _ => ⟨hname x, harrange.str _, by simp [variants]⟩

theorem rereads_parsed {parse : String → Except String α} {print : α → String}
    (hprint : ∀ x, parse (print x) = .ok x) (x : α) : (parsed parse print).Rereads arrange x := by
  have hwrite : arrange ((parsed parse print).write x) = .str (print x) := harrange.str _
  have hread : text.read (Value.str (print x)) = .ok (print x) := rfl
  rw [Rereads, hwrite]
  simp only [readValue, parsed, hread, bind, Except.bind, hprint]

theorem restores_parsed {parse : String → Except String α} {print : α → String}
    (hprint : ∀ x, parse (print x) = .ok x) : (parsed parse print).Restores arrange where
  rereads _ _ := rereads_parsed harrange hprint _
  ne_null _ _ := by simp [parsed]

theorem Restores.optional {format : Format α} (h : format.Restores arrange) :
    (optional format).Restores arrange where
  rereads {v x} harranged hread := by
    rw [Rereads, readValue_optional_eq_ok_iff]
    rcases readValue_optional_eq_ok_iff.mp hread with ⟨-, rfl⟩ | ⟨hnull, y, hinner, rfl⟩
    · exact .inl ⟨harrange.null, rfl⟩
    · exact .inr ⟨harrange.ne_null (h.ne_null hnull hinner), y, h.rereads harranged hinner, rfl⟩
  ne_null {v x} hnull hread := by
    rcases readValue_optional_eq_ok_iff.mp hread with ⟨hv, -⟩ | ⟨-, y, hinner, rfl⟩
    · exact absurd hv hnull
    · exact h.ne_null hnull hinner

theorem rereads_list {format : Format α} {xs : List α} (h : ∀ x ∈ xs, format.Rereads arrange x) :
    (list format).Rereads arrange xs := by
  refine readValue_list_eq_ok_iff.mpr ⟨_, harrange.arr _, ?_⟩
  rw [List.map_map, List.forall₂_map_left_iff, List.forall₂_same]
  exact h

theorem Restores.list {format : Format α} (h : format.Restores arrange) :
    (Format.list format).Restores arrange where
  rereads {v xs} harranged hread := by
    obtain ⟨items, rfl, hitems⟩ := readValue_list_eq_ok_iff.mp hread
    exact rereads_list harrange (h.rereads_of_items hitems (harrange.item harranged))
  ne_null _ _ := by simp [Format.list]

theorem Restores.entries {format : Format α} (h : format.Restores arrange) :
    (Format.entries format).Restores arrange where
  rereads {v map} harranged hread := by
    cases v with
    | obj members =>
        change readEntries format members .empty >>= unlessStopped none = .ok map at hread
        obtain ⟨result, hmembers, hresult⟩ := bind_eq_ok_iff.mp hread
        rw [Except.ok.inj hresult] at hmembers
        have hentries : ∀ entry ∈ map.entries, format.Rereads arrange entry.2 := by
          intro entry hentry
          rcases exists_member_of_readEntries hmembers entry hentry with hnone | ⟨member, hmember, hinner⟩
          · cases hnone
          · exact h.rereads (harrange.member harranged member hmember) hinner
        have hordered : Entries.Ordered ((NameMap.empty : NameMap α).entries ++ map.entries) := map.ordered
        obtain ⟨read, hread, hsame⟩ := readEntries_of_ordered hordered hentries
        obtain rfl : read = map := by
          cases read
          cases map
          congr
        have hwritten : Entries.Ordered (read.entries.map fun entry => (entry.1, format.write entry.2)) :=
          List.pairwise_map.mpr read.ordered
        rw [Rereads]
        change (Format.entries format).readValue (arrange (.obj _)) = _
        rw [harrange.ordered hwritten, List.map_map]
        change readEntries format _ .empty >>= unlessStopped none = _
        exact bind_eq_ok_iff.mpr ⟨_, hread, rfl⟩
    | _ => cases hread
  ne_null _ _ := by simp [Format.entries]

end Format

end AgentDelegation.Json

import AgentDelegation.Json.Record

/-!
# What the members of an object say of a field

A record is read from an object field by field. What a field comes to is said here without places and
without faults: its only member says it, or, if no member has its name, its default (`Says`). An object
reads as a record exactly if its members say every field and nothing is wrong with the members that no
field knows (`readObject_eq_ok_iff`).
-/

namespace AgentDelegation.Json

variable {α β ν σ : Type}

theorem bind_eq_ok_iff {ε : Type} {x : Except ε α} {f : α → Except ε β} {b : β} :
    x >>= f = .ok b ↔ ∃ a, x = .ok a ∧ f a = .ok b := by
  cases x <;> simp [bind, Except.bind]

theorem map_eq_ok_iff {ε : Type} {x : Except ε α} {f : α → β} {b : β} :
    x.map f = .ok b ↔ ∃ a, x = .ok a ∧ f a = b := by
  cases x <;> simp [Except.map]

/-- The values that members have under a name, in document order. -/
def valuesOf (name : String) (members : List (String × ν)) : List ν :=
  (members.filter fun member => member.1 == name).map Prod.snd

@[simp] theorem valuesOf_nil (name : String) : valuesOf name ([] : List (String × ν)) = [] := rfl

theorem valuesOf_cons_self (name : String) (n : ν) (rest : List (String × ν)) :
    valuesOf name ((name, n) :: rest) = n :: valuesOf name rest := by
  simp [valuesOf]

theorem valuesOf_cons_of_ne {name other : String} (h : other ≠ name) (n : ν) (rest : List (String × ν)) :
    valuesOf name ((other, n) :: rest) = valuesOf name rest := by
  simp [valuesOf, h]

theorem mem_valuesOf_iff {name : String} {n : ν} {members : List (String × ν)} :
    n ∈ valuesOf name members ↔ (name, n) ∈ members := by
  simp [valuesOf]

/-- Where no name is repeated there is one value under a name at most. -/
theorem valuesOf_eq_nil_or_singleton {members : List (String × ν)} (h : (members.map Prod.fst).Nodup)
    (name : String) : valuesOf name members = [] ∨ ∃ n, valuesOf name members = [n] := by
  induction members with
  | nil => exact .inl rfl
  | cons member rest ih =>
      obtain ⟨other, n⟩ := member
      obtain ⟨hother, hrest⟩ := List.nodup_cons.mp h
      by_cases hname : other = name
      · subst hname
        have hnone : valuesOf other rest = [] := by
          rw [List.eq_nil_iff_forall_not_mem]
          intro second hsecond
          exact hother (List.mem_map.mpr ⟨_, mem_valuesOf_iff.mp hsecond, rfl⟩)
        rw [valuesOf_cons_self, hnone]
        exact .inr ⟨n, rfl⟩
      · rw [valuesOf_cons_of_ne hname]
        exact ih hrest

theorem valuesOf_append (name : String) (members more : List (String × ν)) :
    valuesOf name (members ++ more) = valuesOf name members ++ valuesOf name more := by
  simp [valuesOf]

theorem valuesOf_eq_nil_of_sublist {name : String} {members : List (String × ν)} {names : List String}
    (hsub : (members.map Prod.fst).Sublist names) (hname : name ∉ names) : valuesOf name members = [] := by
  rw [List.eq_nil_iff_forall_not_mem]
  intro n hn
  exact hname (hsub.subset (List.mem_map.mpr ⟨_, mem_valuesOf_iff.mp hn, rfl⟩))

theorem lookup_eq_head?_valuesOf (name : String) (members : List (String × ν)) :
    members.lookup name = (valuesOf name members).head? := by
  induction members with
  | nil => rfl
  | cons member rest ih =>
      obtain ⟨other, n⟩ := member
      by_cases hname : other = name
      · subst hname
        rw [List.lookup_cons_self, valuesOf_cons_self]
        rfl
      · rw [Entries.lookup_cons_of_ne (Ne.symm hname), valuesOf_cons_of_ne hname, ih]

/-- What members say of the field of a name. -/
inductive Says (name : String) (reads : ν → α → Prop) (default : Option α) (members : List (String × ν)) :
    α → Prop where
  | absent {x : α} (hnone : valuesOf name members = []) (hdefault : default = some x) :
      Says name reads default members x
  | member {n : ν} {x : α} (hsole : valuesOf name members = [n]) (hreads : reads n x) :
      Says name reads default members x

/-! ### Placed values -/

namespace Placed

@[simp] theorem apply_eq_ok_iff {f : Placed (α → β)} {x : Placed α} {b : β} :
    apply f x = .ok b ↔ ∃ g a, f = .ok g ∧ x = .ok a ∧ g a = b := by
  cases f with
  | error fault =>
      cases x with
      | error fault' => simp only [apply]; split <;> simp
      | ok a => simp [apply]
  | ok g => cases x <;> simp [apply]

theorem check_eq_ok_iff {x : Placed α} {condition : Placed Unit} {a : α} :
    check x condition = .ok a ↔ x = .ok a ∧ condition = .ok () := by
  cases x <;> cases condition <;> simp [check, Except.map]

end Placed

/-! ### Fields -/

namespace Field

theorem map_snd_occurrences {field : Field α} {members : List (String × ν)}
    (hother : ∀ other, field.otherName? = some other → valuesOf other members = []) (i : Nat) :
    (field.occurrences i members).map Prod.snd = valuesOf field.name members := by
  induction members generalizing i with
  | nil => rfl
  | cons member rest ih =>
      obtain ⟨name, n⟩ := member
      have hname : field.otherName? ≠ some name := by
        intro h
        have hnone := hother name h
        rw [valuesOf_cons_self] at hnone
        cases hnone
      have hrest : ∀ other, field.otherName? = some other → valuesOf other rest = [] := by
        intro other h
        have hne : name ≠ other := fun hsame => hname (hsame ▸ h)
        rw [← valuesOf_cons_of_ne hne n]
        exact hother other h
      by_cases h : name = field.name
      · subst h
        rw [valuesOf_cons_self, ← ih hrest (i + 1)]
        simp [occurrences, matches?]
      · rw [valuesOf_cons_of_ne h, ← ih hrest (i + 1)]
        simp [occurrences, matches?, hname, h]

/-- Both names count alike. -/
theorem occurrences_swapped {field : Field α} {other : String} (hother : field.otherName? = some other) (i : Nat)
    (members : List (String × ν)) :
    { field with name := other, otherName? := some field.name }.occurrences i members
      = field.occurrences i members := by
  induction members generalizing i with
  | nil => rfl
  | cons member rest ih =>
      obtain ⟨name, n⟩ := member
      have hmatches : ({ field with name := other, otherName? := some field.name } : Field α).matches? name
          = field.matches? name := by
        rw [Bool.eq_iff_iff]
        simp only [matches?, hother, Bool.or_eq_true, beq_iff_eq, Option.some.injEq]
        exact ⟨fun h => h.symm.imp Eq.symm Eq.symm, fun h => h.symm.imp Eq.symm Eq.symm⟩
      rw [occurrences, occurrences, ih (i + 1), hmatches]

/-- A field under its other name, where no member has its first name. -/
theorem map_snd_occurrences_of_other {field : Field α} {other : String} (hother : field.otherName? = some other)
    {members : List (String × ν)} (hname : valuesOf field.name members = []) (i : Nat) :
    (field.occurrences i members).map Prod.snd = valuesOf other members := by
  rw [← occurrences_swapped hother]
  refine map_snd_occurrences (fun name hfirst => ?_) i
  obtain rfl : field.name = name := Option.some.inj hfirst
  exact hname

/-- A field that one member says, under whichever of its names. -/
theorem readMember_of_sole [Readable ν] {field : Field α} {members : List (String × ν)} {n : ν} {x : α}
    (hsole : (field.occurrences 0 members).map Prod.snd = [n]) (hread : field.format.read n = .ok x) :
    field.readMember members = .ok x := by
  obtain ⟨⟨i, found⟩, hoccurrences, rfl⟩ := List.map_eq_singleton_iff.mp hsole
  simp [readMember, hoccurrences, hread]

/-- A field under its first name, where no member has its other name. -/
theorem readMember_eq_ok_iff [Readable ν] {field : Field α} {members : List (String × ν)}
    (hother : ∀ other, field.otherName? = some other → valuesOf other members = []) {x : α} :
    field.readMember members = .ok x
      ↔ Says field.name (fun n x => field.format.read n = .ok x) field.missing members x := by
  have hvalues := map_snd_occurrences hother 0
  constructor
  · intro h
    rw [readMember] at h
    split at h
    · rename_i hnone
      split at h
      · rename_i hmissing
        exact .absent (by simpa [hnone] using hvalues.symm) (Except.ok.inj h ▸ hmissing)
      · cases h
    · rename_i hsome
      split at h <;> cases h
      rename_i hread
      exact .member (by simpa [hsome] using hvalues.symm) hread
  · intro h
    cases h with
    | absent hnone hdefault =>
        rw [hnone, List.map_eq_nil_iff] at hvalues
        simp [readMember, hvalues, hdefault]
    | member hsole hreads => exact readMember_of_sole (hvalues.trans hsole) hreads

end Field

/-! ### Objects -/

namespace Record

@[simp] theorem readMembers_seq_eq_ok_iff [Readable ν] {f : Record σ (α → β)} {x : Record σ α}
    {members : List (String × ν)} {b : β} :
    (f <*> x).readMembers members = .ok b
      ↔ ∃ g a, f.readMembers members = .ok g ∧ x.readMembers members = .ok a ∧ g a = b :=
  Placed.apply_eq_ok_iff

@[simp] theorem readMembers_map_eq_ok_iff [Readable ν] {f : α → β} {x : Record σ α}
    {members : List (String × ν)} {b : β} :
    (f <$> x).readMembers members = .ok b ↔ ∃ a, x.readMembers members = .ok a ∧ f a = b := by
  refine Placed.apply_eq_ok_iff.trans ?_
  simp [Record.pure]

theorem readMembers_field_eq_ok_iff [Readable ν] {field : Field α} (hname : field.otherName? = none)
    {reads : ν → α → Prop} (hreads : ∀ n x, field.format.read n = .ok x ↔ reads n x) {get : σ → α}
    {members : List (String × ν)} {x : α} :
    (Record.field field get).readMembers members = .ok x
      ↔ Says field.name reads field.missing members x := by
  obtain rfl : (fun n x => field.format.read n = .ok x) = reads :=
    funext fun n => funext fun x => propext (hreads n x)
  exact Field.readMember_eq_ok_iff (by simp [hname])

@[simp] theorem knows_seq (f : Record σ (α → β)) (x : Record σ α) (name : String) :
    (f <*> x).knows name = (f.knows name || x.knows name) := (rfl)

@[simp] theorem knows_map (f : α → β) (x : Record σ α) (name : String) : (f <$> x).knows name = x.knows name :=
  Bool.false_or _

theorem knows_field {field : Field α} (hname : field.otherName? = none) (get : σ → α) (name : String) :
    (Record.field field get).knows name = (name == field.name) := by
  simp [Record.field, Field.matches?, hname]

theorem unknownFault_eq_ok_iff [Readable ν] {knows : String → Bool} {i : Nat} {members : List (String × ν)} :
    unknownFault knows i members = .ok ()
      ↔ ∀ member ∈ members, knows member.1 = false → Readable.skip member.2 = none := by
  induction members generalizing i with
  | nil => simp [unknownFault]
  | cons member rest ih =>
      obtain ⟨name, n⟩ := member
      rw [unknownFault, List.forall_mem_cons]
      split
      · rename_i fault hknows hskip
        simp [hknows, hskip]
      · rename_i hother
        rw [ih]
        refine ⟨fun h => ⟨fun hknows => ?_, h⟩, And.right⟩
        exact Option.eq_none_iff_forall_ne_some.mpr fun fault hskip => hother fault hknows hskip

theorem readObject_eq_ok_iff [Readable ν] {record : Record σ α} {members : List (String × ν)}
    {stop : Option Fault} {x : α} :
    record.readObject members stop = .ok x
      ↔ record.readMembers members = .ok x ∧
        (∀ member ∈ members, record.knows member.1 = false → Readable.skip member.2 = none) ∧ stop = none := by
  have hstop : stopFault members.length stop = .ok () ↔ stop = none := by cases stop <;> simp [stopFault]
  rw [← unknownFault_eq_ok_iff (i := 0), ← hstop, ← and_assoc, ← Placed.check_eq_ok_iff,
    ← Placed.check_eq_ok_iff, readObject]
  split <;> simp_all

/-! ### Arrays -/

theorem readRow_seq_eq_ok_iff [Readable ν] {f : Record σ (α → β)} {x : Record σ α} {shape : String}
    {row last : Row ν} {b : β} :
    (f <*> x).readRow shape row = .ok (b, last)
      ↔ ∃ g next a, f.readRow shape row = .ok (g, next) ∧ x.readRow shape next = .ok (a, last) ∧ g a = b := by
  change (f.readRow shape row >>= fun p => x.readRow shape p.2 >>= fun q => .ok (p.1 q.1, q.2)) = _ ↔ _
  simp only [bind_eq_ok_iff, Prod.exists, Except.ok.injEq, Prod.mk.injEq]
  constructor
  · rintro ⟨g, next, hf, a, _, hx, rfl, rfl⟩
    exact ⟨g, next, a, hf, hx, rfl⟩
  · rintro ⟨g, next, a, hf, hx, rfl⟩
    exact ⟨g, next, hf, a, last, hx, rfl, rfl⟩

theorem readRow_map_eq_ok_iff [Readable ν] {f : α → β} {x : Record σ α} {shape : String} {row last : Row ν}
    {b : β} :
    (f <$> x).readRow shape row = .ok (b, last) ↔ ∃ a, x.readRow shape row = .ok (a, last) ∧ f a = b := by
  change (x.readRow shape row >>= fun q => .ok (f q.1, q.2)) = _ ↔ _
  simp only [bind_eq_ok_iff, Prod.exists, Except.ok.injEq, Prod.mk.injEq]
  constructor
  · rintro ⟨a, _, hx, rfl, rfl⟩
    exact ⟨a, hx, rfl⟩
  · rintro ⟨a, hx, rfl⟩
    exact ⟨a, last, hx, rfl, rfl⟩

/-- A field that an array may not leave out takes its next element. -/
theorem readRow_field_eq_ok_iff [Readable ν] {field : Field α} (hshort : field.short = none)
    {reads : ν → α → Prop} (hreads : ∀ n x, field.format.read n = .ok x ↔ reads n x) {get : σ → α}
    {shape : String} {row last : Row ν} {x : α} :
    (Record.field field get).readRow shape row = .ok (x, last)
      ↔ ∃ n rest, row.items = n :: rest ∧ reads n x ∧ last = ⟨rest, row.place + 1, row.stop⟩ := by
  obtain ⟨items, place, stop⟩ := row
  cases items with
  | nil => cases stop <;> simp [Record.field, hshort]
  | cons n rest =>
      change (field.format.read n >>= fun y => .ok (y, (⟨rest, place + 1, stop⟩ : Row ν))) = _ ↔ _
      simp only [bind_eq_ok_iff, hreads, Except.ok.injEq, Prod.mk.injEq, List.cons.injEq]
      constructor
      · rintro ⟨_, hx, rfl, rfl⟩
        exact ⟨n, rest, ⟨rfl, rfl⟩, hx, rfl⟩
      · rintro ⟨_, _, ⟨rfl, rfl⟩, hx, rfl⟩
        exact ⟨x, hx, rfl, rfl⟩

theorem readArray_eq_ok_iff [Readable ν] {record : Record σ α} {shape : String} {items : List ν}
    {stop surplus : Option Fault} {x : α} :
    record.readArray shape items stop surplus = .ok x
      ↔ ∃ last, record.readRow shape ⟨items, 0, stop⟩ = .ok (x, last) ∧
        (if last.items.isEmpty then stop else surplus) = none := by
  have hstop (stop : Option Fault) (y : α) : Format.unlessStopped stop y = .ok x ↔ y = x ∧ stop = none := by
    cases stop <;> simp [Format.unlessStopped]
  rw [readArray, bind_eq_ok_iff]
  simp only [hstop, Prod.exists]
  constructor
  · rintro ⟨_, last, hread, rfl, hrest⟩
    exact ⟨last, hread, hrest⟩
  · rintro ⟨last, hread, hrest⟩
    exact ⟨x, last, hread, rfl, hrest⟩

end Record

end AgentDelegation.Json

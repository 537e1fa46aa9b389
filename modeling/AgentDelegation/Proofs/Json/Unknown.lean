import AgentDelegation.Json.Record

/-!
# Members that no field knows

A member that no field of a record knows may stand anywhere among the members of an object. It moves the
places of the members behind it, and with them the places of their faults, but the faults stay in their
order and the first one stays the first. So an object is read alike with and without such a member, and
where it is refused it is refused for the same cause (`readObject_of_overlooks`).
-/

namespace AgentDelegation.Json

variable {α β ν σ : Type}

/-- Where a member stands once another one is put in at a place. -/
def placeAfter (place i : Nat) : Nat := if i < place then i else i + 1

theorem placeAfter_lt_iff (place i j : Nat) : placeAfter place i < placeAfter place j ↔ i < j := by
  unfold placeAfter
  split <;> split <;> omega

theorem placeAfter_of_le {place i : Nat} (h : place ≤ i) : placeAfter place i = i + 1 := if_neg (by omega)

theorem placeAfter_of_lt {place i : Nat} (h : i < place) : placeAfter place i = i := if_pos h

namespace Placed

/-- The fault behind the place of a new member moves by one place. -/
def shift (place : Nat) (x : Placed α) : Placed α := x.mapError fun fault => (placeAfter place fault.1, fault.2)

@[simp] theorem shift_ok (place : Nat) (x : α) : shift place (.ok x) = .ok x := rfl

@[simp] theorem shift_error (place i : Nat) (fault : Fault) :
    shift place (.error (i, fault) : Placed α) = .error (placeAfter place i, fault) := rfl

theorem apply_shift (place : Nat) (f : Placed (α → β)) (x : Placed α) :
    apply (f.shift place) (x.shift place) = (apply f x).shift place := by
  cases f with
  | ok f => cases x <;> rfl
  | error first =>
      cases x with
      | ok x => rfl
      | error second =>
          obtain ⟨i, fault⟩ := first
          obtain ⟨j, fault'⟩ := second
          simp only [shift_error, apply, placeAfter_lt_iff]
          split <;> rfl

theorem check_shift (place : Nat) (x : Placed α) (condition : Placed Unit) :
    check (x.shift place) (condition.shift place) = (check x condition).shift place := by
  rw [check, check, ← apply_shift]
  cases x <;> rfl

end Placed

/-! ### Fields -/

namespace Field

variable {field : Field α} {name : String}

theorem occurrences_succ (field : Field α) {place i : Nat} (h : place ≤ i) (members : List (String × ν)) :
    field.occurrences (i + 1) members
      = (field.occurrences i members).map fun entry => (placeAfter place entry.1, entry.2) := by
  induction members generalizing i with
  | nil => rfl
  | cons member rest ih =>
      rw [occurrences, occurrences, ih (Nat.le_succ_of_le h)]
      split
      · rw [List.map_cons, placeAfter_of_le h]
      · rfl

theorem occurrences_of_not_matches (h : field.matches? name = false) (i : Nat) (before after : List (String × ν))
    (n : ν) :
    field.occurrences i (before ++ (name, n) :: after)
      = (field.occurrences i (before ++ after)).map
          fun entry => (placeAfter (i + before.length) entry.1, entry.2) := by
  induction before generalizing i with
  | nil =>
      rw [List.nil_append, List.nil_append, occurrences, if_neg (by simp [h])]
      exact occurrences_succ field (Nat.le_refl i) after
  | cons member rest ih =>
      have hlength : i + (member :: rest).length = i + 1 + rest.length := by
        rw [List.length_cons]
        omega
      rw [List.cons_append, List.cons_append, occurrences, occurrences, ih, hlength]
      split
      · rw [List.map_cons, placeAfter_of_lt (by omega)]
      · rfl

theorem readMember_of_not_matches [Readable ν] (h : field.matches? name = false)
    (before after : List (String × ν)) (n : ν) :
    field.readMember (before ++ (name, n) :: after)
      = (field.readMember (before ++ after)).shift before.length := by
  rw [readMember, readMember, occurrences_of_not_matches h, Nat.zero_add]
  cases field.occurrences 0 (before ++ after) with
  | nil =>
      have hlength : (before ++ (name, n) :: after).length + 1
          = placeAfter before.length ((before ++ after).length + 1) := by
        rw [placeAfter_of_le] <;> simp only [List.length_append, List.length_cons] <;> omega
      rw [hlength]
      cases field.missing <;> rfl
  | cons entry more =>
      cases hread : field.format.read entry.2 with
      | error fault => simp [hread]
      | ok x => cases more <;> simp [hread]

end Field

/-! ### Records -/

namespace Record

/-- A member of the name moves the places of the faults behind it and does nothing else. -/
structure Overlooks (record : Record σ α) (name : String) : Prop where
  readMembers {ν : Type} [Readable ν] (before after : List (String × ν)) (n : ν) :
    record.readMembers (before ++ (name, n) :: after)
      = (record.readMembers (before ++ after)).shift before.length

variable {name : String}

theorem Overlooks.field {field : Field α} {get : σ → α} (h : field.matches? name = false) :
    (Record.field field get).Overlooks name where
  readMembers before after n := Field.readMember_of_not_matches h before after n

theorem Overlooks.map {record : Record σ α} (h : record.Overlooks name) (f : α → β) :
    (f <$> record).Overlooks name where
  readMembers before after n := by
    change Placed.apply (.ok f) (record.readMembers _)
      = Placed.shift _ (Placed.apply (.ok f) (record.readMembers _))
    rw [h.readMembers, ← Placed.apply_shift]
    rfl

theorem Overlooks.seq {first : Record σ (α → β)} {second : Record σ α} (h : first.Overlooks name)
    (h' : second.Overlooks name) : (first <*> second).Overlooks name where
  readMembers before after n := by
    change Placed.apply (first.readMembers _) (second.readMembers _)
      = Placed.shift _ (Placed.apply (first.readMembers _) (second.readMembers _))
    rw [h.readMembers, h'.readMembers, Placed.apply_shift]

/-! ### Objects -/

variable [Readable ν] {n : ν}

theorem unknownFault_succ (knows : String → Bool) {place i : Nat} (h : place ≤ i) (members : List (String × ν)) :
    unknownFault knows (i + 1) members = (unknownFault knows i members).shift place := by
  induction members generalizing i with
  | nil => rfl
  | cons member rest ih =>
      rw [unknownFault, unknownFault, ih (Nat.le_succ_of_le h)]
      split
      · rw [Placed.shift_error, placeAfter_of_le h]
      · rfl

theorem unknownFault_of_skip (hskip : Readable.skip n = none) (knows : String → Bool) (i : Nat)
    (before after : List (String × ν)) :
    unknownFault knows i (before ++ (name, n) :: after)
      = (unknownFault knows i (before ++ after)).shift (i + before.length) := by
  induction before generalizing i with
  | nil =>
      rw [List.nil_append, List.nil_append, unknownFault]
      split
      · rename_i hfault
        cases hskip.symm.trans hfault
      · exact unknownFault_succ knows (Nat.le_refl i) after
  | cons member rest ih =>
      have hlength : i + (member :: rest).length = i + 1 + rest.length := by
        rw [List.length_cons]
        omega
      rw [List.cons_append, List.cons_append, unknownFault, unknownFault, ih, hlength]
      split
      · rw [Placed.shift_error, placeAfter_of_lt (by omega)]
      · rfl

theorem stopFault_succ {place length : Nat} (h : place ≤ length) (stop : Option Fault) :
    stopFault (length + 1) stop = (stopFault length stop).shift place := by
  cases stop with
  | none => rfl
  | some fault => rw [stopFault, stopFault, Placed.shift_error, placeAfter_of_le h]

/-- An object is read, or refused, as if a member that no field knows and that can be passed over were not
there. -/
theorem readObject_of_overlooks {record : Record σ α} (h : record.Overlooks name)
    (hskip : Readable.skip n = none) (before after : List (String × ν)) (stop : Option Fault) :
    record.readObject (before ++ (name, n) :: after) stop = record.readObject (before ++ after) stop := by
  have hlength : (before ++ (name, n) :: after).length = (before ++ after).length + 1 := by
    simp only [List.length_append, List.length_cons]
    omega
  have hplace : before.length ≤ (before ++ after).length := by simp
  rw [readObject, readObject, h.readMembers, unknownFault_of_skip hskip, Nat.zero_add, Placed.check_shift, hlength,
    stopFault_succ hplace, Placed.check_shift]
  generalize Placed.check (Placed.check (record.readMembers (before ++ after)) _) _ = found
  cases found <;> rfl

end Record

end AgentDelegation.Json

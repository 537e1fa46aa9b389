import AgentDelegation.Proofs.Json.RoundTrip

/-!
# Values that are read alike

Two values of a record are recasts of each other if they give the same fields in the same order, in an
object or in an array, and each field a value that is alike by a relation of its own. A format follows such
a likeness if whatever it makes of a value it makes alike of the other. A description of a record follows
it field by field; what is read of a description that is not finished yet is a function, and `Each` says of
all pairs of such functions at once how they are related.
-/

namespace AgentDelegation.Json

variable {α β σ : Type} {Alike : String → Value → Value → Prop} {Same : α → α → Prop}

/-! ### Likeness of values -/

/-- Members of the same name with values that are alike for it. -/
def MemberAlike (Alike : String → Value → Value → Prop) (member other : String × Value) : Prop :=
  member.1 = other.1 ∧ Alike member.1 member.2 other.2

/-- Elements of arrays, each alike for the name of the field at its place. -/
inductive RowAlike (Alike : String → Value → Value → Prop) : List String → List Value → List Value → Prop where
  | nil (names : List String) : RowAlike Alike names [] []
  | cons {name : String} {names : List String} {v w : Value} {items others : List Value}
      (hfirst : Alike name v w) (hrest : RowAlike Alike names items others) :
      RowAlike Alike (name :: names) (v :: items) (w :: others)

namespace Value

/-- Two values of a record with fields of the given names that give the same fields in the same order. -/
inductive Recast (Alike : String → Value → Value → Prop) (names : List String) : Value → Value → Prop where
  | same (v : Value) : Recast Alike names v v
  | obj {members others : Members} (hmembers : List.Forall₂ (MemberAlike Alike) members others) :
      Recast Alike names (.obj members) (.obj others)
  | arr {items others : List Value} (hitems : RowAlike Alike names items others) :
      Recast Alike names (.arr items) (.arr others)

/-- Arrays with related elements. -/
inductive Arrays (R : List Value → List Value → Prop) : Value → Value → Prop where
  | arr {items others : List Value} (hitems : R items others) : Arrays R (.arr items) (.arr others)

/-- The values of the field of one name are related, those of all others are the same. -/
def Only (name : String) (R : Value → Value → Prop) (other : String) (v w : Value) : Prop :=
  v = w ∨ (other = name ∧ R v w)

end Value

open Value (Arrays Only Recast)

theorem forall₂_valuesOf_alike {members others : Members} (h : List.Forall₂ (MemberAlike Alike) members others)
    (name : String) : List.Forall₂ (Alike name) (valuesOf name members) (valuesOf name others) := by
  induction h with
  | nil => exact .nil
  | @cons member other _ _ hmember _ ih =>
      obtain ⟨given, v⟩ := member
      obtain ⟨_, w⟩ := other
      obtain ⟨rfl, hv⟩ := hmember
      by_cases hname : given = name
      · subst hname
        rw [valuesOf_cons_self, valuesOf_cons_self]
        exact .cons hv ih
      · rw [valuesOf_cons_of_ne hname, valuesOf_cons_of_ne hname]
        exact ih

theorem map_fst_eq_of_alike {members others : Members} (h : List.Forall₂ (MemberAlike Alike) members others) :
    members.map Prod.fst = others.map Prod.fst := by
  induction h with
  | nil => rfl
  | cons hmember _ ih => rw [List.map_cons, List.map_cons, hmember.1, ih]

/-- Where only one name may differ, the others have the same values. -/
theorem valuesOf_eq_of_only {name other : String} {R : Value → Value → Prop} {members others : Members}
    (h : List.Forall₂ (MemberAlike (Only name R)) members others) (hother : other ≠ name) :
    valuesOf other members = valuesOf other others := by
  rw [← List.forall₂_eq_eq_eq]
  apply (forall₂_valuesOf_alike h other).imp
  intro v w halike
  exact halike.resolve_right fun hthis => hother hthis.1

/-! ### Formats -/

namespace Format

/-- Of alike values the format makes the same sort of thing, if it makes anything of the first. -/
structure Follows (format : Format α) (Alike : Value → Value → Prop) (Same : α → α → Prop) : Prop where
  read {v w : Value} {x : α} : Alike v w → format.readValue v = .ok x → ∃ y, format.readValue w = .ok y ∧ Same x y

/-- A field of another name is read as before. -/
theorem Follows.unchanged {format : Format α} {name other : String} {R : Value → Value → Prop}
    (hname : other ≠ name) : format.Follows (Only name R other) Eq where
  read {v w x} halike hread := by
    rcases halike with rfl | ⟨hsame, -⟩
    · exact ⟨x, hread, rfl⟩
    · exact absurd hsame hname

theorem Follows.only {format : Format α} {name : String} {R : Value → Value → Prop} (h : format.Follows R Same)
    (hrefl : ∀ x, Same x x) : format.Follows (Only name R name) Same where
  read {v w x} halike hread := by
    rcases halike with rfl | ⟨-, hrelated⟩
    · exact ⟨x, hread, hrefl x⟩
    · exact h.read hrelated hread

theorem Follows.optional {format : Format α} {R : Value → Value → Prop} (h : format.Follows R Same)
    (hnull : ∀ v w, R v w → (v = .null ↔ w = .null)) : (optional format).Follows R (Option.Rel Same) where
  read {v w x} halike hread := by
    simp only [readValue_optional_eq_ok_iff] at hread ⊢
    rcases hread with ⟨hv, rfl⟩ | ⟨hv, y, hy, rfl⟩
    · exact ⟨none, .inl ⟨(hnull v w halike).mp hv, rfl⟩, .none⟩
    · obtain ⟨z, hz, hsame⟩ := h.read halike hy
      refine ⟨some z, .inr ⟨?_, z, hz, rfl⟩, .some hsame⟩
      intro hw
      exact hv ((hnull v w halike).mpr hw)

theorem Follows.list {format : Format α} {R : Value → Value → Prop} (h : format.Follows R Same) :
    (Format.list format).Follows (Arrays (List.Forall₂ R)) (List.Forall₂ Same) where
  read {v w xs} halike hread := by
    obtain ⟨hitems⟩ := halike
    obtain ⟨_, hv, hxs⟩ := readValue_list_eq_ok_iff.mp hread
    obtain rfl := Value.arr.inj hv
    simp only [readValue_list_eq_ok_iff, Value.arr.injEq, exists_eq_left']
    clear hread hv
    induction hitems generalizing xs with
    | nil =>
        obtain rfl := List.forall₂_nil_left_iff.mp hxs
        exact ⟨[], .nil, .nil⟩
    | cons hitem _ ih =>
        obtain ⟨x, rest, hx, hrest, rfl⟩ := List.forall₂_cons_left_iff.mp hxs
        obtain ⟨y, hy, hsame⟩ := h.read hitem hx
        obtain ⟨ys, hys, hsames⟩ := ih hrest
        exact ⟨y :: ys, .cons hy hys, .cons hsame hsames⟩

end Format

/-! ### Records -/

theorem Field.exists_readMember {field : Field α} (hname : field.otherName? = none)
    (hformat : field.format.Follows (Alike field.name) Same) (hrefl : ∀ x, Same x x) {members others : Members}
    (h : List.Forall₂ (MemberAlike Alike) members others) {x : α} (hread : field.readMember members = .ok x) :
    ∃ y, field.readMember others = .ok y ∧ Same x y := by
  have hvalues := forall₂_valuesOf_alike h field.name
  have hother (members : Members) : ∀ other, field.otherName? = some other → valuesOf other members = [] := by
    simp [hname]
  simp only [Field.readMember_eq_ok_iff (hother _)] at hread ⊢
  cases hread with
  | absent hnone hdefault =>
      rw [hnone, List.forall₂_nil_left_iff] at hvalues
      exact ⟨x, .absent hvalues hdefault, hrefl x⟩
  | member hsole hx =>
      rw [hsole] at hvalues
      obtain ⟨w, rest, hw, hrest, hothers⟩ := List.forall₂_cons_left_iff.mp hvalues
      obtain rfl := List.forall₂_nil_left_iff.mp hrest
      obtain ⟨y, hy, hsame⟩ := hformat.read hw hx
      exact ⟨y, .member hothers hy, hsame⟩

namespace Record

/-- Where the first members are read so are the others, and `Each` says how what they are read as is related. -/
structure Carries (record : Record σ α) (members others : Members) (Each : (α → α → Prop) → Prop) : Prop where
  read {x : α} : record.readMembers members = .ok x →
    ∃ y, record.readMembers others = .ok y ∧ ∀ C, Each C → C x y

namespace Carries

variable {members others : Members}

theorem field {field : Field α}
    (h : ∀ x, field.readMember members = .ok x → ∃ y, field.readMember others = .ok y ∧ Same x y) (get : σ → α) :
    (Record.field field get).Carries members others fun C => ∀ x y, Same x y → C x y where
  read hread := by
    obtain ⟨y, hy, hsame⟩ := h _ hread
    exact ⟨y, hy, fun C hC => hC _ _ hsame⟩

/-- A field of which both say the same. -/
theorem kept {field : Field α} (hname : field.otherName? = none)
    (hvalues : valuesOf field.name members = valuesOf field.name others) (get : σ → α) :
    (Record.field field get).Carries members others fun C => ∀ x y, x = y → C x y := by
  refine Carries.field (fun x hread => ⟨x, ?_, rfl⟩) get
  rw [Field.readMember_eq_ok_iff (by simp [hname])] at hread ⊢
  cases hread with
  | absent hnone hdefault => exact .absent (hvalues ▸ hnone) hdefault
  | member hsole hreads => exact .member (hvalues ▸ hsole) hreads

/-- A field that the others say, whatever the first ones say of it. -/
theorem given {field : Field α} (hname : field.otherName? = none) {value : α}
    (hvalue : Says field.name (fun v x => field.format.readValue v = .ok x) field.missing others value) (get : σ → α) :
    (Record.field field get).Carries members others fun C => ∀ x y, value = y → C x y :=
  Carries.field (fun _ _ => ⟨value, (Field.readMember_eq_ok_iff (by simp [hname])).mpr hvalue, rfl⟩) get

theorem map {record : Record σ α} {Each : (α → α → Prop) → Prop} (h : record.Carries members others Each)
    (f : α → β) : (f <$> record).Carries members others fun C => Each fun x y => C (f x) (f y) where
  read hread := by
    obtain ⟨x, hx, rfl⟩ := readMembers_map_eq_ok_iff.mp hread
    obtain ⟨y, hy, heach⟩ := h.read hx
    exact ⟨f y, readMembers_map_eq_ok_iff.mpr ⟨y, hy, rfl⟩, fun C hC => heach _ hC⟩

theorem seq {first : Record σ (α → β)} {second : Record σ α} {Each : ((α → β) → (α → β) → Prop) → Prop}
    {EachOther : (α → α → Prop) → Prop} (h : first.Carries members others Each)
    (h' : second.Carries members others EachOther) :
    (first <*> second).Carries members others fun C => Each fun f g => EachOther fun x y => C (f x) (g y) where
  read hread := by
    obtain ⟨f, x, hf, hx, rfl⟩ := readMembers_seq_eq_ok_iff.mp hread
    obtain ⟨g, hg, heach⟩ := h.read hf
    obtain ⟨y, hy, heach'⟩ := h'.read hx
    exact ⟨g y, readMembers_seq_eq_ok_iff.mpr ⟨g, y, hg, hy, rfl⟩, fun C hC => heach' _ (heach _ hC)⟩

theorem exists_readValue {record : Record σ σ} {Each : (σ → σ → Prop) → Prop} {shape : String}
    (h : record.Carries members others Each) (Same : σ → σ → Prop) (heach : Each Same) {s : σ}
    (hread : (record.format shape).readValue (.obj members) = .ok s) :
    ∃ t, (record.format shape).readValue (.obj others) = .ok t ∧ Same s t := by
  obtain ⟨hs, -, -⟩ := readObject_eq_ok_iff.mp hread
  obtain ⟨t, ht, hsame⟩ := h.read hs
  exact ⟨t, readObject_eq_ok_iff.mpr ⟨ht, fun _ _ _ => rfl, rfl⟩, hsame _ heach⟩

end Carries

/-- A description that makes alike of alike members and of alike first elements of arrays; `Each` says how. -/
structure Follows (Alike : String → Value → Value → Prop) (record : Record σ α) (names : List String)
    (Each : (α → α → Prop) → Prop) : Prop where
  members {members others : Members} : List.Forall₂ (MemberAlike Alike) members others →
    record.Carries members others Each
  row {shape : String} {more : List String} {items others : List Value} {place : Nat} {x : α} {last : Row Value} :
    RowAlike Alike (names ++ more) items others → record.readRow shape ⟨items, place, none⟩ = .ok (x, last) →
    ∃ y rest, record.readRow shape ⟨others, place, none⟩ = .ok (y, ⟨rest, last.place, none⟩) ∧
      last.stop = none ∧ RowAlike Alike more last.items rest ∧ ∀ C, Each C → C x y

namespace Follows

theorem field {field : Field α} (hname : field.otherName? = none)
    (hformat : field.format.Follows (Alike field.name) Same) (hrefl : ∀ x, Same x x) (get : σ → α) :
    (Record.field field get).Follows Alike [field.name] fun C => ∀ x y, Same x y → C x y where
  members hmembers := .field (fun _ => Field.exists_readMember hname hformat hrefl hmembers) get
  row {shape more items others place x last} hitems hread := by
    cases hitems with
    | nil =>
        cases hshort : field.short with
        | none => simp [Record.field, hshort] at hread
        | some z =>
            simp only [Record.field, hshort, Except.ok.injEq, Prod.mk.injEq] at hread
            obtain ⟨rfl, rfl⟩ := hread
            refine ⟨z, [], ?_, rfl, .nil more, fun C hC => hC _ _ (hrefl z)⟩
            simp [Record.field, hshort]
    | cons hfirst hrest =>
        obtain ⟨z, hz, hlast⟩ := bind_eq_ok_iff.mp hread
        obtain ⟨rfl, rfl⟩ := Prod.mk.inj (Except.ok.inj hlast)
        obtain ⟨y, hy, hsame⟩ := hformat.read hfirst hz
        exact ⟨y, _, bind_eq_ok_iff.mpr ⟨y, hy, rfl⟩, rfl, hrest, fun C hC => hC _ _ hsame⟩

theorem map {record : Record σ α} {names : List String} {Each : (α → α → Prop) → Prop}
    (h : record.Follows Alike names Each) (f : α → β) :
    (f <$> record).Follows Alike names fun C => Each fun x y => C (f x) (f y) where
  members hmembers := (h.members hmembers).map f
  row hitems hread := by
    obtain ⟨x, hx, rfl⟩ := readRow_map_eq_ok_iff.mp hread
    obtain ⟨y, rest, hy, hstop, hrest, heach⟩ := h.row hitems hx
    exact ⟨f y, rest, readRow_map_eq_ok_iff.mpr ⟨y, hy, rfl⟩, hstop, hrest, fun C hC => heach _ hC⟩

theorem seq {first : Record σ (α → β)} {second : Record σ α} {names others : List String}
    {Each : ((α → β) → (α → β) → Prop) → Prop} {EachOther : (α → α → Prop) → Prop}
    (h : first.Follows Alike names Each) (h' : second.Follows Alike others EachOther) :
    (first <*> second).Follows Alike (names ++ others)
      fun C => Each fun f g => EachOther fun x y => C (f x) (g y) where
  members hmembers := (h.members hmembers).seq (h'.members hmembers)
  row hitems hread := by
    obtain ⟨f, ⟨items, place, stop⟩, x, hf, hx, rfl⟩ := readRow_seq_eq_ok_iff.mp hread
    rw [List.append_assoc] at hitems
    obtain ⟨g, between, hg, hnone, hbetween, heach⟩ := h.row hitems hf
    obtain rfl : stop = none := hnone
    obtain ⟨y, rest, hy, hstop, hrest, heach'⟩ := h'.row hbetween hx
    exact ⟨g y, rest, readRow_seq_eq_ok_iff.mpr ⟨g, _, y, hg, hy, rfl⟩, hstop, hrest,
      fun C hC => heach' _ (heach _ hC)⟩

theorem format {record : Record σ σ} {names : List String} {Each : (σ → σ → Prop) → Prop} {shape : String}
    {Same : σ → σ → Prop} (h : record.Follows Alike names Each) (heach : Each Same) (hrefl : ∀ s, Same s s) :
    (record.format shape).Follows (Recast Alike names) Same where
  read {v w s} halike hread := by
    cases halike with
    | same => exact ⟨s, hread, hrefl s⟩
    | obj hmembers => exact (h.members hmembers).exists_readValue Same heach hread
    | arr hitems =>
        obtain ⟨last, hs, -⟩ := readArray_eq_ok_iff.mp hread
        rw [← List.append_nil names] at hitems
        obtain ⟨t, rest, ht, -, hrest, hsame⟩ := h.row hitems hs
        have hnil : rest = [] := by
          generalize last.items = items at hrest
          cases hrest
          rfl
        subst hnil
        exact ⟨t, readArray_eq_ok_iff.mpr ⟨_, ht, rfl⟩, hsame _ heach⟩

end Follows

end Record

end AgentDelegation.Json

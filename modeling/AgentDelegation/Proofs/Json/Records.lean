import AgentDelegation.Proofs.Json.RoundTrip

/-!
# Records read back

A record restores what it reads if its fields do and no two of them go by the same name. `Lawful` follows
the description of a record field by field. It says what has to hold of a record to be read back, and that
this holds of whatever is read, from members or from an array. What is read of a description that is not
finished yet is a function; `Each` says of all such functions at once that they have a property, and for
the whole record it comes down to a property of all the fields' values.
-/

namespace AgentDelegation.Json

variable {α β σ : Type} {arrange : Value → Value}

/-! ### Fields -/

namespace Field

variable {field : Field α}

/-- A value that the field reads back: it is left out and read as missing, or written and read. -/
def Keeps (arrange : Value → Value) (field : Field α) (x : α) : Prop :=
  (field.omit? x = true ∧ field.missing = some x) ∨ (field.omit? x = false ∧ field.format.Rereads arrange x)

/-- A field that restores what it reads, and what it comes to where a value is missing or an array ends. -/
structure Restores (arrange : Value → Value) (field : Field α) : Prop where
  format : field.format.Restores arrange
  omitted {x : α} : field.omit? x = true → field.missing = some x
  missing {x : α} : field.missing = some x → field.Keeps arrange x
  short {x : α} : field.short = some x → field.Keeps arrange x

theorem Restores.keeps (h : field.Restores arrange) {v : Value} {x : α} (harranged : arrange v = v)
    (hread : field.format.readValue v = .ok x) : field.Keeps arrange x := by
  cases homit : field.omit? x with
  | true => exact .inl ⟨homit, h.omitted homit⟩
  | false => exact .inr ⟨homit, h.format.rereads harranged hread⟩

/-- The names that the field goes by. -/
def names (field : Field α) : List String := field.name :: field.otherName?.toList

theorem exists_member_of_occurrences {ν : Type} {i j : Nat} {n : ν} {members : List (String × ν)}
    (h : (j, n) ∈ field.occurrences i members) : ∃ member ∈ members, member.2 = n := by
  induction members generalizing i with
  | nil => cases h
  | cons member rest ih =>
      obtain ⟨name, m⟩ := member
      have hrest (hmem : (j, n) ∈ field.occurrences (i + 1) rest) :
          ∃ member ∈ (name, m) :: rest, member.2 = n := by
        obtain ⟨member, hmember, hsame⟩ := ih hmem
        exact ⟨member, List.mem_cons_of_mem _ hmember, hsame⟩
      rw [occurrences] at h
      split at h
      · rcases List.mem_cons.mp h with hfirst | hmem
        · exact ⟨(name, m), List.mem_cons_self, (Prod.mk.inj hfirst).2.symm⟩
        · exact hrest hmem
      · exact hrest h

theorem Restores.keeps_of_readMember (h : field.Restores arrange) {members : Members}
    (harranged : ∀ member ∈ members, arrange member.2 = member.2) {x : α}
    (hread : field.readMember members = .ok x) : field.Keeps arrange x := by
  rw [readMember] at hread
  split at hread
  · split at hread
    · rename_i y hmissing
      obtain rfl : y = x := Except.ok.inj hread
      exact h.missing hmissing
    · cases hread
  · rename_i i n more hoccurrences
    obtain ⟨member, hmember, rfl⟩ := exists_member_of_occurrences
      (hoccurrences ▸ List.mem_cons_self : (i, n) ∈ field.occurrences 0 members)
    split at hread <;> cases hread
    rename_i hinner
    exact h.keeps (harranged member hmember) hinner

/-- A value that the field keeps is read back from members that have under the field's names what is written
of it. -/
theorem readMember_of_keeps (get : σ → α) {s : σ} {members : Members} (hnames : field.names.Nodup)
    (hkept : field.Keeps arrange (get s))
    (hmembers : ∀ name ∈ field.names,
      valuesOf name members = (valuesOf name ((Record.field field get).write s)).map arrange) :
    field.readMember members = .ok (get s) := by
  obtain ⟨hname, -⟩ := List.nodup_cons.mp hnames
  have hsole := hmembers field.name List.mem_cons_self
  have hother : ∀ other, field.otherName? = some other → valuesOf other members = [] := by
    intro other h
    have hmem : other ∈ field.otherName?.toList := by simp [h]
    have hne : field.name ≠ other := fun hsame => hname (hsame ▸ hmem)
    rw [hmembers other (List.mem_cons_of_mem _ hmem)]
    cases homit : field.omit? (get s) <;> simp [Record.field, homit, valuesOf_cons_of_ne hne]
  rw [readMember_eq_ok_iff hother]
  rcases hkept with ⟨homit, hmissing⟩ | ⟨homit, hreread⟩
  · refine .absent ?_ hmissing
    simpa [Record.field, homit] using hsole
  · refine .member ?_ hreread
    simpa [Record.field, homit, valuesOf_cons_self] using hsole

/-! ### Each sort of field -/

section sorts

variable {name : String} {otherName? : Option String} {format : Format α} {short : Option (Option α)}

theorem Restores.required (h : format.Restores arrange) :
    Restores arrange ⟨name, otherName?, format, none, none, fun _ => false⟩ where
  format := h
  omitted := nofun
  missing := nofun
  short := nofun

theorem Restores.defaulted {default : α} (h : format.Restores arrange)
    (hdefault : format.Rereads arrange default) :
    Restores arrange ⟨name, none, format, some default, some default, fun _ => false⟩ where
  format := h
  omitted := nofun
  missing hmissing := .inr ⟨rfl, Option.some.inj hmissing ▸ hdefault⟩
  short hshort := .inr ⟨rfl, Option.some.inj hshort ▸ hdefault⟩

theorem Restores.listed (harrange : Arrangement arrange) (h : format.Restores arrange) :
    Restores arrange ⟨name, none, .list format, some [], some [], List.isEmpty⟩ where
  format := h.list harrange
  omitted homit := by rw [List.isEmpty_iff.mp homit]
  missing hmissing := .inl ⟨Option.some.inj hmissing ▸ rfl, hmissing⟩
  short hshort := .inl ⟨Option.some.inj hshort ▸ rfl, hshort⟩

theorem Restores.optional (harrange : Arrangement arrange) (h : format.Restores arrange)
    (hshort : ∀ x, short = some x → x = none) :
    Restores arrange ⟨name, none, .optional format, some none, short, Option.isNone⟩ where
  format := h.optional harrange
  omitted homit := by rw [Option.isNone_iff_eq_none.mp homit]
  missing hmissing := .inl ⟨Option.some.inj hmissing ▸ rfl, hmissing⟩
  short {x} hx := .inl ⟨by rw [hshort x hx]; rfl, by rw [hshort x hx]⟩

theorem Restores.nullable (harrange : Arrangement arrange) (h : format.Restores arrange)
    (hshort : ∀ x, short = some x → x = none) :
    Restores arrange ⟨name, none, .optional format, some none, short, fun _ => false⟩ where
  format := h.optional harrange
  omitted := nofun
  missing hmissing := .inr ⟨rfl, Option.some.inj hmissing ▸ (h.optional harrange).rereads harrange.null rfl⟩
  short {x} hx := by
    rw [hshort x hx]
    exact .inr ⟨rfl, (h.optional harrange).rereads harrange.null rfl⟩

end sorts

end Field

namespace Record

/-! ### What is written of a record -/

theorem names_write_field (field : Field α) (get : σ → α) (s : σ) :
    (((Record.field field get).write s).map Prod.fst).Sublist field.names := by
  cases homit : field.omit? (get s) <;> simp [Record.field, homit, Field.names]

theorem names_write_seq {first : Record σ (α → β)} {second : Record σ α} {names others : List String} {s : σ}
    (h : ((first.write s).map Prod.fst).Sublist names) (h' : ((second.write s).map Prod.fst).Sublist others) :
    (((first <*> second).write s).map Prod.fst).Sublist (names ++ others) := by
  change ((first.write s ++ second.write s).map Prod.fst).Sublist _
  rw [List.map_append]
  exact h.append h'

/-- Members that have what is written of two descriptions have what is written of each. -/
theorem valuesOf_write_seq {first : Record σ (α → β)} {second : Record σ α} {names others : List String} {s : σ}
    {members : Members} (h : ((first.write s).map Prod.fst).Sublist names)
    (h' : ((second.write s).map Prod.fst).Sublist others) (hnames : (names ++ others).Nodup)
    (hmembers : ∀ name ∈ names ++ others,
      valuesOf name members = (valuesOf name ((first <*> second).write s)).map arrange) :
    (∀ name ∈ names, valuesOf name members = (valuesOf name (first.write s)).map arrange) ∧
      ∀ name ∈ others, valuesOf name members = (valuesOf name (second.write s)).map arrange := by
  obtain ⟨-, -, hdisjoint⟩ := List.nodup_append.mp hnames
  have hwrite (name : String) : valuesOf name ((first <*> second).write s)
      = valuesOf name (first.write s) ++ valuesOf name (second.write s) := valuesOf_append ..
  constructor
  · intro name hname
    have hnone := valuesOf_eq_nil_of_sublist h' fun hother => hdisjoint name hname name hother rfl
    rw [hmembers name (List.mem_append_left _ hname), hwrite, hnone, List.append_nil]
  · intro name hname
    have hnone := valuesOf_eq_nil_of_sublist h fun hother => hdisjoint name hother name hname rfl
    rw [hmembers name (List.mem_append_right _ hname), hwrite, hnone, List.nil_append]

/-- A record reads back if it is read from all members that have what is written of it. -/
theorem rereads_of_members {record : Record σ σ} {names : List String} {shape : String} {s : σ}
    (harrange : Arrangement arrange) (hwrites : ((record.write s).map Prod.fst).Sublist names)
    (hnames : names.Nodup)
    (hread : ∀ members : Members,
      (∀ name ∈ names, valuesOf name members = (valuesOf name (record.write s)).map arrange) →
      record.readMembers members = .ok s) :
    (record.format shape).Rereads arrange s := by
  obtain ⟨arranged, hobject, hvalues⟩ := harrange.obj (record.write s)
  have hmembers := hread arranged fun name _ => hvalues (hwrites.nodup hnames) name
  change (record.format shape).readValue (arrange (.obj (record.write s))) = _
  rw [hobject]
  exact readObject_eq_ok_iff.mpr ⟨hmembers, fun _ _ _ => rfl, rfl⟩

/-! ### Descriptions of records -/

/-- The laws of a description: the names it knows; the records of which what is written reads back, and
what is read of them; and what holds of everything that is read. -/
structure Lawful (arrange : Value → Value) (record : Record σ α) (names : List String) (Kept : σ → Prop)
    (get : σ → α) (Each : (α → Prop) → Prop) : Prop where
  writes (s : σ) : ((record.write s).map Prod.fst).Sublist names
  rereads {s : σ} {members : Members} : names.Nodup → Kept s →
    (∀ name ∈ names, valuesOf name members = (valuesOf name (record.write s)).map arrange) →
    record.readMembers members = .ok (get s)
  each_of_members {members : Members} {x : α} : (∀ member ∈ members, arrange member.2 = member.2) →
    record.readMembers members = .ok x → ∀ C, Each C → C x
  each_of_row {shape : String} {row last : Row Value} {x : α} : (∀ item ∈ row.items, arrange item = item) →
    record.readRow shape row = .ok (x, last) →
    (∀ C, Each C → C x) ∧ ∀ item ∈ last.items, arrange item = item

theorem Lawful.field {field : Field α} (h : field.Restores arrange) (get : σ → α) :
    Lawful arrange (Record.field field get) field.names (fun s => field.Keeps arrange (get s)) get
      fun C => ∀ x, field.Keeps arrange x → C x where
  writes s := names_write_field field get s
  rereads hnames hkept hmembers := Field.readMember_of_keeps get hnames hkept hmembers
  each_of_members harranged hread C hC := hC _ (h.keeps_of_readMember harranged hread)
  each_of_row {shape row last x} harranged hread := by
    obtain ⟨items, place, stop⟩ := row
    cases items with
    | nil =>
        cases stop with
        | some fault => cases hread
        | none =>
            cases hshort : field.short with
            | none => simp [Record.field, hshort] at hread
            | some y =>
                simp only [Record.field, hshort, Except.ok.injEq, Prod.mk.injEq] at hread
                obtain ⟨rfl, rfl⟩ := hread
                exact ⟨fun C hC => hC _ (h.short hshort), harranged⟩
    | cons n rest =>
        obtain ⟨hn, hrest⟩ := List.forall_mem_cons.mp harranged
        obtain ⟨y, hinner, hlast⟩ := bind_eq_ok_iff.mp hread
        obtain ⟨rfl, rfl⟩ := Prod.mk.inj (Except.ok.inj hlast)
        exact ⟨fun C hC => hC _ (h.keeps hn hinner), hrest⟩

theorem Lawful.map {record : Record σ α} {names : List String} {Kept : σ → Prop} {get : σ → α}
    {Each : (α → Prop) → Prop} (h : Lawful arrange record names Kept get Each) (f : α → β) :
    Lawful arrange (f <$> record) names Kept (fun s => f (get s)) fun C => Each fun x => C (f x) where
  writes := h.writes
  rereads hnames hkept hmembers := by
    rw [readMembers_map_eq_ok_iff]
    exact ⟨_, h.rereads hnames hkept hmembers, rfl⟩
  each_of_members harranged hread C hC := by
    obtain ⟨x, hx, rfl⟩ := readMembers_map_eq_ok_iff.mp hread
    exact h.each_of_members harranged hx _ hC
  each_of_row harranged hread := by
    obtain ⟨x, hx, rfl⟩ := readRow_map_eq_ok_iff.mp hread
    obtain ⟨heach, hlast⟩ := h.each_of_row harranged hx
    exact ⟨fun C hC => heach _ hC, hlast⟩

theorem Lawful.seq {first : Record σ (α → β)} {second : Record σ α} {names others : List String}
    {Kept OtherKept : σ → Prop} {get : σ → α → β} {getOther : σ → α} {Each : ((α → β) → Prop) → Prop}
    {EachOther : (α → Prop) → Prop} (h : Lawful arrange first names Kept get Each)
    (h' : Lawful arrange second others OtherKept getOther EachOther) :
    Lawful arrange (first <*> second) (names ++ others) (fun s => Kept s ∧ OtherKept s)
      (fun s => get s (getOther s)) fun C => Each fun f => EachOther fun x => C (f x) where
  writes s := names_write_seq (h.writes s) (h'.writes s)
  rereads hnames hkept hmembers := by
    obtain ⟨hfirst, hsecond, -⟩ := List.nodup_append.mp hnames
    obtain ⟨hmembers, hmembers'⟩ := valuesOf_write_seq (h.writes _) (h'.writes _) hnames hmembers
    rw [readMembers_seq_eq_ok_iff]
    exact ⟨_, _, h.rereads hfirst hkept.1 hmembers, h'.rereads hsecond hkept.2 hmembers', rfl⟩
  each_of_members harranged hread C hC := by
    obtain ⟨f, x, hf, hx, rfl⟩ := readMembers_seq_eq_ok_iff.mp hread
    exact h'.each_of_members harranged hx _ (h.each_of_members harranged hf _ hC)
  each_of_row harranged hread := by
    obtain ⟨f, next, x, hf, hx, rfl⟩ := readRow_seq_eq_ok_iff.mp hread
    obtain ⟨heach, hnext⟩ := h.each_of_row harranged hf
    obtain ⟨heach', hlast⟩ := h'.each_of_row hnext hx
    exact ⟨fun C hC => heach' _ (heach _ hC), hlast⟩

/-- A record whose fields go by different names restores what it reads. -/
theorem Lawful.restores {record : Record σ σ} {names : List String} {Kept : σ → Prop} {get : σ → σ}
    {Each : (σ → Prop) → Prop} {shape : String} (harrange : Arrangement arrange)
    (h : Lawful arrange record names Kept get Each) (hnames : names.Nodup)
    (heach : Each fun s => Kept s ∧ get s = s) : (record.format shape).Restores arrange where
  rereads {v s} harranged hread := by
    have hkept : Kept s ∧ get s = s := by
      cases v with
      | obj members =>
          obtain ⟨hmembers, -⟩ := readObject_eq_ok_iff.mp hread
          exact h.each_of_members (harrange.member harranged) hmembers _ heach
      | arr items =>
          obtain ⟨last, hrow, -⟩ := readArray_eq_ok_iff.mp hread
          exact (h.each_of_row (harrange.item harranged) hrow).1 _ heach
      | _ => cases hread
    obtain ⟨hkept, hsame⟩ := hkept
    refine rereads_of_members harrange (h.writes s) hnames fun members hmembers => ?_
    rw [h.rereads hnames hkept hmembers, hsame]
  ne_null _ _ := by simp [Record.format]

end Record

end AgentDelegation.Json

import AgentDelegation.Proofs.Json.Records
import AgentDelegation.Proofs.Json.Texts

/-!
# Written texts read back

A tree that is kept as a value looks like the value at every node, so a decoder that makes something of the
value makes the same of the tree. A format is `Textual` if that holds of it and it writes plain values only.
What such a format reads back from the value that it writes, it therefore also reads back from the value's
text, in either layout.
-/

namespace AgentDelegation.Json

variable {α β σ : Type}

namespace Source

/-! ### What a kept tree is made of -/

/-- The tree is kept as the value. -/
def Tells (n : Source) (v : Value) : Prop := n.buffer = .ok v

/-- A member whose tree is kept as the value of a member of the same name. -/
def MemberTells (member : String × Source) (kept : String × Value) : Prop :=
  member.1 = kept.1 ∧ member.2.Tells kept.2

theorem forall₂_of_bufferItems {items : List Source} {stop : Option Stop} {values : List Value}
    (h : bufferItems items stop = .ok values) : stop = none ∧ List.Forall₂ Tells items values := by
  induction items generalizing values with
  | nil =>
      cases stop with
      | none => cases h; exact ⟨rfl, .nil⟩
      | some => cases h
  | cons n rest ih =>
      obtain ⟨v, more, hn, hrest, rfl⟩ := exists_of_bufferItems_cons h
      obtain ⟨hstop, hmore⟩ := ih hrest
      exact ⟨hstop, .cons hn hmore⟩

theorem forall₂_of_bufferMembers {members : List (String × Source)} {stop : Option Stop} {values : Members}
    (h : bufferMembers members stop = .ok values) : List.Forall₂ MemberTells members values := by
  induction members generalizing values with
  | nil =>
      cases stop with
      | none => cases h; exact .nil
      | some => cases h
  | cons member rest ih =>
      obtain ⟨v, more, hn, hrest, rfl⟩ := exists_of_bufferMembers_cons h
      exact .cons ⟨rfl, hn⟩ (ih hrest)

theorem exists_of_tells_arr {n : Source} {values : List Value} (h : n.Tells (.arr values)) :
    ∃ items, n = .arr items none ∧ List.Forall₂ Tells items values := by
  cases n with
  | arr items stop =>
      obtain ⟨kept, hitems, hkept⟩ := buffer_arr_eq_ok_iff.mp h
      obtain rfl := Value.arr.inj hkept
      obtain ⟨rfl, htell⟩ := forall₂_of_bufferItems hitems
      exact ⟨items, rfl, htell⟩
  | obj members stop => simp [Tells] at h
  | _ => cases h

theorem exists_of_tells_obj {n : Source} {values : Members} (h : n.Tells (.obj values)) :
    ∃ members, n = .obj members none ∧ List.Forall₂ MemberTells members values ∧
      ∀ member ∈ members, member.2.skipMember = none := by
  obtain ⟨members, rfl, hmembers⟩ := exists_of_buffer_obj h
  exact ⟨members, rfl, forall₂_of_bufferMembers hmembers, skipMember_of_bufferMembers hmembers⟩

end Source

open Source (Tells MemberTells)

/-! ### Formats -/

/-- A format whose every value has a text that reads back: the value is written as a plain value nested in at
most `depth` containers and other than null, this reads back in any arrangement, and what the format makes of
a value it also makes of a tree that is kept as the value. -/
structure Format.Textual (depth : Nat) (format : Format α) : Prop where
  read_of_tells {n : Source} {v : Value} {x : α} : n.Tells v → format.readValue v = .ok x → format.read n = .ok x
  plain (x : α) : (format.write x).Plain depth
  ne_null (x : α) : format.write x ≠ .null
  rereads {arrange : Value → Value} (harrange : Arrangement arrange) (x : α) : format.Rereads arrange x

namespace Format

theorem textual_text (depth : Nat) : text.Textual depth where
  read_of_tells {n v x} htells hread := by
    cases v with
    | str s =>
        obtain rfl : s = x := Except.ok.inj hread
        exact read_text_eq_ok_iff.mpr (Source.buffer_eq_str_iff.mp htells)
    | _ => cases hread
  plain s := .str depth s
  ne_null s := by simp [text]
  rereads harrange s := rereads_text harrange s

theorem textual_flag (depth : Nat) : flag.Textual depth where
  read_of_tells {n v x} htells hread := by
    cases v with
    | bool b =>
        obtain rfl : b = x := Except.ok.inj hread
        rw [Source.buffer_eq_bool_iff.mp htells]
        rfl
    | _ => cases hread
  plain b := .bool depth b
  ne_null b := by simp [flag]
  rereads harrange b := rereads_flag harrange b

section inner

variable {depth : Nat} {format : Format α} (h : format.Textual depth)
include h

theorem Textual.read_optional_of_tells {n : Source} {v : Value} {x : Option α} (htells : n.Tells v)
    (hread : (optional format).readValue v = .ok x) : (optional format).read n = .ok x := by
  rcases readValue_optional_eq_ok_iff.mp hread with ⟨rfl, rfl⟩ | ⟨hnull, y, hinner, rfl⟩
  · rw [Source.buffer_eq_null_iff.mp htells, read_optional_null]
  · have hn : n ≠ .null := by
      rintro rfl
      exact hnull (Except.ok.inj htells).symm
    rw [read_optional_of_ne_null hn, h.read_of_tells htells hinner]
    rfl

theorem Textual.list : (Format.list format).Textual (depth + 1) where
  read_of_tells {n v xs} htells hread := by
    obtain ⟨values, rfl, hvalues⟩ := readValue_list_eq_ok_iff.mp hread
    obtain ⟨items, rfl, hitems⟩ := Source.exists_of_tells_arr htells
    change readItems format items >>= unlessStopped none = .ok xs
    refine bind_eq_ok_iff.mpr ⟨xs, readItems_eq_ok_iff.mpr ?_, rfl⟩
    clear htells hread
    induction hitems generalizing xs with
    | nil => cases hvalues; exact .nil
    | cons hn _ ih =>
        cases hvalues with
        | cons hx hxs => exact .cons (h.read_of_tells hn hx) (ih hxs)
  plain xs := by
    refine .arr fun v hv => ?_
    obtain ⟨x, -, rfl⟩ := List.mem_map.mp hv
    exact h.plain x
  ne_null xs := by simp [Format.list]
  rereads harrange xs := rereads_list harrange fun x _ => h.rereads harrange x

end inner

end Format

/-! ### Fields -/

namespace Field

/-- A field that keeps every value, and reads it off a text. -/
structure Textual (depth : Nat) (field : Field α) : Prop where
  read_of_tells {n : Source} {v : Value} {x : α} : n.Tells v → field.format.readValue v = .ok x →
    field.format.read n = .ok x
  plain (x : α) : (field.format.write x).Plain depth
  keeps {arrange : Value → Value} (harrange : Arrangement arrange) (x : α) : field.Keeps arrange x

section sorts

variable {depth : Nat} {name : String} {otherName? : Option String} {format : Format α}

theorem Textual.required (h : format.Textual depth) :
    Textual depth ⟨name, otherName?, format, none, none, fun _ => false⟩ where
  read_of_tells := h.read_of_tells
  plain := h.plain
  keeps harrange x := .inr ⟨rfl, h.rereads harrange x⟩

theorem Textual.defaulted {default : α} (h : format.Textual depth) :
    Textual depth ⟨name, none, format, some default, some default, fun _ => false⟩ where
  read_of_tells := h.read_of_tells
  plain := h.plain
  keeps harrange x := .inr ⟨rfl, h.rereads harrange x⟩

theorem Textual.listed (h : format.Textual depth) :
    Textual (depth + 1) ⟨name, none, .list format, some [], some [], List.isEmpty⟩ where
  read_of_tells := h.list.read_of_tells
  plain := h.list.plain
  keeps harrange xs := by
    cases xs with
    | nil => exact .inl ⟨rfl, rfl⟩
    | cons x rest => exact .inr ⟨rfl, h.list.rereads harrange _⟩

theorem Textual.optional {short : Option (Option α)} (h : format.Textual depth) :
    Textual depth ⟨name, none, .optional format, some none, short, Option.isNone⟩ where
  read_of_tells := h.read_optional_of_tells
  plain x := by
    cases x with
    | none => exact .null depth
    | some y => exact h.plain y
  keeps harrange x := by
    cases x with
    | none => exact .inl ⟨rfl, rfl⟩
    | some y =>
        -- What is there must not be written as null, or it would be taken for absent.
        have hinner : (format.readValue _) = .ok y := h.rereads harrange y
        exact .inr ⟨rfl, Format.readValue_optional_eq_ok_iff.mpr
          (.inr ⟨harrange.ne_null (h.ne_null y), y, hinner, rfl⟩)⟩

end sorts

theorem forall₂_occurrences {members : List (String × Source)} {values : Members}
    (h : List.Forall₂ MemberTells members values) (field : Field α) (i : Nat) :
    List.Forall₂ (fun n v => n.1 = v.1 ∧ n.2.Tells v.2) (field.occurrences i members) (field.occurrences i values) := by
  induction h generalizing i with
  | nil => exact .nil
  | @cons member kept _ _ hmember _ ih =>
      obtain ⟨name, n⟩ := member
      obtain ⟨_, v⟩ := kept
      obtain ⟨rfl, hn⟩ := hmember
      rw [occurrences, occurrences]
      split
      · exact .cons ⟨rfl, hn⟩ (ih (i + 1))
      · exact ih (i + 1)

theorem Textual.readMember_of_tells {depth : Nat} {field : Field α} (hfield : field.Textual depth)
    {members : List (String × Source)} {values : Members} (h : List.Forall₂ MemberTells members values) {x : α}
    (hread : field.readMember values = .ok x) : field.readMember members = .ok x := by
  have hpairs := forall₂_occurrences h field 0
  rw [readMember] at hread ⊢
  cases hvalues : field.occurrences 0 values with
  | nil =>
      rw [hvalues, List.forall₂_nil_right_iff] at hpairs
      rw [hvalues] at hread
      rw [hpairs]
      cases hmissing : field.missing with
      | none => simp [hmissing] at hread
      | some y => simpa [hmissing] using hread
  | cons first more =>
      rw [hvalues, List.forall₂_cons_right_iff] at hpairs
      obtain ⟨found, others, ⟨-, hfound⟩, hothers, hsame⟩ := hpairs
      rw [hvalues] at hread
      rw [hsame]
      obtain ⟨i, v⟩ := first
      simp only at hread
      split at hread <;> cases hread
      rename_i hv
      obtain rfl := List.forall₂_nil_right_iff.mp hothers
      simp only [hfield.read_of_tells hfound hv]

end Field

/-! ### Records -/

namespace Record

/-- A description whose every record has a text that reads back. Whatever it makes of members or of the first
elements of an array it also makes of trees that are kept as these. It writes plain members of the given names,
and of what is written it reads `get` again. -/
structure Textual (depth : Nat) (record : Record σ α) (names : List String) (get : σ → α) : Prop where
  members {members : List (String × Source)} {values : Members} {x : α} : List.Forall₂ MemberTells members values →
    record.readMembers values = .ok x → record.readMembers members = .ok x
  row {shape : String} {items : List Source} {values : List Value} {place : Nat} {x : α} {last : Row Value} :
    List.Forall₂ Tells items values → record.readRow shape ⟨values, place, none⟩ = .ok (x, last) →
    ∃ rest, List.Forall₂ Tells rest last.items ∧ last.stop = none ∧
      record.readRow shape ⟨items, place, none⟩ = .ok (x, ⟨rest, last.place, none⟩)
  plain (s : σ) : ∀ member ∈ record.write s, member.2.Plain depth
  writes (s : σ) : ((record.write s).map Prod.fst).Sublist names
  rereads {arrange : Value → Value} {s : σ} {members : Members} : Arrangement arrange → names.Nodup →
    (∀ name ∈ names, valuesOf name members = (valuesOf name (record.write s)).map arrange) →
    record.readMembers members = .ok (get s)

namespace Textual

theorem field {depth : Nat} {field : Field α} (h : field.Textual depth) (get : σ → α) :
    (Record.field field get).Textual depth field.names get where
  members hmembers hread := h.readMember_of_tells hmembers hread
  row {shape items values place x last} hitems hread := by
    cases hitems with
    | nil =>
        cases hshort : field.short with
        | none => simp [Record.field, hshort] at hread
        | some y =>
            simp only [Record.field, hshort, Except.ok.injEq, Prod.mk.injEq] at hread
            obtain ⟨rfl, rfl⟩ := hread
            exact ⟨[], .nil, rfl, by simp [Record.field, hshort]⟩
    | @cons n v rest kept hn hrest =>
        obtain ⟨y, hinner, hlast⟩ := bind_eq_ok_iff.mp hread
        obtain ⟨rfl, rfl⟩ := Prod.mk.inj (Except.ok.inj hlast)
        exact ⟨rest, hrest, rfl, bind_eq_ok_iff.mpr ⟨y, h.read_of_tells hn hinner, rfl⟩⟩
  plain s := by
    cases homit : field.omit? (get s) with
    | true => simp [Record.field, homit]
    | false => simpa [Record.field, homit] using h.plain (get s)
  writes s := names_write_field field get s
  rereads harrange hnames hmembers := Field.readMember_of_keeps get hnames (h.keeps harrange _) hmembers

theorem map {depth : Nat} {record : Record σ α} {names : List String} {get : σ → α}
    (h : record.Textual depth names get) (f : α → β) :
    (f <$> record).Textual depth names fun s => f (get s) where
  members hmembers hread := by
    obtain ⟨a, ha, rfl⟩ := readMembers_map_eq_ok_iff.mp hread
    exact readMembers_map_eq_ok_iff.mpr ⟨a, h.members hmembers ha, rfl⟩
  row hitems hread := by
    obtain ⟨a, ha, rfl⟩ := readRow_map_eq_ok_iff.mp hread
    obtain ⟨rest, hrest, hstop, hrow⟩ := h.row hitems ha
    exact ⟨rest, hrest, hstop, readRow_map_eq_ok_iff.mpr ⟨a, hrow, rfl⟩⟩
  plain := h.plain
  writes := h.writes
  rereads harrange hnames hmembers := by
    rw [readMembers_map_eq_ok_iff]
    exact ⟨_, h.rereads harrange hnames hmembers, rfl⟩

theorem seq {depth : Nat} {first : Record σ (α → β)} {second : Record σ α} {names others : List String}
    {get : σ → α → β} {getOther : σ → α} (h : first.Textual depth names get)
    (h' : second.Textual depth others getOther) :
    (first <*> second).Textual depth (names ++ others) fun s => get s (getOther s) where
  members hmembers hread := by
    obtain ⟨f, a, hf, ha, rfl⟩ := readMembers_seq_eq_ok_iff.mp hread
    exact readMembers_seq_eq_ok_iff.mpr ⟨f, a, h.members hmembers hf, h'.members hmembers ha, rfl⟩
  row hitems hread := by
    obtain ⟨f, ⟨values, place, stop⟩, a, hf, ha, rfl⟩ := readRow_seq_eq_ok_iff.mp hread
    obtain ⟨between, hbetween, hnone, hfirst⟩ := h.row hitems hf
    obtain rfl : stop = none := hnone
    obtain ⟨rest, hrest, hstop, hsecond⟩ := h'.row hbetween ha
    exact ⟨rest, hrest, hstop, readRow_seq_eq_ok_iff.mpr ⟨f, _, a, hfirst, hsecond, rfl⟩⟩
  plain s member hmember := by
    rcases List.mem_append.mp hmember with hfirst | hsecond
    · exact h.plain s member hfirst
    · exact h'.plain s member hsecond
  writes s := names_write_seq (h.writes s) (h'.writes s)
  rereads harrange hnames hmembers := by
    obtain ⟨hfirst, hsecond, -⟩ := List.nodup_append.mp hnames
    obtain ⟨hmembers, hmembers'⟩ := valuesOf_write_seq (h.writes _) (h'.writes _) hnames hmembers
    rw [readMembers_seq_eq_ok_iff]
    exact ⟨_, _, h.rereads harrange hfirst hmembers, h'.rereads harrange hsecond hmembers', rfl⟩

theorem format {depth : Nat} {record : Record σ σ} {names : List String} {get : σ → σ} {shape : String}
    (h : record.Textual depth names get) (hnames : names.Nodup) (hget : ∀ s, get s = s) :
    (record.format shape).Textual (depth + 1) where
  read_of_tells {n v s} htells hread := by
    cases v with
    | obj values =>
        obtain ⟨members, rfl, hmembers, hskip⟩ := Source.exists_of_tells_obj htells
        obtain ⟨hvalues, -⟩ := readObject_eq_ok_iff.mp hread
        exact readObject_eq_ok_iff.mpr ⟨h.members hmembers hvalues, fun member hmember _ => hskip member hmember, rfl⟩
    | arr values =>
        obtain ⟨items, rfl, hitems⟩ := Source.exists_of_tells_arr htells
        obtain ⟨last, hvalues, hend⟩ := readArray_eq_ok_iff.mp hread
        obtain ⟨rest, hrest, -, hrow⟩ := h.row hitems hvalues
        have hnil : last.items = [] := by
          by_contra hmore
          simp [hmore] at hend
        rw [hnil, List.forall₂_nil_right_iff] at hrest
        exact readArray_eq_ok_iff.mpr ⟨_, hrow, by rw [hrest]; rfl⟩
    | _ => cases hread
  plain s := .obj (h.plain s)
  ne_null _ := by simp [Record.format]
  rereads harrange s := by
    refine rereads_of_members harrange (h.writes s) hnames fun members hmembers => ?_
    rw [h.rereads harrange hnames hmembers, hget]

end Textual

end Record

/-! ### Texts -/

namespace Format.Textual

variable {depth : Nat} {format : Format α} {x : α}

theorem readText_of_spells (h : format.Textual depth) (hdepth : depth ≤ Source.depthLimit)
    {text : String} (hspells : Token.Spells text.toList (format.write x).tokens) : format.readText text = .ok x := by
  obtain ⟨root, htext, hroot⟩ := Document.exists_ofText (h.plain x) hdepth hspells
  rw [readText_eq_ok_iff, htext]
  exact ⟨h.read_of_tells hroot (h.rereads .of_id x), rfl⟩

theorem readText_compact (h : format.Textual depth) (hdepth : depth ≤ Source.depthLimit) (x : α) :
    format.readText (format.write x).compact = .ok x := by
  refine h.readText_of_spells hdepth ?_
  rw [Value.compact, String.toList_ofList]
  exact (h.plain x).spells_compact

theorem readText_pretty (h : format.Textual depth) (hdepth : depth ≤ Source.depthLimit) (x : α) :
    format.readText (format.write x).pretty = .ok x := by
  refine h.readText_of_spells hdepth ?_
  rw [Value.pretty, String.toList_ofList]
  exact (h.plain x).spells_pretty 0

end Format.Textual

end AgentDelegation.Json

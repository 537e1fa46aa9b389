import AgentDelegation.Json.Document
import AgentDelegation.Proofs.Json.Fields
import Mathlib.Data.List.Forall2

/-!
# Texts as trees

What a text says as a free-form value and what it says as a record are both read off its tree. A tree that
can be kept whole can be passed over (`skip_eq_none_of_buffer`), and of the members of an object the value
keeps the last of each name (`lookup_settledMembers`); so where no name is repeated the value's members are
the tree's.
-/

namespace AgentDelegation.Json

variable {α : Type}

/-- A text that is an object in the grammar of JSON, with these members. -/
structure Document.IsObject (document : Document) (members : List (String × Source)) : Prop where
  root_eq : document.root = .obj members none
  skip_root : document.root.skip = none
  trailing_eq : document.trailing = false

theorem Document.ofText_of_scan {text : String} {tokens : List Token} {root : Source} {trailing : Bool}
    (hscan : Token.scan text.toList = tokens) (hbuild : Source.build .value [] tokens = (root, trailing)) :
    ofText text = ⟨root, trailing⟩ := by
  rw [ofText, ofChars, hscan, hbuild]

/-- What a tree is kept as. -/
def Source.Kept (n : Source) (v : Value) : Prop := ∃ w, n.buffer = .ok w ∧ w.settled = v

namespace Format

theorem readText_eq_ok_iff {format : Format α} {text : String} {x : α} :
    format.readText text = .ok x
      ↔ format.read (Document.ofText text).root = .ok x ∧ (Document.ofText text).trailing = false := by
  rw [readText, readChars, ← Document.ofText]
  simp only [bind_eq_ok_iff]
  cases (Document.ofText text).trailing <;> simp

theorem read_any_iff {n : Source} {v : Value} : any.read n = .ok v ↔ n.Kept v := by
  change n.buffer.map Value.settled = .ok v ↔ _
  cases h : n.buffer <;> simp [Source.Kept, h, Except.map]

theorem parse_of_scan {text : String} {tokens : List Token} {root : Source} {v : Value}
    (hscan : Token.scan text.toList = tokens) (hbuild : Source.build .value [] tokens = (root, false))
    (hkept : root.Kept v) : parse text = .ok v := by
  rw [parse, readText_eq_ok_iff, read_any_iff, Document.ofText_of_scan hscan hbuild]
  exact ⟨hkept, rfl⟩

theorem read_text_eq_ok_iff {n : Source} {s : String} : text.read n = .ok s ↔ n = .str s := by
  cases n <;> simp [text, Readable.view, Source.view]

theorem read_signed_eq_ok_iff {n : Source} {k : Int} :
    signed.read n = .ok k
      ↔ n = .num (.int k) ∧ -9223372036854775808 ≤ k ∧ k ≤ 9223372036854775807 := by
  cases n with
  | num number =>
      cases number with
      | float x => simp [signed, integer, Readable.view, Source.view]
      | int m =>
          simp only [signed, integer, Readable.view, Source.view]
          split <;> grind
  | _ => simp [signed, integer, Readable.view, Source.view]

theorem read_optional_null {format : Format α} : (optional format).read Source.null = .ok none := rfl

theorem read_optional_of_ne_null {format : Format α} {n : Source} (h : n ≠ .null) :
    (optional format).read n = (format.read n).map some := by
  cases n <;> first | exact absurd rfl h | rfl

end Format

namespace Source

/-! ### Trees that can be kept -/

@[simp] theorem buffer_arr_eq_ok_iff {items : List Source} {stop : Option Stop} {v : Value} :
    (arr items stop).buffer = .ok v ↔ ∃ values, bufferItems items stop = .ok values ∧ .arr values = v :=
  map_eq_ok_iff

@[simp] theorem buffer_obj_eq_ok_iff {members : List (String × Source)} {stop : Option Stop} {v : Value} :
    (obj members stop).buffer = .ok v ↔ ∃ values, bufferMembers members stop = .ok values ∧ .obj values = v :=
  map_eq_ok_iff

theorem exists_of_bufferItems_cons {n : Source} {rest : List Source} {stop : Option Stop} {values : List Value}
    (h : bufferItems (n :: rest) stop = .ok values) :
    ∃ v more, n.buffer = .ok v ∧ bufferItems rest stop = .ok more ∧ values = v :: more := by
  rw [bufferItems] at h
  split at h
  · cases h
  · rename_i v hn
    obtain ⟨more, hrest, hvalues⟩ := map_eq_ok_iff.mp h
    exact ⟨v, more, hn, hrest, hvalues.symm⟩

theorem exists_of_bufferMembers_cons {name : String} {n : Source} {rest : List (String × Source)}
    {stop : Option Stop} {values : Members} (h : bufferMembers ((name, n) :: rest) stop = .ok values) :
    ∃ v more, n.buffer = .ok v ∧ bufferMembers rest stop = .ok more ∧ values = (name, v) :: more := by
  rw [bufferMembers] at h
  split at h
  · cases h
  · rename_i v hn
    obtain ⟨more, hrest, hvalues⟩ := map_eq_ok_iff.mp h
    exact ⟨v, more, hn, hrest, hvalues.symm⟩

mutual

theorem skip_eq_none_of_buffer (n : Source) {v : Value} (h : n.buffer = .ok v) : n.skip = none := by
  cases n with
  | null | bool | num | str => rfl
  | broken | valueless | buried | misnamed => cases h
  | arr items stop =>
      obtain ⟨_, hitems, -⟩ := buffer_arr_eq_ok_iff.mp h
      exact skipItems_eq_none_of_buffer items hitems
  | obj members stop =>
      obtain ⟨_, hmembers, -⟩ := buffer_obj_eq_ok_iff.mp h
      exact skipMembers_eq_none_of_buffer members hmembers
termination_by sizeOf n

theorem skipItems_eq_none_of_buffer (items : List Source) {stop : Option Stop} {values : List Value}
    (h : bufferItems items stop = .ok values) : skipItems items stop = none := by
  cases items with
  | nil => cases stop <;> first | rfl | cases h
  | cons n rest =>
      obtain ⟨_, _, hn, hrest, -⟩ := exists_of_bufferItems_cons h
      rw [skipItems, skip_eq_none_of_buffer n hn, skipItems_eq_none_of_buffer rest hrest]
      rfl
termination_by sizeOf items

theorem skipMembers_eq_none_of_buffer (members : List (String × Source)) {stop : Option Stop}
    {values : Members} (h : bufferMembers members stop = .ok values) : skipMembers members stop = none := by
  match members with
  | [] => cases stop <;> first | rfl | cases h
  | (name, n) :: rest =>
      obtain ⟨_, _, hn, hrest, -⟩ := exists_of_bufferMembers_cons h
      rw [skipMembers, skip_eq_none_of_buffer n hn, skipMembers_eq_none_of_buffer rest hrest]
      rfl
termination_by sizeOf members

end

theorem skipMember_eq_none_of_buffer {n : Source} {v : Value} (h : n.buffer = .ok v) : n.skipMember = none := by
  cases n with
  | misnamed => cases h
  | _ => exact skip_eq_none_of_buffer _ h

theorem stop_eq_none_of_bufferMembers {members : List (String × Source)} {stop : Option Stop}
    {values : Members} (h : bufferMembers members stop = .ok values) : stop = none := by
  induction members generalizing values with
  | nil => cases stop <;> first | rfl | cases h
  | cons member rest ih =>
      obtain ⟨_, _, _, hrest, _⟩ := exists_of_bufferMembers_cons h
      exact ih hrest

theorem skipMember_of_bufferMembers {members : List (String × Source)} {stop : Option Stop} {values : Members}
    (h : bufferMembers members stop = .ok values) : ∀ member ∈ members, member.2.skipMember = none := by
  induction members generalizing values with
  | nil => simp
  | cons member rest ih =>
      obtain ⟨v, more, hn, hrest, -⟩ := exists_of_bufferMembers_cons h
      exact List.forall_mem_cons.mpr ⟨skipMember_eq_none_of_buffer hn, ih hrest⟩

theorem exists_of_buffer_obj {n : Source} {values : Members} (h : n.buffer = .ok (.obj values)) :
    ∃ members, n = .obj members none ∧ bufferMembers members none = .ok values := by
  cases n with
  | obj members stop =>
      obtain ⟨kept, hmembers, hkept⟩ := buffer_obj_eq_ok_iff.mp h
      obtain rfl := Value.obj.inj hkept
      obtain rfl := stop_eq_none_of_bufferMembers hmembers
      exact ⟨members, rfl, hmembers⟩
  | arr items stop => simp at h
  | _ => cases h

/-- Under each name a tree and the value made of it have the same, one by one. -/
theorem forall₂_valuesOf {members : List (String × Source)} {stop : Option Stop} {values : Members}
    (h : bufferMembers members stop = .ok values) (name : String) :
    List.Forall₂ (fun n v => n.buffer = .ok v) (valuesOf name members) (valuesOf name values) := by
  induction members generalizing values with
  | nil =>
      cases stop with
      | none => cases h; exact .nil
      | some => cases h
  | cons member rest ih =>
      obtain ⟨other, n⟩ := member
      obtain ⟨v, more, hn, hrest, rfl⟩ := exists_of_bufferMembers_cons h
      by_cases hname : other = name
      · subst hname
        rw [valuesOf_cons_self, valuesOf_cons_self]
        exact .cons hn (ih hrest)
      · rw [valuesOf_cons_of_ne hname, valuesOf_cons_of_ne hname]
        exact ih hrest

end Source

/-! ### The members that a value keeps -/

namespace Value

/-- Of several members with one name the last one is kept. -/
theorem lookup_settledMembers (name : String) (members kept : Members) :
    (settledMembers members kept).lookup name
      = ((valuesOf name members).getLast?.map settled).or (kept.lookup name) := by
  induction members generalizing kept with
  | nil => rfl
  | cons member rest ih =>
      obtain ⟨other, v⟩ := member
      rw [settledMembers, ih]
      by_cases hname : other = name
      · subst hname
        rw [Entries.lookup_insert_self, valuesOf_cons_self, List.getLast?_cons]
        cases (valuesOf other rest).getLast? <;> rfl
      · rw [Entries.lookup_insert_of_ne (Ne.symm hname), valuesOf_cons_of_ne hname]

theorem settled_eq_null_iff {v : Value} : v.settled = .null ↔ v = .null := by
  cases v <;> simp [settled]

theorem settled_eq_str_iff {v : Value} {s : String} : v.settled = .str s ↔ v = .str s := by
  cases v <;> simp [settled]

end Value

namespace Source

theorem buffer_eq_null_iff {n : Source} : n.buffer = .ok .null ↔ n = .null := by
  cases n with
  | arr | obj => simp
  | _ => simp [buffer]

theorem buffer_eq_bool_iff {n : Source} {b : Bool} : n.buffer = .ok (.bool b) ↔ n = .bool b := by
  cases n with
  | arr | obj => simp
  | _ => simp [buffer]

theorem buffer_eq_str_iff {n : Source} {s : String} : n.buffer = .ok (.str s) ↔ n = .str s := by
  cases n with
  | arr | obj => simp
  | _ => simp [buffer]

theorem kept_null_iff {n : Source} : n.Kept .null ↔ n = .null := by
  simp only [Kept, Value.settled_eq_null_iff, exists_eq_right, buffer_eq_null_iff]

theorem kept_str_iff {n : Source} {s : String} : n.Kept (.str s) ↔ n = .str s := by
  simp only [Kept, Value.settled_eq_str_iff, exists_eq_right, buffer_eq_str_iff]

/-- Where no name is repeated, what is kept under a name is the one value that the tree has there. -/
theorem lookup_settledMembers_of_nodup {members : List (String × Source)} {stop : Option Stop} {values : Members}
    (h : bufferMembers members stop = .ok values) (hnodup : (members.map Prod.fst).Nodup) (name : String) :
    (valuesOf name members = [] ∧ (Value.settledMembers values []).lookup name = none) ∨
      ∃ n v, valuesOf name members = [n] ∧ n.Kept v ∧
        (Value.settledMembers values []).lookup name = some v := by
  have hpairs := forall₂_valuesOf h name
  rw [Value.lookup_settledMembers]
  rcases valuesOf_eq_nil_or_singleton hnodup name with hnone | ⟨n, hsole⟩
  · rw [hnone, List.forall₂_nil_left_iff] at hpairs
    rw [hpairs]
    exact .inl ⟨hnone, rfl⟩
  · rw [hsole] at hpairs
    obtain ⟨w, _, hw, hrest, hvalues⟩ := List.forall₂_cons_left_iff.mp hpairs
    obtain rfl := List.forall₂_nil_left_iff.mp hrest
    rw [hvalues]
    exact .inr ⟨n, w.settled, hsole, ⟨w, hw, rfl⟩, rfl⟩

theorem exists_of_kept_obj {n : Source} {values : Members} (h : n.Kept (.obj values)) :
    ∃ members kept, n = .obj members none ∧ bufferMembers members none = .ok kept ∧
      values = Value.settledMembers kept [] := by
  obtain ⟨w, hbuffer, hsettled⟩ := h
  cases w with
  | obj kept =>
      obtain ⟨members, hobject, hmembers⟩ := exists_of_buffer_obj hbuffer
      exact ⟨members, kept, hobject, hmembers, (Value.obj.inj hsettled).symm⟩
  | _ => cases hsettled

end Source

theorem Document.exists_isObject_of_parse {text : String} {values : Members}
    (h : parse text = .ok (.obj values)) :
    ∃ members kept, (ofText text).IsObject members ∧ Source.bufferMembers members none = .ok kept ∧
      values = Value.settledMembers kept [] := by
  rw [parse, Format.readText_eq_ok_iff, Format.read_any_iff] at h
  obtain ⟨hroot, htrailing⟩ := h
  obtain ⟨members, kept, hobject, hkept, hvalues⟩ := Source.exists_of_kept_obj hroot
  have hskip : (ofText text).root.skip = none := by
    rw [hobject, Source.skip]
    exact Source.skipMembers_eq_none_of_buffer members hkept
  exact ⟨members, kept, ⟨hobject, hskip, htrailing⟩, hkept, hvalues⟩

end AgentDelegation.Json

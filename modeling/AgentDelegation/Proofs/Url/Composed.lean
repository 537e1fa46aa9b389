import AgentDelegation.Proofs.Text.Split
import AgentDelegation.Proofs.Url.Composites
import Mathlib.Data.List.Chain

/-!
# Composed form

The composed form of a text is its own composed form. Putting together keeps what taking apart gives, up to marks
whose order does not matter; so the parts of a composed text, put in order, are those it was composed from. And as
no point takes part in any of this, the composed form of a name is that of its labels.
-/

namespace AgentDelegation.Url.Domain

open Text CodePoints

/-! ### The order of marks -/

/-- One character may stand behind another: it begins something, or is a mark of no lower class. -/
def Follows (before c : Char) : Prop := markClass c = 0 ∨ markClass before ≤ markClass c

theorem attach_of_follows {text : List Char} {c : Char} (h : ∀ before ∈ text.head?, Follows before c) :
    attach text c = c :: text := by
  cases text with
  | nil => rfl
  | cons before rest =>
      have hfollows := h before rfl
      rw [Follows] at hfollows
      rw [attach, if_neg (by omega)]

theorem head?_attach {text : List Char} {c d : Char} (h : d ∈ (attach text c).head?) : d = c ∨ d ∈ text.head? := by
  cases text with
  | nil => exact .inl (Option.some.inj h).symm
  | cons before rest =>
      rw [attach] at h
      split at h
      · exact .inr h
      · exact .inl (Option.some.inj h).symm

theorem isChain_attach {text : List Char} {c : Char} (h : text.IsChain fun c before => Follows before c) :
    (attach text c).IsChain fun c before => Follows before c := by
  induction text with
  | nil => exact List.isChain_singleton c
  | cons before rest ih =>
      obtain ⟨hbefore, hrest⟩ := List.isChain_cons.mp h
      rw [attach]
      split
      · rename_i hless
        refine List.isChain_cons.mpr ⟨fun d hd => ?_, ih hrest⟩
        rcases head?_attach hd with rfl | hd
        · exact .inr (Nat.le_of_lt hless.2)
        · exact hbefore d hd
      · rename_i hnot
        refine List.isChain_cons_cons.mpr ⟨?_, h⟩
        rw [Follows]
        omega

theorem isChain_ordered (text : List Char) : (ordered text).IsChain Follows := by
  have hall : ∀ held : List Char, (held.IsChain fun c before => Follows before c) →
      (text.foldl attach held).IsChain fun c before => Follows before c := by
    induction text with
    | nil => exact fun held h => h
    | cons c rest ih => exact fun held h => ih (attach held c) (isChain_attach h)
  rw [ordered, List.isChain_reverse]
  exact hall [] .nil

theorem foldl_attach_of_isChain {text held : List Char} (h : text.IsChain Follows)
    (hheld : ∀ c ∈ text.head?, ∀ before ∈ held.head?, Follows before c) :
    text.foldl attach held = text.reverse ++ held := by
  induction text generalizing held with
  | nil => rfl
  | cons c rest ih =>
      obtain ⟨hnext, hrest⟩ := List.isChain_cons.mp h
      rw [List.foldl_cons, attach_of_follows (hheld c rfl), ih hrest]
      · simp
      · rintro d hd before ⟨⟩
        exact hnext d hd

theorem ordered_of_isChain {text : List Char} (h : text.IsChain Follows) : ordered text = text := by
  rw [ordered, foldl_attach_of_isChain h (by simp), List.append_nil, List.reverse_reverse]

/-- Marks of different classes can be attached in either order. -/
theorem attach_attach {a b : Char} (ha : 0 < markClass a) (hab : markClass a < markClass b) (text : List Char) :
    attach (attach text a) b = attach (attach text b) a := by
  induction text with
  | nil => simp [attach, ha, hab, Nat.not_lt_of_gt hab]
  | cons before rest ih =>
      have hb : 0 < markClass b := Nat.lt_trans ha hab
      by_cases hbefore : markClass b < markClass before
      · simp [attach, ha, hb, hbefore, Nat.lt_trans hab hbefore, ih]
      · by_cases habefore : markClass a < markClass before
        · simp [attach, ha, hab, hbefore, habefore]
        · simp [attach, ha, hab, hbefore, habefore, Nat.not_lt_of_gt hab]

theorem foldl_attach_attach {c : Char} {marks : List Char}
    (h : ∀ m ∈ marks, 0 < markClass m ∧ markClass m < markClass c) (text : List Char) :
    marks.foldl attach (attach text c) = attach (marks.foldl attach text) c := by
  induction marks generalizing text with
  | nil => rfl
  | cons m rest ih =>
      obtain ⟨hm, hrest⟩ := List.forall_mem_cons.mp h
      rw [List.foldl_cons, List.foldl_cons, ← attach_attach hm.1 hm.2, ih hrest]

/-! ### Taking apart what was put together -/

theorem flatMap_takeApart {text : List Char} (h : ∀ c ∈ text, parts? c = none) : text.flatMap (takeApart 3) = text := by
  rw [List.flatMap_congr fun c hc => takeApart_of_parts?_eq_none (h c hc) 3, List.flatMap_singleton']

namespace Assembly

/-- The parts of all that is put together, in order, in reverse. -/
def held (assembly : Assembly) : List Char := (assembly.text.reverse.flatMap (takeApart 3)).foldl attach []

/-- The marks that did not join are in order, and none is of a higher class than the last character. -/
structure Ready (assembly : Assembly) (last : Nat) : Prop where
  whole : ∀ m ∈ assembly.marks, parts? m = none
  mark : ∀ m ∈ assembly.marks, 0 < markClass m ∧ markClass m ≤ last
  descending : assembly.marks.Pairwise fun m before => markClass before ≤ markClass m

theorem held_eq (assembly : Assembly) :
    assembly.held
      = (assembly.marks.reverse.flatMap (takeApart 3)).foldl attach
          ((assembly.done.reverse.flatMap (takeApart 3)
            ++ assembly.base.toList.flatMap (takeApart 3)).foldl attach []) := by
  rw [held, text, List.reverse_append, List.reverse_append, List.flatMap_append, List.flatMap_append, List.foldl_append,
    List.foldl_append, List.foldl_append]
  cases assembly.base <;> rfl

theorem held_of_text {before after : Assembly} {c : Char} (hc : parts? c = none) (h : after.text = c :: before.text) :
    after.held = attach before.held c := by
  rw [held, h, List.reverse_cons, List.flatMap_append, List.foldl_append]
  simp only [List.flatMap_singleton, takeApart_of_parts?_eq_none hc]
  rfl

section

variable {assembly : Assembly} {last : Nat} (h : assembly.Ready last) {c : Char}
include h

theorem Ready.less_of_join {composite : Char} (hjoin : assembly.join? c = some composite) :
    ∀ m ∈ assembly.marks, markClass m < markClass c := by
  rw [join?] at hjoin
  split at hjoin
  · cases hjoin
  rename_i hfree
  intro m hm
  obtain ⟨newest, rest, hmarks⟩ := List.exists_cons_of_ne_nil (List.ne_nil_of_mem hm)
  have hnewest : markClass newest < markClass c := by simpa [hmarks] using hfree
  have hdescending := h.descending
  rw [hmarks] at hm hdescending
  rcases List.mem_cons.mp hm with rfl | hm
  · exact hnewest
  · exact Nat.lt_of_le_of_lt ((List.pairwise_cons.mp hdescending).1 m hm) hnewest

/-- A character that joins the base comes before the marks between them, from which it differs in class. -/
theorem Ready.held_of_join {composite : Char} (hjoin : assembly.join? c = some composite) :
    held { assembly with base := some composite } = attach assembly.held c := by
  have hless := h.less_of_join hjoin
  rw [join?] at hjoin
  split at hjoin
  · cases hjoin
  obtain ⟨base, hbase, hcomposite⟩ := Option.bind_eq_some_iff.mp hjoin
  have hmarks : assembly.marks.reverse.flatMap (takeApart 3) = assembly.marks.reverse :=
    flatMap_takeApart fun m hm => h.whole m (List.mem_reverse.mp hm)
  rw [held_eq, held_eq, hbase, hmarks]
  simp only [Option.toList_some, List.flatMap_singleton, takeApart_of_parts? (parts?_of_composite? hcomposite)]
  rw [← List.append_assoc, List.foldl_append, List.foldl_cons, List.foldl_nil]
  exact foldl_attach_attach (fun m hm => ⟨(h.mark m (List.mem_reverse.mp hm)).1, hless m (List.mem_reverse.mp hm)⟩) _

theorem Ready.push (hc : parts? c = none) (hlast : markClass c = 0 ∨ last ≤ markClass c) :
    (assembly.push c).Ready (markClass c) ∧ (assembly.push c).held = attach assembly.held c := by
  cases hjoin : assembly.join? c with
  | some composite =>
      have hless := h.less_of_join hjoin
      rw [Assembly.push, hjoin]
      exact ⟨⟨h.whole, fun m hm => ⟨(h.mark m hm).1, Nat.le_of_lt (hless m hm)⟩, h.descending⟩, h.held_of_join hjoin⟩
  | none =>
      rw [Assembly.push, hjoin]
      dsimp only
      split
      · exact ⟨⟨by simp, by simp, .nil⟩, held_of_text hc rfl⟩
      · rename_i hmark
        have hle := hlast.resolve_left hmark
        refine ⟨⟨List.forall_mem_cons.mpr ⟨hc, h.whole⟩, List.forall_mem_cons.mpr ⟨?_, fun m hm => ?_⟩, ?_⟩,
          held_of_text hc rfl⟩
        · omega
        · exact ⟨(h.mark m hm).1, Nat.le_trans (h.mark m hm).2 hle⟩
        · exact List.pairwise_cons.mpr ⟨fun m hm => Nat.le_trans (h.mark m hm).2 hle, h.descending⟩

/-- Putting together keeps all parts. -/
theorem Ready.held_foldl_push {text : List Char} (hparts : ∀ c ∈ text, parts? c = none) (htext : text.IsChain Follows)
    (hlast : ∀ c ∈ text.head?, markClass c = 0 ∨ last ≤ markClass c) :
    (text.foldl Assembly.push assembly).held = text.foldl attach assembly.held := by
  induction text generalizing assembly last with
  | nil => rfl
  | cons c rest ih =>
      obtain ⟨hc, hrest⟩ := List.forall_mem_cons.mp hparts
      obtain ⟨hnext, hchain⟩ := List.isChain_cons.mp htext
      obtain ⟨hready, hheld⟩ := h.push hc (hlast c rfl)
      rw [List.foldl_cons, List.foldl_cons, ih hready hrest hchain hnext, hheld]

end

end Assembly

def apart (text : List Char) : List Char := ordered (text.flatMap (takeApart 3))

def joined (text : List Char) : List Char := (text.foldl Assembly.push .empty).text.reverse

def normal (text : List Char) : List Char := joined (apart text)

theorem mem_attach {text : List Char} {c d : Char} : d ∈ attach text c ↔ d = c ∨ d ∈ text := by
  induction text with
  | nil => simp [attach]
  | cons before rest ih =>
      rw [attach]
      split
      · simp [ih, or_left_comm]
      · simp

theorem mem_ordered {text : List Char} {d : Char} : d ∈ ordered text ↔ d ∈ text := by
  have hall : ∀ held : List Char, d ∈ text.foldl attach held ↔ d ∈ held ∨ d ∈ text := by
    induction text with
    | nil => simp
    | cons c rest ih =>
        intro held
        rw [List.foldl_cons, ih, mem_attach, List.mem_cons]
        tauto
  simp [ordered, hall]

theorem parts?_of_mem_apart {text : List Char} : ∀ c ∈ apart text, parts? c = none := by
  intro c hc
  obtain ⟨d, -, hd⟩ := List.mem_flatMap.mp (mem_ordered.mp hc)
  exact parts?_of_mem_takeApart (within_three d) c hd

theorem apart_joined {text : List Char} (hparts : ∀ c ∈ text, parts? c = none) (htext : text.IsChain Follows) :
    apart (joined text) = text := by
  have hempty : Assembly.Ready .empty 0 := ⟨by simp [Assembly.empty], by simp [Assembly.empty], .nil⟩
  have hheld := hempty.held_foldl_push hparts htext fun c _ => .inr (Nat.zero_le _)
  calc apart (joined text) = (text.foldl Assembly.push .empty).held.reverse := rfl
    _ = ordered text := by rw [hheld]; rfl
    _ = text := ordered_of_isChain htext

theorem normal_normal (text : List Char) : normal (normal text) = normal text :=
  congrArg joined (apart_joined parts?_of_mem_apart (isChain_ordered _))

/-! ### Characters that take no part -/

/-- A character that is neither mark nor whole and joins nothing before it. -/
structure IsFree (c : Char) : Prop where
  mark : markClass c = 0
  whole : parts? c = none
  joins : ∀ b, composite? b c = none

theorem isFree_of_sets {s : Nat} (hs : s ∈ [between 0 127, ideographs]) {c : Char} (hc : s.testBit c.toNat = true)
    (hmark : markClass c = 0) : IsFree c where
  mark := hmark
  whole :=
    parts?_eq_none (not_testBit_of_disjoint parts_apart.1 (List.mem_cons_of_mem _ (List.mem_cons_of_mem _ hs)) hc)
  joins b := by
    rw [Option.eq_none_iff_forall_ne_some]
    intro composite hcomposite
    obtain ⟨first, second, heq, -, -, hsecond, -⟩ := exists_of_parts? (parts?_of_composite? hcomposite)
    obtain ⟨-, rfl⟩ : b = first ∧ c = second := by simpa using heq
    rw [not_testBit_of_disjoint parts_apart.2.1 hs hc] at hsecond
    cases hsecond

theorem isFree_of_ascii {c : Char} (h : c.toNat < 128) : IsFree c :=
  isFree_of_sets List.mem_cons_self (testBit_between.mpr ⟨Nat.zero_le _, Nat.le_of_lt_succ h⟩) (if_pos h)

def marks : Nat := union (fun entry => between entry.1 entry.2.1) markClasses

theorem marks_apart : marks &&& ideographs = 0 := by decide +kernel

theorem isFree_of_ideograph {c : Char} (h : ideographs.testBit c.toNat = true) : IsFree c := by
  refine isFree_of_sets (List.mem_cons_of_mem _ List.mem_cons_self) h ?_
  have hmark : marks.testBit c.toNat = false := testBit_of_disjoint (Nat.and_comm _ _ ▸ marks_apart) h
  rw [markClass]
  split
  · rfl
  · rw [List.find?_eq_none.mpr]
    · rfl
    · intro entry hentry hfound
      have hbit : marks.testBit c.toNat = true :=
        testBit_union_iff.mpr ⟨entry, hentry, testBit_between.mpr (by simpa using hfound)⟩
      rw [hmark] at hbit
      cases hbit

theorem IsFree.push {c : Char} (h : IsFree c) (assembly : Assembly) :
    assembly.push c = ⟨assembly.text, some c, []⟩ := by
  have hjoin : assembly.join? c = none := by
    rw [Assembly.join?]
    split
    · rfl
    · cases assembly.base with
      | none => rfl
      | some b => exact h.joins b
  rw [Assembly.push, hjoin]
  exact if_pos h.mark

theorem isChain_of_free {text : List Char} (h : ∀ c ∈ text, IsFree c) : text.IsChain Follows := by
  induction text with
  | nil => exact .nil
  | cons c rest ih =>
      obtain ⟨-, hrest⟩ := List.forall_mem_cons.mp h
      exact List.isChain_cons.mpr ⟨fun d hd => .inl (hrest d (List.mem_of_mem_head? hd)).mark, ih hrest⟩

theorem text_foldl_push_of_free {text : List Char} (h : ∀ c ∈ text, IsFree c) (assembly : Assembly) :
    (text.foldl Assembly.push assembly).text = text.reverse ++ assembly.text := by
  induction text generalizing assembly with
  | nil => rfl
  | cons c rest ih =>
      obtain ⟨hc, hrest⟩ := List.forall_mem_cons.mp h
      rw [List.foldl_cons, ih hrest, hc.push, List.reverse_cons, List.append_assoc]
      rfl

theorem normal_of_free {text : List Char} (h : ∀ c ∈ text, IsFree c) : normal text = text := by
  have hapart : apart text = text := by
    rw [apart, flatMap_takeApart fun c hc => (h c hc).whole, ordered_of_isChain (isChain_of_free h)]
  rw [normal, hapart, joined, text_foldl_push_of_free h]
  simp [Assembly.empty, Assembly.text]

theorem composed_eq (text : List Char) : composed text = normal text := by
  rw [composed]
  split
  · rename_i hascii
    refine (normal_of_free fun c hc => isFree_of_ascii ?_).symm
    simpa using List.all_eq_true.mp hascii c hc
  · rfl

theorem composed_composed (text : List Char) : composed (composed text) = composed text := by
  rw [composed_eq, composed_eq, normal_normal]

/-! ### Points -/

theorem foldl_attach_append_point (text held before : List Char) :
    text.foldl attach (held ++ '.' :: before) = text.foldl attach held ++ '.' :: before := by
  have hattach (held : List Char) (c : Char) : attach (held ++ '.' :: before) c = attach held c ++ '.' :: before := by
    induction held with
    | nil =>
        have hpoint : ¬ (0 < markClass c ∧ markClass c < markClass '.') := fun h => Nat.not_lt_zero _ h.2
        exact if_neg hpoint
    | cons d rest ih =>
        rw [List.cons_append, attach, attach]
        split
        · rw [ih, List.cons_append]
        · rfl
  induction text generalizing held with
  | nil => rfl
  | cons c rest ih => rw [List.foldl_cons, List.foldl_cons, hattach, ih]

theorem apart_append_point (before after : List Char) :
    apart (before ++ '.' :: after) = apart before ++ '.' :: apart after := by
  have hpoint : takeApart 3 '.' = ['.'] := takeApart_of_parts?_eq_none (isFree_of_ascii (by decide)).whole 3
  have hattach (held : List Char) : attach held '.' = '.' :: held :=
    attach_of_follows fun _ _ => .inl rfl
  rw [apart, List.flatMap_append, List.flatMap_cons, hpoint, ordered, List.foldl_append, List.singleton_append,
    List.foldl_cons, hattach]
  have hrest := foldl_attach_append_point (after.flatMap (takeApart 3)) []
    ((before.flatMap (takeApart 3)).foldl attach [])
  rw [List.nil_append] at hrest
  rw [hrest]
  simp [apart, ordered]

theorem firstParts_point : firstParts.testBit '.'.toNat = false :=
  testBit_of_disjoint (Nat.and_comm _ _ ▸ parts_apart.2.2.1) (testBit_single.mpr rfl)

theorem composite?_point (c : Char) : composite? '.' c = none := by
  rw [Option.eq_none_iff_forall_ne_some]
  intro composite hcomposite
  obtain ⟨first, second, heq, -, hfirst, -⟩ := exists_of_parts? (parts?_of_composite? hcomposite)
  obtain ⟨rfl, -⟩ : '.' = first ∧ c = second := by simpa using heq
  rw [firstParts_point] at hfirst
  cases hfirst

namespace Assembly

/-- The assembly of what stands behind a text, held in reverse, and a point. -/
def behind (before : List Char) (assembly : Assembly) : Assembly :=
  match assembly.base with
  | none => ⟨before, some '.', assembly.marks⟩
  | some b => ⟨assembly.done ++ '.' :: before, some b, assembly.marks⟩

section

variable (before : List Char) {assembly : Assembly} (hdone : assembly.base = none → assembly.done = [])
include hdone

theorem text_behind : (behind before assembly).text = assembly.text ++ '.' :: before := by
  rw [behind]
  cases hbase : assembly.base with
  | none => simp [text, hbase, hdone hbase]
  | some b => simp [text, hbase]

/-- Nothing joins a point, so all goes on behind it as if nothing stood before. -/
theorem push_behind (c : Char) :
    (behind before assembly).push c = behind before (assembly.push c)
      ∧ ((assembly.push c).base = none → (assembly.push c).done = []) := by
  have htext := text_behind before hdone
  cases hbase : assembly.base with
  | none =>
      have hbehind : behind before assembly = ⟨before, some '.', assembly.marks⟩ := by rw [behind, hbase]
      have hjoin : assembly.join? c = none := by simp [join?, hbase]
      have hpoint : (behind before assembly).join? c = none := by simp [hbehind, join?, composite?_point]
      rw [push, push, hjoin, hpoint]
      dsimp only
      split
      · exact ⟨by rw [htext]; rfl, by simp⟩
      · exact ⟨by simp [behind, hbase], fun _ => hdone hbase⟩
  | some b =>
      have hbehind : behind before assembly = ⟨assembly.done ++ '.' :: before, some b, assembly.marks⟩ := by
        rw [behind, hbase]
      have hsame : (behind before assembly).join? c = assembly.join? c := by rw [join?, join?, hbehind, hbase]
      rw [push, push, hsame]
      cases assembly.join? c with
      | some composite => exact ⟨by simp [behind, hbase], by simp⟩
      | none =>
          dsimp only
          split
          · exact ⟨by rw [htext]; rfl, by simp⟩
          · exact ⟨by simp [behind, hbase], by simp [hbase]⟩

theorem text_foldl_push_behind (rest : List Char) :
    (rest.foldl Assembly.push (behind before assembly)).text
      = (rest.foldl Assembly.push assembly).text ++ '.' :: before := by
  induction rest generalizing assembly with
  | nil => exact text_behind before hdone
  | cons c rest ih =>
      obtain ⟨hpush, hnext⟩ := push_behind before hdone c
      rw [List.foldl_cons, List.foldl_cons, hpush, ih hnext]

end

end Assembly

theorem joined_append_point (before after : List Char) :
    joined (before ++ '.' :: after) = joined before ++ '.' :: joined after := by
  have hpoint := (isFree_of_ascii (c := '.') (by decide)).push (before.foldl Assembly.push .empty)
  have hstart : Assembly.mk (before.foldl Assembly.push .empty).text (some '.') []
      = .behind (before.foldl Assembly.push .empty).text .empty := rfl
  rw [joined, List.foldl_append, List.foldl_cons, hpoint, hstart, Assembly.text_foldl_push_behind _ fun _ => rfl]
  simp [joined]

theorem normal_append_point (before after : List Char) :
    normal (before ++ '.' :: after) = normal before ++ '.' :: normal after := by
  rw [normal, apart_append_point, joined_append_point]
  rfl

theorem mem_text_push {assembly : Assembly} {c d : Char} (h : d ∈ (assembly.push c).text) :
    d ∈ assembly.text ∨ d = c ∨ ∃ a b, composite? a b = some d := by
  rw [Assembly.push] at h
  split at h
  · rename_i composite hjoin
    rw [Assembly.join?] at hjoin
    split at hjoin
    · cases hjoin
    obtain ⟨b, -, hcomposite⟩ := Option.bind_eq_some_iff.mp hjoin
    simp only [Assembly.text, List.mem_append, Option.toList_some, List.mem_singleton] at h ⊢
    rcases h with (h | rfl) | h
    · exact .inl (.inl (.inl h))
    · exact .inr (.inr ⟨b, c, hcomposite⟩)
    · exact .inl (.inr h)
  · split at h
    · rcases List.mem_cons.mp h with rfl | h
      · exact .inr (.inl rfl)
      · exact .inl h
    · rcases List.mem_cons.mp h with rfl | h
      · exact .inr (.inl rfl)
      · exact .inl h

/-- A character of the composed form is a part of one of the text, or was put together. -/
theorem mem_normal {text : List Char} {d : Char} (h : d ∈ normal text) :
    (∃ c ∈ text, d ∈ takeApart 3 c) ∨ ∃ a b, composite? a b = some d := by
  have hall : ∀ (rest : List Char) (assembly : Assembly), d ∈ (rest.foldl Assembly.push assembly).text →
      d ∈ assembly.text ∨ d ∈ rest ∨ ∃ a b, composite? a b = some d := by
    intro rest
    induction rest with
    | nil => exact fun assembly h => .inl h
    | cons c rest ih =>
        intro assembly h
        rcases ih _ h with h | h | h
        · rcases mem_text_push h with h | rfl | h
          · exact .inl h
          · exact .inr (.inl List.mem_cons_self)
          · exact .inr (.inr h)
        · exact .inr (.inl (List.mem_cons_of_mem _ h))
        · exact .inr (.inr h)
  rcases hall _ _ (List.mem_reverse.mp h) with h | h | h
  · simp [Assembly.text, Assembly.empty] at h
  · exact .inl (List.mem_flatMap.mp (mem_ordered.mp h))
  · exact .inr h

theorem eq_point_of_mem_takeApart {n : Nat} {c : Char} (h : '.' ∈ takeApart n c) : c = '.' := by
  induction n generalizing c with
  | zero => exact (List.mem_singleton.mp h).symm
  | succ n ih =>
      cases hparts : parts? c with
      | none =>
          rw [takeApart_of_parts?_eq_none hparts] at h
          exact (List.mem_singleton.mp h).symm
      | some parts =>
          obtain ⟨first, second, rfl, -, hfirst, hsecond, -⟩ := exists_of_parts? hparts
          rw [takeApart, hparts] at h
          rcases List.mem_append.mp h with h | h
          · rw [ih h, firstParts_point] at hfirst
            cases hfirst
          · have hpoint : (between 0 127).testBit '.'.toNat = true := testBit_between.mpr (by decide)
            rw [← List.mem_singleton.mp h, not_testBit_of_disjoint parts_apart.2.1 List.mem_cons_self hpoint] at hsecond
            cases hsecond

theorem not_mem_normal {text : List Char} (h : '.' ∉ text) : '.' ∉ normal text := by
  intro hmem
  rcases mem_normal hmem with ⟨c, hc, hpoint⟩ | ⟨a, b, hcomposite⟩
  · exact h (eq_point_of_mem_takeApart hpoint ▸ hc)
  · have hparts := parts?_of_composite? hcomposite
    rw [(isFree_of_ascii (c := '.') (by decide)).whole] at hparts
    cases hparts

theorem normal_intercalate {labels : List (List Char)} (h : labels ≠ []) :
    normal (['.'].intercalate labels) = ['.'].intercalate (labels.map normal) := by
  induction labels with
  | nil => exact absurd rfl h
  | cons label rest ih =>
      cases rest with
      | nil => simp
      | cons next more =>
          rw [List.intercalate_cons_cons, List.append_assoc, List.singleton_append, normal_append_point,
            ih (List.cons_ne_nil _ _)]
          simp only [List.map_cons, List.intercalate_cons_cons, List.append_assoc, List.singleton_append]

theorem splitOn_normal (text : List Char) : (normal text).splitOn '.' = (text.splitOn '.').map normal := by
  have hne := List.splitOn_ne_nil '.' text
  have hpoints : ∀ label ∈ (text.splitOn '.').map normal, '.' ∉ label := by
    rw [List.forall_mem_map]
    exact fun label hlabel => not_mem_normal (not_mem_of_mem_splitOn hlabel)
  calc (normal text).splitOn '.' = (normal (['.'].intercalate (text.splitOn '.'))).splitOn '.' := by
        rw [List.intercalate_splitOn]
    _ = (text.splitOn '.').map normal := by
        rw [normal_intercalate hne, List.splitOn_intercalate _ hpoints (by simp)]

/-- The labels of a composed name are composed. -/
theorem composed_of_mem_splitOn {text label : List Char} (h : composed text = text)
    (hlabel : label ∈ text.splitOn '.') : composed label = label := by
  rw [composed_eq] at h ⊢
  have hmap : (text.splitOn '.').map normal = (text.splitOn '.').map id := by rw [← splitOn_normal, h, List.map_id]
  exact List.map_inj_left.mp hmap label hlabel

end AgentDelegation.Url.Domain

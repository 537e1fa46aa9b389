import AgentDelegation.Text.Ranges
import AgentDelegation.Text.Rows
import Mathlib.Data.List.Chain
import Mathlib.Data.List.TakeWhile

/-!
# Sets of code points

What tables of characters say of one another is checked for all characters at once. A set of code points is the
number with these bits, so that two tables are compared by one operation on numbers, where a look-up of each
character would take far too long.
-/

namespace AgentDelegation.Text

namespace CodePoints

/-! ### Sets -/

def union {α : Type} (f : α → Nat) : List α → Nat
  | [] => 0
  | x :: rest => f x ||| union f rest

theorem testBit_union_iff {α : Type} {f : α → Nat} {xs : List α} {n : Nat} :
    (union f xs).testBit n = true ↔ ∃ x ∈ xs, (f x).testBit n = true := by
  induction xs with
  | nil => simp [union]
  | cons x rest ih => simp [union, ih]

/-- The characters in any of some sets. -/
def anyOf (sets : List Nat) : Nat := union id sets

theorem testBit_anyOf {sets : List Nat} {s n : Nat} (hs : s ∈ sets) (hn : s.testBit n = true) :
    (anyOf sets).testBit n = true :=
  testBit_union_iff.mpr ⟨s, hs, hn⟩

theorem testBit_anyOf_eq_false_iff {sets : List Nat} {n : Nat} :
    (anyOf sets).testBit n = false ↔ ∀ s ∈ sets, s.testBit n = false := by
  rw [← Bool.not_eq_true, anyOf, testBit_union_iff]
  simp

def single (n : Nat) : Nat := 1 <<< n

theorem testBit_single {m n : Nat} : (single m).testBit n = true ↔ m = n := by
  rw [single, Nat.one_shiftLeft, Nat.testBit_two_pow, decide_eq_true_eq]

def between (first last : Nat) : Nat := (1 <<< (last + 1 - first) - 1) <<< first

theorem testBit_between {first last n : Nat} :
    (between first last).testBit n = true ↔ first ≤ n ∧ n ≤ last := by
  rw [between, Nat.testBit_shiftLeft, Nat.one_shiftLeft, Nat.testBit_two_pow_sub_one, Bool.and_eq_true,
    decide_eq_true_eq, decide_eq_true_eq]
  omega

theorem testBit_of_disjoint {s t : Nat} (h : s &&& t = 0) {n : Nat} (hn : s.testBit n = true) :
    t.testBit n = false := by
  have hboth : (s &&& t).testBit n = false := by rw [h, Nat.zero_testBit]
  rwa [Nat.testBit_and, hn, Bool.true_and] at hboth

theorem not_testBit_of_disjoint {s : Nat} {sets : List Nat} (h : s &&& anyOf sets = 0) {t : Nat} (ht : t ∈ sets)
    {n : Nat} (hn : t.testBit n = true) : s.testBit n = false := by
  refine testBit_of_disjoint (s := anyOf sets) ?_ (testBit_anyOf ht hn)
  rw [Nat.and_comm, h]

theorem testBit_of_subset {s t : Nat} (h : s ||| t = t) {n : Nat} (hn : s.testBit n = true) :
    t.testBit n = true := by
  rw [← h, Nat.testBit_or, hn, Bool.true_or]

/-- The code points of characters. -/
def valid : Nat := between 0 0xD7FF ||| between 0xE000 0x10FFFF

theorem testBit_valid_iff {n : Nat} : valid.testBit n = true ↔ n.isValidChar := by
  rw [valid, Nat.testBit_or, Bool.or_eq_true, testBit_between, testBit_between, Nat.isValidChar]
  omega

theorem toNat_ofNat {n : Nat} (h : valid.testBit n = true) : (Char.ofNat n).toNat = n := by
  rw [Char.toNat, Char.ofNat, dif_pos (testBit_valid_iff.mp h)]
  rfl

/-! ### Ranges -/

def ofRanges (table : List (Nat × Nat)) : Nat := union (fun range => between range.1 range.2) table

theorem inRanges_eq (table : List (Nat × Nat)) (c : Char) : inRanges table c = (ofRanges table).testBit c.toNat := by
  rw [Bool.eq_iff_iff, ofRanges, testBit_union_iff, inRanges, List.any_eq_true]
  simp only [Bool.and_eq_true, decide_eq_true_eq, testBit_between]

/-! ### Runs -/

def members (run : Nat × Nat × Nat × Int) : List Nat :=
  List.range' run.1 ((run.2.1 - run.1) / run.2.2.1 + 1) run.2.2.1

def counterpart (run : Nat × Nat × Nat × Int) (n : Nat) : Nat := ((n : Int) + run.2.2.2).toNat

def ofMembers (runs : List (Nat × Nat × Nat × Int)) : Nat := union (fun run => union single (members run)) runs

theorem testBit_ofMembers_iff {runs : List (Nat × Nat × Nat × Int)} {n : Nat} :
    (ofMembers runs).testBit n = true ↔ ∃ run ∈ runs, n ∈ members run := by
  simp only [ofMembers, testBit_union_iff, testBit_single, exists_eq_right]

theorem mem_members_iff {first last step n : Nat} {offset : Int} (hrun : first ≤ last) :
    n ∈ members (first, last, step, offset) ↔ first ≤ n ∧ n ≤ last ∧ (n - first) % step = 0 := by
  rw [members, List.mem_range']
  constructor
  · rintro ⟨i, hi, rfl⟩
    have hlast : step * i ≤ last - first :=
      Nat.le_trans (Nat.mul_le_mul_left step (Nat.le_of_lt_succ hi)) (Nat.mul_div_le _ _)
    rw [Nat.add_sub_cancel_left, Nat.mul_mod_right]
    dsimp only
    omega
  · rintro ⟨hfirst, hlast, hstep⟩
    have hplace : first + step * ((n - first) / step) = n := by
      rw [Nat.mul_div_cancel' (Nat.dvd_of_mod_eq_zero hstep), Nat.add_sub_cancel' hfirst]
    exact ⟨(n - first) / step, Nat.lt_succ_of_le (Nat.div_le_div_right (Nat.sub_le_sub_right hlast first)), hplace.symm⟩

section

variable {runs : List (Nat × Nat × Nat × Int)} (hruns : ∀ run ∈ runs, run.1 ≤ run.2.1) {c : Char}
include hruns

/-- A counterpart comes from a run with the character. -/
theorem exists_run {d : Char} (h : counterpart? runs c = some d) :
    ∃ run ∈ runs, c.toNat ∈ members run ∧ d = Char.ofNat (counterpart run c.toNat) := by
  obtain ⟨⟨first, last, step, offset⟩, hfind, rfl⟩ := Option.map_eq_some_iff.mp h
  have hmem := List.mem_of_find?_eq_some hfind
  have hrun := List.find?_some hfind
  simp only [Bool.and_eq_true, decide_eq_true_eq, beq_iff_eq, and_assoc] at hrun
  exact ⟨_, hmem, (mem_members_iff (hruns _ hmem)).mpr hrun, rfl⟩

theorem counterpart?_eq_none_iff : counterpart? runs c = none ↔ (ofMembers runs).testBit c.toNat = false := by
  rw [counterpart?, Option.map_eq_none_iff, List.find?_eq_none, ← Bool.not_eq_true, testBit_ofMembers_iff]
  simp only [not_exists, not_and]
  refine forall₂_congr fun run hrun => ?_
  rw [mem_members_iff (hruns run hrun)]
  simp [and_assoc]

end

/-! ### Rows -/

/-- The characters whose code points in the rows are such. -/
def ofRows (p : List Nat → Bool) (rows : List (Nat × List (List Nat))) : Nat :=
  union (fun row => union (fun entry => if p entry.1 then single entry.2 else 0) (row.2.zipIdx row.1)) rows

def ofKeys (rows : List (Nat × List (List Nat))) : Nat := ofRows (!·.isEmpty) rows

/-- What the rows give, by the part `f` of their code points. -/
def ofTexts (f : List Nat → List Nat) (rows : List (Nat × List (List Nat))) : Nat :=
  union (fun row => union (fun codePoints => union single (f codePoints)) row.2) rows

theorem testBit_ofRows_iff {p : List Nat → Bool} {rows : List (Nat × List (List Nat))} {n : Nat} :
    (ofRows p rows).testBit n = true
      ↔ ∃ row ∈ rows, ∃ i codePoints, row.2[i]? = some codePoints ∧ n = row.1 + i ∧ p codePoints = true := by
  simp only [ofRows, testBit_union_iff]
  refine exists_congr fun row => and_congr_right fun _ => ⟨?_, ?_⟩
  · rintro ⟨⟨codePoints, m⟩, hentry, hbit⟩
    obtain ⟨hle, hget⟩ := List.mk_mem_zipIdx_iff_le_and_getElem?_sub.mp hentry
    split at hbit
    · rename_i hp
      obtain rfl := testBit_single.mp hbit
      exact ⟨m - row.1, codePoints, hget, by omega, hp⟩
    · simp at hbit
  · rintro ⟨i, codePoints, hget, rfl, hp⟩
    refine ⟨(codePoints, row.1 + i), ?_, ?_⟩
    · rw [List.mk_mem_zipIdx_iff_le_and_getElem?_sub, Nat.add_sub_cancel_left]
      exact ⟨Nat.le_add_right _ _, hget⟩
    · rw [if_pos hp]
      exact testBit_single.mpr rfl

theorem testBit_ofTexts_iff {f : List Nat → List Nat} {rows : List (Nat × List (List Nat))} {n : Nat} :
    (ofTexts f rows).testBit n = true ↔ ∃ row ∈ rows, ∃ codePoints ∈ row.2, n ∈ f codePoints := by
  simp only [ofTexts, testBit_union_iff, testBit_single, exists_eq_right]

theorem rowText?_eq_some_iff {codePoints : List Nat} {text : List Char} :
    rowText? codePoints = some text ↔ codePoints ≠ [] ∧ text = codePoints.map Char.ofNat := by
  cases codePoints with
  | nil => simp [rowText?]
  | cons n rest => simp [rowText?, eq_comm]

theorem exists_row {rows : List (Nat × List (List Nat))} {c : Char} {text : List Char}
    (h : inRows? rows c = some text) :
    ∃ row ∈ rows, ∃ i codePoints, row.2[i]? = some codePoints ∧ c.toNat = row.1 + i ∧ codePoints ≠ []
      ∧ text = codePoints.map Char.ofNat := by
  simp only [inRows?, Option.bind_eq_bind, Option.bind_eq_some_iff] at h
  obtain ⟨row, hlast, codePoints, hentry, htext⟩ := h
  obtain ⟨hne, htext⟩ := rowText?_eq_some_iff.mp htext
  have hmem := List.mem_of_getLast? hlast
  have hfirst : row.1 ≤ c.toNat := by simpa using List.mem_takeWhile_imp hmem
  exact ⟨row, (List.takeWhile_sublist _).subset hmem, c.toNat - row.1, codePoints, hentry, by omega, hne, htext⟩

/-- Each row ends before the next one. -/
def RowsApart (rows : List (Nat × List (List Nat))) : Prop :=
  rows.IsChain fun row next => row.1 + row.2.length ≤ next.1

theorem getLast?_takeWhile_rows {rows : List (Nat × List (List Nat))} (hapart : RowsApart rows)
    {row : Nat × List (List Nat)} (hrow : row ∈ rows) {i : Nat} (hi : i < row.2.length) :
    (rows.takeWhile (·.1 ≤ row.1 + i)).getLast? = some row := by
  induction rows with
  | nil => cases hrow
  | cons first rest ih =>
      rcases List.mem_cons.mp hrow with rfl | hmem
      · have hstop : rest.takeWhile (·.1 ≤ row.1 + i) = [] := by
          cases rest with
          | nil => rfl
          | cons next others =>
              have hnext := (List.isChain_cons_cons.mp hapart).1
              exact List.takeWhile_cons_of_neg (by simp; omega)
        rw [List.takeWhile_cons_of_pos (by simp), hstop]
        rfl
      · have hlast := ih hapart.tail hmem
        have hbefore : first.1 ≤ row.1 + i := by
          cases rest with
          | nil => cases hmem
          | cons next others =>
              have hnext := (List.isChain_cons_cons.mp hapart).1
              by_contra hafter
              rw [List.takeWhile_cons_of_neg (by simp; omega)] at hlast
              cases hlast
        rw [List.takeWhile_cons_of_pos (by simpa using hbefore), List.getLast?_cons, hlast]
        rfl

section

variable {rows : List (Nat × List (List Nat))} (hrows : RowsApart rows) {c : Char}
include hrows

/-- What stands in a row is found there. -/
theorem inRows?_of_row {row : Nat × List (List Nat)} (hrow : row ∈ rows) {i : Nat} {codePoints : List Nat}
    (hget : row.2[i]? = some codePoints) (hne : codePoints ≠ []) (hc : c.toNat = row.1 + i) :
    inRows? rows c = some (codePoints.map Char.ofNat) := by
  obtain ⟨hi, -⟩ := List.getElem?_eq_some_iff.mp hget
  rw [inRows?, hc, getLast?_takeWhile_rows hrows hrow hi]
  simp only [Option.bind_eq_bind, Option.bind_some, Nat.add_sub_cancel_left, hget]
  exact rowText?_eq_some_iff.mpr ⟨hne, rfl⟩

theorem inRows?_eq_none_iff : inRows? rows c = none ↔ (ofKeys rows).testBit c.toNat = false := by
  rw [← Bool.not_eq_true, ofKeys, testBit_ofRows_iff, ← not_iff_not, not_not, ← Ne, Option.ne_none_iff_exists']
  constructor
  · rintro ⟨text, htext⟩
    obtain ⟨row, hrow, i, codePoints, hget, hc, hne, -⟩ := exists_row htext
    exact ⟨row, hrow, i, codePoints, hget, hc, by simpa using hne⟩
  · rintro ⟨row, hrow, i, codePoints, hget, hc, hne⟩
    exact ⟨_, inRows?_of_row hrows hrow hget (by simpa using hne) hc⟩

theorem inRows?_of_mem_rowEntries (hvalid : ofKeys rows ||| valid = valid) {text : List Char}
    (h : (c, text) ∈ rowEntries rows) : inRows? rows c = some text := by
  simp only [rowEntries, List.mem_flatMap, List.mem_filterMap] at h
  obtain ⟨row, hrow, ⟨codePoints, n⟩, hentry, hmap⟩ := h
  obtain ⟨text', htext, heq⟩ := Option.map_eq_some_iff.mp hmap
  obtain ⟨rfl, rfl⟩ := Prod.mk.inj heq
  obtain ⟨hle, hget⟩ := List.mk_mem_zipIdx_iff_le_and_getElem?_sub.mp hentry
  obtain ⟨hne, rfl⟩ := rowText?_eq_some_iff.mp htext
  have hplace : n = row.1 + (n - row.1) := by omega
  have hkey : (ofKeys rows).testBit n = true :=
    testBit_ofRows_iff.mpr ⟨row, hrow, _, codePoints, hget, hplace, by simpa using hne⟩
  exact inRows?_of_row hrows hrow hget hne ((toNat_ofNat (testBit_of_subset hvalid hkey)).trans hplace)

end

end CodePoints

end AgentDelegation.Text

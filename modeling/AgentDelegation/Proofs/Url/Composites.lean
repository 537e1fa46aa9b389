import AgentDelegation.Proofs.Text.CodePoints
import AgentDelegation.Url.Domain.Composed

/-!
# Composites and their parts

A composite has two parts, of which only the first can have parts in turn, and so on at most twice more. So
three steps take every character apart, and a composite is taken apart like its first part with the second behind
it.
-/

namespace AgentDelegation.Url.Domain

open Text CodePoints

/-! ### Wholes and parts -/

def syllables : Nat := between 0xAC00 0xD7A3

/-- The initials, vowels and finals of which syllables consist. -/
def jamo : Nat := anyOf [between 0x1100 0x1112, between 0x1161 0x1175, between 0x11A8 0x11C2]

/-- A block of Chinese characters. -/
def ideographs : Nat := between 0x20000 0x2A6DF

def wholes : Nat := anyOf [ofKeys composites, syllables]

def firstParts : Nat := anyOf [ofTexts (·.take 1) composites, syllables, jamo]

def secondParts : Nat := anyOf [ofTexts (·.drop 1) composites, jamo]

/-- The composites of the table that have parts in so many more steps than one. -/
def deep : Nat → Nat
  | 0 => ofKeys composites
  | n + 1 => ofRows (fun codePoints => codePoints.head?.any (deep n).testBit) composites

theorem composites_apart : RowsApart composites := by
  rw [RowsApart]
  decide +kernel

theorem composites_valid :
    ofKeys composites ||| valid = valid ∧ ofTexts (·.take 1) composites ||| valid = valid
      ∧ ofTexts (·.drop 1) composites ||| valid = valid := by
  decide +kernel

theorem composites_pairs :
    ∀ row ∈ composites, ∀ codePoints ∈ row.2, codePoints.length = 0 ∨ codePoints.length = 2 := by
  decide +kernel

/-- Wholes are no second parts, and neither is in ASCII. -/
theorem parts_apart :
    wholes &&& anyOf [jamo, secondParts, between 0 127, ideographs] = 0
      ∧ secondParts &&& anyOf [between 0 127, ideographs] = 0
      ∧ firstParts &&& single '.'.toNat = 0
      ∧ syllables &&& anyOf [ofKeys composites, ofTexts (·.take 1) composites] = 0
      ∧ deep 3 = 0 := by
  decide +kernel

/-! ### Syllables -/

theorem testBit_syllables_iff {n : Nat} : syllables.testBit n = true ↔ 0xAC00 ≤ n ∧ n ≤ 0xD7A3 := testBit_between

theorem testBit_jamo_iff {n : Nat} :
    jamo.testBit n = true
      ↔ 0x1100 ≤ n ∧ n ≤ 0x1112 ∨ 0x1161 ≤ n ∧ n ≤ 0x1175 ∨ 0x11A8 ≤ n ∧ n ≤ 0x11C2 := by
  rw [jamo, anyOf, testBit_union_iff]
  simp [testBit_between]

theorem toNat_ofNat_of_lt {n : Nat} (h : n < 0xD800) : (Char.ofNat n).toNat = n := by
  refine toNat_ofNat ?_
  rw [valid, Nat.testBit_or, testBit_between.mpr ⟨Nat.zero_le n, Nat.le_of_lt_succ h⟩, Bool.true_or]

theorem syllableParts?_eq_none {c : Char} (h : syllables.testBit c.toNat = false) : syllableParts? c = none := by
  rw [← Bool.not_eq_true, testBit_syllables_iff] at h
  rw [syllableParts?]
  exact if_pos (by omega)

theorem exists_of_syllableParts? {c : Char} {parts : List Char} (h : syllableParts? c = some parts) :
    syllables.testBit c.toNat = true ∧ ∃ first second, parts = [first, second] ∧ jamo.testBit second.toNat = true
      ∧ (jamo.testBit first.toNat = true
        ∨ syllables.testBit first.toNat = true ∧ (first.toNat - 0xAC00) % 28 = 0 ∧ (c.toNat - 0xAC00) % 28 ≠ 0) := by
  rw [testBit_syllables_iff]
  simp only [testBit_jamo_iff, testBit_syllables_iff]
  rw [syllableParts?] at h
  split at h
  · cases h
  rename_i hsyllable
  split at h
  · obtain rfl := Option.some.inj h
    refine ⟨by omega, _, _, rfl, ?_, .inl ?_⟩
    · rw [toNat_ofNat_of_lt (by omega)]
      omega
    · rw [toNat_ofNat_of_lt (by omega)]
      omega
  · obtain rfl := Option.some.inj h
    refine ⟨by omega, _, _, rfl, ?_, .inr ?_⟩
    · rw [toNat_ofNat_of_lt (by omega)]
      omega
    · rw [toNat_ofNat_of_lt (by omega)]
      omega

/-! ### Parts -/

theorem exists_of_composites {c : Char} {parts : List Char} (h : inRows? composites c = some parts) :
    ∃ first second, parts = [Char.ofNat first, Char.ofNat second] ∧ (ofKeys composites).testBit c.toNat = true
      ∧ (ofTexts (·.take 1) composites).testBit first = true ∧ (ofTexts (·.drop 1) composites).testBit second = true
      ∧ ∀ n, (deep n).testBit first = true → (deep (n + 1)).testBit c.toNat = true := by
  obtain ⟨row, hrow, i, codePoints, hget, hc, hne, rfl⟩ := exists_row h
  have hmem := List.mem_of_getElem? hget
  have hlength : codePoints.length = 2 :=
    (composites_pairs row hrow codePoints hmem).resolve_left fun hzero => hne (List.length_eq_zero_iff.mp hzero)
  obtain ⟨first, second, rfl⟩ := List.length_eq_two.mp hlength
  refine ⟨first, second, rfl, testBit_ofRows_iff.mpr ⟨row, hrow, i, _, hget, hc, rfl⟩, ?_, ?_, fun n hn => ?_⟩
  · exact testBit_ofTexts_iff.mpr ⟨row, hrow, _, hmem, List.mem_cons_self⟩
  · exact testBit_ofTexts_iff.mpr ⟨row, hrow, _, hmem, List.mem_cons_self⟩
  · exact testBit_ofRows_iff.mpr ⟨row, hrow, i, _, hget, hc, hn⟩

theorem parts?_eq_none {c : Char} (h : wholes.testBit c.toNat = false) : parts? c = none := by
  rw [wholes, testBit_anyOf_eq_false_iff, List.forall_mem_cons, List.forall_mem_singleton] at h
  rw [parts?, syllableParts?_eq_none h.2, (inRows?_eq_none_iff composites_apart).mpr h.1]
  rfl

/-- A whole has a first part and a second one, which has no parts. -/
theorem exists_of_parts? {c : Char} {parts : List Char} (h : parts? c = some parts) :
    ∃ first second, parts = [first, second] ∧ wholes.testBit c.toNat = true ∧ firstParts.testBit first.toNat = true
      ∧ secondParts.testBit second.toNat = true ∧ parts? second = none := by
  have hnone {second : Char} (hsecond : secondParts.testBit second.toNat = true) : parts? second = none :=
    parts?_eq_none (not_testBit_of_disjoint parts_apart.1 (List.mem_cons_of_mem _ List.mem_cons_self) hsecond)
  rw [parts?, Option.or_eq_some_iff] at h
  rcases h with h | ⟨-, h⟩
  · obtain ⟨hsyllable, first, second, rfl, hsecond, hfirst⟩ := exists_of_syllableParts? h
    have hsecond : secondParts.testBit second.toNat = true :=
      testBit_anyOf (List.mem_cons_of_mem _ List.mem_cons_self) hsecond
    refine ⟨first, second, rfl, testBit_anyOf (List.mem_cons_of_mem _ List.mem_cons_self) hsyllable, ?_, hsecond,
      hnone hsecond⟩
    rcases hfirst with hjamo | ⟨hsyllable, -⟩
    · exact testBit_anyOf (List.mem_cons_of_mem _ (List.mem_cons_of_mem _ List.mem_cons_self)) hjamo
    · exact testBit_anyOf (List.mem_cons_of_mem _ List.mem_cons_self) hsyllable
  · obtain ⟨first, second, rfl, hkey, hfirst, hsecond, -⟩ := exists_of_composites h
    have hsecond : secondParts.testBit (Char.ofNat second).toNat = true := by
      rw [toNat_ofNat (testBit_of_subset composites_valid.2.2 hsecond)]
      exact testBit_anyOf List.mem_cons_self hsecond
    refine ⟨_, _, rfl, testBit_anyOf List.mem_cons_self hkey, ?_, hsecond, hnone hsecond⟩
    rw [toNat_ofNat (testBit_of_subset composites_valid.2.1 hfirst)]
    exact testBit_anyOf List.mem_cons_self hfirst

/-! ### Taking apart -/

/-- So many steps take the character apart. -/
def Within : Nat → Char → Prop
  | 0, c => parts? c = none
  | n + 1, c => ∀ first rest, parts? c = some (first :: rest) → Within n first

theorem within_of_parts?_eq_none {c : Char} (h : parts? c = none) (n : Nat) : Within n c := by
  cases n with
  | zero => exact h
  | succ n => exact fun first rest hparts => by simp [h] at hparts

theorem within_of_not_deep {n : Nat} {c : Char} (hsyllable : syllables.testBit c.toNat = false)
    (h : (deep n).testBit c.toNat = false) : Within n c := by
  induction n generalizing c with
  | zero =>
      rw [Within, parts?, syllableParts?_eq_none hsyllable, (inRows?_eq_none_iff composites_apart).mpr h]
      rfl
  | succ n ih =>
      intro first rest hparts
      rw [parts?, syllableParts?_eq_none hsyllable, Option.none_or] at hparts
      obtain ⟨n', second, heq, -, hfirst, -, hdeep⟩ := exists_of_composites hparts
      obtain ⟨rfl, -⟩ := List.cons.inj heq
      have hcode : (Char.ofNat n').toNat = n' := toNat_ofNat (testBit_of_subset composites_valid.2.1 hfirst)
      refine ih ?_ ?_
      · rw [hcode]
        exact not_testBit_of_disjoint parts_apart.2.2.2.1 (List.mem_cons_of_mem _ List.mem_cons_self) hfirst
      · rw [hcode, ← Bool.not_eq_true]
        intro hmore
        rw [hdeep n hmore] at h
        cases h

theorem parts?_of_jamo {c : Char} (h : jamo.testBit c.toNat = true) : parts? c = none :=
  parts?_eq_none (not_testBit_of_disjoint parts_apart.1 List.mem_cons_self h)

theorem first_of_syllable {c first : Char} {rest : List Char} (hc : syllables.testBit c.toNat = true)
    (h : parts? c = some (first :: rest)) :
    jamo.testBit first.toNat = true
      ∨ syllables.testBit first.toNat = true ∧ (first.toNat - 0xAC00) % 28 = 0 ∧ (c.toNat - 0xAC00) % 28 ≠ 0 := by
  rw [parts?, Option.or_eq_some_iff] at h
  rcases h with h | ⟨-, h⟩
  · obtain ⟨-, _, _, heq, -, hfirst⟩ := exists_of_syllableParts? h
    obtain ⟨rfl, -⟩ := List.cons.inj heq
    exact hfirst
  · obtain ⟨_, _, -, hkey, -⟩ := exists_of_composites h
    rw [not_testBit_of_disjoint parts_apart.2.2.2.1 List.mem_cons_self hkey] at hc
    cases hc

/-- Three steps take every character apart. -/
theorem within_three (c : Char) : Within 3 c := by
  cases hc : syllables.testBit c.toNat with
  | false => exact within_of_not_deep hc (by rw [parts_apart.2.2.2.2, Nat.zero_testBit])
  | true =>
      intro first rest hparts
      rcases first_of_syllable hc hparts with hjamo | ⟨hfirst, hpair, -⟩
      · exact within_of_parts?_eq_none (parts?_of_jamo hjamo) 2
      · intro initial rest hparts
        have hjamo := (first_of_syllable hfirst hparts).resolve_right fun hmore => hmore.2.2 hpair
        exact within_of_parts?_eq_none (parts?_of_jamo hjamo) 1

theorem takeApart_of_parts?_eq_none {c : Char} (h : parts? c = none) (n : Nat) : takeApart n c = [c] := by
  cases n with
  | zero => rfl
  | succ n => rw [takeApart, h]

theorem takeApart_succ {n : Nat} {c : Char} (h : Within n c) : takeApart (n + 1) c = takeApart n c := by
  induction n generalizing c with
  | zero => rw [takeApart_of_parts?_eq_none h, takeApart_of_parts?_eq_none h]
  | succ n ih =>
      cases hparts : parts? c with
      | none => rw [takeApart_of_parts?_eq_none hparts, takeApart_of_parts?_eq_none hparts]
      | some parts =>
          obtain ⟨first, second, rfl, -⟩ := exists_of_parts? hparts
          rw [takeApart, takeApart, hparts]
          exact congrArg (· ++ [second]) (ih (h first _ hparts))

/-- A composite is taken apart like its first part, with the second behind it. -/
theorem takeApart_of_parts? {c first second : Char} (h : parts? c = some [first, second]) :
    takeApart 3 c = takeApart 3 first ++ [second] := by
  rw [← takeApart_succ (within_three c), takeApart, h]

theorem parts?_of_mem_takeApart {n : Nat} {c : Char} (h : Within n c) : ∀ d ∈ takeApart n c, parts? d = none := by
  induction n generalizing c with
  | zero => exact List.forall_mem_singleton.mpr h
  | succ n ih =>
      cases hparts : parts? c with
      | none =>
          rw [takeApart_of_parts?_eq_none hparts]
          exact List.forall_mem_singleton.mpr hparts
      | some parts =>
          obtain ⟨first, second, rfl, -, -, -, hsecond⟩ := exists_of_parts? hparts
          rw [takeApart, hparts]
          intro d hd
          rcases List.mem_append.mp hd with hd | hd
          · exact ih (h first _ hparts) d hd
          · exact List.mem_singleton.mp hd ▸ hsecond

/-! ### Putting together -/

theorem parts?_of_syllable? {a b c : Char} (h : syllable? a b = some c) : parts? c = some [a, b] := by
  have hchar {n : Nat} {d : Char} (hd : n = d.toNat) : Char.ofNat n = d := by rw [hd, Char.ofNat_toNat]
  rw [syllable?] at h
  split at h
  · rename_i hpair
    obtain rfl := Option.some.inj h
    rw [parts?, syllableParts?, toNat_ofNat_of_lt (by omega)]
    rw [if_neg (by omega), if_pos (by omega), hchar (d := a) (by omega), hchar (d := b) (by omega)]
    rfl
  · split at h
    · rename_i hfinal
      obtain rfl := Option.some.inj h
      rw [parts?, syllableParts?, toNat_ofNat_of_lt (by omega)]
      rw [if_neg (by omega), if_neg (by omega), hchar (d := a) (by omega), hchar (d := b) (by omega)]
      rfl
    · cases h

/-- What two characters are put together to is taken apart to them. -/
theorem parts?_of_composite? {a b c : Char} (h : composite? a b = some c) : parts? c = some [a, b] := by
  rw [composite?, Option.or_eq_some_iff] at h
  rcases h with h | ⟨-, h⟩
  · exact parts?_of_syllable? h
  · obtain ⟨⟨c, parts⟩, hfind, rfl⟩ := Option.map_eq_some_iff.mp h
    obtain rfl : parts = [a, b] := by simpa using List.find?_some hfind
    have hrows := inRows?_of_mem_rowEntries composites_apart composites_valid.1 (List.mem_of_find?_eq_some hfind)
    obtain ⟨_, _, -, hkey, -⟩ := exists_of_composites hrows
    have hsyllable := not_testBit_of_disjoint parts_apart.2.2.2.1 List.mem_cons_self hkey
    rw [parts?, syllableParts?_eq_none hsyllable, hrows]
    rfl

end AgentDelegation.Url.Domain

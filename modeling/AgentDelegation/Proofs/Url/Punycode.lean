import AgentDelegation.Proofs.Text.CodePoints
import AgentDelegation.Url.Punycode
import Mathlib.Data.List.TakeWhile
import Mathlib.Data.Nat.Init
import Mathlib.Tactic.Ring

/-!
# Punycode read back

The writer passes all code points outside ASCII in order, and for each of them the places where it stands; the
distance to the next place is a number in digits of varying weight. The reader counts the same places, so after
each number it stands where the writer stood, and has placed what the writer has placed: the letters up to the
last code point, and those of the code point itself up to the place. At the end these are all letters
(`decode?_encode`).

The reader's weights are limited, so this holds for letters whose distances are: at most a thousand of them.
-/

namespace AgentDelegation.Url.Punycode

/-! ### What is written -/

theorem mem_digits {bias place distance : Nat} {c : Char} (h : c ∈ digits bias place distance) :
    ∃ d < 36, c = digitChar d := by
  fun_induction digits bias place distance with
  | case1 place distance t hdistance =>
      have := threshold_le place bias
      exact ⟨distance, by omega, List.mem_singleton.mp h⟩
  | case2 place distance t hdistance ih =>
      rcases List.mem_cons.mp h with rfl | h
      · have := threshold_le place bias
        have := Nat.mod_lt (distance - t) (y := 36 - t) (by omega)
        exact ⟨_, by omega, rfl⟩
      · exact ih h

theorem mem_text_pass {basic codePoint : Nat} {w : Writing} {d c : Char}
    (h : c ∈ (w.pass basic codePoint d).text) : c ∈ w.text ∨ ∃ n < 36, c = digitChar n := by
  rw [Writing.pass] at h
  split at h
  · exact .inl h
  · split at h
    · exact (List.mem_append.mp h).imp_right mem_digits
    · exact .inl h

theorem mem_text_foldl_pass {basic codePoint : Nat} {cs : List Char} {w : Writing} {c : Char}
    (h : c ∈ (cs.foldl (Writing.pass basic codePoint) w).text) : c ∈ w.text ∨ ∃ n < 36, c = digitChar n := by
  induction cs generalizing w with
  | nil => exact .inl h
  | cons d rest ih =>
      rcases ih h with h | h
      · exact mem_text_pass h
      · exact .inr h

theorem mem_text_place {cs : List Char} {basic next : Nat} {others : List Nat} {w : Writing} {c : Char}
    (h : c ∈ (place cs basic others next w).text) : c ∈ w.text ∨ ∃ n < 36, c = digitChar n := by
  induction others generalizing next w with
  | nil => exact .inl h
  | cons codePoint rest ih =>
      rcases ih h with h | h
      · exact mem_text_foldl_pass (w := { w with distance := w.distance + (codePoint - next) * (w.count + 1) }) h
      · exact .inr h

/-- A text in Punycode has its own characters in ASCII, a hyphen, and digits. -/
theorem mem_encode {cs : List Char} {c : Char} (h : c ∈ encode cs) :
    c ∈ cs ∧ isBasic c = true ∨ c = '-' ∨ ∃ n < 36, c = digitChar n := by
  rw [encode, List.mem_append, List.mem_append] at h
  rcases h with (h | h) | h
  · exact .inl (List.mem_filter.mp h)
  · split at h
    · cases h
    · exact .inr (.inl (List.mem_singleton.mp h))
  · rcases mem_text_place h with h | h
    · cases h
    · exact .inr (.inr h)

theorem digitChar_ne_hyphen {d : Nat} (h : d < 36) : digitChar d ≠ '-' := by
  have hall : ∀ d < 36, digitChar d ≠ '-' := by decide
  exact hall d h

/-! ### The code points in order -/

theorem mem_insertDistinct {n m : Nat} {ns : List Nat} : m ∈ insertDistinct n ns ↔ m = n ∨ m ∈ ns := by
  fun_induction insertDistinct n ns with
  | case1 => simp
  | case2 => simp
  | case3 => simp
  | case4 k rest hlt hne ih => simp [ih, or_left_comm]

theorem pairwise_insertDistinct {n : Nat} {ns : List Nat} (h : ns.Pairwise (· < ·)) :
    (insertDistinct n ns).Pairwise (· < ·) := by
  fun_induction insertDistinct n ns with
  | case1 => exact List.pairwise_singleton _ _
  | case2 k rest hlt =>
      refine List.pairwise_cons.mpr ⟨fun m hm => ?_, h⟩
      rcases List.mem_cons.mp hm with rfl | hm
      · exact hlt
      · exact Nat.lt_trans hlt ((List.pairwise_cons.mp h).1 m hm)
  | case3 => exact h
  | case4 k rest hlt hne ih =>
      obtain ⟨hk, hrest⟩ := List.pairwise_cons.mp h
      refine List.pairwise_cons.mpr ⟨fun m hm => ?_, ih hrest⟩
      rcases mem_insertDistinct.mp hm with rfl | hm
      · omega
      · exact hk m hm

theorem mem_foldr_insertDistinct {n : Nat} {ns : List Nat} : n ∈ ns.foldr insertDistinct [] ↔ n ∈ ns := by
  induction ns with
  | nil => simp
  | cons m rest ih => simp [mem_insertDistinct, ih]

theorem pairwise_foldr_insertDistinct (ns : List Nat) : (ns.foldr insertDistinct []).Pairwise (· < ·) := by
  induction ns with
  | nil => exact .nil
  | cons m rest ih => exact pairwise_insertDistinct ih

/-! ### Numbers -/

theorem digitValue?_digitChar {d : Nat} (h : d < 36) : digitValue? (digitChar d) = some d := by
  have hall : ∀ d < 36, digitValue? (digitChar d) = some d := by decide
  exact hall d h

/-- The weight of a digit: all thresholds before it were the least one, or from it on they are the greatest. -/
def IsWeight (weight place bias : Nat) : Prop := (∃ k, weight = 35 ^ k) ∨ threshold place bias = 26

theorem IsWeight.next {weight place bias : Nat} (h : IsWeight weight place bias) :
    IsWeight (weight * (36 - threshold place bias)) (place + 36) bias := by
  by_cases hleast : threshold place bias = 1
  · obtain ⟨k, rfl⟩ := h.resolve_right (by omega)
    exact .inl ⟨k + 1, by rw [hleast, Nat.pow_succ]⟩
  · refine .inr ?_
    simp only [threshold] at hleast ⊢
    omega

/-- No weight is too large while a number below the sixth power of thirty-five is read. -/
theorem IsWeight.mul_lt {weight place bias rest : Nat} (h : IsWeight weight place bias)
    (hrest : threshold place bias ≤ rest) (hbound : rest * weight < 35 ^ 6) :
    weight * (36 - threshold place bias) < 4294967296 := by
  have hpos := threshold_pos place bias
  have hle : threshold place bias * weight < 35 ^ 6 := Nat.lt_of_le_of_lt (Nat.mul_le_mul_right weight hrest) hbound
  rcases h with ⟨k, rfl⟩ | hgreatest
  · have hpow : 35 ^ k < 35 ^ 6 := Nat.lt_of_le_of_lt (Nat.le_mul_of_pos_left _ hpos) hle
    have hk : 35 ^ k ≤ 35 ^ 5 :=
      Nat.pow_le_pow_right (by decide) (Nat.le_of_lt_succ ((Nat.pow_lt_pow_iff_right (by decide)).mp hpow))
    calc 35 ^ k * (36 - threshold place bias) ≤ 35 ^ 5 * 35 := Nat.mul_le_mul hk (by omega)
      _ < 4294967296 := by decide
  · rw [hgreatest] at hle ⊢
    omega

/-- What the first digit leaves is written in the others. -/
theorem first_add_rest {t distance : Nat} (h : t ≤ distance) (weight : Nat) :
    (t + (distance - t) % (36 - t)) * weight + (distance - t) / (36 - t) * (weight * (36 - t)) = distance * weight := by
  have hsplit : t + (distance - t) % (36 - t) + (distance - t) / (36 - t) * (36 - t) = distance := by
    have := Nat.mod_add_div' (distance - t) (36 - t)
    omega
  calc (t + (distance - t) % (36 - t)) * weight + (distance - t) / (36 - t) * (weight * (36 - t))
      = (t + (distance - t) % (36 - t) + (distance - t) / (36 - t) * (36 - t)) * weight := by ring
    _ = distance * weight := by rw [hsplit]

theorem Reading.next?_digitChar {r : Reading} {d : Nat} (h : d < 36) :
    r.next? (digitChar d)
      = if d < threshold r.place r.bias then
          if (r.placed (r.position + d * r.weight)).codePoint.isValidChar then
            some (r.placed (r.position + d * r.weight))
          else none
        else if r.weight * (36 - threshold r.place r.bias) < 4294967296 then
          some { r with
            position := r.position + d * r.weight
            weight := r.weight * (36 - threshold r.place r.bias)
            place := r.place + 36 }
        else none := by
  rw [Reading.next?, digitValue?_digitChar h]
  rfl

/-- The digits of a number place a character as far on as the number says. -/
theorem foldlM_next?_digits {bias place distance : Nat} {r : Reading} (hbias : r.bias = bias) (hplace : r.place = place)
    (hweight : IsWeight r.weight place bias) (hbound : distance * r.weight < 35 ^ 6)
    (hvalid : (r.placed (r.position + distance * r.weight)).codePoint.isValidChar) :
    (digits bias place distance).foldlM Reading.next? r = some (r.placed (r.position + distance * r.weight)) := by
  fun_induction digits bias place distance generalizing r with
  | case1 place distance =>
      rename_i hdistance
      have := threshold_le place bias
      subst hbias hplace
      rw [List.foldlM_cons, Reading.next?_digitChar (by omega), if_pos hdistance, if_pos hvalid]
      rfl
  | case2 place distance t =>
      rename_i hdistance ih
      have := threshold_le place bias
      have := Nat.mod_lt (distance - t) (y := 36 - t) (by omega)
      subst hbias hplace
      have hnumber := first_add_rest (Nat.le_of_not_lt hdistance) r.weight
      have hlarge := hweight.mul_lt (Nat.le_of_not_lt hdistance) hbound
      rw [List.foldlM_cons, Reading.next?_digitChar (by omega), if_neg (by omega), if_pos hlarge]
      have hrest := @ih { r with
        position := r.position + (t + (distance - t) % (36 - t)) * r.weight
        weight := r.weight * (36 - t)
        place := r.place + 36 } rfl rfl hweight.next
      simp only [Nat.add_assoc, hnumber] at hrest
      exact hrest (Nat.lt_of_le_of_lt (Nat.le.intro ((Nat.add_comm _ _).trans hnumber)) hbound) hvalid

/-! ### Reader and writer in step -/

section

variable (start : Reading) (basic : Nat)

/-- The reader has read what the writer has written. -/
structure Reads (w : Writing) (r : Reading) : Prop where
  read : w.text.foldlM Reading.next? start = some r
  length : r.text.length = w.count
  bias : r.bias = w.bias
  start : r.start = r.position
  weight : r.weight = 1
  place : r.place = 36
  first : (r.position == 0) = (w.count == basic)
  basic_le : basic ≤ w.count

/-- With the distance of the writer added, both stand at the same place: so many places of the code point are
passed, and all places of those before it. -/
def Level (codePoint passed : Nat) (w : Writing) (r : Reading) : Prop :=
  r.codePoint * (w.count + 1) + r.position + w.distance = codePoint * (w.count + 1) + passed

/-- While the places of a code point are passed, the letters up to it are placed as far as they are passed, and
those before it also further on. -/
def InStep (codePoint : Nat) (before after : List Char) (w : Writing) : Prop :=
  ∃ r, Reads start basic w r
    ∧ r.text = before.filter (·.toNat ≤ codePoint) ++ after.filter (·.toNat < codePoint)
    ∧ Level codePoint (before.filter (·.toNat ≤ codePoint)).length w r

variable {start basic}

/-- The number for the distance places the character where the writer stands. -/
theorem Reads.placed_eq {w : Writing} {r : Reading} (h : Reads start basic w r) {c : Char} {index : Nat}
    (hlevel : Level c.toNat index w r) (hindex : index ≤ w.count) :
    r.placed (r.position + w.distance)
      = { text := r.text.take index ++ c :: r.text.drop index
          codePoint := c.toNat
          position := index + 1
          bias := adapt w.distance (w.count + 1) (w.count == basic)
          start := index + 1
          weight := 1
          place := 36 } := by
  have hle : r.codePoint ≤ c.toNat := by
    by_contra hlt
    have := Nat.mul_le_mul_right (w.count + 1) (Nat.succ_le_of_lt (Nat.lt_of_not_le hlt))
    rw [Nat.succ_mul] at this
    rw [Level] at hlevel
    omega
  obtain ⟨rounds, hrounds⟩ := Nat.exists_eq_add_of_le hle
  have htotal : r.position + w.distance = index + (w.count + 1) * rounds := by
    rw [Level, hrounds, Nat.add_mul, Nat.mul_comm rounds] at hlevel
    omega
  have hdiv : (r.position + w.distance) / (w.count + 1) = rounds := by
    rw [htotal, Nat.add_mul_div_left _ _ (Nat.succ_pos _), Nat.div_eq_of_lt (Nat.lt_succ_of_le hindex), Nat.zero_add]
  have hmod : (r.position + w.distance) % (w.count + 1) = index := by
    rw [htotal, Nat.add_mul_mod_self_left, Nat.mod_eq_of_lt (Nat.lt_succ_of_le hindex)]
  simp only [Reading.placed, h.length, hdiv, hmod, ← hrounds, h.start, h.first, Char.ofNat_toNat,
    Nat.add_sub_cancel_left]

/-- The distances of a thousand letters can be read. -/
theorem Level.distance_lt {w : Writing} {r : Reading} {c : Char} {index : Nat} (h : Level c.toNat index w r)
    (hindex : index ≤ w.count) (hcount : w.count < 1000) : w.distance < 35 ^ 6 := by
  have hcode : c.toNat ≤ 1114111 := by
    have := c.valid
    have : c.toNat < 1114112 := by
      rcases this with h | h
      · exact Nat.lt_trans h (by decide)
      · exact h.2
    omega
  have := Nat.mul_le_mul hcode (show w.count + 1 ≤ 1000 from hcount)
  rw [Level] at h
  omega

theorem Reads.placed {w : Writing} {r : Reading} (h : Reads start basic w r) {c : Char} {index : Nat}
    (hlevel : Level c.toNat index w r) (hindex : index ≤ w.count) (hcount : w.count < 1000) :
    Reads start basic
      { text := w.text ++ digits w.bias 36 w.distance
        distance := 0
        bias := adapt w.distance (w.count + 1) (w.count == basic)
        count := w.count + 1 }
      (r.placed (r.position + w.distance)) := by
  have hplaced := h.placed_eq hlevel hindex
  have hweight : IsWeight r.weight 36 w.bias := .inl ⟨0, h.weight⟩
  have hdigits : (digits w.bias 36 w.distance).foldlM Reading.next? r
      = some (r.placed (r.position + w.distance)) := by
    have hunit : w.distance * r.weight = w.distance := by rw [h.weight, Nat.mul_one]
    have hbound : w.distance * r.weight < 35 ^ 6 := hunit.symm ▸ hlevel.distance_lt hindex hcount
    have hread := foldlM_next?_digits h.bias h.place hweight hbound (by rw [hunit, hplaced]; exact c.valid)
    rwa [hunit] at hread
  have hlast : (w.count + 1 == basic) = false := by
    have := h.basic_le
    exact beq_false_of_ne (by omega)
  have hlength : (r.text.take index ++ c :: r.text.drop index).length = w.count + 1 := by
    rw [← h.length, List.length_append, List.length_cons, ← Nat.add_assoc, ← List.length_append, List.take_append_drop]
  refine ⟨?_, ?_, ?_, ?_, ?_, ?_, ?_, Nat.le_succ_of_le h.basic_le⟩
  · rw [List.foldlM_append, h.read]
    exact hdigits
  all_goals rw [hplaced]
  · exact hlength
  · exact hlast.symm

theorem InStep.pass {codePoint : Nat} {before after : List Char} {c : Char} {w : Writing}
    (h : InStep start basic codePoint before (c :: after) w) (hlength : (before ++ c :: after).length ≤ 1000) :
    InStep start basic codePoint (before ++ [c]) after (w.pass basic codePoint c) := by
  obtain ⟨r, hreads, htext, hlevel⟩ := h
  have hcount : w.count = (before.filter (·.toNat ≤ codePoint)).length
      + ((c :: after).filter (·.toNat < codePoint)).length := by
    rw [← hreads.length, htext, List.length_append]
  rw [Writing.pass]
  by_cases hless : c.toNat < codePoint
  · -- The letter is placed already: one more place is passed.
    have hle : c.toNat ≤ codePoint := Nat.le_of_lt hless
    rw [if_pos hless]
    refine ⟨r, { hreads with }, ?_, ?_⟩
    · simp [htext, hless, hle]
    · have hmore : ((before ++ [c]).filter (·.toNat ≤ codePoint)).length
          = (before.filter (·.toNat ≤ codePoint)).length + 1 := by simp [hle]
      rw [Level] at hlevel ⊢
      rw [hmore]
      dsimp only
      omega
  · rw [if_neg hless]
    by_cases hsame : c.toNat = codePoint
    · subst hsame
      have hbefore := List.length_filter_le (·.toNat ≤ c.toNat) before
      have hafter := List.length_filter_le (·.toNat < c.toNat) after
      have hindex : (before.filter (·.toNat ≤ c.toNat)).length ≤ w.count := by omega
      rw [List.filter_cons_of_neg (by simp)] at hcount htext
      rw [List.length_append, List.length_cons] at hlength
      rw [if_pos rfl]
      refine ⟨_, hreads.placed hlevel hindex (by omega), ?_, ?_⟩
      all_goals rw [hreads.placed_eq hlevel hindex]
      · simp [htext]
      · simp [Level, Nat.add_assoc]
    · have hmore : ¬ c.toNat ≤ codePoint := by omega
      rw [if_neg hsame]
      refine ⟨r, hreads, ?_, ?_⟩
      · simp [htext, hless, hmore]
      · simpa [hmore] using hlevel

theorem InStep.foldl_pass {codePoint : Nat} {before after : List Char} {w : Writing}
    (h : InStep start basic codePoint before after w) (hlength : (before ++ after).length ≤ 1000) :
    InStep start basic codePoint (before ++ after) [] (after.foldl (Writing.pass basic codePoint) w) := by
  induction after generalizing before w with
  | nil => simpa using h
  | cons c rest ih =>
      have hsplit : before ++ c :: rest = before ++ [c] ++ rest := by simp
      rw [hsplit]
      exact ih (h.pass hlength) (hsplit ▸ hlength)

/-- Once all code points are passed, all letters are placed. -/
theorem exists_foldlM_text_place {cs : List Char} (hlength : cs.length ≤ 1000) {others : List Nat} {next : Nat}
    {w : Writing} {r : Reading} (hreads : Reads start basic w r) (htext : r.text = cs.filter (·.toNat < next))
    (hlevel : Level next 0 w r) (hsorted : others.Pairwise (· < ·)) (hnext : ∀ n ∈ others, next ≤ n)
    (hothers : ∀ c ∈ cs, next ≤ c.toNat → c.toNat ∈ others) :
    ∃ last, (place cs basic others next w).text.foldlM Reading.next? start = some last
      ∧ last.text = cs ∧ last.place = 36 := by
  induction others generalizing next w r with
  | nil =>
      refine ⟨r, hreads.read, ?_, hreads.place⟩
      rw [htext, List.filter_eq_self]
      intro c hc
      by_contra hge
      exact List.not_mem_nil (hothers c hc (by simpa using hge))
  | cons codePoint rest ih =>
      obtain ⟨hfirst, hrest⟩ := List.pairwise_cons.mp hsorted
      have hcode : next ≤ codePoint := hnext codePoint List.mem_cons_self
      have hstart : InStep start basic codePoint [] cs
          { w with distance := w.distance + (codePoint - next) * (w.count + 1) } := by
        refine ⟨r, { hreads with }, ?_, ?_⟩
        · rw [htext, List.filter_nil, List.nil_append]
          refine List.filter_congr fun c hc => ?_
          have hbetween : next ≤ c.toNat → codePoint ≤ c.toNat := fun hge =>
            (List.mem_cons.mp (hothers c hc hge)).elim (fun heq => Nat.le_of_eq heq.symm) fun hmem =>
              Nat.le_of_lt (hfirst _ hmem)
          rw [decide_eq_decide]
          omega
        · have hsplit : codePoint * (w.count + 1) = next * (w.count + 1) + (codePoint - next) * (w.count + 1) := by
            rw [← Nat.add_mul, Nat.add_sub_cancel' hcode]
          rw [Level] at hlevel ⊢
          simp only [List.filter_nil, List.length_nil]
          omega
      obtain ⟨r', hreads', htext', hlevel'⟩ := hstart.foldl_pass (by simpa using hlength)
      rw [List.nil_append, List.filter_nil, List.append_nil] at htext'
      rw [List.nil_append, ← htext', hreads'.length] at hlevel'
      rw [place]
      refine ih (r := r') { hreads' with } ?_ ?_ hrest (fun n hn => hfirst n hn) fun c hc hge => ?_
      · rw [htext']
        exact List.filter_congr fun c _ => by rw [decide_eq_decide, Nat.lt_succ_iff]
      · rw [Level] at hlevel' ⊢
        simp only [Nat.add_mul]
        omega
      · exact (List.mem_cons.mp (hothers c hc (by omega))).resolve_left (by omega)

end

/-! ### The text -/

theorem cut_append {basic tail : List Char} (h : ∀ c ∈ tail, c ≠ '-') :
    cut (basic ++ (if basic.isEmpty then [] else ['-']) ++ tail) = (basic, tail) := by
  have hkeep : ∀ c ∈ tail.reverse, (c != '-') = true := fun c hc => bne_iff_ne.mpr (h c (List.mem_reverse.mp hc))
  by_cases hbasic : basic = []
  · subst hbasic
    simp [cut, List.takeWhile_eq_self_iff.mpr hkeep]
  · have hempty : basic.isEmpty = false := List.isEmpty_eq_false_iff.mpr hbasic
    have htail : ((basic ++ ['-'] ++ tail).reverse.takeWhile (· != '-')).reverse = tail := by
      rw [List.reverse_append, List.takeWhile_append_of_pos hkeep]
      simp
    have hlength : (basic ++ ['-'] ++ tail).length - tail.length - 1 = basic.length := by
      simp only [List.length_append, List.length_singleton]
      omega
    rw [hempty, if_neg Bool.false_ne_true, cut, htail, hlength]
    simp [hbasic]

/-- What stands behind the letters in ASCII and their hyphen. -/
def tail (cs : List Char) : List Char :=
  (place cs (cs.filter isBasic).length (((cs.filter (!isBasic ·)).map Char.toNat).foldr insertDistinct []) 128
    ⟨[], 0, 72, (cs.filter isBasic).length⟩).text

theorem encode_eq (cs : List Char) :
    encode cs = cs.filter isBasic ++ (if (cs.filter isBasic).isEmpty then [] else ['-']) ++ tail cs := rfl

theorem exists_digit_of_mem_tail {cs : List Char} {c : Char} (h : c ∈ tail cs) : ∃ d < 36, c = digitChar d :=
  (mem_text_place h).resolve_left List.not_mem_nil

/-- What is behind the letters in ASCII places all others. -/
theorem exists_foldlM_tail {cs : List Char} (hlength : cs.length ≤ 1000) :
    ∃ last, (tail cs).foldlM Reading.next? ⟨cs.filter isBasic, 128, 0, 72, 0, 1, 36⟩ = some last
      ∧ last.text = cs ∧ last.place = 36 := by
  have hreads : Reads ⟨cs.filter isBasic, 128, 0, 72, 0, 1, 36⟩ (cs.filter isBasic).length
      ⟨[], 0, 72, (cs.filter isBasic).length⟩ ⟨cs.filter isBasic, 128, 0, 72, 0, 1, 36⟩ :=
    ⟨rfl, rfl, rfl, rfl, rfl, rfl, by simp, Nat.le_refl _⟩
  have hother {n : Nat} : n ∈ ((cs.filter (!isBasic ·)).map Char.toNat).foldr insertDistinct []
      ↔ ∃ c ∈ cs, 128 ≤ c.toNat ∧ c.toNat = n := by
    simp [mem_foldr_insertDistinct, isBasic, and_assoc]
  refine exists_foldlM_text_place hlength hreads rfl rfl (pairwise_foldr_insertDistinct _) (fun n hn => ?_)
    fun c hc hge => hother.mpr ⟨c, hc, hge, rfl⟩
  obtain ⟨c, -, hge, rfl⟩ := hother.mp hn
  exact hge

/-- A label in Punycode is read as the letters it was written from. -/
theorem decode?_encode {cs : List Char} (hlength : cs.length ≤ 1000) : decode? (encode cs) = some cs := by
  obtain ⟨last, hread, htext, hplace⟩ := exists_foldlM_tail hlength
  have hdigits : ∀ c ∈ tail cs, c ≠ '-' := fun c hc => by
    obtain ⟨d, hd, rfl⟩ := exists_digit_of_mem_tail hc
    exact digitChar_ne_hyphen hd
  rw [decode?, encode_eq, cut_append hdigits]
  simp only [hread, Option.bind_eq_bind, Option.bind_some, if_pos hplace, htext]

/-- A label with a letter outside ASCII ends in a digit. -/
theorem getLast?_encode {cs : List Char} (hlength : cs.length ≤ 1000) (hother : ∃ c ∈ cs, isBasic c = false) :
    ∃ d < 36, (encode cs).getLast? = some (digitChar d) := by
  have hne : tail cs ≠ [] := by
    intro hnil
    obtain ⟨last, hread, htext, -⟩ := exists_foldlM_tail hlength
    rw [hnil] at hread
    obtain rfl := Option.some.inj hread
    obtain ⟨c, hc, hbasic⟩ := hother
    rw [List.filter_eq_self.mp htext c hc] at hbasic
    cases hbasic
  obtain ⟨d, hd, hlast⟩ := exists_digit_of_mem_tail (List.getLast_mem hne)
  refine ⟨d, hd, ?_⟩
  rw [encode_eq, List.getLast?_append, List.getLast?_eq_some_getLast hne, hlast, Option.some_or]

/-! ### Letters outside ASCII -/

/-- The reader is past ASCII, and inside a number if it has placed no letter outside it. -/
structure Past (r : Reading) : Prop where
  codePoint : 128 ≤ r.codePoint
  place : 36 ≤ r.place

theorem Past.next? {r next : Reading} (h : Past r) {c : Char} (hnext : r.next? c = some next) :
    Past next ∧ ((∃ c ∈ next.text, isBasic c = false) ∨ 36 < next.place) := by
  obtain ⟨d, -, hnext⟩ := Option.bind_eq_some_iff.mp hnext
  have hcode : 128 ≤ r.codePoint + (r.position + d * r.weight) / (r.text.length + 1) :=
    Nat.le_trans h.codePoint (Nat.le_add_right _ _)
  dsimp only at hnext
  split at hnext
  · split at hnext
    · rename_i hvalid
      obtain rfl := Option.some.inj hnext
      refine ⟨⟨hcode, Nat.le_refl 36⟩, .inl ⟨_, List.mem_append_right _ List.mem_cons_self, ?_⟩⟩
      have hletter : (Char.ofNat (r.placed (r.position + d * r.weight)).codePoint).toNat
          = (r.placed (r.position + d * r.weight)).codePoint :=
        Text.CodePoints.toNat_ofNat (Text.CodePoints.testBit_valid_iff.mpr hvalid)
      rw [isBasic]
      exact decide_eq_false (Nat.not_lt_of_le (hletter ▸ hcode))
    · cases hnext
  · split at hnext
    · obtain rfl := Option.some.inj hnext
      have hplace := h.place
      exact ⟨⟨h.codePoint, Nat.le_add_left 36 _⟩, .inr (by dsimp only; omega)⟩
    · cases hnext

theorem Past.foldlM {cs : List Char} (hne : cs ≠ []) {r last : Reading} (h : Past r)
    (hread : cs.foldlM Reading.next? r = some last) : (∃ c ∈ last.text, isBasic c = false) ∨ 36 < last.place := by
  induction cs generalizing r with
  | nil => exact absurd rfl hne
  | cons c rest ih =>
      rw [List.foldlM_cons] at hread
      obtain ⟨next, hnext, hread⟩ := Option.bind_eq_some_iff.mp hread
      obtain ⟨hpast, hplaced⟩ := h.next? hnext
      cases rest with
      | nil => exact Option.some.inj hread ▸ hplaced
      | cons d more => exact ih (List.cons_ne_nil d more) hpast hread

theorem tail_cut_ne_nil {cs : List Char} (h : cs.getLast?.all (· == '-') = false) : (cut cs).2 ≠ [] := by
  obtain ⟨c, hlast, hc⟩ : ∃ c, cs.getLast? = some c ∧ c ≠ '-' := by
    cases hlast : cs.getLast? with
    | none => simp [hlast] at h
    | some c => exact ⟨c, rfl, by simpa [hlast] using h⟩
  obtain ⟨before, rfl⟩ := List.getLast?_eq_some_iff.mp hlast
  rw [cut]
  split
  · simp
  · simp [hc]

/-- A label that does not end in a hyphen has a letter outside ASCII. -/
theorem exists_other_of_decode? {cs letters : List Char} (h : decode? cs = some letters)
    (hlast : cs.getLast?.all (· == '-') = false) : ∃ c ∈ letters, isBasic c = false := by
  rw [decode?] at h
  obtain ⟨last, hread, h⟩ := Option.bind_eq_some_iff.mp h
  split at h
  · rename_i hplace
    obtain rfl := Option.some.inj h
    have hpast : Past ⟨(cut cs).1, 128, 0, 72, 0, 1, 36⟩ := ⟨Nat.le_refl 128, Nat.le_refl 36⟩
    exact (hpast.foldlM (tail_cut_ne_nil hlast) hread).resolve_right (by omega)
  · cases h

end AgentDelegation.Url.Punycode

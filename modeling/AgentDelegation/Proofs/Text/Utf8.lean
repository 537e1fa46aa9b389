import AgentDelegation.Text.Utf8

/-!
# Reading back what was written in UTF-8

Every character is written in one byte to four, and reading takes exactly these off the front, whatever
comes behind them (`take_encodeChar`). So a text that was written reads back as itself
(`decodeLossy_encode`), although a reader that replaces ill-formed stretches accepts any bytes at all. The
bytes below 128 stand for themselves and are part of no other character.
-/

namespace AgentDelegation.Text.Utf8

open String (utf8EncodeChar)

/-- A byte that continues a character: the last six bits of a number. -/
def sextet (n : Nat) : UInt8 := UInt8.ofNat (n % 64 + 128)

theorem toNat_sextet (n : Nat) : (sextet n).toNat = n % 64 + 128 := by
  rw [sextet, UInt8.toNat_ofNat']
  omega

theorem le_sextet_iff {low : UInt8} {n : Nat} : low ≤ sextet n ↔ low.toNat ≤ n % 64 + 128 := by
  rw [UInt8.le_iff_toNat_le, toNat_sextet]

theorem sextet_le_iff {high : UInt8} {n : Nat} : sextet n ≤ high ↔ n % 64 + 128 ≤ high.toNat := by
  rw [UInt8.le_iff_toNat_le, toNat_sextet]

theorem le_sextet (n : Nat) : 0x80 ≤ sextet n := le_sextet_iff.mpr (Nat.le_add_left 128 _)

theorem sextet_le (n : Nat) : sextet n ≤ 0xBF := by
  rw [sextet_le_iff]
  change _ ≤ 191
  omega

theorem continuation_sextet {low high : UInt8} {m : Nat} (hlow : low ≤ sextet m) (hhigh : sextet m ≤ high)
    (n : Nat) (rest : List UInt8) :
    continuation (n + 1) low high (sextet m :: rest) = 1 + continuation n 0x80 0xBF rest := by
  simp [continuation, hlow, hhigh]

theorem continuation_sextets (ns : List Nat) (rest : List UInt8) :
    continuation ns.length 0x80 0xBF (ns.map sextet ++ rest) = ns.length := by
  induction ns with
  | nil => rfl
  | cons n ns ih =>
      rw [List.length_cons, List.map_cons, List.cons_append, continuation_sextet (le_sextet n) (sextet_le n), ih,
        Nat.add_comm]

/-! ### First bytes -/

theorem lead_two {b : UInt8} (hlow : 194 ≤ b.toNat) (hhigh : b.toNat ≤ 223) : lead b = some (1, 0x80, 0xBF) := by
  have h₁ : 0xC2 ≤ b := UInt8.le_iff_toNat_le.mpr hlow
  have h₂ : b ≤ 0xDF := UInt8.le_iff_toNat_le.mpr hhigh
  simp [lead, h₁, h₂]

/-- The first of three bytes limits the second, so that no form is overlong and none is a surrogate. -/
theorem lead_three {b : UInt8} {n : Nat} (hb : b.toNat = n / 64 + 224) (hlow : 32 ≤ n) (hhigh : n < 1024)
    (hsurrogate : n < 864 ∨ 896 ≤ n) :
    ∃ low high, lead b = some (2, low, high) ∧ low ≤ sextet n ∧ sextet n ≤ high := by
  have hnot : ¬ b ≤ 0xDF := by
    rw [UInt8.le_iff_toNat_le, hb]
    change ¬ _ ≤ 223
    omega
  simp only [lead, hnot, decide_false, Bool.and_false, Bool.false_eq_true, if_false]
  split
  · rename_i he
    subst he
    change 224 = _ at hb
    refine ⟨_, _, rfl, le_sextet_iff.mpr ?_, sextet_le n⟩
    change 160 ≤ _
    omega
  · split
    · rename_i hd
      subst hd
      change 237 = _ at hb
      refine ⟨_, _, rfl, le_sextet n, sextet_le_iff.mpr ?_⟩
      change _ ≤ 159
      omega
    · rename_i he hd
      have hfirst : b.toNat ≠ 224 := fun h => he (UInt8.toNat_inj.mp h)
      have h₁ : 0xE1 ≤ b := by
        rw [UInt8.le_iff_toNat_le]
        change 225 ≤ _
        omega
      have h₂ : b ≤ 0xEF := by
        rw [UInt8.le_iff_toNat_le]
        change _ ≤ 239
        omega
      simp only [h₁, h₂]
      exact ⟨_, _, rfl, le_sextet n, sextet_le n⟩

/-- The first of four bytes limits the second, so that no form is overlong or beyond the last character. -/
theorem lead_four {b : UInt8} {n : Nat} (hb : b.toNat = n / 64 + 240) (hlow : 16 ≤ n) (hhigh : n < 272) :
    ∃ low high, lead b = some (3, low, high) ∧ low ≤ sextet n ∧ sextet n ≤ high := by
  have hnot {m : UInt8} (hm : m.toNat < 240) : ¬ b ≤ m := by
    rw [UInt8.le_iff_toNat_le, hb]
    omega
  have hne {m : UInt8} (hm : m.toNat < 240) : b ≠ m := by
    rintro rfl
    omega
  simp only [lead, hnot (m := 0xDF) (by decide), hne (m := 0xE0) (by decide), hne (m := 0xED) (by decide),
    hnot (m := 0xEF) (by decide), decide_false, Bool.and_false, Bool.false_eq_true, if_false]
  split
  · rename_i hf
    subst hf
    change 240 = _ at hb
    refine ⟨_, _, rfl, le_sextet_iff.mpr ?_, sextet_le n⟩
    change 144 ≤ _
    omega
  · split
    · exact ⟨_, _, rfl, le_sextet n, sextet_le n⟩
    · rename_i hf hmiddle
      have hfirst : b.toNat ≠ 240 := fun h => hf (UInt8.toNat_inj.mp h)
      simp only [Bool.and_eq_true, decide_eq_true_eq, UInt8.le_iff_toNat_le] at hmiddle
      change ¬ (241 ≤ _ ∧ _ ≤ 243) at hmiddle
      have hlast : b.toNat = 244 := by omega
      obtain rfl : b = 0xF4 := UInt8.toNat_inj.mp hlast
      refine ⟨_, _, rfl, le_sextet n, sextet_le_iff.mpr ?_⟩
      change _ ≤ 143
      omega

/-! ### Characters -/

theorem take_sextets {b low high : UInt8} {n : Nat} {ns : List Nat} (hb : 128 ≤ b.toNat)
    (hlead : lead b = some (ns.length + 1, low, high)) (hlow : low ≤ sextet n) (hhigh : sextet n ≤ high)
    (rest : List UInt8) :
    take b ((n :: ns).map sextet ++ rest)
      = (some (Char.ofNat (codePoint b ((n :: ns).map sextet))), ((n :: ns).map sextet).length) := by
  have hlarge : ¬ b < 0x80 := UInt8.not_lt.mpr (UInt8.le_iff_toNat_le.mpr hb)
  have hused : continuation (ns.length + 1) low high ((n :: ns).map sextet ++ rest) = ns.length + 1 := by
    rw [List.map_cons, List.cons_append, continuation_sextet hlow hhigh, continuation_sextets, Nat.add_comm]
  have hlength : ((n :: ns).map sextet).length = ns.length + 1 := by rw [List.length_map, List.length_cons]
  rw [take, if_neg hlarge, hlead]
  simp only [hused, if_true, List.take_left' hlength, hlength]

theorem toNat_lt_or (c : Char) : c.toNat < 55296 ∨ 57344 ≤ c.toNat ∧ c.toNat < 1114112 := by
  rcases c.valid with h | ⟨h, h'⟩
  · exact .inl h
  · exact .inr ⟨h, h'⟩

theorem encodeChar_eq (c : Char) :
    utf8EncodeChar c
      = if c.toNat ≤ 127 then [UInt8.ofNat c.toNat]
        else if c.toNat ≤ 2047 then UInt8.ofNat (c.toNat / 64 % 32 + 192) :: [c.toNat].map sextet
        else if c.toNat ≤ 65535 then
          UInt8.ofNat (c.toNat / 4096 % 16 + 224) :: [c.toNat / 64, c.toNat].map sextet
        else UInt8.ofNat (c.toNat / 262144 % 8 + 240) :: [c.toNat / 4096, c.toNat / 64, c.toNat].map sextet := rfl

@[simp] theorem toNat_sextet_mod (n : Nat) : (sextet n).toNat % 64 = n % 64 := by
  rw [toNat_sextet]
  omega

theorem codePoint_two (b : UInt8) (n : Nat) : codePoint b ([n].map sextet) = b.toNat % 32 * 64 + n % 64 := by
  simp [codePoint]

theorem codePoint_three (b : UInt8) (m n : Nat) :
    codePoint b ([m, n].map sextet) = (b.toNat % 16 * 64 + m % 64) * 64 + n % 64 := by
  simp [codePoint]

theorem codePoint_four (b : UInt8) (l m n : Nat) :
    codePoint b ([l, m, n].map sextet) = ((b.toNat % 8 * 64 + l % 64) * 64 + m % 64) * 64 + n % 64 := by
  simp [codePoint]

/-- Reading takes the bytes of a character off the front. -/
theorem take_encodeChar (c : Char) (rest : List UInt8) :
    ∃ b tail, utf8EncodeChar c = b :: tail ∧ take b (tail ++ rest) = (some c, tail.length) := by
  have hc := toNat_lt_or c
  have hread {n : Nat} (h : n = c.toNat) : Char.ofNat n = c := h ▸ Char.ofNat_toNat c
  rw [encodeChar_eq]
  -- One case for each number of bytes; that `c` is no surrogate matters for three of them only.
  split
  · have hb : (UInt8.ofNat c.toNat).toNat = c.toNat := by
      rw [UInt8.toNat_ofNat']
      omega
    have hsmall : UInt8.ofNat c.toNat < 0x80 := by
      rw [UInt8.lt_iff_toNat_lt, hb]
      change _ < 128
      omega
    refine ⟨_, [], rfl, ?_⟩
    rw [take, if_pos hsmall, hb, Char.ofNat_toNat]
    rfl
  · split
    · have hb : (UInt8.ofNat (c.toNat / 64 % 32 + 192)).toNat = c.toNat / 64 + 192 := by
        rw [UInt8.toNat_ofNat']
        omega
      refine ⟨_, [c.toNat].map sextet, rfl, ?_⟩
      rw [take_sextets (by omega) (lead_two (by omega) (by omega)) (le_sextet _) (sextet_le _), codePoint_two, hb,
        hread (by omega)]
    · split
      · have hb : (UInt8.ofNat (c.toNat / 4096 % 16 + 224)).toNat = c.toNat / 64 / 64 + 224 := by
          rw [UInt8.toNat_ofNat']
          omega
        obtain ⟨low, high, hlead, hlow, hhigh⟩ := lead_three hb (by omega) (by omega) (by omega)
        refine ⟨_, [c.toNat / 64, c.toNat].map sextet, rfl, ?_⟩
        rw [take_sextets (by omega) hlead hlow hhigh, codePoint_three, hb, hread (by omega)]
      · have hb : (UInt8.ofNat (c.toNat / 262144 % 8 + 240)).toNat = c.toNat / 4096 / 64 + 240 := by
          rw [UInt8.toNat_ofNat']
          omega
        obtain ⟨low, high, hlead, hlow, hhigh⟩ := lead_four hb (by omega) (by omega)
        refine ⟨_, [c.toNat / 4096, c.toNat / 64, c.toNat].map sextet, rfl, ?_⟩
        rw [take_sextets (by omega) hlead hlow hhigh, codePoint_four, hb, hread (by omega)]

/-! ### Texts -/

@[simp] theorem encode_nil : encode [] = [] := rfl

theorem encode_cons (c : Char) (cs : List Char) : encode (c :: cs) = utf8EncodeChar c ++ encode cs := rfl

@[simp] theorem encode_append (first second : List Char) :
    encode (first ++ second) = encode first ++ encode second := List.flatMap_append

@[simp] theorem decodeLossy_encode (cs : List Char) : decodeLossy (encode cs) = cs := by
  induction cs with
  | nil => rw [encode_nil, decodeLossy]
  | cons c cs ih =>
      obtain ⟨b, tail, hencode, htake⟩ := take_encodeChar c (encode cs)
      rw [encode_cons, hencode, List.cons_append, decodeLossy, htake]
      simp only [List.drop_left, Option.getD_some, ih]

@[simp] theorem decode?_encode (cs : List Char) : decode? (encode cs) = some cs := by
  induction cs with
  | nil => rw [encode_nil, decode?]
  | cons c cs ih =>
      obtain ⟨b, tail, hencode, htake⟩ := take_encodeChar c (encode cs)
      rw [encode_cons, hencode, List.cons_append, decode?, htake]
      simp only [List.drop_left, ih, Option.map_some]

/-! ### Bytes that stand for themselves -/

theorem encodeChar_of_lt {c : Char} (h : c.toNat < 128) : utf8EncodeChar c = [UInt8.ofNat c.toNat] := by
  rw [encodeChar_eq, if_pos (Nat.le_of_lt_succ h)]

theorem encodeChar_of_le {c : Char} (h : 128 ≤ c.toNat) :
    ∃ (n : Nat) (ns : List Nat), 128 ≤ n ∧ n < 256 ∧ utf8EncodeChar c = UInt8.ofNat n :: ns.map sextet := by
  rw [encodeChar_eq, if_neg (Nat.not_le.mpr h)]
  split
  · exact ⟨_, _, by omega, by omega, rfl⟩
  · split
    · exact ⟨_, _, by omega, by omega, rfl⟩
    · exact ⟨_, _, by omega, by omega, rfl⟩

theorem le_of_mem_encodeChar {c : Char} (h : 128 ≤ c.toNat) {b : UInt8} (hmem : b ∈ utf8EncodeChar c) :
    128 ≤ b.toNat := by
  obtain ⟨n, ns, hlow, hhigh, hencode⟩ := encodeChar_of_le h
  rw [hencode] at hmem
  rcases List.mem_cons.mp hmem with rfl | htail
  · rw [UInt8.toNat_ofNat']
    omega
  · obtain ⟨n, -, rfl⟩ := List.mem_map.mp htail
    exact toNat_sextet n ▸ Nat.le_add_left 128 _

/-- A byte below 128 is written for the character of that number and for no other. -/
theorem mem_encodeChar_iff {c d : Char} (hd : d.toNat < 128) : UInt8.ofNat d.toNat ∈ utf8EncodeChar c ↔ d = c := by
  have hbyte {d : Char} (h : d.toNat < 128) : (UInt8.ofNat d.toNat).toNat = d.toNat := by
    rw [UInt8.toNat_ofNat']
    omega
  by_cases hc : c.toNat < 128
  · rw [encodeChar_of_lt hc, List.mem_singleton, ← UInt8.toNat_inj, hbyte hd, hbyte hc]
    exact ⟨fun h => Char.toNat_inj.mp h, congrArg Char.toNat⟩
  · constructor
    · intro hmem
      have := le_of_mem_encodeChar (Nat.not_lt.mp hc) hmem
      rw [hbyte hd] at this
      omega
    · rintro rfl
      exact absurd hd hc

theorem mem_encode_iff {d : Char} (hd : d.toNat < 128) {cs : List Char} :
    UInt8.ofNat d.toNat ∈ encode cs ↔ d ∈ cs := by
  simp only [encode, List.mem_flatMap, mem_encodeChar_iff hd, exists_eq_right']

/-- Leaving out such a byte leaves out its character. -/
theorem filter_encode {d : Char} (hd : d.toNat < 128) (cs : List Char) :
    (encode cs).filter (· != UInt8.ofNat d.toNat) = encode (cs.filter (· != d)) := by
  induction cs with
  | nil => rfl
  | cons c cs ih =>
      rw [encode_cons, List.filter_append, ih]
      by_cases h : d = c
      · subst h
        rw [encodeChar_of_lt hd]
        simp
      · have hkeep : (utf8EncodeChar c).filter (· != UInt8.ofNat d.toNat) = utf8EncodeChar c := by
          rw [List.filter_eq_self]
          intro b hb
          refine bne_iff_ne.mpr ?_
          rintro rfl
          exact h ((mem_encodeChar_iff hd).mp hb)
        rw [hkeep, ← encode_cons]
        simp [Ne.symm h]

end AgentDelegation.Text.Utf8

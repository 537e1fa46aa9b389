import AgentDelegation.Proofs.Text.Utf8
import AgentDelegation.Url.Percent

/-!
# What percent-encoding leaves

An encoded text has none of the characters that had to be encoded, since a percent sign and its digits may
stand in every part of an address. So encoding it once more changes nothing, and all its characters are
graphic ones of ASCII. A text without a percent sign stands for its own bytes.
-/

namespace AgentDelegation.Url

open Text

/-! ### Encoding -/

/-- A set that has no part of an encoded byte in it. -/
structure SparesBytes (encoded : Char → Bool) : Prop where
  percent : encoded '%' = false
  digits : ∀ n < 16, encoded (upperHexDigit n) = false

theorem sparesBytes_inUserInfo : SparesBytes inUserInfo := ⟨by decide, by decide⟩

theorem sparesBytes_inPath : SparesBytes inPath := ⟨by decide, by decide⟩

theorem sparesBytes_inSpecialQuery : SparesBytes inSpecialQuery := ⟨by decide, by decide⟩

theorem sparesBytes_inFragment : SparesBytes inFragment := ⟨by decide, by decide⟩

theorem mem_encodedByte {b : UInt8} {c : Char} (h : c ∈ encodedByte b) : c = '%' ∨ ∃ n < 16, c = upperHexDigit n := by
  have hhigh : b.toNat / 16 < 16 := by
    have := b.toNat_lt
    omega
  have hlow : b.toNat % 16 < 16 := Nat.mod_lt _ (by decide)
  simp only [encodedByte, List.mem_cons, List.not_mem_nil, or_false] at h
  rcases h with rfl | rfl | rfl
  · exact .inl rfl
  · exact .inr ⟨_, hhigh, rfl⟩
  · exact .inr ⟨_, hlow, rfl⟩

section

variable {encoded : Char → Bool} {cs : List Char}

theorem mem_percentEncode {c : Char} (h : c ∈ percentEncode encoded cs) :
    (c ∈ cs ∧ encoded c = false) ∨ c = '%' ∨ ∃ n < 16, c = upperHexDigit n := by
  obtain ⟨d, hd, hc⟩ := List.mem_flatMap.mp h
  split at hc
  · obtain ⟨b, -, hb⟩ := List.mem_flatMap.mp hc
    exact .inr (mem_encodedByte hb)
  · rename_i hkept
    obtain rfl := List.mem_singleton.mp hc
    exact .inl ⟨hd, by simpa using hkept⟩

theorem SparesBytes.percentEncode (h : SparesBytes encoded) :
    ∀ c ∈ percentEncode encoded cs, encoded c = false := by
  intro c hc
  rcases mem_percentEncode hc with ⟨-, hkept⟩ | rfl | ⟨n, hn, rfl⟩
  · exact hkept
  · exact h.percent
  · exact h.digits n hn

end

theorem percentDecode_of_not_mem {cs : List Char} (h : '%' ∉ cs) : percentDecode cs = Utf8.encode cs := by
  induction cs with
  | nil => rw [percentDecode, Utf8.encode_nil]
  | cons c rest ih =>
      rw [List.mem_cons, not_or] at h
      obtain ⟨hc, hrest⟩ := h
      rw [percentDecode, if_neg (Ne.symm hc), ih hrest, ← Utf8.encode_append]
      rfl

theorem forall_mem_of_any {p : Char → Bool} {cs : List Char} (h : cs.any p = false) : ∀ c ∈ cs, p c = false := by
  intro c hc
  simpa using List.any_eq_false.mp h c hc

/-! ### Graphic characters -/

/-- A character in a class is none outside it. -/
theorem ne_of_class {p : Char → Bool} {b : Bool} {c d : Char} (hc : p c = b) (hd : p d = !b) : c ≠ d := by
  rintro rfl
  rw [hc] at hd
  cases b <;> cases hd

/-- The characters that the text of an address is made of: those of ASCII that can be seen. -/
def isGraphic (c : Char) : Bool := 0x20 < c.toNat && c.toNat < 0x7F

theorem isGraphic_iff {c : Char} : isGraphic c = true ↔ 0x20 < c.toNat ∧ c.toNat < 0x7F := by
  simp [isGraphic]

/-- Control characters and the space are encoded everywhere. -/
theorem isGraphic_of_not_control {c : Char} (hcontrol : isControl c = false) (hspace : c ≠ ' ') :
    isGraphic c = true := by
  have hblank : c.toNat ≠ 0x20 := fun h => hspace (Char.toNat_inj.mp h)
  simp only [isControl, Bool.or_eq_false_iff, decide_eq_false_iff_not] at hcontrol
  rw [isGraphic_iff]
  omega

theorem isGraphic_of_not_inFragment {c : Char} (h : inFragment c = false) : isGraphic c = true := by
  simp only [inFragment, Bool.or_eq_false_iff, List.contains_eq_mem, decide_eq_false_iff_not, List.mem_cons,
    not_or] at h
  exact isGraphic_of_not_control h.1 h.2.1

theorem not_inFragment_of_not_inPath {c : Char} (h : inPath c = false) : inFragment c = false :=
  (Bool.or_eq_false_iff.mp h).1

theorem not_inPath_of_not_inUserInfo {c : Char} (h : inUserInfo c = false) : inPath c = false :=
  (Bool.or_eq_false_iff.mp h).1

theorem isGraphic_of_not_inSpecialQuery {c : Char} (h : inSpecialQuery c = false) : isGraphic c = true := by
  simp only [inSpecialQuery, inQuery, Bool.or_eq_false_iff, List.contains_eq_mem, decide_eq_false_iff_not,
    List.mem_cons, not_or] at h
  exact isGraphic_of_not_control h.1.1 h.1.2.1

end AgentDelegation.Url

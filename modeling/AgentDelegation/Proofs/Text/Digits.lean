import AgentDelegation.Text.Digits
import Mathlib.Algebra.Group.Nat.Defs
import Mathlib.Data.List.Induction

/-!
# Reading back digits

The digits of a number spell the number, in any base up to sixteen. A number of few digits is small.
-/

namespace AgentDelegation.Text

variable {base : Nat}

theorem digitValue?_digitChar {d : Nat} (h : d < 16) : digitValue? d.digitChar = some d := by
  have hall : ∀ d < 16, digitValue? d.digitChar = some d := by decide
  exact hall d h

theorem number_toDigits (hone : 1 < base) (hbase : base ≤ 16) (n : Nat) : number base (Nat.toDigits base n) = n := by
  induction n using Nat.strongRecOn with
  | ind n ih =>
      by_cases hn : n < base
      · rw [Nat.toDigits_of_lt_base hn]
        simp [number, digitValue?_digitChar (Nat.lt_of_lt_of_le hn hbase)]
      · have hle : base ≤ n := Nat.not_lt.mp hn
        have hdigit : n % base < 16 := Nat.lt_of_lt_of_le (Nat.mod_lt n (by omega)) hbase
        rw [Nat.toDigits_of_base_le hone hle, number_concat, ih (n / base) (Nat.div_lt_self (by omega) hone),
          digitValue?_digitChar hdigit, Option.getD_some, Nat.div_add_mod']

theorem exists_of_mem_toDigits (hone : 1 < base) {n : Nat} {c : Char} (h : c ∈ Nat.toDigits base n) :
    ∃ d < base, c = d.digitChar := by
  induction n using Nat.strongRecOn with
  | ind n ih =>
      by_cases hn : n < base
      · rw [Nat.toDigits_of_lt_base hn, List.mem_singleton] at h
        exact ⟨n, hn, h⟩
      · rw [Nat.toDigits_of_base_le hone (Nat.not_lt.mp hn), List.mem_append, List.mem_singleton] at h
        rcases h with h | h
        · exact ih (n / base) (Nat.div_lt_self (by omega) hone) h
        · exact ⟨n % base, Nat.mod_lt n (by omega), h⟩

theorem number?_toDigits (hone : 1 < base) (hbase : base ≤ 16) (n : Nat) :
    number? base (Nat.toDigits base n) = some n := by
  refine number?_eq_some_iff.mpr ⟨fun c hc => ?_, number_toDigits hone hbase n⟩
  obtain ⟨d, hd, rfl⟩ := exists_of_mem_toDigits hone hc
  simpa [isDigitOf, digitValue?_digitChar (Nat.lt_of_lt_of_le hd hbase)] using hd

theorem number_lt {cs : List Char} (h : ∀ c ∈ cs, isDigitOf base c = true) (hbase : 0 < base) :
    number base cs < base ^ cs.length := by
  induction cs using List.reverseRecOn with
  | nil => simp
  | append_singleton cs c ih =>
      rw [List.forall_mem_append, List.forall_mem_singleton] at h
      obtain ⟨hcs, hc⟩ := h
      have hdigit : (digitValue? c).getD 0 < base := by
        rw [isDigitOf] at hc
        cases hvalue : digitValue? c with
        | none => exact hbase
        | some d => simpa [hvalue] using hc
      have hstep : (number base cs + 1) * base ≤ base ^ cs.length * base := Nat.mul_le_mul_right base (ih hcs)
      rw [Nat.add_mul, Nat.one_mul] at hstep
      rw [number_concat, List.length_append, List.length_singleton, Nat.pow_succ]
      omega

end AgentDelegation.Text

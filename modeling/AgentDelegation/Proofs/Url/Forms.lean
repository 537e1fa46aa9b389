import AgentDelegation.Proofs.Url.Composites
import AgentDelegation.Url.Domain.Mapping

/-!
# Forms stand for themselves

The text that stands for a character consists of characters that stand for themselves, and so do the parts and
the results of composition. The tables say so: no code point that they give is one that another part of them
would change.
-/

namespace AgentDelegation.Url.Domain

open Text CodePoints

/-! ### What the tables give and what they change -/

/-- Characters whose form does not depend on their lower case. -/
def listed : Nat := anyOf [ofRanges ignorable, ofMembers formRuns, ofKeys formRows]

def runForms : Nat := union (fun run => union (fun n => single (counterpart run n)) (members run)) formRuns

def lowerForms : Nat :=
  union (fun run => union (fun n => if listed.testBit n then 0 else single (counterpart run n)) (members run))
    capitalRuns

def settled : Nat :=
  anyOf [runForms, lowerForms, ofTexts id formRows, wholes, firstParts, secondParts, ideographs]

/-- The runs of characters that stand for themselves whatever else is said of them. -/
def selfRuns : List (Nat × Nat × Nat × Int) := formRuns.filter fun run => run.2.2.1 == 1 && run.2.2.2 == 0

def otherRuns : List (Nat × Nat × Nat × Int) := formRuns.filter fun run => !(run.2.2.1 == 1 && run.2.2.2 == 0)

def changed : Nat := anyOf [ofRanges ignorable, ofMembers otherRuns, between 65 90]

def unlisted : Nat := anyOf [ofKeys formRows, ofMembers capitalRuns, ofRanges unfit, ofRanges shapeless]

theorem settled_apart :
    settled &&& changed = 0
      ∧ settled &&& unlisted ||| (ofMembers selfRuns ||| between 0 127) = ofMembers selfRuns ||| between 0 127 := by
  decide +kernel

theorem formRuns_ordered : ∀ run ∈ formRuns, run.1 ≤ run.2.1 := by decide +kernel

theorem capitalRuns_ordered : ∀ run ∈ capitalRuns, run.1 ≤ run.2.1 := by decide +kernel

theorem formRows_apart : RowsApart formRows := by
  rw [RowsApart]
  decide +kernel

/-! ### Settled characters -/

theorem isUpper_iff {c : Char} : c.isUpper = true ↔ 65 ≤ c.toNat ∧ c.toNat ≤ 90 := by
  have hupper : c.isUpper = decide ('A'.val ≤ c.val ∧ c.val ≤ 'Z'.val) := rfl
  rw [hupper, decide_eq_true_eq, UInt32.le_iff_toNat_le, UInt32.le_iff_toNat_le]
  rfl

theorem toLower_of_not_isUpper {c : Char} (h : c.isUpper = false) : c.toLower = c := dif_neg (of_decide_eq_false h)

section

variable {c : Char} (hc : settled.testBit c.toNat = true)
include hc

theorem not_changed_of_settled :
    inRanges ignorable c = false ∧ (ofMembers otherRuns).testBit c.toNat = false ∧ c.isUpper = false := by
  have h := testBit_anyOf_eq_false_iff.mp (testBit_of_disjoint settled_apart.1 hc)
  rw [List.forall_mem_cons, List.forall_mem_cons, List.forall_mem_singleton] at h
  obtain ⟨hignorable, hother, hcapital⟩ := h
  refine ⟨(inRanges_eq _ _).trans hignorable, hother, ?_⟩
  rw [← Bool.not_eq_true, isUpper_iff, ← testBit_between, hcapital]
  exact Bool.false_ne_true

/-- Only a character that is in a run although it stands for itself has anything else said of it. -/
theorem not_unlisted_of_settled (hascii : ¬ c.toNat < 128) (hruns : counterpart? formRuns c = none) :
    unlisted.testBit c.toNat = false := by
  have hself : (ofMembers selfRuns).testBit c.toNat = false := by
    have hall := (counterpart?_eq_none_iff formRuns_ordered).mp hruns
    rw [← Bool.not_eq_true, testBit_ofMembers_iff] at hall ⊢
    exact fun ⟨run, hrun, hmem⟩ => hall ⟨run, List.mem_of_mem_filter hrun, hmem⟩
  have hsmall : (between 0 127).testBit c.toNat = false := by
    rw [← Bool.not_eq_true, testBit_between]
    omega
  by_contra hunlisted
  have hboth : (settled &&& unlisted).testBit c.toNat = true := by
    rw [Nat.testBit_and, hc, Bool.true_and]
    simpa using hunlisted
  have hkept := testBit_of_subset settled_apart.2 hboth
  rw [Nat.testBit_or, hself, hsmall] at hkept
  cases hkept

theorem counterpart?_of_settled {d : Char} (h : counterpart? formRuns c = some d) : d = c := by
  obtain ⟨run, hrun, hmem, rfl⟩ := exists_run formRuns_ordered h
  have hother := (not_changed_of_settled hc).2.1
  rw [← Bool.not_eq_true, testBit_ofMembers_iff] at hother
  cases hself : run.2.2.1 == 1 && run.2.2.2 == 0 with
  | false => exact absurd ⟨run, List.mem_filter.mpr ⟨hrun, by rw [hself]; rfl⟩, hmem⟩ hother
  | true =>
      rw [Bool.and_eq_true, beq_iff_eq, beq_iff_eq] at hself
      rw [counterpart, hself.2, Int.add_zero, Int.toNat_natCast, Char.ofNat_toNat]

theorem form?_of_settled : form? c = some [c] := by
  obtain ⟨hignorable, -, hcapital⟩ := not_changed_of_settled hc
  rw [form?]
  by_cases hascii : c.toNat < 128
  · rw [if_pos hascii, toLower_of_not_isUpper hcapital]
  rw [if_neg hascii, if_neg (by rw [hignorable]; exact Bool.false_ne_true)]
  cases hruns : counterpart? formRuns c with
  | some d =>
      obtain rfl := counterpart?_of_settled hc hruns
      rfl
  | none =>
      have hunlisted := testBit_anyOf_eq_false_iff.mp (not_unlisted_of_settled hc hascii hruns)
      simp only [List.forall_mem_cons] at hunlisted
      obtain ⟨hrows, hcapitals, hunfit, hshapeless, -⟩ := hunlisted
      have hlower : lowerChar c = c := by
        rw [lowerChar, if_neg hascii, (counterpart?_eq_none_iff capitalRuns_ordered).mpr hcapitals]
        rfl
      rw [(inRows?_eq_none_iff formRows_apart).mpr hrows, hlower, isShapeless, inRanges_eq, inRanges_eq, hunfit,
        hshapeless]
      simp

end

/-! ### Forms -/

theorem form?_ofNat {n : Nat} (h : settled.testBit n = true) : form? (Char.ofNat n) = some [Char.ofNat n] := by
  by_cases hvalid : valid.testBit n = true
  · exact form?_of_settled ((toNat_ofNat hvalid).symm ▸ h)
  · rw [Char.ofNat, dif_neg (mt testBit_valid_iff.mpr hvalid)]
    rfl

theorem form?_of_ascii {c : Char} (hascii : c.toNat < 128) (hcapital : c.isUpper = false) : form? c = some [c] := by
  rw [form?, if_pos hascii, toLower_of_not_isUpper hcapital]

theorem toNat_toLower {c : Char} (h : c.isUpper = true) : c.toLower.toNat = c.toNat + 32 := by
  have hall : ∀ n < 26, (Char.ofNat (65 + n)).toLower.toNat = 97 + n := by decide
  obtain ⟨hfirst, hlast⟩ := isUpper_iff.mp h
  have hlower := hall (c.toNat - 65) (by omega)
  rw [Nat.add_sub_cancel' hfirst, Char.ofNat_toNat] at hlower
  omega

theorem form?_toLower {c : Char} (hascii : c.toNat < 128) : form? c.toLower = some [c.toLower] := by
  cases hcapital : c.isUpper with
  | false =>
      rw [toLower_of_not_isUpper hcapital]
      exact form?_of_ascii hascii hcapital
  | true =>
      obtain ⟨hfirst, hlast⟩ := isUpper_iff.mp hcapital
      have hlower := toNat_toLower hcapital
      refine form?_of_ascii (by omega) ?_
      rw [← Bool.not_eq_true, isUpper_iff]
      omega

theorem settled_of_run {run : Nat × Nat × Nat × Int} (hrun : run ∈ formRuns) {n : Nat} (hn : n ∈ members run) :
    settled.testBit (counterpart run n) = true := by
  refine testBit_anyOf (s := runForms) List.mem_cons_self ?_
  exact testBit_union_iff.mpr ⟨run, hrun, testBit_union_iff.mpr ⟨n, hn, testBit_single.mpr rfl⟩⟩

theorem settled_of_capital {run : Nat × Nat × Nat × Int} (hrun : run ∈ capitalRuns) {n : Nat} (hn : n ∈ members run)
    (hlisted : listed.testBit n = false) : settled.testBit (counterpart run n) = true := by
  refine testBit_anyOf (s := lowerForms) (by simp only [List.mem_cons, true_or, or_true]) ?_
  refine testBit_union_iff.mpr ⟨run, hrun, testBit_union_iff.mpr ⟨n, hn, ?_⟩⟩
  rw [if_neg (by rw [hlisted]; exact Bool.false_ne_true)]
  exact testBit_single.mpr rfl

theorem settled_of_row {row : Nat × List (List Nat)} (hrow : row ∈ formRows) {codePoints : List Nat}
    (hget : codePoints ∈ row.2) {n : Nat} (hn : n ∈ codePoints) : settled.testBit n = true := by
  refine testBit_anyOf (s := ofTexts id formRows) (by simp only [List.mem_cons, true_or, or_true]) ?_
  exact testBit_ofTexts_iff.mpr ⟨row, hrow, codePoints, hget, hn⟩

/-- The characters of a form stand for themselves. -/
theorem form?_of_mem_form? {c : Char} {text : List Char} (h : form? c = some text) :
    ∀ d ∈ text, form? d = some [d] := by
  rw [form?] at h
  split at h
  · rename_i hascii
    obtain rfl := Option.some.inj h
    rw [List.forall_mem_singleton]
    exact form?_toLower hascii
  split at h
  · obtain rfl := Option.some.inj h
    exact List.forall_mem_nil _
  rename_i hascii hignorable
  cases hruns : counterpart? formRuns c with
  | some d =>
      rw [hruns] at h
      obtain rfl := Option.some.inj h
      obtain ⟨run, hrun, hmem, rfl⟩ := exists_run formRuns_ordered hruns
      rw [List.forall_mem_singleton]
      exact form?_ofNat (settled_of_run hrun hmem)
  | none =>
      cases hrows : inRows? formRows c with
      | some found =>
          rw [hruns, hrows] at h
          obtain rfl := Option.some.inj h
          obtain ⟨row, hrow, i, codePoints, hget, -, -, rfl⟩ := exists_row hrows
          rw [List.forall_mem_map]
          exact fun n hn => form?_ofNat (settled_of_row hrow (List.mem_of_getElem? hget) hn)
      | none =>
          rw [hruns, hrows] at h
          simp only [Option.map_none, Option.none_or] at h
          split at h
          · rename_i hcapital
            obtain rfl := Option.some.inj h
            rw [List.forall_mem_singleton]
            cases hlower : counterpart? capitalRuns c with
            | none => simp [lowerChar, hascii, hlower] at hcapital
            | some d =>
                obtain ⟨run, hrun, hmem, hd⟩ := exists_run capitalRuns_ordered hlower
                have hlisted : listed.testBit c.toNat = false := by
                  rw [listed, testBit_anyOf_eq_false_iff, List.forall_mem_cons, List.forall_mem_cons,
                    List.forall_mem_singleton, ← inRanges_eq]
                  exact ⟨by simpa using hignorable, (counterpart?_eq_none_iff formRuns_ordered).mp hruns,
                    (inRows?_eq_none_iff formRows_apart).mp hrows⟩
                rw [lowerChar, if_neg hascii, hlower, Option.getD_some, hd]
                exact form?_ofNat (settled_of_capital hrun hmem hlisted)
          · split at h
            · cases h
            · rename_i hcapital hfit
              obtain rfl := Option.some.inj h
              rw [List.forall_mem_singleton, form?, if_neg hascii, if_neg hignorable, hruns, hrows]
              simp [hcapital, hfit]

theorem settled_of_parts? {c first second : Char} (h : parts? c = some [first, second]) :
    settled.testBit c.toNat = true ∧ settled.testBit first.toNat = true ∧ settled.testBit second.toNat = true := by
  obtain ⟨_, _, heq, hwhole, hfirst, hsecond, -⟩ := exists_of_parts? h
  obtain ⟨rfl, rfl⟩ : first = _ ∧ second = _ := by simpa using heq
  refine ⟨testBit_anyOf ?_ hwhole, testBit_anyOf ?_ hfirst, testBit_anyOf ?_ hsecond⟩
  all_goals simp only [List.mem_cons, true_or, or_true]

/-- The parts of a character that stands for itself stand for themselves. -/
theorem form?_of_mem_takeApart {n : Nat} {c : Char} (h : form? c = some [c]) :
    ∀ d ∈ takeApart n c, form? d = some [d] := by
  induction n generalizing c with
  | zero => exact List.forall_mem_singleton.mpr h
  | succ n ih =>
      cases hparts : parts? c with
      | none =>
          rw [takeApart_of_parts?_eq_none hparts]
          exact List.forall_mem_singleton.mpr h
      | some parts =>
          obtain ⟨first, second, rfl, -⟩ := exists_of_parts? hparts
          obtain ⟨-, hfirst, hsecond⟩ := settled_of_parts? hparts
          rw [takeApart, hparts, List.forall_mem_append, List.forall_mem_singleton]
          exact ⟨ih (form?_of_settled hfirst), form?_of_settled hsecond⟩

theorem form?_of_composite? {a b c : Char} (h : composite? a b = some c) : form? c = some [c] :=
  form?_of_settled (settled_of_parts? (parts?_of_composite? h)).1

theorem form?_of_ideograph {c : Char} (h : ideographs.testBit c.toNat = true) : form? c = some [c] :=
  form?_of_settled (testBit_anyOf (by simp only [List.mem_cons, true_or, or_true]) h)

end AgentDelegation.Url.Domain

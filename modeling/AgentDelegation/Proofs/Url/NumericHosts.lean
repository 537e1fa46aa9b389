import AgentDelegation.Proofs.Text.Digits
import AgentDelegation.Proofs.Text.Split
import AgentDelegation.Url.Host
import Mathlib.Data.List.TakeWhile

/-!
# Hosts in numbers read again

An address of either version is written in one way only. What is written reads back as the same address,
however it was spelt before: a version 4 address as four decimal numbers, a version 6 address with its first
longest run of zeros left out.
-/

namespace AgentDelegation.Url

open Text

/-! ### Version 4 -/

def ipv4Bytes (n : Nat) : List Nat := [n / 16777216, n / 65536 % 256, n / 256 % 256, n % 256]

theorem ipv4Bytes_lt {n : Nat} (h : n < 4294967296) : ∀ b ∈ ipv4Bytes n, b < 256 := by
  simp only [ipv4Bytes, List.mem_cons, List.not_mem_nil, or_false]
  rintro b (rfl | rfl | rfl | rfl) <;> omega

theorem toList_ipv4Text (n : Nat) :
    (ipv4Text n).toList = ['.'].intercalate ((ipv4Bytes n).map (Nat.toDigits 10)) := by
  have hpoint : ".".toList = ['.'] := rfl
  have hdigits : String.toList ∘ toString = Nat.toDigits 10 := funext fun n => Nat.toList_repr
  rw [ipv4Text, String.toList_intercalate, hpoint, List.map_map, hdigits, ipv4Bytes]

theorem mem_ipv4Text {n : Nat} {c : Char} (h : c ∈ (ipv4Text n).toList) : c = '.' ∨ ∃ d < 10, c = d.digitChar := by
  rw [toList_ipv4Text] at h
  refine (mem_intercalate h).imp_right fun ⟨label, hlabel, hmem⟩ => ?_
  obtain ⟨b, -, rfl⟩ := List.mem_map.mp hlabel
  exact exists_of_mem_toDigits (by decide) hmem

theorem splitOn_ipv4Text (n : Nat) : (ipv4Text n).toList.splitOn '.' = (ipv4Bytes n).map (Nat.toDigits 10) := by
  rw [toList_ipv4Text]
  refine List.splitOn_intercalate _ (fun label hlabel hpoint => ?_) (by simp [ipv4Bytes])
  obtain ⟨b, -, rfl⟩ := List.mem_map.mp hlabel
  have := Nat.isDigit_of_mem_toDigits (by decide) (by decide) hpoint
  revert this
  decide

theorem ipv4Text_ne_nil (n : Nat) : (ipv4Text n).toList ≠ [] := by
  intro hnil
  have hsplit := splitOn_ipv4Text n
  rw [hnil] at hsplit
  exact absurd (congrArg List.length hsplit) (by simp [ipv4Bytes])

theorem ipv4Number?_toDigits {n : Nat} (h : n < 256) : ipv4Number? (Nat.toDigits 10 n) = some n := by
  have hall : ∀ n < 256, ipv4Number? (Nat.toDigits 10 n) = some n := by decide +kernel
  exact hall n h

theorem ipv4OfNumbers?_of_bytes {a b c d : Nat} (ha : a < 256) (hb : b < 256) (hc : c < 256) (hd : d < 256) :
    ipv4OfNumbers? [a, b, c, d] = some (a * 16777216 + b * 65536 + c * 256 + d) := by
  have hleading : ([a, b, c].all (· < 256)) = true := by simp [ha, hb, hc]
  have hlength : [a, b, c].length = 3 := rfl
  have hlast : decide (d < Nat.pow 256 (4 - 3)) = true := decide_eq_true hd
  have hcount : decide ([a, b, c, d].length ≤ 4) = true := rfl
  have hdrop : [a, b, c, d].dropLast = [a, b, c] := rfl
  have hget : [a, b, c, d].getLastD 0 = d := rfl
  simp only [ipv4OfNumbers?, hdrop, hget, hleading, hlength, hlast, hcount, Bool.and_self, if_true, Option.some.injEq]
  -- Rewriting, since unfolding the fold would count the weights up in ones.
  rw [List.foldr_cons, List.foldr_cons, List.foldr_cons, List.foldr_nil]
  omega

theorem ipv4?_ipv4Text {n : Nat} (h : n < 4294967296) : ipv4? (ipv4Text n).toList = some n := by
  have hlast : ((ipv4Bytes n).map (Nat.toDigits 10)).getLastD [] ≠ [] := Nat.toDigits_ne_nil
  have hsum : n / 16777216 * 16777216 + n / 65536 % 256 * 65536 + n / 256 % 256 * 256 + n % 256 = n := by omega
  have hread : ((ipv4Bytes n).map (Nat.toDigits 10)).mapM ipv4Number? = some (ipv4Bytes n) :=
    mapM_map_eq_some fun b hb => ipv4Number?_toDigits (ipv4Bytes_lt h b hb)
  rw [ipv4?, splitOn_ipv4Text, if_neg hlast, hread, Option.bind_eq_bind, Option.bind_some, ipv4Bytes,
    ipv4OfNumbers?_of_bytes (by omega) (by omega) (by omega) (by omega), hsum]

theorem endsInNumber_ipv4Text (n : Nat) : endsInNumber (ipv4Text n).toList = true := by
  have hdigits : (Nat.toDigits 10 (n % 256)).all Char.isDigit = true := List.all_eq_true.mpr fun c hc =>
    Nat.isDigit_of_mem_toDigits (by decide) (by decide) hc
  obtain ⟨c, rest, hlabel⟩ := List.exists_cons_of_ne_nil (Nat.toDigits_ne_nil (n := n % 256) (b := 10))
  rw [endsInNumber, splitOn_ipv4Text]
  simp only [ipv4Bytes, List.map_cons, List.map_nil, List.reverse_cons, List.reverse_nil, List.nil_append,
    List.cons_append, hlabel]
  rw [← hlabel, hdigits]
  simp [hlabel]

theorem leading_add_pow_le {leading : List Nat} (hbytes : ∀ b ∈ leading, b < 256) (hlength : leading.length ≤ 3) :
    leading.foldr (fun n rest => n * 16777216 + rest / 256) 0 + 256 ^ (4 - leading.length) ≤ 4294967296 := by
  induction leading with
  | nil => decide
  | cons b rest ih =>
      obtain ⟨hb, hrest⟩ := List.forall_mem_cons.mp hbytes
      rw [List.length_cons] at hlength
      have hroom : 4 - rest.length = 4 - (rest.length + 1) + 1 := by omega
      have hle := ih hrest (by omega)
      rw [hroom, Nat.pow_succ] at hle
      rw [List.foldr_cons, List.length_cons]
      omega

theorem ipv4OfNumbers?_lt {numbers : List Nat} {n : Nat} (h : ipv4OfNumbers? numbers = some n) : n < 4294967296 := by
  obtain _ | ⟨a, rest⟩ := numbers
  · cases h
  simp only [ipv4OfNumbers?, Bool.and_eq_true, decide_eq_true_eq, List.all_eq_true, List.length_cons,
    Option.ite_none_right_eq_some, Option.some.injEq] at h
  obtain ⟨⟨⟨hlength, hleading⟩, hlast⟩, rfl⟩ := h
  have hle := leading_add_pow_le hleading (by rw [List.length_dropLast, List.length_cons]; omega)
  exact Nat.lt_of_lt_of_le (Nat.add_lt_add_left hlast _) hle

theorem ipv4?_lt {cs : List Char} {n : Nat} (h : ipv4? cs = some n) : n < 4294967296 := by
  obtain ⟨numbers, -, hnumbers⟩ := Option.bind_eq_some_iff.mp h
  exact ipv4OfNumbers?_lt hnumbers

/-! ### Version 6: what is read -/

theorem piece?_lt {label : List Char} {n : Nat} (h : piece? label = some n) : n < 65536 := by
  rw [piece?] at h
  split at h
  · rename_i hlabel
    obtain ⟨hdigits, rfl⟩ := number?_eq_some_iff.mp h
    have hlength : label.length ≤ 4 := of_decide_eq_true (Bool.and_eq_true_iff.mp hlabel).2
    calc number 16 label < 16 ^ label.length := number_lt hdigits (by decide)
      _ ≤ 16 ^ 4 := Nat.pow_le_pow_right (by decide) hlength
  · cases h

theorem byte?_lt {digits : List Char} {n : Nat} (h : byte? digits = some n) : n < 256 := by
  simp only [byte?, Bool.and_eq_true, decide_eq_true_eq, Option.ite_none_right_eq_some, Option.some.injEq] at h
  obtain ⟨⟨⟨-, hlt⟩, -⟩, rfl⟩ := h
  exact hlt

theorem embeddedIpv4?_lt {cs : List Char} {ns : List Nat} (h : embeddedIpv4? cs = some ns) : ∀ n ∈ ns, n < 65536 := by
  obtain ⟨bytes, hbytes, h⟩ := Option.bind_eq_some_iff.mp h
  split at h
  · rename_i a b c d
    obtain rfl := Option.some.inj h
    have hlt : ∀ n ∈ [a, b, c, d], n < 256 := fun n hn => by
      obtain ⟨label, -, hbyte⟩ := exists_of_mem_mapM hbytes hn
      exact byte?_lt hbyte
    simp only [List.forall_mem_cons] at hlt ⊢
    obtain ⟨ha, hb, hc, hd, -⟩ := hlt
    exact ⟨by omega, by omega, by simp⟩
  · cases h

theorem pieces?_lt {labels : List (List Char)} {ns : List Nat} (h : pieces? labels = some ns) :
    ∀ n ∈ ns, n < 65536 := by
  fun_induction pieces? labels generalizing ns with
  | case1 =>
      obtain rfl := Option.some.inj h
      simp
  | case2 label =>
      rcases Option.or_eq_some_iff.mp h with h | ⟨-, h⟩
      · obtain ⟨n, hn, rfl⟩ := Option.map_eq_some_iff.mp h
        simpa using piece?_lt hn
      · exact embeddedIpv4?_lt h
  | case3 label rest hrest ih =>
      simp only [Option.bind_eq_bind, Option.bind_eq_some_iff, Option.some.injEq] at h
      obtain ⟨n, hn, ns, hns, rfl⟩ := h
      exact List.forall_mem_cons.mpr ⟨piece?_lt hn, ih hns⟩

theorem ipv6?_bounds {cs : List Char} {ns : List Nat} (h : ipv6? cs = some ns) :
    ns.length = 8 ∧ ∀ n ∈ ns, n < 65536 := by
  rw [ipv6?] at h
  split at h
  · obtain ⟨pieces, hpieces, h⟩ := Option.bind_eq_some_iff.mp h
    split at h
    · rename_i hlength
      obtain rfl := Option.some.inj h
      exact ⟨hlength, pieces?_lt hpieces⟩
    · cases h
  · split at h
    · cases h
    simp only [Option.bind_eq_bind, Option.bind_eq_some_iff, Option.ite_none_right_eq_some, Option.some.injEq] at h
    obtain ⟨first, hfirst, last, hlast, hroom, rfl⟩ := h
    refine ⟨by simp; omega, fun n hn => ?_⟩
    rw [List.mem_append, List.mem_append, List.mem_replicate] at hn
    rcases hn with (hn | ⟨-, rfl⟩) | hn
    · exact pieces?_lt hfirst n hn
    · decide
    · exact pieces?_lt hlast n hn

/-! ### Version 6: what is written -/

theorem piece?_toDigits {n : Nat} (h : n < 65536) : piece? (Nat.toDigits 16 n) = some n := by
  have hlength : (Nat.toDigits 16 n).length ≤ 4 := (Nat.length_toDigits_le_iff (by decide) (by decide)).mpr h
  have hsome : (!(Nat.toDigits 16 n).isEmpty && decide ((Nat.toDigits 16 n).length ≤ 4)) = true := by
    simp [hlength]
  rw [piece?, if_pos hsome, number?_toDigits (by decide) (by decide)]

theorem pieces?_toDigits {ns : List Nat} (h : ∀ n ∈ ns, n < 65536) : pieces? (ns.map (Nat.toDigits 16)) = some ns := by
  induction ns with
  | nil => rfl
  | cons n rest ih =>
      obtain ⟨hn, hrest⟩ := List.forall_mem_cons.mp h
      cases rest with
      | nil => rw [List.map_singleton, pieces?, piece?_toDigits hn]; rfl
      | cons m more =>
          have hmore : (m :: more).map (Nat.toDigits 16) ≠ [] := List.cons_ne_nil _ _
          rw [List.map_cons, pieces?, piece?_toDigits hn, ih hrest]
          · rfl
          · exact hmore

/-- What stands before the first double colon goes on over a character that begins none. -/
theorem splitDoubleColon?_cons {c : Char} {rest : List Char} (h : ¬ (c = ':' ∧ rest.head? = some ':')) :
    splitDoubleColon? (c :: rest) = (splitDoubleColon? rest).map fun (before, after) => (c :: before, after) := by
  rw [splitDoubleColon?]
  rintro more rfl rfl
  exact h ⟨rfl, rfl⟩

theorem splitDoubleColon?_append {label : List Char} (h : ':' ∉ label) (rest : List Char) :
    splitDoubleColon? (label ++ rest)
      = (splitDoubleColon? rest).map fun (before, after) => (label ++ before, after) := by
  induction label with
  | nil => simp
  | cons c label ih =>
      rw [List.mem_cons, not_or] at h
      obtain ⟨hc, hlabel⟩ := h
      rw [List.cons_append, splitDoubleColon?_cons fun hcolon => hc hcolon.1.symm, ih hlabel, Option.map_map]
      rfl

/-- Labels with single colons between them belong to what stands before it. -/
theorem splitDoubleColon?_intercalate {labels : List (List Char)} (h : ∀ label ∈ labels, label ≠ [] ∧ ':' ∉ label)
    (rest : List Char) :
    splitDoubleColon? ([':'].intercalate labels ++ rest)
      = (splitDoubleColon? rest).map fun (before, after) => ([':'].intercalate labels ++ before, after) := by
  induction labels with
  | nil => simp
  | cons label more ih =>
      obtain ⟨⟨-, hlabel⟩, hmore⟩ := List.forall_mem_cons.mp h
      cases more with
      | nil => simpa using splitDoubleColon?_append hlabel rest
      | cons next others =>
          obtain ⟨hne, hnext⟩ := hmore next List.mem_cons_self
          have hsingle : ([':'].intercalate (next :: others) ++ rest).head? ≠ some ':' := by
            obtain ⟨c, cs, rfl⟩ := List.exists_cons_of_ne_nil hne
            obtain ⟨tail, htail⟩ := exists_intercalate_cons ':' (c :: cs) others
            rw [htail]
            rintro hc
            obtain rfl := Option.some.inj hc
            exact hnext List.mem_cons_self
          rw [List.intercalate_cons_cons, List.append_assoc, List.append_assoc, splitDoubleColon?_append hlabel,
            List.singleton_append, splitDoubleColon?_cons fun hcolon => hsingle hcolon.2, ih hmore, Option.map_map,
            Option.map_map]
          simp [Function.comp_def]

theorem colon_not_mem_toDigits (n : Nat) : ':' ∉ Nat.toDigits 16 n := by
  have hall : ∀ d < 16, ':' ≠ d.digitChar := by decide
  intro h
  obtain ⟨d, hd, heq⟩ := exists_of_mem_toDigits (by decide) h
  exact hall d hd heq

theorem toList_pieces (ns : List Nat) :
    (":".intercalate (ns.map pieceText)).toList = [':'].intercalate (ns.map (Nat.toDigits 16)) := by
  have hcolon : ":".toList = [':'] := rfl
  have hpiece : String.toList ∘ pieceText = Nat.toDigits 16 := funext fun n => String.toList_ofList
  rw [String.toList_intercalate, hcolon, List.map_map, hpiece]

theorem colonLabels_pieces (ns : List Nat) :
    colonLabels ([':'].intercalate (ns.map (Nat.toDigits 16))) = ns.map (Nat.toDigits 16) := by
  cases ns with
  | nil => rfl
  | cons n rest =>
      have hne : ([':'].intercalate ((n :: rest).map (Nat.toDigits 16))).isEmpty = false := by
        obtain ⟨tail, htail⟩ := exists_intercalate_cons ':' (Nat.toDigits 16 n) (rest.map (Nat.toDigits 16))
        rw [List.map_cons, htail]
        simp
      rw [colonLabels, hne, if_neg Bool.false_ne_true]
      refine List.splitOn_intercalate _ (fun label hlabel => ?_) (List.cons_ne_nil _ _)
      obtain ⟨n, -, rfl⟩ := List.mem_map.mp hlabel
      exact colon_not_mem_toDigits n

/-- The longest run of zeros stands where it is said to. -/
theorem longestZeros_spec (i : Nat) (ns : List Nat) (hlength : 0 < (longestZeros i ns).2) :
    ∃ before after, ns = before ++ List.replicate (longestZeros i ns).2 0 ++ after
      ∧ (longestZeros i ns).1 = i + before.length := by
  induction ns generalizing i with
  | nil => cases hlength
  | cons n rest ih =>
      simp only [longestZeros] at hlength ⊢
      split
      · rename_i hzeros
        have hrun : List.replicate (zeros (n :: rest)) 0 = (n :: rest).takeWhile (· == 0) := by
          refine (List.eq_replicate_iff.mpr ⟨rfl, fun m hm => ?_⟩).symm
          simpa using List.mem_takeWhile_imp hm
        refine ⟨[], (n :: rest).dropWhile (· == 0), ?_, rfl⟩
        rw [List.nil_append, hrun, List.takeWhile_append_dropWhile]
      · rename_i hzeros
        rw [if_neg hzeros] at hlength
        obtain ⟨before, after, hrest, hstart⟩ := ih (i + 1) hlength
        refine ⟨n :: before, after, ?_, ?_⟩
        · rw [List.cons_append, List.cons_append, ← hrest]
        · rw [hstart, List.length_cons]
          omega

theorem splitDoubleColon?_pieces (ns : List Nat) (rest : List Char) :
    splitDoubleColon? ([':'].intercalate (ns.map (Nat.toDigits 16)) ++ rest)
      = (splitDoubleColon? rest).map fun (before, after) =>
          ([':'].intercalate (ns.map (Nat.toDigits 16)) ++ before, after) := by
  refine splitDoubleColon?_intercalate (fun label hlabel => ?_) rest
  obtain ⟨n, -, rfl⟩ := List.mem_map.mp hlabel
  exact ⟨Nat.toDigits_ne_nil, colon_not_mem_toDigits n⟩

theorem ipv6?_of_all {ns : List Nat} (hlength : ns.length = 8) (hbound : ∀ n ∈ ns, n < 65536) :
    ipv6? ([':'].intercalate (ns.map (Nat.toDigits 16))) = some ns := by
  have hnone := splitDoubleColon?_pieces ns []
  rw [List.append_nil] at hnone
  rw [ipv6?, hnone, splitDoubleColon?, Option.map_none]
  simp only [colonLabels_pieces, pieces?_toDigits hbound, Option.bind_eq_bind, Option.bind_some, hlength, if_true]

theorem ipv6?_of_shortened {before after : List Nat} {length : Nat} (hlength : 0 < length)
    (hcount : before.length + length + after.length = 8) (hbefore : ∀ n ∈ before, n < 65536)
    (hafter : ∀ n ∈ after, n < 65536) :
    ipv6? ([':'].intercalate (before.map (Nat.toDigits 16)) ++ "::".toList
        ++ [':'].intercalate (after.map (Nat.toDigits 16)))
      = some (before ++ List.replicate length 0 ++ after) := by
  have hcolons : "::".toList = [':', ':'] := rfl
  have hplain : (before.map (Nat.toDigits 16)).all isPlainPiece = true := by
    rw [List.all_map, List.all_eq_true]
    intro n hn
    simp [isPlainPiece, piece?_toDigits (hbefore n hn)]
  have hroom : before.length + after.length ≤ 7 := by omega
  have hrest : 8 - before.length - after.length = length := by omega
  rw [List.append_assoc, hcolons, ipv6?, splitDoubleColon?_pieces, List.cons_append, List.cons_append, List.nil_append,
    splitDoubleColon?]
  simp only [Option.map_some, List.append_nil, colonLabels_pieces, hplain, Bool.not_true, Bool.false_eq_true, if_false,
    pieces?_toDigits hbefore, pieces?_toDigits hafter, Option.bind_eq_bind, Option.bind_some, hroom, if_true, hrest]

theorem mem_pieces {ns : List Nat} {c : Char} (h : c ∈ [':'].intercalate (ns.map (Nat.toDigits 16))) :
    c = ':' ∨ ∃ n, c ∈ Nat.toDigits 16 n := by
  refine (mem_intercalate h).imp_right fun ⟨label, hlabel, hmem⟩ => ?_
  obtain ⟨n, -, rfl⟩ := List.mem_map.mp hlabel
  exact ⟨n, hmem⟩

theorem mem_ipv6Text {ns : List Nat} {c : Char} (h : c ∈ (ipv6Text ns).toList) :
    c = ':' ∨ ∃ n, c ∈ Nat.toDigits 16 n := by
  have hcolons : "::".toList = [':', ':'] := rfl
  obtain ⟨⟨start, length⟩, hrun⟩ : ∃ run, longestZeros 0 ns = run := ⟨_, rfl⟩
  rw [ipv6Text, hrun] at h
  by_cases hshort : length < 2
  · simp only [hshort, if_true, toList_pieces] at h
    exact mem_pieces h
  · simp only [hshort, if_false, String.toList_append, toList_pieces, hcolons, List.mem_append, List.mem_cons,
      List.not_mem_nil, or_false, or_self] at h
    rcases h with (h | h) | h
    · exact mem_pieces h
    · exact .inl h
    · exact mem_pieces h

/-- A version 6 address reads back from its text. -/
theorem ipv6?_ipv6Text {ns : List Nat} (hlength : ns.length = 8) (hbound : ∀ n ∈ ns, n < 65536) :
    ipv6? (ipv6Text ns).toList = some ns := by
  obtain ⟨⟨start, length⟩, hrun⟩ : ∃ run, longestZeros 0 ns = run := ⟨_, rfl⟩
  rw [ipv6Text, hrun]
  by_cases hshort : length < 2
  · simp only [hshort, if_true, toList_pieces]
    exact ipv6?_of_all hlength hbound
  · obtain ⟨before, after, hns, hstart⟩ := longestZeros_spec 0 ns (by rw [hrun]; omega)
    rw [hrun, Nat.zero_add] at hstart
    rw [hrun] at hns
    simp only at hns hstart
    subst hns
    have htake : (before ++ List.replicate length 0 ++ after).take start = before := by
      rw [List.append_assoc, List.take_left' hstart.symm]
    have hdrop : (before ++ List.replicate length 0 ++ after).drop (start + length) = after :=
      List.drop_left' (by simp [hstart])
    simp only [List.length_append, List.length_replicate] at hlength
    simp only [hshort, if_false, String.toList_append, toList_pieces, htake, hdrop]
    refine ipv6?_of_shortened (by omega) hlength (fun n hn => hbound n ?_) fun n hn => hbound n ?_
    · exact List.mem_append_left _ (List.mem_append_left _ hn)
    · exact List.mem_append_right _ hn

end AgentDelegation.Url

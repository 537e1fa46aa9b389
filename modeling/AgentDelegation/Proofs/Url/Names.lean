import AgentDelegation.Proofs.Url.Composed
import AgentDelegation.Proofs.Url.Forms
import AgentDelegation.Proofs.Url.Punycode
import AgentDelegation.Url.Domain.Name

/-!
# Domain names read again

The form of a name in ASCII holds no character that a name may not hold, so it can stand in an address. Read
again it is taken as it is: the letters of its labels are in the form in which names are compared, so a label in
Punycode is read as the letters it was written from. The one exception is a label so long that it is written and not
read (`ascii?_ascii?`).
-/

namespace AgentDelegation.Url

open Text CodePoints

namespace Domain

/-- The characters of names in ASCII. -/
def isNameChar (c : Char) : Bool := c.toNat < 128 && !isDenied c

/-! ### What a form in ASCII holds -/

theorem isNameChar_of_mem_encode {letters : List Char} (h : ∀ c ∈ letters, isDenied c = false) :
    ∀ c ∈ Punycode.encode letters, isNameChar c = true := by
  have hdigits : ∀ n < 36, isNameChar (Punycode.digitChar n) = true := by decide
  intro c hc
  rcases Punycode.mem_encode hc with ⟨hmem, hbasic⟩ | rfl | ⟨n, hn, rfl⟩
  · rw [isNameChar, h c hmem, Bool.not_false, Bool.and_true]
    exact hbasic
  · decide
  · exact hdigits n hn

theorem isNameChar_of_mem_asciiLabel {letters : List Char} (h : isLabel letters = true) :
    ∀ c ∈ asciiLabel letters, isNameChar c = true := by
  have hdenied : ∀ c ∈ letters, isDenied c = false := by
    simp only [isLabel, Bool.and_eq_true, Bool.not_eq_true', List.any_eq_false, Bool.not_eq_true] at h
    exact h.1.1.1
  intro c hc
  rw [asciiLabel] at hc
  split at hc
  · rename_i hascii
    rw [isNameChar, hdenied c hc, Bool.not_false, Bool.and_true]
    exact List.all_eq_true.mp hascii c hc
  · rcases List.mem_append.mp hc with hc | hc
    · have hmark : ∀ c ∈ encodedMark, isNameChar c = true := List.all_eq_true.mp (by decide)
      exact hmark c hc
    · exact isNameChar_of_mem_encode hdenied c hc

theorem exists_labels {cs name : List Char} (h : ascii? cs = some name) :
    ∃ text labels, folded? cs = some text ∧ (text.splitOn '.').mapM letters? = some labels
      ∧ (labels.all isLabel && (labels.all isOrderly || !labels.any (·.any turns))) = true
      ∧ name = ['.'].intercalate (labels.map asciiLabel) := by
  simp only [ascii?, Option.bind_eq_bind, Option.bind_eq_some_iff] at h
  obtain ⟨text, htext, labels, hletters, h⟩ := h
  split at h
  · rename_i hlabels
    exact ⟨text, labels, htext, hletters, hlabels, (Option.some.inj h).symm⟩
  · cases h

theorem isNameChar_of_ascii? {cs name : List Char} (h : ascii? cs = some name) : ∀ c ∈ name, isNameChar c = true := by
  obtain ⟨-, labels, -, -, hlabels, rfl⟩ := exists_labels h
  intro c hc
  rcases mem_intercalate hc with rfl | ⟨label, hlabel, hmem⟩
  · decide
  · obtain ⟨letters, hletters, rfl⟩ := List.mem_map.mp hlabel
    have hall : labels.all isLabel = true := (Bool.and_eq_true_iff.mp hlabels).1
    exact isNameChar_of_mem_asciiLabel (List.all_eq_true.mp hall letters hletters) c hmem

/-! ### Folded texts -/

theorem folded?_of_self {cs : List Char} (h : ∀ c ∈ cs, form? c = some [c]) (hcomposed : composed cs = cs) :
    folded? cs = some cs := by
  have hjoin : (cs.map ([·])).flatten = cs := by
    rw [← List.flatMap_def, List.flatMap_singleton']
  have hforms : cs.mapM form? = some (cs.map ([·])) := mapM_eq_some_map h
  rw [folded?, hforms]
  simp only [Option.bind_eq_bind, Option.bind_some, hjoin, hcomposed]

theorem folded?_of_ascii {cs : List Char} (hascii : ∀ c ∈ cs, c.toNat < 128) (hcapital : ∀ c ∈ cs, c.isUpper = false) :
    folded? cs = some cs := by
  refine folded?_of_self (fun c hc => form?_of_ascii (hascii c hc) (hcapital c hc)) ?_
  rw [composed_eq]
  exact normal_of_free fun c hc => isFree_of_ascii (hascii c hc)

/-- A folded text stands for itself. -/
theorem of_folded? {cs text : List Char} (h : folded? cs = some text) :
    (∀ c ∈ text, form? c = some [c]) ∧ composed text = text := by
  obtain ⟨forms, hforms, htext⟩ := Option.bind_eq_some_iff.mp h
  obtain rfl := Option.some.inj htext
  refine ⟨?_, composed_composed _⟩
  have hself : ∀ c ∈ forms.flatten, form? c = some [c] := by
    intro c hc
    obtain ⟨form, hform, hmem⟩ := List.mem_flatten.mp hc
    obtain ⟨d, -, hd⟩ := exists_of_mem_mapM hforms hform
    exact form?_of_mem_form? hd c hmem
  intro c hc
  rw [composed_eq] at hc
  rcases mem_normal hc with ⟨d, hd, hpart⟩ | ⟨a, b, hcomposite⟩
  · exact form?_of_mem_takeApart (hself d hd) c hpart
  · exact form?_of_composite? hcomposite

theorem folded?_of_mem_splitOn {cs text label : List Char} (h : folded? cs = some text)
    (hlabel : label ∈ text.splitOn '.') : folded? label = some label := by
  obtain ⟨hself, hcomposed⟩ := of_folded? h
  exact folded?_of_self (fun c hc => hself c (mem_of_mem_splitOn hlabel hc)) (composed_of_mem_splitOn hcomposed hlabel)

theorem not_isUpper_of_form? {c : Char} (h : form? c = some [c]) : c.isUpper = false := by
  by_contra hcapital
  have hcapital : c.isUpper = true := by simpa using hcapital
  obtain ⟨-, hlast⟩ := isUpper_iff.mp hcapital
  rw [form?, if_pos (by omega)] at h
  have hsame : c.toLower = c := by simpa using h
  have := toNat_toLower hcapital
  rw [hsame] at this
  omega

/-! ### Letters -/

/-- The letters of a label: they are folded, and not to be read as Punycode. -/
structure IsLetters (letters : List Char) : Prop where
  folded : folded? letters = some letters
  point : '.' ∉ letters
  unmarked : isAscii letters = true → encodedMark.isPrefixOf letters = false

theorem isLetters_of_letters? {label letters : List Char} (hlabel : folded? label = some label) (hpoint : '.' ∉ label)
    (h : letters? label = some letters) : IsLetters letters := by
  rw [letters?] at h
  split at h
  · rw [decoded?] at h
    split at h
    · cases h
    rename_i hencoded
    obtain ⟨decoded, hdecode, h⟩ := Option.bind_eq_some_iff.mp h
    split at h
    · rename_i hfolded
      obtain rfl := Option.some.inj h
      obtain ⟨hfolded, hpoint⟩ := Bool.and_eq_true_iff.mp hfolded
      have hlast : (label.drop encodedMark.length).getLast?.all (· == '-') = false := by
        simp only [Bool.or_eq_true, not_or, Bool.not_eq_true] at hencoded
        exact hencoded.1.1
      obtain ⟨c, hc, hother⟩ := Punycode.exists_other_of_decode? hdecode hlast
      refine ⟨of_decide_eq_true hfolded, by simpa using hpoint, fun hascii => ?_⟩
      have hbasic := List.all_eq_true.mp hascii c hc
      rw [Punycode.isBasic] at hother
      rw [hother] at hbasic
      cases hbasic
    · cases h
  · rename_i hmark
    obtain rfl := Option.some.inj h
    exact ⟨hlabel, hpoint, fun _ => Bool.eq_false_of_not_eq_true hmark⟩

theorem form?_of_folded {letters : List Char} (h : folded? letters = some letters) :
    ∀ c ∈ letters, form? c = some [c] :=
  (of_folded? h).1

theorem not_isUpper_of_mem_asciiLabel {letters : List Char} (h : folded? letters = some letters) :
    ∀ c ∈ asciiLabel letters, c.isUpper = false := by
  have hletters : ∀ c ∈ letters, c.isUpper = false := fun c hc => not_isUpper_of_form? (form?_of_folded h c hc)
  have hdigits : ∀ n < 36, (Punycode.digitChar n).isUpper = false := by decide
  intro c hc
  rw [asciiLabel] at hc
  split at hc
  · exact hletters c hc
  · rcases List.mem_append.mp hc with hc | hc
    · have hmark : ∀ c ∈ encodedMark, (!c.isUpper) = true := List.all_eq_true.mp (by decide)
      simpa using hmark c hc
    · rcases Punycode.mem_encode hc with ⟨hmem, -⟩ | rfl | ⟨n, hn, rfl⟩
      · exact hletters c hmem
      · rfl
      · exact hdigits n hn

theorem point_not_mem_asciiLabel {letters : List Char} (h : '.' ∉ letters) : '.' ∉ asciiLabel letters := by
  have hdigits : ∀ n < 36, '.' ≠ Punycode.digitChar n := by decide
  intro hmem
  rw [asciiLabel] at hmem
  split at hmem
  · exact h hmem
  · rcases List.mem_append.mp hmem with hmem | hmem
    · exact absurd hmem (by decide)
    · rcases Punycode.mem_encode hmem with ⟨hmem, -⟩ | hhyphen | ⟨n, hn, hdigit⟩
      · exact h hmem
      · exact absurd hhyphen (by decide)
      · exact hdigits n hn hdigit

/-- Whether a label in Punycode is short enough to be read. -/
def isReadable (label : List Char) : Bool :=
  !encodedMark.isPrefixOf label || (label.drop encodedMark.length).length ≤ 2000

theorem isLabel_length {letters : List Char} (h : isLabel letters = true) (hother : isAscii letters = false) :
    letters.length ≤ 1000 := by
  rw [isLabel, Bool.and_eq_true, hother, Bool.false_or, decide_eq_true_eq] at h
  exact h.2

theorem isAscii_of_nameChars {cs : List Char} (h : ∀ c ∈ cs, isNameChar c = true) : isAscii cs = true :=
  List.all_eq_true.mpr fun c hc => (Bool.and_eq_true_iff.mp (h c hc)).1

/-- A label is read as its letters. -/
theorem letters?_asciiLabel {letters : List Char} (h : IsLetters letters) (hlabel : isLabel letters = true)
    (hreadable : isReadable (asciiLabel letters) = true) : letters? (asciiLabel letters) = some letters := by
  have hchars := isNameChar_of_mem_asciiLabel hlabel
  rw [asciiLabel] at hreadable hchars ⊢
  by_cases hascii : isAscii letters = true
  · rw [if_pos hascii, letters?, h.unmarked hascii]
    rfl
  · rw [if_neg hascii] at hreadable hchars ⊢
    have hlength := isLabel_length hlabel (by simpa using hascii)
    obtain ⟨c, hc, hother⟩ : ∃ c ∈ letters, Punycode.isBasic c = false := by
      simpa [isAscii, Punycode.isBasic] using hascii
    obtain ⟨d, hd, hlast⟩ := Punycode.getLast?_encode hlength ⟨c, hc, hother⟩
    have hmark : encodedMark.isPrefixOf (encodedMark ++ Punycode.encode letters) = true := by simp
    have hshort : ¬ 2000 < (Punycode.encode letters).length := by
      rw [isReadable, hmark, Bool.not_true, Bool.false_or, List.drop_left, decide_eq_true_eq] at hreadable
      exact Nat.not_lt_of_le hreadable
    have hencoded : isAscii (Punycode.encode letters) = true :=
      isAscii_of_nameChars fun c hc => hchars c (List.mem_append_right _ hc)
    have hend : (Punycode.encode letters).getLast?.all (· == '-') = false := by
      rw [hlast]
      exact beq_false_of_ne (Punycode.digitChar_ne_hyphen hd)
    rw [letters?, if_pos hmark, List.drop_left, decoded?]
    rw [hend, hencoded, decide_eq_false hshort, Punycode.decode?_encode hlength]
    simp [h.folded, h.point]

section

variable {cs name : List Char} (h : ascii? cs = some name)
include h

/-- The labels of a name in ASCII, from their letters. -/
theorem exists_letters :
    ∃ labels : List (List Char), name.splitOn '.' = labels.map asciiLabel ∧ (∀ letters ∈ labels, IsLetters letters)
      ∧ (labels.all isLabel && (labels.all isOrderly || !labels.any (·.any turns))) = true := by
  obtain ⟨text, labels, htext, hletters, hlabels, rfl⟩ := exists_labels h
  have his : ∀ letters ∈ labels, IsLetters letters := fun letters hmem => by
    obtain ⟨label, hlabel, hread⟩ := exists_of_mem_mapM hletters hmem
    exact isLetters_of_letters? (folded?_of_mem_splitOn htext hlabel) (not_mem_of_mem_splitOn hlabel) hread
  have hne : labels.map asciiLabel ≠ [] := by
    obtain ⟨first, rest, hcut⟩ := List.exists_cons_of_ne_nil (List.splitOn_ne_nil '.' text)
    rw [hcut, List.mapM_cons] at hletters
    obtain ⟨letters, -, hrest⟩ := Option.bind_eq_some_iff.mp hletters
    obtain ⟨more, -, hlabels⟩ := Option.bind_eq_some_iff.mp hrest
    obtain rfl := Option.some.inj hlabels
    exact List.cons_ne_nil _ _
  refine ⟨labels, List.splitOn_intercalate _ ?_ hne, his, hlabels⟩
  rw [List.forall_mem_map]
  exact fun letters hmem => point_not_mem_asciiLabel (his letters hmem).point

theorem folded?_of_ascii? : folded? name = some name := by
  obtain ⟨labels, hsplit, his, -⟩ := exists_letters h
  have hchars := isNameChar_of_ascii? h
  refine folded?_of_ascii (fun c hc => of_decide_eq_true (Bool.and_eq_true_iff.mp (hchars c hc)).1) fun c hc => ?_
  have hjoin : ['.'].intercalate (name.splitOn '.') = name := List.intercalate_splitOn '.'
  rw [← hjoin, hsplit] at hc
  rcases mem_intercalate hc with rfl | ⟨label, hlabel, hmem⟩
  · rfl
  · obtain ⟨letters, hletters, rfl⟩ := List.mem_map.mp hlabel
    exact not_isUpper_of_mem_asciiLabel (his letters hletters).folded c hmem

/-- A name in ASCII is its own form in ASCII, but for labels too long to be read. -/
theorem ascii?_ascii? (hreadable : ∀ label ∈ name.splitOn '.', isReadable label = true) : ascii? name = some name := by
  obtain ⟨labels, hsplit, his, hlabels⟩ := exists_letters h
  have hall : ∀ letters ∈ labels, isLabel letters = true :=
    List.all_eq_true.mp (Bool.and_eq_true_iff.mp hlabels).1
  rw [hsplit, List.forall_mem_map] at hreadable
  have hread : (labels.map asciiLabel).mapM letters? = some labels :=
    mapM_map_eq_some fun letters hmem =>
      letters?_asciiLabel (his letters hmem) (hall letters hmem) (hreadable letters hmem)
  rw [ascii?, folded?_of_ascii? h]
  simp only [Option.bind_eq_bind, Option.bind_some, hsplit, hread]
  rw [if_pos hlabels, ← hsplit, List.intercalate_splitOn]

theorem ascii?_of_unreadable {label : List Char} (hlabel : label ∈ name.splitOn '.')
    (hlong : isReadable label = false) : ascii? name = none := by
  obtain ⟨hmark, hlength⟩ : encodedMark.isPrefixOf label = true ∧ 2000 < (label.drop encodedMark.length).length := by
    rw [isReadable, Bool.or_eq_false_iff, Bool.not_eq_false', decide_eq_false_iff_not, Nat.not_le] at hlong
    exact hlong
  have hnone : letters? label = none := by
    rw [letters?, if_pos hmark, decoded?, decide_eq_true hlength]
    simp
  rw [ascii?, folded?_of_ascii? h]
  simp only [Option.bind_eq_bind, Option.bind_some, mapM_eq_none hlabel hnone, Option.bind_none]

end

/-! ### Plain names -/

/-- A name without capital letters and without a label in Punycode. -/
def isPlain (name : List Char) : Bool :=
  name.all (!·.isUpper) && (name.splitOn '.').all (!encodedMark.isPrefixOf ·)

/-- Characters that are no marks and turn nothing: those in ASCII, and ideographs. -/
def still : Nat := anyOf [between 0 127, ideographs]

theorem still_apart :
    ofRanges nonspacingMarks &&& still = 0 ∧ ofRanges spacingMarks &&& still = 0
      ∧ ofRanges rightToLeft &&& still = 0 ∧ ofRanges arabicDigits &&& still = 0 := by
  decide +kernel

theorem still_of_ascii {c : Char} (h : c.toNat < 128) : still.testBit c.toNat = true :=
  testBit_anyOf List.mem_cons_self (testBit_between.mpr ⟨Nat.zero_le _, Nat.le_of_lt_succ h⟩)

theorem inRanges_of_still {table : List (Nat × Nat)} (h : ofRanges table &&& still = 0) {c : Char}
    (hc : still.testBit c.toNat = true) : inRanges table c = false := by
  rw [inRanges_eq]
  exact testBit_of_disjoint (Nat.and_comm _ _ ▸ h) hc

theorem isMark_of_still {c : Char} (hc : still.testBit c.toNat = true) : isMark c = false := by
  rw [isMark, isNonspacing, inRanges_of_still still_apart.1 hc, inRanges_of_still still_apart.2.1 hc]
  rfl

theorem turns_of_still {c : Char} (hc : still.testBit c.toNat = true) : turns c = false := by
  have hright : inRanges rightToLeft c = false := inRanges_of_still still_apart.2.2.1 hc
  have harabic : inRanges arabicDigits c = false := inRanges_of_still still_apart.2.2.2 hc
  rw [turns, Direction.of, hright, harabic, if_neg Bool.false_ne_true]
  by_cases heuropean : inRanges europeanDigits c = true
  · rw [if_pos heuropean]
  · rw [if_neg heuropean, if_neg Bool.false_ne_true]
    split_ifs <;> rfl

theorem joinersShow_of_still {cs : List Char} (h : ∀ c ∈ cs, still.testBit c.toNat = true) (before : List Char) :
    joinersShow before cs = true := by
  have hjoiners : still.testBit joiner.toNat = false ∧ still.testBit separator.toNat = false := by decide +kernel
  induction cs generalizing before with
  | nil => rfl
  | cons c rest ih =>
      obtain ⟨hc, hrest⟩ := List.forall_mem_cons.mp h
      have hjoiner : c ≠ joiner := by
        rintro rfl
        rw [hjoiners.1] at hc
        cases hc
      have hseparator : c ≠ separator := by
        rintro rfl
        rw [hjoiners.2] at hc
        cases hc
      rw [joinersShow, if_neg hjoiner, if_neg hseparator, ih hrest]
      rfl

theorem isLabel_of_still {label : List Char} (h : ∀ c ∈ label, still.testBit c.toNat = true)
    (hdenied : ∀ c ∈ label, isDenied c = false) (hlength : isAscii label = true ∨ label.length ≤ 1000) :
    isLabel label = true := by
  have hdenied : label.any isDenied = false := by simpa [List.any_eq_false] using hdenied
  have hmark : label.head?.any isMark = false := by
    cases label with
    | nil => rfl
    | cons c rest => exact isMark_of_still (h c List.mem_cons_self)
  rw [isLabel, hdenied, hmark, joinersShow_of_still h]
  simpa using hlength

/-- A plain name is its own form in ASCII. -/
theorem ascii?_of_plain {name : List Char} (hchars : ∀ c ∈ name, isNameChar c = true) (hplain : isPlain name = true) :
    ascii? name = some name := by
  have hascii : ∀ c ∈ name, c.toNat < 128 := fun c hc =>
    of_decide_eq_true (Bool.and_eq_true_iff.mp (hchars c hc)).1
  rw [isPlain, Bool.and_eq_true, List.all_eq_true] at hplain
  obtain ⟨hcapital, hlabels⟩ := hplain
  have hread : (name.splitOn '.').mapM letters? = some (name.splitOn '.') := by
    refine (mapM_eq_some_map fun label hlabel => ?_).trans (congrArg some (List.map_id _))
    have hmark : encodedMark.isPrefixOf label = false := by
      simpa using List.all_eq_true.mp hlabels label hlabel
    rw [letters?, hmark]
    exact if_neg Bool.false_ne_true
  have hfolded : folded? name = some name :=
    folded?_of_ascii hascii fun c hc => by simpa using hcapital c hc
  have hpiece : ∀ label ∈ name.splitOn '.', ∀ c ∈ label, c ∈ name := fun label hlabel c hc =>
    mem_of_mem_splitOn hlabel hc
  have hstill : ∀ label ∈ name.splitOn '.', ∀ c ∈ label, still.testBit c.toNat = true := fun label hlabel c hc =>
    still_of_ascii (hascii c (hpiece label hlabel c hc))
  have hisLabel : (name.splitOn '.').all isLabel = true := List.all_eq_true.mpr fun label hlabel => by
    refine isLabel_of_still (hstill label hlabel) (fun c hc => ?_) (.inl (isAscii_of_nameChars fun c hc => ?_))
    · simpa using (Bool.and_eq_true_iff.mp (hchars c (hpiece label hlabel c hc))).2
    · exact hchars c (hpiece label hlabel c hc)
  have hturns : (name.splitOn '.').any (·.any turns) = false := by
    simp only [List.any_eq_false, Bool.not_eq_true]
    intro label hlabel c hc
    exact turns_of_still (hstill label hlabel c hc)
  have hmap : (name.splitOn '.').map asciiLabel = name.splitOn '.' := by
    refine List.map_congr_left (fun label hlabel => ?_) |>.trans (List.map_id _)
    refine if_pos (List.all_eq_true.mpr fun c hc => ?_)
    exact decide_eq_true (hascii c (hpiece label hlabel c hc))
  rw [ascii?, hfolded]
  simp only [Option.bind_eq_bind, Option.bind_some, hread, hisLabel, hturns, hmap,
    List.intercalate_splitOn]
  simp

end Domain

end AgentDelegation.Url

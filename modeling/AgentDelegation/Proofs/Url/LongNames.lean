import AgentDelegation.Proofs.Url.Addresses

/-!
# Names too long to be read again

A label may have up to a thousand letters, but Punycode of more than two thousand characters is not read. Letters
far from one another take three digits each, so there are labels that are written and not read: an address at
such a host is read from the letters of its name, and not from its own text (`not_hostKept_of_letters`).
-/

namespace AgentDelegation.Url

open Text CodePoints Domain

/-! ### The length of a label in Punycode -/

namespace Punycode

theorem length_digits_pos {bias place distance : Nat} : 0 < (digits bias place distance).length := by
  rw [digits]
  split
  · exact Nat.one_pos
  · exact Nat.succ_pos _

/-- No digit counts for more than in base thirty-six. -/
theorem lt_length_digits {n bias place distance : Nat} (h : 26 * 36 ^ n ≤ distance) :
    n + 1 < (digits bias place distance).length := by
  induction n generalizing place distance with
  | zero =>
      have hlarge : ¬ distance < threshold place bias := by
        have := threshold_le place bias
        omega
      rw [digits, if_neg hlarge, List.length_cons]
      exact Nat.succ_lt_succ length_digits_pos
  | succ n ih =>
      have hpow : 0 < 36 ^ n := Nat.pow_pos (by decide)
      have hle := threshold_le place bias
      have hlarge : ¬ distance < threshold place bias := by
        rw [Nat.pow_succ] at h
        omega
      rw [digits, if_neg hlarge, List.length_cons]
      refine Nat.succ_lt_succ (ih ?_)
      rw [Nat.le_div_iff_mul_le (by omega)]
      generalize threshold place bias = t at hle
      have hsplit : 26 * 36 ^ n * (36 - t) + 26 * 36 ^ n * t = 26 * 36 ^ (n + 1) := by
        rw [← Nat.mul_add, Nat.sub_add_cancel (by omega), Nat.pow_succ, Nat.mul_assoc]
      have hdigit : t ≤ 26 * 36 ^ n * t := Nat.le_mul_of_pos_left t (by omega)
      omega

/-- Nothing that is written is taken back. -/
structure Writing.Extends (w before : Writing) : Prop where
  text : before.text.length ≤ w.text.length
  count : before.count ≤ w.count

theorem Writing.extends_pass (basic codePoint : Nat) (w : Writing) (c : Char) :
    (w.pass basic codePoint c).Extends w := by
  rw [pass]
  split
  · exact ⟨Nat.le_refl _, Nat.le_refl _⟩
  · split
    · refine ⟨?_, Nat.le_succ _⟩
      rw [List.length_append]
      exact Nat.le_add_right _ _
    · exact ⟨Nat.le_refl _, Nat.le_refl _⟩

theorem Writing.extends_foldl_pass (basic codePoint : Nat) (w : Writing) (cs : List Char) :
    (cs.foldl (pass basic codePoint) w).Extends w := by
  induction cs generalizing w with
  | nil => exact ⟨Nat.le_refl _, Nat.le_refl _⟩
  | cons c rest ih =>
      have hfirst := extends_pass basic codePoint w c
      have hrest := ih (w.pass basic codePoint c)
      exact ⟨Nat.le_trans hfirst.text hrest.text, Nat.le_trans hfirst.count hrest.count⟩

/-- A code point of the text is written, and if it is far from the one before, in three digits at least. -/
theorem lt_foldl_pass (basic : Nat) {codePoint : Nat} {cs : List Char} (hmem : codePoint ∈ cs.map Char.toNat)
    (w : Writing) :
    w.count < (cs.foldl (Writing.pass basic codePoint) w).count
      ∧ (936 ≤ w.distance → w.text.length + 3 ≤ (cs.foldl (Writing.pass basic codePoint) w).text.length) := by
  induction cs generalizing w with
  | nil => cases hmem
  | cons c rest ih =>
      rw [List.foldl_cons]
      by_cases hsame : c.toNat = codePoint
      · have hwritten : (w.pass basic codePoint c).count = w.count + 1
            ∧ (w.pass basic codePoint c).text = w.text ++ digits w.bias 36 w.distance := by
          rw [Writing.pass, if_neg (by omega), if_pos hsame]
          exact ⟨rfl, rfl⟩
        have hrest := Writing.extends_foldl_pass basic codePoint (w.pass basic codePoint c) rest
        refine ⟨?_, fun hfar => Nat.le_trans ?_ hrest.text⟩
        · exact Nat.lt_of_lt_of_le (by rw [hwritten.1]; exact Nat.lt_succ_self _) hrest.count
        · rw [hwritten.2, List.length_append]
          exact Nat.add_le_add_left (lt_length_digits (n := 1) hfar) _
      · have hmore : codePoint ∈ rest.map Char.toNat :=
          (List.mem_cons.mp hmem).resolve_left (Ne.symm hsame)
        have hpassed : (w.pass basic codePoint c).count = w.count ∧ (w.pass basic codePoint c).text = w.text
            ∧ w.distance ≤ (w.pass basic codePoint c).distance := by
          rw [Writing.pass, if_neg hsame]
          split
          · exact ⟨rfl, rfl, Nat.le_succ _⟩
          · exact ⟨rfl, rfl, Nat.le_refl _⟩
        obtain ⟨hcount, htext, hdistance⟩ := hpassed
        have hrest := ih hmore (w.pass basic codePoint c)
        rw [hcount, htext] at hrest
        exact ⟨hrest.1, fun hfar => hrest.2 (Nat.le_trans hfar hdistance)⟩

section

variable {cs : List Char} (basic : Nat) {next : Nat}

/-- A code point sixty above the one before is far from it once fifteen are written. -/
theorem exists_place_cons {codePoint : Nat} (hmem : codePoint ∈ cs.map Char.toNat) (hnext : next + 59 ≤ codePoint)
    (rest : List Nat) (w : Writing) :
    ∃ passed : Writing, place cs basic (codePoint :: rest) next w = place cs basic rest (codePoint + 1) passed
      ∧ passed.Extends w ∧ w.count < passed.count ∧ (15 ≤ w.count → w.text.length + 3 ≤ passed.text.length) := by
  have hdistance : 59 * (w.count + 1) ≤ (codePoint - next) * (w.count + 1) := Nat.mul_le_mul_right _ (by omega)
  obtain ⟨hcount, htext⟩ := lt_foldl_pass basic hmem
    { w with distance := w.distance + (codePoint - next) * (w.count + 1) }
  have hkept := Writing.extends_foldl_pass basic codePoint
    { w with distance := w.distance + (codePoint - next) * (w.count + 1) } cs
  refine ⟨_, rfl, ⟨hkept.text, hkept.count⟩, hcount, fun hfifteen => htext ?_⟩
  dsimp only
  omega

theorem length_text_place {others : List Nat} {w : Writing} (hmem : ∀ n ∈ others, n ∈ cs.map Char.toNat)
    (hnext : ∀ n ∈ others, next + 59 ≤ n) (hapart : others.Pairwise (· + 60 ≤ ·)) :
    w.text.length + 3 * (w.count + others.length)
      ≤ (place cs basic others next w).text.length + 3 * max 15 w.count := by
  induction others generalizing next w with
  | nil =>
      rw [place, List.length_nil]
      omega
  | cons codePoint rest ih =>
      obtain ⟨hcode, hmem⟩ := List.forall_mem_cons.mp hmem
      obtain ⟨hmore, hapart⟩ := List.pairwise_cons.mp hapart
      obtain ⟨passed, heq, hkept, hcount, htext⟩ :=
        exists_place_cons basic hcode (hnext codePoint List.mem_cons_self) rest w
      have hnext : ∀ n ∈ rest, codePoint + 1 + 59 ≤ n := fun n hn => hmore n hn
      have hrest : passed.text.length + 3 * (passed.count + rest.length)
          ≤ (place cs basic rest (codePoint + 1) passed).text.length + 3 * max 15 passed.count := ih hmem hnext hapart
      have hlength := hkept.text
      rw [heq, List.length_cons]
      omega

end

theorem foldr_insertDistinct_of_pairwise {ns : List Nat} (h : ns.Pairwise (· < ·)) :
    ns.foldr insertDistinct [] = ns := by
  induction ns with
  | nil => rfl
  | cons n rest ih =>
      obtain ⟨hfirst, hrest⟩ := List.pairwise_cons.mp h
      rw [List.foldr_cons, ih hrest]
      cases rest with
      | nil => rfl
      | cons m more => rw [insertDistinct, if_pos (hfirst m List.mem_cons_self)]

/-- Letters sixty apart take three characters each, but for fifteen of them. -/
theorem length_encode {cs : List Char} (hfirst : ∀ c ∈ cs, 187 ≤ c.toNat)
    (hapart : cs.Pairwise fun c d => c.toNat + 60 ≤ d.toNat) : 3 * cs.length ≤ (encode cs).length + 45 := by
  have hbasic : cs.filter isBasic = [] := by
    rw [List.filter_eq_nil_iff]
    intro c hc
    have := hfirst c hc
    simp only [isBasic, decide_eq_true_eq]
    omega
  have hother : cs.filter (!isBasic ·) = cs := by
    rw [List.filter_eq_self]
    intro c hc
    simpa using List.filter_eq_nil_iff.mp hbasic c hc
  have hpoints : (cs.map Char.toNat).Pairwise (· + 60 ≤ ·) := List.pairwise_map.mpr hapart
  have hsorted : (cs.map Char.toNat).Pairwise (· < ·) := hpoints.imp fun h => by omega
  have hnext : ∀ n ∈ cs.map Char.toNat, 128 + 59 ≤ n := List.forall_mem_map.mpr hfirst
  have hplaced := length_text_place 0 (w := ⟨[], 0, 72, 0⟩) (fun n hn => hn) hnext hpoints
  rw [encode, hbasic, hother, foldr_insertDistinct_of_pairwise hsorted]
  rw [List.length_map] at hplaced
  simpa using hplaced

end Punycode

/-! ### Names of ideographs -/

namespace Domain

theorem lt_of_isDenied {c : Char} (h : isDenied c = true) : c.toNat < 128 := by
  have hlisted : [' ', '#', '/', ':', '<', '>', '?', '@', '[', '\\', ']', '^', '|', '%'].all (·.toNat < 128) = true :=
    rfl
  simp only [isDenied, Bool.or_eq_true, decide_eq_true_eq, List.contains_iff_mem] at h
  rcases h with (h | h) | h
  · omega
  · omega
  · exact of_decide_eq_true (List.all_eq_true.mp hlisted c h)

section

variable {letters : List Char} (hletters : ∀ c ∈ letters, ideographs.testBit c.toNat = true)
include hletters

theorem not_ascii_of_ideographs : ∀ c ∈ letters, ¬ c.toNat < 128 := fun c hc hascii => by
  have := (testBit_between.mp (hletters c hc)).1
  omega

theorem not_mem_of_ideographs {d : Char} (hd : d.toNat < 128) : d ∉ letters := fun hmem =>
  not_ascii_of_ideographs hletters d hmem hd

theorem ne_of_ideographs {d : Char} (hd : d.toNat < 128) : ∀ c ∈ letters, c ≠ d := fun _ hc heq =>
  not_mem_of_ideographs hletters hd (heq ▸ hc)

theorem endsAuthority_of_ideographs : ∀ c ∈ letters, endsAuthority .network c = false := by
  intro c hc
  have hne (d : Char) (hd : d.toNat < 128) : c ≠ d := ne_of_ideographs hletters hd c hc
  simp [endsAuthority, isSlash, hne '/' (by decide), hne '\\' (by decide), hne '?' (by decide), hne '#' (by decide)]

theorem isLabel_of_ideographs (hlength : letters.length ≤ 1000) :
    isLabel letters = true ∧ letters.any turns = false := by
  have hstill : ∀ c ∈ letters, still.testBit c.toNat = true := fun c hc =>
    testBit_anyOf (List.mem_cons_of_mem _ List.mem_cons_self) (hletters c hc)
  refine ⟨isLabel_of_still hstill (fun c hc => ?_) (.inr hlength), ?_⟩
  · exact Bool.eq_false_of_not_eq_true fun hdenied => not_ascii_of_ideographs hletters c hc (lt_of_isDenied hdenied)
  · simp only [List.any_eq_false, Bool.not_eq_true]
    exact fun c hc => turns_of_still (hstill c hc)

theorem asciiLabel_of_ideographs (hne : letters ≠ []) :
    asciiLabel letters = encodedMark ++ Punycode.encode letters := by
  obtain ⟨first, rest, rfl⟩ := List.exists_cons_of_ne_nil hne
  have hascii : isAscii (first :: rest) = false := by
    simp [isAscii, not_ascii_of_ideographs hletters first List.mem_cons_self]
  rw [asciiLabel, hascii]
  exact if_neg Bool.false_ne_true

theorem splitOn_asciiLabel_of_ideographs : (asciiLabel letters).splitOn '.' = [asciiLabel letters] :=
  List.splitOn_eq_singleton (point_not_mem_asciiLabel (not_mem_of_ideographs hletters (by decide)))

theorem letters?_of_ideographs : letters? letters = some letters := by
  have hmark : encodedMark.isPrefixOf letters = false := by
    cases letters with
    | nil => rfl
    | cons first rest =>
        have hne : 'x' ≠ first := (ne_of_ideographs hletters (by decide) first List.mem_cons_self).symm
        simp [encodedMark, List.isPrefixOf, hne]
  rw [letters?, hmark]
  exact if_neg Bool.false_ne_true

/-- Ideographs stand for themselves, and a name of them is one label. -/
theorem ascii?_of_ideographs (hlength : letters.length ≤ 1000) : ascii? letters = some (asciiLabel letters) := by
  have hfolded : folded? letters = some letters := by
    refine folded?_of_self (fun c hc => form?_of_ideograph (hletters c hc)) ?_
    rw [composed_eq]
    exact normal_of_free fun c hc => isFree_of_ideograph (hletters c hc)
  have hsplit : letters.splitOn '.' = [letters] :=
    List.splitOn_eq_singleton (not_mem_of_ideographs hletters (by decide))
  obtain ⟨hlabel, hturns⟩ := isLabel_of_ideographs hletters hlength
  rw [ascii?, hfolded]
  simp [hsplit, letters?_of_ideographs hletters, hlabel, hturns, -List.any_eq_true, -List.any_eq_false]

end

end Domain

section

variable {letters : List Char} (hletters : ∀ c ∈ letters, ideographs.testBit c.toNat = true) (hne : letters ≠ [])
  (hlength : letters.length ≤ 1000)
include hletters hne hlength

theorem Host.parse_of_ideographs :
    Host.parse letters = .ok (.name (String.ofList (asciiLabel letters))) := by
  have hopen : '[' ∉ letters := not_mem_of_ideographs hletters (by decide)
  have hpercent : '%' ∉ letters := not_mem_of_ideographs hletters (by decide)
  have hends : endsInNumber (asciiLabel letters) = false := by
    rw [endsInNumber, splitOn_asciiLabel_of_ideographs hletters, asciiLabel_of_ideographs hletters hne]
    rfl
  have hsome : (asciiLabel letters).isEmpty = false := by
    rw [asciiLabel_of_ideographs hletters hne]
    rfl
  rw [parse.eq_def]
  split
  · exact absurd List.mem_cons_self hopen
  · rw [percentDecode_of_not_mem hpercent, Utf8.decode?_encode, Option.bind_eq_bind, Option.bind_some,
      ascii?_of_ideographs hletters hlength]
    dsimp only
    rw [ofName, hsome, hends]
    rfl

theorem readHostAndPort_of_ideographs {scheme : String} (hkind : SchemeKind.of scheme = .network) (path : List Char) :
    readHostAndPort scheme (letters ++ '/' :: path)
      = .ok (.name (String.ofList (asciiLabel letters)), none, '/' :: path) := by
  have hne' (d : Char) (hd : d.toNat < 128) : ∀ c ∈ letters, c ≠ d := ne_of_ideographs hletters hd
  have hinner : ∀ c ∈ letters, endsAuthority .network c = false ∧ c ≠ ':' ∧ c ≠ '[' := fun c hc =>
    ⟨endsAuthority_of_ideographs hletters c hc, hne' ':' (by decide) c hc, hne' '[' (by decide) c hc⟩
  have hread : readHost .network letters = .ok (.name (String.ofList (asciiLabel letters))) := by
    rw [readHost, Host.parse_of_ideographs hletters hne hlength, List.isEmpty_eq_false_iff.mpr hne]
    rfl
  rw [readHostAndPort, hkind, hostChars_of_forall hinner rfl, hread, List.drop_left]
  rfl

/-- An address with nothing but the name before its path. -/
theorem parse_of_ideographs {scheme : String} (hkind : SchemeKind.of scheme = .network) {path : List Char}
    (hpath : ∀ c ∈ path, 0x20 < c.toNat) :
    parse (String.ofList (scheme.toList ++ ':' :: '/' :: '/' :: (letters ++ '/' :: path)))
      = .ok (assemble scheme (some (.ofHost (.name (String.ofList (asciiLabel letters)))))
          (rootedPath .network) ('/' :: path)) := by
  have hends := endsAuthority_of_ideographs hletters
  have hvisible : ∀ c ∈ letters ++ '/' :: path, 0x20 < c.toNat := by
    rw [List.forall_mem_append, List.forall_mem_cons]
    refine ⟨fun c hc => ?_, by decide, hpath⟩
    have := not_ascii_of_ideographs hletters c hc
    omega
  have hat : '@' ∉ letters := not_mem_of_ideographs hletters (by decide)
  have hinfo : readUserInfo (Option.getD none []) = ("", none) := rfl
  rw [parse, String.toList_ofList, parse_eq_readHierarchical hkind hne hends hvisible, readHierarchical, readAuthority,
    hkind, splitUserInfo_of_host hends hat]
  simp only [bind, Except.bind, readHostAndPort_of_ideographs hletters hne hlength hkind, hinfo]
  simp [Authority.ofHost]

end

section

variable {letters : List Char} (hletters : ∀ c ∈ letters, ideographs.testBit c.toNat = true)
  (hmany : 681 < letters.length) (hapart : letters.Pairwise fun c d => c.toNat + 60 ≤ d.toNat)
include hletters hmany hapart

theorem isReadable_of_letters : isReadable (asciiLabel letters) = false := by
  have hfirst : ∀ c ∈ letters, 187 ≤ c.toNat := fun c hc => by
    have := (testBit_between.mp (hletters c hc)).1
    omega
  have hlength := Punycode.length_encode hfirst hapart
  have hne : letters ≠ [] := List.ne_nil_of_length_pos (by omega)
  have hmark : encodedMark.isPrefixOf (encodedMark ++ Punycode.encode letters) = true := by simp
  rw [asciiLabel_of_ideographs hletters hne, isReadable, hmark, Bool.not_true, Bool.false_or, List.drop_left,
    decide_eq_false_iff_not]
  omega

/-- Letters far apart are a name that is read, and that is not read again. -/
theorem not_hostKept_of_letters (hlength : letters.length ≤ 1000) (scheme : String)
    (hkind : SchemeKind.of scheme = .network) {path : List Char} (hpath : ∀ c ∈ path, 0x20 < c.toNat) :
    ∃ url, parse (String.ofList (scheme.toList ++ ':' :: '/' :: '/' :: (letters ++ '/' :: path))) = .ok url
      ∧ url.scheme = scheme ∧ ¬ url.HostKept := by
  have hne : letters ≠ [] := List.ne_nil_of_length_pos (by omega)
  refine ⟨_, parse_of_ideographs hletters hne hlength hkind hpath, rfl, fun hkept => ?_⟩
  have hlabels := hkept _ rfl
  simp only [Authority.ofHost, Host.NameKept, String.toList_ofList, splitOn_asciiLabel_of_ideographs hletters,
    List.forall_mem_singleton, isReadable_of_letters hletters hmany hapart] at hlabels
  cases hlabels

end

end AgentDelegation.Url

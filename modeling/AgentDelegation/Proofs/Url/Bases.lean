import AgentDelegation.Proofs.Url.Addresses

/-!
# Addresses that can be a base

Nothing can be put below an address in whose text no slash follows the scheme. These are the addresses with a
path of no segments, and no others.
-/

namespace AgentDelegation.Url

open Text Json

/-- No slash follows the scheme and its colon. -/
def CannotBeBase (url : Url) : Prop := (url.text.toList.drop (url.scheme.toList.length + 1)).head? ≠ some '/'

theorem cannotBeBase_iff {url : Url} :
    url.CannotBeBase ↔ (url.authorityText.toList
      ++ (url.path.text.toList ++ (marked '?' url.query ++ marked '#' url.fragment))).head? ≠ some '/' := by
  rw [CannotBeBase, toList_text, ← List.drop_drop, List.drop_left]
  rfl

theorem head?_append_ne {first second : List Char} {c : Char} (hfirst : first.head? ≠ some c)
    (hsecond : second.head? ≠ some c) : (first ++ second).head? ≠ some c := by
  cases first with
  | nil => exact hsecond
  | cons d rest => exact hfirst

theorem head?_marked_ne {mark c : Char} (h : mark ≠ c) (part : Option String) : (marked mark part).head? ≠ some c := by
  cases part with
  | none => simp [marked]
  | some s => simpa [marked] using h

/-- What a path is put together with. -/
inductive PathCase (url : Url) : Prop
  | hosted (authority : Authority) (segments : List String) :
      url.authority = some authority → url.path = .segments segments → PathCase url
  | rooted (segments : List String) :
      url.authority = none → url.path = .segments segments → segments ≠ [] → PathCase url
  | rootless (plain : String) :
      url.authority = none → url.isApart = false → url.path = .rootless plain → plain.toList.head? ≠ some '/' →
        PathCase url

theorem head?_takeWhile {p : Char → Bool} {cs : List Char} {c : Char} (h : (cs.takeWhile p).head? = some c) :
    cs.head? = some c := by
  cases cs with
  | nil => cases h
  | cons d rest =>
      rw [List.takeWhile_cons] at h
      split at h
      · exact h
      · cases h

theorem head?_splitTail {cs : List Char} (h : cs.head? ≠ some '/') : (splitTail cs).1.head? ≠ some '/' :=
  fun hslash => h (head?_takeWhile (head?_takeWhile hslash))

theorem head?_percentEncode {encoded : Char → Bool} {cs : List Char} (h : cs.head? ≠ some '/') :
    (percentEncode encoded cs).head? ≠ some '/' := by
  cases cs with
  | nil => simp [percentEncode]
  | cons c rest =>
      rw [percentEncode, List.flatMap_cons]
      split
      · obtain ⟨b, tail, hencode, -⟩ := Utf8.take_encodeChar c []
        rw [Utf8.encode_cons, hencode]
        simp [encodedByte]
      · exact h

theorem pathCase_of_readHierarchical {scheme : String} {cs : List Char} {url : Url}
    (h : readHierarchical scheme cs = .ok url) : PathCase url := by
  obtain ⟨⟨authority, rest⟩, -, h⟩ := bind_eq_ok_iff.mp h
  obtain rfl := Except.ok.inj h
  exact .hosted authority _ rfl rfl

theorem pathCase_fileUrl (host : Host) (cs : List Char) : PathCase (fileUrl host cs) := by
  simp only [fileUrl]
  split
  · exact .hosted _ _ rfl rfl
  · exact .hosted _ _ rfl rfl

theorem pathCase_of_readFile {cs : List Char} {url : Url} (h : readFile cs = .ok url) : PathCase url := by
  rw [readFile.eq_def] at h
  split at h
  · split at h
    · simp only at h
      split at h
      · exact Except.ok.inj h ▸ pathCase_fileUrl _ _
      · obtain ⟨host, -, h⟩ := bind_eq_ok_iff.mp h
        exact Except.ok.inj h ▸ pathCase_fileUrl _ _
    · exact Except.ok.inj h ▸ pathCase_fileUrl _ _
  · exact Except.ok.inj h ▸ pathCase_fileUrl _ _

theorem pathCase_of_readOther {scheme : String} {cs : List Char} {url : Url} (h : readOther scheme cs = .ok url) :
    PathCase url := by
  rw [readOther.eq_def] at h
  split at h
  · exact pathCase_of_readHierarchical h
  · rename_i rest hnot
    obtain rfl := Except.ok.inj h
    obtain ⟨more, hmore⟩ : ∃ more, (splitTail ('/' :: rest)).1 = '/' :: more := by simp [splitTail]
    refine .rooted (rootedSegments .other (splitTail ('/' :: rest)).1) rfl rfl ?_
    rw [hmore]
    exact resolve_ne_nil (.inl (List.splitOn_ne_nil _ _))
  · rename_i hslashes hslash
    obtain rfl := Except.ok.inj h
    have hhead : cs.head? ≠ some '/' := by
      intro hslash'
      obtain ⟨rest, rfl⟩ := List.head?_eq_some_iff.mp hslash'
      exact hslash rest rfl
    have hplain : (String.ofList (percentEncode isControl (splitTail cs).1)).toList.head? ≠ some '/' := by
      rw [String.toList_ofList]
      exact head?_percentEncode (head?_splitTail hhead)
    have hstart : (Path.text (rootlessPath (splitTail cs).1)).startsWith "//" = false := by
      refine String.startsWith_string_eq_false_iff.mpr fun hprefix => hplain ?_
      obtain ⟨more, hmore⟩ := hprefix
      exact (congrArg List.head? hmore).symm
    exact .rootless _ rfl (by simp [assemble, hstart]) rfl hplain

theorem pathCase_of_parse {text : String} {url : Url} (h : parse text = .ok url) : PathCase url := by
  rw [parse, parseChars] at h
  split at h
  · cases h
  · split at h
    · exact pathCase_of_readHierarchical h
    · exact pathCase_of_readFile h
    · exact pathCase_of_readOther h

/-- An address that was read cannot be a base exactly if its path has no segments. -/
theorem cannotBeBase_of_parse {text : String} {url : Url} (h : parse text = .ok url) :
    url.CannotBeBase ↔ ∃ plain, url.path = .rootless plain := by
  rw [cannotBeBase_iff]
  cases pathCase_of_parse h with
  | hosted authority segments hauthority hpath =>
      rw [toList_authorityText hauthority, hpath]
      simp
  | rooted segments hauthority hpath hne =>
      obtain ⟨s, rest, rfl⟩ := List.exists_cons_of_ne_nil hne
      rw [hpath, authorityText, hauthority, toList_text_segments]
      cases url.isApart <;> simp
  | rootless plain hauthority hapart hpath hhead =>
      have hnone : url.authorityText.toList = [] := by
        rw [authorityText, hauthority, hapart]
        rfl
      rw [hnone, List.nil_append, hpath]
      refine ⟨fun _ => ⟨plain, rfl⟩, fun _ => ?_⟩
      have hquery : (marked '?' url.query).head? ≠ some '/' := head?_marked_ne (by decide) _
      have hfragment : (marked '#' url.fragment).head? ≠ some '/' := head?_marked_ne (by decide) _
      exact head?_append_ne hhead (head?_append_ne hquery hfragment)

end AgentDelegation.Url

import AgentDelegation.Proofs.Url.Authorities
import AgentDelegation.Proofs.Url.Paths

/-!
# Addresses read again

What is read from a text as an address of a network is in normal form: each part holds only characters that
may stand there, whatever the text held. An address in normal form is read from its text, so changing a part
into another that is fit for its place gives an address that its text still says.
-/

namespace AgentDelegation.Url

open Text Json

/-- The normal form of network addresses. -/
structure Proper (url : Url) : Prop where
  kind : url.kind = .network
  authority : ∃ authority, url.authority = some authority ∧ authority.Proper url.scheme
  joined : url.isApart = false
  path : ∃ segments, url.path = .segments segments ∧ segments ≠ [] ∧ ∀ s ∈ segments, IsSegment s
  query : ∀ q, url.query = some q → ∀ c ∈ q.toList, inSpecialQuery c = false
  fragment : ∀ f, url.fragment = some f → ∀ c ∈ f.toList, inFragment c = false

/-- The host is no name, or one whose labels in Punycode are no longer than the reader takes. -/
def HostKept (url : Url) : Prop := ∀ authority, url.authority = some authority → authority.host.NameKept

/-! ### Reading -/

theorem scheme_fileUrl (host : Host) (cs : List Char) : (fileUrl host cs).scheme = "file" := by
  simp only [fileUrl]
  split
  · rfl
  · rfl

theorem scheme_readFile {cs : List Char} {url : Url} (h : readFile cs = .ok url) : url.scheme = "file" := by
  rw [readFile.eq_def] at h
  split at h
  · split at h
    · simp only at h
      split at h
      · exact Except.ok.inj h ▸ scheme_fileUrl _ _
      · obtain ⟨host, -, h⟩ := bind_eq_ok_iff.mp h
        exact Except.ok.inj h ▸ scheme_fileUrl _ _
    · exact Except.ok.inj h ▸ scheme_fileUrl _ _
  · exact Except.ok.inj h ▸ scheme_fileUrl _ _

theorem scheme_readOther {scheme : String} {cs : List Char} {url : Url} (h : readOther scheme cs = .ok url) :
    url.scheme = scheme := by
  rw [readOther.eq_def] at h
  split at h
  · obtain ⟨⟨authority, rest⟩, -, h⟩ := bind_eq_ok_iff.mp h
    exact Except.ok.inj h ▸ rfl
  · exact Except.ok.inj h ▸ rfl
  · exact Except.ok.inj h ▸ rfl

theorem proper_of_readHierarchical {scheme : String} (hkind : SchemeKind.of scheme = .network) {cs : List Char}
    {url : Url} (h : readHierarchical scheme cs = .ok url) : url.Proper := by
  obtain ⟨⟨authority, rest⟩, hread, h⟩ := bind_eq_ok_iff.mp h
  obtain rfl := Except.ok.inj h
  refine ⟨hkind, ⟨authority, rfl, readAuthority_proper hkind hread⟩, rfl, ?_, fun q hq => ?_, fun f hf => ?_⟩
  · exact ⟨_, congrArg (rootedPath · _) hkind, rootedSegments_ne_nil _, isSegment_of_mem_rootedSegments _⟩
  · obtain ⟨cs, -, rfl⟩ := Option.map_eq_some_iff.mp hq
    rw [encodeQuery, hkind, String.toList_ofList]
    exact sparesBytes_inSpecialQuery.percentEncode
  · obtain ⟨cs, -, rfl⟩ := Option.map_eq_some_iff.mp hf
    rw [encodeFragment, String.toList_ofList]
    exact sparesBytes_inFragment.percentEncode

theorem proper_of_parse {text : String} {url : Url} (h : parse text = .ok url) (hkind : url.kind = .network) :
    url.Proper := by
  rw [parse, parseChars] at h
  split at h
  · cases h
  · split at h
    · rename_i hscheme
      exact proper_of_readHierarchical hscheme h
    · rw [kind, scheme_readFile h] at hkind
      cases hkind
    · rename_i hscheme
      rw [kind, scheme_readOther h, hscheme] at hkind
      cases hkind

/-! ### The text -/

theorem mem_schemes {scheme : String} (h : SchemeKind.of scheme = .network) :
    scheme ∈ ["http", "https", "ws", "wss", "ftp"] := by
  rw [SchemeKind.of] at h
  split at h
  · rename_i hmem
    exact List.contains_iff_mem.mp hmem
  · split at h <;> cases h

theorem scheme?_text {scheme : String} (h : SchemeKind.of scheme = .network) (rest : List Char) :
    scheme? (scheme.toList ++ ':' :: rest) = some (scheme, rest) := by
  have hmem := mem_schemes h
  simp only [List.mem_cons, List.not_mem_nil, or_false] at hmem
  rcases hmem with rfl | rfl | rfl | rfl | rfl <;> rfl

theorem isGraphic_of_mem_scheme {scheme : String} (h : SchemeKind.of scheme = .network) :
    ∀ c ∈ scheme.toList, isGraphic c = true := by
  have hmem := mem_schemes h
  simp only [List.mem_cons, List.not_mem_nil, or_false] at hmem
  rcases hmem with rfl | rfl | rfl | rfl | rfl <;> exact List.all_eq_true.mp (by decide)

/-- A part with its mark before it. -/
def marked (mark : Char) (part : Option String) : List Char := part.elim [] fun s => mark :: s.toList

theorem toList_text (url : Url) :
    url.text.toList
      = url.scheme.toList ++ ':' :: (url.authorityText.toList
        ++ (url.path.text.toList ++ (marked '?' url.query ++ marked '#' url.fragment))) := by
  have hmark (mark : String) (c : Char) (hc : mark.toList = [c]) (part : Option String) :
      ((part.map (mark ++ ·)).getD "").toList = marked c part := by
    cases part <;> simp [marked, hc]
  have hcolon : ":".toList = [':'] := rfl
  simp only [text, String.toList_append, hmark "?" '?' rfl, hmark "#" '#' rfl, hcolon, List.append_assoc,
    List.cons_append, List.nil_append]

theorem toList_authorityText {url : Url} {authority : Authority} (h : url.authority = some authority) :
    url.authorityText.toList = '/' :: '/' :: authority.text.toList := by
  have hslashes : "//".toList = ['/', '/'] := rfl
  rw [authorityText, h, String.toList_append, hslashes]
  rfl

section

variable {mark : Char} {before : List Char} (hbefore : ∀ c ∈ before, c ≠ mark) (part : Option String)
include hbefore

theorem takeWhile_marked : (before ++ marked mark part).takeWhile (· != mark) = before := by
  have hkeep : ∀ c ∈ before, (c != mark) = true := fun c hc => bne_iff_ne.mpr (hbefore c hc)
  rw [List.takeWhile_append_of_pos hkeep]
  cases part <;> simp [marked]

theorem tail?_dropWhile_marked :
    ((before ++ marked mark part).dropWhile (· != mark)).tail? = part.map String.toList := by
  have hkeep : ∀ c ∈ before, (c != mark) = true := fun c hc => bne_iff_ne.mpr (hbefore c hc)
  rw [List.dropWhile_append_of_pos hkeep]
  cases part <;> simp [marked]

end

theorem splitTail_text {path : List Char} (hpath : ∀ c ∈ path, c ≠ '?' ∧ c ≠ '#') {query : Option String}
    (hquery : ∀ q, query = some q → ∀ c ∈ q.toList, c ≠ '#') (fragment : Option String) :
    splitTail (path ++ (marked '?' query ++ marked '#' fragment))
      = (path, query.map String.toList, fragment.map String.toList) := by
  have hquestion : ∀ c ∈ path, c ≠ '?' := fun c hc => (hpath c hc).1
  have hbefore : ∀ c ∈ path ++ marked '?' query, c ≠ '#' := by
    rw [List.forall_mem_append]
    refine ⟨fun c hc => (hpath c hc).2, ?_⟩
    cases query with
    | none => simp [marked]
    | some q => exact List.forall_mem_cons.mpr ⟨by decide, hquery q rfl⟩
  simp only [splitTail, ← List.append_assoc, takeWhile_marked hbefore, tail?_dropWhile_marked hbefore,
    takeWhile_marked hquestion, tail?_dropWhile_marked hquestion]

theorem dropWhile_of_forall {p : Char → Bool} {cs : List Char} (h : ∀ c ∈ cs, p c = false) : cs.dropWhile p = cs := by
  cases cs with
  | nil => rfl
  | cons c rest => exact List.dropWhile_cons_of_neg (by simp [h c List.mem_cons_self])

theorem significant_of_visible {cs : List Char} (h : ∀ c ∈ cs, 0x20 < c.toNat) : significant cs = cs := by
  have hedge : ∀ c ∈ cs, isEdge c = false := fun c hc => decide_eq_false (Nat.not_le_of_lt (h c hc))
  have hkept : ∀ c ∈ cs, (!isLineOrTab c) = true := fun c hc => by
    have hne (d : Char) (hd : d.toNat ≤ 0x20) : c ≠ d := by
      rintro rfl
      exact Nat.not_le_of_lt (h c hc) hd
    simp [isLineOrTab, hne '\t' (by decide), hne '\n' (by decide), hne '\r' (by decide)]
  rw [significant, dropWhile_of_forall hedge, dropWhile_of_forall fun c hc => hedge c (List.mem_reverse.mp hc),
    List.reverse_reverse, List.filter_eq_self.mpr hkept]

/-- What stands behind the scheme of a network address is an authority and a path. -/
theorem parse_eq_readHierarchical {scheme : String} (hkind : SchemeKind.of scheme = .network)
    {authority path : List Char} (hne : authority ≠ []) (hends : ∀ c ∈ authority, endsAuthority .network c = false)
    (hvisible : ∀ c ∈ authority ++ '/' :: path, 0x20 < c.toNat) :
    parseChars (scheme.toList ++ ':' :: '/' :: '/' :: (authority ++ '/' :: path))
      = readHierarchical scheme (authority ++ '/' :: path) := by
  have hall : ∀ c ∈ scheme.toList ++ ':' :: '/' :: '/' :: (authority ++ '/' :: path), 0x20 < c.toNat := by
    rw [List.forall_mem_append, List.forall_mem_cons, List.forall_mem_cons, List.forall_mem_cons]
    refine ⟨fun c hc => ?_, by decide, by decide, by decide, hvisible⟩
    exact (isGraphic_iff.mp (isGraphic_of_mem_scheme hkind c hc)).1
  have hslashes : ('/' :: '/' :: (authority ++ '/' :: path)).dropWhile (isSlash .network)
      = authority ++ '/' :: path := by
    obtain ⟨first, rest, rfl⟩ := List.exists_cons_of_ne_nil hne
    have hslash : isSlash .network first = false :=
      (Bool.or_eq_false_iff.mp (Bool.or_eq_false_iff.mp (hends first List.mem_cons_self)).1).1
    rw [List.dropWhile_cons_of_pos rfl, List.dropWhile_cons_of_pos rfl, List.cons_append,
      List.dropWhile_cons_of_neg (by rw [hslash]; exact Bool.false_ne_true)]
  rw [parseChars, significant_of_visible hall, scheme?_text hkind]
  simp only [hkind, hslashes]

theorem forall_mem_pathText {segments : List String} (h : ∀ s ∈ segments, IsSegment s) :
    ∀ c ∈ (Path.segments segments).text.toList, inPath c = false := by
  intro c hc
  rw [toList_text_segments] at hc
  obtain ⟨s, hs, hmem⟩ := List.mem_flatMap.mp hc
  rcases List.mem_cons.mp hmem with rfl | hmem
  · rfl
  · exact (h s hs).encoded c hmem

theorem isGraphic_of_mem_marked {mark : Char} (hmark : isGraphic mark = true) {part : Option String}
    (h : ∀ s, part = some s → ∀ c ∈ s.toList, isGraphic c = true) : ∀ c ∈ marked mark part, isGraphic c = true := by
  cases part with
  | none => simp [marked]
  | some s => exact List.forall_mem_cons.mpr ⟨hmark, h s rfl⟩

theorem isGraphic_of_mem_text {url : Url} (h : url.Proper) : ∀ c ∈ url.text.toList, isGraphic c = true := by
  obtain ⟨authority, hauthority, hproper⟩ := h.authority
  obtain ⟨segments, hpath, -, hsegments⟩ := h.path
  rw [toList_text, toList_authorityText hauthority, hpath, List.forall_mem_append, List.forall_mem_cons,
    List.forall_mem_append, List.forall_mem_cons, List.forall_mem_cons, List.forall_mem_append, List.forall_mem_append]
  refine ⟨isGraphic_of_mem_scheme h.kind, by decide, ⟨by decide, by decide, fun c hc => ?_⟩, fun c hc => ?_, ?_, ?_⟩
  · exact (Authority.forall_mem_text hproper c hc).1
  · exact isGraphic_of_not_inFragment (not_inFragment_of_not_inPath (forall_mem_pathText hsegments c hc))
  · exact isGraphic_of_mem_marked (by decide) fun q hq c hc => isGraphic_of_not_inSpecialQuery (h.query q hq c hc)
  · exact isGraphic_of_mem_marked (by decide) fun f hf c hc => isGraphic_of_not_inFragment (h.fragment f hf c hc)

theorem encodeQuery_of_forall {q : String} (h : ∀ c ∈ q.toList, inSpecialQuery c = false) :
    encodeQuery .network q.toList = q := by
  have hset : (if SchemeKind.network.isKnown then inSpecialQuery else inQuery) = inSpecialQuery := rfl
  rw [encodeQuery, hset, percentEncode_of_forall h, String.ofList_toList]

theorem encodeFragment_of_forall {f : String} (h : ∀ c ∈ f.toList, inFragment c = false) :
    encodeFragment f.toList = f := by
  rw [encodeFragment, percentEncode_of_forall h, String.ofList_toList]

/-- The parts after the authority are put together again. -/
theorem assemble_text {url : Url} (h : url.Proper) {authority : Authority}
    (hauthority : url.authority = some authority) :
    assemble url.scheme (some authority) (rootedPath .network)
      (url.path.text.toList ++ (marked '?' url.query ++ marked '#' url.fragment)) = url := by
  obtain ⟨segments, hpath, hne, hsegments⟩ := h.path
  have hplain : ∀ c ∈ url.path.text.toList, c ≠ '?' ∧ c ≠ '#' := fun c hc => by
    rw [hpath] at hc
    have hc := forall_mem_pathText hsegments c hc
    exact ⟨ne_of_class hc (by decide), ne_of_class hc (by decide)⟩
  have hmark : ∀ q, url.query = some q → ∀ c ∈ q.toList, c ≠ '#' := fun q hq c hc =>
    ne_of_class (h.query q hq c hc) (by decide)
  have hrooted : rootedPath .network url.path.text.toList = url.path := by
    rw [rootedPath, hpath, rootedSegments_text hne hsegments]
  have hquery : (url.query.map String.toList).map (encodeQuery .network) = url.query := by
    cases hq : url.query with
    | none => rfl
    | some q => exact congrArg some (encodeQuery_of_forall (h.query q hq))
  have hfragment : (url.fragment.map String.toList).map encodeFragment = url.fragment := by
    cases hf : url.fragment with
    | none => rfl
    | some f => exact congrArg some (encodeFragment_of_forall (h.fragment f hf))
  have hkind : SchemeKind.of url.scheme = .network := h.kind
  rw [assemble, splitTail_text hplain hmark]
  simp only [hkind, hrooted, hquery, hfragment, Option.isNone_some, Bool.false_and]
  rw [← hauthority, ← h.joined]

/-- What an address in normal form is read from: its authority, and all that stands behind it. -/
theorem parse_text_eq {url : Url} (h : url.Proper) {authority : Authority}
    (hauthority : url.authority = some authority) :
    ∃ rest, url.path.text.toList ++ (marked '?' url.query ++ marked '#' url.fragment) = '/' :: rest
      ∧ parse url.text = readHierarchical url.scheme (authority.text.toList ++ '/' :: rest) := by
  obtain ⟨authority', hauthority', hproper⟩ := h.authority
  obtain rfl : authority = authority' := Option.some.inj (hauthority.symm.trans hauthority')
  obtain ⟨segments, hpath, hne, hsegments⟩ := h.path
  obtain ⟨rest, hrest⟩ :
      ∃ rest, url.path.text.toList ++ (marked '?' url.query ++ marked '#' url.fragment) = '/' :: rest := by
    rw [hpath, toList_text_segments, flatMap_slash hne]
    exact ⟨_, rfl⟩
  have htext : url.text.toList = url.scheme.toList ++ ':' :: '/' :: '/' :: (authority.text.toList ++ '/' :: rest) := by
    rw [toList_text, hrest, toList_authorityText hauthority, List.cons_append, List.cons_append]
  have hvisible : ∀ c ∈ authority.text.toList ++ '/' :: rest, 0x20 < c.toNat := fun c hc => by
    refine (isGraphic_iff.mp (isGraphic_of_mem_text h c ?_)).1
    rw [htext]
    exact List.mem_append_right _ (List.mem_cons_of_mem _ (List.mem_cons_of_mem _ (List.mem_cons_of_mem _ hc)))
  refine ⟨rest, hrest, ?_⟩
  rw [parse, htext]
  exact parse_eq_readHierarchical h.kind (Authority.text_ne_nil hproper)
    (fun c hc => (Authority.forall_mem_text hproper c hc).2) hvisible

/-- An address in normal form is read from its text. -/
theorem parse_text {url : Url} (h : url.Proper) (hhost : url.HostKept) : parse url.text = .ok url := by
  obtain ⟨authority, hauthority, hproper⟩ := h.authority
  obtain ⟨rest, hrest, hparse⟩ := parse_text_eq h hauthority
  rw [hparse, readHierarchical, readAuthority_text h.kind hproper _ (hhost authority hauthority)]
  simp only [bind, Except.bind]
  rw [show SchemeKind.of url.scheme = .network from h.kind, ← hrest, assemble_text h hauthority]

theorem parse_text_of_not_kept {url : Url} (h : url.Proper) (hhost : ¬ url.HostKept) :
    parse url.text = .error .invalidName := by
  obtain ⟨authority, hauthority, hproper⟩ := h.authority
  obtain ⟨rest, -, hparse⟩ := parse_text_eq h hauthority
  have hname : ¬ authority.host.NameKept := fun hname => hhost fun other hother => by
    rwa [← Option.some.inj (hauthority.symm.trans hother)]
  have hfault := Host.parse_text_of_not_kept hproper.host hname
  rw [hparse, readHierarchical, readAuthority_text_error h.kind hproper _ hfault]
  rfl

theorem parse_text_iff {url : Url} (h : url.Proper) : parse url.text = .ok url ↔ url.HostKept := by
  refine ⟨fun hread => ?_, parse_text h⟩
  by_contra hhost
  rw [parse_text_of_not_kept h hhost] at hread
  cases hread

/-! ### Other paths -/

/-- Two addresses that differ in slashes at the end of the path, in query and in fragment only. -/
structure SamePlace (first second : Url) : Prop where
  scheme : first.scheme = second.scheme
  authority : first.authority = second.authority
  path : first.path.trimmed = second.path.trimmed

section

variable {first second : Url} (hsame : first.SamePlace second)
include hsame

theorem SamePlace.kind_eq : first.kind = second.kind := congrArg SchemeKind.of hsame.scheme

theorem SamePlace.hostKept (hhost : second.HostKept) : first.HostKept :=
  fun authority hauthority => hhost authority (hsame.authority ▸ hauthority)

theorem SamePlace.trimEmpty_eq {segments others : List String} (hfirst : first.path = .segments segments)
    (hsegments : ∀ s ∈ segments, IsSegment s) (hsecond : second.path = .segments others)
    (hothers : ∀ s ∈ others, IsSegment s) : Path.trimEmpty segments = Path.trimEmpty others := by
  have htrimmed := hsame.path
  rw [hfirst, hsecond, Path.trimmed_segments hsegments, Path.trimmed_segments hothers] at htrimmed
  exact segments_eq_of_text (isSegment_of_mem_trimEmpty hsegments) (isSegment_of_mem_trimEmpty hothers) htrimmed

end

/-- A path in normal form is not changed by reading it from a text. -/
theorem Proper.withPath {url : Url} (h : url.Proper) {segments : List String} (hne : segments ≠ [])
    (hsegments : ∀ s ∈ segments, IsSegment s) :
    url.withPath (Path.segments segments).text = { url with path := .segments segments } := by
  rw [Url.withPath, h.kind, rootedSegments_text hne hsegments]
  rfl

theorem Proper.extended {url : Url} (h : url.Proper) {segments more : List String}
    (hpath : url.path = .segments segments) (hne : more ≠ []) (hmore : ∀ s ∈ more, IsSegment s) :
    Proper { url with path := .segments (Path.trimEmpty segments ++ more), query := none, fragment := none } := by
  obtain ⟨segments', hpath', -, hsegments⟩ := h.path
  obtain rfl : segments = segments' := Path.segments.inj (hpath.symm.trans hpath')
  refine ⟨h.kind, h.authority, h.joined, ⟨_, rfl, List.append_ne_nil_of_right_ne_nil _ hne, ?_⟩, by simp, by simp⟩
  rw [List.forall_mem_append]
  exact ⟨isSegment_of_mem_trimEmpty hsegments, hmore⟩

end AgentDelegation.Url

import AgentDelegation.Proofs.Url.Addresses
import AgentDelegation.Transport.Http

/-!
# The address that messages are posted to

The address below an interface is made from the text of the interface: slashes at its end are dropped and the
last segment is written behind it. The end of the text is the end of the path only if the interface has neither
query nor fragment; otherwise the segment ends up in the last of these, and messages are posted to the
interface itself.
-/

namespace AgentDelegation.RestInterface

open Url

/-! ### Slashes at the end of a text -/

/-- Nothing before a character that is no slash is dropped. -/
theorem toList_trimSlashes_of_split {text : String} {before after : List Char} {c : Char}
    (h : text.toList = before ++ c :: after) (hc : (c == '/') = false) :
    (trimSlashes text).toList = before ++ c :: after.rdropWhile (· == '/') := by
  rw [toList_trimSlashes, h, rdropWhile_append_cons (p := (· == '/')) hc]

theorem forall_mem_suffix {encoded : Char → Bool} {part : String} (h : ∀ c ∈ part.toList, encoded c = false)
    (hsuffix : ∀ c ∈ "/message:stream".toList, encoded c = false) :
    ∀ c ∈ (trimSlashes part ++ "/message:stream").toList, encoded c = false := by
  rw [String.toList_append, List.forall_mem_append]
  refine ⟨fun c hc => h c ?_, hsuffix⟩
  rw [toList_trimSlashes] at hc
  exact (List.rdropWhile_prefix _ _).subset hc

/-! ### Where the segment ends up -/

/-- The part of an address that its text ends with, as it is and with the segment behind it. -/
inductive Ending (base : Url) : Url → Prop
  | fragment (fragment : String) :
      base.fragment = some fragment →
      Ending base { base with fragment := some (trimSlashes fragment ++ "/message:stream") }
  | query (query : String) :
      base.fragment = none → base.query = some query →
      Ending base { base with query := some (trimSlashes query ++ "/message:stream") }
  | path (segments : List String) :
      base.fragment = none → base.query = none → base.path = .segments segments → (∀ s ∈ segments, IsSegment s) →
      Ending base { base with path := .segments (Path.trimEmpty segments ++ ["message:stream"]) }

theorem exists_ending {base : Url} (h : base.Proper) : ∃ streamUrl, Ending base streamUrl := by
  obtain ⟨segments, hpath, -, hsegments⟩ := h.path
  cases hf : base.fragment with
  | some f => exact ⟨_, .fragment f hf⟩
  | none =>
      cases hq : base.query with
      | some q => exact ⟨_, .query q hf hq⟩
      | none => exact ⟨_, .path segments hf hq hpath hsegments⟩

theorem isSegment_messageStream : IsSegment "message:stream" :=
  ⟨forall_mem_of_any (by decide), forall_mem_of_any (by decide), by decide⟩

theorem Ending.proper {base streamUrl : Url} (hend : Ending base streamUrl) (h : base.Proper) : streamUrl.Proper := by
  cases hend with
  | fragment f hf =>
      refine { h with fragment := fun f' hf' => ?_ }
      obtain rfl := Option.some.inj hf'
      exact forall_mem_suffix (h.fragment f hf) (forall_mem_of_any (by decide))
  | query q hf hq =>
      refine { h with query := fun q' hq' => ?_ }
      obtain rfl := Option.some.inj hq'
      exact forall_mem_suffix (h.query q hq) (forall_mem_of_any (by decide))
  | path segments hf hq hpath hsegments =>
      refine { h with path := ⟨_, rfl, by simp, ?_⟩ }
      rw [List.forall_mem_append, List.forall_mem_singleton]
      exact ⟨isSegment_of_mem_trimEmpty hsegments, isSegment_messageStream⟩

/-- The segment is written behind the text. -/
theorem Ending.text {base streamUrl : Url} (hend : Ending base streamUrl) (h : base.Proper) :
    streamUrl.text = trimSlashes base.text ++ "/message:stream" := by
  have hbase := toList_text base
  rw [← String.toList_inj, String.toList_append, toList_text]
  cases hend with
  | fragment f hf =>
      have hsplit : base.text.toList = (base.scheme.toList ++ ':' :: (base.authorityText.toList
          ++ (base.path.text.toList ++ marked '?' base.query))) ++ '#' :: f.toList := by
        rw [hbase, hf]
        simp [marked]
      rw [toList_trimSlashes_of_split hsplit rfl]
      simp [marked, authorityText, toList_trimSlashes]
  | query q hf hq =>
      have hsplit : base.text.toList = (base.scheme.toList ++ ':' :: (base.authorityText.toList
          ++ base.path.text.toList)) ++ '?' :: q.toList := by
        rw [hbase, hf, hq]
        simp [marked]
      rw [toList_trimSlashes_of_split hsplit rfl]
      simp [marked, authorityText, toList_trimSlashes, hf]
  | path segments hf hq hpath hsegments =>
      obtain ⟨authority, hauthority, hproper⟩ := h.authority
      obtain ⟨front, c, hlast⟩ :=
        (List.eq_nil_or_concat' authority.text.toList).resolve_left (Authority.text_ne_nil hproper)
      have hc : (c == '/') = false := by
        have hends := (Authority.forall_mem_text hproper c (by rw [hlast]; simp)).2
        exact (Bool.or_eq_false_iff.mp (Bool.or_eq_false_iff.mp (Bool.or_eq_false_iff.mp hends).1).1).1
      have hsplit : base.text.toList
          = (base.scheme.toList ++ ':' :: '/' :: '/' :: front) ++ c :: base.path.text.toList := by
        rw [hbase, toList_authorityText hauthority, hlast, hf, hq]
        simp [marked]
      have hpathText : (Path.segments (Path.trimEmpty segments ++ ["message:stream"])).text.toList
          = base.path.text.toList.rdropWhile (· == '/') ++ "/message:stream".toList := by
        rw [text_trimEmpty_append hsegments, String.toList_append, Path.trimmed, toList_trimSlashes, hpath]
        rfl
      have hauthorityText : (authorityText { base with
          path := .segments (Path.trimEmpty segments ++ ["message:stream"]) }).toList
          = '/' :: '/' :: authority.text.toList := toList_authorityText hauthority
      rw [toList_trimSlashes_of_split hsplit hc, hauthorityText, hpathText, hlast]
      simp [marked, hf, hq]

theorem Ending.scheme {base streamUrl : Url} (hend : Ending base streamUrl) : streamUrl.scheme = base.scheme := by
  cases hend <;> rfl

theorem Ending.authority {base streamUrl : Url} (hend : Ending base streamUrl) :
    streamUrl.authority = base.authority := by
  cases hend <;> rfl

/-- The address is read from the text, so the segment ends up where the text ends. -/
theorem of_of_network {text : String} {base : Url} (hparse : Url.parse text = .ok base) (hkind : base.kind = .network)
    (hhost : base.HostKept) : ∃ streamUrl, of text = .ok ⟨streamUrl⟩ ∧ Ending base streamUrl := by
  have hproper := proper_of_parse hparse hkind
  obtain ⟨streamUrl, hend⟩ := exists_ending hproper
  have hkept : streamUrl.HostKept := fun authority hauthority => hhost authority (hend.authority ▸ hauthority)
  have hread := Url.parse_text (hend.proper hproper) hkept
  rw [hend.text hproper] at hread
  exact ⟨streamUrl, by simp only [of, parseEndpoint, hparse, bind, Except.bind, hread], hend⟩

/-! ### Paths -/

theorem text_ne_trimmed (path : Path) : path.text ≠ path.trimmed ++ "/message:stream" := by
  intro h
  have hlist := congrArg String.toList h
  rw [String.toList_append, Path.trimmed, toList_trimSlashes] at hlist
  have hsuffix : "/message:stream".toList = "/message:strea".toList ++ ['m'] := rfl
  have hstays : path.text.toList.rdropWhile (· == '/') = path.text.toList := by
    rw [hlist, hsuffix, ← List.append_assoc, List.rdropWhile_concat_neg _ _ _ (by decide)]
  rw [hstays, List.self_eq_append_right] at hlist
  exact absurd hlist (by decide)

/-- The segment is in the path exactly if nothing stands behind the path. -/
theorem Ending.path_text_iff {base streamUrl : Url} (hend : Ending base streamUrl) :
    streamUrl.path.text = base.path.trimmed ++ "/message:stream" ↔ base.query = none ∧ base.fragment = none := by
  cases hend with
  | fragment f hf => simp [hf, text_ne_trimmed]
  | query q hf hq => simp [hq, text_ne_trimmed]
  | path segments hf hq hpath hsegments =>
      have htext : (Path.segments ["message:stream"]).text = "/message:stream" := by decide
      simp [hf, hq, text_trimEmpty_append hsegments, htext, hpath]

theorem Ending.of_samePlace {base other streamUrl otherUrl : Url} (hend : Ending base streamUrl)
    (hother : Ending other otherUrl) (hproper : base.Proper) (hotherProper : other.Proper)
    (hsame : other.SamePlace base) (hplain : base.query = none ∧ base.fragment = none)
    (hotherPlain : other.query = none ∧ other.fragment = none) : otherUrl = streamUrl := by
  cases hend with
  | fragment f hf => exact absurd hplain.2 (by simp [hf])
  | query q hf hq => exact absurd hplain.1 (by simp [hq])
  | path segments hf hq hpath hsegments =>
      cases hother with
      | fragment f hf => exact absurd hotherPlain.2 (by simp [hf])
      | query q hf hq => exact absurd hotherPlain.1 (by simp [hq])
      | path others hf' hq' hotherPath hothers =>
          rw [hsame.trimEmpty_eq hotherPath hothers hpath hsegments, hsame.scheme, hsame.authority, hproper.joined,
            hotherProper.joined, hf, hq, hf', hq']

theorem Ending.path_eq {base streamUrl : Url} (hend : Ending base streamUrl)
    (hmore : ¬ (base.query = none ∧ base.fragment = none)) : streamUrl.path = base.path := by
  cases hend with
  | fragment f hf => rfl
  | query q hf hq => rfl
  | path segments hf hq hpath hsegments => exact absurd ⟨hq, hf⟩ hmore

/-- Messages are posted to the host of an interface. They are posted below its path, and slashes at the end of
its path do not count, exactly if it has neither query nor fragment. Otherwise they are posted to its path. -/
theorem stream_posted_below_interface {text : String} {base : Url} (hparse : Url.parse text = .ok base)
    (hkind : base.kind = .network) (hhost : base.HostKept) :
    ∃ interface, of text = .ok interface
      ∧ interface.streamUrl.scheme = base.scheme
      ∧ interface.streamUrl.authority = base.authority
      ∧ (interface.streamUrl.path.text = base.path.trimmed ++ "/message:stream"
          ↔ base.query = none ∧ base.fragment = none)
      ∧ (¬ (base.query = none ∧ base.fragment = none) → interface.streamUrl.path = base.path)
      ∧ (base.query = none ∧ base.fragment = none → ∀ other otherBase, Url.parse other = .ok otherBase →
          otherBase.SamePlace base → otherBase.query = none ∧ otherBase.fragment = none →
          of other = .ok interface) := by
  obtain ⟨streamUrl, hof, hend⟩ := of_of_network hparse hkind hhost
  refine ⟨⟨streamUrl⟩, hof, hend.scheme, hend.authority, hend.path_text_iff, hend.path_eq, ?_⟩
  intro hplain other otherBase hother hsame hotherPlain
  have hotherKind : otherBase.kind = .network := hsame.kind_eq.trans hkind
  obtain ⟨otherUrl, hotherOf, hotherEnd⟩ := of_of_network hother hotherKind (hsame.hostKept hhost)
  rw [hotherOf, hend.of_samePlace hotherEnd (proper_of_parse hparse hkind) (proper_of_parse hother hotherKind) hsame
    hplain hotherPlain]

/-- An interface with user and port, at a host whose name is in Punycode. -/
def guardedInterface (segments : List String) : Url :=
  { scheme := "https"
    authority := some ⟨"user", some "pw", .name "xn--bcher-kva.example", some 8443⟩
    isApart := false
    path := .segments segments
    query := none
    fragment := none }

theorem stream_of_guarded_interface :
    ∃ interface, of "https://user:pw@bücher.example:8443/a2a//" = .ok interface
      ∧ interface.streamUrl.path.text = "/a2a/message:stream"
      ∧ of "https://user:pw@xn--bcher-kva.example:8443/a2a" = .ok interface := by
  have hhost : (guardedInterface ["a2a", "", ""]).HostKept := by
    rintro authority hauthority
    obtain rfl := Option.some.inj hauthority
    exact List.all_eq_true.mp (by decide)
  have hparse : Url.parse "https://user:pw@bücher.example:8443/a2a//" = .ok (guardedInterface ["a2a", "", ""]) := by
    decide +kernel
  have hplain : Url.parse "https://user:pw@xn--bcher-kva.example:8443/a2a" = .ok (guardedInterface ["a2a"]) := by
    decide +kernel
  obtain ⟨interface, hof, -, -, hpath, -, hsame⟩ := stream_posted_below_interface hparse rfl hhost
  have htrimmed : (guardedInterface ["a2a", "", ""]).path.trimmed = "/a2a" := by decide
  have htext := hpath.mpr ⟨rfl, rfl⟩
  rw [htrimmed] at htext
  exact ⟨interface, hof, htext, hsame ⟨rfl, rfl⟩ _ _ hplain ⟨rfl, rfl, by decide⟩ ⟨rfl, rfl⟩⟩

/-- With a query the segment is part of the query, and the message is posted to the interface itself. -/
theorem stream_of_tenant_interface :
    ∃ base interface, Url.parse "http://[::1]/a2a?tenant=x" = .ok base
      ∧ base.kind = .network
      ∧ of "http://[::1]/a2a?tenant=x" = .ok interface
      ∧ interface.streamUrl.path.text = "/a2a"
      ∧ interface.streamUrl.query = some "tenant=x/message:stream"
      ∧ interface.streamUrl.path.text ≠ base.path.trimmed ++ "/message:stream" := by
  refine ⟨⟨"http", some (.ofHost (.ipv6 [0, 0, 0, 0, 0, 0, 0, 1])), false, .segments ["a2a"], some "tenant=x", none⟩,
    ⟨⟨"http", some (.ofHost (.ipv6 [0, 0, 0, 0, 0, 0, 0, 1])), false, .segments ["a2a"],
      some "tenant=x/message:stream", none⟩⟩, rfl, rfl, rfl, by decide, rfl, by decide⟩

end AgentDelegation.RestInterface

import AgentDelegation.Directory.CardUrl
import AgentDelegation.Proofs.Url.Bases
import AgentDelegation.Proofs.Url.LongNames

/-!
# The address of a card

The address of a card is that of its endpoint with the well-known segments in place of the slashes at the end
of the path. The path is not encoded again and no dots are resolved in it: the address is in normal form, so
it is what its own text says. The one exception is a host whose name is too long to be read again.
-/

namespace AgentDelegation.CardUrl

open Url Text.CodePoints

/-- The segments below the endpoint. -/
def wellKnownSegments : List String := [".well-known", "agent-card.json"]

theorem isSegment_of_mem_wellKnownSegments : ∀ s ∈ wellKnownSegments, IsSegment s := by
  have hknown : IsSegment ".well-known" :=
    ⟨forall_mem_of_any (by decide), forall_mem_of_any (by decide), by decide⟩
  have hcard : IsSegment "agent-card.json" :=
    ⟨forall_mem_of_any (by decide), forall_mem_of_any (by decide), by decide⟩
  simp only [wellKnownSegments, List.mem_cons, List.not_mem_nil, or_false]
  rintro s (rfl | rfl)
  · exact hknown
  · exact hcard

theorem text_wellKnownSegments : (Path.segments wellKnownSegments).text = "/" ++ wellKnown := by decide

/-! ### Failures -/

theorem ofEndpoint_error {endpoint : String} {failure : CardFailure} (h : ofEndpoint endpoint = .error failure) :
    ∃ reason, failure = .invalidEndpoint endpoint reason := by
  rw [ofEndpoint] at h
  split at h
  · exact ⟨_, (Except.error.inj h).symm⟩
  · split at h
    · cases h
    · exact ⟨_, (Except.error.inj h).symm⟩

theorem isRooted_eq_false_iff {path : Path} : path.isRooted = false ↔ ∃ plain, path = .rootless plain := by
  cases path <;> simp [Path.isRooted]

theorem ofEndpoint_fails_iff (endpoint : String) :
    (∃ failure, ofEndpoint endpoint = .error failure)
      ↔ (∃ fault, Url.parse endpoint = .error fault) ∨ ∃ url, Url.parse endpoint = .ok url ∧ url.CannotBeBase := by
  rw [ofEndpoint]
  cases hparse : Url.parse endpoint with
  | error fault => simp
  | ok url =>
      have hbase : url.CannotBeBase ↔ url.path.isRooted = false :=
        (cannotBeBase_of_parse hparse).trans isRooted_eq_false_iff.symm
      cases hrooted : url.path.isRooted with
      | false => simpa [hrooted] using hbase
      | true => simpa [hrooted] using hbase

/-! ### Network addresses -/

theorem ofEndpoint_of_network {endpoint : String} {url : Url} {segments : List String}
    (hparse : Url.parse endpoint = .ok url) (hkind : url.kind = .network) (hpath : url.path = .segments segments)
    (hsegments : ∀ s ∈ segments, IsSegment s) :
    ofEndpoint endpoint = .ok { url with
      path := .segments (Path.trimEmpty segments ++ wellKnownSegments), query := none, fragment := none } := by
  have hrooted : url.path.isRooted = true := by rw [hpath, Path.isRooted]
  have htext : trimSlashes url.path.text ++ "/" ++ wellKnown
      = (Path.segments (Path.trimEmpty segments ++ wellKnownSegments)).text := by
    rw [text_trimEmpty_append hsegments, text_wellKnownSegments, hpath, Path.trimmed, String.append_assoc]
  have hall : ∀ s ∈ Path.trimEmpty segments ++ wellKnownSegments, IsSegment s :=
    List.forall_mem_append.mpr ⟨isSegment_of_mem_trimEmpty hsegments, isSegment_of_mem_wellKnownSegments⟩
  have hread := (proper_of_parse hparse hkind).withPath (by simp [wellKnownSegments]) hall
  simp only [ofEndpoint, hparse, hrooted, if_true, htext, hread]

theorem ofEndpoint_of_samePlace {endpoint other : String} {url otherUrl : Url} (hparse : Url.parse endpoint = .ok url)
    (hkind : url.kind = .network) (hother : Url.parse other = .ok otherUrl) (hsame : otherUrl.SamePlace url) :
    ofEndpoint other = ofEndpoint endpoint := by
  have hotherKind : otherUrl.kind = .network := hsame.kind_eq.trans hkind
  have hproper := proper_of_parse hparse hkind
  have hotherProper := proper_of_parse hother hotherKind
  obtain ⟨segments, hpath, -, hsegments⟩ := hproper.path
  obtain ⟨others, hotherPath, -, hothers⟩ := hotherProper.path
  rw [ofEndpoint_of_network hparse hkind hpath hsegments, ofEndpoint_of_network hother hotherKind hotherPath hothers,
    hsame.trimEmpty_eq hotherPath hothers hpath hsegments, hsame.scheme, hsame.authority, hproper.joined,
    hotherProper.joined]

/-- The card of an endpoint is published below the endpoint, wherever that is. There is no such place exactly
if the endpoint is no address or one that cannot be a base. The address of the card is read from its text exactly if
its host can be. -/
theorem card_published_below_endpoint (endpoint : String) :
    ((∃ failure, ofEndpoint endpoint = .error failure)
        ↔ (∃ fault, Url.parse endpoint = .error fault) ∨ ∃ url, Url.parse endpoint = .ok url ∧ url.CannotBeBase)
      ∧ (∀ failure, ofEndpoint endpoint = .error failure → ∃ reason, failure = .invalidEndpoint endpoint reason)
      ∧ ∀ url, Url.parse endpoint = .ok url → url.kind = .network →
          ∃ card, ofEndpoint endpoint = .ok card
            ∧ card.scheme = url.scheme
            ∧ card.authority = url.authority
            ∧ card.path.text = url.path.trimmed ++ "/.well-known/agent-card.json"
            ∧ card.query = none
            ∧ card.fragment = none
            ∧ (∀ other otherUrl, Url.parse other = .ok otherUrl → otherUrl.SamePlace url → ofEndpoint other = .ok card)
            ∧ (Url.parse card.text = .ok card ↔ url.HostKept) := by
  refine ⟨ofEndpoint_fails_iff endpoint, fun failure => ofEndpoint_error, fun url hparse hkind => ?_⟩
  have hproper := proper_of_parse hparse hkind
  obtain ⟨segments, hpath, -, hsegments⟩ := hproper.path
  have hcard := ofEndpoint_of_network hparse hkind hpath hsegments
  refine ⟨_, hcard, rfl, rfl, ?_, rfl, rfl, fun other otherUrl hother hsame => ?_, ?_⟩
  · rw [text_trimEmpty_append hsegments, text_wellKnownSegments, hpath]
    rfl
  · rw [ofEndpoint_of_samePlace hparse hkind hother hsame, hcard]
  · exact parse_text_iff (hproper.extended hpath (by decide) isSegment_of_mem_wellKnownSegments)

/-- An endpoint with all parts that an address can have. -/
def guarded : Url :=
  { scheme := "https"
    authority := some ⟨"user", some "pw", .name "xn--bcher-kva.example", some 8443⟩
    isApart := false
    path := .segments ["a2a", "", ""]
    query := some "tenant=x"
    fragment := some "top" }

theorem card_of_guarded_endpoint :
    ∃ card, ofEndpoint "https://user:pw@bücher.example:8443/a2a//?tenant=x#top" = .ok card
      ∧ ofEndpoint "https://user:pw@xn--bcher-kva.example:8443/a2a" = .ok card
      ∧ Url.parse "https://user:pw@xn--bcher-kva.example:8443/a2a/.well-known/agent-card.json" = .ok card := by
  have hparse : Url.parse "https://user:pw@bücher.example:8443/a2a//?tenant=x#top" = .ok guarded := by decide +kernel
  obtain ⟨card, hcard, hscheme, hauthority, hpath, hquery, hfragment, hsame, hread⟩ :=
    (card_published_below_endpoint "https://user:pw@bücher.example:8443/a2a//?tenant=x#top").2.2 guarded hparse rfl
  have hhost : guarded.HostKept := by
    rintro authority hauthority
    obtain rfl := Option.some.inj hauthority
    exact List.all_eq_true.mp (by decide)
  have hplain : Url.parse "https://user:pw@xn--bcher-kva.example:8443/a2a"
      = .ok { guarded with path := .segments ["a2a"], query := none, fragment := none } := by decide +kernel
  refine ⟨card, hcard, hsame _ _ hplain ⟨rfl, rfl, by decide⟩, ?_⟩
  have htext : card.text = "https://user:pw@xn--bcher-kva.example:8443/a2a/.well-known/agent-card.json" := by
    simp only [Url.text, authorityText, hscheme, hauthority, hpath, hquery, hfragment, guarded]
    decide
  exact htext ▸ hread.mpr hhost

/-- Seven hundred Chinese characters, sixty apart. -/
def farLetters : List Char := (List.range 700).map fun i => Char.ofNat (0x20000 + 60 * i)

theorem toNat_farLetter {i : Nat} (h : i < 700) : (Char.ofNat (0x20000 + 60 * i)).toNat = 0x20000 + 60 * i := by
  refine toNat_ofNat (testBit_valid_iff.mpr ?_)
  rw [Nat.isValidChar]
  omega

theorem ideographs_farLetters : ∀ c ∈ farLetters, Domain.ideographs.testBit c.toNat = true := by
  rw [farLetters, List.forall_mem_map]
  intro i hi
  have hi := List.mem_range.mp hi
  rw [toNat_farLetter hi]
  exact testBit_between.mpr (by omega)

theorem farLetters_apart : farLetters.Pairwise fun c d => c.toNat + 60 ≤ d.toNat := by
  rw [farLetters, List.pairwise_map]
  refine List.pairwise_lt_range.imp_of_mem fun hi hj hlt => ?_
  rw [toNat_farLetter (List.mem_range.mp hi), toNat_farLetter (List.mem_range.mp hj)]
  omega

/-- An endpoint at a host that is named so. -/
def farEndpoint : String := String.ofList ("http".toList ++ ':' :: '/' :: '/' :: (farLetters ++ '/' :: "a2a/".toList))

/-- The card of such an endpoint has an address that its own text does not say. -/
theorem card_of_far_endpoint_not_read :
    ∃ url card, Url.parse farEndpoint = .ok url
      ∧ url.scheme = "http"
      ∧ ofEndpoint farEndpoint = .ok card
      ∧ Url.parse card.text = .error .invalidName := by
  have hlength : farLetters.length = 700 := by rw [farLetters, List.length_map, List.length_range]
  have hvisible : "a2a/".toList.all (0x20 < ·.toNat) = true := rfl
  obtain ⟨url, hparse, hscheme, hhost⟩ := not_hostKept_of_letters ideographs_farLetters (by omega) farLetters_apart
    (by omega) "http" rfl fun c hc => of_decide_eq_true (List.all_eq_true.mp hvisible c hc)
  have hkind : url.kind = .network := by rw [Url.kind, hscheme]; rfl
  have hproper := proper_of_parse hparse hkind
  obtain ⟨segments, hpath, -, hsegments⟩ := hproper.path
  refine ⟨url, _, hparse, hscheme, ofEndpoint_of_network hparse hkind hpath hsegments, ?_⟩
  exact parse_text_of_not_kept (hproper.extended hpath (by decide) isSegment_of_mem_wellKnownSegments) hhost

end AgentDelegation.CardUrl

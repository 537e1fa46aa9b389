import AgentDelegation.Proofs.Text.Utf8
import AgentDelegation.Proofs.Url.Names
import AgentDelegation.Proofs.Url.NumericHosts
import AgentDelegation.Proofs.Url.Percent
import AgentDelegation.Url.Parse

/-!
# Hosts read again

A host of a network address is a name in ASCII, or a number of either version within its bounds. Its text
keeps to itself: it ends before the port or the end of the authority, whatever follows. Read again it is the
same host, but for a name with a label in Punycode that is longer than the reader takes.
-/

namespace AgentDelegation.Url

open Text Domain

/-- A character in a class is none of those that end an authority, if these are outside it. -/
theorem endsAuthority_of_class {p : Char → Bool} {b : Bool} {c : Char} (hc : p c = b)
    (houtside : ∀ d ∈ ['/', '\\', '?', '#'], p d = !b) : endsAuthority .network c = false := by
  have hne : ∀ d ∈ ['/', '\\', '?', '#'], c ≠ d := fun d hd => ne_of_class hc (houtside d hd)
  simp only [List.forall_mem_cons] at hne
  obtain ⟨hslash, hback, hquery, hfragment, -⟩ := hne
  simp [endsAuthority, isSlash, hslash, hback, hquery, hfragment]

theorem endsAuthority_of_isNameChar {c : Char} (h : isNameChar c = true) : endsAuthority .network c = false :=
  endsAuthority_of_class h (forall_mem_of_any (by decide))

theorem isGraphic_of_isNameChar {c : Char} (h : isNameChar c = true) : isGraphic c = true := by
  simp only [isNameChar, isDenied, Bool.and_eq_true, decide_eq_true_eq, Bool.not_eq_true', Bool.or_eq_false_iff,
    decide_eq_false_iff_not] at h
  have hspace : c.toNat ≠ 0x20 := fun hspace => by
    obtain rfl : c = ' ' := Char.toNat_inj.mp hspace
    exact absurd h.2.2 (by decide)
  rw [isGraphic_iff]
  omega

theorem isNameChar_of_mem_ipv4Text {n : Nat} {c : Char} (h : c ∈ (ipv4Text n).toList) : isNameChar c = true := by
  have hall : ∀ d < 10, isNameChar d.digitChar = true := by decide
  rcases mem_ipv4Text h with rfl | ⟨d, hd, rfl⟩
  · decide
  · exact hall d hd

theorem isNameChar_of_mem_pieceText {n : Nat} {c : Char} (h : c ∈ Nat.toDigits 16 n) : isNameChar c = true := by
  have hall : ∀ d < 16, isNameChar d.digitChar = true := by decide
  obtain ⟨d, hd, rfl⟩ := exists_of_mem_toDigits (by decide) h
  exact hall d hd

/-! ### Where the characters of a host end -/

theorem hostChars_of_forall {cs : List Char} (h : ∀ c ∈ cs, endsAuthority .network c = false ∧ c ≠ ':' ∧ c ≠ '[')
    {rest : List Char} (hstop : hostChars .network false rest = []) : hostChars .network false (cs ++ rest) = cs := by
  induction cs with
  | nil => exact hstop
  | cons c cs ih =>
      obtain ⟨⟨hends, hcolon, hopen⟩, hcs⟩ := List.forall_mem_cons.mp h
      rw [List.cons_append, hostChars]
      simp [hends, hcolon, hopen, ih hcs]

theorem hostChars_inside {cs : List Char} (h : ∀ c ∈ cs, c = ':' ∨ isNameChar c = true) (rest : List Char) :
    hostChars .network true (cs ++ ']' :: rest) = cs ++ ']' :: hostChars .network false rest := by
  induction cs with
  | nil => rfl
  | cons c cs ih =>
      obtain ⟨hc, hcs⟩ := List.forall_mem_cons.mp h
      have hend : endsAuthority .network c = false := by
        rcases hc with rfl | hc
        · rfl
        · exact endsAuthority_of_isNameChar hc
      have hclose : c ≠ ']' := by
        rcases hc with rfl | hc
        · decide
        · exact ne_of_class hc (by decide)
      rw [List.cons_append, hostChars]
      simp [hend, hclose, ih hcs]

namespace Host

/-- The hosts of network addresses. -/
def Proper : Host → Prop
  | .name s => s ≠ "" ∧ endsInNumber s.toList = false ∧ ∃ letters, ascii? letters = some s.toList
  | .ipv4 address => address < 4294967296
  | .ipv6 pieces => pieces.length = 8 ∧ ∀ n ∈ pieces, n < 65536

/-- A name is kept if its labels in Punycode are no longer than the reader takes. -/
def NameKept : Host → Prop
  | .name s => ∀ label ∈ s.toList.splitOn '.', isReadable label = true
  | .ipv4 _ => True
  | .ipv6 _ => True

theorem proper_of_bracketed {cs : List Char} {host : Host} (h : bracketed cs = .ok host) : host.Proper := by
  rw [bracketed] at h
  split at h
  · split at h
    · rename_i pieces hpieces
      obtain rfl := Except.ok.inj h
      exact ipv6?_bounds hpieces
    · cases h
  · cases h

theorem proper_of_ofName {letters cs : List Char} (hascii : ascii? letters = some cs) {host : Host}
    (h : ofName cs = .ok host) : host.Proper := by
  rw [ofName] at h
  split at h
  · cases h
  rename_i hne
  split at h
  · split at h
    · rename_i address haddress
      obtain rfl := Except.ok.inj h
      exact ipv4?_lt haddress
    · cases h
  · rename_i hname
    obtain rfl := Except.ok.inj h
    refine ⟨?_, by simpa using hname, letters, by simpa using hascii⟩
    rw [Ne, ← String.toList_inj]
    simpa using hne

theorem proper_of_parse {cs : List Char} {host : Host} (h : parse cs = .ok host) : host.Proper := by
  rw [parse.eq_def] at h
  split at h
  · exact proper_of_bracketed h
  · split at h
    · rename_i ascii hascii
      obtain ⟨letters, -, hletters⟩ := Option.bind_eq_some_iff.mp hascii
      exact proper_of_ofName hletters h
    · cases h

/-- Colons stand between the brackets of a host only. -/
theorem text_cases {host : Host} (h : host.Proper) :
    (host.text.toList ≠ [] ∧ ∀ c ∈ host.text.toList, isNameChar c = true)
      ∨ ∃ inside, host.text.toList = '[' :: (inside ++ [']']) ∧ ∀ c ∈ inside, c = ':' ∨ isNameChar c = true := by
  cases host with
  | name s =>
      obtain ⟨hne, -, letters, hascii⟩ := h
      exact .inl ⟨by simpa [text] using hne, isNameChar_of_ascii? hascii⟩
  | ipv4 address => exact .inl ⟨ipv4Text_ne_nil address, fun c hc => isNameChar_of_mem_ipv4Text hc⟩
  | ipv6 pieces =>
      refine .inr ⟨(ipv6Text pieces).toList, ?_, fun c hc => ?_⟩
      · rw [text, String.toList_append, String.toList_append]
        rfl
      · exact (mem_ipv6Text hc).imp_right fun ⟨n, hn⟩ => isNameChar_of_mem_pieceText hn

theorem text_ne_nil {host : Host} (h : host.Proper) : host.text.toList ≠ [] := by
  rcases text_cases h with ⟨hne, -⟩ | ⟨inside, htext, -⟩
  · exact hne
  · rw [htext]
    exact List.cons_ne_nil _ _

theorem ne_of_proper {host : Host} (h : host.Proper) : host ≠ .name "" := by
  rintro rfl
  exact h.1 rfl

/-- The text of a host ends where the host does. -/
theorem hostChars_text {host : Host} (h : host.Proper) {rest : List Char}
    (hstop : hostChars .network false rest = []) :
    hostChars .network false (host.text.toList ++ rest) = host.text.toList := by
  rcases text_cases h with ⟨-, hchars⟩ | ⟨inside, htext, hinside⟩
  · refine hostChars_of_forall (fun c hc => ⟨endsAuthority_of_isNameChar (hchars c hc), ?_, ?_⟩) hstop
    · exact ne_of_class (hchars c hc) (by decide)
    · exact ne_of_class (hchars c hc) (by decide)
  · have hopen : hostChars .network false ('[' :: (inside ++ ']' :: rest))
        = '[' :: hostChars .network true (inside ++ ']' :: rest) := rfl
    rw [htext, List.cons_append, List.append_assoc, List.singleton_append, hopen, hostChars_inside hinside, hstop]

theorem parse_of_nameChars {cs : List Char} (hchars : ∀ c ∈ cs, isNameChar c = true) :
    parse cs = ((ascii? cs).map ofName).getD (.error .invalidName) := by
  have hpercent : '%' ∉ cs := fun hmem => absurd (hchars _ hmem) (by decide)
  rw [parse.eq_def]
  split
  · exact absurd (hchars _ List.mem_cons_self) (by decide)
  · rw [percentDecode_of_not_mem hpercent, Utf8.decode?_encode, Option.bind_eq_bind, Option.bind_some]
    cases ascii? cs <;> rfl

theorem isPlain_ipv4Text (n : Nat) : isPlain (ipv4Text n).toList = true := by
  rw [isPlain, splitOn_ipv4Text, Bool.and_eq_true, List.all_eq_true, List.all_map, List.all_eq_true]
  refine ⟨fun c hc => ?_, fun b _ => ?_⟩
  · have hall : ∀ d < 10, (!d.digitChar.isUpper) = true := by decide
    rcases mem_ipv4Text hc with rfl | ⟨d, hd, rfl⟩
    · decide
    · exact hall d hd
  · have hall : ∀ d < 10, ('x' == d.digitChar) = false := by decide
    obtain ⟨c, rest, hlabel⟩ := List.exists_cons_of_ne_nil (Nat.toDigits_ne_nil (n := b) (b := 10))
    obtain ⟨d, hd, rfl⟩ : ∃ d < 10, c = d.digitChar :=
      exists_of_mem_toDigits (n := b) (by decide) (by rw [hlabel]; exact List.mem_cons_self)
    rw [Function.comp_apply, hlabel, encodedMark, List.isPrefixOf, hall d hd]
    rfl

/-- A host is read from its text. -/
theorem parse_text {host : Host} (h : host.Proper) (hname : host.NameKept) : parse host.text.toList = .ok host := by
  cases host with
  | name s =>
      obtain ⟨hne, hends, letters, hascii⟩ := h
      have hsome : s.toList.isEmpty = false := by simpa using hne
      rw [text, parse_of_nameChars (isNameChar_of_ascii? hascii), ascii?_ascii? hascii hname]
      simp only [Option.map_some, Option.getD_some, ofName, hsome, hends, Bool.false_eq_true, if_false,
        String.ofList_toList]
  | ipv4 address =>
      have hchars : ∀ c ∈ (ipv4Text address).toList, isNameChar c = true := fun c => isNameChar_of_mem_ipv4Text
      have hsome : (ipv4Text address).toList.isEmpty = false := List.isEmpty_eq_false_iff.mpr (ipv4Text_ne_nil address)
      rw [text, parse_of_nameChars hchars, ascii?_of_plain hchars (isPlain_ipv4Text address)]
      simp only [Option.map_some, Option.getD_some, ofName, hsome, endsInNumber_ipv4Text, ipv4?_ipv4Text h,
        Bool.false_eq_true, if_false, if_true]
  | ipv6 pieces =>
      obtain ⟨hlength, hbound⟩ := h
      have htext : (Host.ipv6 pieces).text.toList = '[' :: ((ipv6Text pieces).toList ++ [']']) := by
        rw [text, String.toList_append, String.toList_append]
        rfl
      rw [htext, parse, bracketed, if_pos List.getLast?_concat, List.dropLast_concat, ipv6?_ipv6Text hlength hbound]

/-- A name that is not kept cannot be read at all. -/
theorem parse_text_of_not_kept {host : Host} (h : host.Proper) (hname : ¬ host.NameKept) :
    parse host.text.toList = .error .invalidName := by
  cases host with
  | name s =>
      obtain ⟨-, -, letters, hascii⟩ := h
      obtain ⟨label, hlabel, hlong⟩ : ∃ label ∈ s.toList.splitOn '.', isReadable label ≠ true := by
        simpa [NameKept] using hname
      rw [text, parse_of_nameChars (isNameChar_of_ascii? hascii),
        ascii?_of_unreadable hascii hlabel (by simpa using hlong)]
      rfl
  | ipv4 address => exact absurd trivial hname
  | ipv6 pieces => exact absurd trivial hname

/-- A name in Punycode is kept. -/
example : parse "xn--bcher-kva.example".toList = .ok (.name "xn--bcher-kva.example") := by decide +kernel

end Host

end AgentDelegation.Url

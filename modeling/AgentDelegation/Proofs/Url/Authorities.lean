import AgentDelegation.Proofs.Json.Fields
import AgentDelegation.Proofs.Url.Hosts

/-!
# Authorities read again

The authority of a network address is read back from its text: the last at sign ends the user and password,
the first colon before it the user, and the first colon outside brackets after it the host. None of these can
be mistaken, because the characters that end a part are encoded in the parts before.
-/

namespace AgentDelegation.Url

open Text Domain Json

/-! ### Ports -/

theorem readPort_bound {port : Option Nat} {cs : List Char} (hport : ∀ n, port = some n → n ≤ 65535)
    {after : Option Nat × List Char} (h : readPort port cs = .ok after) : ∀ n, after.1 = some n → n ≤ 65535 := by
  induction cs generalizing port with
  | nil =>
      obtain rfl := Except.ok.inj h
      exact hport
  | cons c rest ih =>
      simp only [readPort] at h
      split at h
      · split at h
        · cases h
        · rename_i hsmall
          refine ih (fun n hn => ?_) h
          obtain rfl := Option.some.inj hn
          exact Nat.not_lt.mp hsmall
      · split at h
        · obtain rfl := Except.ok.inj h
          exact hport
        · cases h

theorem readPort_digit {port : Option Nat} {c : Char} (hc : c.isDigit = true) {n : Nat}
    (hn : port.getD 0 * 10 + (c.toNat - 48) = n) (hbound : n ≤ 65535) (rest : List Char) :
    readPort port (c :: rest) = readPort (some n) rest := by
  subst hn
  simp only [readPort, hc, if_true, if_neg (Nat.not_lt.mpr hbound)]

theorem readPort_digits {digits : List Char} (hdigits : ∀ c ∈ digits, c.isDigit = true) {n : Nat} (rest : List Char)
    (hbound : Nat.ofDigitChars 10 digits n ≤ 65535) :
    readPort (some n) (digits ++ '/' :: rest) = .ok (some (Nat.ofDigitChars 10 digits n), '/' :: rest) := by
  induction digits generalizing n with
  | nil => rfl
  | cons c digits ih =>
      obtain ⟨hc, hrest⟩ := List.forall_mem_cons.mp hdigits
      rw [Nat.ofDigitChars_cons, Nat.mul_comm] at hbound ⊢
      -- A number only grows by further digits, so none on the way is too large.
      have hgrows : n * 10 + (c.toNat - '0'.toNat) ≤ Nat.ofDigitChars 10 digits (n * 10 + (c.toNat - '0'.toNat)) := by
        rw [Nat.ofDigitChars_eq_ofDigitChars_zero]
        exact Nat.le_add_right_of_le (Nat.le_mul_of_pos_left _ (Nat.pow_pos (by decide)))
      have hread : readPort (some n) (c :: (digits ++ '/' :: rest))
          = readPort (some (n * 10 + (c.toNat - '0'.toNat))) (digits ++ '/' :: rest) :=
        readPort_digit hc rfl (Nat.le_trans hgrows hbound) _
      rw [List.cons_append, hread, ih hrest hbound]

theorem readPort_toDigits {n : Nat} (h : n ≤ 65535) (rest : List Char) :
    readPort none (Nat.toDigits 10 n ++ '/' :: rest) = .ok (some n, '/' :: rest) := by
  have hdigits : ∀ c ∈ Nat.toDigits 10 n, c.isDigit = true := fun c hc =>
    Nat.isDigit_of_mem_toDigits (by decide) (by decide) hc
  have hvalue : Nat.ofDigitChars 10 (Nat.toDigits 10 n) 0 = n := Nat.ofDigitChars_ten_toDigits
  obtain ⟨c, digits, hsplit⟩ := List.exists_cons_of_ne_nil (Nat.toDigits_ne_nil (n := n) (b := 10))
  rw [hsplit] at hdigits hvalue
  rw [hsplit]
  -- The first digit is read as if a zero stood before it.
  have hfirst : readPort none (c :: digits ++ '/' :: rest) = readPort (some 0) (c :: digits ++ '/' :: rest) := by
    simp only [List.cons_append, readPort, hdigits c List.mem_cons_self, if_true, Option.getD_none, Option.getD_some]
  rw [hfirst, readPort_digits hdigits rest (hvalue.symm ▸ h), hvalue]

/-! ### Authorities -/

namespace Authority

/-- The authorities of network addresses: user and password are encoded, and the port must be written. -/
structure Proper (scheme : String) (authority : Authority) : Prop where
  user : ∀ c ∈ authority.user.toList, inUserInfo c = false
  password : ∀ p, authority.password = some p → p ≠ "" ∧ ∀ c ∈ p.toList, inUserInfo c = false
  host : authority.host.Proper
  port : ∀ n, authority.port = some n → n ≤ 65535 ∧ some n ≠ defaultPort? scheme

end Authority

theorem encodeUserInfo_spec (cs : List Char) : ∀ c ∈ (encodeUserInfo cs).toList, inUserInfo c = false := by
  rw [encodeUserInfo, String.toList_ofList]
  exact sparesBytes_inUserInfo.percentEncode

theorem encodeUserInfo_of_forall {s : String} (h : ∀ c ∈ s.toList, inUserInfo c = false) :
    encodeUserInfo s.toList = s := by
  rw [encodeUserInfo, percentEncode_of_forall h, String.ofList_toList]

theorem percentEncode_cons_ne_nil {encoded : Char → Bool} {c : Char} {cs : List Char} :
    percentEncode encoded (c :: cs) ≠ [] := by
  have hbytes : (Utf8.encode [c]).flatMap encodedByte ≠ [] := by
    obtain ⟨b, tail, hencode, -⟩ := Utf8.take_encodeChar c []
    rw [Utf8.encode_cons, hencode]
    exact List.cons_ne_nil _ _
  rw [percentEncode, List.flatMap_cons]
  split
  · exact List.append_ne_nil_of_left_ne_nil hbytes _
  · exact List.cons_ne_nil _ _

theorem readUserInfo_password {cs : List Char} {p : String} (h : (readUserInfo cs).2 = some p) :
    p ≠ "" ∧ ∀ c ∈ p.toList, inUserInfo c = false := by
  rw [readUserInfo] at h
  split at h
  · obtain rfl := Option.some.inj h
    refine ⟨?_, encodeUserInfo_spec _⟩
    rw [encodeUserInfo, Ne, ← String.toList_inj, String.toList_ofList]
    exact percentEncode_cons_ne_nil
  · cases h

theorem readUserInfo_user (cs : List Char) : ∀ c ∈ (readUserInfo cs).1.toList, inUserInfo c = false := by
  rw [readUserInfo]
  split
  · exact encodeUserInfo_spec _
  · exact encodeUserInfo_spec _

theorem readHostAndPort_proper {scheme : String} (hkind : SchemeKind.of scheme = .network) {cs rest : List Char}
    {host : Host} {port : Option Nat} (h : readHostAndPort scheme cs = .ok (host, port, rest)) :
    host.Proper ∧ ∀ n, port = some n → n ≤ 65535 ∧ some n ≠ defaultPort? scheme := by
  rw [readHostAndPort, hkind] at h
  obtain ⟨host', hhost, h⟩ := bind_eq_ok_iff.mp h
  have hproper : host'.Proper := by
    rw [readHost] at hhost
    split at hhost
    · cases hhost
    · exact Host.proper_of_parse hhost
  split at h
  · split at h
    · cases h
    obtain ⟨⟨read, more⟩, hread, h⟩ := bind_eq_ok_iff.mp h
    have hbound := readPort_bound (by simp) hread
    simp only [Except.ok.injEq, Prod.mk.injEq] at h
    obtain ⟨rfl, rfl, rfl⟩ := h
    refine ⟨hproper, fun n hn => ?_⟩
    split at hn
    · cases hn
    · rename_i hdefault
      exact ⟨hbound n hn, hn ▸ hdefault⟩
  · simp only [Except.ok.injEq, Prod.mk.injEq] at h
    obtain ⟨rfl, rfl, rfl⟩ := h
    exact ⟨hproper, by simp⟩

theorem readAuthority_proper {scheme : String} (hkind : SchemeKind.of scheme = .network) {cs rest : List Char}
    {authority : Authority} (h : readAuthority scheme cs = .ok (authority, rest)) : authority.Proper scheme := by
  rw [readAuthority, hkind] at h
  obtain ⟨⟨info, more⟩, hinfo⟩ : ∃ split, splitUserInfo .network cs = split := ⟨_, rfl⟩
  rw [hinfo] at h
  simp only at h
  split at h
  · cases h
  obtain ⟨⟨host, port, tail⟩, hread, h⟩ := bind_eq_ok_iff.mp h
  simp only at h
  split at h
  · cases h
  simp only [Except.ok.injEq, Prod.mk.injEq] at h
  obtain ⟨rfl, rfl⟩ := h
  obtain ⟨hhost, hport⟩ := readHostAndPort_proper hkind hread
  exact ⟨readUserInfo_user _, fun p => readUserInfo_password, hhost, hport⟩

/-! ### The text of an authority -/

/-- The characters that stand inside the parts of an authority. -/
def isInner (c : Char) : Bool := isGraphic c && !endsAuthority .network c && c != '@'

theorem isInner_of_isNameChar {c : Char} (h : isNameChar c = true) : isInner c = true := by
  have hat : c ≠ '@' := ne_of_class h (by decide)
  simp [isInner, isGraphic_of_isNameChar h, endsAuthority_of_isNameChar h, hat]

theorem isInner_of_not_inUserInfo {c : Char} (h : inUserInfo c = false) : isInner c = true := by
  have hgraphic := isGraphic_of_not_inFragment (not_inFragment_of_not_inPath (not_inPath_of_not_inUserInfo h))
  have hends : endsAuthority .network c = false := endsAuthority_of_class h (List.all_eq_true.mp (by decide))
  have hat : c ≠ '@' := ne_of_class h (by decide)
  simp [isInner, hgraphic, hends, hat]

theorem endsAuthority_of_isInner {c : Char} (h : isInner c = true) : endsAuthority .network c = false := by
  simp only [isInner, Bool.and_eq_true, Bool.not_eq_true'] at h
  exact h.1.2

theorem ne_at_of_isInner {c : Char} (h : isInner c = true) : c ≠ '@' := by
  simp only [isInner, Bool.and_eq_true, bne_iff_ne] at h
  exact h.2

theorem isGraphic_of_isInner {c : Char} (h : isInner c = true) : isGraphic c = true := by
  simp only [isInner, Bool.and_eq_true] at h
  exact h.1.1

def portChars (port : Option Nat) : List Char := port.elim [] fun n => ':' :: Nat.toDigits 10 n

theorem isInner_of_mem_portChars {port : Option Nat} : ∀ c ∈ portChars port, isInner c = true := by
  cases port with
  | none => simp [portChars]
  | some n =>
      have hall : ∀ d < 10, isInner d.digitChar = true := by decide
      refine List.forall_mem_cons.mpr ⟨by decide, fun c hc => ?_⟩
      obtain ⟨d, hd, rfl⟩ := exists_of_mem_toDigits (by decide) hc
      exact hall d hd

theorem isInner_of_mem_hostText {host : Host} (h : host.Proper) : ∀ c ∈ host.text.toList, isInner c = true := by
  rcases Host.text_cases h with ⟨-, hchars⟩ | ⟨inside, htext, hinside⟩
  · exact fun c hc => isInner_of_isNameChar (hchars c hc)
  · rw [htext, List.forall_mem_cons, List.forall_mem_append, List.forall_mem_singleton]
    refine ⟨by decide, fun c hc => ?_, by decide⟩
    rcases hinside c hc with rfl | hname
    · decide
    · exact isInner_of_isNameChar hname

/-- Host and port are read back, up to the path. -/
theorem readHostAndPort_text {scheme : String} (hkind : SchemeKind.of scheme = .network) {host : Host}
    (hhost : host.Proper) (hname : host.NameKept) {port : Option Nat}
    (hport : ∀ n, port = some n → n ≤ 65535 ∧ some n ≠ defaultPort? scheme) (rest : List Char) :
    readHostAndPort scheme (host.text.toList ++ (portChars port ++ '/' :: rest)) = .ok (host, port, '/' :: rest) := by
  have hstop : hostChars .network false (portChars port ++ '/' :: rest) = [] := by
    cases port <;> rfl
  have hsome : host.text.toList.isEmpty = false := List.isEmpty_eq_false_iff.mpr (Host.text_ne_nil hhost)
  have hnamed : host ≠ .name "" := Host.ne_of_proper hhost
  have hread : readHost .network host.text.toList = .ok host := by
    simp only [readHost, hsome, Bool.false_eq_true, if_false, Host.parse_text hhost hname]
  rw [readHostAndPort, hkind, Host.hostChars_text hhost hstop, hread, List.drop_left]
  cases port with
  | none => rfl
  | some n =>
      obtain ⟨hbound, hdefault⟩ := hport n rfl
      simp only [bind, Except.bind, portChars, Option.elim_some, List.cons_append, hnamed, if_false,
        readPort_toDigits hbound, hdefault]

theorem readHostAndPort_text_error {scheme : String} (hkind : SchemeKind.of scheme = .network) {host : Host}
    (hhost : host.Proper) {fault : Fault} (hfault : Host.parse host.text.toList = .error fault) (port : Option Nat)
    (rest : List Char) :
    readHostAndPort scheme (host.text.toList ++ (portChars port ++ '/' :: rest)) = .error fault := by
  have hstop : hostChars .network false (portChars port ++ '/' :: rest) = [] := by
    cases port <;> rfl
  have hsome : host.text.toList.isEmpty = false := List.isEmpty_eq_false_iff.mpr (Host.text_ne_nil hhost)
  have hread : readHost .network host.text.toList = .error fault := by
    simp only [readHost, hsome, Bool.false_eq_true, if_false, hfault]
  rw [readHostAndPort, hkind, Host.hostChars_text hhost hstop, hread]
  rfl

theorem takeWhile_authority {cs : List Char} (h : ∀ c ∈ cs, endsAuthority .network c = false) (rest : List Char) :
    (cs ++ '/' :: rest).takeWhile (!endsAuthority .network ·) = cs := by
  have hkeep : ∀ c ∈ cs, (!endsAuthority .network c) = true := fun c hc => by rw [h c hc, Bool.not_false]
  rw [List.takeWhile_append_of_pos hkeep]
  exact List.append_nil cs

theorem dropWhile_authority {cs : List Char} (h : ∀ c ∈ cs, endsAuthority .network c = false) (rest : List Char) :
    (cs ++ '/' :: rest).dropWhile (!endsAuthority .network ·) = '/' :: rest := by
  have hkeep : ∀ c ∈ cs, (!endsAuthority .network c) = true := fun c hc => by rw [h c hc, Bool.not_false]
  rw [List.dropWhile_append_of_pos hkeep]
  rfl

section

variable {info host : List Char} (hends : ∀ c ∈ host, endsAuthority .network c = false) (hat : '@' ∉ host)
  (rest : List Char)
include hends hat

theorem splitUserInfo_of_host : splitUserInfo .network (host ++ '/' :: rest) = (none, host ++ '/' :: rest) := by
  have hat : host.contains '@' = false := by
    rwa [List.contains_eq_mem, decide_eq_false_iff_not]
  simp only [splitUserInfo, takeWhile_authority hends, hat, Bool.false_eq_true, if_false]

theorem splitUserInfo_of_info (hinfo : ∀ c ∈ info, isInner c = true) :
    splitUserInfo .network (info ++ '@' :: host ++ '/' :: rest) = (some info, host ++ '/' :: rest) := by
  have hends : ∀ c ∈ info ++ '@' :: host, endsAuthority .network c = false := by
    rw [List.forall_mem_append, List.forall_mem_cons]
    exact ⟨fun c hc => endsAuthority_of_isInner (hinfo c hc), rfl, hends⟩
  have hlast : ((info ++ '@' :: host).reverse.takeWhile (· != '@')).reverse = host := by
    have hback : ∀ c ∈ host.reverse, (c != '@') = true := fun c hc =>
      bne_iff_ne.mpr fun heq => hat (heq ▸ List.mem_reverse.mp hc)
    rw [List.reverse_append, List.reverse_cons, List.append_assoc, List.takeWhile_append_of_pos hback]
    simp
  have hat : (info ++ '@' :: host).contains '@' = true := by simp
  have hlength : (info ++ '@' :: host).length - host.length - 1 = info.length := by
    rw [List.length_append, List.length_cons]
    omega
  simp only [splitUserInfo, takeWhile_authority hends, dropWhile_authority hends, hlast, hat, if_true, hlength,
    List.take_left]

end

namespace Authority

/-- The characters before the at sign. -/
def infoChars (authority : Authority) : List Char :=
  authority.user.toList ++ authority.password.elim [] fun p => ':' :: p.toList

theorem readUserInfo_infoChars {scheme : String} {authority : Authority} (h : authority.Proper scheme) :
    readUserInfo authority.infoChars = (authority.user, authority.password) := by
  obtain ⟨user, password, host, port⟩ := authority
  have hcolon : ∀ c ∈ user.toList, (c != ':') = true := fun c hc =>
    bne_iff_ne.mpr (ne_of_class (h.user c hc) (by decide))
  have huser : encodeUserInfo user.toList = user := encodeUserInfo_of_forall h.user
  simp only [readUserInfo, infoChars, List.takeWhile_append_of_pos hcolon, List.dropWhile_append_of_pos hcolon]
  cases password with
  | none => simpa using huser
  | some p =>
      obtain ⟨hne, hchars⟩ := h.password p rfl
      obtain ⟨c, rest, hp⟩ := List.exists_cons_of_ne_nil (l := p.toList) (by simpa using hne)
      have hpassword := encodeUserInfo_of_forall hchars
      rw [hp] at hpassword
      simp [hp, huser, hpassword]

theorem isInner_of_mem_infoChars {scheme : String} {authority : Authority} (h : authority.Proper scheme) :
    ∀ c ∈ authority.infoChars, isInner c = true := by
  rw [infoChars, List.forall_mem_append]
  refine ⟨fun c hc => isInner_of_not_inUserInfo (h.user c hc), ?_⟩
  cases hpassword : authority.password with
  | none => simp
  | some p =>
      refine List.forall_mem_cons.mpr ⟨by decide, fun c hc => ?_⟩
      exact isInner_of_not_inUserInfo ((h.password p hpassword).2 c hc)

theorem toList_userInfo (authority : Authority) :
    authority.userInfo.toList = if authority.infoChars = [] then [] else authority.infoChars ++ ['@'] := by
  obtain ⟨user, password, host, port⟩ := authority
  cases password with
  | none => by_cases huser : user = "" <;> simp [userInfo, infoChars, huser]
  | some p => simp [userInfo, infoChars]

theorem toList_portText (port : Option Nat) :
    ((port.map fun n => ":" ++ toString n).getD "").toList = portChars port := by
  cases port with
  | none => rfl
  | some n => simp [portChars]

theorem toList_text (authority : Authority) :
    authority.text.toList
      = (if authority.infoChars = [] then [] else authority.infoChars ++ ['@'])
        ++ (authority.host.text.toList ++ portChars authority.port) := by
  rw [text, String.toList_append, String.toList_append, toList_userInfo, toList_portText, List.append_assoc]

end Authority

theorem Authority.text_ne_nil {scheme : String} {authority : Authority} (h : authority.Proper scheme) :
    authority.text.toList ≠ [] := by
  rw [Authority.toList_text]
  exact List.append_ne_nil_of_right_ne_nil _ (List.append_ne_nil_of_left_ne_nil (Host.text_ne_nil h.host) _)

/-- No character in it ends an authority. -/
theorem Authority.forall_mem_text {scheme : String} {authority : Authority} (h : authority.Proper scheme) :
    ∀ c ∈ authority.text.toList, isGraphic c = true ∧ endsAuthority .network c = false := by
  have hinner {c : Char} (hc : isInner c = true) : isGraphic c = true ∧ endsAuthority .network c = false :=
    ⟨isGraphic_of_isInner hc, endsAuthority_of_isInner hc⟩
  rw [Authority.toList_text, List.forall_mem_append, List.forall_mem_append]
  refine ⟨?_, fun c hc => hinner (isInner_of_mem_hostText h.host c hc),
    fun c hc => hinner (isInner_of_mem_portChars c hc)⟩
  split
  · simp
  · rw [List.forall_mem_append, List.forall_mem_singleton]
    exact ⟨fun c hc => hinner (Authority.isInner_of_mem_infoChars h c hc), by decide⟩

section

variable {scheme : String} (hkind : SchemeKind.of scheme = .network) {authority : Authority}
  (h : authority.Proper scheme) (rest : List Char)
include h

theorem splitUserInfo_text :
    splitUserInfo .network (authority.text.toList ++ '/' :: rest)
      = (if authority.infoChars = [] then none else some authority.infoChars,
          authority.host.text.toList ++ (portChars authority.port ++ '/' :: rest)) := by
  have hhost : ∀ c ∈ authority.host.text.toList ++ portChars authority.port, isInner c = true :=
    List.forall_mem_append.mpr ⟨isInner_of_mem_hostText h.host, isInner_of_mem_portChars⟩
  have hends := fun c hc => endsAuthority_of_isInner (hhost c hc)
  have hat : '@' ∉ authority.host.text.toList ++ portChars authority.port := fun hmem =>
    ne_at_of_isInner (hhost _ hmem) rfl
  rw [Authority.toList_text, ← List.append_assoc _ _ ('/' :: rest)]
  split
  · exact splitUserInfo_of_host hends hat rest
  · rw [List.append_assoc authority.infoChars]
    exact splitUserInfo_of_info hends hat rest (Authority.isInner_of_mem_infoChars h)

include hkind

/-- An authority is read from its text, up to the path. -/
theorem readAuthority_text (hname : authority.host.NameKept) :
    readAuthority scheme (authority.text.toList ++ '/' :: rest) = .ok (authority, '/' :: rest) := by
  have hinfo : readUserInfo ((if authority.infoChars = [] then none else some authority.infoChars).getD [])
      = (authority.user, authority.password) := by
    have hread := Authority.readUserInfo_infoChars h
    split
    · rename_i hnil
      rwa [hnil] at hread
    · exact hread
  have hsome : decide ((if authority.infoChars = [] then none else some authority.infoChars) = some []) = false := by
    split <;> simp [*]
  have hnamed : decide (authority.host = .name "") = false := decide_eq_false (Host.ne_of_proper h.host)
  rw [readAuthority, hkind, splitUserInfo_text h]
  simp only [bind, Except.bind, hsome, hinfo, readHostAndPort_text hkind h.host hname h.port, hnamed, Bool.false_and,
    Bool.false_eq_true, if_false]

theorem readAuthority_text_error {fault : Fault} (hfault : Host.parse authority.host.text.toList = .error fault) :
    readAuthority scheme (authority.text.toList ++ '/' :: rest) = .error fault := by
  have hsome : decide ((if authority.infoChars = [] then none else some authority.infoChars) = some []) = false := by
    split <;> simp [*]
  rw [readAuthority, hkind, splitUserInfo_text h]
  simp only [bind, Except.bind, hsome, readHostAndPort_text_error hkind h.host hfault, Bool.false_and,
    Bool.false_eq_true, if_false]

end

end AgentDelegation.Url

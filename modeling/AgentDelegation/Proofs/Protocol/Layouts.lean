import AgentDelegation.Proofs.Delegation.Routing
import AgentDelegation.Proofs.Json.Alike

/-!
# Two layouts of a card

A card that lists its interfaces in the newer layout and one that lists the same in the older layout decode
to different records, and both say the same: the interfaces with a known binding come in the same order, and
everything that is asked of a card is asked of these. What is listed further down never takes anything away
from what stands before it.
-/

namespace AgentDelegation

open Json

/-- The first element with a property stands no later than the first one with a stronger property. -/
theorem exists_find?_of_imp {α : Type} [BEq α] [LawfulBEq α] {p q : α → Bool} (h : ∀ x, p x = true → q x = true)
    {list : List α} {x : α} (hx : list.find? p = some x) :
    ∃ y, list.find? q = some y ∧ list.idxOf y ≤ list.idxOf x := by
  induction list with
  | nil => cases hx
  | cons first rest ih =>
      by_cases hq : q first = true
      · refine ⟨first, List.find?_cons_of_pos hq, ?_⟩
        rw [List.idxOf_cons_self]
        exact Nat.zero_le _
      · have hp : ¬ p first = true := fun hp => hq (h first hp)
        rw [List.find?_cons_of_neg hp] at hx
        obtain ⟨y, hy, hle⟩ := ih hx
        have hnex : first ≠ x := by
          rintro rfl
          exact hp (List.find?_some hx)
        have hney : first ≠ y := by
          rintro rfl
          exact hq (List.find?_some hy)
        refine ⟨y, (List.find?_cons_of_neg hq).trans hy, ?_⟩
        rw [List.idxOf_cons_ne _ hnex, List.idxOf_cons_ne _ hney]
        exact Nat.succ_le_succ hle

/-! ### Interfaces -/

namespace AgentInterface

/-- What a card makes of an interface: nothing if its binding is unknown. -/
def entry? (interface : AgentInterface) : Option (Binding × String) := interface.binding?.map (·, interface.url)

/-- The value says the interface, the binding under the first of two names. -/
inductive SaidUnder (name otherName : String) : Value → AgentInterface → Prop where
  | obj {members : Members} {interface : AgentInterface} (hurl : valuesOf "url" members = [.str interface.url])
      (hbinding : valuesOf name members = [.str interface.binding]) (hother : valuesOf otherName members = []) :
      SaidUnder name otherName (.obj members) interface

/-- The field of the binding goes by two names. -/
def bindingField : Json.Field String := ⟨"protocolBinding", some "transport", .text, none, none, fun _ => false⟩

theorem readValue_of_members {members : Members} {interface : AgentInterface}
    (hurl : valuesOf "url" members = [.str interface.url])
    (hbinding : (bindingField.occurrences 0 members).map Prod.snd = [.str interface.binding]) :
    format.readValue (.obj members) = .ok interface := by
  have haddress : (Record.required "url" Format.text url).readMembers members = .ok interface.url :=
    (Field.readMember_eq_ok_iff (by simp)).mpr (.member hurl rfl)
  have hprotocol : (Record.field bindingField binding).readMembers members = .ok interface.binding :=
    Field.readMember_of_sole hbinding rfl
  refine Record.readObject_eq_ok_iff.mpr ⟨?_, fun _ _ _ => rfl, rfl⟩
  exact Record.readMembers_seq_eq_ok_iff.mpr
    ⟨mk interface.url, interface.binding, Record.readMembers_map_eq_ok_iff.mpr ⟨_, haddress, rfl⟩, hprotocol, rfl⟩

theorem readValue_of_newer {v : Value} {interface : AgentInterface}
    (h : SaidUnder "protocolBinding" "transport" v interface) : format.readValue v = .ok interface := by
  obtain ⟨hurl, hbinding, hother⟩ := h
  refine readValue_of_members hurl ?_
  rw [Field.map_snd_occurrences]
  · exact hbinding
  · intro other hsame
    obtain rfl := Option.some.inj hsame
    exact hother

theorem readValue_of_older {v : Value} {interface : AgentInterface}
    (h : SaidUnder "transport" "protocolBinding" v interface) : format.readValue v = .ok interface := by
  obtain ⟨hurl, hbinding, hother⟩ := h
  refine readValue_of_members hurl ?_
  rw [Field.map_snd_occurrences_of_other rfl hother]
  exact hbinding

end AgentInterface

namespace AgentCard

/-! ### What depends on the interfaces -/

variable {card other longer : AgentCard}

theorem interfaces_eq (card : AgentCard) :
    card.interfaces = card.listedInterfaces.filterMap AgentInterface.entry? := rfl

theorem advertises_congr (h : other.interfaces = card.interfaces) : other.advertises = card.advertises := by
  funext binding
  rw [advertises, advertises, h]

theorem bindings_congr (h : other.interfaces = card.interfaces) : other.bindings = card.bindings := by
  rw [bindings, bindings, advertises_congr h]

theorem interfaceUrl?_congr (h : other.interfaces = card.interfaces) (binding : Binding) :
    other.interfaceUrl? binding = card.interfaceUrl? binding := by
  rw [interfaceUrl?, interfaceUrl?, h]

theorem select?_congr (h : other.interfaces = card.interfaces) (available : Binding → Bool) :
    other.select? available = card.select? available := by
  rw [select?, select?, advertises_congr h]

/-- A longer card has the addresses of the card for the bindings that the card has, and the binding that it
is talked to over is the same or one of a higher priority. -/
structure GrowsTo (card longer : AgentCard) : Prop where
  urls : ∀ binding ∈ card.bindings, longer.interfaceUrl? binding = card.interfaceUrl? binding
  choice : ∀ available binding, card.select? available = some binding →
    ∃ better, longer.select? available = some better ∧ Binding.all.idxOf better ≤ Binding.all.idxOf binding

theorem growsTo_of_append (more : List (Binding × String)) (h : longer.interfaces = card.interfaces ++ more) :
    card.GrowsTo longer where
  urls binding hadvertised := by
    obtain ⟨url, hurl⟩ := exists_interfaceUrl? (mem_bindings_iff.mp hadvertised)
    obtain ⟨entry, hentry, -⟩ := Option.map_eq_some_iff.mp hurl
    rw [interfaceUrl?, interfaceUrl?, h, List.find?_append, hentry, Option.some_or]
  choice available binding hselect := by
    refine exists_find?_of_imp (fun other hother => ?_) hselect
    obtain ⟨hadvertised, havailable⟩ := (Bool.and_eq_true ..).mp hother
    rw [advertises] at hadvertised
    rw [advertises, h, List.any_append, hadvertised, havailable]
    rfl

/-! ### Documents -/

/-- The names of the members that say how an agent is reached. -/
def layoutNames : List String := ["supportedInterfaces", "url", "preferredTransport", "additionalInterfaces"]

/-- A document without what it says of how the agent is reached. -/
def body (members : Members) : Members := members.filter fun member => !layoutNames.contains member.1

theorem valuesOf_body {name : String} (hname : name ∉ layoutNames) (members : Members) :
    valuesOf name (body members) = valuesOf name members := by
  simp only [valuesOf, body, List.filter_filter]
  congr 1
  apply List.filter_congr
  intro member _
  by_cases hsame : member.1 = name
  · simp [hsame, hname]
  · simp [hsame]

/-- The card with other things said of how the agent is reached. -/
def reachedBy (card : AgentCard) (supported : List AgentInterface) (main preferred : Option String)
    (additional : List AgentInterface) : AgentCard :=
  { card with
    supportedInterfaces := supported, url := main, preferredTransport := preferred,
    additionalInterfaces := additional }

/-- Whatever a card says of how the agent is reached, the rest of it is read as before. -/
theorem readValue_of_body {members : Members} {base : AgentCard} {supported additional : List AgentInterface}
    {main preferred : Option String} (hbase : format.readValue (.obj (body members)) = .ok base)
    (hsupported : Says "supportedInterfaces" (fun v x => (Format.list AgentInterface.format).readValue v = .ok x)
      (some []) members supported)
    (hmain : Says "url" (fun v x => (Format.optional .text).readValue v = .ok x) (some none) members main)
    (hpreferred : Says "preferredTransport" (fun v x => (Format.optional .text).readValue v = .ok x) (some none)
      members preferred)
    (hadditional : Says "additionalInterfaces" (fun v x => (Format.list AgentInterface.format).readValue v = .ok x)
      (some []) members additional) :
    format.readValue (.obj members) = .ok (base.reachedBy supported main preferred additional) := by
  have hkept (name : String) (hname : name ∉ layoutNames) : valuesOf name (body members) = valuesOf name members :=
    valuesOf_body hname members
  have hread : ∃ card, format.readValue (.obj members) = .ok card ∧
      base.reachedBy supported main preferred additional = card := by
    refine Record.Carries.exists_readValue
      (Record.Carries.kept rfl (hkept _ (by decide)) name
        |>.map mk
        |>.seq (.kept rfl (hkept _ (by decide)) description)
        |>.seq (.kept rfl (hkept _ (by decide)) version)
        |>.seq (.kept rfl (hkept _ (by decide)) protocolVersion)
        |>.seq (.given rfl hsupported supportedInterfaces)
        |>.seq (.given rfl hmain url)
        |>.seq (.given rfl hpreferred preferredTransport)
        |>.seq (.given rfl hadditional additionalInterfaces)
        |>.seq (.kept rfl (hkept _ (by decide)) capabilities)
        |>.seq (.kept rfl (hkept _ (by decide)) defaultInputModes)
        |>.seq (.kept rfl (hkept _ (by decide)) defaultOutputModes)
        |>.seq (.kept rfl (hkept _ (by decide)) skills))
      (fun base card => base.reachedBy supported main preferred additional = card) ?_ hbase
    intro name _ hname description _ hdescription version _ hversion protocolVersion _ hprotocol _ _ hsupported
      _ _ hmain _ _ hpreferred _ _ hadditional capabilities _ hcapabilities inputModes _ hinput outputModes _ houtput
      skills _ hskills
    rw [← hname, ← hdescription, ← hversion, ← hprotocol, ← hsupported, ← hmain, ← hpreferred, ← hadditional,
      ← hcapabilities, ← hinput, ← houtput, ← hskills]
    rfl
  obtain ⟨card, hcard, rfl⟩ := hread
  exact hcard

/-- The newer layout lists all interfaces in one place. -/
structure Newer (members : Members) (interfaces : List AgentInterface) : Prop where
  listed : ∃ items, valuesOf "supportedInterfaces" members = [.arr items] ∧
    List.Forall₂ (AgentInterface.SaidUnder "protocolBinding" "transport") items interfaces
  no_url : valuesOf "url" members = []
  no_preference : valuesOf "preferredTransport" members = []
  no_more : valuesOf "additionalInterfaces" members = []
  body : ∃ base, format.readValue (.obj (body members)) = .ok base

/-- The older layout has a main interface, whose binding may be left out if it is JSON-RPC in any spelling,
and lists the further ones. -/
structure Older (members : Members) (main : AgentInterface) (further : List AgentInterface) : Prop where
  no_list : valuesOf "supportedInterfaces" members = []
  url : valuesOf "url" members = [.str main.url]
  preference : valuesOf "preferredTransport" members = [.str main.binding] ∨
    (valuesOf "preferredTransport" members = [] ∧ main.binding? = some .jsonRpc)
  more : (∃ items, valuesOf "additionalInterfaces" members = [.arr items] ∧
      List.Forall₂ (AgentInterface.SaidUnder "transport" "protocolBinding") items further) ∨
    (valuesOf "additionalInterfaces" members = [] ∧ further = [])
  body : ∃ base, format.readValue (.obj (body members)) = .ok base

/-- A document of a card that has the interfaces in one of the two layouts. -/
inductive Lists (members : Members) : List AgentInterface → Prop where
  | newer {interfaces : List AgentInterface} (h : Newer members interfaces) : Lists members interfaces
  | older {main : AgentInterface} {further : List AgentInterface} (h : Older members main further) :
      Lists members (main :: further)

variable {members : Members} {interfaces further : List AgentInterface} {main : AgentInterface}

theorem says_list {name : String} {items : List Value} {reads : Value → AgentInterface → Prop}
    (hsole : valuesOf name members = [.arr items]) (hitems : List.Forall₂ reads items interfaces)
    (hreads : ∀ v interface, reads v interface → AgentInterface.format.readValue v = .ok interface) :
    Says name (fun v x => (Format.list AgentInterface.format).readValue v = .ok x) (some []) members interfaces :=
  .member hsole (Format.readValue_list_eq_ok_iff.mpr ⟨items, rfl, hitems.imp hreads⟩)

theorem readValue_of_newer (h : Newer members interfaces) :
    ∃ base : AgentCard, format.readValue (.obj members) = .ok (base.reachedBy interfaces none none []) := by
  obtain ⟨items, hsole, hitems⟩ := h.listed
  obtain ⟨base, hbase⟩ := h.body
  refine ⟨base, readValue_of_body hbase ?_ (.absent h.no_url rfl) (.absent h.no_preference rfl)
    (.absent h.no_more rfl)⟩
  exact says_list hsole hitems fun _ _ => AgentInterface.readValue_of_newer

theorem readValue_of_older (h : Older members main further) :
    ∃ (base : AgentCard) (preferred : Option String),
      format.readValue (.obj members) = .ok (base.reachedBy [] (some main.url) preferred further) ∧
      (preferred = some main.binding ∨ (preferred = none ∧ main.binding? = some .jsonRpc)) := by
  obtain ⟨base, hbase⟩ := h.body
  have hmore : Says "additionalInterfaces" (fun v x => (Format.list AgentInterface.format).readValue v = .ok x)
      (some []) members further := by
    rcases h.more with ⟨items, hsole, hitems⟩ | ⟨hnone, rfl⟩
    · exact says_list hsole hitems fun _ _ => AgentInterface.readValue_of_older
    · exact .absent hnone rfl
  rcases h.preference with hsole | ⟨hnone, hbinding⟩
  · refine ⟨base, some main.binding, ?_, .inl rfl⟩
    exact readValue_of_body hbase (.absent h.no_list rfl) (.member h.url rfl) (.member hsole rfl) hmore
  · refine ⟨base, none, ?_, .inr ⟨rfl, hbinding⟩⟩
    exact readValue_of_body hbase (.absent h.no_list rfl) (.member h.url rfl) (.absent hnone rfl) hmore

theorem interfaces_of_newer (base : AgentCard) (interfaces : List AgentInterface) :
    (base.reachedBy interfaces none none []).interfaces = interfaces.filterMap AgentInterface.entry? := by
  have hlisted : (base.reachedBy interfaces none none []).listedInterfaces = interfaces :=
    (List.append_nil _).trans (List.append_nil _)
  rw [interfaces_eq, hlisted]

/-- A main interface without a binding counts as one of the binding that was left out. -/
theorem interfaces_of_older (base : AgentCard) {preferred : Option String} (further : List AgentInterface)
    (h : preferred = some main.binding ∨ (preferred = none ∧ main.binding? = some .jsonRpc)) :
    (base.reachedBy [] (some main.url) preferred further).interfaces
      = (main :: further).filterMap AgentInterface.entry? := by
  have hmain : AgentInterface.entry? ⟨main.url, preferred.getD "JSONRPC"⟩ = main.entry? := by
    rcases h with rfl | ⟨rfl, hbinding⟩
    · rfl
    · have hdefault : Binding.ofText? "JSONRPC" = some .jsonRpc := Binding.ofText?_name .jsonRpc
      rw [AgentInterface.entry?, AgentInterface.entry?, hbinding]
      exact congrArg _ hdefault
  change ((⟨main.url, preferred.getD "JSONRPC"⟩ : AgentInterface) :: further).filterMap AgentInterface.entry? = _
  rw [List.filterMap_cons, List.filterMap_cons, hmain]

theorem exists_card_of_lists (h : Lists members interfaces) :
    ∃ card, format.readValue (.obj members) = .ok card ∧
      card.interfaces = interfaces.filterMap AgentInterface.entry? := by
  cases h with
  | newer hnewer =>
      obtain ⟨base, hread⟩ := readValue_of_newer hnewer
      exact ⟨_, hread, interfaces_of_newer base interfaces⟩
  | @older main further holder =>
      obtain ⟨base, preferred, hread, hpreferred⟩ := readValue_of_older holder
      exact ⟨_, hread, interfaces_of_older base further hpreferred⟩

/-- A document that lists interfaces in the newer layout and one that lists the same in the older layout are
both read as cards, with whatever else they say. The cards have the interfaces of known bindings in the order
in which they are listed, and so they agree on the bindings, on the address for each and on the binding to talk
over. A card with further interfaces behind these, whether it is read from a document in either layout or put
together from one of the two cards, keeps the addresses and never comes to a binding of lower priority. -/
theorem layouts_say_the_same {others : Members} (hnewer : Newer members (main :: further))
    (holder : Older others main further) :
    ∃ card other : AgentCard,
      format.readValue (.obj members) = .ok card ∧ format.readValue (.obj others) = .ok other ∧
      card.interfaces = (main :: further).filterMap AgentInterface.entry? ∧ other.interfaces = card.interfaces ∧
      other.bindings = card.bindings ∧ (∀ binding, other.interfaceUrl? binding = card.interfaceUrl? binding) ∧
      (∀ available, other.select? available = card.select? available) ∧
      (∀ document more, Lists document (main :: further ++ more) →
        ∃ longer, format.readValue (.obj document) = .ok longer ∧ card.GrowsTo longer) ∧
      ∀ more, card.GrowsTo { card with supportedInterfaces := card.supportedInterfaces ++ more } ∧
        other.GrowsTo { other with additionalInterfaces := other.additionalInterfaces ++ more } := by
  obtain ⟨base, hread⟩ := readValue_of_newer hnewer
  obtain ⟨base', preferred, hread', hpreferred⟩ := readValue_of_older holder
  have hinterfaces := interfaces_of_newer base (main :: further)
  have hsame : (base'.reachedBy [] (some main.url) preferred further).interfaces
      = (base.reachedBy (main :: further) none none []).interfaces :=
    (interfaces_of_older base' further hpreferred).trans hinterfaces.symm
  refine ⟨_, _, hread, hread', hinterfaces, hsame, bindings_congr hsame, interfaceUrl?_congr hsame,
    select?_congr hsame, fun document more hlists => ?_, fun more => ⟨?_, ?_⟩⟩
  · obtain ⟨longer, hlonger, hentries⟩ := exists_card_of_lists hlists
    refine ⟨longer, hlonger, growsTo_of_append (more.filterMap AgentInterface.entry?) ?_⟩
    rw [hentries, hinterfaces, List.filterMap_append]
  · refine growsTo_of_append (more.filterMap AgentInterface.entry?) ?_
    rw [hinterfaces, ← List.filterMap_append]
    exact interfaces_of_newer base (main :: further ++ more)
  · refine growsTo_of_append (more.filterMap AgentInterface.entry?) ?_
    rw [interfaces_of_older base' further hpreferred, ← List.filterMap_append]
    exact interfaces_of_older base' (further ++ more) hpreferred

/-- Three interfaces, the second of a binding that is not known. -/
def pigeons : List AgentInterface :=
  [⟨"http://mail", " json_rpc "⟩, ⟨"http://loft", "carrier pigeon"⟩, ⟨"http://post", "Grpc"⟩]

def newerPigeons : Members :=
  [("name", .str "pigeons"), ("supportedInterfaces", .arr (pigeons.map fun interface =>
    .obj [("protocolBinding", .str interface.binding), ("url", .str interface.url)]))]

/-- In the older layout without the main binding. -/
def olderPigeons : Members :=
  [("additionalInterfaces", .arr (pigeons.tail.map fun interface =>
    .obj [("transport", .str interface.binding), ("url", .str interface.url)])),
    ("name", .str "doves"), ("skills", .arr []), ("url", .str "http://mail")]

theorem layouts_say_the_same_pigeons :
    Newer newerPigeons pigeons ∧ Older olderPigeons ⟨"http://mail", " json_rpc "⟩ pigeons.tail ∧
      ∃ card other : AgentCard, format.readValue (.obj newerPigeons) = .ok card ∧
        format.readValue (.obj olderPigeons) = .ok other ∧
        other.interfaces = [(.jsonRpc, "http://mail"), (.grpc, "http://post")] ∧
        other.interfaceUrl? .grpc = card.interfaceUrl? .grpc ∧
        other.select? (fun _ => true) = card.select? (fun _ => true) ∧
        other.GrowsTo { other with
          additionalInterfaces := other.additionalInterfaces ++ [⟨"http://late", "rest"⟩] } := by
  have hmail : Binding.ofText? " json_rpc " = some .jsonRpc := by decide +kernel
  have hloft : Binding.ofText? "carrier pigeon" = none := by decide +kernel
  have hpost : Binding.ofText? "Grpc" = some .grpc := by decide +kernel
  have hnewer : Newer newerPigeons pigeons := by
    refine ⟨⟨_, rfl, ?_⟩, rfl, rfl, rfl, ⟨_, rfl⟩⟩
    rw [List.forall₂_map_left_iff, List.forall₂_same]
    exact fun interface _ => .obj rfl rfl rfl
  have holder : Older olderPigeons ⟨"http://mail", " json_rpc "⟩ pigeons.tail := by
    refine ⟨rfl, rfl, .inr ⟨rfl, hmail⟩, .inl ⟨_, rfl, ?_⟩, ⟨_, rfl⟩⟩
    rw [List.forall₂_map_left_iff, List.forall₂_same]
    exact fun interface _ => .obj rfl rfl rfl
  obtain ⟨card, other, hcard, hother, hentries, hsame, -, hurl, hselect, -, hgrows⟩ :=
    layouts_say_the_same hnewer holder
  refine ⟨hnewer, holder, card, other, hcard, hother, ?_, hurl _, hselect _, (hgrows _).2⟩
  rw [hsame, hentries]
  simp [AgentInterface.entry?, AgentInterface.binding?, hmail, hloft, hpost]

end AgentCard

end AgentDelegation

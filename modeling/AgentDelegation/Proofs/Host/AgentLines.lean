import AgentDelegation.Host.Basic
import AgentDelegation.Proofs.Text.Split
import Mathlib.Algebra.GroupWithZero.Nat

/-!
# The lines about agents

The operator is shown one line for each agent, with the name that the agent is configured under in front of
the first tab. The rest of the line comes from the card of the agent and is written as it stands, so a card with
a line feed in its name or its description ends the line and writes the next one itself, up to the name in front
of the tab. Nothing is lost to such a card, but what it adds cannot be told from the line of another agent.
-/

namespace AgentDelegation

namespace Text

/-- What stands in front of the first tab. -/
def firstField (line : String) : String := String.ofList (line.toList.takeWhile (· != '\t'))

/-- The first line of a text has as its first field what stands in front of the first tab of the text, where no
line feed comes before it. -/
theorem exists_lines_of_front {text : String} {front rest : List Char} (htext : text.toList = front ++ '\t' :: rest)
    (htab : '\t' ∉ front) (hfeed : '\n' ∉ front) :
    ∃ first more, lines text = first :: more ∧ firstField first = String.ofList front := by
  obtain ⟨piece, pieces, hpieces⟩ := List.exists_cons_of_ne_nil (List.splitOn_ne_nil '\n' text.toList)
  have hpiece : piece = front ++ '\t' :: rest.takeWhile (· != '\n') := by
    have hhead := head?_splitOn '\n' text.toList
    rw [hpieces, List.head?_cons, Option.some.injEq] at hhead
    rw [hhead, htext, List.takeWhile_append_of_pos (by grind)]
    rfl
  refine ⟨_, _, by rw [lines, hpieces, List.map_cons], ?_⟩
  rw [firstField, String.toList_ofList, hpiece, List.takeWhile_append_of_pos (by grind), List.takeWhile_cons_of_neg (by simp),
    List.append_nil]

end Text

/-- The line feeds in what the operator is shown of a card. -/
def AgentCard.lineFeeds (card : AgentCard) : Nat := card.name.toList.count '\n' + card.description.toList.count '\n'

theorem AgentCard.lineFeeds_eq_zero_iff {card : AgentCard} :
    card.lineFeeds = 0 ↔ '\n' ∉ card.name.toList ∧ '\n' ∉ card.description.toList := by
  rw [lineFeeds, Nat.add_eq_zero_iff, List.count_eq_zero, List.count_eq_zero]

namespace Host

theorem lineFeed_not_mem_bindings (bindings : List Binding) :
    '\n' ∉ (", ".intercalate (bindings.map Binding.name)).toList := by
  rw [String.toList_intercalate]
  induction bindings with
  | nil => simp
  | cons binding rest ih =>
      have hname : '\n' ∉ binding.name.toList := by cases binding <;> decide
      cases rest with
      | nil => simpa using hname
      | cons next more =>
          rw [List.map_cons, List.map_cons, List.map_cons, List.map_cons, List.intercalate_cons_cons]
          simp only [List.mem_append, not_or]
          exact ⟨⟨hname, by decide⟩, ih⟩

/-- The line about an agent behind its name and the first tab. -/
def cardText (card : AgentCard) : String :=
  card.name ++ "\t[" ++ ", ".intercalate (card.bindings.map Binding.name) ++ "]\t" ++ card.description

theorem toList_agentLine (name : String) (card : AgentCard) :
    (agentLine name card).toList = name.toList ++ '\t' :: (cardText card).toList := by
  simp [agentLine, cardText, String.toList_intercalate, List.intercalate]

theorem count_cardText (card : AgentCard) : (cardText card).toList.count '\n' = card.lineFeeds := by
  have hbindings := List.count_eq_zero_of_not_mem (lineFeed_not_mem_bindings card.bindings)
  have hopen : "\t[".toList.count '\n' = 0 := by decide
  have hclose : "]\t".toList.count '\n' = 0 := by decide
  simp only [cardText, String.toList_append, List.count_append, hbindings, hopen, hclose, AgentCard.lineFeeds]
  omega

/-! ### One agent -/

theorem length_lines_agentLine {name : String} (hname : '\n' ∉ name.toList) (card : AgentCard) :
    (Text.lines (agentLine name card)).length = card.lineFeeds + 1 := by
  rw [Text.length_lines, toList_agentLine, List.count_append, List.count_cons_of_ne (by decide), count_cardText,
    List.count_eq_zero_of_not_mem hname, Nat.zero_add]

theorem exists_lines_agentLine {name : String} (htab : '\t' ∉ name.toList) (hfeed : '\n' ∉ name.toList)
    (card : AgentCard) : ∃ first more, Text.lines (agentLine name card) = first :: more ∧ Text.firstField first = name := by
  obtain ⟨first, more, hlines, hfield⟩ := Text.exists_lines_of_front (toList_agentLine name card) htab hfeed
  exact ⟨first, more, hlines, hfield.trans String.ofList_toList⟩

/-! ### All agents -/

/-- A name that stays in one field of one line. -/
def IsPlainName (name : String) : Prop := '\t' ∉ name.toList ∧ '\n' ∉ name.toList

instance (name : String) : Decidable (IsPlainName name) := inferInstanceAs (Decidable (_ ∧ _))

/-- The lines about agents. -/
def agentLines (entries : List (String × AgentCard)) : List String :=
  entries.flatMap fun entry => Text.lines (agentLine entry.1 entry.2)

variable {entries : List (String × AgentCard)}

theorem length_agentLines (h : ∀ entry ∈ entries, IsPlainName entry.1) :
    (agentLines entries).length = entries.length + (entries.map fun entry => entry.2.lineFeeds).sum := by
  induction entries with
  | nil => rfl
  | cons entry rest ih =>
      obtain ⟨hentry, hrest⟩ := List.forall_mem_cons.mp h
      have hline := length_lines_agentLine hentry.2 entry.2
      rw [agentLines, List.flatMap_cons, List.length_append, ← agentLines, ih hrest, hline, List.length_cons,
        List.map_cons, List.sum_cons]
      omega

theorem sublist_agentLines (h : ∀ entry ∈ entries, IsPlainName entry.1) :
    (entries.map Prod.fst).Sublist ((agentLines entries).map Text.firstField) := by
  induction entries with
  | nil => exact .slnil
  | cons entry rest ih =>
      obtain ⟨hentry, hrest⟩ := List.forall_mem_cons.mp h
      obtain ⟨first, more, hlines, hfield⟩ := exists_lines_agentLine hentry.1 hentry.2 entry.2
      rw [agentLines, List.flatMap_cons, hlines, List.cons_append, List.map_cons, List.map_cons, hfield, List.map_append]
      exact ((ih hrest).trans (List.sublist_append_right _ _)).cons_cons _

/-- There is one line for each agent exactly if no card has a line feed. -/
theorem agentLines_faithful_iff (h : ∀ entry ∈ entries, IsPlainName entry.1) :
    ((agentLines entries).length = entries.length ∧ (agentLines entries).map Text.firstField = entries.map Prod.fst)
      ↔ ∀ entry ∈ entries, entry.2.lineFeeds = 0 := by
  have hsum : (entries.map fun entry => entry.2.lineFeeds).sum = 0 ↔ ∀ entry ∈ entries, entry.2.lineFeeds = 0 := by
    rw [List.sum_eq_zero_iff_forall_eq_nat, List.forall_mem_map]
  rw [← hsum, length_agentLines h, Nat.add_eq_left]
  refine ⟨And.left, fun hnone => ⟨hnone, ?_⟩⟩
  have hlength := length_agentLines h
  rw [hnone, Nat.add_zero] at hlength
  refine ((sublist_agentLines h).eq_of_length ?_).symm
  rw [List.length_map, List.length_map, hlength]

theorem lines_listAgents {host : Host} (h : host.delegator.directory.names ≠ []) :
    Text.lines host.listAgents = agentLines host.delegator.directory.cards.entries := by
  have hne : host.delegator.directory.cards.entries ≠ [] := by
    simpa [Directory.names, NameMap.names] using h
  rw [listAgents, if_neg (by simpa [Directory.isEmpty, NameMap.isEmpty] using hne),
    Text.lines_intercalate (by simpa using hne), List.flatMap_map]
  rfl

/-- Where the configured names hold neither tabs nor line feeds, the command about agents prints a line for each
agent and one more for each line feed in the name or the description on a card. Among the first fields of the
lines are the configured names, in name order. There are no other lines, and the first field of each is the
name of its agent, exactly if no card has a line feed there. -/
theorem agents_listed_apart_iff (host : Host) (id : String) (hsome : host.delegator.directory.names ≠ [])
    (hnames : ∀ name ∈ host.delegator.directory.names, '\t' ∉ name.toList ∧ '\n' ∉ name.toList) :
    host.delegator.directory.names.Pairwise (· < ·) ∧
    (Text.lines (host.run id .agents)).length = host.delegator.directory.size
      + (host.delegator.directory.cards.entries.map fun entry => entry.2.lineFeeds).sum ∧
    host.delegator.directory.names.Sublist ((Text.lines (host.run id .agents)).map Text.firstField) ∧
    (((Text.lines (host.run id .agents)).length = host.delegator.directory.size ∧
        (Text.lines (host.run id .agents)).map Text.firstField = host.delegator.directory.names)
      ↔ ∀ entry ∈ host.delegator.directory.cards.entries,
          '\n' ∉ entry.2.name.toList ∧ '\n' ∉ entry.2.description.toList) := by
  have hplain : ∀ entry ∈ host.delegator.directory.cards.entries, IsPlainName entry.1 := fun entry hentry =>
    hnames entry.1 (List.mem_map_of_mem hentry)
  simp only [run, lines_listAgents hsome, ← AgentCard.lineFeeds_eq_zero_iff]
  exact ⟨List.pairwise_map.mpr host.delegator.directory.cards.ordered, length_agentLines hplain,
    sublist_agentLines hplain, agentLines_faithful_iff hplain⟩

/-- A host that found the agents of a directory. -/
def showing (directory : Directory) : Host := ⟨.default, ⟨directory, .empty, Delegator.defaultTimeout⟩, .empty⟩

/-- Two agents with tabs in the texts of their cards. -/
def neighbours : Directory :=
  .ofCards [("orders", { AgentCard.blank with name := "Order Agent", description := "billing\tBilling Agent" }),
    ("billing", { AgentCard.blank with name := "\t" })]

theorem agents_listed_apart_neighbours :
    neighbours.names ≠ [] ∧ (∀ name ∈ neighbours.names, '\t' ∉ name.toList ∧ '\n' ∉ name.toList) ∧
    (∀ entry ∈ neighbours.cards.entries, '\n' ∉ entry.2.name.toList ∧ '\n' ∉ entry.2.description.toList) ∧
    (Text.lines ((showing neighbours).run "1" .agents)).length = 2 ∧
    (Text.lines ((showing neighbours).run "1" .agents)).map Text.firstField = ["billing", "orders"] := by
  have hsome : neighbours.names ≠ [] := by decide +kernel
  have hnames : ∀ name ∈ neighbours.names, '\t' ∉ name.toList ∧ '\n' ∉ name.toList := by decide +kernel
  have hcards : ∀ entry ∈ neighbours.cards.entries,
      '\n' ∉ entry.2.name.toList ∧ '\n' ∉ entry.2.description.toList := by decide +kernel
  obtain ⟨-, -, -, hiff⟩ := agents_listed_apart_iff (showing neighbours) "1" hsome hnames
  obtain ⟨hlength, hfields⟩ := hiff.mpr hcards
  exact ⟨hsome, hnames, hcards, hlength, hfields.trans (by decide +kernel)⟩

/-- An agent whose card goes on with a line of its own. -/
def impostor : Directory :=
  .ofCards [("orders",
    { AgentCard.blank with name := "Order Agent", description := "Orders\nbilling\tBilling Agent\t[JSONRPC]\tInvoices" })]

/-- The command shows an agent that is not there. -/
theorem agents_of_impostor :
    impostor.names = ["orders"] ∧ IsPlainName "orders" ∧ impostor.size = 1 ∧
    Text.lines ((showing impostor).run "1" .agents)
      = ["orders\tOrder Agent\t[]\tOrders", "billing\tBilling Agent\t[JSONRPC]\tInvoices"] ∧
    (Text.lines ((showing impostor).run "1" .agents)).map Text.firstField = ["orders", "billing"] := by
  decide +kernel

end Host

end AgentDelegation

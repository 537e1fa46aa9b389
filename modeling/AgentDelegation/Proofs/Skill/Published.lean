import AgentDelegation.Proofs.Delegation.Routing
import AgentDelegation.Proofs.Json.Conveyed
import AgentDelegation.Proofs.Skill.Views

/-!
# The card that others discover

An agent builds its card from its settings and its registered skills and sends it as a text. Every card has a
text that reads as the card again, so whoever fetches it finds what the agent was configured with: an address
for each binding, the binding to talk over whatever bindings the other side has, and the skills.
-/

namespace AgentDelegation

open Json Format

variable {α : Type}

/-! ### Cards and their texts -/

theorem AgentInterface.textual (depth : Nat) : AgentInterface.format.Textual (depth + 1) := by
  have htext := textual_text depth
  exact (Record.Textual.field (.required htext) url
    |>.map mk
    |>.seq (.field (.required htext) binding)).format (by decide) fun _ => rfl

theorem AgentSkill.textual (depth : Nat) : AgentSkill.format.Textual (depth + 2) := by
  have htext := textual_text (depth + 1)
  have hitem := textual_text depth
  exact (Record.Textual.field (.required htext) id
    |>.map mk
    |>.seq (.field (.required htext) name)
    |>.seq (.field (.defaulted htext) description)
    |>.seq (.field (.defaulted hitem.list) tags)
    |>.seq (.field (.listed hitem) examples)
    |>.seq (.field (.listed hitem) inputModes)
    |>.seq (.field (.listed hitem) outputModes)).format (by decide) fun _ => rfl

theorem Capabilities.textual (depth : Nat) : Capabilities.format.Textual (depth + 1) := by
  have hflag := textual_flag depth
  exact (Record.Textual.field (.defaulted hflag) streaming
    |>.map mk
    |>.seq (.field (.defaulted hflag) pushNotifications)
    |>.seq (.field (.defaulted hflag) stateTransitionHistory)).format (by decide) fun _ => rfl

/-- The deepest texts of a card stand in a list of a skill in the list of skills. -/
theorem AgentCard.textual : AgentCard.format.Textual 4 := by
  have htext := textual_text 3
  have hmode := textual_text 2
  have hinterface := AgentInterface.textual 1
  exact (Record.Textual.field (.required htext) name
    |>.map mk
    |>.seq (.field (.defaulted htext) description)
    |>.seq (.field (.defaulted htext) version)
    |>.seq (.field (.optional htext) protocolVersion)
    |>.seq (.field (.listed hinterface) supportedInterfaces)
    |>.seq (.field (.optional htext) url)
    |>.seq (.field (.optional htext) preferredTransport)
    |>.seq (.field (.listed hinterface) additionalInterfaces)
    |>.seq (.field (.defaulted (Capabilities.textual 2)) capabilities)
    |>.seq (.field (.defaulted hmode.list) defaultInputModes)
    |>.seq (.field (.defaulted hmode.list) defaultOutputModes)
    |>.seq (.field (.defaulted (AgentSkill.textual 0).list) skills)).format (by decide) fun _ => rfl

/-! ### What a card says of the settings -/

namespace LocalAgent

variable {agent : LocalAgent} {registry : SkillRegistry α} {binding : Binding}

theorem interfaces_card (agent : LocalAgent) (registry : SkillRegistry α) :
    (agent.card registry).interfaces = agent.bindings.map (·, agent.url) := by
  have hlisted : (agent.card registry).listedInterfaces = agent.bindings.map (AgentInterface.of agent.url) :=
    (List.append_nil _).trans (List.append_nil _)
  have hentries : (fun interface : AgentInterface => interface.binding?.map (·, interface.url))
      ∘ AgentInterface.of agent.url = some ∘ (·, agent.url) := by
    funext binding
    rw [Function.comp_apply, AgentInterface.binding?, AgentInterface.of, Binding.ofText?_name, Option.map_some,
      Function.comp_apply]
  rw [AgentCard.interfaces, hlisted, List.filterMap_map, hentries, List.filterMap_eq_map]

theorem advertises_card_iff : (agent.card registry).advertises binding = true ↔ binding ∈ agent.bindings := by
  simp [AgentCard.advertises, interfaces_card]

theorem interfaceUrl?_card (agent : LocalAgent) (registry : SkillRegistry α) (binding : Binding) :
    (agent.card registry).interfaceUrl? binding = if binding ∈ agent.bindings then some agent.url else none := by
  rw [AgentCard.interfaceUrl?, interfaces_card, List.find?_map, Option.map_map]
  cases hfind : agent.bindings.find? ((fun entry => entry.1 == binding) ∘ fun other => (other, agent.url)) with
  | none =>
      have hnot : binding ∉ agent.bindings := fun hmem => by simpa using List.find?_eq_none.mp hfind binding hmem
      rw [if_neg hnot]
      rfl
  | some found =>
      have hmem : binding ∈ agent.bindings := by
        obtain rfl : found = binding := by simpa using List.find?_some hfind
        exact List.mem_of_find?_eq_some hfind
      rw [if_pos hmem]
      rfl

theorem select?_card_eq_some_iff {available : Binding → Bool} :
    (agent.card registry).select? available = some binding
      ↔ IsFirst (fun binding => binding ∈ agent.bindings ∧ available binding = true) Binding.all binding := by
  rw [AgentCard.select?]
  apply find?_eq_some_iff_isFirst
  intro other
  rw [Bool.and_eq_true, advertises_card_iff]

theorem select?_card_eq_none_iff {available : Binding → Bool} :
    (agent.card registry).select? available = none ↔ ∀ binding ∈ agent.bindings, available binding = false := by
  simp [AgentCard.select?, Binding.mem_all, advertises_card_iff]

/-- The card of the agent after calls on a new registry. -/
def cardAfter (agent : LocalAgent) (calls : List (Skill α)) : AgentCard :=
  agent.card (SkillRegistry.empty.after calls)

/-- The texts of the published card, compact and indented, read as the card itself, and so does its value as it
is written and with its members in name order. On the card stand the configured bindings in their order, each
at the configured address. That is the address found for each of them, and for no other binding one is found.
Whatever bindings are available to the other side, it chooses the first of all that is both configured and
available, if there is one. The skills are those accepted, in the order of their registration, and the modes
those of the registry, at least one of either sort. -/
theorem published_card_is_discovered (agent : LocalAgent) (calls : List (Skill α)) :
    AgentCard.format.readText (AgentCard.format.write (agent.cardAfter calls)).compact = .ok (agent.cardAfter calls) ∧
    AgentCard.format.readText (AgentCard.format.write (agent.cardAfter calls)).pretty = .ok (agent.cardAfter calls) ∧
    AgentCard.format.readValue (AgentCard.format.write (agent.cardAfter calls)) = .ok (agent.cardAfter calls) ∧
    AgentCard.format.readValue (AgentCard.format.write (agent.cardAfter calls)).settled
      = .ok (agent.cardAfter calls) ∧
    (agent.cardAfter calls).interfaces = agent.bindings.map (·, agent.url) ∧
    (∀ binding, (agent.cardAfter calls).interfaceUrl? binding
      = if binding ∈ agent.bindings then some agent.url else none) ∧
    (∀ available binding, (agent.cardAfter calls).select? available = some binding
      ↔ IsFirst (fun binding => binding ∈ agent.bindings ∧ available binding = true) Binding.all binding) ∧
    (∀ available, (agent.cardAfter calls).select? available = none
      ↔ ∀ binding ∈ agent.bindings, available binding = false) ∧
    List.Forall₂ AgentSkill.Shows (agent.cardAfter calls).skills
      ((SkillRegistry.accepted calls).map Skill.descriptor) ∧
    (agent.cardAfter calls).defaultInputModes = (SkillRegistry.empty.after calls).inputModes ∧
    (agent.cardAfter calls).defaultOutputModes = (SkillRegistry.empty.after calls).outputModes ∧
    (agent.cardAfter calls).defaultInputModes ≠ [] ∧ (agent.cardAfter calls).defaultOutputModes ≠ [] := by
  have hdepth : 4 ≤ Source.depthLimit := by decide
  refine ⟨AgentCard.textual.readText_compact hdepth _, AgentCard.textual.readText_pretty hdepth _,
    AgentCard.textual.rereads .of_id _, AgentCard.textual.rereads .of_settled _, interfaces_card agent _,
    interfaceUrl?_card agent _, fun available binding => select?_card_eq_some_iff,
    fun available => select?_card_eq_none_iff, ?_, rfl, rfl, SkillRegistry.unionModes_ne_nil _,
    SkillRegistry.unionModes_ne_nil _⟩
  rw [← SkillRegistry.skills_after]
  exact SkillRegistry.shows_card _ agent

/-- An agent with a quoted name that is configured with one binding twice and not with JSON-RPC. -/
def ordersDesk : LocalAgent := ⟨"\"orders\"\n", "", "1", "http://orders", [.httpJson, .grpc, .httpJson]⟩

/-- Three calls, of which the second is refused. -/
def deskCalls : List (Skill Nat) :=
  [⟨.of "lookup" "find" "", 0⟩, ⟨.of "lookup" "refund" "", 1⟩, ⟨.of "refund" "refund" "", 2⟩]

theorem published_card_of_desk :
    AgentCard.format.readText (AgentCard.format.write (ordersDesk.cardAfter deskCalls)).compact
      = .ok (ordersDesk.cardAfter deskCalls) ∧
    (ordersDesk.cardAfter deskCalls).interfaceUrl? .httpJson = some "http://orders" ∧
    (ordersDesk.cardAfter deskCalls).interfaceUrl? .jsonRpc = none ∧
    (ordersDesk.cardAfter deskCalls).select? (fun _ => true) = some .grpc ∧
    (ordersDesk.cardAfter deskCalls).select? (· != .grpc) = some .httpJson ∧
    (ordersDesk.cardAfter deskCalls).select? (· == .jsonRpc) = none ∧
    (ordersDesk.cardAfter deskCalls).skills.length = 2 := by
  have hreplies : SkillRegistry.empty.replies deskCalls = [none, some (.duplicate .id "lookup"), none] := by
    decide +kernel
  obtain ⟨hread, -, -, -, -, hurl, hselect, hnone, hskills, -⟩ := ordersDesk.published_card_is_discovered deskCalls
  refine ⟨hread, hurl .httpJson, hurl .jsonRpc, (hselect _ _).mpr ?_, (hselect _ _).mpr ?_, (hnone _).mpr ?_, ?_⟩
  · exact ⟨[], _, rfl, ⟨by decide, rfl⟩, nofun⟩
  · exact ⟨[.grpc, .jsonRpc], [], rfl, ⟨by decide, rfl⟩, by decide⟩
  · decide
  · rw [hskills.length_eq, SkillRegistry.accepted, hreplies]
    rfl

end LocalAgent

end AgentDelegation

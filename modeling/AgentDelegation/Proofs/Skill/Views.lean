import AgentDelegation.Proofs.NameMap
import AgentDelegation.Proofs.Skill.History
import AgentDelegation.Skill.LocalAgent
import Mathlib.Data.List.Forall2

/-!
# What a registry shows of its skills

A registry is looked at by id, by name, as a list, as a line of text and on a card. Ids and names are not
shared, so neither look-up can take one skill for another, and the table by name has room for all of them.
Only the list, the text and the card show the order of registration; the two look-ups forget it, so skills
that get along with each other can be registered in any order.
-/

namespace AgentDelegation

variable {α : Type}

/-- A skill as it is shown on a card: all that is known of it but the schema of its arguments. -/
structure AgentSkill.Shows (shown : AgentSkill) (skill : SkillDescriptor) : Prop where
  id_eq : shown.id = skill.id
  name_eq : shown.name = skill.name
  description_eq : shown.description = skill.description
  tags_eq : shown.tags = skill.tags
  examples_eq : shown.examples = skill.examples
  inputModes_eq : shown.inputModes = skill.inputModes
  outputModes_eq : shown.outputModes = skill.outputModes

/-- The words for one skill in the line about all of them. -/
def SkillDescriptor.words (skill : SkillDescriptor) : String :=
  skill.name ++ " (" ++ skill.description ++ ") [id: " ++ skill.id ++ "]"

namespace SkillRegistry

/-- The line about skills, as it grows while they are registered. -/
inductive Line : List SkillDescriptor → String → Prop where
  | none : Line [] ""
  | first (skill : SkillDescriptor) : Line [skill] ("This agent provides the following capabilities: " ++ skill.words)
  | next {skills : List SkillDescriptor} {text : String} (hskills : skills ≠ []) (htext : Line skills text)
      (skill : SkillDescriptor) : Line (skills ++ [skill]) (text ++ "; " ++ skill.words)

variable {registry : SkillRegistry α}

/-! ### Look-up -/

theorem find?_eq_some_iff_of_nodup {β : Type} {key : β → String} {list : List β} (h : (list.map key).Nodup)
    {value : String} {x : β} : (list.find? fun y => key y == value) = some x ↔ x ∈ list ∧ key x = value := by
  induction list with
  | nil => simp
  | cons first rest ih =>
      obtain ⟨hfirst, hrest⟩ := List.nodup_cons.mp h
      by_cases hkey : key first = value
      · have hnone : x ∈ rest → key x ≠ value := fun hx hsame =>
          hfirst (List.mem_map.mpr ⟨x, hx, hsame.trans hkey.symm⟩)
        rw [List.find?_cons_of_pos (by simpa using hkey), Option.some.injEq, List.mem_cons]
        constructor
        · rintro rfl
          exact ⟨.inl rfl, hkey⟩
        · rintro ⟨rfl | hx, hsame⟩
          · rfl
          · exact absurd hsame (hnone hx)
      · rw [List.find?_cons_of_neg (by simpa using hkey), ih hrest, List.mem_cons, or_and_right]
        exact (or_iff_right fun hx : x = first ∧ key x = value => hkey (hx.1 ▸ hx.2)).symm

theorem get?_eq_some_iff {id : String} {descriptor : SkillDescriptor} :
    registry.get? id = some descriptor ↔ ∃ skill ∈ registry.skills, skill.id = id ∧ skill.descriptor = descriptor := by
  have hnodup : (registry.list.map SkillDescriptor.id).Nodup := by
    rw [list, List.map_map]
    exact registry.idsDistinct
  rw [get?, find?_eq_some_iff_of_nodup hnodup, list, List.mem_map]
  constructor
  · rintro ⟨⟨skill, hskill, rfl⟩, hid⟩
    exact ⟨skill, hskill, hid, rfl⟩
  · rintro ⟨skill, hskill, hid, rfl⟩
    exact ⟨⟨skill, hskill, rfl⟩, hid⟩

theorem nodup_map_name (registry : SkillRegistry α) :
    ((registry.skills.map fun skill => (skill.name, skill)).map Prod.fst).Nodup := by
  rw [List.map_map]
  exact registry.namesDistinct

theorem get?_table_eq_some_iff {name : String} {skill : Skill α} :
    registry.table.get? name = some skill ↔ skill ∈ registry.skills ∧ skill.name = name := by
  rw [table, NameMap.get?_ofList_eq_some_iff registry.nodup_map_name, List.mem_map]
  constructor
  · rintro ⟨_, hskill, hpair⟩
    obtain ⟨rfl, rfl⟩ := Prod.mk.inj hpair
    exact ⟨hskill, rfl⟩
  · rintro ⟨hskill, rfl⟩
    exact ⟨skill, hskill, rfl⟩

theorem size_table (registry : SkillRegistry α) : registry.table.size = registry.size := by
  rw [table, NameMap.size_ofList registry.nodup_map_name, List.length_map]
  rfl

/-! ### Lists -/

theorem line_intercalate (first : SkillDescriptor) (rest : List SkillDescriptor) :
    Line (first :: rest)
      ("This agent provides the following capabilities: "
        ++ "; ".intercalate ((first :: rest).map SkillDescriptor.words)) := by
  induction rest using List.reverseRecOn with
  | nil => exact .first first
  | append_singleton rest skill ih =>
      have hnext := ih.next (List.cons_ne_nil _ _) skill
      rw [← List.cons_append, List.map_append,
        String.intercalate_append_of_ne_nil (by simp) (by simp), ← String.append_assoc, ← String.append_assoc]
      exact hnext

theorem line_describe (registry : SkillRegistry α) : Line registry.list registry.describe := by
  obtain ⟨skills, -, -, -, -⟩ := registry
  cases skills with
  | nil => exact .none
  | cons first rest => exact line_intercalate first.descriptor (rest.map Skill.descriptor)

theorem shows_card (registry : SkillRegistry α) (agent : LocalAgent) :
    List.Forall₂ AgentSkill.Shows (agent.card registry).skills registry.list := by
  change List.Forall₂ _ (registry.list.map SkillDescriptor.summary) _
  rw [List.forall₂_map_left_iff, List.forall₂_same]
  intro skill _
  exact ⟨rfl, rfl, rfl, rfl, rfl, rfl, rfl⟩

/-! ### Skills in any order -/

/-- Skills that get along with each other and with the registered ones are all accepted. -/
theorem accepts_all {calls : List (Skill α)} (hlabelled : ∀ skill ∈ calls, skill.Labelled)
    (hdistinct : (registry.skills ++ calls).Pairwise Skill.Distinct) :
    (registry.after calls).skills = registry.skills ++ calls ∧
      ∀ reply ∈ registry.replies calls, reply = none := by
  induction calls generalizing registry with
  | nil => simp [replies]
  | cons skill rest ih =>
      obtain ⟨hskill, hrest⟩ := List.forall_mem_cons.mp hlabelled
      obtain ⟨-, -, hcross⟩ := List.pairwise_append.mp hdistinct
      have hreply : registry.reply skill = none :=
        verdict_iff.mp (.accepted hskill fun other hother => hcross other hother skill List.mem_cons_self)
      have hskills := skills_offer_of_accepted hreply
      have hnext : ((registry.offer skill).skills ++ rest).Pairwise Skill.Distinct := by
        rwa [hskills, List.append_assoc]
      obtain ⟨hafter, hreplies⟩ := ih hrest hnext
      refine ⟨?_, ?_⟩
      · rw [after_cons, hafter, hskills, List.append_assoc]
        rfl
      · rw [replies, hreply]
        exact List.forall_mem_cons.mpr ⟨rfl, hreplies⟩

theorem table_eq_of_perm {other : SkillRegistry α} (h : registry.skills.Perm other.skills) :
    registry.table = other.table :=
  NameMap.ofList_eq_of_perm (h.map _) registry.nodup_map_name

theorem get?_eq_of_perm {other : SkillRegistry α} (h : registry.skills.Perm other.skills) (id : String) :
    registry.get? id = other.get? id := by
  refine Option.ext fun descriptor => ?_
  rw [get?_eq_some_iff, get?_eq_some_iff]
  simp only [h.mem_iff]

/-- After any calls the views of the registry show the accepted skills, all of them and nothing else. The
table has one entry for each, in name order, and under its name stands the skill itself with its action;
the look-up by id finds the skill with that id; list, line and card go through the skills in the order of
their registration. Skills that get along with each other are all accepted, and neither the table nor the
look-up by id depends on their order. -/
theorem views_of_history :
    (∀ calls : List (Skill α),
      (empty.after calls).table.size = (accepted calls).length ∧
      (empty.after calls).table.names.Pairwise (· < ·) ∧
      (∀ name skill, (empty.after calls).table.get? name = some skill ↔ skill ∈ accepted calls ∧ skill.name = name) ∧
      (∀ id descriptor, (empty.after calls).get? id = some descriptor
        ↔ ∃ skill ∈ accepted calls, skill.id = id ∧ skill.descriptor = descriptor) ∧
      (empty.after calls).list = (accepted calls).map Skill.descriptor ∧
      Line ((accepted calls).map Skill.descriptor) (empty.after calls).describe ∧
      ∀ agent : LocalAgent, List.Forall₂ AgentSkill.Shows (agent.card (empty.after calls)).skills
        ((accepted calls).map Skill.descriptor)) ∧
    ∀ first second : List (Skill α), first.Perm second → (∀ skill ∈ first, skill.Labelled) →
      first.Pairwise Skill.Distinct →
      (∀ reply ∈ empty.replies first, reply = none) ∧ (∀ reply ∈ empty.replies second, reply = none) ∧
      (empty.after first).table = (empty.after second).table ∧
      ∀ id, (empty.after first).get? id = (empty.after second).get? id := by
  refine ⟨fun calls => ?_, fun first second hperm hlabelled hdistinct => ?_⟩
  · rw [← skills_after]
    exact ⟨size_table _, List.pairwise_map.mpr (table _).ordered, fun _ _ => get?_table_eq_some_iff,
      fun _ _ => get?_eq_some_iff, rfl, line_describe _, shows_card _⟩
  · have hlabelled' : ∀ skill ∈ second, skill.Labelled := fun skill h => hlabelled skill (hperm.mem_iff.mpr h)
    have hdistinct' : second.Pairwise Skill.Distinct :=
      hperm.pairwise hdistinct fun h => ⟨h.id_ne.symm, h.name_ne.symm⟩
    obtain ⟨hfirst, haccepts⟩ := @accepts_all _ empty first hlabelled hdistinct
    obtain ⟨hsecond, haccepts'⟩ := @accepts_all _ empty second hlabelled' hdistinct'
    have hskills : (empty.after first).skills.Perm (empty.after second).skills := by
      rw [hfirst, hsecond]
      exact hperm
    exact ⟨haccepts, haccepts', table_eq_of_perm hskills, get?_eq_of_perm hskills⟩

/-- Three skills that get along, their names in another order than their ids. -/
def trio : List (Skill Nat) :=
  [⟨.of "b" "beta" "second", 2⟩, ⟨.of "a" "gamma" "first", 1⟩, ⟨.of "c" "alpha" "third", 3⟩]

theorem views_of_history_trio :
    (∀ skill ∈ trio, skill.Labelled) ∧ trio.Pairwise Skill.Distinct ∧
    empty.replies trio.reverse = [none, none, none] ∧
    (empty.after trio).table.names = ["alpha", "beta", "gamma"] ∧
    (empty.after trio.reverse).table = (empty.after trio).table ∧
    (empty.after trio.reverse).get? "a" = some (.of "a" "gamma" "first") ∧
    (empty.after trio).list ≠ (empty.after trio.reverse).list := by
  have hlabelled : ∀ skill ∈ trio, skill.Labelled := by decide +kernel
  have hdistinct : trio.Pairwise Skill.Distinct := by decide +kernel
  obtain ⟨-, hreplies, htable, hget⟩ :=
    views_of_history.2 trio trio.reverse (List.reverse_perm trio).symm hlabelled hdistinct
  refine ⟨hlabelled, hdistinct, List.eq_replicate_iff.mpr ⟨rfl, hreplies⟩, by decide +kernel, htable.symm, ?_,
    by decide +kernel⟩
  rw [← hget]
  decide +kernel

end SkillRegistry

end AgentDelegation

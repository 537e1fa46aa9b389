import AgentDelegation.Skill.Descriptor
import AgentDelegation.Skill.Failure
import AgentDelegation.Text.Blank
import AgentDelegation.Text.Lowercase

/-!
# The registry of local skills

Skills are kept in the order of their registration, each with the action behind it, which the registry
hands out and never runs. Ids and names are not blank, and no two skills share an id or a name; the
registry carries the proof, so every view of it can rely on that.
-/

namespace AgentDelegation

open Json

/-- A skill and the action behind it. -/
structure Skill (α : Type) where
  descriptor : SkillDescriptor
  action : α

namespace Skill

def id {α : Type} (skill : Skill α) : String := skill.descriptor.id

def name {α : Type} (skill : Skill α) : String := skill.descriptor.name

end Skill

/-- Registered skills. -/
structure SkillRegistry (α : Type) where
  skills : List (Skill α)
  idsDistinct : (skills.map Skill.id).Nodup
  namesDistinct : (skills.map Skill.name).Nodup
  idsNonblank : ∀ skill ∈ skills, Text.allBlank skill.id = false
  namesNonblank : ∀ skill ∈ skills, Text.allBlank skill.name = false

namespace SkillRegistry

variable {α : Type}

def empty : SkillRegistry α where
  skills := []
  idsDistinct := List.nodup_nil
  namesDistinct := List.nodup_nil
  idsNonblank := by simp
  namesNonblank := by simp

def refusal? (skills : List (Skill α)) (descriptor : SkillDescriptor) : Option SkillFailure :=
  if Text.allBlank descriptor.id then some .blankId
  else if Text.allBlank descriptor.name then some (.blankName descriptor.id)
  else if descriptor.id ∈ skills.map Skill.id then some (.duplicate .id descriptor.id)
  else if descriptor.name ∈ skills.map Skill.name then some (.duplicate .name descriptor.name)
  else none

theorem refusal?_eq_none_iff {skills : List (Skill α)} {descriptor : SkillDescriptor} :
    refusal? skills descriptor = none ↔
      Text.allBlank descriptor.id = false ∧ Text.allBlank descriptor.name = false
        ∧ descriptor.id ∉ skills.map Skill.id ∧ descriptor.name ∉ skills.map Skill.name := by
  simp only [refusal?]
  split
  · simp_all
  · split
    · simp_all
    · split
      · simp_all
      · split <;> simp_all

/-- Adds a skill at the end, if nothing keeps it out. -/
def register (registry : SkillRegistry α) (descriptor : SkillDescriptor) (action : α) :
    Except SkillFailure (SkillRegistry α) :=
  match h : refusal? registry.skills descriptor with
  | some failure => .error failure
  | none => .ok {
      skills := registry.skills ++ [⟨descriptor, action⟩]
      idsDistinct := by
        rw [List.map_append, List.nodup_append]
        exact ⟨registry.idsDistinct, List.pairwise_singleton _ _, by simpa [Skill.id] using (refusal?_eq_none_iff.1 h).2.2.1⟩
      namesDistinct := by
        rw [List.map_append, List.nodup_append]
        exact ⟨registry.namesDistinct, List.pairwise_singleton _ _,
          by simpa [Skill.name] using (refusal?_eq_none_iff.1 h).2.2.2⟩
      idsNonblank := by
        intro skill hskill
        rcases List.mem_append.1 hskill with hskill | hskill
        · exact registry.idsNonblank skill hskill
        · rw [List.mem_singleton.1 hskill]; exact (refusal?_eq_none_iff.1 h).1
      namesNonblank := by
        intro skill hskill
        rcases List.mem_append.1 hskill with hskill | hskill
        · exact registry.namesNonblank skill hskill
        · rw [List.mem_singleton.1 hskill]; exact (refusal?_eq_none_iff.1 h).2.1 }

def size (registry : SkillRegistry α) : Nat := registry.skills.length

def isEmpty (registry : SkillRegistry α) : Bool := registry.skills.isEmpty

/-- The descriptions in the order of registration. -/
def list (registry : SkillRegistry α) : List SkillDescriptor := registry.skills.map Skill.descriptor

def get? (registry : SkillRegistry α) (id : String) : Option SkillDescriptor :=
  registry.list.find? fun descriptor => descriptor.id == id

def table (registry : SkillRegistry α) : NameMap (Skill α) :=
  .ofList (registry.skills.map fun skill => (skill.name, skill))

/-- All skills in one line, for prompts and the card; nothing if there are none. -/
def describe (registry : SkillRegistry α) : String :=
  if registry.isEmpty then ""
  else "This agent provides the following capabilities: "
    ++ "; ".intercalate (registry.list.map fun skill =>
      skill.name ++ " (" ++ skill.description ++ ") [id: " ++ skill.id ++ "]")

def normalMode (mode : String) : String := Text.lower (Text.trim mode)

/-- The distinct modes in normal form, in the order of their first mention, blank ones left out. -/
def distinctModes (modes : List String) : List String :=
  (modes.map normalMode).foldl
    (fun seen mode => if mode.isEmpty || seen.contains mode then seen else seen ++ [mode]) []

/-- The distinct modes, or text where none is mentioned. -/
def unionModes (modes : List String) : List String :=
  if (distinctModes modes).isEmpty then ["text"] else distinctModes modes

def inputModes (registry : SkillRegistry α) : List String :=
  unionModes (registry.list.flatMap SkillDescriptor.inputModes)

def outputModes (registry : SkillRegistry α) : List String :=
  unionModes (registry.list.flatMap SkillDescriptor.outputModes)

def isPortable (name : String) : Bool :=
  !name.isEmpty && name.toList.all fun c => c.isAlphanum || c == '_' || c == '.' || c == '-'

@[simp] theorem skills_empty : (empty : SkillRegistry α).skills = [] := rfl

theorem skills_of_register {registry registry' : SkillRegistry α} {descriptor : SkillDescriptor} {action : α}
    (h : registry.register descriptor action = .ok registry') :
    registry'.skills = registry.skills ++ [⟨descriptor, action⟩] := by
  rw [register] at h
  split at h
  · cases h
  · cases h; rfl

theorem register_eq_error_iff {registry : SkillRegistry α} {descriptor : SkillDescriptor} {action : α}
    {failure : SkillFailure} :
    registry.register descriptor action = .error failure ↔
      refusal? registry.skills descriptor = some failure := by
  rw [register]
  split <;> simp_all

theorem unionModes_ne_nil (modes : List String) : unionModes modes ≠ [] := by
  rw [unionModes]
  split <;> simp_all

end SkillRegistry

end AgentDelegation

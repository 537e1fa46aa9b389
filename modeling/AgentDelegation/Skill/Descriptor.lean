import AgentDelegation.Protocol.Card

/-!
# Descriptions of local skills

What is known of a skill apart from what it does. A card shows all of it but the schema of the arguments,
which is for whoever calls the skill.
-/

namespace AgentDelegation

open Json

structure SkillDescriptor where
  id : String
  name : String
  description : String
  inputModes : List String
  outputModes : List String
  tags : List String
  examples : List String
  inputSchema : Option Value
deriving DecidableEq, Repr, Inhabited

namespace SkillDescriptor

def record : Record SkillDescriptor SkillDescriptor :=
  mk <$> .required "id" .text id
    <*> .required "name" .text name
    <*> .defaulted "description" .text "" description
    <*> .defaulted "input_modes" .texts [] inputModes
    <*> .defaulted "output_modes" .texts [] outputModes
    <*> .defaulted "tags" .texts [] tags
    <*> .defaulted "examples" .texts [] examples
    <*> .optional "input_schema" .any inputSchema

def format : Format SkillDescriptor := record.format "SkillDescriptor"

def of (id name description : String) : SkillDescriptor := ⟨id, name, description, [], [], [], [], none⟩

def summary (skill : SkillDescriptor) : AgentSkill :=
  ⟨skill.id, skill.name, skill.description, skill.tags, skill.examples, skill.inputModes, skill.outputModes⟩

def declaration (skill : SkillDescriptor) : Value :=
  .obj ([("name", .str skill.name), ("description", .str skill.description)]
    ++ (skill.inputSchema.map (("parameters", ·))).toList)

end SkillDescriptor

end AgentDelegation

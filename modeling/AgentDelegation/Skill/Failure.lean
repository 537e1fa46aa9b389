/-!
# Failures of skills

Why a skill is not registered, or did not do what it was called for.
-/

namespace AgentDelegation

/-- What two skills may not share. -/
inductive SkillKey where
  | id
  | name
deriving DecidableEq, Repr, Inhabited

namespace SkillKey

def text : SkillKey → String
  | .id => "id"
  | .name => "name"

end SkillKey

inductive SkillFailure where
  | duplicate (key : SkillKey) (value : String)
  | blankId
  | blankName (id : String)
  | action (skill message : String)
deriving DecidableEq, Repr, Inhabited

namespace SkillFailure

def message : SkillFailure → String
  | .duplicate key value => "duplicate skill " ++ key.text ++ " `" ++ value ++ "`"
  | .blankId => "skill validation error: skill id must not be empty"
  | .blankName id => "skill validation error: skill `" ++ id ++ "` has an empty name"
  | .action skill message => "skill `" ++ skill ++ "` failed: " ++ message

end SkillFailure

end AgentDelegation

import AgentDelegation.Skill.Registry
import Mathlib.Data.List.Induction

/-!
# Histories of registrations

A registry is filled by calls, and each call may be refused. What a call is answered depends on the skills
that were accepted before it and on nothing else, and `Verdict` says how. A refused call leaves no trace:
without it the registry would be the same, and so would the answers to all other calls.
-/

namespace AgentDelegation

variable {α : Type}

/-- A text that holds nothing but white space. -/
def Text.Blank (text : String) : Prop := ∀ c ∈ text.toList, Text.isBlank c = true

theorem Text.allBlank_iff {text : String} : Text.allBlank text = true ↔ Text.Blank text := List.all_eq_true

instance : DecidablePred Text.Blank := fun _ => decidable_of_iff _ Text.allBlank_iff

/-- A skill with an id and a name that can be told from white space. -/
structure Skill.Labelled (skill : Skill α) : Prop where
  id_nonblank : ¬ Text.Blank skill.id
  name_nonblank : ¬ Text.Blank skill.name

instance (skill : Skill α) : Decidable skill.Labelled :=
  decidable_of_iff (¬ Text.Blank skill.id ∧ ¬ Text.Blank skill.name) ⟨fun h => ⟨h.1, h.2⟩, fun h => ⟨h.1, h.2⟩⟩

/-- Skills that share neither id nor name. -/
structure Skill.Distinct (skill other : Skill α) : Prop where
  id_ne : skill.id ≠ other.id
  name_ne : skill.name ≠ other.name

instance (skill other : Skill α) : Decidable (skill.Distinct other) :=
  decidable_of_iff (skill.id ≠ other.id ∧ skill.name ≠ other.name) ⟨fun h => ⟨h.1, h.2⟩, fun h => ⟨h.1, h.2⟩⟩

namespace SkillRegistry

/-- What a call with a skill is answered, given the skills accepted before it: nothing if it is accepted
too, and else why not. -/
inductive Verdict (accepted : List (Skill α)) (skill : Skill α) : Option SkillFailure → Prop where
  | blankId (hid : Text.Blank skill.id) : Verdict accepted skill (some .blankId)
  | blankName (hid : ¬ Text.Blank skill.id) (hname : Text.Blank skill.name) :
      Verdict accepted skill (some (.blankName skill.id))
  | takenId (hlabelled : skill.Labelled) (htaken : ∃ other ∈ accepted, other.id = skill.id) :
      Verdict accepted skill (some (.duplicate .id skill.id))
  | takenName (hlabelled : skill.Labelled) (hfree : ∀ other ∈ accepted, other.id ≠ skill.id)
      (htaken : ∃ other ∈ accepted, other.name = skill.name) :
      Verdict accepted skill (some (.duplicate .name skill.name))
  | accepted (hlabelled : skill.Labelled) (hdistinct : ∀ other ∈ accepted, other.Distinct skill) :
      Verdict accepted skill none

/-- The registry after a call with a skill; a refused skill leaves it as it is. -/
def offer (registry : SkillRegistry α) (skill : Skill α) : SkillRegistry α :=
  match registry.register skill.descriptor skill.action with
  | .ok registry' => registry'
  | .error _ => registry

def reply (registry : SkillRegistry α) (skill : Skill α) : Option SkillFailure :=
  match registry.register skill.descriptor skill.action with
  | .ok _ => none
  | .error failure => some failure

def after (registry : SkillRegistry α) (calls : List (Skill α)) : SkillRegistry α := calls.foldl offer registry

def replies (registry : SkillRegistry α) : List (Skill α) → List (Option SkillFailure)
  | [] => []
  | skill :: rest => registry.reply skill :: (registry.offer skill).replies rest

/-- The calls on a new registry that are not refused, in call order. -/
def accepted (calls : List (Skill α)) : List (Skill α) :=
  ((calls.zip (empty.replies calls)).filter fun call => call.2.isNone).map Prod.fst

/-! ### One call -/

variable {registry : SkillRegistry α} {skill : Skill α}

theorem reply_eq (registry : SkillRegistry α) (skill : Skill α) :
    registry.reply skill = refusal? registry.skills skill.descriptor := by
  rw [reply]
  cases h : registry.register skill.descriptor skill.action with
  | error failure => exact (register_eq_error_iff.mp h).symm
  | ok registry' =>
      rw [eq_comm, Option.eq_none_iff_forall_ne_some]
      intro failure hfailure
      rw [register_eq_error_iff.mpr hfailure] at h
      cases h

theorem skills_offer_of_accepted (h : registry.reply skill = none) :
    (registry.offer skill).skills = registry.skills ++ [skill] := by
  rw [offer]
  cases hregister : registry.register skill.descriptor skill.action with
  | error failure => simp [reply, hregister] at h
  | ok registry' => exact skills_of_register hregister

theorem offer_of_refused {failure : SkillFailure} (h : registry.reply skill = some failure) :
    registry.offer skill = registry := by
  rw [offer]
  cases hregister : registry.register skill.descriptor skill.action with
  | error => rfl
  | ok registry' => simp [reply, hregister] at h

theorem not_mem_map_iff {key : Skill α → String} {skills : List (Skill α)} {value : String} :
    value ∉ skills.map key ↔ ∀ other ∈ skills, key other ≠ value := by
  simp

theorem refusal?_descriptor (skills : List (Skill α)) (skill : Skill α) :
    refusal? skills skill.descriptor
      = if Text.allBlank skill.id then some .blankId
        else if Text.allBlank skill.name then some (.blankName skill.id)
        else if skill.id ∈ skills.map Skill.id then some (.duplicate .id skill.id)
        else if skill.name ∈ skills.map Skill.name then some (.duplicate .name skill.name)
        else none := rfl

theorem verdict_refusal? (skills : List (Skill α)) (skill : Skill α) :
    Verdict skills skill (refusal? skills skill.descriptor) := by
  rw [refusal?_descriptor]
  split
  · rename_i hid
    exact .blankId (Text.allBlank_iff.mp hid)
  rename_i hid
  split
  · rename_i hname
    exact .blankName (mt Text.allBlank_iff.mpr hid) (Text.allBlank_iff.mp hname)
  rename_i hname
  have hlabelled : skill.Labelled := ⟨mt Text.allBlank_iff.mpr hid, mt Text.allBlank_iff.mpr hname⟩
  split
  · rename_i htaken
    exact .takenId hlabelled (List.mem_map.mp htaken)
  rename_i hfree
  have hids := not_mem_map_iff.mp hfree
  split
  · rename_i htaken
    exact .takenName hlabelled hids (List.mem_map.mp htaken)
  · rename_i hunnamed
    have hnames := not_mem_map_iff.mp hunnamed
    exact .accepted hlabelled fun other hother => ⟨hids other hother, hnames other hother⟩

theorem refusal?_of_verdict {skills : List (Skill α)} {reply : Option SkillFailure}
    (h : Verdict skills skill reply) : refusal? skills skill.descriptor = reply := by
  have hnonblank {text : String} : ¬ Text.Blank text → ¬ Text.allBlank text = true := mt Text.allBlank_iff.mp
  rw [refusal?_descriptor]
  cases h with
  | blankId hid => exact if_pos (Text.allBlank_iff.mpr hid)
  | blankName hid hname =>
      rw [if_neg (hnonblank hid)]
      exact if_pos (Text.allBlank_iff.mpr hname)
  | takenId hlabelled htaken =>
      rw [if_neg (hnonblank hlabelled.id_nonblank), if_neg (hnonblank hlabelled.name_nonblank)]
      exact if_pos (List.mem_map.mpr htaken)
  | takenName hlabelled hfree htaken =>
      rw [if_neg (hnonblank hlabelled.id_nonblank), if_neg (hnonblank hlabelled.name_nonblank),
        if_neg (not_mem_map_iff.mpr hfree)]
      exact if_pos (List.mem_map.mpr htaken)
  | accepted hlabelled hdistinct =>
      rw [if_neg (hnonblank hlabelled.id_nonblank), if_neg (hnonblank hlabelled.name_nonblank),
        if_neg (not_mem_map_iff.mpr fun other hother => (hdistinct other hother).id_ne)]
      exact if_neg (not_mem_map_iff.mpr fun other hother => (hdistinct other hother).name_ne)

theorem verdict_iff {reply : Option SkillFailure} :
    Verdict registry.skills skill reply ↔ registry.reply skill = reply := by
  rw [reply_eq]
  constructor
  · exact refusal?_of_verdict
  · rintro rfl
    exact verdict_refusal? registry.skills skill

/-! ### A sequence of calls -/

@[simp] theorem after_nil (registry : SkillRegistry α) : registry.after [] = registry := rfl

@[simp] theorem after_cons (registry : SkillRegistry α) (skill : Skill α) (rest : List (Skill α)) :
    registry.after (skill :: rest) = (registry.offer skill).after rest := rfl

theorem after_append (registry : SkillRegistry α) (first second : List (Skill α)) :
    registry.after (first ++ second) = (registry.after first).after second := List.foldl_append

@[simp] theorem length_replies (registry : SkillRegistry α) (calls : List (Skill α)) :
    (registry.replies calls).length = calls.length := by
  induction calls generalizing registry with
  | nil => rfl
  | cons skill rest ih => rw [replies, List.length_cons, ih, List.length_cons]

theorem replies_append (registry : SkillRegistry α) (first second : List (Skill α)) :
    registry.replies (first ++ second) = registry.replies first ++ (registry.after first).replies second := by
  induction first generalizing registry with
  | nil => rfl
  | cons skill rest ih => rw [List.cons_append, replies, ih]; rfl

theorem getElem?_replies (registry : SkillRegistry α) (calls : List (Skill α)) (n : Nat) :
    (registry.replies calls)[n]? = calls[n]?.map (registry.after (calls.take n)).reply := by
  induction calls generalizing registry n with
  | nil => rfl
  | cons skill rest ih =>
      cases n with
      | zero => rfl
      | succ n => exact ih (registry.offer skill) n

theorem accepted_concat (calls : List (Skill α)) (skill : Skill α) :
    accepted (calls ++ [skill])
      = accepted calls ++ if (empty.after calls).reply skill = none then [skill] else [] := by
  have hlength : calls.length = (empty.replies calls).length := (length_replies _ _).symm
  rw [accepted, replies_append, List.zip_append hlength, List.filter_append, List.map_append, ← accepted]
  congr 1
  cases hreply : (empty.after calls).reply skill <;> simp [replies, hreply]

/-- The registered skills are those that were accepted. -/
theorem skills_after (calls : List (Skill α)) : (empty.after calls).skills = accepted calls := by
  induction calls using List.reverseRecOn with
  | nil => rfl
  | append_singleton calls skill ih =>
      rw [accepted_concat, after_append, after_cons, after_nil, ← ih]
      cases hreply : (empty.after calls).reply skill with
      | none => rw [skills_offer_of_accepted hreply, if_pos rfl]
      | some failure => simp [offer_of_refused hreply]

theorem after_take_succ (registry : SkillRegistry α) {calls : List (Skill α)} {n : Nat} {skill : Skill α}
    (h : calls[n]? = some skill) :
    registry.after (calls.take (n + 1)) = (registry.after (calls.take n)).offer skill := by
  rw [List.take_add_one, h, Option.toList_some, after_append]
  rfl

theorem pairwise_distinct (registry : SkillRegistry α) : registry.skills.Pairwise Skill.Distinct := by
  have hids : registry.skills.Pairwise fun skill other => skill.id ≠ other.id :=
    List.pairwise_map.mp registry.idsDistinct
  have hnames : registry.skills.Pairwise fun skill other => skill.name ≠ other.name :=
    List.pairwise_map.mp registry.namesDistinct
  exact hids.imp₂ (fun _ _ hid hname => ⟨hid, hname⟩) hnames

section refused

variable {before : List (Skill α)} {failure : SkillFailure}

theorem after_of_refused (h : (registry.after before).reply skill = some failure) (later : List (Skill α)) :
    registry.after (before ++ skill :: later) = registry.after (before ++ later) := by
  rw [after_append, after_cons, offer_of_refused h, ← after_append]

theorem replies_of_refused (h : (registry.after before).reply skill = some failure) (later : List (Skill α)) :
    registry.replies (before ++ later)
      = (registry.replies (before ++ skill :: later)).eraseIdx before.length := by
  have hlength : (registry.replies before).length ≤ before.length := Nat.le_of_eq (length_replies _ _)
  rw [replies_append registry before (skill :: later), List.eraseIdx_append_of_length_le hlength, replies_append,
    replies, offer_of_refused h, length_replies, Nat.sub_self, List.eraseIdx_cons_zero]

end refused

/-- The registered skills are those that were accepted, in call order, and no two of them share an id or a
name. Each call is answered as the skills accepted before it demand. After a refusal the registry is what
it was before, and without the refused call it would come to the same in the end and all other calls would
be answered the same. -/
theorem history_of_calls (calls : List (Skill α)) :
    (empty.after calls).skills = accepted calls ∧ (accepted calls).Pairwise Skill.Distinct ∧
    (∀ n skill, calls[n]? = some skill → ∀ reply,
      (empty.replies calls)[n]? = some reply ↔ Verdict (accepted (calls.take n)) skill reply) ∧
    ∀ n failure, (empty.replies calls)[n]? = some (some failure) →
      empty.after (calls.take (n + 1)) = empty.after (calls.take n) ∧
      empty.after (calls.eraseIdx n) = empty.after calls ∧
      empty.replies (calls.eraseIdx n) = (empty.replies calls).eraseIdx n := by
  refine ⟨skills_after calls, ?_, fun n skill hskill reply => ?_, fun n failure hfailure => ?_⟩
  · rw [← skills_after]
    exact pairwise_distinct _
  · rw [← skills_after, verdict_iff, getElem?_replies, hskill, Option.map_some, Option.some.injEq]
  · rw [getElem?_replies] at hfailure
    obtain ⟨skill, hskill, hrefused⟩ := Option.map_eq_some_iff.mp hfailure
    obtain ⟨hn, rfl⟩ := List.getElem?_eq_some_iff.mp hskill
    have hcalls : calls = calls.take n ++ calls[n] :: calls.drop (n + 1) := by
      rw [← List.drop_eq_getElem_cons hn, List.take_append_drop]
    have hafter := after_of_refused hrefused (calls.drop (n + 1))
    have hreplies := replies_of_refused hrefused (calls.drop (n + 1))
    rw [← hcalls] at hafter hreplies
    rw [List.length_take_of_le (Nat.le_of_lt hn)] at hreplies
    rw [List.eraseIdx_eq_take_drop_succ]
    exact ⟨by rw [after_take_succ empty hskill, offer_of_refused hrefused], hafter.symm, hreplies⟩

/-- Six calls, of which the second and the fifth are accepted; the fifth has the id of the refused third. -/
def offered : List (Skill Nat) :=
  [⟨.of " \t" "lookup" "", 0⟩, ⟨.of "orders" "lookup" "", 1⟩, ⟨.of "refunds" "lookup" "", 2⟩,
    ⟨.of "orders" "" "", 3⟩, ⟨.of "refunds" "refund" "", 4⟩, ⟨.of "orders" "refund" "", 5⟩]

theorem history_of_calls_offered :
    (empty.after offered).skills.map Skill.action = [1, 4] ∧
    Verdict (accepted (offered.take 2)) ⟨.of "refunds" "lookup" "", 2⟩ (some (.duplicate .name "lookup")) ∧
    Verdict (accepted (offered.take 4)) ⟨.of "refunds" "refund" "", 4⟩ none ∧
    Verdict (accepted (offered.take 5)) ⟨.of "orders" "refund" "", 5⟩ (some (.duplicate .id "orders")) ∧
    empty.after (offered.take 3) = empty.after (offered.take 2) ∧
    empty.after (offered.eraseIdx 2) = empty.after offered := by
  have hreplies : empty.replies offered
      = [some .blankId, none, some (.duplicate .name "lookup"), some (.blankName "orders"), none,
        some (.duplicate .id "orders")] := by decide +kernel
  obtain ⟨hskills, -, hverdicts, hrefused⟩ := history_of_calls offered
  obtain ⟨hsame, hwithout, -⟩ := hrefused 2 (.duplicate .name "lookup") (by rw [hreplies]; rfl)
  refine ⟨?_, ?_, ?_, ?_, hsame, hwithout⟩
  · rw [hskills, accepted, hreplies]
    rfl
  · exact (hverdicts 2 _ rfl _).mp (by rw [hreplies]; rfl)
  · exact (hverdicts 4 _ rfl _).mp (by rw [hreplies]; rfl)
  · exact (hverdicts 5 _ rfl _).mp (by rw [hreplies]; rfl)

end SkillRegistry

end AgentDelegation

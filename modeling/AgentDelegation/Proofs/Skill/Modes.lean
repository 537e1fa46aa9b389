import AgentDelegation.Proofs.Skill.History
import Mathlib.Data.List.Infix
import Mathlib.Data.List.TakeWhile

/-!
# Default modes

A card lists by default the modes of all registered skills in normal form, each at the place of its first
mention, and text where no skill has a mode. A skill that is registered later adds its modes at the end and
moves no other, so the list only grows; only text that nobody mentioned is given up again, as soon as there is
something to list instead.
-/

namespace AgentDelegation

variable {α : Type}

/-- What a mode is for: what a skill takes, or what it gives. -/
inductive ModeSide where
  | input
  | output
deriving DecidableEq, Repr

def SkillDescriptor.modes (skill : SkillDescriptor) : ModeSide → List String
  | .input => skill.inputModes
  | .output => skill.outputModes

/-- A skill has a mode that can be told from white space. -/
def Skill.HasMode (side : ModeSide) (skill : Skill α) : Prop :=
  ∃ mode ∈ skill.descriptor.modes side, ¬ Text.Blank mode

instance (side : ModeSide) (skill : Skill α) : Decidable (skill.HasMode side) :=
  inferInstanceAs (Decidable (∃ mode ∈ skill.descriptor.modes side, ¬ Text.Blank mode))

/-- The texts among mentions that are not empty, each at the place of its first mention. -/
structure FirstMentions (mentions modes : List String) : Prop where
  mem_iff (mode : String) : mode ∈ modes ↔ mode ∈ mentions ∧ mode ≠ ""
  ordered : modes.Pairwise fun mode later => mentions.idxOf mode < mentions.idxOf later

/-- What is listed where modes are mentioned, some of which may be empty: these modes, or else text. -/
inductive Listed (mentions : List String) : List String → Prop where
  | fallback (hnone : ∀ mode ∈ mentions, mode = "") : Listed mentions ["text"]
  | mentioned {modes : List String} (hsome : ∃ mode ∈ mentions, mode ≠ "") (hmodes : FirstMentions mentions modes) :
      Listed mentions modes

/-! ### First mentions -/

namespace FirstMentions

variable {mentions modes : List String} {mode : String}

theorem nodup (h : FirstMentions mentions modes) : modes.Nodup := by
  apply h.ordered.imp
  rintro mode later hlt rfl
  exact Nat.lt_irrefl _ hlt

theorem ordered_append (h : FirstMentions mentions modes) (more : List String) :
    modes.Pairwise fun mode later => (mentions ++ more).idxOf mode < (mentions ++ more).idxOf later := by
  refine h.ordered.imp_of_mem fun {mode later} hmode hlater hlt => ?_
  rw [List.idxOf_append_of_mem ((h.mem_iff mode).mp hmode).1, List.idxOf_append_of_mem ((h.mem_iff later).mp hlater).1]
  exact hlt

/-- An empty text and a mode that is there already add nothing. -/
theorem concat_of_old (h : FirstMentions mentions modes) (hold : mode = "" ∨ mode ∈ modes) :
    FirstMentions (mentions ++ [mode]) modes where
  mem_iff other := by
    rw [h.mem_iff, List.mem_append, List.mem_singleton, or_and_right]
    refine (or_iff_left_of_imp ?_).symm
    rintro ⟨rfl, hne⟩
    exact (h.mem_iff other).mp (hold.resolve_left hne)
  ordered := h.ordered_append [mode]

theorem concat_of_new (h : FirstMentions mentions modes) (hne : mode ≠ "") (hnew : mode ∉ modes) :
    FirstMentions (mentions ++ [mode]) (modes ++ [mode]) where
  mem_iff other := by
    rw [List.mem_append, List.mem_append, List.mem_singleton, h.mem_iff, or_and_right]
    refine or_congr_right ⟨?_, And.left⟩
    rintro rfl
    exact ⟨rfl, hne⟩
  ordered := by
    have hunmentioned : mode ∉ mentions := fun hmem => hnew ((h.mem_iff mode).mpr ⟨hmem, hne⟩)
    refine List.pairwise_append.mpr ⟨h.ordered_append [mode], List.pairwise_singleton _ _, ?_⟩
    intro other hother last hlast
    obtain rfl := List.mem_singleton.mp hlast
    have hmem := ((h.mem_iff other).mp hother).1
    rw [List.idxOf_append_of_mem hmem, List.idxOf_append_of_notMem hunmentioned]
    exact Nat.lt_of_lt_of_le (List.idxOf_lt_length_of_mem hmem) (Nat.le_add_right _ _)

end FirstMentions

namespace Listed

variable {mentions modes : List String}

theorem ne_nil (h : Listed mentions modes) : modes ≠ [] := by
  cases h with
  | fallback => exact List.cons_ne_nil _ _
  | mentioned hsome hmodes =>
      obtain ⟨mode, hmode⟩ := hsome
      exact List.ne_nil_of_mem ((hmodes.mem_iff mode).mpr hmode)

theorem nodup (h : Listed mentions modes) : modes.Nodup := by
  cases h with
  | fallback => exact List.pairwise_singleton _ _
  | mentioned hsome hmodes => exact hmodes.nodup

end Listed

/-! ### Modes in normal form -/

theorem Text.lower_eq_empty_iff {text : String} : Text.lower text = "" ↔ text = "" := by
  have hnil (before cs : List Char) : Text.lowerAfter before cs = [] ↔ cs = [] := by
    cases cs with
    | nil => simp [Text.lowerAfter]
    | cons c rest =>
        rw [Text.lowerAfter]
        split
        · simp
        · split <;> simp
  rw [Text.lower, String.ofList_eq_empty_iff, hnil, String.toList_eq_nil_iff]

theorem Text.trimChars_eq_nil_iff {cs : List Char} : Text.trimChars cs = [] ↔ cs.all Text.isBlank = true := by
  rw [Text.trimChars, List.reverse_eq_nil_iff, List.dropWhile_eq_nil_iff]
  induction cs with
  | nil => simp
  | cons c rest ih => by_cases h : Text.isBlank c = true <;> simp_all

theorem Text.trim_eq_empty_iff {text : String} : Text.trim text = "" ↔ Text.Blank text := by
  rw [Text.trim, String.ofList_eq_empty_iff, Text.trimChars_eq_nil_iff, ← Text.allBlank_iff, Text.allBlank]

namespace SkillRegistry

theorem normalMode_eq_empty_iff {mode : String} : normalMode mode = "" ↔ Text.Blank mode := by
  rw [normalMode, Text.lower_eq_empty_iff, Text.trim_eq_empty_iff]

section modes

variable {first second modes : List String}

theorem distinctModes_concat (modes : List String) (mode : String) :
    distinctModes (modes ++ [mode])
      = if normalMode mode = "" ∨ normalMode mode ∈ distinctModes modes then distinctModes modes
        else distinctModes modes ++ [normalMode mode] := by
  rw [distinctModes, List.map_append, List.foldl_append, ← distinctModes]
  simp

theorem firstMentions_distinctModes (modes : List String) :
    FirstMentions (modes.map normalMode) (distinctModes modes) := by
  induction modes using List.reverseRecOn with
  | nil => exact ⟨by simp [distinctModes], .nil⟩
  | append_singleton modes mode ih =>
      rw [distinctModes_concat, List.map_append, List.map_singleton]
      split
      · rename_i hold
        exact ih.concat_of_old hold
      · rename_i hnew
        obtain ⟨hne, hnot⟩ := not_or.mp hnew
        exact ih.concat_of_new hne hnot

theorem distinctModes_eq_nil_iff : distinctModes modes = [] ↔ ∀ mode ∈ modes.map normalMode, mode = "" := by
  rw [List.eq_nil_iff_forall_not_mem]
  refine forall_congr' fun mode => ?_
  rw [(firstMentions_distinctModes modes).mem_iff, not_and_not_right]

theorem distinctModes_ne_nil_iff : distinctModes modes ≠ [] ↔ ∃ mode ∈ modes.map normalMode, mode ≠ "" := by
  rw [Ne, distinctModes_eq_nil_iff]
  push Not
  rfl

theorem isPrefix_distinctModes (first second : List String) :
    distinctModes first <+: distinctModes (first ++ second) := by
  induction second using List.reverseRecOn with
  | nil => rw [List.append_nil]
  | append_singleton second mode ih =>
      rw [← List.append_assoc, distinctModes_concat]
      split
      · exact ih
      · exact ih.trans (List.prefix_append _ _)

/-- Blank modes in front are as good as none. -/
theorem distinctModes_append_of_nil (h : distinctModes first = []) (second : List String) :
    distinctModes (first ++ second) = distinctModes second := by
  rw [distinctModes, List.map_append, List.foldl_append, ← distinctModes, h, distinctModes]

theorem unionModes_of_nil (h : distinctModes modes = []) : unionModes modes = ["text"] := by
  rw [unionModes, h]
  rfl

theorem unionModes_of_ne_nil (h : distinctModes modes ≠ []) : unionModes modes = distinctModes modes := by
  rw [unionModes, if_neg (by simpa using h)]

theorem listed_unionModes (modes : List String) : Listed (modes.map normalMode) (unionModes modes) := by
  by_cases h : distinctModes modes = []
  · rw [unionModes_of_nil h]
    exact .fallback (distinctModes_eq_nil_iff.mp h)
  · rw [unionModes_of_ne_nil h]
    exact .mentioned (distinctModes_ne_nil_iff.mp h) (firstMentions_distinctModes modes)

theorem unionModes_append_of_nil (h : distinctModes first = []) (second : List String) :
    unionModes (first ++ second) = unionModes second := by
  rw [unionModes, unionModes, distinctModes_append_of_nil h]

theorem isPrefix_unionModes (h : distinctModes first ≠ []) (second : List String) :
    unionModes first <+: unionModes (first ++ second) := by
  have hprefix := isPrefix_distinctModes first second
  have hne : distinctModes (first ++ second) ≠ [] := fun hnil => h (List.prefix_nil.mp (hnil ▸ hprefix))
  rwa [unionModes_of_ne_nil h, unionModes_of_ne_nil hne]

end modes

/-! ### The modes of a registry -/

/-- The modes of skills as they are written, in the order of the skills. -/
def writtenModes (side : ModeSide) (skills : List (Skill α)) : List String :=
  skills.flatMap fun skill => skill.descriptor.modes side

def defaultModes (registry : SkillRegistry α) : ModeSide → List String
  | .input => registry.inputModes
  | .output => registry.outputModes

variable {side : ModeSide}

theorem defaultModes_eq (registry : SkillRegistry α) (side : ModeSide) :
    registry.defaultModes side = unionModes (writtenModes side registry.skills) := by
  cases side <;> exact congrArg unionModes (List.flatMap_map ..)

theorem distinctModes_written_ne_nil_iff {skills : List (Skill α)} :
    distinctModes (writtenModes side skills) ≠ [] ↔ ∃ skill ∈ skills, skill.HasMode side := by
  rw [distinctModes_ne_nil_iff]
  constructor
  · rintro ⟨_, hmem, hne⟩
    obtain ⟨mode, hwritten, rfl⟩ := List.mem_map.mp hmem
    obtain ⟨skill, hskill, hmode⟩ := List.mem_flatMap.mp hwritten
    exact ⟨skill, hskill, mode, hmode, mt normalMode_eq_empty_iff.mpr hne⟩
  · rintro ⟨skill, hskill, mode, hmode, hblank⟩
    have hwritten : mode ∈ writtenModes side skills := List.mem_flatMap.mpr ⟨skill, hskill, hmode⟩
    exact ⟨normalMode mode, List.mem_map_of_mem hwritten, mt normalMode_eq_empty_iff.mp hblank⟩

/-- What one more skill does to the list. -/
theorem defaultModes_offer {registry : SkillRegistry α} {skill : Skill α} (h : registry.reply skill = none)
    (side : ModeSide) :
    ((∃ earlier ∈ registry.skills, earlier.HasMode side) →
      registry.defaultModes side <+: (registry.offer skill).defaultModes side) ∧
    ((¬ ∃ earlier ∈ registry.skills, earlier.HasMode side) → registry.defaultModes side = ["text"] ∧
      (registry.offer skill).defaultModes side = unionModes (skill.descriptor.modes side)) := by
  have hwritten : writtenModes side (registry.offer skill).skills
      = writtenModes side registry.skills ++ skill.descriptor.modes side := by
    rw [skills_offer_of_accepted h, writtenModes, List.flatMap_append, List.flatMap_singleton]
    rfl
  rw [← distinctModes_written_ne_nil_iff, defaultModes_eq, defaultModes_eq, hwritten]
  refine ⟨fun hsome => isPrefix_unionModes hsome _, fun hnone => ?_⟩
  rw [not_not] at hnone
  exact ⟨unionModes_of_nil hnone, unionModes_append_of_nil hnone _⟩

/-- After any calls the modes of the accepted skills are listed, in normal form and each at the place of its
first mention, or text exactly if none of these skills has a mode; so the list is not empty and holds no mode
twice. A call that is refused does not show in it. A skill that is accepted next adds to the end of the list;
where the list was text for want of a mode, the modes of the new skill take its place. -/
theorem defaultModes_after_calls (side : ModeSide) :
    (∀ calls : List (Skill α),
      Listed ((writtenModes side (accepted calls)).map normalMode) ((empty.after calls).defaultModes side) ∧
      (empty.after calls).defaultModes side ≠ [] ∧ ((empty.after calls).defaultModes side).Nodup) ∧
    (∀ (before later : List (Skill α)) (skill : Skill α) (failure : SkillFailure),
      (empty.after before).reply skill = some failure →
      (empty.after (before ++ skill :: later)).defaultModes side = (empty.after (before ++ later)).defaultModes side) ∧
    ∀ (calls : List (Skill α)) (skill : Skill α), (empty.after calls).reply skill = none →
      ((∃ earlier ∈ accepted calls, earlier.HasMode side) →
        (empty.after calls).defaultModes side <+: (empty.after (calls ++ [skill])).defaultModes side) ∧
      ((¬ ∃ earlier ∈ accepted calls, earlier.HasMode side) →
        (empty.after calls).defaultModes side = ["text"] ∧
        Listed ((skill.descriptor.modes side).map normalMode) ((empty.after (calls ++ [skill])).defaultModes side)) := by
  refine ⟨fun calls => ?_, fun before later skill failure hrefused => ?_, fun calls skill haccepted => ?_⟩
  · have hlisted := listed_unionModes (writtenModes side (empty.after calls).skills)
    rw [← defaultModes_eq, skills_after] at hlisted
    exact ⟨hlisted, hlisted.ne_nil, hlisted.nodup⟩
  · rw [after_of_refused hrefused]
  · obtain ⟨hgrows, hreplaced⟩ := defaultModes_offer haccepted side
    rw [skills_after] at hgrows hreplaced
    rw [after_append, after_cons, after_nil]
    refine ⟨hgrows, fun hnone => ?_⟩
    obtain ⟨htext, hmodes⟩ := hreplaced hnone
    rw [hmodes]
    exact ⟨htext, listed_unionModes _⟩

/-- A skill with nothing but blank modes. -/
def mute : Skill Nat := ⟨{ SkillDescriptor.of "a" "mute" "" with inputModes := ["\u2003", ""] }, 0⟩

/-- A skill that has two modes, one of them in two spellings. -/
def painter : Skill Nat :=
  ⟨{ SkillDescriptor.of "b" "paint" "" with inputModes := [" Image/PNG", "\tTEXT\n", "image/png "] }, 1⟩

/-- A skill with the painter's id. -/
def pretender : Skill Nat := ⟨{ SkillDescriptor.of "b" "pretend" "" with inputModes := ["audio"] }, 2⟩

def teller : Skill Nat := ⟨{ SkillDescriptor.of "c" "tell" "" with inputModes := ["text", "ÄTHER"] }, 3⟩

theorem defaultModes_after_painter :
    (empty.after [mute]).reply painter = none ∧ (¬ ∃ earlier ∈ accepted [mute], earlier.HasMode .input) ∧
    (empty.after [mute]).defaultModes .input = ["text"] ∧
    Listed ["image/png", "text", "image/png"] ((empty.after [mute, painter]).defaultModes .input) ∧
    (empty.after [mute, painter]).reply pretender = some (.duplicate .id "b") ∧
    (empty.after [mute, painter, pretender, teller]).defaultModes .input
      = (empty.after [mute, painter, teller]).defaultModes .input ∧
    (empty.after [mute, painter, pretender]).reply teller = none ∧
    (∃ earlier ∈ accepted [mute, painter, pretender], earlier.HasMode .input) ∧
    (empty.after [mute, painter, pretender]).defaultModes .input
      <+: (empty.after [mute, painter, pretender, teller]).defaultModes .input ∧
    (empty.after [mute, painter, pretender, teller]).defaultModes .input = ["image/png", "text", "äther"] := by
  obtain ⟨-, hrefused, hadds⟩ := @defaultModes_after_calls Nat .input
  have hpainter : (empty.after [mute]).reply painter = none := by decide +kernel
  have hpretender : (empty.after [mute, painter]).reply pretender = some (.duplicate .id "b") := by decide +kernel
  have hteller : (empty.after [mute, painter, pretender]).reply teller = none := by decide +kernel
  have hmute : ¬ ∃ earlier ∈ accepted [mute], earlier.HasMode .input := by decide +kernel
  have hpainted : ∃ earlier ∈ accepted [mute, painter, pretender], earlier.HasMode .input := by decide +kernel
  have hmodes : (painter.descriptor.modes .input).map normalMode = ["image/png", "text", "image/png"] := by
    decide +kernel
  obtain ⟨htext, hlisted⟩ := (hadds [mute] painter hpainter).2 hmute
  rw [hmodes] at hlisted
  exact ⟨hpainter, hmute, htext, hlisted, hpretender, hrefused [mute, painter] [teller] pretender _ hpretender,
    hteller, hpainted, (hadds _ teller hteller).1 hpainted, by decide +kernel⟩

end SkillRegistry

end AgentDelegation

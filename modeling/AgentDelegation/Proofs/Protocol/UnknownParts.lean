import AgentDelegation.Proofs.Json.Alike
import AgentDelegation.Proofs.Protocol.Encodings

/-!
# Parts of unknown shape

Any object is read as a part, and it is read as a text only if it has a text. So objects without one may be
put in among the parts of an artifact, whatever else they hold: the artifact is still read, with the same
id, name, description and metadata and with the same texts in the same order. The same holds of the tasks
and updates that the artifact is part of, in each of their encodings.
-/

namespace AgentDelegation

open Json
open Json.Value (Arrays Only Recast)

/-! ### Parts -/

namespace Part

/-- Objects without a text are put in among items. -/
inductive Padded : List Value → List Value → Prop where
  | nil : Padded [] []
  | keep (v : Value) {items others : List Value} (hrest : Padded items others) : Padded (v :: items) (v :: others)
  | insert {members : Members} {items others : List Value} (htext : ∀ s, ("text", .str s) ∉ members)
      (hrest : Padded items others) : Padded items (.obj members :: others)

/-- Parts with the same texts in the same order. -/
def SameTexts (parts others : List Part) : Prop := others.filterMap text? = parts.filterMap text?

theorem SameTexts.refl (parts : List Part) : SameTexts parts parts := rfl

theorem text?_ofMembers_of_no_text {members : Members} (htext : ∀ s, ("text", .str s) ∉ members) :
    (ofMembers id members).text? = none := by
  rcases ofMembers_known_or_other members with hother | ⟨metadata, -, hknown⟩
  · rw [hother]
    rfl
  · rcases known?_eq_some_iff.mp hknown with hsome | ⟨-, hfile⟩ | ⟨-, -, hdata⟩
    · obtain ⟨s, hsole, -⟩ := asText?_eq_some_iff.mp hsome
      have hmem : Value.str s ∈ valuesOf "text" members := hsole ▸ List.mem_singleton_self _
      exact absurd (mem_valuesOf_iff.mp hmem) (htext s)
    · obtain ⟨v, content, -, -, hpart⟩ := asFile?_eq_some_iff.mp hfile
      rw [hpart]
      rfl
    · obtain ⟨v, -, hpart⟩ := asData?_eq_some_iff.mp hdata
      rw [hpart]
      rfl

theorem follows_padded : (Format.list format).Follows (Arrays Padded) SameTexts where
  read {v w parts} halike hread := by
    obtain ⟨hitems⟩ := halike
    obtain ⟨_, hv, hparts⟩ := Format.readValue_list_eq_ok_iff.mp hread
    obtain rfl := Value.arr.inj hv
    simp only [Format.readValue_list_eq_ok_iff, Value.arr.injEq, exists_eq_left']
    clear hread hv
    induction hitems generalizing parts with
    | nil =>
        obtain rfl := List.forall₂_nil_left_iff.mp hparts
        exact ⟨[], .nil, rfl⟩
    | keep v _ ih =>
        obtain ⟨part, rest, hpart, hrest, rfl⟩ := List.forall₂_cons_left_iff.mp hparts
        obtain ⟨others, hothers, htexts⟩ := ih hrest
        refine ⟨part :: others, .cons hpart hothers, ?_⟩
        rw [SameTexts, List.filterMap_cons, List.filterMap_cons, htexts]
    | @insert members _ _ htext _ ih =>
        obtain ⟨others, hothers, htexts⟩ := ih hparts
        refine ⟨ofMembers id members :: others, .cons (readValue_obj members) hothers, ?_⟩
        rw [SameTexts, List.filterMap_cons_none (text?_ofMembers_of_no_text htext), htexts]

end Part

/-! ### Artifacts and what they are part of -/

namespace Artifact

/-- The value of an artifact with objects without a text put in among its parts. -/
def Padded : Value → Value → Prop :=
  Recast (Only "parts" (Arrays Part.Padded)) ["artifactId", "name", "description", "parts", "metadata"]

/-- Artifacts that differ in their parts only, and there only in parts that are not texts. -/
structure Alike (artifact other : Artifact) : Prop where
  artifactId : other.artifactId = artifact.artifactId
  name : other.name = artifact.name
  description : other.description = artifact.description
  parts : Part.SameTexts artifact.parts other.parts
  metadata : other.metadata = artifact.metadata

theorem Alike.refl (artifact : Artifact) : artifact.Alike artifact := ⟨rfl, rfl, rfl, rfl, rfl⟩

theorem follows_padded : format.Follows Padded Alike := by
  refine Record.Follows.format
    (Record.Follows.field rfl (.unchanged (by decide)) (fun _ => rfl) artifactId
      |>.map mk
      |>.seq (.field rfl (.unchanged (by decide)) (fun _ => rfl) name)
      |>.seq (.field rfl (.unchanged (by decide)) (fun _ => rfl) description)
      |>.seq (.field rfl (Part.follows_padded.only Part.SameTexts.refl) Part.SameTexts.refl parts)
      |>.seq (.field rfl (.unchanged (by decide)) (fun _ => rfl) metadata)) ?_ Alike.refl
  intro artifactId _ hartifactId name _ hname description _ hdescription parts others hparts metadata _ hmetadata
  exact ⟨hartifactId.symm, hname.symm, hdescription.symm, hparts, hmetadata.symm⟩

end Artifact

namespace Task

/-- The value of a task with objects without a text put in among the parts of its artifacts. -/
def Padded : Value → Value → Prop :=
  Recast (Only "artifacts" (Arrays (List.Forall₂ Artifact.Padded)))
    ["id", "contextId", "status", "artifacts", "history"]

/-- Tasks that differ in parts of their artifacts that are not texts, and in nothing else. -/
structure Alike (task other : Task) : Prop where
  id : other.id = task.id
  contextId : other.contextId = task.contextId
  status : other.status = task.status
  artifacts : Option.Rel (List.Forall₂ Artifact.Alike) task.artifacts other.artifacts
  history : other.history = task.history

theorem rel_refl (artifacts : Option (List Artifact)) :
    Option.Rel (List.Forall₂ Artifact.Alike) artifacts artifacts := by
  cases artifacts with
  | none => exact .none
  | some artifacts => exact .some (List.forall₂_same.mpr fun artifact _ => .refl artifact)

theorem Alike.refl (task : Task) : task.Alike task := ⟨rfl, rfl, rfl, rel_refl _, rfl⟩

theorem follows_padded : format.Follows Padded Alike := by
  have hnull (v w : Value) (h : Arrays (List.Forall₂ Artifact.Padded) v w) : v = .null ↔ w = .null := by
    cases h
    simp
  refine Record.Follows.format
    (Record.Follows.field rfl (.unchanged (by decide)) (fun _ => rfl) id
      |>.map mk
      |>.seq (.field rfl (.unchanged (by decide)) (fun _ => rfl) contextId)
      |>.seq (.field rfl (.unchanged (by decide)) (fun _ => rfl) status)
      |>.seq (.field rfl ((Artifact.follows_padded.list.optional hnull).only rel_refl) rel_refl artifacts)
      |>.seq (.field rfl (.unchanged (by decide)) (fun _ => rfl) history)) ?_ Alike.refl
  intro id _ hid contextId _ hcontextId status _ hstatus artifacts others hartifacts history _ hhistory
  exact ⟨hid.symm, hcontextId.symm, hstatus.symm, hartifacts, hhistory.symm⟩

end Task

namespace ArtifactUpdate

/-- The value of an update with objects without a text put in among the parts of its artifact. -/
def Padded : Value → Value → Prop :=
  Recast (Only "artifact" Artifact.Padded) ["taskId", "contextId", "artifact", "append", "lastChunk"]

/-- Updates that differ in parts of their artifacts that are not texts, and in nothing else. -/
structure Alike (update other : ArtifactUpdate) : Prop where
  taskId : other.taskId = update.taskId
  contextId : other.contextId = update.contextId
  artifact : update.artifact.Alike other.artifact
  append : other.append = update.append
  lastChunk : other.lastChunk = update.lastChunk

theorem Alike.refl (update : ArtifactUpdate) : update.Alike update := ⟨rfl, rfl, .refl _, rfl, rfl⟩

theorem follows_padded : format.Follows Padded Alike := by
  refine Record.Follows.format
    (Record.Follows.field rfl (.unchanged (by decide)) (fun _ => rfl) taskId
      |>.map mk
      |>.seq (.field rfl (.unchanged (by decide)) (fun _ => rfl) contextId)
      |>.seq (.field rfl (Artifact.follows_padded.only Artifact.Alike.refl) Artifact.Alike.refl artifact)
      |>.seq (.field rfl (.unchanged (by decide)) (fun _ => rfl) append)
      |>.seq (.field rfl (.unchanged (by decide)) (fun _ => rfl) lastChunk)) ?_ Alike.refl
  intro taskId _ htaskId contextId _ hcontextId artifact other hartifact append _ happend lastChunk _ hlast
  exact ⟨htaskId.symm, hcontextId.symm, hartifact, happend.symm, hlast.symm⟩

end ArtifactUpdate

/-! ### Results -/

namespace StreamResult

/-- The value of a result of a sort with objects without a text put in among the parts of its artifacts. -/
def PaddedAs : ResultKind → Value → Value → Prop
  | .task => Task.Padded
  | .artifact => ArtifactUpdate.Padded
  | .message | .status => Eq

/-- The same in each encoding of the result: the member `kind`, if there is one, stays as it is, and so does
a wrapper. -/
inductive Padded (kind : ResultKind) : Value → Value → Prop where
  | bare {v w : Value} (hinner : PaddedAs kind v w) : Padded kind v w
  | wrapped {name : String} {v w : Value} (hname : name ∈ kind.wrappers) (hinner : PaddedAs kind v w) :
      Padded kind (.obj [(name, v)]) (.obj [(name, w)])

/-- Results that differ in parts of their artifacts that are not texts, and in nothing else. -/
inductive Alike : StreamResult → StreamResult → Prop where
  | task {snapshot other : Task} (halike : snapshot.Alike other) : Alike (.task snapshot) (.task other)
  | message (m : Message) : Alike (.message m) (.message m)
  | status (update : StatusUpdate) : Alike (.status update) (.status update)
  | artifact {update other : ArtifactUpdate} (halike : update.Alike other) :
      Alike (.artifact update) (.artifact other)

theorem Alike.refl (result : StreamResult) : result.Alike result := by
  cases result with
  | task snapshot => exact .task (.refl snapshot)
  | message m => exact .message m
  | status update => exact .status update
  | artifact update => exact .artifact (.refl update)

theorem kind_of_readAs {kind : ResultKind} {v : Value} {result : StreamResult} (h : readAs kind v = .ok result) :
    result.kind = kind := by
  cases kind <;>
  · obtain ⟨x, -, rfl⟩ := map_eq_ok_iff.mp h
    rfl

theorem ofValue_eq_some_iff {v : Value} {result : StreamResult} :
    ofValue v = .ok (some result) ↔ ∃ inner, classify v = some (result.kind, inner) ∧
      readAs result.kind inner = .ok result := by
  constructor
  · intro h
    rw [ofValue] at h
    split at h
    · cases h
    · rename_i kind inner hclassify
      obtain ⟨x, hread, hx⟩ := map_eq_ok_iff.mp h
      obtain rfl := Option.some.inj hx
      rw [kind_of_readAs hread]
      exact ⟨inner, hclassify, hread⟩
  · intro h
    obtain ⟨inner, hclassify, hread⟩ := h
    rw [ofValue_of_classify hclassify, hread]
    rfl

theorem readAs_of_paddedAs {kind : ResultKind} {v w : Value} {result : StreamResult} (h : PaddedAs kind v w)
    (hread : readAs kind v = .ok result) : ∃ other, readAs kind w = .ok other ∧ result.Alike other := by
  cases kind with
  | task =>
      obtain ⟨snapshot, hsnapshot, rfl⟩ := map_eq_ok_iff.mp hread
      obtain ⟨other, hother, halike⟩ := Task.follows_padded.read h hsnapshot
      exact ⟨.task other, map_eq_ok_iff.mpr ⟨other, hother, rfl⟩, .task halike⟩
  | artifact =>
      obtain ⟨update, hupdate, rfl⟩ := map_eq_ok_iff.mp hread
      obtain ⟨other, hother, halike⟩ := ArtifactUpdate.follows_padded.read h hupdate
      exact ⟨.artifact other, map_eq_ok_iff.mpr ⟨other, hother, rfl⟩, .artifact halike⟩
  | message =>
      obtain rfl : v = w := h
      exact ⟨result, hread, .refl result⟩
  | status =>
      obtain rfl : v = w := h
      exact ⟨result, hread, .refl result⟩

theorem classify_congr {v w inner : Value} {kind : ResultKind} (hkind : kind? v = kind? w)
    (hwrapped : wrapped? v = wrapped? w) (hshape : shape? v = shape? w)
    (hclassify : classify v = some (kind, inner)) :
    ∃ other, classify w = some (kind, other) ∧ (other = inner ∨ (inner = v ∧ other = w)) := by
  rw [classify] at hclassify ⊢
  rw [← hkind, ← hwrapped, ← hshape]
  cases hnamed : kind? v with
  | some named =>
      rw [hnamed] at hclassify
      cases hclassify
      exact ⟨w, rfl, .inr ⟨rfl, rfl⟩⟩
  | none =>
      rw [hnamed] at hclassify
      cases hfound : wrapped? v with
      | some found =>
          rw [hfound] at hclassify
          exact ⟨inner, hclassify, .inl rfl⟩
      | none =>
          rw [hfound] at hclassify
          obtain ⟨shaped, hshaped, hpair⟩ := Option.map_eq_some_iff.mp hclassify
          cases hpair
          exact ⟨w, Option.map_eq_some_iff.mpr ⟨kind, hshaped, rfl⟩, .inr ⟨rfl, rfl⟩⟩

/-- A wrapper is not touched where only a member differs that is none. -/
theorem wrapped?_of_only {name : String} {R : Value → Value → Prop} {members others : Members}
    (hwrapper : ResultKind.ofWrapper? name = none) (h : List.Forall₂ (MemberAlike (Only name R)) members others) :
    wrapped? (.obj members) = wrapped? (.obj others) := by
  cases h with
  | nil => rfl
  | @cons member kept _ _ hmember hrest =>
      cases hrest with
      | cons => rfl
      | nil =>
          obtain ⟨given, v⟩ := member
          obtain ⟨_, w⟩ := kept
          obtain ⟨rfl, halike⟩ := hmember
          rcases halike with rfl | ⟨rfl, -⟩
          · rfl
          · simp only [wrapped?, hwrapper, Option.map_none]

/-- The sort of a value is told by its names and by members that no artifact stands in. -/
theorem classify_of_recast {name : String} {names : List String} {R : Value → Value → Prop} {v w inner : Value}
    {kind : ResultKind} (hname : name ≠ "kind") (hwrapper : ResultKind.ofWrapper? name = none)
    (h : Recast (Only name R) names v w) (hclassify : classify v = some (kind, inner)) :
    ∃ other, classify w = some (kind, other) ∧ (other = inner ∨ (inner = v ∧ other = w)) := by
  cases h with
  | same => exact ⟨inner, hclassify, .inl rfl⟩
  | arr => cases hclassify
  | @obj members others hmembers =>
      have hkind : kind? (.obj members) = kind? (.obj others) := by
        simp only [kind?, Value.get?, lookup_eq_head?_valuesOf, valuesOf_eq_of_only hmembers hname.symm]
      have hshape : shape? (.obj members) = shape? (.obj others) := by
        rw [shape?_obj, shape?_obj, map_fst_eq_of_alike hmembers]
      exact classify_congr hkind (wrapped?_of_only hwrapper hmembers) hshape hclassify

theorem classify_of_paddedAs {sort kind : ResultKind} {v w inner : Value} (h : PaddedAs sort v w)
    (hclassify : classify v = some (kind, inner)) :
    ∃ other, classify w = some (kind, other) ∧ (other = inner ∨ (inner = v ∧ other = w)) := by
  cases sort with
  | task => exact classify_of_recast (by decide) rfl h hclassify
  | artifact => exact classify_of_recast (by decide) rfl h hclassify
  | message =>
      obtain rfl : v = w := h
      exact ⟨inner, hclassify, .inl rfl⟩
  | status =>
      obtain rfl : v = w := h
      exact ⟨inner, hclassify, .inl rfl⟩

theorem exists_ofValue_of_padded {kind : ResultKind} {v w : Value} {result : StreamResult} (h : Padded kind v w)
    (hread : ofValue v = .ok (some result)) (hkind : result.kind = kind) :
    ∃ other, ofValue w = .ok (some other) ∧ result.Alike other := by
  subst hkind
  cases h with
  | @wrapped name inner kept hname hinner =>
      rw [ofValue_of_classify (classify_of_wrapper hname inner)] at hread
      obtain ⟨x, hx, hsome⟩ := map_eq_ok_iff.mp hread
      obtain rfl := Option.some.inj hsome
      obtain ⟨other, hother, halike⟩ := readAs_of_paddedAs hinner hx
      refine ⟨other, ?_, halike⟩
      rw [ofValue_of_classify (classify_of_wrapper hname kept), hother]
      rfl
  | bare hinner =>
      obtain ⟨inner, hclassify, hx⟩ := ofValue_eq_some_iff.mp hread
      obtain ⟨kept, hkept, hsame⟩ := classify_of_paddedAs hinner hclassify
      have hfollow : ∃ other, readAs result.kind kept = .ok other ∧ result.Alike other := by
        rcases hsame with rfl | ⟨rfl, rfl⟩
        · exact ⟨result, hx, .refl result⟩
        · exact readAs_of_paddedAs hinner hx
      obtain ⟨other, hother, halike⟩ := hfollow
      refine ⟨other, ?_, halike⟩
      rw [ofValue_of_classify hkept, hother]
      rfl

end StreamResult

end AgentDelegation

import AgentDelegation.Proofs.Transport.Run

/-!
# Artifacts put together from pieces

The artifacts of a streamed task arrive in pieces, those of several artifacts mixed. Whatever the mixture,
each artifact comes to what its own pieces say: the last piece that was not appended takes the place of
all before it, and the pieces appended since follow in the order in which they came. The artifacts
themselves stand in the order in which they first appeared, behind those that the run began with.
-/

namespace AgentDelegation

namespace Artifact

/-- The artifact with the parts of further pieces at its end. -/
def extend (artifact : Artifact) (pieces : List ArtifactUpdate) : Artifact :=
  { artifact with parts := artifact.parts ++ pieces.flatMap fun piece => piece.artifact.parts }

/-- What an artifact comes to, given what the run began with and the pieces that carry its id. -/
inductive Assembled (base : Option Artifact) : List ArtifactUpdate → Artifact → Prop where
  /-- The last piece that was not appended counts, and the pieces appended since. -/
  | replaced (before : List ArtifactUpdate) {last : ArtifactUpdate} {since : List ArtifactUpdate}
      (hlast : last.append = false) (hsince : ∀ piece ∈ since, piece.append = true) :
      Assembled base (before ++ last :: since) (last.artifact.extend since)
  /-- All pieces were appended to an artifact that the run began with. -/
  | extended {artifact : Artifact} {pieces : List ArtifactUpdate} (hbase : base = some artifact)
      (hpieces : ∀ piece ∈ pieces, piece.append = true) : Assembled base pieces (artifact.extend pieces)
  /-- All pieces were to be appended, and the first one found nothing there. -/
  | begun {first : ArtifactUpdate} {rest : List ArtifactUpdate} (hbase : base = none)
      (hpieces : ∀ piece ∈ first :: rest, piece.append = true) :
      Assembled base (first :: rest) (first.artifact.extend rest)

def withId? (id : String) (artifacts : List Artifact) : Option Artifact :=
  artifacts.find? fun artifact => artifact.artifactId = id

def piecesOf (id : String) (pieces : List ArtifactUpdate) : List ArtifactUpdate :=
  pieces.filter fun piece => piece.artifact.artifactId = id

def mergeAll (artifacts : List Artifact) (pieces : List ArtifactUpdate) : List Artifact :=
  pieces.foldl (fun artifacts piece => merge piece.append piece.artifact artifacts) artifacts

def onto (piece : ArtifactUpdate) : Option Artifact → Artifact
  | some artifact => if piece.append then artifact.extend [piece] else piece.artifact
  | none => piece.artifact

/-- What pieces make, one after another, of the artifact with their id. -/
def assemble (base : Option Artifact) (pieces : List ArtifactUpdate) : Option Artifact :=
  pieces.foldl (fun artifact piece => some (onto piece artifact)) base

@[simp] theorem extend_nil (artifact : Artifact) : artifact.extend [] = artifact := by
  simp [extend]

theorem extend_concat (artifact : Artifact) (pieces : List ArtifactUpdate) (piece : ArtifactUpdate) :
    artifact.extend (pieces ++ [piece]) = (artifact.extend pieces).extend [piece] := by
  simp [extend]

theorem mergeAll_cons (artifacts : List Artifact) (piece : ArtifactUpdate) (rest : List ArtifactUpdate) :
    mergeAll artifacts (piece :: rest) = mergeAll (merge piece.append piece.artifact artifacts) rest := rfl

theorem mergeAll_concat (artifacts : List Artifact) (pieces : List ArtifactUpdate) (piece : ArtifactUpdate) :
    mergeAll artifacts (pieces ++ [piece]) = merge piece.append piece.artifact (mergeAll artifacts pieces) := by
  rw [mergeAll, List.foldl_append]
  rfl

theorem piecesOf_cons_self (piece : ArtifactUpdate) (rest : List ArtifactUpdate) :
    piecesOf piece.artifact.artifactId (piece :: rest)
      = piece :: piecesOf piece.artifact.artifactId rest := by
  simp [piecesOf]

theorem piecesOf_cons_of_ne {id : String} {piece : ArtifactUpdate} (h : piece.artifact.artifactId ≠ id)
    (rest : List ArtifactUpdate) : piecesOf id (piece :: rest) = piecesOf id rest := by
  simp [piecesOf, h]

theorem assemble_cons (base : Option Artifact) (piece : ArtifactUpdate) (rest : List ArtifactUpdate) :
    assemble base (piece :: rest) = assemble (some (onto piece base)) rest := rfl

theorem assemble_append (base : Option Artifact) (first second : List ArtifactUpdate) :
    assemble base (first ++ second) = assemble (assemble base first) second := by
  rw [assemble, List.foldl_append]
  rfl

theorem assemble_eq_none_iff {base : Option Artifact} {pieces : List ArtifactUpdate} :
    assemble base pieces = none ↔ base = none ∧ pieces = [] := by
  induction pieces generalizing base with
  | nil => simp [assemble]
  | cons piece rest ih => simp [assemble_cons, ih]

/-! ### One artifact -/

theorem withId?_merge_self (piece : ArtifactUpdate) (artifacts : List Artifact) :
    withId? piece.artifact.artifactId (merge piece.append piece.artifact artifacts)
      = some (onto piece (withId? piece.artifact.artifactId artifacts)) := by
  induction artifacts with
  | nil => simp [withId?, merge, onto]
  | cons artifact rest ih =>
      by_cases h : artifact.artifactId = piece.artifact.artifactId
      · cases happend : piece.append <;> simp [withId?, merge, onto, h, happend, extend]
      · simpa [withId?, merge, h] using ih

theorem withId?_merge_of_ne {id : String} {piece : ArtifactUpdate} (h : piece.artifact.artifactId ≠ id)
    (artifacts : List Artifact) :
    withId? id (merge piece.append piece.artifact artifacts) = withId? id artifacts := by
  induction artifacts with
  | nil => simp [withId?, merge, h]
  | cons artifact rest ih =>
      by_cases hpiece : artifact.artifactId = piece.artifact.artifactId
      · cases happend : piece.append <;> simp [withId?, merge, hpiece, h]
      · simp only [merge, if_neg hpiece]
        by_cases hartifact : artifact.artifactId = id
        · simp [withId?, hartifact]
        · simpa [withId?, hartifact] using ih

/-- Under each id stands what the pieces with that id make of what stood there. -/
theorem withId?_mergeAll (id : String) (base : List Artifact) (pieces : List ArtifactUpdate) :
    withId? id (mergeAll base pieces) = assemble (withId? id base) (piecesOf id pieces) := by
  induction pieces generalizing base with
  | nil => rfl
  | cons piece rest ih =>
      rw [mergeAll_cons, ih]
      by_cases hid : piece.artifact.artifactId = id
      · subst hid
        rw [piecesOf_cons_self, withId?_merge_self]
        rfl
      · rw [piecesOf_cons_of_ne hid, withId?_merge_of_ne hid]

theorem assemble_of_appended {pieces : List ArtifactUpdate} (h : ∀ piece ∈ pieces, piece.append = true)
    (artifact : Artifact) : assemble (some artifact) pieces = some (artifact.extend pieces) := by
  induction pieces generalizing artifact with
  | nil => rw [extend_nil]; rfl
  | cons piece rest ih =>
      have hpiece : onto piece (some artifact) = artifact.extend [piece] := by
        rw [onto, if_pos (h piece (by simp))]
      rw [assemble_cons, hpiece, ih fun other hother => h other (by simp [hother])]
      simp [extend]

theorem Assembled.concat {base : Option Artifact} {pieces : List ArtifactUpdate} {artifact : Artifact}
    (h : Assembled base pieces artifact) (piece : ArtifactUpdate) :
    Assembled base (pieces ++ [piece]) (onto piece (some artifact)) := by
  cases happend : piece.append with
  | false =>
      have hreplaced := @Assembled.replaced base pieces piece [] happend (by simp)
      simpa [onto, happend] using hreplaced
  | true =>
      have hconcat : ∀ {l : List ArtifactUpdate}, (∀ other ∈ l, other.append = true) →
          ∀ other ∈ l ++ [piece], other.append = true := by
        intro l hl other hother
        rcases List.mem_append.mp hother with hother | hother
        · exact hl other hother
        · rw [List.mem_singleton.mp hother]; exact happend
      simp only [onto, happend, if_true]
      cases h with
      | replaced before hlast hsince =>
          rw [List.append_assoc, List.cons_append, ← extend_concat]
          exact .replaced before hlast (hconcat hsince)
      | extended hbase hpieces =>
          rw [← extend_concat]
          exact .extended hbase (hconcat hpieces)
      | begun hbase hpieces =>
          rw [List.cons_append, ← extend_concat]
          exact .begun hbase (by simpa using hconcat hpieces)

/-- The first piece of an artifact is that artifact. -/
theorem assembled_first (piece : ArtifactUpdate) : Assembled none [piece] piece.artifact := by
  rw [← extend_nil piece.artifact]
  cases happend : piece.append with
  | false => exact .replaced [] happend (by simp)
  | true => exact .begun rfl (by simpa using happend)

theorem assembled_iff {base : Option Artifact} {pieces : List ArtifactUpdate} {artifact : Artifact} :
    Assembled base pieces artifact ↔ assemble base pieces = some artifact := by
  constructor
  · intro h
    cases h with
    | @replaced before last since hlast hsince =>
        have hfirst (earlier : Option Artifact) : onto last earlier = last.artifact := by
          cases earlier <;> simp [onto, hlast]
        rw [assemble_append, assemble_cons, hfirst, assemble_of_appended hsince]
    | extended hbase hpieces => rw [hbase, assemble_of_appended hpieces]
    | begun hbase hpieces =>
        rw [hbase, assemble_cons]
        exact assemble_of_appended (fun piece hpiece => hpieces piece (by simp [hpiece])) _
  · induction pieces using List.reverseRecOn generalizing artifact with
    | nil =>
        rintro (rfl : base = some artifact)
        have hextended := @Assembled.extended (some artifact) artifact [] rfl (by simp)
        rwa [extend_nil] at hextended
    | append_singleton pieces piece ih =>
        intro h
        rw [assemble_append] at h
        obtain rfl := Option.some.inj h
        cases hearlier : assemble base pieces with
        | some earlier => exact (ih hearlier).concat piece
        | none =>
            obtain ⟨rfl, rfl⟩ := assemble_eq_none_iff.mp hearlier
            exact assembled_first piece

/-! ### All artifacts -/

/-- The ids of a task's artifacts that are not among others, each where it comes first. -/
def newIds (known : List String) (pieces : List ArtifactUpdate) : List String :=
  ((pieces.map fun piece => piece.artifact.artifactId).filter (· ∉ known)).eraseDups

theorem eraseDups_concat (ids : List String) (id : String) :
    (ids ++ [id]).eraseDups = if id ∈ ids then ids.eraseDups else ids.eraseDups ++ [id] := by
  by_cases h : id ∈ ids <;> simp [List.eraseDups_append, List.removeAll, List.eraseDups_cons, h]

theorem mem_newIds {known : List String} {pieces : List ArtifactUpdate} {id : String} :
    id ∈ newIds known pieces ↔ id ∉ known ∧ ∃ piece ∈ pieces, piece.artifact.artifactId = id := by
  simp [newIds, and_comm]

theorem newIds_concat (known : List String) (pieces : List ArtifactUpdate) (piece : ArtifactUpdate) :
    newIds known (pieces ++ [piece])
      = if piece.artifact.artifactId ∈ known ++ newIds known pieces then newIds known pieces
        else newIds known pieces ++ [piece.artifact.artifactId] := by
  by_cases hknown : piece.artifact.artifactId ∈ known
  · simp [newIds, hknown]
  · simp only [List.mem_append, hknown, false_or, mem_newIds]
    simp [newIds, hknown, eraseDups_concat]

theorem map_artifactId_mergeAll (base : List Artifact) (pieces : List ArtifactUpdate) :
    (mergeAll base pieces).map artifactId
      = base.map artifactId ++ newIds (base.map artifactId) pieces := by
  induction pieces using List.reverseRecOn with
  | nil => simp [mergeAll, newIds]
  | append_singleton pieces piece ih =>
      rw [mergeAll_concat, map_artifactId_merge, ih, newIds_concat]
      split
      · rfl
      · rw [List.append_assoc]

theorem nodup_newIds (known : List String) (pieces : List ArtifactUpdate) : (newIds known pieces).Nodup := by
  induction pieces using List.reverseRecOn with
  | nil => simp [newIds]
  | append_singleton pieces piece ih =>
      rw [newIds_concat]
      split
      · exact ih
      · rename_i hnew
        simp only [List.mem_append, not_or] at hnew
        refine List.nodup_append.mpr ⟨ih, by simp, ?_⟩
        rintro id hid new hmem rfl
        exact hnew.2 (List.mem_singleton.mp hmem ▸ hid)

theorem nodup_map_artifactId_mergeAll {base : List Artifact} (h : (base.map artifactId).Nodup)
    (pieces : List ArtifactUpdate) : ((mergeAll base pieces).map artifactId).Nodup := by
  rw [map_artifactId_mergeAll]
  refine List.nodup_append.mpr ⟨h, nodup_newIds _ _, ?_⟩
  rintro id hbase new hnew rfl
  exact (mem_newIds.mp hnew).1 hbase

theorem withId?_of_mem {artifacts : List Artifact} (h : (artifacts.map artifactId).Nodup) {artifact : Artifact}
    (hmem : artifact ∈ artifacts) : withId? artifact.artifactId artifacts = some artifact := by
  induction artifacts with
  | nil => cases hmem
  | cons first rest ih =>
      obtain ⟨hfirst, hrest⟩ := List.nodup_cons.mp h
      rcases List.mem_cons.mp hmem with rfl | hmem
      · simp [withId?]
      · have hne : first.artifactId ≠ artifact.artifactId :=
          fun he => hfirst (he ▸ List.mem_map_of_mem hmem)
        simpa [withId?, hne] using ih hrest hmem

theorem assembled_iff_of_mem_mergeAll {base : List Artifact} (h : (base.map artifactId).Nodup)
    {pieces : List ArtifactUpdate} {artifact : Artifact} (hmem : artifact ∈ mergeAll base pieces)
    (other : Artifact) : Assembled (withId? artifact.artifactId base) (piecesOf artifact.artifactId pieces) other
      ↔ other = artifact := by
  rw [assembled_iff, ← withId?_mergeAll, withId?_of_mem (nodup_map_artifactId_mergeAll h pieces) hmem,
    Option.some.injEq, eq_comm]

end Artifact

open Artifact

theorem Task.artifacts_foldl_absorb (task : Task) (results : List StreamResult) :
    (results.foldl absorb task).artifacts.getD []
      = mergeAll (task.artifacts.getD []) (results.filterMap StreamResult.piece?) := by
  induction results generalizing task with
  | nil => rfl
  | cons result rest ih =>
      rw [List.foldl_cons, ih]
      cases result <;> rfl

namespace Tracker

open StreamResult

/-- No piece is lost, doubled or out of place. A tracker that was told of no task holds none. Otherwise the
results have a current run, and if no two artifacts share an id where that begins, the tracked task has
the artifacts that the run began with and then those that it brought, in order of appearance; each is what
its own pieces make of it, and the task's answer is their text. -/
theorem artifacts_after (results : List StreamResult) :
    ((∀ result ∈ results, result.taskId? = none) → (empty.after results).task = none) ∧
    (∀ result ∈ results, result.taskId? ≠ none → Nonempty (Run results)) ∧
    ∀ run : Run results, (run.baseArtifacts.map artifactId).Nodup →
      ∃ task artifacts, (empty.after results).task = some task ∧ task.artifacts.getD [] = artifacts ∧
        artifacts.map artifactId
          = run.baseArtifacts.map artifactId ++ newIds (run.baseArtifacts.map artifactId) run.pieces ∧
        (artifacts.map artifactId).Nodup ∧
        (∀ artifact ∈ artifacts, ∀ other, Assembled (withId? artifact.artifactId run.baseArtifacts)
          (piecesOf artifact.artifactId run.pieces) other ↔ other = artifact) ∧
        task.answer = String.join ((artifacts.flatMap Artifact.parts).filterMap Part.text?) := by
  refine ⟨fun hnone => ?_, fun result hmem htask => ?_, fun run hbase => ?_⟩
  · have hid := map_id_task_after results
    rw [lastTaskId?_eq_none_iff.mpr hnone] at hid
    exact Option.map_eq_none_iff.mp hid
  · exact nonempty_run fun hnone => htask (lastTaskId?_eq_none_iff.mp hnone result hmem)
  · have hartifacts := Task.artifacts_foldl_absorb run.base (run.first :: run.later)
    refine ⟨_, _, task_after_run run, hartifacts, map_artifactId_mergeAll _ _,
      nodup_map_artifactId_mergeAll hbase _, fun artifact hmem => assembled_iff_of_mem_mergeAll hbase hmem, ?_⟩
    rw [Task.answer, hartifacts]

def chunk (id text : String) (append : Bool) : StreamResult :=
  .artifact ⟨"t", none, .ofText id text, append, false⟩

def interleaved : List StreamResult :=
  [chunk "a" "lost" false,
    .task { Task.ofState "t" .working with artifacts := some [.ofText "a" "plan"] },
    chunk "b" "one" true, chunk "a" "draft" false, chunk "b" ", two; " true, chunk "c" "end" false,
    chunk "a" "final; " false, chunk "a" "checked; " true]

def interleavedRun : Run interleaved where
  earlier := [chunk "a" "lost" false]
  first := .task { Task.ofState "t" .working with artifacts := some [.ofText "a" "plan"] }
  later :=
    [chunk "b" "one" true, chunk "a" "draft" false, chunk "b" ", two; " true, chunk "c" "end" false,
      chunk "a" "final; " false, chunk "a" "checked; " true]
  base := { Task.ofState "t" .working with artifacts := some [.ofText "a" "plan"] }
  results_eq := rfl
  begins := trivial
  continues := ⟨fun h => h rfl, fun h => h rfl, fun h => h rfl, fun h => h rfl, fun h => h rfl,
    fun h => h rfl, trivial⟩
  base_eq := rfl

theorem artifacts_after_interleaved : (interleavedRun.baseArtifacts.map artifactId).Nodup ∧
    ∃ task, (empty.after interleaved).task = some task ∧
      (task.artifacts.getD []).map artifactId = ["a", "b", "c"] ∧
      task.answer = "final; checked; one, two; end" := by
  have hbase : (interleavedRun.baseArtifacts.map artifactId).Nodup := by decide
  obtain ⟨task, artifacts, htask, rfl, hids, -, -, -⟩ := (artifacts_after interleaved).2.2 interleavedRun hbase
  refine ⟨hbase, task, htask, ?_, ?_⟩
  · rw [hids]
    decide
  · have hanswer : (empty.after interleaved).task.map Task.answer = some "final; checked; one, two; end" := by
      decide
    rw [htask] at hanswer
    exact Option.some.inj hanswer

end Tracker

end AgentDelegation

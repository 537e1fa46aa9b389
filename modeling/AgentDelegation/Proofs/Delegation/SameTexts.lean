import AgentDelegation.Delegation.Settlement
import AgentDelegation.Proofs.Protocol.UnknownParts
import AgentDelegation.Transport.Tracker

/-!
# Parts of unknown shape hide nothing

A delegation is settled by the states of tasks, by the messages that come with them and by the texts of
their artifacts. Parts that are not texts have no say in it: whatever a tracker makes of two streams of
results that differ in such parts only, every event moves the delegation to the same state, and so does
every event that follows.
-/

namespace AgentDelegation

open Json

theorem eq_none_or_exists_of_rel {α β : Type} {R : α → β → Prop} {x : Option α} {y : Option β}
    (h : Option.Rel R x y) : (x = none ∧ y = none) ∨ ∃ a b, x = some a ∧ y = some b ∧ R a b := by
  cases h with
  | none => exact .inl ⟨rfl, rfl⟩
  | some hrelated => exact .inr ⟨_, _, rfl, rfl, hrelated⟩

/-! ### Texts -/

namespace Artifact

/-- The texts of the text parts, joined. -/
def text (artifact : Artifact) : String := String.join (artifact.parts.filterMap Part.text?)

variable {artifact other : Artifact}

theorem Alike.text_eq (h : artifact.Alike other) : other.text = artifact.text := by
  rw [text, text, h.parts]

theorem Alike.append (h : artifact.Alike other) {piece otherPiece : Artifact} (hpiece : piece.Alike otherPiece) :
    Alike { artifact with parts := artifact.parts ++ piece.parts }
      { other with parts := other.parts ++ otherPiece.parts } where
  artifactId := h.artifactId
  name := h.name
  description := h.description
  parts := by rw [Part.SameTexts, List.filterMap_append, List.filterMap_append, h.parts, hpiece.parts]
  metadata := h.metadata

theorem merge_of_alike {piece otherPiece : Artifact} (hpiece : piece.Alike otherPiece) (append : Bool)
    {artifacts others : List Artifact} (h : List.Forall₂ Alike artifacts others) :
    List.Forall₂ Alike (merge append piece artifacts) (merge append otherPiece others) := by
  induction h with
  | nil => exact .cons hpiece .nil
  | @cons artifact other _ _ hartifact hrest ih =>
      have hid : other.artifactId = otherPiece.artifactId ↔ artifact.artifactId = piece.artifactId := by
        rw [hartifact.artifactId, hpiece.artifactId]
      simp only [merge, hid]
      split
      · cases append with
        | false => exact .cons hpiece hrest
        | true => exact .cons (hartifact.append hpiece) hrest
      · exact .cons hartifact ih

theorem texts_of_alike {artifacts others : List Artifact} (h : List.Forall₂ Alike artifacts others) :
    (others.flatMap parts).filterMap Part.text? = (artifacts.flatMap parts).filterMap Part.text? := by
  induction h with
  | nil => rfl
  | cons hartifact _ ih =>
      rw [List.flatMap_cons, List.flatMap_cons, List.filterMap_append, List.filterMap_append, hartifact.parts, ih]

end Artifact

namespace Task

variable {task other : Task}

/-- Where a list is missing there are no artifacts. -/
theorem Alike.artifacts_getD (h : task.Alike other) :
    List.Forall₂ Artifact.Alike (task.artifacts.getD []) (other.artifacts.getD []) := by
  rcases eq_none_or_exists_of_rel h.artifacts with ⟨hnone, hnone'⟩ | ⟨artifacts, others, hsome, hsome', hall⟩
  · rw [hnone, hnone']
    exact .nil
  · rw [hsome, hsome']
    exact hall

theorem Alike.answer_eq (h : task.Alike other) : other.answer = task.answer := by
  rw [answer, answer, Artifact.texts_of_alike h.artifacts_getD]

end Task

/-! ### What is tracked -/

namespace Tracker

variable {tracker other : Tracker}

/-- Trackers of alike tasks. -/
def Alike (tracker other : Tracker) : Prop := Option.Rel Task.Alike tracker.task other.task

theorem Alike.refl (tracker : Tracker) : tracker.Alike tracker := by
  rw [Alike]
  cases tracker.task with
  | none => exact .none
  | some task => exact .some (.refl task)

theorem taskFor_of_alike (h : tracker.Alike other) (id : String) (contextId : Option String) :
    (tracker.taskFor id contextId).Alike (other.taskFor id contextId) := by
  obtain ⟨task⟩ := tracker
  obtain ⟨otherTask⟩ := other
  cases h with
  | none => exact .refl _
  | some htask =>
      simp only [taskFor, htask.id]
      split
      · exact htask
      · exact .refl _

theorem task?_event_of_alike (h : tracker.Alike other) {result otherResult : StreamResult}
    (hresult : result.Alike otherResult) :
    Option.Rel Task.Alike (tracker.event result).task? (other.event otherResult).task? := by
  cases hresult with
  | task halike => exact .some halike
  | message => exact .none
  | status update =>
      have htask := taskFor_of_alike h update.taskId update.contextId
      exact .some ⟨htask.id, htask.contextId, rfl, htask.artifacts, htask.history⟩
  | @artifact update _ halike =>
      have htask := taskFor_of_alike h update.taskId update.contextId
      refine .some ?_
      rw [applyArtifact, applyArtifact, halike.taskId, halike.contextId, halike.append]
      exact ⟨htask.id, htask.contextId, htask.status,
        .some (Artifact.merge_of_alike halike.artifact _ htask.artifacts_getD), htask.history⟩

theorem next_of_alike (h : tracker.Alike other) {result otherResult : StreamResult}
    (hresult : result.Alike otherResult) : (tracker.next result).Alike (other.next otherResult) := by
  rcases eq_none_or_exists_of_rel (task?_event_of_alike h hresult) with ⟨hnone, hnone'⟩ | ⟨a, b, hsome, hsome', htask⟩
  · simpa only [next, hnone, hnone'] using h
  · simp only [next, hsome, hsome']
    exact .some htask

end Tracker

/-! ### What is settled -/

namespace Settlement

variable {agent : String}

theorem ofTask_of_alike {task other : Task} (h : task.Alike other) : ofTask agent other = ofTask agent task := by
  simp only [ofTask, Task.state, h.status, h.answer_eq]

theorem after_event_of_alike {news other : Event} (h : Option.Rel Task.Alike news.task? other.task?)
    (s : Settlement) : s.after agent (.event other) = s.after agent (.event news) := by
  rcases eq_none_or_exists_of_rel h with ⟨hnone, hnone'⟩ | ⟨task, otherTask, hsome, hsome', htask⟩
  · simp only [after, proposal, hnone, hnone']
  · simp only [after, proposal, hsome, hsome', ofTask_of_alike htask]

/-- Step by step alike results lead to the same state. -/
theorem run_events_of_alike {tracker other : Tracker} (h : tracker.Alike other) {results others : List StreamResult}
    (hresults : List.Forall₂ StreamResult.Alike results others) (s : Settlement) :
    s.run agent ((other.events others).map .event) = s.run agent ((tracker.events results).map .event) := by
  induction hresults generalizing tracker other s with
  | nil => rfl
  | cons hresult _ ih =>
      simp only [Tracker.events, List.map_cons, run_cons]
      rw [after_event_of_alike (Tracker.task?_event_of_alike h hresult), ih (Tracker.next_of_alike h hresult)]

end Settlement

namespace StreamResult

/-- Whatever is tracked and settled so far, the two results and all later ones settle the same. -/
def SettlesLike (result other : StreamResult) : Prop :=
  ∀ (tracker : Tracker) (agent : String) (s : Settlement) (later : List StreamResult),
    s.run agent ((tracker.events (other :: later)).map .event)
      = s.run agent ((tracker.events (result :: later)).map .event)

theorem Alike.settlesLike {result other : StreamResult} (h : result.Alike other) : result.SettlesLike other := by
  intro tracker agent s later
  exact s.run_events_of_alike (.refl tracker) (.cons h (List.forall₂_same.mpr fun result _ => .refl result))

/-- Whatever objects without a text are put in among the parts of the artifacts of a task or an update, in any
encoding, it is accepted as the same sort of result. It differs in those parts only, says the same text, and
settles a delegation as it would without them. -/
theorem unknown_parts_hide_nothing :
    (∀ v w task, ofValue v = .ok (some (.task task)) → Padded .task v w →
      ∃ other, ofValue w = .ok (some (.task other)) ∧ task.Alike other ∧ other.answer = task.answer ∧
        (StreamResult.task task).SettlesLike (.task other)) ∧
    (∀ v w update, ofValue v = .ok (some (.artifact update)) → Padded .artifact v w →
      ∃ other, ofValue w = .ok (some (.artifact other)) ∧ update.Alike other ∧
        other.artifact.text = update.artifact.text ∧
        (StreamResult.artifact update).SettlesLike (.artifact other)) := by
  constructor
  · intro v w snapshot hread hpadded
    obtain ⟨result, hresult, halike⟩ := exists_ofValue_of_padded hpadded hread rfl
    cases halike with
    | @task _ other hother =>
        exact ⟨other, hresult, hother, hother.answer_eq, (Alike.task hother).settlesLike⟩
  · intro v w update hread hpadded
    obtain ⟨result, hresult, halike⟩ := exists_ofValue_of_padded hpadded hread rfl
    cases halike with
    | @artifact _ other hother =>
        exact ⟨other, hresult, hother, hother.artifact.text_eq, (Alike.artifact hother).settlesLike⟩

/-- A wrapped task that is done, with an artifact of the given parts. -/
def report (parts : List Value) : Value :=
  .obj [("task", .obj [("artifacts", .arr [.obj [("artifactId", .str "a"), ("parts", .arr parts)]]),
    ("id", .str "t"), ("status", .obj [("state", .str "TASK_STATE_COMPLETED")])])]

/-- A piece of an artifact in the array form, with the given parts. -/
def chapter (parts : List Value) : Value :=
  .obj [("append", .bool true), ("artifact", .arr [.str "a", .null, .null, .arr parts]),
    ("kind", .str "artifact-update"), ("taskId", .str "t")]

def ready : Value := .obj [("text", .str "ready")]

/-- A part whose text is none, and a part that fits nothing. -/
def strange : List Value := [.obj [("file", .null), ("metadata", .num (.int 3)), ("text", .num (.int 7))], .obj []]

theorem unknown_parts_hide_nothing_strange :
    ofValue (report [ready]) = .ok (some (.task { Task.ofState "t" .completed with
      artifacts := some [.ofText "a" "ready"] })) ∧
    (∃ other, ofValue (report (strange ++ ready :: strange)) = .ok (some (.task other)) ∧ other.answer = "ready" ∧
      Settlement.start.run "w" ((Tracker.empty.events [.task other]).map .event) = .resolved "ready") ∧
    ofValue (chapter [ready]) = .ok (some (.artifact ⟨"t", none, .ofText "a" "ready", true, false⟩)) ∧
    (∃ other, ofValue (chapter (ready :: strange)) = .ok (some (.artifact other)) ∧ other.append = true ∧
      other.artifact.text = "ready") := by
  obtain ⟨htask, hartifact⟩ := unknown_parts_hide_nothing
  have hreport : ofValue (report [ready]) = .ok (some (.task { Task.ofState "t" .completed with
      artifacts := some [.ofText "a" "ready"] })) := rfl
  have hchapter : ofValue (chapter [ready]) = .ok (some (.artifact ⟨"t", none, .ofText "a" "ready", true, false⟩)) :=
    rfl
  have hstrange {items others : List Value} (h : Part.Padded items others) : Part.Padded items (strange ++ others) :=
    .insert (by simp) (.insert (by simp) h)
  have hparts : Part.Padded [ready] (strange ++ ready :: strange) := hstrange (.keep ready (hstrange .nil))
  have hpiece : Part.Padded [ready] (ready :: strange) := .keep ready (hstrange .nil)
  refine ⟨hreport, ?_, hchapter, ?_⟩
  · have hpadded : Padded .task (report [ready]) (report (strange ++ ready :: strange)) := by
      refine .wrapped (by decide) (.obj (.cons ⟨rfl, .inr ⟨rfl, .arr (.cons ?_ .nil)⟩⟩ ?_))
      · exact .obj (.cons ⟨rfl, .inl rfl⟩ (.cons ⟨rfl, .inr ⟨rfl, .arr hparts⟩⟩ .nil))
      · exact List.forall₂_same.mpr fun member _ => ⟨rfl, .inl rfl⟩
    obtain ⟨other, hother, -, hanswer, hsettles⟩ := htask _ _ _ hreport hpadded
    refine ⟨other, hother, hanswer, ?_⟩
    exact (hsettles .empty "w" .start []).trans rfl
  · have hpadded : Padded .artifact (chapter [ready]) (chapter (ready :: strange)) := by
      refine .bare (.obj (.cons ⟨rfl, .inl rfl⟩ (.cons ⟨rfl, .inr ⟨rfl, .arr ?_⟩⟩ ?_)))
      · exact .cons (.inl rfl) (.cons (.inl rfl) (.cons (.inl rfl) (.cons (.inr ⟨rfl, .arr hpiece⟩) (.nil _))))
      · exact List.forall₂_same.mpr fun member _ => ⟨rfl, .inl rfl⟩
    obtain ⟨other, hother, halike, htext, -⟩ := hartifact _ _ _ hchapter hpadded
    exact ⟨other, hother, halike.append, htext⟩

end StreamResult

end AgentDelegation

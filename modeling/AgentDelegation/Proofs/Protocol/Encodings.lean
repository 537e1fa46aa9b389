import AgentDelegation.Proofs.Json.Unknown
import AgentDelegation.Proofs.Protocol.RoundTrip
import AgentDelegation.Protocol.StreamResult

/-!
# The encodings of a result

No record of a result has a field `kind`, so naming the sort of a result in that member does not change how
the result is decoded, and a wrapper has no members that could. A result that is written without either is
told by the names of its members: those that every result of a sort is written with do not occur together
in any sort that would be tried before it.
-/

namespace AgentDelegation

open Json

variable {α β σ : Type}

/-! ### The names that a record is written with -/

namespace Json.Record

variable {name : String} {s : σ}

@[simp] theorem mem_names_write_seq {first : Record σ (α → β)} {second : Record σ α} :
    name ∈ ((first <*> second).write s).map Prod.fst
      ↔ name ∈ (first.write s).map Prod.fst ∨ name ∈ (second.write s).map Prod.fst := by
  change name ∈ (first.write s ++ second.write s).map Prod.fst ↔ _
  rw [List.map_append, List.mem_append]

@[simp] theorem mem_names_write_map {record : Record σ α} (f : α → β) :
    name ∈ ((f <$> record).write s).map Prod.fst ↔ name ∈ (record.write s).map Prod.fst :=
  Iff.rfl

@[simp] theorem mem_names_write_field {field : Field α} {get : σ → α} :
    name ∈ ((Record.field field get).write s).map Prod.fst ↔ field.omit? (get s) = false ∧ name = field.name := by
  cases homit : field.omit? (get s) <;> simp [Record.field, homit]

end Json.Record

namespace Json.Value

theorem isSome_lookup_iff {ν : Type} {name : String} {members : List (String × ν)} :
    (members.lookup name).isSome = true ↔ name ∈ members.map Prod.fst := by
  rw [Option.isSome_iff_ne_none, ne_eq, Entries.lookup_eq_none_iff, not_not]

/-- Settling an object keeps its names. -/
theorem mem_names_settledMembers {name : String} {members : Members} :
    name ∈ (settledMembers members []).map Prod.fst ↔ name ∈ members.map Prod.fst := by
  rw [← isSome_lookup_iff, ← isSome_lookup_iff, lookup_settledMembers, lookup_eq_head?_valuesOf name members]
  cases valuesOf name members <;> simp

end Json.Value

namespace ResultKind

/-- What the member `kind` says of a sort. -/
def name : ResultKind → String
  | .task => "task"
  | .message => "message"
  | .status => "status-update"
  | .artifact => "artifact-update"

/-- The names that a wrapper of a sort may have. -/
def wrappers : ResultKind → List String
  | .task => ["task"]
  | .message => ["message", "msg"]
  | .status => ["statusUpdate"]
  | .artifact => ["artifactUpdate"]

theorem ofName?_name (kind : ResultKind) : ofName? kind.name = some kind := by cases kind <;> rfl

theorem ofWrapper?_of_mem {kind : ResultKind} {wrapper : String} (h : wrapper ∈ kind.wrappers) :
    ofWrapper? wrapper = some kind ∧ wrapper ≠ "kind" := by
  have hall : ∀ kind, ∀ wrapper ∈ wrappers kind, ofWrapper? wrapper = some kind ∧ wrapper ≠ "kind" := by
    intro kind
    cases kind <;> simp [wrappers, ofWrapper?]
  exact hall kind wrapper h

end ResultKind

namespace StreamResult

open Record (Overlooks)

/-! ### Named and wrapped results -/

theorem readAs_of_kind (kind : ResultKind) (before after : Members) (v : Value) :
    readAs kind (.obj (before ++ ("kind", v) :: after)) = readAs kind (.obj (before ++ after)) := by
  have htask : Task.record.Overlooks "kind" :=
    (Overlooks.field rfl).map _ |>.seq (.field rfl) |>.seq (.field rfl) |>.seq (.field rfl) |>.seq (.field rfl)
  have hmessage : Message.record.Overlooks "kind" :=
    (Overlooks.field rfl).map _ |>.seq (.field rfl) |>.seq (.field rfl) |>.seq (.field rfl) |>.seq (.field rfl)
      |>.seq (.field rfl)
  have hstatus : StatusUpdate.record.Overlooks "kind" :=
    (Overlooks.field rfl).map _ |>.seq (.field rfl) |>.seq (.field rfl) |>.seq (.field rfl)
  have hartifact : ArtifactUpdate.record.Overlooks "kind" :=
    (Overlooks.field rfl).map _ |>.seq (.field rfl) |>.seq (.field rfl) |>.seq (.field rfl) |>.seq (.field rfl)
  cases kind with
  | task => exact congrArg (Except.map task) (Record.readObject_of_overlooks htask rfl before after none)
  | message => exact congrArg (Except.map message) (Record.readObject_of_overlooks hmessage rfl before after none)
  | status => exact congrArg (Except.map status) (Record.readObject_of_overlooks hstatus rfl before after none)
  | artifact => exact congrArg (Except.map artifact) (Record.readObject_of_overlooks hartifact rfl before after none)

theorem ofValue_of_classify {v inner : Value} {kind : ResultKind} (h : classify v = some (kind, inner)) :
    ofValue v = (readAs kind inner).map some := by
  rw [ofValue, h]

theorem kind?_of_not_mem {members : Members} (h : "kind" ∉ members.map Prod.fst) :
    kind? (.obj members) = none := by
  rw [kind?, Value.get?, Entries.lookup_eq_none_iff.mpr h]

theorem classify_of_kind {kind : ResultKind} {before : Members} (h : "kind" ∉ before.map Prod.fst)
    (after : Members) :
    classify (.obj (before ++ ("kind", .str kind.name) :: after))
      = some (kind, .obj (before ++ ("kind", .str kind.name) :: after)) := by
  have hget : (before ++ ("kind", .str kind.name) :: after).lookup "kind" = some (.str kind.name) := by
    rw [lookup_eq_head?_valuesOf, valuesOf_append, valuesOf_eq_nil_of_sublist (List.Sublist.refl _) h,
      valuesOf_cons_self]
    rfl
  simp only [classify, kind?, Value.get?, hget, ResultKind.ofName?_name]

theorem classify_of_wrapper {kind : ResultKind} {wrapper : String} (h : wrapper ∈ kind.wrappers) (inner : Value) :
    classify (.obj [(wrapper, inner)]) = some (kind, inner) := by
  obtain ⟨hwrapper, hne⟩ := ResultKind.ofWrapper?_of_mem h
  have hkind : kind? (.obj [(wrapper, inner)]) = none := kind?_of_not_mem (by simpa using Ne.symm hne)
  simp only [classify, hkind, wrapped?, hwrapper, Option.map_some]

/-! ### Bare results -/

/-- The sort of a result. -/
def kind : StreamResult → ResultKind
  | .task _ => .task
  | .message _ => .message
  | .status _ => .status
  | .artifact _ => .artifact

/-- A result as it is written, without its sort and without a wrapper. -/
def bare : StreamResult → Value
  | .task t => Task.format.write t
  | .message m => Message.format.write m
  | .status update => StatusUpdate.format.write update
  | .artifact update => ArtifactUpdate.format.write update

/-- The shape of an object depends on its names only. -/
theorem shape?_obj (members : Members) :
    shape? (.obj members) = ResultKind.ofShape? fun name => decide (name ∈ members.map Prod.fst) := by
  rw [shape?]
  congr 1
  funext name
  rw [Bool.eq_iff_iff, Value.isSome_lookup_iff, decide_eq_true_iff]

/-- A single member has no shape, so wrappers and shapes exclude each other. -/
theorem ofShape?_singleton (name : String) :
    ResultKind.ofShape? (fun other => decide (other ∈ [name])) = none := by
  simp only [ResultKind.ofShape?, List.mem_singleton]
  grind

theorem classify_of_shape {members : Members} {kind : ResultKind} (hkind : "kind" ∉ members.map Prod.fst)
    (hshape : ResultKind.ofShape? (fun name => decide (name ∈ members.map Prod.fst)) = some kind) :
    classify (.obj members) = some (kind, .obj members) := by
  have hwrapped : wrapped? (.obj members) = none := by
    match members with
    | [] => rfl
    | [(name, inner)] =>
        rw [List.map_singleton, ofShape?_singleton] at hshape
        cases hshape
    | _ :: _ :: _ => rfl
  simp only [classify, kind?_of_not_mem hkind, hwrapped, shape?_obj, hshape, Option.map_some]

theorem exists_members_bare (result : StreamResult) :
    ∃ members, result.bare = .obj members ∧ "kind" ∉ members.map Prod.fst ∧
      ResultKind.ofShape? (fun name => decide (name ∈ members.map Prod.fst)) = some result.kind := by
  cases result with
  | task t =>
      refine ⟨Task.record.write t, rfl, ?_, ?_⟩
      · simp [Task.record, Record.required, Record.optional]
      · simp [Task.record, Record.required, Record.optional, ResultKind.ofShape?, kind]
  | message m =>
      refine ⟨Message.record.write m, rfl, ?_, ?_⟩
      · simp [Message.record, Record.required, Record.optional, Record.defaulted]
      · simp [Message.record, Record.required, Record.optional, Record.defaulted, ResultKind.ofShape?, kind]
  | status update =>
      refine ⟨StatusUpdate.record.write update, rfl, ?_, ?_⟩
      · simp [StatusUpdate.record, Record.required, Record.optional, Record.defaulted]
      · simp [StatusUpdate.record, Record.required, Record.optional, Record.defaulted, ResultKind.ofShape?, kind]
  | artifact update =>
      refine ⟨ArtifactUpdate.record.write update, rfl, ?_, ?_⟩
      · simp [ArtifactUpdate.record, Record.required, Record.optional, Record.defaulted]
      · simp [ArtifactUpdate.record, Record.required, Record.optional, Record.defaulted, ResultKind.ofShape?, kind]

/-- In name order a result has the names that it is written with. -/
theorem classify_bare (result : StreamResult) :
    classify result.bare = some (result.kind, result.bare) ∧
      classify result.bare.settled = some (result.kind, result.bare.settled) := by
  obtain ⟨members, hbare, hkind, hshape⟩ := exists_members_bare result
  rw [hbare, Value.settled]
  constructor
  · exact classify_of_shape hkind hshape
  · apply classify_of_shape
    · rwa [Value.mem_names_settledMembers]
    · simp only [Value.mem_names_settledMembers]
      exact hshape

/-! ### Agreement -/

theorem reads_back_of_faithful {format : Format α} (h : format.Faithful) (make : α → StreamResult) {v : Value}
    {result : StreamResult} (hread : (format.readValue v).map make = .ok result) :
    ∃ x, make x = result ∧ (format.readValue (format.write x)).map make = .ok result ∧
      (v.settled = v → (format.readValue (format.write x).settled).map make = .ok result) := by
  obtain ⟨x, hx, rfl⟩ := map_eq_ok_iff.mp hread
  obtain ⟨hstanding, hordered⟩ := h v x hx
  refine ⟨x, rfl, congrArg (Except.map make) hstanding, fun hsettled => ?_⟩
  exact congrArg (Except.map make) (hordered hsettled)

theorem readAs_bare {kind : ResultKind} {v : Value} {result : StreamResult} (h : readAs kind v = .ok result) :
    result.kind = kind ∧ readAs kind result.bare = .ok result ∧
      (v.settled = v → readAs kind result.bare.settled = .ok result) := by
  cases kind with
  | task =>
      obtain ⟨x, rfl, hback⟩ := reads_back_of_faithful (Format.faithful_of_restores fun _ => Task.restores) task h
      exact ⟨rfl, hback⟩
  | message =>
      obtain ⟨x, rfl, hback⟩ :=
        reads_back_of_faithful (Format.faithful_of_restores fun _ => Message.restores) message h
      exact ⟨rfl, hback⟩
  | status =>
      obtain ⟨x, rfl, hback⟩ :=
        reads_back_of_faithful (Format.faithful_of_restores fun _ => StatusUpdate.restores) status h
      exact ⟨rfl, hback⟩
  | artifact =>
      obtain ⟨x, rfl, hback⟩ :=
        reads_back_of_faithful (Format.faithful_of_restores fun _ => ArtifactUpdate.restores) artifact h
      exact ⟨rfl, hback⟩

/-- The two encodings in which an object without a member `kind` is sent as a result of a named sort. -/
inductive Names (kind : ResultKind) (members : Members) : Value → Prop where
  | member {before after : Members} (hmembers : before ++ after = members) :
      Names kind members (.obj (before ++ ("kind", .str kind.name) :: after))
  | wrapper {name : String} (hname : name ∈ kind.wrappers) : Names kind members (.obj [(name, .obj members)])

theorem ofValue_of_names {kind : ResultKind} {members : Members} {v : Value}
    (hkind : "kind" ∉ members.map Prod.fst) (h : Names kind members v) :
    ofValue v = (readAs kind (.obj members)).map some := by
  cases h with
  | @member before after hmembers =>
      subst hmembers
      have hbefore : "kind" ∉ before.map Prod.fst := by
        intro hmem
        apply hkind
        rw [List.map_append]
        exact List.mem_append_left _ hmem
      rw [ofValue_of_classify (classify_of_kind hbefore after), readAs_of_kind]
  | wrapper hname => rw [ofValue_of_classify (classify_of_wrapper hname _)]

/-- The encodings of a result agree. An object that is sent as a result of a named sort is decoded as that
sort, to the same value or with the same fault in both encodings, and is never passed over. A result that
was decoded and is written again, without its sort and without a wrapper, as it stands or in name order, is
told by its members to be of its sort and is decoded to itself. -/
theorem encodings_agree :
    (∀ kind members v, "kind" ∉ members.map Prod.fst → Names kind members v →
      ofValue v = (readAs kind (.obj members)).map some ∧ ofValue v ≠ .ok none) ∧
    (∀ kind v result, readAs kind v = .ok result →
      classify result.bare = some (kind, result.bare) ∧ ofValue result.bare = .ok (some result) ∧
      (v.settled = v →
        classify result.bare.settled = some (kind, result.bare.settled) ∧
        ofValue result.bare.settled = .ok (some result))) := by
  constructor
  · intro kind members v hkind h
    have hvalue := ofValue_of_names hkind h
    refine ⟨hvalue, ?_⟩
    rw [hvalue]
    cases readAs kind (.obj members) <;> simp [Except.map]
  · intro kind v result hread
    obtain ⟨rfl, hstanding, hordered⟩ := readAs_bare hread
    obtain ⟨hbare, hsettled⟩ := classify_bare result
    refine ⟨hbare, ?_, fun hv => ⟨hsettled, ?_⟩⟩
    · rw [ofValue_of_classify hbare, hstanding]
      rfl
    · rw [ofValue_of_classify hsettled, hordered hv]
      rfl

/-- The members of a task among others that by themselves would be taken for an artifact update. -/
def crossed : Members :=
  [("artifact", .null), ("id", .str "t"), ("status", .obj [("state", .str "completed")]), ("taskId", .str "u")]

theorem encodings_agree_crossed :
    "kind" ∉ crossed.map Prod.fst ∧ shape? (.obj crossed) = some .artifact ∧
      readAs .task (.obj crossed) = .ok (.task (.ofState "t" .completed)) ∧
      ofValue (.obj (crossed ++ [("kind", .str "task")])) = .ok (some (.task (.ofState "t" .completed))) ∧
      ofValue (.obj [("task", .obj crossed)]) = .ok (some (.task (.ofState "t" .completed))) ∧
      ofValue (.obj (("kind", .str "message") :: crossed)) = .error (.missing "role") ∧
      ofValue (.obj [("msg", .obj crossed)]) = .error (.missing "role") ∧
      ofValue (StreamResult.task (.ofState "t" .completed)).bare.settled
        = .ok (some (.task (.ofState "t" .completed))) := by
  obtain ⟨hnamed, hbare⟩ := encodings_agree
  have hkind : "kind" ∉ crossed.map Prod.fst := by decide
  have htask : readAs .task (.obj crossed) = .ok (.task (.ofState "t" .completed)) := rfl
  have hmessage : readAs .message (.obj crossed) = .error (.missing "role") := rfl
  have hsettled : (Value.obj crossed).settled = .obj crossed := by decide +kernel
  have hvalue (kind : ResultKind) (v : Value) (h : Names kind crossed v) :
      ofValue v = (readAs kind (.obj crossed)).map some := (hnamed kind crossed v hkind h).1
  refine ⟨hkind, by decide, htask, ?_, ?_, ?_, ?_, ((hbare _ _ _ htask).2.2 hsettled).2⟩
  · exact (hvalue .task _ (.member (List.append_nil crossed))).trans (congrArg (Except.map some) htask)
  · exact (hvalue .task _ (.wrapper (by decide))).trans (congrArg (Except.map some) htask)
  · exact (hvalue .message _ (.member (List.nil_append crossed))).trans (congrArg (Except.map some) hmessage)
  · exact (hvalue .message _ (.wrapper (by decide))).trans (congrArg (Except.map some) hmessage)

end StreamResult

end AgentDelegation

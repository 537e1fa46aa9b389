import AgentDelegation.Proofs.Json.Records
import AgentDelegation.Protocol.Message

/-!
# Parts read back

A part does not keep what it was read from: a known part is written with its kind and without the members
that nothing was made of. The members that are written say the same sort of part all the same, because
those that would be tried before its own are not among them. An unknown part is written as it came.
-/

namespace AgentDelegation

open Json

variable {arrange : Value → Value}

theorem FileContent.restores (harrange : Arrangement arrange) : FileContent.format.Restores arrange := by
  have htext := Format.restores_text harrange
  refine Record.Lawful.restores harrange
    (Record.Lawful.field (.optional harrange htext (by simp)) name
      |>.map mk
      |>.seq (.field (.optional harrange htext (by simp)) mimeType)
      |>.seq (.field (.optional harrange htext (by simp)) bytes)
      |>.seq (.field (.optional harrange htext (by simp)) uri)) (by decide) ?_
  intro name hname mimeType hmimeType bytes hbytes uri huri
  exact ⟨⟨⟨⟨hname, hmimeType⟩, hbytes⟩, huri⟩, rfl⟩

namespace Part

theorem lookup_of_nil {name : String} {members : Members} (h : valuesOf name members = []) :
    lookup name members = .absent := by
  have hnone : (members.filter fun member => member.1 == name) = [] := List.map_eq_nil_iff.mp h
  rw [lookup, hnone]

theorem lookup_eq_sole_iff {name : String} {members : Members} {v : Value} :
    lookup name members = .sole v ↔ valuesOf name members = [v] := by
  rw [lookup, valuesOf]
  generalize members.filter (fun member => member.1 == name) = found
  cases found with
  | nil => simp
  | cons member rest => cases rest <;> simp

/-- The members of a known part. -/
def knownMembers (name : String) (v : Value) (metadata : Option Members) : Members :=
  [("kind", .str name), (name, v)] ++ metadataMembers metadata

/-- Metadata that an arrangement leaves alone. -/
def Arranged (arrange : Value → Value) (metadata : Option Members) : Prop :=
  ∀ members, metadata = some members → arrange (.obj members) = .obj members

theorem metadata?_of_valuesOf {members : Members} {metadata : Option Members}
    (h : valuesOf "metadata" members = valuesOf "metadata" (metadataMembers metadata)) :
    metadata? id members = some metadata := by
  cases metadata with
  | none => rw [metadata?, lookup_of_nil h]
  | some held => rw [metadata?, lookup_eq_sole_iff.mpr h]; rfl

theorem arranged_of_metadata? (harrange : Arrangement arrange) {members : Members} {metadata : Option Members}
    (hmembers : arrange (.obj members) = .obj members) (h : metadata? id members = some metadata) :
    Arranged arrange metadata := by
  rintro held rfl
  rw [metadata?] at h
  split at h <;> simp at h
  rename_i kept hsole
  have hmem := mem_valuesOf_iff.mp (lookup_eq_sole_iff.mp hsole ▸ List.mem_singleton_self _)
  exact h ▸ harrange.member hmembers _ hmem

theorem exists_arranged_knownMembers (harrange : Arrangement arrange) (name : String) (v : Value)
    {metadata : Option Members} (hkind : "kind" ≠ name) (hdata : "metadata" ≠ name)
    (hmetadata : Arranged arrange metadata) :
    ∃ members, arrange (.obj (knownMembers name v metadata)) = .obj members ∧
      valuesOf name members = [arrange v] ∧ metadata? id members = some metadata ∧
      ∀ other, other ≠ "kind" → other ≠ name → other ≠ "metadata" → valuesOf other members = [] := by
  obtain ⟨members, hmembers, hvalues⟩ := harrange.obj (knownMembers name v metadata)
  have hnodup : ((knownMembers name v metadata).map Prod.fst).Nodup := by
    cases metadata <;> simp [knownMembers, metadataMembers, hkind, hdata.symm]
  refine ⟨members, hmembers, ?_, metadata?_of_valuesOf ?_, fun other hkind' hname' hdata' => ?_⟩
  · rw [hvalues hnodup]
    cases metadata <;>
      simp [knownMembers, metadataMembers, valuesOf_cons_of_ne hkind, valuesOf_cons_self, valuesOf_cons_of_ne hdata]
  · rw [hvalues hnodup]
    cases metadata with
    | none => simp [knownMembers, metadataMembers, valuesOf_cons_of_ne, hdata.symm]
    | some held =>
        simp [knownMembers, metadataMembers, valuesOf_cons_of_ne, valuesOf_cons_self, hdata.symm,
          hmetadata held rfl]
  · rw [hvalues hnodup]
    cases metadata <;>
      simp [knownMembers, metadataMembers, valuesOf_cons_of_ne hkind'.symm, valuesOf_cons_of_ne hname'.symm,
        valuesOf_cons_of_ne hdata'.symm]

/-! ### What a part is read from -/

theorem readValue_obj (members : Members) : format.readValue (.obj members) = .ok (ofMembers id members) := rfl

/-- What members say of a known part, the sorts of parts tried in turn. -/
def known? (members : Members) (metadata : Option Members) : Option Part :=
  asText? members metadata <|> asFile? members metadata <|> asData? id members metadata

theorem ofMembers_id (members : Members) :
    ofMembers id members = ((metadata? id members).bind (known? members)).getD (.other members) := rfl

theorem ofMembers_of_known {members : Members} {metadata : Option Members} {part : Part}
    (hmetadata : metadata? id members = some metadata) (hpart : known? members metadata = some part) :
    ofMembers id members = part := by
  rw [ofMembers_id, hmetadata, Option.bind_some, hpart, Option.getD_some]

theorem ofMembers_known_or_other (members : Members) :
    ofMembers id members = .other members ∨
      ∃ metadata, metadata? id members = some metadata ∧
        known? members metadata = some (ofMembers id members) := by
  rw [ofMembers_id]
  cases hmetadata : metadata? id members with
  | none => exact .inl rfl
  | some metadata =>
      rw [Option.bind_some]
      cases hpart : known? members metadata with
      | none => exact .inl rfl
      | some part => exact .inr ⟨metadata, rfl, hpart⟩

/-! ### Known parts -/

theorem asText?_eq_some_iff {members : Members} {metadata : Option Members} {part : Part} :
    asText? members metadata = some part ↔ ∃ s, valuesOf "text" members = [.str s] ∧ part = .text s metadata := by
  simp only [← lookup_eq_sole_iff, asText?]
  split
  · rename_i s hsole
    simp [hsole, eq_comm]
  · rename_i hnone
    constructor
    · nofun
    · rintro ⟨s, hsole, -⟩
      exact (hnone s hsole).elim

theorem asFile?_eq_some_iff {members : Members} {metadata : Option Members} {part : Part} :
    asFile? members metadata = some part
      ↔ ∃ v content, valuesOf "file" members = [v] ∧ FileContent.format.readValue v = .ok content ∧
          part = .file content metadata := by
  simp only [← lookup_eq_sole_iff, asFile?]
  split
  · rename_i v hsole
    cases hread : FileContent.format.readValue v <;>
      simp [hsole, Format.readValue?, hread, Except.toOption, eq_comm]
  · rename_i hnone
    constructor
    · nofun
    · rintro ⟨v, _, hsole, -⟩
      exact (hnone v hsole).elim

theorem asData?_eq_some_iff {members : Members} {metadata : Option Members} {part : Part} :
    asData? id members metadata = some part ↔ ∃ v, valuesOf "data" members = [v] ∧ part = .data v metadata := by
  simp only [← lookup_eq_sole_iff, asData?]
  split
  · rename_i v hsole
    simp [hsole, eq_comm]
  · rename_i hnone
    constructor
    · nofun
    · rintro ⟨v, hsole, -⟩
      exact (hnone v hsole).elim

theorem asText?_eq_none {members : Members} {metadata : Option Members} (h : valuesOf "text" members = []) :
    asText? members metadata = none := by
  rw [asText?, lookup_of_nil h]

theorem asFile?_eq_none {members : Members} {metadata : Option Members} (h : valuesOf "file" members = []) :
    asFile? members metadata = none := by
  rw [asFile?, lookup_of_nil h]

theorem known?_eq_some_iff {members : Members} {metadata : Option Members} {part : Part} :
    known? members metadata = some part
      ↔ asText? members metadata = some part ∨
        (asText? members metadata = none ∧ asFile? members metadata = some part) ∨
        (asText? members metadata = none ∧ asFile? members metadata = none ∧
          asData? id members metadata = some part) := by
  rw [known?]
  cases asText? members metadata <;> cases asFile? members metadata <;> simp

/-! ### What is written -/

section written

variable (harrange : Arrangement arrange)
include harrange

/-- A known part reads back if the members that are written of it say that part. -/
theorem rereads_of_known {name : String} {v : Value} {metadata : Option Members} {part : Part}
    (hkind : "kind" ≠ name) (hdata : "metadata" ≠ name) (hmetadata : Arranged arrange metadata)
    (hwrite : write part = .obj (knownMembers name v metadata))
    (hknown : ∀ members, valuesOf name members = [arrange v] →
      (∀ other, other ≠ "kind" → other ≠ name → other ≠ "metadata" → valuesOf other members = []) →
      known? members metadata = some part) :
    format.Rereads arrange part := by
  obtain ⟨members, hmembers, hsole, hkept, hnone⟩ :=
    exists_arranged_knownMembers harrange name v hkind hdata hmetadata
  change format.readValue (arrange (write part)) = _
  rw [hwrite, hmembers, readValue_obj, ofMembers_of_known hkept (hknown members hsole hnone)]

theorem rereads_text {s : String} {metadata : Option Members} (hmetadata : Arranged arrange metadata) :
    format.Rereads arrange (.text s metadata) := by
  refine rereads_of_known harrange (by decide) (by decide) hmetadata rfl fun members hsole _ => ?_
  rw [harrange.str] at hsole
  exact known?_eq_some_iff.mpr (.inl (asText?_eq_some_iff.mpr ⟨s, hsole, rfl⟩))

theorem rereads_file {content : FileContent} {metadata : Option Members}
    (hcontent : FileContent.format.Rereads arrange content) (hmetadata : Arranged arrange metadata) :
    format.Rereads arrange (.file content metadata) := by
  refine rereads_of_known harrange (by decide) (by decide) hmetadata rfl fun members hsole hnone => ?_
  have htext : asText? members metadata = none :=
    asText?_eq_none (hnone "text" (by decide) (by decide) (by decide))
  exact known?_eq_some_iff.mpr (.inr (.inl ⟨htext, asFile?_eq_some_iff.mpr ⟨_, content, hsole, hcontent, rfl⟩⟩))

theorem rereads_data {v : Value} {metadata : Option Members} (harranged : arrange v = v)
    (hmetadata : Arranged arrange metadata) : format.Rereads arrange (.data v metadata) := by
  refine rereads_of_known harrange (by decide) (by decide) hmetadata rfl fun members hsole hnone => ?_
  rw [harranged] at hsole
  have htext : asText? members metadata = none :=
    asText?_eq_none (hnone "text" (by decide) (by decide) (by decide))
  have hfile : asFile? members metadata = none :=
    asFile?_eq_none (hnone "file" (by decide) (by decide) (by decide))
  exact known?_eq_some_iff.mpr (.inr (.inr ⟨htext, hfile, asData?_eq_some_iff.mpr ⟨v, hsole, rfl⟩⟩))

theorem rereads_ofMembers {members : Members} (harranged : arrange (.obj members) = .obj members) :
    format.Rereads arrange (ofMembers id members) := by
  have hmember {name : String} {v : Value} (hsole : valuesOf name members = [v]) : arrange v = v :=
    harrange.member harranged _ (mem_valuesOf_iff.mp (hsole ▸ List.mem_singleton_self _))
  rcases ofMembers_known_or_other members with hother | ⟨metadata, hmetadata, hknown⟩
  · rw [hother, Format.Rereads]
    change format.readValue (arrange (.obj members)) = _
    rw [harranged, readValue_obj, hother]
  · have hkept := arranged_of_metadata? harrange harranged hmetadata
    rcases known?_eq_some_iff.mp hknown with htext | ⟨-, hfile⟩ | ⟨-, -, hdata⟩
    · obtain ⟨s, -, hpart⟩ := asText?_eq_some_iff.mp htext
      rw [hpart]
      exact rereads_text harrange hkept
    · obtain ⟨v, content, hsole, hread, hpart⟩ := asFile?_eq_some_iff.mp hfile
      rw [hpart]
      exact rereads_file harrange ((FileContent.restores harrange).rereads (hmember hsole) hread) hkept
    · obtain ⟨v, hsole, hpart⟩ := asData?_eq_some_iff.mp hdata
      rw [hpart]
      exact rereads_data harrange (hmember hsole) hkept

theorem restores : format.Restores arrange where
  rereads {v part} harranged hread := by
    cases v with
    | obj members =>
        obtain rfl : ofMembers id members = part := Except.ok.inj hread
        exact rereads_ofMembers harrange harranged
    | _ => cases hread
  ne_null {_ part} _ _ := by cases part <;> simp [format, write]

end written

end Part

end AgentDelegation

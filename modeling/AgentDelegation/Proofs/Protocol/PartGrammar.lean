import AgentDelegation.Proofs.NameMap
import AgentDelegation.Proofs.Protocol.Parts

/-!
# What an object is as a part

Every object is a part, and nothing else is one. The sorts of parts overlap: an object may have a text, a file
and a piece of data at once, or a member of the right name with a wrong value. `Grammar` says which part it
is then, without trying one sort after another: the first sort that its members bear out, provided that its
metadata can be taken for metadata, and else all of its members as they came. Four names decide; what an
object says of its own kind is not among them.
-/

namespace AgentDelegation.Part

open Json

variable {members others : Members}

/-! ### What members bear out -/

/-- The metadata that members give a part: none if it is missing or null, or an object. Anything else is not
metadata. -/
inductive GivesMetadata (members : Members) : Option Members → Prop where
  | missing (h : members.lookup "metadata" = none) : GivesMetadata members none
  | null (h : members.lookup "metadata" = some .null) : GivesMetadata members none
  | object {metadata : Members} (h : members.lookup "metadata" = some (.obj metadata)) :
      GivesMetadata members (some metadata)

def GivesText (members : Members) (s : String) : Prop := members.lookup "text" = some (.str s)

def GivesFile (members : Members) (content : FileContent) : Prop :=
  ∃ v, members.lookup "file" = some v ∧ FileContent.format.readValue v = .ok content

def GivesData (members : Members) (v : Value) : Prop := members.lookup "data" = some v

/-- The part that members make. -/
inductive Grammar (members : Members) : Part → Prop where
  | text {s : String} {metadata : Option Members} (hmetadata : GivesMetadata members metadata)
      (htext : GivesText members s) : Grammar members (.text s metadata)
  | file {content : FileContent} {metadata : Option Members} (hmetadata : GivesMetadata members metadata)
      (htext : ∀ s, ¬ GivesText members s) (hfile : GivesFile members content) :
      Grammar members (.file content metadata)
  | data {v : Value} {metadata : Option Members} (hmetadata : GivesMetadata members metadata)
      (htext : ∀ s, ¬ GivesText members s) (hfile : ∀ content, ¬ GivesFile members content)
      (hdata : GivesData members v) : Grammar members (.data v metadata)
  | strange (hmetadata : ∀ metadata, ¬ GivesMetadata members metadata) : Grammar members (.other members)
  | unknown (htext : ∀ s, ¬ GivesText members s) (hfile : ∀ content, ¬ GivesFile members content)
      (hdata : ∀ v, ¬ GivesData members v) : Grammar members (.other members)

/-! ### What is tried -/

theorem known?_eq_none_iff {metadata : Option Members} :
    known? members metadata = none
      ↔ asText? members metadata = none ∧ asFile? members metadata = none ∧ asData? id members metadata = none := by
  rw [known?]
  cases asText? members metadata <;> cases asFile? members metadata <;> simp

section sole

variable (h : (members.map Prod.fst).Nodup)
include h

theorem valuesOf_eq_singleton_iff {name : String} {v : Value} :
    valuesOf name members = [v] ↔ members.lookup name = some v := by
  rw [lookup_eq_head?_valuesOf]
  rcases valuesOf_eq_nil_or_singleton h name with hnone | ⟨w, hsole⟩
  · simp [hnone]
  · simp [hsole]

theorem lookup_eq_absent_iff {name : String} :
    lookup name members = .absent ↔ members.lookup name = none := by
  constructor
  · intro habsent
    rcases valuesOf_eq_nil_or_singleton h name with hnone | ⟨v, hsole⟩
    · rw [lookup_eq_head?_valuesOf, hnone]
      rfl
    · rw [lookup_eq_sole_iff.mpr hsole] at habsent
      cases habsent
  · intro hget
    apply lookup_of_nil
    rcases valuesOf_eq_nil_or_singleton h name with hnone | ⟨v, hsole⟩
    · exact hnone
    · rw [(valuesOf_eq_singleton_iff h).mp hsole] at hget
      cases hget

theorem metadata?_eq_some_iff {metadata : Option Members} :
    metadata? id members = some metadata ↔ GivesMetadata members metadata := by
  have hsole {v : Value} : lookup "metadata" members = .sole v ↔ members.lookup "metadata" = some v :=
    lookup_eq_sole_iff.trans (valuesOf_eq_singleton_iff h)
  constructor
  · intro hmetadata
    rw [metadata?] at hmetadata
    split at hmetadata <;> cases hmetadata
    · rename_i habsent
      exact .missing ((lookup_eq_absent_iff h).mp habsent)
    · rename_i hnull
      exact .null (hsole.mp hnull)
    · rename_i hobject
      exact .object (hsole.mp hobject)
  · intro hmetadata
    rw [metadata?]
    cases hmetadata with
    | missing hnone => rw [(lookup_eq_absent_iff h).mpr hnone]
    | null hnull => rw [hsole.mpr hnull]
    | object hobject => rw [hsole.mpr hobject]; rfl

theorem metadata?_eq_none_iff : metadata? id members = none ↔ ∀ metadata, ¬ GivesMetadata members metadata := by
  rw [Option.eq_none_iff_forall_ne_some]
  simp only [ne_eq, metadata?_eq_some_iff h]

variable {metadata : Option Members} {part : Part}

theorem asText?_eq_some_iff_gives :
    asText? members metadata = some part ↔ ∃ s, GivesText members s ∧ part = .text s metadata := by
  rw [asText?_eq_some_iff]
  simp only [valuesOf_eq_singleton_iff h, GivesText]

theorem asFile?_eq_some_iff_gives :
    asFile? members metadata = some part ↔ ∃ content, GivesFile members content ∧ part = .file content metadata := by
  rw [asFile?_eq_some_iff]
  simp only [valuesOf_eq_singleton_iff h, GivesFile]
  constructor
  · rintro ⟨v, content, hfile, hread, rfl⟩
    exact ⟨content, ⟨v, hfile, hread⟩, rfl⟩
  · rintro ⟨content, ⟨v, hfile, hread⟩, rfl⟩
    exact ⟨v, content, hfile, hread, rfl⟩

theorem asData?_eq_some_iff_gives :
    asData? id members metadata = some part ↔ ∃ v, GivesData members v ∧ part = .data v metadata := by
  rw [asData?_eq_some_iff]
  simp only [valuesOf_eq_singleton_iff h, GivesData]

end sole

/-- A sort of part that is tried fails if the members give nothing to make it of. -/
theorem eq_none_iff_of_eq_some_iff {α : Type} {tried : Option Part} {Gives : α → Prop} {make : α → Part}
    (h : ∀ {part}, tried = some part ↔ ∃ x, Gives x ∧ part = make x) : tried = none ↔ ∀ x, ¬ Gives x := by
  rw [Option.eq_none_iff_forall_ne_some]
  constructor
  · intro hnone x hgives
    exact hnone (make x) (h.mpr ⟨x, hgives, rfl⟩)
  · intro hnone part hpart
    obtain ⟨x, hgives, -⟩ := h.mp hpart
    exact hnone x hgives

/-! ### The part that is read -/

theorem readValue_eq_ok_iff_grammar (h : (members.map Prod.fst).Nodup) {part : Part} :
    format.readValue (.obj members) = .ok part ↔ Grammar members part := by
  have hmetadata (metadata : Option Members) :
      metadata? id members = some metadata ↔ GivesMetadata members metadata := metadata?_eq_some_iff h
  have hnone (metadata : Option Members) :
      (asText? members metadata = none ↔ ∀ s, ¬ GivesText members s) ∧
      (asFile? members metadata = none ↔ ∀ content, ¬ GivesFile members content) ∧
      (asData? id members metadata = none ↔ ∀ v, ¬ GivesData members v) :=
    ⟨eq_none_iff_of_eq_some_iff (asText?_eq_some_iff_gives h),
      eq_none_iff_of_eq_some_iff (asFile?_eq_some_iff_gives h),
      eq_none_iff_of_eq_some_iff (asData?_eq_some_iff_gives h)⟩
  rw [readValue_obj, Except.ok.injEq]
  constructor
  · rintro rfl
    cases hfound : metadata? id members with
    | none =>
        rw [ofMembers_id, hfound]
        exact .strange ((metadata?_eq_none_iff h).mp hfound)
    | some metadata =>
        obtain ⟨htext, hfile, hdata⟩ := hnone metadata
        have hgives := (hmetadata metadata).mp hfound
        cases hknown : known? members metadata with
        | none =>
            obtain ⟨hnotext, hnofile, hnodata⟩ := known?_eq_none_iff.mp hknown
            rw [ofMembers_id, hfound, Option.bind_some, hknown]
            exact .unknown (htext.mp hnotext) (hfile.mp hnofile) (hdata.mp hnodata)
        | some part =>
            rw [ofMembers_of_known hfound hknown]
            rcases known?_eq_some_iff.mp hknown with hpart | ⟨hnotext, hpart⟩ | ⟨hnotext, hnofile, hpart⟩
            · obtain ⟨s, hs, rfl⟩ := (asText?_eq_some_iff_gives h).mp hpart
              exact .text hgives hs
            · obtain ⟨content, hcontent, rfl⟩ := (asFile?_eq_some_iff_gives h).mp hpart
              exact .file hgives (htext.mp hnotext) hcontent
            · obtain ⟨v, hv, rfl⟩ := (asData?_eq_some_iff_gives h).mp hpart
              exact .data hgives (htext.mp hnotext) (hfile.mp hnofile) hv
  · intro hgrammar
    cases hgrammar with
    | @text s metadata hgives htext =>
        refine ofMembers_of_known ((hmetadata metadata).mpr hgives) (known?_eq_some_iff.mpr (.inl ?_))
        exact (asText?_eq_some_iff_gives h).mpr ⟨s, htext, rfl⟩
    | @file content metadata hgives htext hfile =>
        obtain ⟨hnotext, -, -⟩ := hnone metadata
        refine ofMembers_of_known ((hmetadata metadata).mpr hgives) (known?_eq_some_iff.mpr (.inr (.inl ?_)))
        exact ⟨hnotext.mpr htext, (asFile?_eq_some_iff_gives h).mpr ⟨content, hfile, rfl⟩⟩
    | @data v metadata hgives htext hfile hdata =>
        obtain ⟨hnotext, hnofile, -⟩ := hnone metadata
        refine ofMembers_of_known ((hmetadata metadata).mpr hgives) (known?_eq_some_iff.mpr (.inr (.inr ?_)))
        exact ⟨hnotext.mpr htext, hnofile.mpr hfile, (asData?_eq_some_iff_gives h).mpr ⟨v, hdata, rfl⟩⟩
    | strange hgives => rw [ofMembers_id, (metadata?_eq_none_iff h).mpr hgives]; rfl
    | unknown htext hfile hdata =>
        rw [ofMembers_id]
        cases metadata? id members with
        | none => rfl
        | some metadata =>
            obtain ⟨hnotext, hnofile, hnodata⟩ := hnone metadata
            have hknown : known? members metadata = none :=
              known?_eq_none_iff.mpr ⟨hnotext.mpr htext, hnofile.mpr hfile, hnodata.mpr hdata⟩
            rw [Option.bind_some, hknown]
            rfl

/-! ### What does not matter -/

/-- The same part made of other members; only an unknown part holds all of them. -/
def amid (others : Members) : Part → Part
  | .other _ => .other others
  | part => part

/-- The names that decide what part an object is. -/
def deciding : List String := ["text", "file", "data", "metadata"]

theorem GivesMetadata.congr (h : others.lookup "metadata" = members.lookup "metadata")
    {metadata : Option Members} (hgives : GivesMetadata members metadata) : GivesMetadata others metadata := by
  cases hgives with
  | missing hnone => exact .missing (h.trans hnone)
  | null hnull => exact .null (h.trans hnull)
  | object hobject => exact .object (h.trans hobject)

theorem grammar_amid (hsame : ∀ name ∈ deciding, others.lookup name = members.lookup name) {part : Part}
    (h : Grammar members part) : Grammar others (part.amid others) := by
  obtain ⟨htext, hfile, hdata, hmetadata⟩ : others.lookup "text" = members.lookup "text" ∧
      others.lookup "file" = members.lookup "file" ∧
      others.lookup "data" = members.lookup "data" ∧
      others.lookup "metadata" = members.lookup "metadata" := by
    simpa [deciding] using hsame
  have htexts (s : String) : GivesText others s ↔ GivesText members s := by rw [GivesText, GivesText, htext]
  have hfiles (content : FileContent) : GivesFile others content ↔ GivesFile members content := by
    rw [GivesFile, GivesFile, hfile]
  have hdatas (v : Value) : GivesData others v ↔ GivesData members v := by rw [GivesData, GivesData, hdata]
  cases h with
  | text hgives hs => exact .text (hgives.congr hmetadata) ((htexts _).mpr hs)
  | file hgives hs hcontent =>
      exact .file (hgives.congr hmetadata) (fun s => mt (htexts s).mp (hs s)) ((hfiles _).mpr hcontent)
  | data hgives hs hcontent hv =>
      exact .data (hgives.congr hmetadata) (fun s => mt (htexts s).mp (hs s))
        (fun content => mt (hfiles content).mp (hcontent content)) ((hdatas _).mpr hv)
  | strange hgives =>
      exact .strange fun metadata hother => hgives metadata (hother.congr hmetadata.symm)
  | unknown hs hcontent hv =>
      exact .unknown (fun s => mt (htexts s).mp (hs s)) (fun content => mt (hfiles content).mp (hcontent content))
        fun v => mt (hdatas v).mp (hv v)

theorem text?_eq_some_iff_of_grammar {part : Part} (h : Grammar members part) {s : String} :
    part.text? = some s ↔ GivesText members s ∧ ∃ metadata, GivesMetadata members metadata := by
  cases h with
  | @text other metadata hgives htext =>
      have hsame : GivesText members s ↔ other = s := by simp [GivesText, show List.lookup _ _ = _ from htext]
      rw [hsame, and_iff_left ⟨metadata, hgives⟩]
      exact Option.some_inj
  | file _ htext | data _ htext | unknown htext => simp [text?, htext s]
  | strange hgives => simp [text?, hgives]

/-- Exactly the objects are parts. Where no name is repeated, an object is the part that the grammar gives it: a
text, a file or a piece of data, in this order, if its member of that name can be taken for one and its
metadata is missing, null or an object, and else unknown, with all its members; the values of the members are
kept. It has a text exactly in the first case. Objects that agree on the four names that decide are the same
part, whatever else they hold and whatever they say of their kind, but that an unknown part is made of all
its members. -/
theorem part_of_every_object :
    (∀ v, (∃ part, format.readValue v = .ok part) ↔ ∃ members, v = .obj members) ∧
    ∀ members : Members, (members.map Prod.fst).Nodup →
      (∀ part, format.readValue (.obj members) = .ok part ↔ Grammar members part) ∧
      (∀ s, (∃ part, format.readValue (.obj members) = .ok part ∧ part.text? = some s)
        ↔ GivesText members s ∧ ∃ metadata, GivesMetadata members metadata) ∧
      ∀ others : Members, (others.map Prod.fst).Nodup →
        (∀ name ∈ deciding, others.lookup name = members.lookup name) →
        ∀ part, format.readValue (.obj members) = .ok part →
          format.readValue (.obj others) = .ok (part.amid others) := by
  constructor
  · intro v
    constructor
    · rintro ⟨part, hread⟩
      cases v with
      | obj members => exact ⟨members, rfl⟩
      | _ => cases hread
    · rintro ⟨members, rfl⟩
      exact ⟨_, readValue_obj members⟩
  · intro members h
    refine ⟨fun part => readValue_eq_ok_iff_grammar h, fun s => ?_, fun others hothers hsame part hread => ?_⟩
    · have hgrammar := (readValue_eq_ok_iff_grammar h).mp (readValue_obj members)
      rw [← text?_eq_some_iff_of_grammar hgrammar, readValue_obj]
      simp
    · have hgrammar := grammar_amid hsame ((readValue_eq_ok_iff_grammar h).mp hread)
      exact (readValue_eq_ok_iff_grammar hothers).mpr hgrammar

/-- An object that could be a file or a piece of data, calls itself a text, and has a number for one. -/
def crowded : Members :=
  [("data", .null), ("file", .arr [.str "a.txt", .null, .null, .str "u"]), ("kind", .str "text"),
    ("metadata", .null), ("text", .ofInt 5)]

/-- The same without its kind and with something that no part knows. -/
def recrowded : Members :=
  [("data", .null), ("file", .arr [.str "a.txt", .null, .null, .str "u"]), ("metadata", .null),
    ("shape", .obj []), ("text", .ofInt 5)]

theorem part_of_crowded :
    (crowded.map Prod.fst).Nodup ∧ (recrowded.map Prod.fst).Nodup ∧
    (∀ name ∈ deciding, recrowded.lookup name = crowded.lookup name) ∧
    Grammar crowded (.file ⟨some "a.txt", none, none, some "u"⟩ none) ∧
    format.readValue (.obj recrowded) = .ok (.file ⟨some "a.txt", none, none, some "u"⟩ none) ∧
    ¬ ∃ s part, format.readValue (.obj crowded) = .ok part ∧ part.text? = some s := by
  have hcrowded : (crowded.map Prod.fst).Nodup := by decide
  have hrecrowded : (recrowded.map Prod.fst).Nodup := by decide
  have hsame : ∀ name ∈ deciding, recrowded.lookup name = crowded.lookup name := by decide
  have hread : format.readValue (.obj crowded) = .ok (.file ⟨some "a.txt", none, none, some "u"⟩ none) := rfl
  obtain ⟨hgrammar, htext, hover⟩ := part_of_every_object.2 crowded hcrowded
  refine ⟨hcrowded, hrecrowded, hsame, (hgrammar _).mp hread, hover recrowded hrecrowded hsame _ hread, ?_⟩
  rintro ⟨s, hpart⟩
  obtain ⟨hgives, -⟩ := (htext s).mp hpart
  cases hgives

end AgentDelegation.Part

import AgentDelegation.Proofs.Text.Split
import AgentDelegation.Proofs.Url.Percent
import AgentDelegation.Url.Parse
import Mathlib.Data.List.DropRight

/-!
# Paths read again

Once a path is read, its segments are encoded, hold no slash of either kind, and none is a dot segment. So the
text of the path is cut into the same segments, and nothing in them is resolved or encoded again. Slashes at
the end of the text are the empty segments at the end of the path.
-/

namespace AgentDelegation.Url

open Text

/-- A segment as it stands in a path that was read. -/
structure IsSegment (segment : String) : Prop where
  encoded : ∀ c ∈ segment.toList, inPath c = false
  slashless : ∀ c ∈ segment.toList, isSlash .network c = false
  dotless : dots? segment.toList = none

theorem isSegment_empty : IsSegment "" := ⟨by simp, by simp, by decide⟩

/-! ### Reading -/

theorem slashless_of_mem_splitPath {cs piece : List Char} (h : piece ∈ splitPath .network cs) :
    ∀ c ∈ piece, isSlash .network c = false := by
  intro c hc
  have hne : c ≠ '/' := by
    rintro rfl
    exact not_mem_of_mem_splitOn h hc
  obtain ⟨d, -, rfl⟩ := List.mem_map.mp (mem_of_mem_splitOn h hc)
  split
  · rename_i hslash
    simp [hslash] at hne
  · rename_i hslash
    simpa using hslash

theorem slashless_percentEncode {piece : List Char} (h : ∀ c ∈ piece, isSlash .network c = false) :
    ∀ c ∈ percentEncode inPath piece, isSlash .network c = false := by
  have hall : ∀ n < 16, isSlash .network (upperHexDigit n) = false := by decide
  intro c hc
  rcases mem_percentEncode hc with ⟨hc, -⟩ | rfl | ⟨n, hn, rfl⟩
  · exact h c hc
  · decide
  · exact hall n hn

theorem mem_leave {read : List String} {s : String} (h : s ∈ leave read) : s ∈ read := by
  cases read with
  | nil => exact h
  | cons last rest =>
      rw [leave] at h
      split at h
      · exact h
      · exact List.mem_cons_of_mem last h

theorem isSegment_of_mem_resolve {read : List String} {pieces : List (List Char)}
    (hread : ∀ s ∈ read, IsSegment s) (hpieces : ∀ piece ∈ pieces, ∀ c ∈ piece, isSlash .network c = false) :
    ∀ s ∈ resolve read pieces, IsSegment s := by
  induction pieces generalizing read with
  | nil => simpa [resolve] using hread
  | cons piece rest ih =>
      obtain ⟨hpiece, hrest⟩ := List.forall_mem_cons.mp hpieces
      have hempty : ∀ s ∈ "" :: read, IsSegment s := List.forall_mem_cons.mpr ⟨isSegment_empty, hread⟩
      have hleave : ∀ s ∈ leave read, IsSegment s := fun s hs => hread s (mem_leave hs)
      have hboth : ∀ s ∈ "" :: leave read, IsSegment s := List.forall_mem_cons.mpr ⟨isSegment_empty, hleave⟩
      simp only [resolve]
      split
      · exact ih (by split <;> assumption) hrest
      · exact ih (by split <;> assumption) hrest
      · rename_i hdots
        refine ih (List.forall_mem_cons.mpr ⟨⟨?_, ?_, ?_⟩, hread⟩) hrest
        · simpa using sparesBytes_inPath.percentEncode
        · simpa using slashless_percentEncode hpiece
        · simpa using hdots

theorem resolve_ne_nil {read : List String} {pieces : List (List Char)} (h : pieces ≠ [] ∨ read ≠ []) :
    resolve read pieces ≠ [] := by
  induction pieces generalizing read with
  | nil => simpa [resolve] using h
  | cons piece rest ih =>
      have hlast (other more : List String) : rest ≠ [] ∨ (if rest.isEmpty then "" :: more else other) ≠ [] := by
        cases rest <;> simp
      simp only [resolve]
      split
      · exact ih (hlast read read)
      · exact ih (hlast (leave read) (leave read))
      · exact ih (.inr (List.cons_ne_nil _ _))

theorem rootedSegments_ne_nil (cs : List Char) : rootedSegments .network cs ≠ [] := by
  rw [rootedSegments.eq_def]
  split
  · simp [SchemeKind.isKnown]
  · exact resolve_ne_nil (.inl (List.splitOn_ne_nil _ _))

theorem isSegment_of_mem_rootedSegments (cs : List Char) : ∀ s ∈ rootedSegments .network cs, IsSegment s := by
  rw [rootedSegments.eq_def]
  split
  · simpa [SchemeKind.isKnown] using isSegment_empty
  · exact isSegment_of_mem_resolve (by simp) fun piece hpiece => slashless_of_mem_splitPath hpiece

/-! ### The text of a path -/

theorem toList_text_segments (segments : List String) :
    (Path.segments segments).text.toList = segments.flatMap fun s => '/' :: s.toList := by
  have hslash : "/".toList = ['/'] := rfl
  rw [Path.text, String.toList_join, List.flatMap_map]
  simp only [String.toList_append, hslash, List.singleton_append]

theorem flatMap_slash {segments : List String} (h : segments ≠ []) :
    (segments.flatMap fun s => '/' :: s.toList) = '/' :: ['/'].intercalate (segments.map String.toList) := by
  induction segments with
  | nil => exact absurd rfl h
  | cons s rest ih =>
      cases rest with
      | nil => simp
      | cons next more =>
          have hstep : ['/'].intercalate ((s :: next :: more).map String.toList)
              = s.toList ++ ['/'] ++ ['/'].intercalate ((next :: more).map String.toList) :=
            List.intercalate_cons_cons
          rw [List.flatMap_cons, ih (List.cons_ne_nil _ _), hstep, List.append_assoc]
          rfl

theorem splitPath_of_slashless {segments : List String} (hne : segments ≠ []) (h : ∀ s ∈ segments, IsSegment s) :
    splitPath .network (['/'].intercalate (segments.map String.toList)) = segments.map String.toList := by
  have hkeep : (['/'].intercalate (segments.map String.toList)).map (fun c => if isSlash .network c then '/' else c)
      = ['/'].intercalate (segments.map String.toList) := by
    refine (List.map_congr_left fun c hc => ?_).trans (List.map_id _)
    rcases mem_intercalate hc with rfl | ⟨piece, hpiece, hmem⟩
    · rfl
    · obtain ⟨s, hs, rfl⟩ := List.mem_map.mp hpiece
      rw [(h s hs).slashless c hmem, if_neg Bool.false_ne_true]
      rfl
  rw [splitPath, hkeep]
  refine List.splitOn_intercalate _ (fun piece hpiece hslash => ?_) (by simpa using hne)
  obtain ⟨s, hs, rfl⟩ := List.mem_map.mp hpiece
  exact absurd ((h s hs).slashless _ hslash) (by decide)

theorem resolve_of_segments {read segments : List String} (h : ∀ s ∈ segments, IsSegment s) :
    resolve read (segments.map String.toList) = read.reverse ++ segments := by
  induction segments generalizing read with
  | nil => simp [resolve]
  | cons s rest ih =>
      obtain ⟨hs, hrest⟩ := List.forall_mem_cons.mp h
      simp only [List.map_cons, resolve, percentEncode_of_forall hs.encoded, hs.dotless, String.ofList_toList, ih hrest]
      simp

/-- The path that was read is the path of its text. -/
theorem rootedSegments_text {segments : List String} (hne : segments ≠ []) (h : ∀ s ∈ segments, IsSegment s) :
    rootedSegments .network (Path.segments segments).text.toList = segments := by
  have hslash : isSlash .network '/' = true := rfl
  rw [toList_text_segments, flatMap_slash hne, rootedSegments, if_pos hslash, splitPath_of_slashless hne h,
    resolve_of_segments h]
  rfl

/-! ### Slashes at the end -/

theorem rdropWhile_append_cons {p : Char → Bool} {c : Char} (hc : p c = false) (before after : List Char) :
    (before ++ c :: after).rdropWhile p = before ++ c :: after.rdropWhile p := by
  induction after using List.reverseRecOn with
  | nil => exact List.rdropWhile_concat_neg _ _ _ (by simpa using hc)
  | append_singleton after d ih =>
      rw [← List.cons_append, ← List.append_assoc]
      by_cases hd : p d = true
      · rw [List.rdropWhile_concat_pos _ _ _ hd, List.rdropWhile_concat_pos _ _ _ hd, ih]
      · rw [List.rdropWhile_concat_neg _ _ _ hd, List.rdropWhile_concat_neg _ _ _ hd, List.append_assoc,
          List.cons_append]

/-- Without the empty segments at the end. -/
def Path.trimEmpty (segments : List String) : List String := segments.rdropWhile String.isEmpty

theorem toList_trimSlashes (text : String) : (trimSlashes text).toList = text.toList.rdropWhile (· == '/') := by
  rw [trimSlashes, String.toList_ofList]
  rfl

theorem rdropWhile_text {segments : List String} (h : ∀ s ∈ segments, IsSegment s) :
    (Path.segments segments).text.toList.rdropWhile (· == '/')
      = (Path.segments (Path.trimEmpty segments)).text.toList := by
  rw [toList_text_segments, toList_text_segments, Path.trimEmpty]
  induction segments using List.reverseRecOn with
  | nil => rfl
  | append_singleton segments s ih =>
      rw [List.forall_mem_append, List.forall_mem_singleton] at h
      obtain ⟨hsegments, hs⟩ := h
      rw [List.flatMap_append, List.flatMap_singleton]
      by_cases hempty : s.isEmpty = true
      · have hnil : s.toList = [] := by simpa using hempty
        rw [hnil, List.rdropWhile_concat_pos _ _ _ hempty, List.rdropWhile_concat_pos _ _ _ rfl, ih hsegments]
      · have hne : s.toList ≠ [] := by simpa using hempty
        obtain ⟨front, c, hsplit⟩ := (List.eq_nil_or_concat' s.toList).resolve_left hne
        have hc : ¬ (c == '/') = true := fun hslash => by
          have hless := hs.slashless c (by rw [hsplit]; simp)
          rw [beq_iff_eq.mp hslash] at hless
          cases hless
        rw [List.rdropWhile_concat_neg _ _ _ hempty, hsplit, ← List.cons_append, ← List.append_assoc,
          List.rdropWhile_concat_neg (· == '/') _ _ hc, List.flatMap_append, List.flatMap_singleton, hsplit,
          List.append_assoc, List.cons_append]

/-- The text of a path without the slashes at its end. -/
def Path.trimmed (path : Path) : String := trimSlashes path.text

theorem Path.trimmed_segments {segments : List String} (h : ∀ s ∈ segments, IsSegment s) :
    (Path.segments segments).trimmed = (Path.segments (Path.trimEmpty segments)).text := by
  rw [Path.trimmed, ← String.toList_inj, toList_trimSlashes, rdropWhile_text h]

theorem isSegment_of_mem_trimEmpty {segments : List String} (h : ∀ s ∈ segments, IsSegment s) :
    ∀ s ∈ Path.trimEmpty segments, IsSegment s := by
  intro s hs
  exact h s ((List.rdropWhile_prefix String.isEmpty segments).subset hs)

/-- The text of a path says its segments. -/
theorem segments_eq_of_text {first second : List String} (hfirst : ∀ s ∈ first, IsSegment s)
    (hsecond : ∀ s ∈ second, IsSegment s) (h : (Path.segments first).text = (Path.segments second).text) :
    first = second := by
  have hnil {segments : List String} (h : (Path.segments []).text = (Path.segments segments).text) : [] = segments := by
    have hlist := congrArg String.toList h
    rw [toList_text_segments, toList_text_segments, List.flatMap_nil] at hlist
    cases segments with
    | nil => rfl
    | cons s rest => cases hlist
  by_cases hne : first = []
  · subst hne
    exact hnil h
  · by_cases hne' : second = []
    · subst hne'
      exact (hnil h.symm).symm
    · rw [← rootedSegments_text hne hfirst, h, rootedSegments_text hne' hsecond]

/-- Segments put in the place of the slashes at the end. -/
theorem text_trimEmpty_append {segments : List String} (h : ∀ s ∈ segments, IsSegment s) (more : List String) :
    (Path.segments (Path.trimEmpty segments ++ more)).text
      = (Path.segments segments).trimmed ++ (Path.segments more).text := by
  rw [Path.trimmed_segments h, ← String.toList_inj, String.toList_append, toList_text_segments, toList_text_segments,
    toList_text_segments, List.flatMap_append]

end AgentDelegation.Url

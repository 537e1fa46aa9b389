import Mathlib.Data.List.Basic

/-!
# Texts put together and cut again

Where a text is put together with a character between its pieces, cutting it at the character gives back what
the pieces are cut into. A piece that does not hold the character comes back whole.
-/

namespace AgentDelegation.Text

variable {separator : Char}

theorem splitOn_cons_self (rest : List Char) :
    (separator :: rest).splitOn separator = [] :: rest.splitOn separator := by
  rw [List.splitOn_cons_eq_if_modifyHead, if_pos (beq_self_eq_true separator)]

theorem splitOn_cons_of_ne {c : Char} (h : c ≠ separator) (rest : List Char) :
    (c :: rest).splitOn separator = (c :: (rest.splitOn separator).head?.getD []) :: (rest.splitOn separator).tail := by
  rw [List.splitOn_cons_eq_if_modifyHead, if_neg (by simpa using h)]
  obtain ⟨piece, pieces, hsplit⟩ := List.exists_cons_of_ne_nil (List.splitOn_ne_nil separator rest)
  rw [hsplit]
  rfl

theorem not_mem_of_mem_splitOn {cs piece : List Char} (h : piece ∈ cs.splitOn separator) : separator ∉ piece := by
  induction cs generalizing piece with
  | nil => simp_all
  | cons c rest ih =>
      by_cases hc : c = separator
      · subst hc
        rw [splitOn_cons_self] at h
        rcases List.mem_cons.mp h with rfl | h
        · exact List.not_mem_nil
        · exact ih h
      · obtain ⟨first, more, hsplit⟩ := List.exists_cons_of_ne_nil (List.splitOn_ne_nil separator rest)
        rw [splitOn_cons_of_ne hc, hsplit] at h
        rw [hsplit] at ih
        rcases List.mem_cons.mp h with rfl | h
        · exact fun hmem => (List.mem_cons.mp hmem).elim (fun heq => hc heq.symm) (ih List.mem_cons_self)
        · exact ih (List.mem_cons_of_mem first h)

theorem mem_intercalate_of_mem {between : List Char} {pieces : List (List Char)} {piece : List Char}
    (h : piece ∈ pieces) {c : Char} (hc : c ∈ piece) : c ∈ between.intercalate pieces := by
  induction pieces with
  | nil => cases h
  | cons first rest ih =>
      cases rest with
      | nil => rwa [List.intercalate_singleton, ← List.mem_singleton.mp h]
      | cons next more =>
          rw [List.intercalate_cons_cons, List.mem_append]
          rcases List.mem_cons.mp h with rfl | h
          · exact .inl (List.mem_append_left _ hc)
          · exact .inr (ih h)

theorem mem_of_mem_splitOn {cs piece : List Char} (h : piece ∈ cs.splitOn separator) {c : Char} (hc : c ∈ piece) :
    c ∈ cs := by
  have hwhole : [separator].intercalate (cs.splitOn separator) = cs := List.intercalate_splitOn separator
  exact hwhole ▸ mem_intercalate_of_mem h hc

theorem length_splitOn (separator : Char) (cs : List Char) :
    (cs.splitOn separator).length = cs.count separator + 1 := by
  induction cs with
  | nil => rfl
  | cons c rest ih =>
      by_cases h : c = separator
      · rw [h, splitOn_cons_self, List.length_cons, ih, List.count_cons_self]
      · obtain ⟨piece, pieces, hsplit⟩ := List.exists_cons_of_ne_nil (List.splitOn_ne_nil separator rest)
        rw [splitOn_cons_of_ne h, List.count_cons_of_ne h, ← ih, hsplit]
        rfl

theorem head?_splitOn (separator : Char) (cs : List Char) :
    (cs.splitOn separator).head? = some (cs.takeWhile (· != separator)) := by
  induction cs with
  | nil => rfl
  | cons c rest ih =>
      by_cases h : c = separator
      · rw [h, splitOn_cons_self, List.takeWhile_cons_of_neg (by simp)]
        rfl
      · rw [splitOn_cons_of_ne h, ih, List.takeWhile_cons_of_pos (by simpa using h)]
        rfl

/-- Pieces that hold the character are cut in turn. -/
theorem splitOn_intercalate_flatMap {pieces : List (List Char)} (h : pieces ≠ []) :
    ([separator].intercalate pieces).splitOn separator = pieces.flatMap (List.splitOn separator) := by
  induction pieces with
  | nil => exact absurd rfl h
  | cons piece rest ih =>
      cases rest with
      | nil => simp [List.intercalate]
      | cons next more =>
          rw [List.intercalate_cons_cons, List.append_assoc, List.singleton_append, List.splitOn_append_cons_self,
            ih (List.cons_ne_nil _ _)]
          rfl

theorem exists_intercalate_cons (separator : Char) (piece : List Char) (rest : List (List Char)) :
    ∃ tail, [separator].intercalate (piece :: rest) = piece ++ tail := by
  cases rest with
  | nil => exact ⟨[], by simp⟩
  | cons next more => exact ⟨_, by rw [List.intercalate_cons_cons, List.append_assoc]⟩

theorem mem_intercalate {pieces : List (List Char)} {c : Char} (h : c ∈ [separator].intercalate pieces) :
    c = separator ∨ ∃ piece ∈ pieces, c ∈ piece := by
  induction pieces with
  | nil => cases h
  | cons piece rest ih =>
      cases rest with
      | nil => exact .inr ⟨piece, List.mem_cons_self, by simpa using h⟩
      | cons next more =>
          rw [List.intercalate_cons_cons, List.mem_append, List.mem_append, List.mem_singleton] at h
          rcases h with (h | h) | h
          · exact .inr ⟨piece, List.mem_cons_self, h⟩
          · exact .inl h
          · rcases ih h with h | ⟨found, hfound, hmem⟩
            · exact .inl h
            · exact .inr ⟨found, List.mem_cons_of_mem piece hfound, hmem⟩

/-! ### Reading all pieces -/

section

variable {α β : Type} {f : α → Option β} {xs : List α}

theorem mapM_eq_some_map {g : α → β} (h : ∀ x ∈ xs, f x = some (g x)) : xs.mapM f = some (xs.map g) := by
  induction xs with
  | nil => rfl
  | cons x rest ih =>
      obtain ⟨hx, hrest⟩ := List.forall_mem_cons.mp h
      rw [List.mapM_cons, hx, ih hrest]
      rfl

/-- What is written piece by piece is read back if each piece is. -/
theorem mapM_map_eq_some {g : β → α} {ys : List β} (h : ∀ y ∈ ys, f (g y) = some y) : (ys.map g).mapM f = some ys := by
  rw [List.mapM_map]
  exact (mapM_eq_some_map h).trans (congrArg some (List.map_id' ys))

theorem exists_of_mem_mapM {ys : List β} (h : xs.mapM f = some ys) {y : β} (hy : y ∈ ys) : ∃ x ∈ xs, f x = some y := by
  induction xs generalizing ys with
  | nil =>
      obtain rfl := Option.some.inj h
      cases hy
  | cons x rest ih =>
      simp only [List.mapM_cons, Option.bind_eq_bind, Option.bind_eq_some_iff, Option.pure_def, Option.some.injEq] at h
      obtain ⟨first, hfirst, more, hmore, rfl⟩ := h
      rcases List.mem_cons.mp hy with rfl | hy
      · exact ⟨x, List.mem_cons_self, hfirst⟩
      · obtain ⟨x', hx', hf⟩ := ih hmore hy
        exact ⟨x', List.mem_cons_of_mem x hx', hf⟩

theorem mapM_eq_none {x : α} (hx : x ∈ xs) (h : f x = none) : xs.mapM f = none := by
  rw [Option.eq_none_iff_forall_ne_some]
  intro ys hys
  induction xs generalizing ys with
  | nil => cases hx
  | cons first rest ih =>
      rw [List.mapM_cons] at hys
      obtain ⟨y, hfirst, hys⟩ := Option.bind_eq_some_iff.mp hys
      obtain ⟨more, hrest, -⟩ := Option.bind_eq_some_iff.mp hys
      rcases List.mem_cons.mp hx with rfl | hx
      · rw [h] at hfirst
        cases hfirst
      · exact ih hx more hrest

end

/-! ### Lines -/

/-- The lines of a text, cut at its line feeds. -/
def lines (text : String) : List String := (text.toList.splitOn '\n').map String.ofList

theorem lines_intercalate {texts : List String} (h : texts ≠ []) :
    lines ("\n".intercalate texts) = texts.flatMap lines := by
  have hne : texts.map String.toList ≠ [] := by simpa using h
  have hfeed : "\n".toList = ['\n'] := rfl
  rw [lines, String.toList_intercalate, hfeed, splitOn_intercalate_flatMap hne, List.flatMap_map, List.map_flatMap]
  rfl

theorem lines_of_not_mem {text : String} (h : '\n' ∉ text.toList) : lines text = [text] := by
  rw [lines, List.splitOn_eq_singleton h, List.map_singleton, String.ofList_toList]

theorem length_lines (text : String) : (lines text).length = text.toList.count '\n' + 1 := by
  rw [lines, List.length_map, length_splitOn]

theorem flatMap_lines_of_not_mem {texts : List String} (h : ∀ text ∈ texts, '\n' ∉ text.toList) :
    texts.flatMap lines = texts := by
  induction texts with
  | nil => rfl
  | cons text rest ih =>
      obtain ⟨htext, hrest⟩ := List.forall_mem_cons.mp h
      rw [List.flatMap_cons, lines_of_not_mem htext, ih hrest]
      rfl

end AgentDelegation.Text

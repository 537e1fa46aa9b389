import AgentDelegation.NameMap

/-!
# Maps built from entries

Inserting an entry under a new name adds it and moves nothing else, so a map that is built from entries with
different names holds exactly these (`perm_ofList`). What it holds does not depend on the order of the
entries, because name order leaves no choice.
-/

namespace AgentDelegation

variable {α : Type}

namespace Entries

theorem perm_insert {name : String} (x : α) {entries : List (String × α)} (h : name ∉ entries.map Prod.fst) :
    (insert name x entries).Perm ((name, x) :: entries) := by
  induction entries with
  | nil => exact .refl _
  | cons entry rest ih =>
      obtain ⟨other, y⟩ := entry
      obtain ⟨hne, hrest⟩ := not_or.mp (mt List.mem_cons.mpr h)
      rw [insert]
      split
      · exact .refl _
      · split
        · exact ((ih hrest).cons _).trans (.swap _ _ _)
        · rename_i hnot hnot'
          exact absurd (eq_of_not_lt_of_not_lt hnot hnot') hne

theorem lookup_eq_some_iff {entries : List (String × α)} (h : (entries.map Prod.fst).Nodup) {name : String} {x : α} :
    entries.lookup name = some x ↔ (name, x) ∈ entries := by
  induction entries with
  | nil => simp
  | cons entry rest ih =>
      obtain ⟨other, y⟩ := entry
      obtain ⟨hother, hrest⟩ := List.nodup_cons.mp h
      by_cases hname : other = name
      · subst hname
        have hnone : (other, x) ∉ rest := fun hmem => hother (List.mem_map.mpr ⟨_, hmem, rfl⟩)
        simp [hnone, eq_comm]
      · simp [lookup_cons_of_ne (Ne.symm hname), ih hrest, Ne.symm hname]

theorem Ordered.eq_of_perm {entries others : List (String × α)} (h : Ordered entries) (h' : Ordered others)
    (hperm : entries.Perm others) : entries = others :=
  hperm.eq_of_pairwise (fun _ _ _ _ hlt hgt => absurd hgt (String.lt_asymm hlt)) h h'

end Entries

namespace NameMap

theorem eq_of_entries {map other : NameMap α} (h : map.entries = other.entries) : map = other := by
  cases map
  cases other
  congr

theorem perm_insertAll {map : NameMap α} {entries : List (String × α)}
    (h : ((map.entries ++ entries).map Prod.fst).Nodup) :
    (map.insertAll entries).entries.Perm (map.entries ++ entries) := by
  induction entries generalizing map with
  | nil => simp [insertAll]
  | cons entry rest ih =>
      have hmiddle : (map.entries ++ entry :: rest).Perm (entry :: (map.entries ++ rest)) := List.perm_middle
      have hnodup := ((hmiddle.map Prod.fst).nodup_iff.mp h)
      obtain ⟨hname, -⟩ := List.nodup_cons.mp hnodup
      have hnew : entry.1 ∉ map.entries.map Prod.fst := by
        intro hmem
        rw [List.map_append] at hname
        exact hname (List.mem_append_left _ hmem)
      have hinsert : ((map.insert entry.1 entry.2).entries ++ rest).Perm (entry :: (map.entries ++ rest)) :=
        (Entries.perm_insert entry.2 hnew).append_right rest
      exact (ih ((hinsert.map Prod.fst).nodup_iff.mpr hnodup)).trans (hinsert.trans hmiddle.symm)

variable {entries others : List (String × α)}

theorem perm_ofList (h : (entries.map Prod.fst).Nodup) : (ofList entries).entries.Perm entries :=
  @perm_insertAll _ empty entries h

theorem size_ofList (h : (entries.map Prod.fst).Nodup) : (ofList entries).size = entries.length :=
  (perm_ofList h).length_eq

theorem get?_ofList_eq_some_iff (h : (entries.map Prod.fst).Nodup) {name : String} {x : α} :
    (ofList entries).get? name = some x ↔ (name, x) ∈ entries := by
  rw [get?, Entries.lookup_eq_some_iff (ofList entries).ordered.nodup]
  exact (perm_ofList h).mem_iff

/-- The order of the entries does not matter. -/
theorem ofList_eq_of_perm (hperm : entries.Perm others) (h : (entries.map Prod.fst).Nodup) :
    ofList entries = ofList others := by
  have h' : (others.map Prod.fst).Nodup := (hperm.map Prod.fst).nodup_iff.mp h
  refine eq_of_entries ((ofList entries).ordered.eq_of_perm (ofList others).ordered ?_)
  exact (perm_ofList h).trans (hperm.trans (perm_ofList h').symm)

end NameMap

end AgentDelegation

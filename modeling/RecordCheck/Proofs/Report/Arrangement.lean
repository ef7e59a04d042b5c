import Mathlib.Data.List.Induction
import RecordCheck.Proofs.Report.Leaves

/-!
# Arrangement by paths

A path that is found more than once has one entry in a flat mapping: it stands where the path is found first,
and holds what is found there last.  So the paths alone decide which of the leaves have an entry and in what
order, whatever is read of each leaf.
-/

set_option autoImplicit false

namespace RecordCheck

variable {β γ : Type}

/-! ## The last of each path -/

section

/-- What stands under paths, without what a later path is the same as. -/
def lastOfEachPath : List (String × β) → List (String × β)
  | [] => []
  | l :: rest => if l.1 ∈ rest.map (·.1) then lastOfEachPath rest else l :: lastOfEachPath rest

variable (found : List (String × β))

theorem lastOfEachPath_sublist : (lastOfEachPath found).Sublist found := by
  induction found with
  | nil => exact .slnil
  | cons l rest ih =>
    rw [lastOfEachPath]
    split
    · exact ih.cons l
    · exact ih.cons_cons l

/-- No path is the last twice. -/
theorem nodup_lastOfEachPath : ((lastOfEachPath found).map (·.1)).Nodup := by
  induction found with
  | nil => exact List.nodup_nil
  | cons l rest ih =>
    rw [lastOfEachPath]
    split
    · exact ih
    · rename_i hnot
      exact List.nodup_cons.mpr ⟨fun h => hnot (((lastOfEachPath_sublist rest).map _).subset h), ih⟩

/-- Where no path occurs twice, everything is the last of its path. -/
theorem lastOfEachPath_eq_self (h : (found.map (·.1)).Nodup) : lastOfEachPath found = found := by
  induction found with
  | nil => rfl
  | cons l rest ih =>
    obtain ⟨hnot, hrest⟩ := List.nodup_cons.mp h
    rw [lastOfEachPath, if_neg hnot, ih hrest]

/-- What comes last takes the place of what has the same path. -/
theorem lastOfEachPath_concat (l : String × β) :
    lastOfEachPath (found ++ [l]) = (lastOfEachPath found).filter (fun p => p.1 != l.1) ++ [l] := by
  induction found with
  | nil => rfl
  | cons first rest ih =>
    rw [List.cons_append, lastOfEachPath, lastOfEachPath, ih, List.map_append, List.map_singleton]
    by_cases hrest : first.1 ∈ rest.map (·.1)
    · rw [if_pos (List.mem_append_left _ hrest), if_pos hrest]
    · rw [if_neg hrest, List.filter_cons]
      by_cases hlast : first.1 = l.1
      · rw [if_pos (by simp [hlast]), if_neg (by simp [hlast])]
      · rw [if_neg (by simp_all), if_pos (by simp [hlast]), List.cons_append]

end

/-! ## Putting things under paths -/

/-- Something put under a path: in the place of what is there, or last. -/
def putUnder (l : String × β) : List (String × β) → List (String × β)
  | [] => [l]
  | p :: rest => if p.1 = l.1 then l :: rest else p :: putUnder l rest

/-- What was found, put under the paths one after the other. -/
def arranged (found : List (String × β)) : List (String × β) :=
  found.foldl (fun all l => putUnder l all) []

theorem arranged_concat (found : List (String × β)) (l : String × β) :
    arranged (found ++ [l]) = putUnder l (arranged found) := by
  rw [arranged, List.foldl_concat]
  rfl

theorem putUnder_map (f : β → γ) (l : String × β) (all : List (String × β)) :
    putUnder (l.map id f) (all.map (Prod.map id f)) = (putUnder l all).map (Prod.map id f) := by
  induction all with
  | nil => rfl
  | cons p rest ih =>
    rw [List.map_cons, putUnder, putUnder, ih]
    by_cases hsame : p.1 = l.1 <;> simp [hsame]

/-- What is arranged may be replaced before or after, as long as the paths stay. -/
theorem arranged_map (f : β → γ) (found : List (String × β)) :
    arranged (found.map (Prod.map id f)) = (arranged found).map (Prod.map id f) := by
  induction found using List.reverseRecOn with
  | nil => rfl
  | append_singleton found l ih =>
    rw [List.map_append, List.map_singleton, arranged_concat, arranged_concat, ih, putUnder_map]

/-- A path keeps its place, and a new one comes last. -/
theorem map_fst_putUnder (l : String × β) (all : List (String × β)) :
    (putUnder l all).map (·.1) =
      if l.1 ∈ all.map (·.1) then all.map (·.1) else all.map (·.1) ++ [l.1] := by
  induction all with
  | nil => rfl
  | cons p rest ih =>
    rw [putUnder]
    by_cases hsame : p.1 = l.1
    · simp [hsame]
    · rw [if_neg hsame, List.map_cons, ih, List.map_cons]
      simp only [List.mem_cons, Ne.symm hsame, false_or]
      split <;> rfl

/-- The paths stand in the order in which they are found first. -/
theorem map_fst_arranged (found : List (String × β)) :
    (arranged found).map (·.1) = (found.map (·.1)).eraseDups := by
  induction found using List.reverseRecOn with
  | nil => rfl
  | append_singleton found l ih =>
    rw [arranged_concat, map_fst_putUnder, ih, List.map_append, List.map_singleton, List.eraseDups_append]
    by_cases hold : l.1 ∈ found.map (·.1)
    · rw [if_pos (List.mem_eraseDups.mpr hold)]
      simp [List.removeAll, hold]
    · rw [if_neg fun h => hold (List.mem_eraseDups.mp h)]
      simp [List.removeAll, hold, List.eraseDups_cons]

/-- What is put under a path takes the place of what is there, or comes last. -/
theorem perm_putUnder {all : List (String × β)} (h : (all.map (·.1)).Nodup) (l : String × β) :
    (putUnder l all).Perm (all.filter (fun p => p.1 != l.1) ++ [l]) := by
  induction all with
  | nil => exact .refl _
  | cons p rest ih =>
    obtain ⟨hnot, hrest⟩ := List.nodup_cons.mp h
    rw [putUnder, List.filter_cons]
    by_cases hsame : p.1 = l.1
    · have hothers : rest.filter (fun p => p.1 != l.1) = rest := by
        rw [List.filter_eq_self]
        intro other hother
        rw [bne_iff_ne, ← hsame]
        exact fun heq => hnot (List.mem_map.mpr ⟨other, hother, heq⟩)
      rw [if_pos hsame, if_neg (by simp [hsame]), hothers]
      exact (List.perm_append_singleton l rest).symm
    · rw [if_neg hsame, if_pos (by simp [hsame])]
      exact (ih hrest).cons p

/-- What is arranged is the last of each path. -/
theorem perm_arranged (found : List (String × β)) : (arranged found).Perm (lastOfEachPath found) := by
  induction found using List.reverseRecOn with
  | nil => exact .refl _
  | append_singleton found l ih =>
    have hnodup := (ih.map (·.1)).nodup_iff.mpr (nodup_lastOfEachPath found)
    rw [arranged_concat, lastOfEachPath_concat]
    exact (perm_putUnder hnodup l).trans ((ih.filter _).append_right _)

/-- What is listed of what was found: the last of each path, in the order in which the paths are found first. -/
structure ListsLastOfEachPath (found listed : List (String × β)) : Prop where
  order : listed.map (·.1) = (found.map (·.1)).eraseDups
  last : listed.Perm (lastOfEachPath found)

theorem listsLastOfEachPath_arranged (found : List (String × β)) :
    ListsLastOfEachPath found (arranged found) := ⟨map_fst_arranged found, perm_arranged found⟩

/-! ## Flat mappings -/

namespace Tree

theorem put_map_pathEntry (l : String × Value) (all : List (String × Value)) :
    Entries.put (all.map pathEntry) (.text l.1) l.2 = (putUnder l all).map pathEntry := by
  induction all with
  | nil => rfl
  | cons p rest ih =>
    rw [List.map_cons, Entries.put, pathEntry, putUnder, ih]
    by_cases hsame : p.1 = l.1
    · rw [if_pos (Value.text_sameKey_text_iff.mpr hsame), if_pos hsame, hsame]
      rfl
    · rw [if_neg fun h => hsame (Value.text_sameKey_text_iff.mp h), if_neg hsame]
      rfl

/-- A flat mapping holds what was found as it is arranged by the paths. -/
theorem flatMap_eq_arranged (found : List (String × Value)) :
    flatMap found = (arranged found).map pathEntry := by
  induction found using List.reverseRecOn with
  | nil => rfl
  | append_singleton found l ih =>
    rw [arranged_concat, ← put_map_pathEntry, ← ih, flatMap, List.foldl_concat]
    rfl

/-- What is read of the leaves has no part in how a flat mapping arranges them. -/
theorem flatMap_map (read : β → Value) (found : List (String × β)) :
    flatMap (found.map (Prod.map id read)) = (arranged found).map fun l => (.text l.1, read l.2) := by
  rw [flatMap_eq_arranged, arranged_map, List.map_map]
  rfl

end Tree

end RecordCheck

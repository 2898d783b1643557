import QueryLayer.Path

/-! # Segments of dotted texts

A segment is a text that is not empty and has no dot. Joining two texts with a dot joins their
lists of segments, and cutting such a text at its first dot takes the first segment off.
-/

set_option autoImplicit false

namespace QueryLayer.Dotted

def IsSegment (s : String) : Prop := s ≠ "" ∧ '.' ∉ s.toList

instance (s : String) : Decidable (IsSegment s) := inferInstanceAs (Decidable (_ ∧ _))

def IsScope (s : String) : Prop :=
  IsSegment s ∨ ∃ adapter model, IsSegment adapter ∧ IsSegment model ∧ s = adapter ++ "." ++ model

theorem split_eq_splitOn (cs : List Char) : split cs = cs.splitOn '.' := by
  induction cs with
  | nil => rfl
  | cons c rest ih =>
    rw [split, List.splitOn_cons_eq_if_modifyHead, ih]
    by_cases h : c = '.'
    · simp [h]
    · rw [if_neg h, if_neg (by simpa using h)]
      cases hrest : rest.splitOn '.' with
      | nil => exact absurd hrest (List.splitOn_ne_nil _ _)
      | cons segment segments => rfl

theorem dot_not_mem_of_mem_split {cs segment : List Char} (h : segment ∈ split cs) :
    '.' ∉ segment := by
  induction cs generalizing segment with
  | nil =>
    rw [List.mem_singleton.mp h]
    exact List.not_mem_nil
  | cons c rest ih =>
    rw [split] at h
    split at h
    · rcases List.mem_cons.mp h with rfl | h
      · exact List.not_mem_nil
      · exact ih h
    · rename_i hc
      split at h
      · rename_i hnil
        exact absurd hnil (split_ne_nil rest)
      · rename_i first others hrest
        rw [hrest] at ih
        rcases List.mem_cons.mp h with rfl | h
        · intro hdot
          rcases List.mem_cons.mp hdot with hdot | hdot
          · exact hc hdot.symm
          · exact ih List.mem_cons_self hdot
        · exact ih (List.mem_cons_of_mem _ h)

theorem toList_append_dot (s t : String) :
    (s ++ "." ++ t).toList = s.toList ++ '.' :: t.toList := by
  rw [String.toList_append, String.toList_append, List.append_assoc]
  rfl

theorem segments_of_isSegment {s : String} (h : IsSegment s) : segments s = [s] := by
  rw [segments, split_eq_splitOn, List.splitOn_eq_singleton h.2, List.map_singleton,
    String.ofList_toList]

theorem segments_append_dot (s t : String) :
    segments (s ++ "." ++ t) = segments s ++ segments t := by
  rw [segments, toList_append_dot, split_eq_splitOn, List.splitOn_append_cons_self,
    List.map_append, ← split_eq_splitOn, ← split_eq_splitOn]
  rfl

theorem any_isEmpty_eq_false_iff {dotted : String} :
    (segments dotted).any String.isEmpty = false ↔ ∀ s ∈ segments dotted, IsSegment s := by
  rw [List.any_eq_false]
  constructor
  · intro h s hs
    refine ⟨fun hempty => h s hs (String.isEmpty_iff.mpr hempty), ?_⟩
    obtain ⟨segment, hsegment, rfl⟩ := List.mem_map.mp hs
    rw [String.toList_ofList]
    exact dot_not_mem_of_mem_split hsegment
  · intro h s hs hempty
    exact (h s hs).1 (String.isEmpty_iff.mp hempty)

/-- How a reader of dotted texts begins: it refuses a text that has an empty run between dots. -/
theorem guarded_eq_ok_iff {ε α : Type} {dotted : String} {e : ε} {x : Except ε α} {a : α} :
    (if (segments dotted).any String.isEmpty then .error e else x) = .ok a ↔
      (∀ s ∈ segments dotted, IsSegment s) ∧ x = .ok a := by
  rw [← any_isEmpty_eq_false_iff]
  cases (segments dotted).any String.isEmpty with
  | true => exact ⟨nofun, fun h => nomatch h.1⟩
  | false => exact ⟨fun h => ⟨rfl, h⟩, And.right⟩

theorem cut_eq_none_iff {cs : List Char} : cut cs = none ↔ '.' ∉ cs := by
  induction cs with
  | nil => simp [cut]
  | cons c rest ih =>
    rw [cut]
    by_cases h : c = '.'
    · simp [h]
    · rw [if_neg h, Option.map_eq_none_iff, ih, List.mem_cons, not_or]
      exact ⟨fun hrest => ⟨Ne.symm h, hrest⟩, And.right⟩

theorem cut_append_dot {xs : List Char} (h : '.' ∉ xs) (ys : List Char) :
    cut (xs ++ '.' :: ys) = some (xs, ys) := by
  induction xs with
  | nil => rfl
  | cons c rest ih =>
    rw [List.mem_cons, not_or] at h
    rw [List.cons_append, cut, if_neg (Ne.symm h.1), ih h.2]
    rfl

theorem qualifier?_eq_none_iff {scope : String} : qualifier? scope = none ↔ '.' ∉ scope.toList := by
  rw [qualifier?, Option.map_eq_none_iff, cut_eq_none_iff]

theorem qualifier?_append_dot {adapter : String} (h : IsSegment adapter) (model : String) :
    qualifier? (adapter ++ "." ++ model) = some (adapter, model) := by
  rw [qualifier?, toList_append_dot, cut_append_dot h.2, Option.map_some, String.ofList_toList,
    String.ofList_toList]

end QueryLayer.Dotted

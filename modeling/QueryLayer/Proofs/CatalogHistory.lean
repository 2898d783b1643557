import Mathlib.Data.List.DropRight
import QueryLayer.Registry

/-! # Catalogs and their histories

A catalog is the work of the definitions and clears that were made so far. What a name stands for
can be read off that history: it is the first definition of the name since the last clear.
-/

set_option autoImplicit false

namespace QueryLayer.Catalog

variable {α : Type}

inductive Change (α : Type) where
  | define (name : String) (a : α)
  | clear

namespace Change

def isClear : Change α → Bool
  | define _ _ => false
  | clear => true

def definition? (name : String) : Change α → Option α
  | define k a => if name = k then some a else none
  | clear => none

end Change

def change (c : Catalog α) : Change α → Catalog α
  | .define name a => c.define name a
  | .clear => {}

def after (history : List (Change α)) : Catalog α := history.foldl change {}

def sinceClear (history : List (Change α)) : List (Change α) :=
  history.rtakeWhile fun c => !c.isClear

def firstDefinition? (name : String) (history : List (Change α)) : Option α :=
  (sinceClear history).findSome? (Change.definition? name)

theorem after_concat (history : List (Change α)) (c : Change α) :
    after (history ++ [c]) = (after history).change c := by
  rw [after, List.foldl_concat]
  rfl

theorem firstDefinition?_clear (name : String) (history : List (Change α)) :
    firstDefinition? name (history ++ [.clear]) = none := by
  rw [firstDefinition?, sinceClear, List.rtakeWhile_concat_neg _ _ _ (by simp [Change.isClear])]
  rfl

theorem firstDefinition?_define (name k : String) (a : α) (history : List (Change α)) :
    firstDefinition? name (history ++ [.define k a]) =
      (firstDefinition? name history).or (if name = k then some a else none) := by
  rw [firstDefinition?, sinceClear, List.rtakeWhile_concat_pos _ _ _ (by simp [Change.isClear]),
    List.findSome?_append, List.findSome?_singleton]
  rfl

theorem find?_after (name : String) (history : List (Change α)) :
    (after history).find? name = firstDefinition? name history := by
  induction history using List.reverseRecOn with
  | nil => rfl
  | append_singleton history c ih =>
    rw [after_concat]
    cases c with
    | clear =>
      rw [firstDefinition?_clear]
      rfl
    | define k a =>
      rw [change, find?_define, firstDefinition?_define, ← ih]
      by_cases h : name = k
      · subst h
        rw [if_pos rfl, if_pos rfl]
        cases (after history).find? name <;> rfl
      · rw [if_neg h, if_neg h, Option.or_none]

/-! ## All definitions since the last clear -/

def Change.entry? : Change α → Option (String × α)
  | define name a => some (name, a)
  | clear => none

def Change.map {β : Type} (f : String → α → β) : Change α → Change β
  | define name a => define name (f name a)
  | clear => clear

/-- The definitions since the last clear in their order, those that came too late among them. -/
def definitions (history : List (Change α)) : List (String × α) :=
  (sinceClear history).filterMap Change.entry?

theorem definitions_clear (history : List (Change α)) : definitions (history ++ [.clear]) = [] := by
  rw [definitions, sinceClear, List.rtakeWhile_concat_neg _ _ _ (by simp [Change.isClear])]
  rfl

theorem definitions_define (name : String) (a : α) (history : List (Change α)) :
    definitions (history ++ [.define name a]) = definitions history ++ [(name, a)] := by
  rw [definitions, sinceClear, List.rtakeWhile_concat_pos _ _ _ (by simp [Change.isClear]),
    List.filterMap_append]
  rfl

theorem mem_of_mem_definitions {name : String} {a : α} {history : List (Change α)}
    (h : (name, a) ∈ definitions history) : .define name a ∈ history := by
  obtain ⟨c, hc, hentry⟩ := List.mem_filterMap.mp h
  cases c with
  | define k b =>
    cases hentry
    exact (List.rtakeWhile_suffix _ _).subset hc
  | clear => cases hentry

theorem definitions_map {β : Type} (f : String → α → β) (history : List (Change α)) :
    definitions (history.map (Change.map f)) =
      (definitions history).map fun entry => (entry.1, f entry.1 entry.2) := by
  induction history using List.reverseRecOn with
  | nil => rfl
  | append_singleton history c ih =>
    rw [List.map_append, List.map_singleton]
    cases c with
    | define name a =>
      rw [Change.map, definitions_define, definitions_define, ih, List.map_append]
      rfl
    | clear =>
      rw [Change.map, definitions_clear, definitions_clear]
      rfl

theorem firstDefinition?_eq_find? (name : String) (history : List (Change α)) :
    firstDefinition? name history = Entries.find? name (definitions history) := by
  induction history using List.reverseRecOn with
  | nil => rfl
  | append_singleton history c ih =>
    cases c with
    | define k a =>
      rw [firstDefinition?_define, definitions_define, Entries.find?_append, ih]
      rfl
    | clear =>
      rw [firstDefinition?_clear, definitions_clear]
      rfl

theorem names_after (history : List (Change α)) :
    (after history).names = ((definitions history).map Prod.fst).eraseDups := by
  induction history using List.reverseRecOn with
  | nil => rfl
  | append_singleton history c ih =>
    rw [after_concat]
    cases c with
    | clear =>
      rw [definitions_clear]
      rfl
    | define name a =>
      have hmem : (after history).has name = true ↔
          name ∈ (definitions history).map Prod.fst := by
        rw [has_eq_true_iff, ih, List.mem_eraseDups]
      simp only [change, names_define, definitions_define, List.map_append, List.map_cons,
        List.map_nil, eraseDups_concat, hmem, ih]

theorem nodup_names_after (history : List (Change α)) : (after history).names.Nodup := by
  induction history using List.reverseRecOn with
  | nil => exact List.nodup_nil
  | append_singleton history c ih =>
    rw [after_concat]
    cases c with
    | clear => exact List.nodup_nil
    | define name a =>
      rw [change, names_define]
      split
      · exact ih
      · rename_i h
        rw [has_eq_true_iff] at h
        refine List.nodup_append.mpr ⟨ih, by simp, ?_⟩
        intro other hother k hk heq
        rw [heq, List.mem_singleton.mp hk] at hother
        exact h hother

/-- The answers of a catalog for which these definitions were tried in this order. -/
structure KeepsFirst (c : Catalog α) (tried : List (String × α)) : Prop where
  find? : ∀ name, c.find? name = Entries.find? name tried
  has : ∀ name, c.has name = true ↔ ∃ a, (name, a) ∈ tried
  names : c.names = (tried.map Prod.fst).eraseDups
  nodup : c.names.Nodup
  toList : c.toList = c.names.filterMap c.find?
  defined : ∀ name a, c.defined name a = (Entries.find? name tried).getD a
  define : ∀ name a, (c.define name a).find? name = some (c.defined name a)

theorem toList_of_nodup {c : Catalog α} (h : c.names.Nodup) :
    c.toList = c.names.filterMap c.find? := by
  have hfind : ∀ entry ∈ c.entries, c.find? entry.1 = some entry.2 :=
    fun entry hentry => Entries.find?_of_mem h hentry
  rw [toList, names, List.filterMap_map, ← List.filterMap_eq_map]
  exact List.filterMap_congr fun entry hentry => (hfind entry hentry).symm

theorem keepsFirst_after (history : List (Change α)) :
    (after history).KeepsFirst (definitions history) where
  find? name := by rw [find?_after, firstDefinition?_eq_find?]
  has name := by
    rw [has_eq_true_iff, names_after, List.mem_eraseDups]
    simp
  names := names_after history
  nodup := nodup_names_after history
  toList := toList_of_nodup (nodup_names_after history)
  defined name a := by rw [Catalog.defined, find?_after, firstDefinition?_eq_find?]
  define name a := find?_define_self _ name a

end QueryLayer.Catalog

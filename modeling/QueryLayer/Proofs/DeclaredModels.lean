import QueryLayer.Model

/-! # Declared models

A model is declared by naming attributes, the primary key and rules one after another. Attributes
of one name replace each other, so names are never repeated; an alias leads to the first attribute
that has it and never away from a declared name.
-/

set_option autoImplicit false

namespace QueryLayer

namespace Model

variable {ρ : Type}

def names (m : Model ρ) : List String := m.attrs.map Attr.name

/-- A model that was declared part by part, in whatever order. -/
inductive Declared : Model ρ → Prop where
  | new (name : String) : Declared { name := name }
  | attr {m : Model ρ} (a : Attr) : Declared m → Declared (m.attr a)
  | id {m : Model ρ} (name : String) : Declared m → Declared (m.id name)
  | rule {m : Model ρ} (r : ρ) : Declared m → Declared (m.rule r)

theorem declares_eq_true_iff {m : Model ρ} {name : String} :
    m.declares name = true ↔ name ∈ m.names := by
  simp [declares, names]

theorem names_replaceAttr (a : Attr) (attrs : List Attr) :
    (replaceAttr a attrs).map Attr.name = attrs.map Attr.name := by
  induction attrs with
  | nil => rfl
  | cons b rest ih =>
    by_cases h : b.name = a.name <;> simp [replaceAttr, h, ih]

theorem names_attr (m : Model ρ) (a : Attr) :
    (m.attr a).names = if m.declares a.name then m.names else m.names ++ [a.name] := by
  simp only [attr, names]
  split
  · exact names_replaceAttr a m.attrs
  · exact List.map_append

theorem names_id (m : Model ρ) (name : String) :
    (m.id name).names = if m.declares name then m.names else m.names ++ [name] := by
  simp only [id, names]
  split
  · rfl
  · exact List.map_append

theorem Declared.nodup_names {m : Model ρ} (h : m.Declared) : m.names.Nodup := by
  have hadd : ∀ {m : Model ρ} {name : String}, m.names.Nodup →
      (if m.declares name then m.names else m.names ++ [name]).Nodup := by
    intro m name hm
    split
    · exact hm
    · rename_i hnot
      rw [declares_eq_true_iff] at hnot
      exact List.nodup_append.mpr ⟨hm, by simp, by rintro n hn _ (_ | ⟨_, ⟨⟩⟩) rfl; exact hnot hn⟩
  induction h with
  | new name => exact List.nodup_nil
  | attr a _ ih =>
    rw [names_attr]
    exact hadd ih
  | id name _ ih =>
    rw [names_id]
    exact hadd ih
  | rule r _ ih => exact ih

theorem find?_map_attrs {α : Type} (attrs : List Attr) (f : Attr → α) (name : String) :
    Entries.find? name (attrs.map fun a => (a.name, f a)) =
      (attrs.find? fun a => a.name == name).map f := by
  induction attrs with
  | nil => rfl
  | cons a rest ih => by_cases h : name = a.name <;> simp_all [Entries.find?, Ne.symm]

theorem find?_ofList_attrs {α : Type} {m : Model ρ} (h : m.names.Nodup) (f : Attr → α)
    (name : String) :
    Entries.find? name (Entries.ofList (m.attrs.map fun a => (a.name, f a))) =
      (m.attrs.find? fun a => a.name == name).map f := by
  have hkeys : (Entries.keys (m.attrs.map fun a => (a.name, f a))).Nodup := by
    rw [Entries.keys, List.map_map]
    exact h
  rw [Entries.find?_ofList, Entries.find?_reverse hkeys, find?_map_attrs]

/-- An alias leads to the first attribute that has it, unless it is an attribute's own name. -/
theorem find?_aliases (m : Model ρ) (other : String) :
    Entries.find? other m.aliases =
      if m.declares other then none
      else (m.attrs.find? fun a => a.aliases.contains other).map Attr.name := by
  have hone : ∀ a : Attr, Entries.find? other (a.aliases.map fun nick => (nick, a.name)) =
      if a.aliases.contains other then some a.name else none := by
    intro a
    induction a.aliases with
    | nil => rfl
    | cons nick rest ih => by_cases h : other = nick <;> simp_all [Entries.find?]
  have hall : Entries.find? other
      (m.attrs.flatMap fun a => a.aliases.map fun nick => (nick, a.name)) =
      (m.attrs.find? fun a => a.aliases.contains other).map Attr.name := by
    induction m.attrs with
    | nil => rfl
    | cons a rest ih =>
      rw [List.flatMap_cons, Entries.find?_append, hone, ih, List.find?_cons]
      cases a.aliases.contains other <;> rfl
  rw [aliases, Entries.find?_ofList, List.reverse_reverse,
    Entries.find?_filter other (fun name => !m.declares name), hall]
  cases m.declares other <;> rfl

end Model
end QueryLayer

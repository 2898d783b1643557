import Mathlib.Data.List.Induction
import QueryLayer.Proofs.DeclaredModels

/-! # How the attributes of a model were declared

What stands under a name in a model is the attribute that was declared last under it. Declaring the
primary key adds an attribute only where there is none, and leaves another one as it is. So the key
is always an attribute of the model, but the flag of that attribute is what its own declaration
says.
-/

set_option autoImplicit false

namespace QueryLayer

namespace Model

variable {ρ : Type}

inductive Part (ρ : Type) where
  | attr (a : Attr)
  | id (name : String)
  | rule (r : ρ)

namespace Part

def attr? : Part ρ → Option Attr
  | attr a => some a
  | _ => none

def key? : Part ρ → Option String
  | id name => some name
  | _ => none

def definition? (parts : List (Part ρ)) (name : String) : Option Attr :=
  (parts.filterMap attr?).reverse.find? fun a => a.name == name

def keys (parts : List (Part ρ)) : List String := parts.filterMap key?

theorem definition?_concat (parts : List (Part ρ)) (p : Part ρ) (name : String) :
    definition? (parts ++ [p]) name =
      (p.attr?.filter fun a => a.name == name).or (definition? parts name) := by
  rw [definition?, List.filterMap_append, List.reverse_append, List.find?_append]
  cases p with
  | attr a => cases h : a.name == name <;> simp [attr?, definition?, h, Option.filter]
  | _ => rfl

theorem keys_concat (parts : List (Part ρ)) (p : Part ρ) :
    keys (parts ++ [p]) = keys parts ++ p.key?.toList := by
  rw [keys, List.filterMap_append]
  cases p <;> rfl

end Part

def add (m : Model ρ) : Part ρ → Model ρ
  | .attr a => m.attr a
  | .id name => m.id name
  | .rule r => m.rule r

def ofParts (name : String) (parts : List (Part ρ)) : Model ρ := parts.foldl add { name := name }

theorem ofParts_concat (name : String) (parts : List (Part ρ)) (p : Part ρ) :
    ofParts name (parts ++ [p]) = (ofParts name parts).add p := List.foldl_append

theorem declared_ofParts (name : String) (parts : List (Part ρ)) :
    (ofParts name parts).Declared := by
  induction parts using List.reverseRecOn with
  | nil => exact .new name
  | append_singleton parts p ih =>
    rw [ofParts_concat]
    cases p with
    | attr a => exact .attr a ih
    | id key => exact .id key ih
    | rule r => exact .rule r ih

theorem key_ofParts (name : String) (parts : List (Part ρ)) :
    (ofParts name parts).key = (Part.keys parts).getLast? := by
  induction parts using List.reverseRecOn with
  | nil => rfl
  | append_singleton parts p ih =>
    rw [ofParts_concat, Part.keys_concat]
    cases p with
    | id key => exact List.getLast?_concat.symm
    | _ => simpa [add, attr, rule, Part.key?] using ih

/-! ## What stands under a name -/

def named? (m : Model ρ) (name : String) : Option Attr := m.attrs.find? fun a => a.name == name

def keyAttr (name : String) : Attr := { name := name, flagged := true }

theorem isSome_named? (m : Model ρ) (name : String) :
    (m.named? name).isSome = m.declares name := by
  rw [named?, declares, Bool.eq_iff_iff, List.find?_isSome, List.any_eq_true]

theorem named?_of_not_declared {m : Model ρ} {name : String} (h : m.declares name = false) :
    m.named? name = none := by
  rwa [← isSome_named?, Option.isSome_eq_false_iff, Option.isNone_iff_eq_none] at h

theorem name_of_named? {m : Model ρ} {name : String} {a : Attr} (h : m.named? name = some a) :
    a.name = name := by
  rw [named?] at h
  have hname := List.find?_some h
  simpa using hname

theorem getAttr_of_named? {m : Model ρ} {name : String} {a : Attr} (h : m.named? name = some a) :
    m.getAttr name = some a := by
  rw [named?] at h
  rw [getAttr, h, Option.some_or]

theorem find?_of_mem {attrs : List Attr} (h : (attrs.map Attr.name).Nodup) {a : Attr}
    (ha : a ∈ attrs) : (attrs.find? fun b => b.name == a.name) = some a := by
  induction attrs with
  | nil => cases ha
  | cons b rest ih =>
    obtain ⟨hb, hrest⟩ := List.nodup_cons.mp h
    rcases List.mem_cons.mp ha with rfl | ha
    · simp
    · have hne : b.name ≠ a.name := fun heq => hb (heq ▸ List.mem_map_of_mem ha)
      rw [List.find?_cons_of_neg (by simpa using hne)]
      exact ih hrest ha

theorem find?_replaceAttr {a : Attr} {attrs : List Attr} (h : a.name ∈ attrs.map Attr.name)
    (name : String) :
    (replaceAttr a attrs).find? (fun b => b.name == name) =
      if a.name = name then some a else attrs.find? fun b => b.name == name := by
  induction attrs with
  | nil => cases h
  | cons b rest ih =>
    by_cases hb : b.name = a.name
    · by_cases hname : a.name = name <;> simp [replaceAttr, hb, hname]
    · have hrest : a.name ∈ rest.map Attr.name := by
        rcases List.mem_cons.mp h with heq | hrest
        · exact absurd heq.symm hb
        · exact hrest
      rw [replaceAttr, if_neg hb, List.find?_cons, List.find?_cons, ih hrest]
      by_cases hname : b.name = name
      · subst hname
        simp [Ne.symm hb]
      · simp [beq_eq_false_iff_ne.mpr hname]

theorem named?_attr (m : Model ρ) (a : Attr) (name : String) :
    (m.attr a).named? name = if a.name = name then some a else m.named? name := by
  rw [named?, attr]
  cases h : m.declares a.name with
  | true => exact find?_replaceAttr (declares_eq_true_iff.mp h) name
  | false =>
    have hnone : m.attrs.find? (fun b => b.name == a.name) = none := named?_of_not_declared h
    simp only [Bool.false_eq_true, if_false]
    rw [List.find?_append]
    by_cases hname : a.name = name
    · subst hname
      simp [hnone]
    · simp [hname, named?]

theorem named?_id (m : Model ρ) (key name : String) :
    (m.id key).named? name =
      (m.named? name).or (if name = key then some (keyAttr key) else none) := by
  rw [named?, id]
  cases h : m.declares key with
  | true =>
    simp only [if_true]
    split
    · rename_i heq
      subst heq
      rw [← isSome_named?] at h
      rw [Option.or_of_isSome h]
      rfl
    · rw [Option.or_none]
      rfl
  | false =>
    simp only [Bool.false_eq_true, if_false]
    rw [List.find?_append]
    by_cases hname : name = key <;> simp [keyAttr, named?, hname, Ne.symm]

/-- Under a name stands what was declared last under it, else the attribute of a key. -/
theorem named?_ofParts (model name : String) (parts : List (Part ρ)) :
    (ofParts model parts).named? name =
      (Part.definition? parts name).or
        (if name ∈ Part.keys parts then some (keyAttr name) else none) := by
  induction parts using List.reverseRecOn with
  | nil => rfl
  | append_singleton parts p ih =>
    rw [ofParts_concat, Part.definition?_concat, Part.keys_concat]
    cases p with
    | attr a =>
      rw [add, named?_attr, ih]
      by_cases hname : a.name = name <;> simp [Part.attr?, Part.key?, hname, Option.filter]
    | id key =>
      rw [add, named?_id, ih]
      by_cases hname : name = key
      · subst hname
        by_cases hkey : name ∈ Part.keys parts <;> simp [Part.attr?, Part.key?, hkey]
      · simp [Part.attr?, Part.key?, hname]
    | rule r => simpa [add, rule, named?, Part.attr?, Part.key?] using ih

/-! ## The primary key -/

/-- The primary key is an attribute of the model, which either was declared last under that name or
was added for the key. -/
theorem exists_of_primaryKey {model name : String} {parts : List (Part ρ)}
    (h : (ofParts model parts).primaryKey = some name) :
    ∃ a, (ofParts model parts).named? name = some a ∧
      (Part.definition? parts name = some a ∨
        Part.definition? parts name = none ∧ a = keyAttr name) ∧
      (Part.keys parts = [] → a.isPrimaryKey = true) := by
  rw [primaryKey, key_ofParts] at h
  cases hkeys : (Part.keys parts).getLast? with
  | some key =>
    rw [hkeys, Option.some_or] at h
    cases h
    have hmem : name ∈ Part.keys parts := List.mem_of_getLast? hkeys
    have hnone : Part.keys parts ≠ [] := List.ne_nil_of_mem hmem
    rw [named?_ofParts, if_pos hmem]
    cases hdefinition : Part.definition? parts name with
    | some a => exact ⟨a, rfl, .inl rfl, fun hnil => absurd hnil hnone⟩
    | none => exact ⟨keyAttr name, rfl, .inr ⟨rfl, rfl⟩, fun hnil => absurd hnil hnone⟩
  | none =>
    -- the first attribute that is a key by itself is what stands under its name
    rw [hkeys, Option.none_or] at h
    obtain ⟨a, ha, rfl⟩ := Option.map_eq_some_iff.mp h
    have hnamed : (ofParts model parts).named? a.name = some a :=
      find?_of_mem (declared_ofParts model parts).nodup_names (List.mem_of_find?_eq_some ha)
    refine ⟨a, hnamed, .inl ?_, fun _ => List.find?_some ha⟩
    rw [named?_ofParts, List.getLast?_eq_none_iff.mp hkeys] at hnamed
    simpa using hnamed

theorem isPrimaryKey_iff {a : Attr} :
    a.isPrimaryKey = true ↔ a.name = "id" ∨ a.name = "_id" ∨ a.flagged = true := by
  rw [Attr.isPrimaryKey, Bool.or_eq_true, Bool.or_eq_true, beq_iff_eq, beq_iff_eq, or_assoc,
    or_rotate]

/-- The primary key is an attribute of the model, and one that is a key by itself if no key was
declared. Else that depends on its name and on the flag of what was declared last under it. -/
theorem isPrimaryKey_of_primaryKey_iff {model name : String} {parts : List (Part ρ)}
    (h : (ofParts model parts).primaryKey = some name) :
    ∃ a ∈ (ofParts model parts).attrs,
      (ofParts model parts).getAttr name = some a ∧ a.name = name ∧
      (Part.keys parts = [] → a.isPrimaryKey = true) ∧
      (a.isPrimaryKey = true ↔ name = "id" ∨ name = "_id" ∨
        ∀ b, Part.definition? parts name = some b → b.flagged = true) := by
  obtain ⟨a, hnamed, hdefinition, hkeys⟩ := exists_of_primaryKey h
  have hname : a.name = name := name_of_named? hnamed
  refine ⟨a, List.mem_of_find?_eq_some hnamed, getAttr_of_named? hnamed, hname, hkeys, ?_⟩
  rw [isPrimaryKey_iff, hname]
  rcases hdefinition with hsome | ⟨hnone, rfl⟩
  · simp [hsome]
  · simp [hnone, keyAttr]

theorem isPrimaryKey_of_user :
    let parts : List (Part Unit) := [.attr { name := "email", aliases := ["user"] }, .id "email",
      .attr { name := "email" }, .id "user", .rule ()]
    ∃ a, (ofParts "account" parts).primaryKey = some "user" ∧
      (ofParts "account" parts).getAttr "user" = some a ∧ a.isPrimaryKey = true := by
  intro parts
  have hkey : (ofParts "account" parts).primaryKey = some "user" := rfl
  obtain ⟨a, -, hget, -, -, hiff⟩ := isPrimaryKey_of_primaryKey_iff hkey
  exact ⟨a, hkey, hget, hiff.mpr (.inr (.inr nofun))⟩

/-- An attribute that is declared without the flag stays without it, whether it is declared earlier
than the key or later. -/
theorem isPrimaryKey_of_email :
    let earlier : Model Unit := ofParts "account" [.attr { name := "email" }, .id "email"]
    let later : Model Unit := ofParts "account" [.id "email", .attr { name := "email" }]
    (earlier.primaryKey = some "email" ∧
        (earlier.getAttr "email").map Attr.isPrimaryKey = some false) ∧
      later.primaryKey = some "email" ∧
        (later.getAttr "email").map Attr.isPrimaryKey = some false := by
  intro earlier later
  exact ⟨⟨rfl, rfl⟩, rfl, rfl⟩

end Model

end QueryLayer

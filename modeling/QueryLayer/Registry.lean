import QueryLayer.Entries

/-! # Registries and catalogs

Two stores of named parts. A registry remembers every registration in order: a name stands for
what was registered last under it, and the default is what was registered first of all. A catalog
lets a name be defined once and keeps the first definition.
-/

set_option autoImplicit false

namespace QueryLayer

variable {α : Type}

/-- A name that comes once more takes the place that it had. -/
theorem eraseDups_concat (names : List String) (name : String) :
    (names ++ [name]).eraseDups =
      if name ∈ names then names.eraseDups else names.eraseDups ++ [name] := by
  rw [List.eraseDups_append]
  by_cases h : name ∈ names <;> simp [List.removeAll, List.eraseDups_cons, h]

/-- Registrations in the order in which they were made, names repeated as they came. -/
structure Registry (α : Type) where
  entries : List (String × α) := []

namespace Registry

def register (r : Registry α) (name : String) (a : α) : Registry α := ⟨r.entries ++ [(name, a)]⟩

/-- What was registered last under `name`. -/
def lookup (r : Registry α) (name : String) : Option α := Entries.find? name r.entries.reverse

def has (r : Registry α) (name : String) : Bool := (r.lookup name).isSome

/-- What was registered first of all. -/
def default? (r : Registry α) : Option α := r.entries.head?.map Prod.snd

def names (r : Registry α) : List String := r.entries.map Prod.fst

def toList (r : Registry α) : List α := r.entries.map Prod.snd

def distinct (r : Registry α) : Nat := r.names.eraseDups.length

theorem lookup_register (r : Registry α) (name k : String) (a : α) :
    (r.register name a).lookup k = if k = name then some a else r.lookup k := by
  simp [register, lookup, Entries.find?]

theorem names_register (r : Registry α) (name : String) (a : α) :
    (r.register name a).names = r.names ++ [name] := by
  simp [register, names]

theorem lookup_eq_some_iff {r : Registry α} {name : String} {a : α} :
    r.lookup name = some a ↔
      ∃ earlier later, r.entries = earlier ++ (name, a) :: later ∧ ∀ b, (name, b) ∉ later := by
  rw [lookup, Entries.find?_eq_some_iff]
  constructor
  · rintro ⟨later, earlier, heq, hnot⟩
    refine ⟨earlier.reverse, later.reverse, ?_, by simpa using hnot⟩
    simpa using congrArg List.reverse heq
  · rintro ⟨earlier, later, heq, hnot⟩
    exact ⟨later.reverse, earlier.reverse, by simp [heq], by simpa using hnot⟩

theorem lookup_eq_none_iff {r : Registry α} {name : String} :
    r.lookup name = none ↔ ∀ a, (name, a) ∉ r.entries := by
  simp [lookup, Entries.find?_eq_none_iff]

theorem default?_eq_some_iff {r : Registry α} {a : α} :
    r.default? = some a ↔ ∃ name later, r.entries = (name, a) :: later := by
  cases h : r.entries with
  | nil => simp [default?, h]
  | cons entry rest =>
    obtain ⟨name, b⟩ := entry
    simp [default?, h]

theorem default?_eq_none_iff {r : Registry α} : r.default? = none ↔ r.entries = [] := by
  simp [default?]

end Registry

/-- Definitions in the order in which they were made, each name at most once. -/
structure Catalog (α : Type) where
  entries : List (String × α) := []

namespace Catalog

def find? (c : Catalog α) (name : String) : Option α := Entries.find? name c.entries

def has (c : Catalog α) (name : String) : Bool := (c.find? name).isSome

def define (c : Catalog α) (name : String) (a : α) : Catalog α :=
  if c.has name then c else ⟨c.entries ++ [(name, a)]⟩

def defined (c : Catalog α) (name : String) (a : α) : α := (c.find? name).getD a

def names (c : Catalog α) : List String := c.entries.map Prod.fst

def toList (c : Catalog α) : List α := c.entries.map Prod.snd

def size (c : Catalog α) : Nat := c.entries.length

theorem find?_define (c : Catalog α) (name k : String) (a : α) :
    (c.define name a).find? k = if k = name then some ((c.find? name).getD a) else c.find? k := by
  have happend : ∀ entries : List (String × α), Entries.find? k (entries ++ [(name, a)]) =
      (Entries.find? k entries).or (if k = name then some a else none) :=
    fun entries => Entries.find?_append k entries [(name, a)]
  by_cases hk : k = name
  · subst hk
    cases h : Entries.find? k c.entries <;> simp [define, has, find?, h, happend]
  · cases h : Entries.find? name c.entries <;> simp [define, has, find?, h, happend, hk]

theorem find?_define_self (c : Catalog α) (name : String) (a : α) :
    (c.define name a).find? name = some (c.defined name a) := by
  rw [find?_define, if_pos rfl, defined]

theorem has_eq_true_iff {c : Catalog α} {name : String} : c.has name = true ↔ name ∈ c.names :=
  Entries.isSome_find?_iff

theorem names_define (c : Catalog α) (name : String) (a : α) :
    (c.define name a).names = if c.has name then c.names else c.names ++ [name] := by
  rw [define]
  split
  · rfl
  · exact List.map_append

end Catalog

end QueryLayer

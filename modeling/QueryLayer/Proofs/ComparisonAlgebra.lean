import QueryLayer.Predicate
import QueryLayer.Proofs.LooseOrder

/-! # The algebra of the built-in comparisons

Equality and order of two values are computed apart, and the built-in comparisons are read off
them. Both agree on what is equal among values that have an order, so the comparisons are related
as those of a total order there, and as complements of each other everywhere.
-/

set_option autoImplicit false

namespace QueryLayer

theorem Number.isSome_compare?_iff {x y : Number} :
    (x.compare? y).isSome = true ↔ x.toBinary64.isNaN = false ∧ y.toBinary64.isNaN = false := by
  have hdoubles : ∀ u v : Binary64,
      (u.compare? v).isSome = true ↔ u.isNaN = false ∧ v.isNaN = false := by
    intro u v
    cases hu : u.isNaN <;> cases hv : v.isNaN <;> simp [Binary64.compare?, hu, hv]
  cases x with
  | whole m =>
    cases y with
    | whole n => exact iff_of_true rfl ⟨Binary64.isNaN_ofInt m, Binary64.isNaN_ofInt n⟩
    | float v => exact hdoubles _ _
  | float u =>
    rw [Number.compare?_of_float (.inl rfl)]
    exact hdoubles _ _

namespace Value

def SameSort (a b : Value) : Prop :=
  (a.isNumeric = true ∧ b.isNumeric = true) ∨ (a.kind = .text ∧ b.kind = .text) ∨
    (a.kind = .bool ∧ b.kind = .bool)

def Comparable (a b : Value) : Prop := SameSort a b ∧ a.isNaN = false ∧ b.isNaN = false

theorem isNaN_of_number? {a : Value} {m : Number} (ha : a.number? = some m) :
    a.isNaN = m.toBinary64.isNaN := by
  cases a with
  | int n =>
    cases ha
    exact (Binary64.isNaN_ofInt _).symm
  | uint n =>
    cases ha
    exact (Binary64.isNaN_ofInt _).symm
  | float x =>
    cases ha
    rfl
  | _ => cases ha

theorem sameSort_of_number {a : Value} {m : Number} (ha : a.number? = some m) (b : Value) :
    SameSort a b ↔ b.isNumeric = true := by
  cases a <;> simp_all [SameSort, isNumeric, number?, kind]

theorem isSome_looseCompare?_of_number {a : Value} {m : Number} (ha : a.number? = some m)
    (b : Value) : (looseCompare? a b).isSome = true ↔ Comparable a b := by
  rw [looseCompare?_of_number ha, Comparable, sameSort_of_number ha]
  cases hb : b.number? with
  | none => simp [isNumeric, hb]
  | some n =>
    rw [Option.bind_some, Number.isSome_compare?_iff, isNaN_of_number? ha, isNaN_of_number? hb]
    simp [isNumeric, hb]

theorem isSome_looseCompare?_iff {a b : Value} :
    (looseCompare? a b).isSome = true ↔ Comparable a b := by
  cases a with
  | int n => exact isSome_looseCompare?_of_number rfl b
  | uint n => exact isSome_looseCompare?_of_number rfl b
  | float x => exact isSome_looseCompare?_of_number rfl b
  | _ => cases b <;> simp [looseCompare?, number?, Comparable, SameSort, isNumeric, kind, isNaN]

theorem looseCompare?_eq_eq_of_number {a : Value} {m : Number} (ha : a.number? = some m)
    (b : Value) : looseCompare? a b = some .eq ↔ SameSort a b ∧ looseEq a b = true := by
  rw [looseCompare?_of_number ha, sameSort_of_number ha]
  cases hb : b.number? with
  | none => simp [isNumeric, hb]
  | some n =>
    rw [looseEq_of_numbers ha hb]
    simp [isNumeric, hb]

/-- The order calls equal what loose equality does, among values that can have an order. -/
theorem looseCompare?_eq_eq_iff {a b : Value} :
    looseCompare? a b = some .eq ↔ SameSort a b ∧ looseEq a b = true := by
  cases a with
  | int n => exact looseCompare?_eq_eq_of_number rfl b
  | uint n => exact looseCompare?_eq_eq_of_number rfl b
  | float x => exact looseCompare?_eq_eq_of_number rfl b
  | text s =>
    rw [looseEq_eq_same (.inl rfl) (.inl rfl)]
    cases b <;> simp [looseCompare?, number?, SameSort, isNumeric, kind, same]
  | bool p =>
    rw [looseEq_eq_same (.inl rfl) (.inl rfl)]
    cases b <;> simp [looseCompare?, number?, SameSort, isNumeric, kind, same]
  | _ => cases b <;> simp [looseCompare?, number?, SameSort, isNumeric, kind]

end Value

/-- `p` and `q` cut the records into two disjoint parts that together are the whole. -/
def Splits {ρ : Type} (records : List ρ) (p q : ρ → Bool) : Prop :=
  (records.filter p).Disjoint (records.filter q) ∧
    (records.filter p ++ records.filter q).Perm records

theorem splits_of_complement {ρ : Type} (records : List ρ) {p q : ρ → Bool}
    (h : ∀ r, q r = !p r) : Splits records p q := by
  obtain rfl : q = fun r => !p r := funext h
  refine ⟨fun r hp hq => ?_, List.filter_append_perm p records⟩
  have hnot := (List.mem_filter.mp hq).2
  rw [(List.mem_filter.mp hp).2] at hnot
  cases hnot

/-- Ten comparisons that belong together; `within` is the one whose name is `in`. -/
structure Comparisons where
  eq : Predicate
  neq : Predicate
  contains : Predicate
  within : Predicate
  excludes : Predicate
  nin : Predicate
  gte : Predicate
  gt : Predicate
  lte : Predicate
  lt : Predicate

namespace Comparisons

def read? (find : String → Option Predicate) : Option Comparisons := do
  return {
    eq := ← find "eq"
    neq := ← find "neq"
    contains := ← find "contains"
    within := ← find "in"
    excludes := ← find "excludes"
    nin := ← find "nin"
    gte := ← find "gte"
    gt := ← find "gt"
    lte := ← find "lte"
    lt := ← find "lt" }

structure Lawful (c : Comparisons) : Prop where
  neq_eq_not : ∀ a b, c.neq a b = !c.eq a b
  within_eq : ∀ a b, c.within a b = c.contains a b
  nin_eq : ∀ a b, c.nin a b = c.excludes a b
  excludes_eq_not : ∀ a b, c.excludes a b = !c.contains a b
  gt_eq : ∀ a b, c.gt a b = c.lt b a
  gte_eq : ∀ a b, c.gte a b = c.lte b a
  gte_iff : ∀ a b, c.gte a b = true ↔ c.gt a b = true ∨ (c.eq a b = true ∧ a.SameSort b)
  trichotomy : ∀ a b, a.Comparable b → [c.lt a b, c.eq a b, c.gt a b].count true = 1
  unordered : ∀ a b, ¬ a.Comparable b →
    c.gte a b = false ∧ c.gt a b = false ∧ c.lte a b = false ∧ c.lt a b = false
  equality_splits : ∀ {ρ : Type} (records : List ρ) (value : ρ → Value) (expected : Value),
    Splits records (fun r => c.eq (value r) expected) fun r => c.neq (value r) expected
  membership_splits : ∀ {ρ : Type} (records : List ρ) (value : ρ → Value) (expected : Value),
    Splits records (fun r => c.within (value r) expected) fun r => c.nin (value r) expected

def builtin : Comparisons where
  eq := Predicate.eq
  neq := Predicate.neq
  contains := Predicate.within
  within := Predicate.within
  excludes := Predicate.without
  nin := Predicate.without
  gte := Predicate.gte
  gt := Predicate.gt
  lte := Predicate.lte
  lt := Predicate.lt

theorem lawful_builtin : builtin.Lawful where
  neq_eq_not a b := rfl
  within_eq a b := rfl
  nin_eq a b := rfl
  excludes_eq_not a b := rfl
  gt_eq a b := by
    simp only [builtin, Predicate.gt, Predicate.lt, Value.looseCompare?_swap a b]
    cases Value.looseCompare? a b with
    | none => rfl
    | some o => cases o <;> rfl
  gte_eq a b := by
    simp only [builtin, Predicate.gte, Predicate.lte, Value.looseCompare?_swap a b]
    cases Value.looseCompare? a b with
    | none => rfl
    | some o => cases o <;> rfl
  gte_iff a b := by
    have heq := Value.looseCompare?_eq_eq_iff (a := a) (b := b)
    simp only [builtin, Predicate.gte, Predicate.gt, Predicate.eq, and_comm, ← heq]
    cases Value.looseCompare? a b with
    | none => simp
    | some o => cases o <;> simp
  trichotomy a b h := by
    have heq := Value.looseCompare?_eq_eq_iff (a := a) (b := b)
    obtain ⟨o, ho⟩ := Option.isSome_iff_exists.mp (Value.isSome_looseCompare?_iff.mpr h)
    have heq' : Value.looseEq a b = (o == .eq) := by
      rw [ho] at heq
      rw [Bool.eq_iff_iff]
      simpa [h.1] using heq.symm
    simp only [builtin, Predicate.lt, Predicate.eq, Predicate.gt, ho, heq']
    cases o <;> rfl
  unordered a b h := by
    have hnone : Value.looseCompare? a b = none := by
      rw [← Value.isSome_looseCompare?_iff] at h
      simpa using h
    simp [builtin, Predicate.gte, Predicate.gt, Predicate.lte, Predicate.lt, hnone]
  equality_splits records value expected := splits_of_complement records fun _ => rfl
  membership_splits records value expected := splits_of_complement records fun _ => rfl

theorem read?_of_comparisons {find : String → Option Predicate}
    (h : ∀ entry ∈ Predicate.comparisons, find entry.1 = some entry.2) :
    read? find = some builtin := by
  simp only [Predicate.comparisons, List.forall_mem_cons] at h
  obtain ⟨heq, hneq, hcontains, hin, hexcludes, hnin, hgte, hgt, hlte, hlt, -⟩ := h
  simp only [read?, heq, hneq, hcontains, hin, hexcludes, hnin, hgte, hgt, hlte, hlt]
  rfl

end Comparisons

namespace Predicates

variable {engine : Pattern.Engine}

theorem names_builtin (engine : Pattern.Engine) : (builtin engine).names =
    Predicate.operators ++ ("present" :: Predicate.operators).map (qualified "attr") ++
      ("present" :: Predicate.operators).map (qualified "param") := by
  rw [Registry.names, entries_builtin, List.map_append, List.map_append]
  rfl

theorem lookup_builtin {entry : String × Predicate} (h : entry ∈ (builtin engine).entries) :
    (builtin engine).lookup entry.1 = some entry.2 := by
  have hnodup : (builtin engine).names.Nodup := by
    rw [names_builtin]
    decide
  rw [Registry.lookup, Entries.find?_reverse hnodup]
  exact Entries.find?_of_mem hnodup h

theorem lookup_registerAll {ps : Predicates} {named : List (String × Predicate)} {name : String}
    (h : name ∉ Entries.keys named) : (ps.registerAll named).lookup name = ps.lookup name := by
  have hnone : Entries.find? name named.reverse = none := by
    rw [Entries.find?_eq_none_iff]
    intro p hp
    exact h (List.mem_map_of_mem (List.mem_reverse.mp hp))
  rw [Registry.lookup, entries_registerAll, List.reverse_append, Entries.find?_append, hnone]
  rfl

theorem lookup_of_mem_builtin {more : List (String × Predicate)}
    (hmore : (builtin engine).names.Disjoint (Entries.keys more)) {entry : String × Predicate}
    (h : entry ∈ (builtin engine).entries) :
    ((builtin engine).registerAll more).lookup entry.1 = some entry.2 := by
  rw [lookup_registerAll (hmore (List.mem_map_of_mem h)), lookup_builtin h]

theorem read?_lookupIn {more : List (String × Predicate)}
    (hmore : (builtin engine).names.Disjoint (Entries.keys more)) {ns : String}
    (hns : namespaced engine ns ⊆ (builtin engine).entries) :
    Comparisons.read? (((builtin engine).registerAll more).lookupIn ns) = some .builtin := by
  refine Comparisons.read?_of_comparisons fun entry hentry => ?_
  have hmem : (qualified ns entry.1, entry.2) ∈ namespaced engine ns :=
    List.mem_map.mpr ⟨entry, List.mem_cons_of_mem _ (List.mem_append_left _ hentry), rfl⟩
  exact lookup_of_mem_builtin hmore (hns hmem)

/-- Whatever is registered under other names, the same lawful comparisons stand under the plain
names, for attributes and for parameters. -/
theorem comparisons_lawful (engine : Pattern.Engine) (more : List (String × Predicate))
    (hmore : (builtin engine).names.Disjoint (Entries.keys more)) :
    let ps := (builtin engine).registerAll more
    ∃ c : Comparisons, c.Lawful ∧
      Comparisons.read? ps.lookup = some c ∧
      Comparisons.read? (ps.lookupIn "attr") = some c ∧
      Comparisons.read? (ps.lookupIn "param") = some c := by
  intro ps
  refine ⟨.builtin, Comparisons.lawful_builtin, ?_, read?_lookupIn hmore ?_,
    read?_lookupIn hmore ?_⟩
  · refine Comparisons.read?_of_comparisons fun entry hentry => lookup_of_mem_builtin hmore ?_
    rw [entries_builtin]
    exact List.mem_append_left _ (List.mem_append_left _ (List.mem_append_left _ hentry))
  · rw [entries_builtin]
    exact fun entry hentry => List.mem_append_left _ (List.mem_append_right _ hentry)
  · rw [entries_builtin]
    exact fun entry hentry => List.mem_append_right _ hentry

theorem comparisons_lawful_beside_adult :
    let adult : Predicate := fun actual _ => Predicate.gte actual (.int 18)
    let more := [("adult", adult), ("attr.adult", adult)]
    let ps := builtin .words
    ps.names.Disjoint (Entries.keys more) ∧
      ∃ c : Comparisons, Comparisons.read? ((ps.registerAll more).lookupIn "attr") = some c ∧
        [c.lt (.int 5) (.uint 5), c.eq (.int 5) (.uint 5), c.gt (.int 5) (.uint 5)].count true =
          1 := by
  intro adult more ps
  have hmore : ps.names.Disjoint (Entries.keys more) := by
    have hnone : ∀ name ∈ Entries.keys more, name ∉ ps.names := by decide
    exact fun name hbuiltin hname => hnone name hname hbuiltin
  obtain ⟨c, hlawful, -, hattr, -⟩ := comparisons_lawful .words more hmore
  refine ⟨hmore, c, hattr, hlawful.trichotomy _ _ ⟨?_, rfl, rfl⟩⟩
  exact .inl ⟨rfl, rfl⟩

end Predicates

end QueryLayer

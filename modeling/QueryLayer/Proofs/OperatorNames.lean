import QueryLayer.Criteria
import QueryLayer.Proofs.RegistryHistory

/-! # The predicate behind a written operator

A constraint keeps the operator and not the word that it was written with. Of two words for one
operator only the proper one is ever looked up, so what is registered under the other does not
reach constraints, and it is not missed there either.
-/

set_option autoImplicit false

namespace QueryLayer

namespace Operator

/-! Operators that were given by name are told apart by their names. -/

theorem ofName_name (written : String) : ofName (ofName written).name = ofName written := by
  fun_cases ofName written
  case case12 => simp_all [name, ofName]
  all_goals rfl

theorem ofName_eq_iff {s t : String} :
    ofName s = ofName t ↔ (ofName s).name = (ofName t).name := by
  refine ⟨congrArg name, fun h => ?_⟩
  rw [← ofName_name s, h, ofName_name]

theorem ofName_mem_map_iff {written : String} {declared : List String} :
    ofName written ∈ declared.map ofName ↔
      ∃ s ∈ declared, (ofName s).name = (ofName written).name := by
  simp only [List.mem_map, ofName_eq_iff]

/-- The name that an operator goes by, whichever of its names it was written with. -/
def properName : String → String
  | "contains" => "in"
  | "excludes" => "nin"
  | other => other

theorem name_ofName (written : String) : (ofName written).name = properName written := by
  fun_cases ofName written
  case case12 => simp_all [name, properName]
  all_goals rfl

theorem properName_eq_self_iff {written : String} :
    properName written = written ↔ written ≠ "contains" ∧ written ≠ "excludes" := by
  fun_cases properName written
  case case3 hcontains hexcludes => exact iff_of_true rfl ⟨hcontains, hexcludes⟩
  all_goals decide

/-- Besides itself, a word stands for no other, but for the two words each way for membership. -/
theorem properName_eq_iff {s t : String} :
    properName s = properName t ↔ s = t ∨
      (s ∈ ["in", "contains"] ∧ t ∈ ["in", "contains"]) ∨
      (s ∈ ["nin", "excludes"] ∧ t ∈ ["nin", "excludes"]) := by
  fun_cases properName s <;> fun_cases properName t <;> grind

end Operator

theorem Predicates.lookup_eq_lookup_iff {ps : Predicates} {name other : String} :
    ps.lookup name = ps.lookup other ↔ ∀ actual operand,
      (ps.lookup name).map (fun p => p actual operand) =
        (ps.lookup other).map fun p => p actual operand := by
  constructor
  · intro h actual operand
    rw [h]
  · intro h
    cases hname : ps.lookup name with
    | none =>
      cases hother : ps.lookup other with
      | none => rfl
      | some q =>
        rw [hname, hother] at h
        cases h .null .null
    | some p =>
      cases hother : ps.lookup other with
      | none =>
        rw [hname, hother] at h
        cases h .null .null
      | some q =>
        rw [hname, hother] at h
        exact congrArg some (funext₂ fun actual operand => Option.some.inj (h actual operand))

namespace Constraint

theorem test_eq (left : PathRef) (written : String) (operand : Value) (ps : Predicates)
    (actual : Value) :
    (⟨left, .ofName written, operand⟩ : Constraint).test ps actual =
      (ps.lookup (Operator.properName written)).map fun p => p actual operand := by
  rw [test, Operator.name_ofName]

/-- A constraint asks the predicate that was registered last under the proper name of its operator.
That is the predicate under the written name only if both names stand for the same one. -/
theorem test_asks_properName (ps : Predicates) (left : PathRef) (written : String) :
    let asked := Operator.properName written
    let test := fun operand => (⟨left, .ofName written, operand⟩ : Constraint).test ps
    (∀ operand actual, test operand actual = none ↔ ∀ p, (asked, p) ∉ ps.entries) ∧
    (∀ operand actual answer, test operand actual = some answer ↔
      ∃ p, Registry.LastUnder ps.entries asked p ∧ p actual operand = answer) ∧
    (asked = written ↔ written ≠ "contains" ∧ written ≠ "excludes") ∧
    ((∀ actual operand, test operand actual =
        (ps.lookup written).map fun p => p actual operand) ↔
      ps.lookup asked = ps.lookup written) := by
  intro asked test
  have htest : ∀ operand actual, test operand actual =
      (ps.lookup asked).map fun p => p actual operand :=
    fun operand actual => test_eq left written operand ps actual
  refine ⟨fun operand actual => ?_, fun operand actual answer => ?_,
    Operator.properName_eq_self_iff, ?_⟩
  · rw [htest, Option.map_eq_none_iff, Registry.lookup_eq_none_iff]
  · rw [htest, Option.map_eq_some_iff]
    exact exists_congr fun p => and_congr_left fun _ => Registry.lookup_eq_some_iff
  · simp only [htest]
    exact Predicates.lookup_eq_lookup_iff.symm

/-- What is registered as `contains` is passed over for what is registered as `in`, and if there is
nothing, the operator is unknown. -/
theorem test_contains_passes_over :
    let never : Predicate := fun _ _ => false
    let renewed := (Predicates.builtin .words).register "contains" never
    let alone : Predicates := Registry.register {} "contains" never
    let c : Constraint :=
      ⟨⟨"memory", "post", "status", false⟩, .ofName "contains", .list [.text "draft"]⟩
    (renewed.lookup "contains" = some never ∧ c.test renewed (.text "draft") = some true) ∧
      alone.lookup "contains" = some never ∧ c.test alone (.text "draft") = none := by
  intro never renewed alone c
  exact ⟨⟨rfl, rfl⟩, rfl, rfl⟩

end Constraint

end QueryLayer

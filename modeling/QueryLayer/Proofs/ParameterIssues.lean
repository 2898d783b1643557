import QueryLayer.Proofs.OperatorNames
import QueryLayer.Proofs.QueryCheck

/-! # What a parameter reports

Which operators a parameter allows is decided on operators, and which predicate checks an operand on
names. For operators that were written as words both come to the same: a constraint is refused if
none of the declared words stands for the name that its own word stands for.
-/

set_option autoImplicit false

namespace QueryLayer

namespace Param

def allowing (p : Param) (declared : List String) : Param :=
  { p with operators := declared.map .ofName }

/-- A parameter reports the operator if no declared word goes by its name, and then, once for each
check, that the predicate of the check is unknown or refuses the operand. -/
theorem issues_of_written (p : Param) (declared : List String) (ps : Predicates) (left : PathRef)
    (written : String) (operand : Value) :
    let name := fun word => (Operator.ofName word).name
    (∀ s, Operator.ofName (name s) = .ofName s) ∧
    (∀ s t, Operator.ofName s = .ofName t ↔ name s = name t) ∧
    (∀ s t, name s = name t ↔ s = t ∨
      (s ∈ ["in", "contains"] ∧ t ∈ ["in", "contains"]) ∨
      (s ∈ ["nin", "excludes"] ∧ t ∈ ["nin", "excludes"])) ∧
    (p.allowing declared).issues ps ⟨left, .ofName written, operand⟩ =
      (if declared ≠ [] ∧ ∀ s ∈ declared, name s ≠ name written then
        ["Invalid operator " ++ name written] else []) ++
      p.checks.filterMap fun check =>
        match ps.lookup ("param." ++ check.predicate) with
        | some predicate =>
          if predicate operand check.argument then none
          else some ("Invalid constraint: " ++ left.path)
        | none => some ("Invalid constraint: " ++ left.path) := by
  intro name
  refine ⟨Operator.ofName_name, fun s t => Operator.ofName_eq_iff, fun s t => ?_, ?_⟩
  · simp only [name, Operator.name_ofName]
    exact Operator.properName_eq_iff
  · have hnone : declared.map Operator.ofName ≠ [] ↔ declared ≠ [] := by
      rw [ne_eq, List.map_eq_nil_iff]
    have hnew : Operator.ofName written ∉ declared.map Operator.ofName ↔
        ∀ s ∈ declared, name s ≠ name written := by
      rw [Operator.ofName_mem_map_iff]
      push Not
      rfl
    rw [issues_eq_objections, objections]
    simp only [allowing, hnone, hnew]
    rfl

/-- The other word for membership is allowed; a check that nobody registered fails. -/
example : (allowing { name := "tags", checks := [⟨"odd", .null⟩] } ["contains", "eq"]).issues
    (.builtin .words) ⟨⟨"memory", "post", "tags", false⟩, .ofName "in", .int 1⟩ =
      ["Invalid constraint: post.tags"] := by
  decide

end Param

end QueryLayer

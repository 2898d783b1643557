import QueryLayer.Criteria

/-! # Parameters

What an adapter declares about an attribute that it can be queried by: the operators it allows and
the checks that an operand must pass.
-/

set_option autoImplicit false

namespace QueryLayer

structure Param where
  name : String
  typeName : String := "string"
  /-- The allowed operators; if none is declared, all are. -/
  operators : List Operator := []
  checks : List Check := []
  aliases : List String := []

namespace Param

def answersTo (p : Param) (name : String) : Bool := p.name == name || p.aliases.contains name

def allows (p : Param) (operator : Operator) : Bool :=
  p.operators.isEmpty || p.operators.contains operator

/-- One message if the operator is not allowed, then one for each check that the operand fails. -/
def issues (p : Param) (ps : Predicates) (c : Constraint) : List String :=
  (if p.allows c.operator then [] else ["Invalid operator " ++ c.operator.name]) ++
    (p.checks.filter fun check => !check.passes ps "param" c.right).map
      fun _ => "Invalid constraint: " ++ c.left.path

end Param

end QueryLayer

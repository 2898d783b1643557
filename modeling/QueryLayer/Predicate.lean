import QueryLayer.Pattern
import QueryLayer.Registry
import QueryLayer.Value.Compare

/-! # Predicates

Named comparisons of an actual value with an expected one. The built-in ones are registered under
their plain names and again for attributes and for parameters, where `present` joins them. One of
them looks for patterns, of the language that an engine reads.
-/

set_option autoImplicit false

namespace QueryLayer

abbrev Predicate := Value → Value → Bool

abbrev Predicates := Registry Predicate

namespace Predicate

def eq : Predicate := Value.looseEq

def neq : Predicate := fun actual expected => !Value.looseEq actual expected

/-- Membership: the actual value is in the expected one. -/
def within : Predicate := fun actual expected => Value.includes expected actual

def without : Predicate := fun actual expected => !Value.includes expected actual

def gte : Predicate := fun actual expected => (Value.looseCompare? actual expected).any (·.isGE)

def gt : Predicate := fun actual expected => (Value.looseCompare? actual expected).any (·.isGT)

def lte : Predicate := fun actual expected => (Value.looseCompare? actual expected).any (·.isLE)

def lt : Predicate := fun actual expected => (Value.looseCompare? actual expected).any (·.isLT)

/-- A text in which a pattern occurs, if `read` tells what a written pattern tests. -/
def matchingBy (read : String → Option Pattern.Test) : Predicate := fun actual expected =>
  match actual.text?, expected.text? with
  | some text, some source => (read source).any fun test => test text
  | _, _ => false

def matching (engine : Pattern.Engine) : Predicate := matchingBy engine.read

def present : Predicate := fun actual _ => !actual.isNull

def comparisons : List (String × Predicate) :=
  [("eq", eq), ("neq", neq), ("contains", within), ("in", within), ("excludes", without),
    ("nin", without), ("gte", gte), ("gt", gt), ("lte", lte), ("lt", lt)]

def builtins (engine : Pattern.Engine) : List (String × Predicate) :=
  comparisons ++ [("match", matching engine)]

def operators : List String := comparisons.map Prod.fst ++ ["match"]

end Predicate

namespace Predicates

def qualified (ns name : String) : String := ns ++ "." ++ name

def registerIn (ps : Predicates) (ns name : String) (p : Predicate) : Predicates :=
  ps.register (qualified ns name) p

def lookupIn (ps : Predicates) (ns name : String) : Option Predicate :=
  ps.lookup (qualified ns name)

def registerAll (ps : Predicates) (named : List (String × Predicate)) : Predicates :=
  named.foldl (fun ps entry => ps.register entry.1 entry.2) ps

def namespaced (engine : Pattern.Engine) (ns : String) : List (String × Predicate) :=
  (("present", Predicate.present) :: Predicate.builtins engine).map fun entry =>
    (qualified ns entry.1, entry.2)

def builtin (engine : Pattern.Engine) : Predicates :=
  registerAll {}
    (Predicate.builtins engine ++ namespaced engine "attr" ++ namespaced engine "param")

theorem entries_registerAll (ps : Predicates) (named : List (String × Predicate)) :
    (ps.registerAll named).entries = ps.entries ++ named := by
  induction named generalizing ps with
  | nil => exact (List.append_nil _).symm
  | cons entry rest ih =>
    rw [registerAll, List.foldl_cons]
    refine (ih _).trans ?_
    simp [Registry.register]

theorem entries_builtin (engine : Pattern.Engine) : (builtin engine).entries =
    Predicate.builtins engine ++ namespaced engine "attr" ++ namespaced engine "param" := by
  rw [builtin, entries_registerAll]
  rfl

end Predicates

structure Check where
  predicate : String
  argument : Value

/-- Whether `actual` passes a check of a namespace; an unknown predicate passes nothing. -/
def Check.passes (ps : Predicates) (ns : String) (actual : Value) (check : Check) : Bool :=
  (ps.lookupIn ns check.predicate).any fun p => p actual check.argument

end QueryLayer

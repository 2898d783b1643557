import QueryLayer.Json
import QueryLayer.Path
import QueryLayer.Predicate

/-! # Criteria

A query is, for an adapter, a list of criteria in the order in which they were added. Where an
adapter needs one action or one limit, the last one counts.
-/

set_option autoImplicit false

namespace QueryLayer

inductive Operator where
  | eq
  | neq
  | gte
  | gt
  | lte
  | lt
  | within
  | without
  | matching
  | custom (name : String)
  deriving DecidableEq

namespace Operator

def name : Operator → String
  | eq => "eq"
  | neq => "neq"
  | gte => "gte"
  | gt => "gt"
  | lte => "lte"
  | lt => "lt"
  | within => "in"
  | without => "nin"
  | matching => "match"
  | custom name => name

/-- The operator that a name stands for; membership has two names each way. -/
def ofName : String → Operator
  | "eq" => eq
  | "neq" => neq
  | "gte" => gte
  | "gt" => gt
  | "lte" => lte
  | "lt" => lt
  | "in" => within
  | "contains" => within
  | "nin" => without
  | "excludes" => without
  | "match" => matching
  | other => custom other

def isCustom : Operator → Bool
  | custom _ => true
  | _ => false

end Operator

structure Constraint where
  left : PathRef
  operator : Operator
  right : Value

def Constraint.test (c : Constraint) (ps : Predicates) (actual : Value) : Option Bool :=
  (ps.lookup c.operator.name).map fun p => p actual c.right

inductive Direction where
  | incoming
  | outgoing
  deriving DecidableEq

def Direction.label : Direction → String
  | .incoming => "incoming"
  | .outgoing => "outgoing"

inductive SortOrder where
  | ascending
  | descending
  deriving DecidableEq

def SortOrder.sign : SortOrder → Int
  | .ascending => 1
  | .descending => -1

inductive ActionKind where
  | find
  | remove
  | pipe
  | stream
  | count
  | existence
  | create
  | update
  | custom (label : String)
  deriving DecidableEq

namespace ActionKind

def label : ActionKind → String
  | find => "find"
  | remove => "remove"
  | pipe => "pipe"
  | stream => "stream"
  | count => "count"
  | existence => "exists"
  | create => "create"
  | update => "update"
  | custom label => label

def ofLabel : String → ActionKind
  | "find" => find
  | "remove" => remove
  | "pipe" => pipe
  | "stream" => stream
  | "count" => count
  | "exists" => existence
  | "create" => create
  | "update" => update
  | other => custom other

def isCustom : ActionKind → Bool
  | custom _ => true
  | _ => false

end ActionKind

/-- An action; its data, if it has any, is a list of records. -/
structure Action where
  kind : ActionKind
  data : Option (List Value)

/-- The action on `data`, where a single record counts as a list of one. -/
def Action.on (kind : ActionKind) (data : Option Value) : Action := ⟨kind, data.map Value.toList⟩

inductive Criterion where
  | start (model : ModelRef)
  | select (ref : PathRef)
  | relation (ref : PathRef) (direction : Direction)
  | constraint (c : Constraint)
  | order (ref : PathRef) (sort : SortOrder)
  | action (a : Action)
  | limit (n : Nat)
  | aliased (name : String)
  | returns (name : String)

namespace Criterion

def label : Criterion → String
  | start _ => "start"
  | select _ => "select"
  | relation _ _ => "relation"
  | constraint _ => "constraint"
  | order _ _ => "order"
  | action _ => "action"
  | limit _ => "limit"
  | aliased _ => "as"
  | returns _ => "return"

def start? : Criterion → Option ModelRef
  | start model => some model
  | _ => none

def constraint? : Criterion → Option Constraint
  | constraint c => some c
  | _ => none

def action? : Criterion → Option Action
  | action a => some a
  | _ => none

def limit? : Criterion → Option Nat
  | limit n => some n
  | _ => none

end Criterion

/-! ## Equality by value -/

instance : BEq Constraint where
  beq c d := c.left == d.left && c.operator == d.operator && c.right.same d.right

instance : BEq Action where
  beq a b := a.kind == b.kind && a.data == b.data

def Criterion.same : Criterion → Criterion → Bool
  | start m, start n => m == n
  | select p, select q => p == q
  | relation p d, relation q e => p == q && d == e
  | constraint c, constraint d => c == d
  | order p d, order q e => p == q && d == e
  | action a, action b => a == b
  | limit m, limit n => m == n
  | aliased s, aliased t => s == t
  | returns s, returns t => s == t
  | _, _ => false

instance : BEq Criterion := ⟨Criterion.same⟩

/-! ## Lists of criteria -/

abbrev Criteria := List Criterion

namespace Criteria

def labels (cs : Criteria) : List String := cs.map Criterion.label

def constraints (cs : Criteria) : List Constraint := cs.filterMap Criterion.constraint?

/-- The action that counts: the last one. -/
def action? (cs : Criteria) : Option Action := (cs.filterMap Criterion.action?).getLast?

def limit? (cs : Criteria) : Option Nat := (cs.filterMap Criterion.limit?).getLast?

/-- The model that the criteria start from: the first one. -/
def start? (cs : Criteria) : Option ModelRef := (cs.filterMap Criterion.start?).head?

end Criteria

/-! ## Serialization -/

def PathRef.fields (ref : PathRef) : List (String × Json) :=
  [("adapter", .str ref.adapter), ("model", .str ref.model), ("attr", .str ref.attr),
    ("namespace", .str ref.scope), ("path", .str ref.path)]

def PathRef.toJson (ref : PathRef) : Json := .ofFields ref.fields

/-- An adapter that was not written out is left out. -/
def ModelRef.toJson (ref : ModelRef) : Json :=
  .ofFields ((ref.adapter.toList.map fun adapter => ("adapter", .str adapter)) ++
    [("model", .str ref.model), ("namespace", .str ref.scope)])

/-- The operand carries its kind, which its plain form does not show. -/
def Constraint.toJson (c : Constraint) : Json :=
  .ofFields [("left", c.left.toJson), ("operator", .str c.operator.name),
    ("right", .ofFields [("value", c.right.toJson), ("type", .str c.right.kind.label)])]

def Action.toJson (a : Action) : Json :=
  .ofFields (("type", .str a.kind.label) ::
    a.data.toList.map fun records => ("data", .arr (records.map Value.toJson)))

def Criterion.payload : Criterion → Json
  | start model => model.toJson
  | select ref => ref.toJson
  | relation ref direction => .ofFields (("direction", .str direction.label) :: ref.fields)
  | constraint c => c.toJson
  | order ref sort => .ofFields (("direction", .int sort.sign) :: ref.fields)
  | action a => a.toJson
  | limit n => .int n
  | aliased name => .str name
  | returns name => .str name

def Criterion.toJson (c : Criterion) : Json := .arr [.str c.label, c.payload]

def Criteria.toJson (cs : Criteria) : Json := .arr (cs.map Criterion.toJson)

end QueryLayer

import QueryLayer.Criteria
import QueryLayer.Pipeline
import QueryLayer.Plugins

/-! # Queries

A query is built step by step. The scope is the model of bare attributes, set by `start` or else by
the first `select`; the active attribute is the one that the next comparison is about. A step fails
if its reference cannot be resolved, or if it compares without an active attribute; a chain of
steps fails at the first that does.
-/

set_option autoImplicit false

namespace QueryLayer

/-- The adapter that a query asks for: one of that name when it is carried out, or a given one. -/
inductive AdapterRef (α : Type) where
  | named (name : String)
  | given (adapter : α)

structure Query (P : Plugins) where
  name : Option String := none
  criteria : Criteria := []
  active : Option String := none
  scope : Option String := none
  adapters : List (AdapterRef P.Adapter) := []
  messages : List String := []
  resolver : Resolver := {}
  rules : List P.QueryRule := []
  observer : Option P.Observer := none

inductive QueryError where
  | path (e : PathError)
  | noActiveAttribute (operator : String)
  deriving DecidableEq

namespace QueryError

def message : QueryError → String
  | path e => e.message
  | noActiveAttribute operator =>
    "'" ++ operator ++ "' needs an active attribute; call where_attr first"

def origin : QueryError → Origin
  | path e => Failure.origin e
  | noActiveAttribute _ => .query

instance : Failure QueryError where
  message := message
  failureClass _ := .invalid
  origin := origin

end QueryError

instance {P : Plugins} : HasMessages (Query P) where
  messages := Query.messages
  setMessages messages q := { q with messages := messages }

namespace Query

variable {P : Plugins}

/-- A copy without active attribute and messages; the scope stays. -/
def fork (q : Query P) : Query P := { q with active := none, messages := [] }

def size (q : Query P) : Nat := q.criteria.length

def push (q : Query P) (c : Criterion) : Query P := { q with criteria := q.criteria ++ [c] }

def resolve (q : Query P) (key : String) : Except QueryError PathRef :=
  (q.resolver.resolve key q.scope).mapError .path

/-! ## Steps -/

def via (q : Query P) (adapter : AdapterRef P.Adapter) : Query P :=
  { q with adapters := q.adapters ++ [adapter] }

def start (q : Query P) (key : String) : Except QueryError (Query P) := do
  let model ← (q.resolver.resolveModel key).mapError .path
  return { q with scope := some model.scope }.push (.start model)

/-- Select an attribute; its scope becomes the query's if that has none. -/
def select (q : Query P) (key : String) : Except QueryError (Query P) := do
  let ref ← q.resolve key
  return { q with scope := q.scope.or (some ref.scope) }.push (.select ref)

def whereAttr (q : Query P) (key : String) : Query P := { q with active := some key }

def constrain (q : Query P) (key : String) (operator : Operator) (value : Value) :
    Except QueryError (Query P) := do
  let left ← q.resolve key
  return q.push (.constraint ⟨left, operator, value⟩)

def compare (q : Query P) (operator : Operator) (value : Value) : Except QueryError (Query P) :=
  match q.active with
  | none => .error (.noActiveAttribute operator.name)
  | some key => q.constrain key operator value

def eq (q : Query P) (value : Value) : Except QueryError (Query P) := q.compare .eq value

def neq (q : Query P) (value : Value) : Except QueryError (Query P) := q.compare .neq value

def gte (q : Query P) (value : Value) : Except QueryError (Query P) := q.compare .gte value

def gt (q : Query P) (value : Value) : Except QueryError (Query P) := q.compare .gt value

def lte (q : Query P) (value : Value) : Except QueryError (Query P) := q.compare .lte value

def lt (q : Query P) (value : Value) : Except QueryError (Query P) := q.compare .lt value

def nin (q : Query P) (value : Value) : Except QueryError (Query P) := q.compare .without value

def matching (q : Query P) (pattern : Value) : Except QueryError (Query P) :=
  q.compare .matching pattern

def contains (q : Query P) (value : Value) : Except QueryError (Query P) := q.compare .within value

def relate (q : Query P) (direction : Direction) (key : String) :
    Except QueryError (Query P) := do
  let ref ← q.resolve key
  return q.push (.relation ref direction)

def incoming (q : Query P) (key : String) : Except QueryError (Query P) := q.relate .incoming key

def outgoing (q : Query P) (key : String) : Except QueryError (Query P) := q.relate .outgoing key

def order (q : Query P) (sort : SortOrder) (key : String) : Except QueryError (Query P) := do
  let ref ← q.resolve key
  return q.push (.order ref sort)

def ascending (q : Query P) (key : String) : Except QueryError (Query P) := q.order .ascending key

def descending (q : Query P) (key : String) : Except QueryError (Query P) :=
  q.order .descending key

def aliased (q : Query P) (name : String) : Query P := q.push (.aliased name)

def returns (q : Query P) (name : String) : Query P := q.push (.returns name)

def limit (q : Query P) (n : Nat) : Query P := q.push (.limit n)

def action (q : Query P) (kind : ActionKind) (data : Option Value) : Query P :=
  q.push (.action (.on kind data))

/-- Drop the criteria and nothing else. -/
def reset (q : Query P) : Query P := { q with criteria := [] }

def observe (q : Query P) (observer : P.Observer) : Query P := { q with observer := some observer }

def rule (q : Query P) (r : P.QueryRule) : Query P := { q with rules := q.rules ++ [r] }

end Query

inductive Step (P : Plugins) where
  | via (adapter : AdapterRef P.Adapter)
  | start (key : String)
  | select (key : String)
  | whereAttr (key : String)
  | compare (operator : Operator) (value : Value)
  | constrain (key : String) (operator : Operator) (value : Value)
  | relate (direction : Direction) (key : String)
  | order (sort : SortOrder) (key : String)
  | aliased (name : String)
  | returns (name : String)
  | limit (n : Nat)
  | action (kind : ActionKind) (data : Option Value)
  | reset
  | observe (observer : P.Observer)
  | rule (r : P.QueryRule)

namespace Query

variable {P : Plugins}

def apply (q : Query P) : Step P → Except QueryError (Query P)
  | .via adapter => .ok (q.via adapter)
  | .start key => q.start key
  | .select key => q.select key
  | .whereAttr key => .ok (q.whereAttr key)
  | .compare operator value => q.compare operator value
  | .constrain key operator value => q.constrain key operator value
  | .relate direction key => q.relate direction key
  | .order sort key => q.order sort key
  | .aliased name => .ok (q.aliased name)
  | .returns name => .ok (q.returns name)
  | .limit n => .ok (q.limit n)
  | .action kind data => .ok (q.action kind data)
  | .reset => .ok q.reset
  | .observe observer => .ok (q.observe observer)
  | .rule r => .ok (q.rule r)

def build (q : Query P) (steps : List (Step P)) : Except QueryError (Query P) :=
  steps.foldlM apply q

theorem build_append (q : Query P) (xs ys : List (Step P)) :
    q.build (xs ++ ys) = (q.build xs).bind fun q => q.build ys := by
  simp only [build, List.foldlM_append]
  rfl

end Query

end QueryLayer

import QueryLayer.Context
import QueryLayer.Param

/-! # Carrying out queries

A query is checked and then handed to its adapter. The constraints are checked first, against the
parameters that the adapter declares, and then the query's own rules run. The adapter is called
only if nothing stopped the run and no message is left; what was called, and with what, is recorded
as events.
-/

set_option autoImplicit false

namespace QueryLayer

variable {P : Plugins}

structure Behavior (P : Plugins) where
  adapterName : P.Adapter → String
  param : P.Adapter → PathRef → Option Param
  dispatch : P.Adapter → Query P → P.Store → Except String (List Value) × P.Store
  queryRule : P.QueryRule → Validator (Query P)
  recordRule : P.RecordRule → Validator Record

inductive Event (P : Plugins) where
  | queryRule (rule : P.QueryRule) (messages : List String)
  | recordRule (rule : P.RecordRule) (messages : List String)
  | observed (observer : P.Observer) (criteria : Criteria)
  | dispatched (adapter : P.Adapter) (q : Query P)

inductive ExecError where
  | noAdapter
  | unknownAdapter (name : String)
  | query (e : QueryError)
  | pipeline (e : PipelineError)
  | rejected (messages : List String)
  | adapter (cause : String)
  deriving DecidableEq

namespace ExecError

def message : ExecError → String
  | noAdapter => "no adapter registered"
  | unknownAdapter name => "adapter '" ++ name ++ "' is not registered"
  | query e => e.message
  | pipeline e => e.message
  | rejected messages => "validation failed: " ++ "; ".intercalate messages
  | adapter cause => "adapter error: " ++ cause

def failureClass : ExecError → FailureClass
  | noAdapter => .unavailable
  | unknownAdapter _ => .unavailable
  | query e => Failure.failureClass e
  | pipeline e => Failure.failureClass e
  | rejected _ => .validation
  | adapter _ => .external

def origin : ExecError → Origin
  | noAdapter => .adapter
  | unknownAdapter _ => .adapter
  | query e => Failure.origin e
  | pipeline e => Failure.origin e
  | rejected _ => .query
  | adapter _ => .adapter

instance : Failure ExecError where
  message := message
  failureClass := failureClass
  origin := origin

end ExecError

structure Outcome (P : Plugins) (α : Type) where
  result : Except ExecError α
  store : P.Store
  events : List (Event P) := []

namespace Outcome

variable {α β : Type}

def map (f : α → β) (o : Outcome P α) : Outcome P β := { o with result := o.result.map f }

def after (events : List (Event P)) (o : Outcome P α) : Outcome P α :=
  { o with events := events ++ o.events }

end Outcome

structure Validated (P : Plugins) (τ : Type) where
  outcome : Except PipelineError Unit
  target : τ
  events : List (Event P) := []

namespace Validated

variable {τ : Type} [HasMessages τ]

/-- Whether the target is valid, unless its validation was stopped. -/
def answer (v : Validated P τ) : Except PipelineError Bool :=
  v.outcome.map fun _ => HasMessages.isValid v.target

theorem answer_eq_error_iff {v : Validated P τ} {e : PipelineError} :
    v.answer = .error e ↔ v.outcome = .error e := by
  rw [answer]
  cases v.outcome <;> simp [Except.map]

theorem answer_eq_ok_iff {v : Validated P τ} {valid : Bool} :
    v.answer = .ok valid ↔
      v.outcome = .ok () ∧ (valid = true ↔ HasMessages.messages v.target = []) := by
  rw [answer]
  cases v.outcome with
  | error e => exact iff_of_false nofun nofun
  | ok =>
    have hvalid : HasMessages.isValid v.target = true ↔ HasMessages.messages v.target = [] :=
      List.isEmpty_iff
    rw [← hvalid, Bool.coe_iff_coe]
    simp [Except.map, eq_comm]

end Validated

namespace Query

/-- The adapter that `q` is handed to: the first it asks for, else the one registered first. -/
def adapter (q : Query P) (adapters : Registry P.Adapter) : Except ExecError P.Adapter :=
  match q.adapters.head? with
  | some (.given a) => .ok a
  | some (.named name) =>
    match adapters.lookup name with
    | some a => .ok a
    | none => .error (.unknownAdapter name)
  | none =>
    match adapters.default? with
    | some a => .ok a
    | none => .error .noAdapter

theorem adapter_of_given {q : Query P} {a : P.Adapter} {later : List (AdapterRef P.Adapter)}
    (h : q.adapters = .given a :: later) (adapters : Registry P.Adapter) :
    q.adapter adapters = .ok a := by
  rw [adapter, h]
  rfl

theorem adapter_of_named {q : Query P} {name : String} {later : List (AdapterRef P.Adapter)}
    (h : q.adapters = .named name :: later) (adapters : Registry P.Adapter) :
    q.adapter adapters = (adapters.lookup name).elim (.error (.unknownAdapter name)) .ok := by
  rw [adapter, h]
  cases hlookup : adapters.lookup name <;> simp [hlookup]

theorem adapter_of_not_asked {q : Query P} (h : q.adapters = [])
    (adapters : Registry P.Adapter) :
    q.adapter adapters = adapters.default?.elim (.error .noAdapter) .ok := by
  rw [adapter, h]
  cases adapters.default? <;> rfl

def constraintCheck (ps : Predicates) (param : Param) (c : Constraint) : Validator (Query P) :=
  .check (HasMessages.reportAll (param.issues ps c))

/-- The checks of the constraints on attributes that the adapter declares as parameters. -/
def constraintChecks (b : Behavior P) (ps : Predicates) (a : P.Adapter) (criteria : Criteria) :
    List (Validator (Query P)) :=
  criteria.constraints.filterMap fun c => (b.param a c.left).map fun param =>
    constraintCheck ps param c

def check (b : Behavior P) (ps : Predicates) (a : P.Adapter) (q : Query P) :
    Validated P (Query P) :=
  let checks := constraintChecks b ps a q.criteria
  let run := Pipeline.run (checks ++ q.rules.map b.queryRule) { q with messages := [] }
  { outcome := run.outcome
    target := run.target
    events := (q.rules.zip (run.trail.drop checks.length)).map fun (rule, seen) =>
      .queryRule rule seen.messages }

def dispatch (b : Behavior P) (a : P.Adapter) (q : Query P) (store : P.Store) :
    Outcome P (List Value) :=
  let answer := b.dispatch a q store
  { result := answer.1.mapError .adapter
    store := answer.2
    events := (q.observer.toList.map fun o => .observed o q.criteria) ++ [.dispatched a q] }

/-- Check the query, out of scope, and dispatch it if it passes. -/
def exec (b : Behavior P) (ctx : Context P) (q : Query P) (store : P.Store) :
    Outcome P (List Value) :=
  let q := { q with active := none, scope := none }
  match q.adapter ctx.adapters with
  | .error e => ⟨.error e, store, []⟩
  | .ok a =>
    let checked := q.check b ctx.predicates a
    match checked.outcome with
    | .error e => ⟨.error (.pipeline e), store, checked.events⟩
    | .ok () =>
      if checked.target.messages.isEmpty then
        (checked.target.dispatch b a store).after checked.events
      else ⟨.error (.rejected checked.target.messages), store, checked.events⟩

/-- Check the query without dispatching it. The answer is whether it passes; the query that is
left has the messages. If no adapter can be selected, it is left as it was. -/
def validate (b : Behavior P) (ctx : Context P) (q : Query P) :
    Except ExecError Bool × Query P × List (Event P) :=
  match q.adapter ctx.adapters with
  | .error e => (.error e, q, [])
  | .ok a =>
    let checked := q.check b ctx.predicates a
    (checked.answer.mapError .pipeline, checked.target, checked.events)

/-! ## Terminals

Ways of ending a query, each of which adds its action to whatever the criteria hold already. -/

def perform (b : Behavior P) (ctx : Context P) (kind : ActionKind) (q : Query P)
    (store : P.Store) : Outcome P (List Value) :=
  (q.action kind none).exec b ctx store

def performOn (b : Behavior P) (ctx : Context P) (kind : ActionKind) (data : Value) (q : Query P)
    (store : P.Store) : Outcome P (List Value) :=
  (q.action kind (some data)).exec b ctx store

def find (b : Behavior P) (ctx : Context P) (q : Query P) (store : P.Store) :
    Outcome P (List Value) :=
  q.perform b ctx .find store

def create (b : Behavior P) (ctx : Context P) (data : Value) (q : Query P) (store : P.Store) :
    Outcome P (List Value) :=
  q.performOn b ctx .create data store

def update (b : Behavior P) (ctx : Context P) (data : Value) (q : Query P) (store : P.Store) :
    Outcome P (List Value) :=
  q.performOn b ctx .update data store

def all (b : Behavior P) (ctx : Context P) (q : Query P) (store : P.Store) :
    Outcome P (List Value) :=
  q.find b ctx store

def first (b : Behavior P) (ctx : Context P) (q : Query P) (store : P.Store) :
    Outcome P (Option Value) :=
  ((q.limit 1).find b ctx store).map List.head?

def last (b : Behavior P) (ctx : Context P) (q : Query P) (store : P.Store) :
    Outcome P (Option Value) :=
  ((q.limit 1).find b ctx store).map List.getLast?

end Query

inductive Terminal where
  | find
  | all
  | remove
  | pipe
  | stream
  | count
  | existence
  | create (data : Value)
  | update (data : Value)
  | first
  | last

inductive Answer where
  | records (records : List Value)
  | one (record : Option Value)

def Query.finish (b : Behavior P) (ctx : Context P) (q : Query P) (store : P.Store) :
    Terminal → Outcome P Answer
  | .find => (q.find b ctx store).map .records
  | .all => (q.all b ctx store).map .records
  | .remove => (q.perform b ctx .remove store).map .records
  | .pipe => (q.perform b ctx .pipe store).map .records
  | .stream => (q.perform b ctx .stream store).map .records
  | .count => (q.perform b ctx .count store).map .records
  | .existence => (q.perform b ctx .existence store).map .records
  | .create data => (q.create b ctx data store).map .records
  | .update data => (q.update b ctx data store).map .records
  | .first => (q.first b ctx store).map .one
  | .last => (q.last b ctx store).map .one

end QueryLayer

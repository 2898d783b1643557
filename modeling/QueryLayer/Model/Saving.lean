import QueryLayer.Execution

/-! # Validating and saving records

The checks of the attributes come first, in one validator, and then the model's rules. A record is
saved by a query that creates it; only a success makes it clean.
-/

set_option autoImplicit false

namespace QueryLayer.Model

variable {P : Plugins}

def issues (m : Model P.RecordRule) (ps : Predicates) (r : Record) : List String :=
  m.attrs.flatMap fun a => a.issues ps r

def attributeCheck (m : Model P.RecordRule) (ps : Predicates) : Validator Record :=
  .check fun r => HasMessages.reportAll (m.issues ps r) r

/-- The validator of the attributes, left out if none of them has a check. -/
def attributeChecks (m : Model P.RecordRule) (ps : Predicates) : List (Validator Record) :=
  if m.attrs.all fun a => a.checks.isEmpty then [] else [m.attributeCheck ps]

def validate (m : Model P.RecordRule) (b : Behavior P) (ps : Predicates) (r : Record) :
    Validated P Record :=
  let checks := m.attributeChecks ps
  let run := Pipeline.run (checks ++ m.rules.map b.recordRule) { r with messages := [] }
  { outcome := run.outcome
    target := run.target
    events := (m.rules.zip (run.trail.drop checks.length)).map fun (rule, seen) =>
      .recordRule rule seen.messages }

def query (m : Model P.RecordRule) (ctx : Context P) : Except QueryError (Query P) :=
  ctx.newQuery.start m.name

def find (m : Model P.RecordRule) (b : Behavior P) (ctx : Context P) (store : P.Store) :
    Outcome P (List Value) :=
  match m.query ctx with
  | .error e => ⟨.error (.query e), store, []⟩
  | .ok q => q.find b ctx store

/-- Validate the record and create it. The record that is left is clean after a success. -/
def save (m : Model P.RecordRule) (b : Behavior P) (ctx : Context P) (r : Record)
    (store : P.Store) : Outcome P (List Value) × Record :=
  let checked := m.validate b ctx.predicates r
  let r := checked.target
  match checked.answer with
  | .error e => (⟨.error (.pipeline e), store, checked.events⟩, r)
  | .ok false => (⟨.error (.rejected r.messages), store, checked.events⟩, r)
  | .ok true =>
    match m.query ctx with
    | .error e => (⟨.error (.query e), store, checked.events⟩, r)
    | .ok q =>
      let o := (q.create b ctx r.toValue store).after checked.events
      match o.result with
      | .error _ => (o, r)
      | .ok _ => (o, r.clearDirty)

end QueryLayer.Model

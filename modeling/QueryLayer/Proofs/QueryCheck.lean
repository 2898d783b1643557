import QueryLayer.Execution
import QueryLayer.Proofs.PipelineRuns

/-! # Checking a query

The checks of the constraints stop no run; together they report the complaints about the
constraints. Checking a query is therefore a run of its rules alone, on the query that has the
complaints as its messages, with places counted on from the number of checks. What `exec` and
`validate` do follows from how that run ends.
-/

set_option autoImplicit false

namespace QueryLayer

variable {P : Plugins}

/-! ## Complaints -/

/-- What a parameter has against a constraint: that the operator is none of the declared ones,
then each check whose predicate is unknown or refuses the operand. -/
def Param.objections (p : Param) (ps : Predicates) (c : Constraint) : List String :=
  (if p.operators ≠ [] ∧ c.operator ∉ p.operators then ["Invalid operator " ++ c.operator.name]
    else []) ++
  p.checks.filterMap fun check =>
    match ps.lookup ("param." ++ check.predicate) with
    | some predicate =>
      if predicate c.right check.argument then none
      else some ("Invalid constraint: " ++ c.left.path)
    | none => some ("Invalid constraint: " ++ c.left.path)

/-- One message for each check of a namespace that fails is one for each whose predicate is unknown
or refuses the value; `head` is what the namespace puts in front of names. -/
theorem Check.map_failing (ps : Predicates) {ns head : String} (hhead : ns ++ "." = head)
    (actual : Value) (message : String) (checks : List Check) :
    ((checks.filter fun check => !check.passes ps ns actual).map fun _ => message) =
      checks.filterMap fun check =>
        match ps.lookup (head ++ check.predicate) with
        | some predicate => if predicate actual check.argument then none else some message
        | none => some message := by
  subst hhead
  induction checks with
  | nil => rfl
  | cons check rest ih =>
    have hname : Predicates.qualified ns check.predicate = ns ++ "." ++ check.predicate := rfl
    rw [List.filterMap_cons, ← ih, List.filter_cons, Check.passes, Predicates.lookupIn, hname]
    cases ps.lookup (ns ++ "." ++ check.predicate) with
    | none => rfl
    | some predicate => cases hp : predicate actual check.argument <;> simp [hp]

theorem Param.issues_eq_objections (p : Param) (ps : Predicates) (c : Constraint) :
    p.issues ps c = p.objections ps c := by
  have hoperator : (if p.allows c.operator then [] else ["Invalid operator " ++ c.operator.name]) =
      if p.operators ≠ [] ∧ c.operator ∉ p.operators then
        ["Invalid operator " ++ c.operator.name] else [] := by
    by_cases hnone : p.operators = []
    · simp [allows, hnone]
    · by_cases hmem : c.operator ∈ p.operators <;> simp [allows, hnone, hmem]
  have hhead : "param" ++ "." = "param." := rfl
  rw [issues, objections, hoperator, Check.map_failing ps hhead]

namespace Criteria

/-- The objections of the declared parameters to the constraints, in the order of the criteria. -/
def complaints (declared : PathRef → Option Param) (ps : Predicates) (cs : Criteria) :
    List String :=
  cs.constraints.flatMap fun c =>
    match declared c.left with
    | some param => param.objections ps c
    | none => []

def declaredCount (declared : PathRef → Option Param) (cs : Criteria) : Nat :=
  (cs.constraints.filter fun c => (declared c.left).isSome).length

end Criteria

namespace Query

open Pipeline

def withComplaints (b : Behavior P) (ps : Predicates) (a : P.Adapter) (q : Query P) : Query P :=
  { q with messages := q.criteria.complaints (b.param a) ps }

def ruleCalls (b : Behavior P) (rules : List P.QueryRule) (q : Query P) : List (Event P) :=
  (rules.zip (found (rules.map b.queryRule) q)).map fun (rule, seen) =>
    .queryRule rule seen.messages

theorem length_constraintChecks (b : Behavior P) (ps : Predicates) (a : P.Adapter)
    (cs : Criteria) :
    (constraintChecks b ps a cs).length = cs.declaredCount (b.param a) := by
  rw [constraintChecks, Criteria.declaredCount]
  induction cs.constraints with
  | nil => rfl
  | cons c rest ih => cases h : b.param a c.left <;> simp [h, ih]

theorem completes_constraintChecks (b : Behavior P) (ps : Predicates) (a : P.Adapter)
    (cs : Criteria) (q : Query P) : Completes (constraintChecks b ps a cs) q := by
  rw [constraintChecks]
  induction cs.constraints generalizing q with
  | nil => trivial
  | cons c rest ih =>
    rw [List.filterMap_cons]
    cases b.param a c.left with
    | none => exact ih q
    | some param => exact ⟨rfl, ih _⟩

theorem effects_constraintChecks (b : Behavior P) (ps : Predicates) (a : P.Adapter)
    (cs : Criteria) (q : Query P) :
    effects (constraintChecks b ps a cs) q =
      { q with messages := q.messages ++ cs.complaints (b.param a) ps } := by
  rw [constraintChecks, Criteria.complaints]
  induction cs.constraints generalizing q with
  | nil => simp
  | cons c rest ih =>
    rw [List.filterMap_cons, List.flatMap_cons]
    cases b.param a c.left with
    | none => exact ih q
    | some param =>
      have hcheck : (constraintCheck ps param c : Validator (Query P)).effect q =
          { q with messages := q.messages ++ param.objections ps c } := by
        rw [← Param.issues_eq_objections]
        rfl
      rw [Option.map_some, effects_cons, hcheck, ih, List.append_assoc]

/-- Checking a query is a run of its rules, from the complaints on. -/
theorem check_eq (b : Behavior P) (ps : Predicates) (a : P.Adapter) (q : Query P) :
    q.check b ps a =
      let run := runFrom (q.criteria.declaredCount (b.param a)) (q.rules.map b.queryRule)
        (q.withComplaints b ps a)
      { outcome := run.outcome
        target := run.target
        events := (q.rules.zip run.trail).map fun (rule, seen) =>
          .queryRule rule seen.messages } := by
  have hcompletes := completes_constraintChecks b ps a q.criteria { q with messages := [] }
  have heffects : effects (constraintChecks b ps a q.criteria) { q with messages := [] } =
      q.withComplaints b ps a := by
    rw [effects_constraintChecks, List.nil_append]
    rfl
  rw [check, run_append_of_completes hcompletes, heffects]
  simp only [drop_found_append]
  rw [length_constraintChecks]

theorem check_of_completes {b : Behavior P} {ps : Predicates} {a : P.Adapter} {q : Query P}
    (h : Completes (q.rules.map b.queryRule) (q.withComplaints b ps a)) :
    q.check b ps a =
      ⟨.ok (), effects (q.rules.map b.queryRule) (q.withComplaints b ps a),
        ruleCalls b q.rules (q.withComplaints b ps a)⟩ := by
  rw [check_eq, runFrom_of_completes h]
  rfl

theorem check_of_stopsAt {b : Behavior P} {ps : Predicates} {a : P.Adapter} {q : Query P}
    {i : Nat} {stop : Nat → PipelineError}
    (h : StopsAt (q.rules.map b.queryRule) (q.withComplaints b ps a) i stop) :
    q.check b ps a =
      ⟨.error (stop (q.criteria.declaredCount (b.param a) + i)),
        effects ((q.rules.take (i + 1)).map b.queryRule) (q.withComplaints b ps a),
        ruleCalls b (q.rules.take (i + 1)) (q.withComplaints b ps a)⟩ := by
  rw [check_eq, runFrom_of_stopsAt h, ← List.map_take]
  simp only
  rw [zip_found_take, ruleCalls]

/-! ## Carrying out and validating -/

def unscoped (q : Query P) : Query P := { q with active := none, scope := none }

theorem exec_of_unselected {b : Behavior P} {ctx : Context P} {q : Query P} {e : ExecError}
    (hadapter : q.adapter ctx.adapters = .error e) (store : P.Store) :
    q.exec b ctx store = ⟨.error e, store, []⟩ := by
  have hadapter' : q.unscoped.adapter ctx.adapters = .error e := hadapter
  rw [unscoped] at hadapter'
  rw [exec]
  simp only [hadapter']

theorem exec_of_completes {b : Behavior P} {ctx : Context P} {q : Query P} {a : P.Adapter}
    (hadapter : q.adapter ctx.adapters = .ok a)
    (h : Completes (q.rules.map b.queryRule) (q.unscoped.withComplaints b ctx.predicates a))
    (store : P.Store) :
    q.exec b ctx store =
      let found := q.unscoped.withComplaints b ctx.predicates a
      let left := effects (q.rules.map b.queryRule) found
      if left.messages.isEmpty then (left.dispatch b a store).after (ruleCalls b q.rules found)
      else ⟨.error (.rejected left.messages), store, ruleCalls b q.rules found⟩ := by
  have hadapter' : q.unscoped.adapter ctx.adapters = .ok a := hadapter
  have hcheck := check_of_completes (q := q.unscoped) h
  rw [unscoped] at hadapter' hcheck
  rw [exec]
  simp only [hadapter', hcheck]
  rfl

theorem exec_of_stopsAt {b : Behavior P} {ctx : Context P} {q : Query P} {a : P.Adapter}
    {i : Nat} {stop : Nat → PipelineError} (hadapter : q.adapter ctx.adapters = .ok a)
    (h : StopsAt (q.rules.map b.queryRule) (q.unscoped.withComplaints b ctx.predicates a) i stop)
    (store : P.Store) :
    q.exec b ctx store =
      ⟨.error (.pipeline (stop (q.criteria.declaredCount (b.param a) + i))), store,
        ruleCalls b (q.rules.take (i + 1)) (q.unscoped.withComplaints b ctx.predicates a)⟩ := by
  have hadapter' : q.unscoped.adapter ctx.adapters = .ok a := hadapter
  have hcheck := check_of_stopsAt (q := q.unscoped) h
  rw [unscoped] at hadapter' hcheck
  rw [exec]
  simp only [hadapter', hcheck]
  rfl

theorem validate_of_completes {b : Behavior P} {ctx : Context P} {q : Query P} {a : P.Adapter}
    (hadapter : q.adapter ctx.adapters = .ok a)
    (h : Completes (q.rules.map b.queryRule) (q.withComplaints b ctx.predicates a)) :
    q.validate b ctx =
      let found := q.withComplaints b ctx.predicates a
      let left := effects (q.rules.map b.queryRule) found
      (.ok left.messages.isEmpty, left, ruleCalls b q.rules found) := by
  rw [validate, hadapter]
  simp only [check_of_completes h]
  rfl

theorem validate_of_stopsAt {b : Behavior P} {ctx : Context P} {q : Query P} {a : P.Adapter}
    {i : Nat} {stop : Nat → PipelineError} (hadapter : q.adapter ctx.adapters = .ok a)
    (h : StopsAt (q.rules.map b.queryRule) (q.withComplaints b ctx.predicates a) i stop) :
    q.validate b ctx =
      (.error (.pipeline (stop (q.criteria.declaredCount (b.param a) + i))),
        effects ((q.rules.take (i + 1)).map b.queryRule) (q.withComplaints b ctx.predicates a),
        ruleCalls b (q.rules.take (i + 1)) (q.withComplaints b ctx.predicates a)) := by
  rw [validate, hadapter]
  simp only [check_of_stopsAt h]
  rfl

end Query

end QueryLayer

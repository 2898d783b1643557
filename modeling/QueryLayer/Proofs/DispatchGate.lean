import QueryLayer.Proofs.QueryCheck

/-! # What stands between a query and its adapter

A query reaches the adapter if one can be selected, no validator stops the run and no message is
left; what it carried of messages and scope before plays no part in that. The complaints about the
constraints come before the rules, so a query with one is turned away unless a rule takes it back.
-/

set_option autoImplicit false

namespace QueryLayer

variable {P : Plugins}

def Event.queryRule? : Event P → Option P.QueryRule
  | .queryRule rule _ => some rule
  | _ => none

/-- A validator of queries that may read everything but writes nothing but messages. -/
def Validator.ChangesMessagesOnly (v : Validator (Query P)) : Prop :=
  ∀ q, ∃ messages, v.effect q = { q with messages := messages }

def Validator.KeepsMessages (v : Validator (Query P)) : Prop :=
  ∀ q, q.messages ⊆ (v.effect q).messages

/-! ## Rules on messages -/

inductive MessageRule where
  | report (message : String)
  | forget
  | halt

def MessageRule.validator {τ : Type} [HasMessages τ] : MessageRule → Validator τ
  | report message => .check (HasMessages.report message)
  | forget => .async fun t => (HasMessages.setMessages [] t, .ok ())
  | halt => .sync fun t => (t, .halt)

theorem MessageRule.changesMessagesOnly (rule : MessageRule) :
    (rule.validator : Validator (Query P)).ChangesMessagesOnly := by
  intro q
  cases rule with
  | report message => exact ⟨q.messages ++ [message], rfl⟩
  | forget => exact ⟨[], rfl⟩
  | halt => exact ⟨q.messages, rfl⟩

/-- One adapter, which declares one operator for ages; the store counts its calls. -/
@[reducible] def countingPlugins : Plugins := ⟨Unit, MessageRule, MessageRule, Unit, Nat⟩

def counting : Behavior countingPlugins where
  adapterName _ := "memory"
  param _ ref := if ref.attr = "age" then some { name := "age", operators := [.gte] } else none
  dispatch _ _ calls := (.ok [], calls + 1)
  queryRule := MessageRule.validator
  recordRule := MessageRule.validator

def countingContext : Context countingPlugins where
  config := {}
  adapters := Registry.register {} "memory" ()

def ageQuery (rules : List MessageRule) : Query countingPlugins where
  criteria := [.constraint ⟨⟨"memory", "user", "age", false⟩, .eq, .int 3⟩]
  active := some "age"
  scope := some "user"
  messages := ["stale"]
  rules := rules
  observer := some ()

namespace Query

open Pipeline

/-- The checks of the constraints and the rules complete and leave no message. -/
def Passes (b : Behavior P) (ps : Predicates) (a : P.Adapter) (q : Query P) : Prop :=
  let validators := constraintChecks b ps a q.criteria ++ q.rules.map b.queryRule
  Completes validators { q with messages := [] } ∧
    (effects validators { q with messages := [] }).messages = []

theorem passes_iff {b : Behavior P} {ps : Predicates} {a : P.Adapter} {q : Query P} :
    q.Passes b ps a ↔
      Completes (q.rules.map b.queryRule) (q.withComplaints b ps a) ∧
        (effects (q.rules.map b.queryRule) (q.withComplaints b ps a)).messages = [] := by
  have hchecks : effects (constraintChecks b ps a q.criteria) { q with messages := [] } =
      q.withComplaints b ps a := by
    rw [effects_constraintChecks, List.nil_append]
    rfl
  rw [Passes, completes_append, effects_append, hchecks]
  simp only [completes_constraintChecks, true_and]

theorem effects_of_changesMessagesOnly {vs : List (Validator (Query P))}
    (hvs : ∀ v ∈ vs, v.ChangesMessagesOnly) (q : Query P) :
    ∃ messages, effects vs q = { q with messages := messages } := by
  induction vs generalizing q with
  | nil => exact ⟨q.messages, rfl⟩
  | cons v rest ih =>
    obtain ⟨hv, hrest⟩ := List.forall_mem_cons.mp hvs
    obtain ⟨seen, hseen⟩ := hv q
    obtain ⟨left, hleft⟩ := ih hrest (v.effect q)
    refine ⟨left, ?_⟩
    rw [effects_cons, hleft, hseen]

theorem subset_messages_effects {vs : List (Validator (Query P))}
    (hvs : ∀ v ∈ vs, v.KeepsMessages) (q : Query P) :
    q.messages ⊆ (effects vs q).messages := by
  induction vs generalizing q with
  | nil => exact List.Subset.refl _
  | cons v rest ih =>
    obtain ⟨hv, hrest⟩ := List.forall_mem_cons.mp hvs
    exact List.Subset.trans (hv q) (ih hrest (v.effect q))

theorem map_queryRule?_ruleCalls (b : Behavior P) (rules : List P.QueryRule) (q : Query P) :
    (ruleCalls b rules q).map Event.queryRule? = rules.map some := by
  have hlength : rules.length = (found (rules.map b.queryRule) q).length := by
    rw [length_found, List.length_map]
  rw [ruleCalls, List.map_map]
  calc
    _ = ((rules.zip (found (rules.map b.queryRule) q)).map Prod.fst).map some := by
      rw [List.map_map]
      rfl
    _ = rules.map some := by rw [List.map_fst_zip (Nat.le_of_eq hlength)]

theorem exec_of_passes {b : Behavior P} {ctx : Context P} {q : Query P} {a : P.Adapter}
    (hadapter : q.adapter ctx.adapters = .ok a)
    (hrules : ∀ rule ∈ q.rules, (b.queryRule rule).ChangesMessagesOnly)
    (hpasses : q.unscoped.Passes b ctx.predicates a) (store : P.Store) :
    q.exec b ctx store =
      (Query.dispatch b a { q with active := none, scope := none, messages := [] } store).after
        (ruleCalls b q.rules (q.unscoped.withComplaints b ctx.predicates a)) := by
  obtain ⟨hcompletes, hmessages⟩ := passes_iff.mp hpasses
  obtain ⟨messages, hleft⟩ := effects_of_changesMessagesOnly
    (List.forall_mem_map.mpr hrules) (q.unscoped.withComplaints b ctx.predicates a)
  have hempty : messages = [] := by
    have h : (effects (q.unscoped.rules.map b.queryRule)
        (q.unscoped.withComplaints b ctx.predicates a)).messages = messages := by
      rw [show q.unscoped.rules = q.rules from rfl, hleft]
    rw [← h, hmessages]
  rw [exec_of_completes hadapter hcompletes]
  simp only [hleft, hempty]
  rfl

theorem exec_of_not_passes {b : Behavior P} {ctx : Context P} {q : Query P} {a : P.Adapter}
    (hadapter : q.adapter ctx.adapters = .ok a)
    (hpasses : ¬ q.unscoped.Passes b ctx.predicates a) (store : P.Store) :
    ∃ e called, called <+: q.rules ∧ q.exec b ctx store =
      ⟨.error e, store,
        ruleCalls b called (q.unscoped.withComplaints b ctx.predicates a)⟩ := by
  rcases completes_or_stopsAt (q.rules.map b.queryRule)
    (q.unscoped.withComplaints b ctx.predicates a) with hcompletes | ⟨i, stop, hstop⟩
  · have hmessages : (effects (q.rules.map b.queryRule)
        (q.unscoped.withComplaints b ctx.predicates a)).messages ≠ [] :=
      fun h => hpasses (passes_iff.mpr ⟨hcompletes, h⟩)
    refine ⟨.rejected (effects (q.rules.map b.queryRule)
      (q.unscoped.withComplaints b ctx.predicates a)).messages, q.rules, List.prefix_refl _, ?_⟩
    rw [exec_of_completes hadapter hcompletes]
    exact if_neg (by simpa using hmessages)
  · exact ⟨_, q.rules.take (i + 1), List.take_prefix _ _, exec_of_stopsAt hadapter hstop store⟩

/-- The gate before the adapter. -/
theorem exec_dispatches_iff_passes (b : Behavior P) (ctx : Context P) (q : Query P)
    (store : P.Store) (hrules : ∀ rule ∈ q.rules, (b.queryRule rule).ChangesMessagesOnly) :
    (∀ e, q.adapter ctx.adapters = .error e → q.exec b ctx store = ⟨.error e, store, []⟩) ∧
    (∀ a, q.adapter ctx.adapters = .ok a → q.unscoped.Passes b ctx.predicates a →
      let handed : Query P := { q with active := none, scope := none, messages := [] }
      ∃ calls : List (Event P), calls.map Event.queryRule? = q.rules.map some ∧
        q.exec b ctx store =
          { result := (b.dispatch a handed store).1.mapError .adapter
            store := (b.dispatch a handed store).2
            events := calls ++ (q.observer.toList.map fun o => .observed o q.criteria) ++
              [.dispatched a handed] }) ∧
    (∀ a, q.adapter ctx.adapters = .ok a → ¬ q.unscoped.Passes b ctx.predicates a →
      ∃ e calls called, called <+: q.rules ∧
        calls.map Event.queryRule? = called.map some ∧
        q.exec b ctx store = ⟨.error e, store, calls⟩) ∧
    ∀ messages, ({ q with messages := messages } : Query P).exec b ctx store =
      q.exec b ctx store := by
  refine ⟨fun e he => exec_of_unselected he store, ?_, ?_, fun messages => rfl⟩
  · intro a hadapter hpasses
    refine ⟨ruleCalls b q.rules (q.unscoped.withComplaints b ctx.predicates a),
      map_queryRule?_ruleCalls _ _ _, ?_⟩
    rw [exec_of_passes hadapter hrules hpasses, List.append_assoc]
    rfl
  · intro a hadapter hpasses
    obtain ⟨e, called, hcalled, hexec⟩ := exec_of_not_passes hadapter hpasses store
    exact ⟨e, _, called, hcalled, map_queryRule?_ruleCalls _ _ _, hexec⟩

/-- A complaint and a report that a later rule takes back do not keep the query from its adapter. -/
theorem exec_ageQuery_dispatches :
    (∀ rule ∈ [.report "tired", .forget], (counting.queryRule rule).ChangesMessagesOnly) ∧
    ∃ calls : List (Event countingPlugins),
      calls.map Event.queryRule? = [some (.report "tired"), some .forget] ∧
      (ageQuery [.report "tired", .forget]).exec counting countingContext 0 =
        ⟨.ok [], 1, calls ++ [.observed () (ageQuery []).criteria,
          .dispatched () { ageQuery [.report "tired", .forget] with
            active := none, scope := none, messages := [] }]⟩ := by
  have hrules : ∀ rule ∈ (ageQuery [.report "tired", .forget]).rules,
      (counting.queryRule rule).ChangesMessagesOnly :=
    fun rule _ => rule.changesMessagesOnly
  have hpasses : (ageQuery [.report "tired", .forget]).unscoped.Passes counting
      countingContext.predicates () := ⟨⟨rfl, rfl, rfl, trivial⟩, rfl⟩
  obtain ⟨calls, hcalls, hexec⟩ := (exec_dispatches_iff_passes counting countingContext
    (ageQuery [.report "tired", .forget]) 0 hrules).2.1 () rfl hpasses
  refine ⟨hrules, calls, hcalls, ?_⟩
  rw [hexec, List.append_assoc]
  rfl

/-! ## Complaints come first -/

theorem ruleCalls_cons (b : Behavior P) (rule : P.QueryRule) (rest : List P.QueryRule)
    (q : Query P) :
    ruleCalls b (rule :: rest) q =
      .queryRule rule q.messages :: ruleCalls b rest ((b.queryRule rule).effect q) := rfl

theorem head?_events_exec {b : Behavior P} {ctx : Context P} {q : Query P} {a : P.Adapter}
    (hadapter : q.adapter ctx.adapters = .ok a) {rule : P.QueryRule} {rest : List P.QueryRule}
    (hrules : q.rules = rule :: rest) (store : P.Store) :
    (q.exec b ctx store).events.head? =
      some (.queryRule rule (q.criteria.complaints (b.param a) ctx.predicates)) := by
  rcases completes_or_stopsAt (q.rules.map b.queryRule)
    (q.unscoped.withComplaints b ctx.predicates a) with hcompletes | ⟨i, stop, hstop⟩
  · rw [exec_of_completes hadapter hcompletes, hrules]
    simp only [ruleCalls_cons]
    split <;> rfl
  · rw [exec_of_stopsAt hadapter hstop, hrules, List.take_succ_cons, ruleCalls_cons]
    rfl

theorem head?_events_validate {b : Behavior P} {ctx : Context P} {q : Query P} {a : P.Adapter}
    (hadapter : q.adapter ctx.adapters = .ok a) {rule : P.QueryRule} {rest : List P.QueryRule}
    (hrules : q.rules = rule :: rest) :
    (q.validate b ctx).2.2.head? =
      some (.queryRule rule (q.criteria.complaints (b.param a) ctx.predicates)) := by
  rcases completes_or_stopsAt (q.rules.map b.queryRule)
    (q.withComplaints b ctx.predicates a) with hcompletes | ⟨i, stop, hstop⟩
  · rw [validate_of_completes hadapter hcompletes, hrules]
    rfl
  · rw [validate_of_stopsAt hadapter hstop, hrules, List.take_succ_cons, ruleCalls_cons]
    rfl

theorem eq_adapter_of_dispatch {b : Behavior P} {a : P.Adapter} {q : Query P} {store : P.Store}
    {e : ExecError} (h : (q.dispatch b a store).result = .error e) :
    ∃ cause, e = .adapter cause := by
  rw [dispatch] at h
  cases hanswer : (b.dispatch a q store).1 with
  | error cause =>
    rw [hanswer] at h
    exact ⟨cause, (Except.error.inj h).symm⟩
  | ok records =>
    rw [hanswer] at h
    cases h

theorem exec_stopped_iff {b : Behavior P} {ctx : Context P} {q : Query P} {a : P.Adapter}
    (hadapter : q.adapter ctx.adapters = .ok a) (store : P.Store) (e : PipelineError) :
    (q.exec b ctx store).result = .error (.pipeline e) ↔
      ∃ i stop, StopsAt (q.rules.map b.queryRule)
          (q.unscoped.withComplaints b ctx.predicates a) i stop ∧
        e = stop (q.criteria.declaredCount (b.param a) + i) ∧
        e.index = q.criteria.declaredCount (b.param a) + i := by
  constructor
  · intro h
    rcases completes_or_stopsAt (q.rules.map b.queryRule)
      (q.unscoped.withComplaints b ctx.predicates a) with hcompletes | ⟨i, stop, hstop⟩
    · rw [exec_of_completes hadapter hcompletes] at h
      simp only at h
      split at h
      · obtain ⟨cause, ⟨⟩⟩ := eq_adapter_of_dispatch h
      · cases h
    · rw [exec_of_stopsAt hadapter hstop] at h
      cases h
      exact ⟨i, stop, hstop, rfl, hstop.index _⟩
  · rintro ⟨i, stop, hstop, rfl, -⟩
    rw [exec_of_stopsAt hadapter hstop]

theorem validate_stopped_iff {b : Behavior P} {ctx : Context P} {q : Query P} {a : P.Adapter}
    (hadapter : q.adapter ctx.adapters = .ok a) (e : PipelineError) :
    (q.validate b ctx).1 = .error (.pipeline e) ↔
      ∃ i stop, StopsAt (q.rules.map b.queryRule) (q.withComplaints b ctx.predicates a) i stop ∧
        e = stop (q.criteria.declaredCount (b.param a) + i) ∧
        e.index = q.criteria.declaredCount (b.param a) + i := by
  constructor
  · intro h
    rcases completes_or_stopsAt (q.rules.map b.queryRule)
      (q.withComplaints b ctx.predicates a) with hcompletes | ⟨i, stop, hstop⟩
    · rw [validate_of_completes hadapter hcompletes] at h
      cases h
    · rw [validate_of_stopsAt hadapter hstop] at h
      cases h
      exact ⟨i, stop, hstop, rfl, hstop.index _⟩
  · rintro ⟨i, stop, hstop, rfl, -⟩
    rw [validate_of_stopsAt hadapter hstop]

theorem complaints_ne_nil {declared : PathRef → Option Param} {ps : Predicates} {cs : Criteria}
    {c : Constraint} {param : Param} (hc : c ∈ cs.constraints)
    (hparam : declared c.left = some param) (hissues : param.issues ps c ≠ []) :
    cs.complaints declared ps ≠ [] := by
  obtain ⟨issue, hissue⟩ := List.exists_mem_of_ne_nil _ hissues
  refine List.ne_nil_of_mem (a := issue) (List.mem_flatMap.mpr ⟨c, hc, ?_⟩)
  rw [hparam]
  rwa [Param.issues_eq_objections] at hissue

theorem not_passes_of_complaints {b : Behavior P} {ps : Predicates} {a : P.Adapter} {q : Query P}
    (hrules : ∀ rule ∈ q.rules, (b.queryRule rule).KeepsMessages)
    (hcomplaints : q.criteria.complaints (b.param a) ps ≠ []) : ¬ q.Passes b ps a := by
  intro hpasses
  obtain ⟨-, hmessages⟩ := passes_iff.mp hpasses
  have hsubset := subset_messages_effects (List.forall_mem_map.mpr hrules) (q.withComplaints b ps a)
  rw [hmessages] at hsubset
  exact hcomplaints (List.subset_nil.mp hsubset)

/-- What the first rule finds, where a stopped run is reported, and when nothing is dispatched. -/
theorem complaints_precede_rules (b : Behavior P) (ctx : Context P) (q : Query P)
    (store : P.Store) (a : P.Adapter) (hadapter : q.adapter ctx.adapters = .ok a) :
    let complaints := q.criteria.complaints (b.param a) ctx.predicates
    let checks := q.criteria.declaredCount (b.param a)
    (∀ rule rest, q.rules = rule :: rest →
      (q.exec b ctx store).events.head? = some (.queryRule rule complaints) ∧
        (q.validate b ctx).2.2.head? = some (.queryRule rule complaints)) ∧
    (∀ e, (q.exec b ctx store).result = .error (.pipeline e) ↔
      ∃ i stop,
        StopsAt (q.rules.map b.queryRule) { q.unscoped with messages := complaints } i stop ∧
        e = stop (checks + i) ∧ e.index = checks + i) ∧
    (∀ e, (q.validate b ctx).1 = .error (.pipeline e) ↔
      ∃ i stop, StopsAt (q.rules.map b.queryRule) { q with messages := complaints } i stop ∧
        e = stop (checks + i) ∧ e.index = checks + i) ∧
    ((∀ rule ∈ q.rules, (b.queryRule rule).KeepsMessages) →
      (∃ c ∈ q.criteria.constraints, ∃ param, b.param a c.left = some param ∧
        param.issues ctx.predicates c ≠ []) →
      (∀ other handed, .dispatched other handed ∉ (q.exec b ctx store).events) ∧
        (q.exec b ctx store).store = store) := by
  refine ⟨?_, exec_stopped_iff hadapter store, validate_stopped_iff hadapter, ?_⟩
  · intro rule rest hrules
    exact ⟨head?_events_exec hadapter hrules store, head?_events_validate hadapter hrules⟩
  · rintro hrules ⟨c, hc, param, hparam, hissues⟩
    have hpasses : ¬ q.unscoped.Passes b ctx.predicates a :=
      not_passes_of_complaints hrules (complaints_ne_nil hc hparam hissues)
    obtain ⟨e, called, -, hexec⟩ := exec_of_not_passes hadapter hpasses store
    rw [hexec]
    refine ⟨fun other handed hmem => ?_, rfl⟩
    -- every event of the run is the call of a rule
    have hcall : Event.queryRule? (.dispatched other handed) ∈ called.map some := by
      rw [← map_queryRule?_ruleCalls b called (q.unscoped.withComplaints b ctx.predicates a)]
      exact List.mem_map_of_mem hmem
    simp [Event.queryRule?] at hcall

/-- The place of a rule that stops the run is counted on from the one check. -/
theorem exec_ageQuery_stopped :
    (ageQuery [.report "tired", .halt]).adapter countingContext.adapters = .ok () ∧
    ((ageQuery [.report "tired", .halt]).exec counting countingContext 0).events.head? =
      some (.queryRule (.report "tired") ["Invalid operator eq"]) ∧
    ((ageQuery [.report "tired", .halt]).exec counting countingContext 0).result =
      .error (.pipeline (.halted 2)) := by
  have hadapter : (ageQuery [.report "tired", .halt]).adapter countingContext.adapters = .ok () :=
    rfl
  obtain ⟨hseen, hstopped, -⟩ :=
    complaints_precede_rules counting countingContext _ 0 () hadapter
  refine ⟨hadapter, (hseen _ _ rfl).1, (hstopped _).mpr ⟨1, .halted, ?_, rfl, rfl⟩⟩
  exact ⟨⟨rfl, trivial⟩, _, rfl, rfl⟩

end Query

end QueryLayer

import QueryLayer.Proofs.DispatchGate

/-! # Checking a query ahead

Validating a query runs the checks and the rules that carrying it out runs, but without leaving its
scope. Rules that look neither at the scope nor at the active attribute do the same in both, so the
answer of a validation tells how carrying the query out would go. What a validation leaves behind
is messages, and every later check begins without messages.
-/

set_option autoImplicit false

namespace QueryLayer

variable {P : Plugins}

def Validator.IgnoresScope (v : Validator (Query P)) : Prop :=
  ∀ (q : Query P) (active scope : Option String),
    v.stop? { q with active := active, scope := scope } = v.stop? q ∧
      (v.effect { q with active := active, scope := scope }).messages = (v.effect q).messages

theorem MessageRule.ignoresScope (rule : MessageRule) :
    (rule.validator : Validator (Query P)).IgnoresScope := by
  intro q active scope
  cases rule <;> exact ⟨rfl, rfl⟩

namespace Query

open Pipeline

/-- To leave the scope before such a validator runs is the same as to leave it afterwards. -/
theorem respects_unscoped {v : Validator (Query P)} (hmessages : v.ChangesMessagesOnly)
    (hscope : v.IgnoresScope) : v.Respects fun q q' => q' = q.unscoped := by
  rintro q _ rfl
  obtain ⟨hstop, hsame⟩ := hscope q none none
  obtain ⟨inScope, hin⟩ := hmessages q
  obtain ⟨outOfScope, hout⟩ := hmessages q.unscoped
  have heq : outOfScope = inScope := by
    rw [hin] at hsame
    exact (congrArg Query.messages hout).symm.trans hsame
  refine ⟨hstop, ?_⟩
  rw [hout, hin, heq]
  rfl

/-! ## Validating and carrying out, side by side -/

theorem adapter_ne_rejected {q : Query P} {adapters : Registry P.Adapter} (messages : List String) :
    q.adapter adapters ≠ .error (.rejected messages) := by
  intro h
  rw [adapter] at h
  split at h
  · cases h
  · split at h <;> cases h
  · split at h <;> cases h

theorem validate_of_unselected {ctx : Context P} {q : Query P} {e : ExecError}
    (hadapter : q.adapter ctx.adapters = .error e) (b : Behavior P) :
    q.validate b ctx = (.error e, q, []) := by
  rw [validate, hadapter]

theorem dispatched_not_mem_ruleCalls (b : Behavior P) (rules : List P.QueryRule) (q : Query P)
    (a : P.Adapter) (handed : Query P) : .dispatched a handed ∉ ruleCalls b rules q := by
  rw [ruleCalls, List.mem_map]
  rintro ⟨_, _, ⟨⟩⟩

/-- The four ways in which a query can be turned away or let through, seen from both sides. -/
theorem validate_exec_cases (b : Behavior P) (ctx : Context P) (q : Query P) (store : P.Store)
    (hrules : ∀ rule ∈ q.rules,
      (b.queryRule rule).ChangesMessagesOnly ∧ (b.queryRule rule).IgnoresScope) :
    (∃ e, q.adapter ctx.adapters = .error e ∧ q.validate b ctx = (.error e, q, []) ∧
      q.exec b ctx store = ⟨.error e, store, []⟩) ∨
    (∃ e left calls rules found, q.validate b ctx = (.error (.pipeline e), left, calls) ∧
      q.exec b ctx store = ⟨.error (.pipeline e), store, ruleCalls b rules found⟩) ∨
    (∃ left calls rules found, q.validate b ctx = (.ok false, left, calls) ∧
      q.exec b ctx store = ⟨.error (.rejected left.messages), store, ruleCalls b rules found⟩) ∨
    ∃ a left calls handed calls', q.validate b ctx = (.ok true, left, calls) ∧
      q.exec b ctx store = (Query.dispatch b a handed store).after calls' := by
  cases hadapter : q.adapter ctx.adapters with
  | error e =>
    exact .inl ⟨e, rfl, validate_of_unselected hadapter b, exec_of_unselected hadapter store⟩
  | ok a =>
    have hvs : ∀ v ∈ q.rules.map b.queryRule, v.Respects fun q q' => q' = q.unscoped :=
      List.forall_mem_map.mpr fun rule hrule =>
        respects_unscoped (hrules rule hrule).1 (hrules rule hrule).2
    have hfound : q.unscoped.withComplaints b ctx.predicates a =
        (q.withComplaints b ctx.predicates a).unscoped := rfl
    rcases completes_or_stopsAt (q.rules.map b.queryRule)
      (q.withComplaints b ctx.predicates a) with hcompletes | ⟨i, stop, hstop⟩
    · have hvalidate := validate_of_completes hadapter hcompletes
      have hexec := exec_of_completes hadapter
        ((completes_related hvs hfound).mpr hcompletes) store
      have heffects := effects_related hvs hfound
      simp only [heffects] at hvalidate hexec
      generalize effects (q.rules.map b.queryRule) (q.withComplaints b ctx.predicates a) = left
        at hvalidate hexec
      have hleft : left.unscoped.messages = left.messages := rfl
      simp only [hleft] at hexec
      cases hmessages : left.messages.isEmpty with
      | true =>
        simp only [hmessages] at hvalidate
        rw [if_pos hmessages] at hexec
        exact .inr (.inr (.inr ⟨_, _, _, _, _, hvalidate, hexec⟩))
      | false =>
        simp only [hmessages] at hvalidate
        rw [if_neg (by rw [Bool.not_eq_true]; exact hmessages)] at hexec
        exact .inr (.inr (.inl ⟨_, _, _, _, hvalidate, hexec⟩))
    · have hvalidate := validate_of_stopsAt hadapter hstop
      have hexec := exec_of_stopsAt hadapter ((stopsAt_related hvs hfound).mpr hstop) store
      exact .inr (.inl ⟨_, _, _, _, _, hvalidate, hexec⟩)

theorem validate_changes_messages {b : Behavior P} {q : Query P}
    (hrules : ∀ rule ∈ q.rules, (b.queryRule rule).ChangesMessagesOnly) (ctx : Context P) :
    ∃ messages, (q.validate b ctx).2.1 = { q with messages := messages } := by
  cases hadapter : q.adapter ctx.adapters with
  | error e =>
    rw [validate_of_unselected hadapter]
    exact ⟨q.messages, rfl⟩
  | ok a =>
    rcases completes_or_stopsAt (q.rules.map b.queryRule)
      (q.withComplaints b ctx.predicates a) with hcompletes | ⟨i, stop, hstop⟩
    · rw [validate_of_completes hadapter hcompletes]
      exact effects_of_changesMessagesOnly (List.forall_mem_map.mpr hrules) _
    · rw [validate_of_stopsAt hadapter hstop]
      exact effects_of_changesMessagesOnly
        (List.forall_mem_map.mpr fun rule hrule => hrules rule (List.mem_of_mem_take hrule)) _

/-- If an adapter can be selected, what messages a query has makes no difference to validating. -/
theorem validate_setMessages {q : Query P} {ctx : Context P} {a : P.Adapter}
    (hadapter : q.adapter ctx.adapters = .ok a) (b : Behavior P) (messages : List String) :
    ({ q with messages := messages } : Query P).validate b ctx = q.validate b ctx := by
  have hadapter' : ({ q with messages := messages } : Query P).adapter ctx.adapters = .ok a :=
    hadapter
  rw [validate, validate, hadapter, hadapter']
  rfl

section

variable {b : Behavior P} {q : Query P}
  (hrules : ∀ rule ∈ q.rules,
    (b.queryRule rule).ChangesMessagesOnly ∧ (b.queryRule rule).IgnoresScope)
  (ctx : Context P) (store : P.Store)

include hrules

theorem validate_eq_pipeline_iff (e : PipelineError) :
    (q.validate b ctx).1 = .error (.pipeline e) ↔
      (q.exec b ctx store).result = .error (.pipeline e) := by
  rcases validate_exec_cases b ctx q store hrules with
    ⟨_, _, hvalidate, hexec⟩ | ⟨_, _, _, _, _, hvalidate, hexec⟩ |
    ⟨_, _, _, _, hvalidate, hexec⟩ | ⟨_, _, _, _, _, hvalidate, hexec⟩ <;>
    rw [hvalidate, hexec]
  · simp
  · simp
  · simp
  · refine iff_of_false nofun fun h => ?_
    obtain ⟨cause, ⟨⟩⟩ := eq_adapter_of_dispatch h

theorem validate_eq_true_iff :
    (q.validate b ctx).1 = .ok true ↔
      ∃ a handed, .dispatched a handed ∈ (q.exec b ctx store).events := by
  rcases validate_exec_cases b ctx q store hrules with
    ⟨_, _, hvalidate, hexec⟩ | ⟨_, _, _, rules, found, hvalidate, hexec⟩ |
    ⟨_, _, rules, found, hvalidate, hexec⟩ | ⟨a, _, _, handed, _, hvalidate, hexec⟩ <;>
    rw [hvalidate, hexec]
  · simp
  · simp [dispatched_not_mem_ruleCalls]
  · simp [dispatched_not_mem_ruleCalls]
  · exact iff_of_true rfl ⟨a, handed, by simp [Outcome.after, dispatch]⟩

theorem validate_eq_false_iff (messages : List String) :
    ((q.validate b ctx).1 = .ok false ∧ (q.validate b ctx).2.1.messages = messages) ↔
      (q.exec b ctx store).result = .error (.rejected messages) := by
  rcases validate_exec_cases b ctx q store hrules with
    ⟨e, hadapter, hvalidate, hexec⟩ | ⟨_, _, _, _, _, hvalidate, hexec⟩ |
    ⟨_, _, _, _, hvalidate, hexec⟩ | ⟨_, _, _, _, _, hvalidate, hexec⟩ <;>
    rw [hvalidate, hexec]
  · refine iff_of_false nofun fun h => ?_
    rw [Except.error.inj h] at hadapter
    exact adapter_ne_rejected messages hadapter
  · simp
  · simp
  · refine iff_of_false nofun fun h => ?_
    obtain ⟨cause, ⟨⟩⟩ := eq_adapter_of_dispatch h

end

theorem validate_error {b : Behavior P} {ctx : Context P} {q : Query P} {e : ExecError}
    (h : (q.validate b ctx).1 = .error e) :
    q.adapter ctx.adapters = .error e ∨ ∃ stop, e = .pipeline stop := by
  cases hadapter : q.adapter ctx.adapters with
  | error e' =>
    rw [validate_of_unselected hadapter] at h
    cases h
    exact .inl rfl
  | ok a =>
    rw [validate, hadapter] at h
    simp only at h
    cases hanswer : (q.check b ctx.predicates a).answer with
    | error stop =>
      rw [hanswer] at h
      exact .inr ⟨stop, (Except.error.inj h).symm⟩
    | ok valid =>
      rw [hanswer] at h
      cases h

/-- What a validation tells about carrying the query out, and what it leaves behind. -/
theorem validate_agrees_with_exec (b : Behavior P) (ctx : Context P) (q : Query P)
    (store : P.Store)
    (hrules : ∀ rule ∈ q.rules,
      (b.queryRule rule).ChangesMessagesOnly ∧ (b.queryRule rule).IgnoresScope) :
    let answer := (q.validate b ctx).1
    let left := (q.validate b ctx).2.1
    let carriedOut := q.exec b ctx store
    (∀ e, q.adapter ctx.adapters = .error e →
      answer = .error e ∧ carriedOut.result = .error e ∧ left = q) ∧
    (∀ e, answer = .error (.pipeline e) ↔ carriedOut.result = .error (.pipeline e)) ∧
    (answer = .ok true ↔ ∃ a handed, .dispatched a handed ∈ carriedOut.events) ∧
    (∀ messages, answer = .ok false ∧ left.messages = messages ↔
      carriedOut.result = .error (.rejected messages)) ∧
    (∀ e, answer = .error e → q.adapter ctx.adapters = .error e ∨ ∃ stop, e = .pipeline stop) ∧
    left = { q with messages := left.messages } ∧
    left.validate b ctx = q.validate b ctx ∧
    ∀ other, left.exec b ctx other = q.exec b ctx other := by
  intro answer left carriedOut
  have hframe : left = { q with messages := left.messages } := by
    obtain ⟨messages, hleft⟩ : ∃ messages, left = { q with messages := messages } :=
      validate_changes_messages (fun rule hrule => (hrules rule hrule).1) ctx
    rw [hleft]
  refine ⟨fun e hadapter => ?_, validate_eq_pipeline_iff hrules ctx store,
    validate_eq_true_iff hrules ctx store, validate_eq_false_iff hrules ctx store,
    fun e => validate_error, hframe, ?_, fun other => ?_⟩
  · simp only [answer, left, carriedOut, validate_of_unselected hadapter,
      exec_of_unselected hadapter, and_self]
  · cases hadapter : q.adapter ctx.adapters with
    | error e =>
      have hleft : left = q := by simp only [left, validate_of_unselected hadapter]
      rw [hleft]
    | ok a => rw [hframe, validate_setMessages hadapter]
  · rw [hframe]
    rfl

/-- A complaint that is taken back and a report that is not: the query is turned away, now and
after it was validated. -/
theorem validate_ageQuery_rejects :
    let q := ageQuery [.forget, .report "tired"]
    let left := (q.validate counting countingContext).2.1
    (∀ rule ∈ q.rules, (counting.queryRule rule).ChangesMessagesOnly ∧
      (counting.queryRule rule).IgnoresScope) ∧
    (q.validate counting countingContext).1 = .ok false ∧
    (q.exec counting countingContext 0).result = .error (.rejected ["tired"]) ∧
    (left.exec counting countingContext 0).result = .error (.rejected ["tired"]) ∧
    left.scope = some "user" := by
  intro q left
  have hrules : ∀ rule ∈ q.rules, (counting.queryRule rule).ChangesMessagesOnly ∧
      (counting.queryRule rule).IgnoresScope :=
    fun rule _ => ⟨rule.changesMessagesOnly, rule.ignoresScope⟩
  have hanswer : (q.validate counting countingContext).1 = .ok false := rfl
  have hmessages : left.messages = ["tired"] := rfl
  obtain ⟨-, -, -, hrejected, -, hframe, -, hlater⟩ :=
    validate_agrees_with_exec counting countingContext q 0 hrules
  have hexec := (hrejected ["tired"]).mp ⟨hanswer, hmessages⟩
  refine ⟨hrules, hanswer, hexec, ?_, ?_⟩
  · rw [hlater 0]
    exact hexec
  · exact congrArg Query.scope hframe

end Query

end QueryLayer

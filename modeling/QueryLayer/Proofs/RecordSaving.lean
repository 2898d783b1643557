import QueryLayer.Model.Saving
import QueryLayer.Proofs.DispatchGate

/-! # Saving a record

A record is saved in stages: it is validated, its model's name is resolved, an adapter is selected
and the adapter creates it. A stage that fails ends the saving with its own error, and the record
stays as the validation left it. Only the last stage calls an adapter, once, and only its success
makes the record clean.
-/

set_option autoImplicit false

namespace QueryLayer

variable {P : Plugins}

def Event.dispatch? : Event P → Option (P.Adapter × Query P)
  | .dispatched a q => some (a, q)
  | _ => none

theorem Event.filterMap_dispatch?_eq_nil_iff {events : List (Event P)} :
    events.filterMap Event.dispatch? = [] ↔ ∀ a q, .dispatched a q ∉ events := by
  rw [List.filterMap_eq_nil_iff]
  constructor
  · intro h a q hmem
    cases h _ hmem
  · intro h event hmem
    cases event with
    | dispatched a q => exact absurd hmem (h a q)
    | _ => rfl

def Outcome.calls {α : Type} (o : Outcome P α) : List (P.Adapter × Query P) :=
  o.events.filterMap Event.dispatch?

def Validated.Passed (v : Validated P Record) : Prop :=
  v.outcome = .ok () ∧ v.target.messages = []

theorem Record.dirty_clearDirty (r : Record) : r.clearDirty.dirty = [] := by
  have hclean : ∀ entry ∈ r.clearDirty.fields, entry.2.dirty = false := by
    intro entry hentry
    obtain ⟨old, -, rfl⟩ := List.mem_map.mp hentry
    rfl
  rw [dirty, List.filter_eq_nil_iff.mpr, List.map_nil]
  intro entry hentry
  rw [hclean entry hentry]
  exact Bool.false_ne_true

namespace Model

/-- The query that creates a record, as an adapter is handed it. -/
def creation (ctx : Context P) (start : ModelRef) (r : Record) : Query P where
  criteria := [.start start, .action ⟨.create, some [r.toValue]⟩]
  resolver := ctx.resolver

/-! ## The query that creates a record -/

theorem query_of_error {m : Model P.RecordRule} {ctx : Context P} {e : PathError}
    (h : ctx.resolver.resolveModel m.name = .error e) : m.query ctx = .error (.path e) := by
  rw [query, Query.start, Context.newQuery, h]
  rfl

def started (ctx : Context P) (start : ModelRef) : Query P where
  criteria := [.start start]
  scope := some start.scope
  resolver := ctx.resolver

theorem query_of_ok {m : Model P.RecordRule} {ctx : Context P} {start : ModelRef}
    (h : ctx.resolver.resolveModel m.name = .ok start) :
    m.query ctx = .ok (started ctx start) := by
  rw [query, Query.start, Context.newQuery, h]
  rfl

theorem create_of_default_none {ctx : Context P} (h : ctx.adapters.default? = none)
    (b : Behavior P) (start : ModelRef) (r : Record) (store : P.Store) :
    (started ctx start).create b ctx r.toValue store = ⟨.error .noAdapter, store, []⟩ := by
  have hadapter := Query.adapter_of_not_asked
    (q := (started ctx start).action .create (some r.toValue)) rfl ctx.adapters
  rw [h] at hadapter
  exact Query.exec_of_unselected hadapter store

theorem create_of_default_some {ctx : Context P} {a : P.Adapter}
    (h : ctx.adapters.default? = some a) (b : Behavior P) (start : ModelRef) (r : Record)
    (store : P.Store) :
    (started ctx start).create b ctx r.toValue store =
      ⟨(b.dispatch a (creation ctx start r) store).1.mapError .adapter,
        (b.dispatch a (creation ctx start r) store).2, [.dispatched a (creation ctx start r)]⟩ := by
  have hadapter := Query.adapter_of_not_asked
    (q := (started ctx start).action .create (some r.toValue)) rfl ctx.adapters
  rw [h] at hadapter
  exact Query.exec_of_completes hadapter trivial store

/-! ## How a saving ends -/

/-- The outcomes of saving a record of a model of that name, by the stage that ends it: `checked`
is what validating the record gives. -/
inductive Ending (b : Behavior P) (ctx : Context P) (name : String) (checked : Validated P Record)
    (store : P.Store) : Outcome P (List Value) → Record → Prop
  | stopped {e : PipelineError} :
    checked.outcome = .error e →
    Ending b ctx name checked store ⟨.error (.pipeline e), store, checked.events⟩ checked.target
  | rejected :
    checked.outcome = .ok () → checked.target.messages ≠ [] →
    Ending b ctx name checked store
      ⟨.error (.rejected checked.target.messages), store, checked.events⟩ checked.target
  | unresolved {e : PathError} :
    checked.Passed → ctx.resolver.resolveModel name = .error e →
    Ending b ctx name checked store ⟨.error (.query (.path e)), store, checked.events⟩
      checked.target
  | unserved {start : ModelRef} :
    checked.Passed → ctx.resolver.resolveModel name = .ok start →
    ctx.adapters.default? = none →
    Ending b ctx name checked store ⟨.error .noAdapter, store, checked.events⟩ checked.target
  | refused {start : ModelRef} {a : P.Adapter} {cause : String} :
    checked.Passed → ctx.resolver.resolveModel name = .ok start →
    ctx.adapters.default? = some a →
    (b.dispatch a (creation ctx start checked.target) store).1 = .error cause →
    Ending b ctx name checked store
      ⟨.error (.adapter cause), (b.dispatch a (creation ctx start checked.target) store).2,
        checked.events ++ [.dispatched a (creation ctx start checked.target)]⟩ checked.target
  | created {start : ModelRef} {a : P.Adapter} {records : List Value} :
    checked.Passed → ctx.resolver.resolveModel name = .ok start →
    ctx.adapters.default? = some a →
    (b.dispatch a (creation ctx start checked.target) store).1 = .ok records →
    Ending b ctx name checked store
      ⟨.ok records, (b.dispatch a (creation ctx start checked.target) store).2,
        checked.events ++ [.dispatched a (creation ctx start checked.target)]⟩
      checked.target.clearDirty

theorem save_ending (m : Model P.RecordRule) (b : Behavior P) (ctx : Context P) (r : Record)
    (store : P.Store) :
    Ending b ctx m.name (m.validate b ctx.predicates r) store (m.save b ctx r store).1
      (m.save b ctx r store).2 := by
  rw [save]
  generalize m.validate b ctx.predicates r = checked
  simp only
  -- one stage after another, each with the failure that ends the saving there
  cases hanswer : checked.answer with
  | error e => exact .stopped (Validated.answer_eq_error_iff.mp hanswer)
  | ok valid =>
    obtain ⟨houtcome, hvalid⟩ := Validated.answer_eq_ok_iff.mp hanswer
    cases valid with
    | false => exact .rejected houtcome fun hempty => Bool.false_ne_true (hvalid.mpr hempty)
    | true =>
      have hpassed : checked.Passed := ⟨houtcome, hvalid.mp rfl⟩
      cases hstart : ctx.resolver.resolveModel m.name with
      | error e =>
        rw [query_of_error hstart]
        exact .unresolved hpassed hstart
      | ok start =>
        rw [query_of_ok hstart]
        cases hadapter : ctx.adapters.default? with
        | none =>
          simp only [create_of_default_none hadapter, Outcome.after, List.append_nil]
          exact .unserved hpassed hstart hadapter
        | some a =>
          simp only [create_of_default_some hadapter, Outcome.after]
          cases hanswer : (b.dispatch a (creation ctx start checked.target) store).1 with
          | error cause => exact .refused hpassed hstart hadapter hanswer
          | ok records => exact .created hpassed hstart hadapter hanswer

theorem dispatch?_validate (m : Model P.RecordRule) (b : Behavior P) (ps : Predicates)
    (r : Record) : (m.validate b ps r).events.filterMap Event.dispatch? = [] := by
  rw [List.filterMap_eq_nil_iff]
  intro event hevent
  obtain ⟨⟨rule, seen⟩, -, rfl⟩ := List.mem_map.mp hevent
  rfl

theorem dispatch?_append {events : List (Event P)}
    (h : events.filterMap Event.dispatch? = []) (a : P.Adapter) (q : Query P) :
    (events ++ [Event.dispatched a q]).filterMap Event.dispatch? = [(a, q)] := by
  rw [List.filterMap_append, h]
  rfl

namespace Ending

variable {b : Behavior P} {ctx : Context P} {name : String} {checked : Validated P Record}
  {store : P.Store} {o : Outcome P (List Value)} {left : Record}

theorem ok_iff (h : Ending b ctx name checked store o left) (records : List Value) :
    o.result = .ok records ↔
      checked.Passed ∧ ∃ start a, ctx.resolver.resolveModel name = .ok start ∧
        ctx.adapters.default? = some a ∧
        (b.dispatch a (creation ctx start checked.target) store).1 = .ok records := by
  constructor
  · intro hok
    cases h with
    | created hpassed hstart hadapter hanswer =>
      cases hok
      exact ⟨hpassed, _, _, hstart, hadapter, hanswer⟩
    | _ => cases hok
  · rintro ⟨hpassed, start, a, hstart, hadapter, hanswer⟩
    cases h <;> simp_all [Validated.Passed]

theorem error_iff (h : Ending b ctx name checked store o left) (e : ExecError) :
    o.result = .error e ↔
      (∃ stop, checked.outcome = .error stop ∧ e = .pipeline stop) ∨
      (checked.outcome = .ok () ∧ checked.target.messages ≠ [] ∧
        e = .rejected checked.target.messages) ∨
      (checked.Passed ∧ ∃ cause, ctx.resolver.resolveModel name = .error cause ∧
        e = .query (.path cause)) ∨
      (checked.Passed ∧ ∃ start, ctx.resolver.resolveModel name = .ok start ∧
        ctx.adapters.default? = none ∧ e = .noAdapter) ∨
      (checked.Passed ∧ ∃ start a cause, ctx.resolver.resolveModel name = .ok start ∧
        ctx.adapters.default? = some a ∧
        (b.dispatch a (creation ctx start checked.target) store).1 = .error cause ∧
        e = .adapter cause) := by
  constructor
  · intro herror
    cases h with
    | stopped hstop =>
      cases herror
      exact .inl ⟨_, hstop, rfl⟩
    | rejected hrun hmessages =>
      cases herror
      exact .inr (.inl ⟨hrun, hmessages, rfl⟩)
    | unresolved hpassed hstart =>
      cases herror
      exact .inr (.inr (.inl ⟨hpassed, _, hstart, rfl⟩))
    | unserved hpassed hstart hadapter =>
      cases herror
      exact .inr (.inr (.inr (.inl ⟨hpassed, _, hstart, hadapter, rfl⟩)))
    | refused hpassed hstart hadapter hanswer =>
      cases herror
      exact .inr (.inr (.inr (.inr ⟨hpassed, _, _, _, hstart, hadapter, hanswer, rfl⟩)))
    | created => cases herror
  · rintro (⟨stop, hstop, rfl⟩ | ⟨hrun, hmessages, rfl⟩ | ⟨hpassed, cause, hstart, rfl⟩ |
      ⟨hpassed, start, hstart, hadapter, rfl⟩ |
      ⟨hpassed, start, a, cause, hstart, hadapter, hanswer, rfl⟩)
    -- whichever stage is meant, every other ending contradicts it
    all_goals cases h <;> simp_all [Validated.Passed]

theorem of_ok (h : Ending b ctx name checked store o left)
    (hquiet : checked.events.filterMap Event.dispatch? = []) {records : List Value}
    (hok : o.result = .ok records) :
    left = checked.target.clearDirty ∧ ∃ start a,
      ctx.resolver.resolveModel name = .ok start ∧ ctx.adapters.default? = some a ∧
      o.calls = [(a, creation ctx start checked.target)] := by
  cases h with
  | created hpassed hstart hadapter hanswer =>
    exact ⟨rfl, _, _, hstart, hadapter, dispatch?_append hquiet _ _⟩
  | _ => cases hok

theorem of_error (h : Ending b ctx name checked store o left)
    (hquiet : checked.events.filterMap Event.dispatch? = []) {e : ExecError}
    (herror : o.result = .error e) :
    left = checked.target ∧
      ((∃ cause start a, e = .adapter cause ∧
          o.calls = [(a, creation ctx start checked.target)]) ∨
        (∀ cause, e ≠ .adapter cause) ∧ o.calls = [] ∧ o.store = store) := by
  cases h with
  | created => cases herror
  | refused hpassed hstart hadapter hanswer =>
    cases herror
    exact ⟨rfl, .inl ⟨_, _, _, rfl, dispatch?_append hquiet _ _⟩⟩
  | _ =>
    cases herror
    exact ⟨rfl, .inr ⟨nofun, hquiet, rfl⟩⟩

end Ending

/-- Saving a record is all or nothing: the adapter is called once or the saving fails, and a failure
leaves the record as validating it did. -/
theorem save_all_or_nothing (m : Model P.RecordRule) (b : Behavior P) (ctx : Context P)
    (r : Record) (store : P.Store) :
    let checked := m.validate b ctx.predicates r
    let saved := m.save b ctx r store
    let answer := fun start a => (b.dispatch a (creation ctx start checked.target) store).1
    (∀ records, saved.1.result = .ok records ↔
      checked.Passed ∧ ∃ start a, ctx.resolver.resolveModel m.name = .ok start ∧
        ctx.adapters.default? = some a ∧ answer start a = .ok records) ∧
    (∀ records, saved.1.result = .ok records →
      saved.2 = checked.target.clearDirty ∧ saved.2.dirty = [] ∧ ∃ start a handed,
        ctx.resolver.resolveModel m.name = .ok start ∧ ctx.adapters.default? = some a ∧
        saved.1.calls = [(a, handed)] ∧
        handed.criteria =
          [.start start, .action ⟨.create, some [.map checked.target.attrs]⟩]) ∧
    (∀ e, saved.1.result = .error e →
      saved.2 = checked.target ∧ saved.1.calls.length ≤ 1 ∧
        (saved.1.calls ≠ [] ↔ ∃ cause, e = .adapter cause) ∧
        (saved.1.calls = [] → saved.1.store = store)) ∧
    (∀ e, saved.1.result = .error e ↔
      (∃ stop, checked.outcome = .error stop ∧ e = .pipeline stop) ∨
      (checked.outcome = .ok () ∧ checked.target.messages ≠ [] ∧
        e = .rejected checked.target.messages) ∨
      (checked.Passed ∧ ∃ cause, ctx.resolver.resolveModel m.name = .error cause ∧
        e = .query (.path cause)) ∨
      (checked.Passed ∧ ∃ start, ctx.resolver.resolveModel m.name = .ok start ∧
        ctx.adapters.default? = none ∧ e = .noAdapter) ∨
      (checked.Passed ∧ ∃ start a cause, ctx.resolver.resolveModel m.name = .ok start ∧
        ctx.adapters.default? = some a ∧ answer start a = .error cause ∧
        e = .adapter cause)) := by
  intro checked saved answer
  have hending : Ending b ctx m.name checked store saved.1 saved.2 := m.save_ending b ctx r store
  have hquiet := m.dispatch?_validate b ctx.predicates r
  refine ⟨hending.ok_iff, fun records hok => ?_, fun e herror => ?_, hending.error_iff⟩
  · obtain ⟨hleft, start, a, hstart, hadapter, hcalls⟩ := hending.of_ok hquiet hok
    refine ⟨hleft, ?_, start, a, _, hstart, hadapter, hcalls, rfl⟩
    rw [hleft]
    exact checked.target.dirty_clearDirty
  · obtain ⟨hleft, ⟨cause, start, a, rfl, hcalls⟩ | ⟨hother, hcalls, hstore⟩⟩ :=
      hending.of_error hquiet herror
    · simp [hleft, hcalls]
    · simp [hleft, hcalls, hstore, hother]

def userModel (rules : List MessageRule) : Model countingPlugins.RecordRule where
  name := "user"
  attrs := [{ name := "name", aliases := ["nick"] }]
  rules := rules

theorem save_user_creates :
    let m := userModel [.report "late", .forget]
    let r := (m.init [("name", .text "ada")]).set "nick" (.text "eve")
    let saved := m.save counting countingContext r 0
    r.dirty = ["name"] ∧ saved.1.result = .ok [] ∧ saved.2.dirty = [] ∧
      saved.1.calls.map (fun call => call.2.criteria) =
        [[.start ⟨none, "user"⟩,
          .action ⟨.create, some [.map [("name", .text "eve")]]⟩]] := by
  intro m r saved
  have hdirty : r.dirty = ["name"] := by rfl
  have hpassed : (m.validate counting countingContext.predicates r).Passed := ⟨rfl, rfl⟩
  have hsegments : Dotted.segments "user" = ["user"] := rfl
  have hstart : countingContext.resolver.resolveModel "user" = .ok ⟨none, "user"⟩ := by
    simp [Resolver.resolveModel, hsegments]
  have hattrs : (m.validate counting countingContext.predicates r).target.attrs =
      [("name", .text "eve")] := rfl
  obtain ⟨hiff, hok, -, -⟩ := save_all_or_nothing m counting countingContext r 0
  have hsaved : saved.1.result = .ok [] :=
    (hiff []).mpr ⟨hpassed, ⟨none, "user"⟩, (), hstart, rfl, rfl⟩
  obtain ⟨-, hempty, start, a, handed, hmodel, -, hcalls, hcriteria⟩ := hok [] hsaved
  cases hstart.symm.trans hmodel
  refine ⟨hdirty, hsaved, hempty, ?_⟩
  rw [hcalls, List.map_singleton, hcriteria, hattrs]

end Model

end QueryLayer

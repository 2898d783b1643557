import QueryLayer.Proofs.StoredContext
import QueryLayer.Proofs.Terminals

/-! # What carrying out asks of a context

Of the context that something is carried out with, three things count: which adapter is selected,
what stands under the names of the predicates and how references are resolved. A stored context
answers these from its tables and lists, so whatever is carried out with it ends as it does with the
context that it represents. Main statement: `Represents.perform`.
-/

set_option autoImplicit false

namespace QueryLayer

/-- The same stands under every name, whatever the order of registration. -/
def Predicates.Agree (ps ps' : Predicates) : Prop := ∀ name, ps.lookup name = ps'.lookup name

section Predicates

variable {P : Plugins} {ps ps' : Predicates}

theorem Check.passes_congr (h : ps.Agree ps') : Check.passes ps = Check.passes ps' := by
  funext ns actual check
  rw [passes, passes, Predicates.lookupIn, Predicates.lookupIn, h]

theorem Query.check_congr (h : ps.Agree ps') (b : Behavior P) (a : P.Adapter) (q : Query P) :
    q.check b ps a = q.check b ps' a := by
  have hissues : ∀ (param : Param) (c : Constraint), param.issues ps c = param.issues ps' c := by
    intro param c
    rw [Param.issues, Param.issues, Check.passes_congr h]
  have hchecks : constraintChecks b ps a q.criteria = constraintChecks b ps' a q.criteria := by
    simp only [constraintChecks, constraintCheck, hissues]
  rw [check, check, hchecks]

theorem Model.validate_congr (h : ps.Agree ps') (b : Behavior P) (m : Model P.RecordRule)
    (r : Record) : m.validate b ps r = m.validate b ps' r := by
  have hissues : m.issues ps = m.issues ps' := by
    funext r
    simp only [Model.issues, Attr.issues, Attr.issuesOf, Check.passes_congr h]
  have hchecks : m.attributeChecks ps = m.attributeChecks ps' := by
    rw [attributeChecks, attributeChecks, attributeCheck, attributeCheck, hissues]
  rw [validate, validate, hchecks]

end Predicates

variable {P : Plugins}

/-! ## Tasks -/

inductive Task (P : Plugins) where
  | select (q : Query P)
  | start (m : Model P.RecordRule)
  | exec (q : Query P)
  | finish (q : Query P) (T : Terminal)
  | validate (q : Query P)
  | check (m : Model P.RecordRule) (r : Record)
  | find (m : Model P.RecordRule)
  | save (m : Model P.RecordRule) (r : Record)
  | test (c : Constraint) (actual : Value)

def Task.asked : Task P → List (AdapterRef P.Adapter)
  | select q | exec q | finish q _ | validate q => q.adapters
  | _ => []

inductive Ended (P : Plugins) where
  | selected (a : Except ExecError P.Adapter)
  | started (q : Except QueryError (Query P))
  | records (o : Outcome P (List Value))
  | answer (o : Outcome P Answer)
  | validated (v : Except ExecError Bool × Query P × List (Event P))
  | checked (v : Validated P Record)
  | saved (o : Outcome P (List Value) × Record)
  | tested (passes : Option Bool)

def Ended.store (store : P.Store) : Ended P → P.Store
  | records o => o.store
  | answer o => o.store
  | saved o => o.1.store
  | _ => store

namespace Context

def perform (b : Behavior P) (ctx : Context P) (store : P.Store) : Task P → Ended P
  | .select q => .selected (q.adapter ctx.adapters)
  | .start m => .started (m.query ctx)
  | .exec q => .records (q.exec b ctx store)
  | .finish q T => .answer (q.finish b ctx store T)
  | .validate q => .validated (q.validate b ctx)
  | .check m r => .checked (m.validate b ctx.predicates r)
  | .find m => .records (m.find b ctx store)
  | .save m r => .saved (m.save b ctx r store)
  | .test c actual => .tested (c.test ctx.predicates actual)

/-- Contexts that a query which asks for these adapters cannot tell apart. -/
structure AlikeFor (asked : List (AdapterRef P.Adapter)) (ctx ctx' : Context P) : Prop where
  resolver : ctx.resolver = ctx'.resolver
  adapter : ∀ q : Query P, q.adapters = asked → q.adapter ctx.adapters = q.adapter ctx'.adapters
  predicates : ctx.predicates.Agree ctx'.predicates

namespace AlikeFor

variable {ctx ctx' : Context P}

theorem exec {q : Query P} (h : AlikeFor q.adapters ctx ctx') (b : Behavior P)
    (store : P.Store) : q.exec b ctx store = q.exec b ctx' store := by
  have hadapter := h.adapter { q with active := none, scope := none } rfl
  simp only [Query.exec, hadapter, Query.check_congr h.predicates]

theorem validate {q : Query P} (h : AlikeFor q.adapters ctx ctx') (b : Behavior P) :
    q.validate b ctx = q.validate b ctx' := by
  simp only [Query.validate, h.adapter q rfl, Query.check_congr h.predicates]

theorem query (h : AlikeFor [] ctx ctx') (m : Model P.RecordRule) :
    m.query ctx = m.query ctx' ∧ ∀ q, m.query ctx' = .ok q → AlikeFor q.adapters ctx ctx' := by
  cases hname : ctx'.resolver.resolveModel m.name with
  | error e =>
    rw [Model.query_of_error hname, Model.query_of_error (h.resolver ▸ hname)]
    exact ⟨rfl, nofun⟩
  | ok start =>
    rw [Model.query_of_ok hname, Model.query_of_ok (h.resolver ▸ hname), Model.started,
      Model.started, h.resolver]
    refine ⟨rfl, fun q hq => ?_⟩
    cases hq
    exact h

theorem find (h : AlikeFor [] ctx ctx') (b : Behavior P) (m : Model P.RecordRule)
    (store : P.Store) : m.find b ctx store = m.find b ctx' store := by
  obtain ⟨hquery, halike⟩ := h.query m
  rw [Model.find, Model.find, hquery]
  cases hq : m.query ctx' with
  | error e => rfl
  | ok q =>
    have hfind : AlikeFor (q.action .find none).adapters ctx ctx' := halike q hq
    exact hfind.exec b store

theorem save (h : AlikeFor [] ctx ctx') (b : Behavior P) (m : Model P.RecordRule) (r : Record)
    (store : P.Store) : m.save b ctx r store = m.save b ctx' r store := by
  obtain ⟨hquery, halike⟩ := h.query m
  have hcreate : ∀ q, m.query ctx' = .ok q → ∀ data,
      q.create b ctx data store = q.create b ctx' data store := by
    intro q hq data
    have hcreate : AlikeFor (q.action .create (some data)).adapters ctx ctx' := halike q hq
    exact hcreate.exec b store
  rw [Model.save, Model.save, Model.validate_congr h.predicates, hquery]
  cases hq : m.query ctx' with
  | error e => rfl
  | ok q => simp only [hcreate q hq]

theorem perform {t : Task P} (h : AlikeFor t.asked ctx ctx') (b : Behavior P) (store : P.Store) :
    ctx.perform b store t = ctx'.perform b store t := by
  cases t with
  | select q => exact congrArg Ended.selected (h.adapter q rfl)
  | start m => exact congrArg Ended.started (AlikeFor.query h m).1
  | exec q => exact congrArg Ended.records (AlikeFor.exec h b store)
  | finish q T =>
    have hended : AlikeFor (q.ended T).adapters ctx ctx' := h
    rw [Context.perform, Context.perform, Query.finish_eq, Query.finish_eq, hended.exec]
  | validate q => exact congrArg Ended.validated (AlikeFor.validate h b)
  | check m r => exact congrArg Ended.checked (Model.validate_congr h.predicates b m r)
  | find m => exact congrArg Ended.records (AlikeFor.find h b m store)
  | save m r => exact congrArg Ended.saved (AlikeFor.save h b m r store)
  | test c actual =>
    rw [Context.perform, Context.perform, Constraint.test, Constraint.test, h.predicates]

end AlikeFor

end Context

namespace StoredContext

/-- The adapters as far as a query asks that names these: the one under the first name, from the
table, or else the one that came first, from the list. -/
def adaptersFor (s : StoredContext P) (asked : List (AdapterRef P.Adapter)) :
    Registry P.Adapter :=
  match asked.head? with
  | some (.named name) => ⟨(s.adapters.find? name).toList.map fun a => (name, a)⟩
  | _ => ⟨s.adapters.first?.toList.map fun a => ("", a)⟩

def contextFor (s : StoredContext P) (asked : List (AdapterRef P.Adapter)) : Context P where
  config := { s.config with defaultAdapter := s.resolver.defaultAdapter }
  adapters := s.adaptersFor asked
  predicates := ⟨s.predicates.table⟩

def perform (b : Behavior P) (s : StoredContext P) (store : P.Store) (t : Task P) : Ended P :=
  (s.contextFor t.asked).perform b store t

variable {s : StoredContext P} {ctx : Context P}

theorem default?_adaptersFor (s : StoredContext P) :
    (s.adaptersFor []).default? = s.adapters.first? := by
  rw [adaptersFor, Registry.default?]
  cases h : s.adapters.first? <;> simp

theorem lookup_adaptersFor (s : StoredContext P) (name : String)
    (later : List (AdapterRef P.Adapter)) :
    (s.adaptersFor (.named name :: later)).lookup name = s.adapters.find? name := by
  rw [adaptersFor, Registry.lookup]
  cases h : s.adapters.find? name <;> simp [h, Entries.find?]

theorem adapter_adaptersFor {r : Registry P.Adapter} (h : s.adapters.Keeps r) (q : Query P) :
    q.adapter (s.adaptersFor q.adapters) = q.adapter r := by
  cases hasked : q.adapters with
  | nil =>
    rw [Query.adapter_of_not_asked hasked, Query.adapter_of_not_asked hasked,
      default?_adaptersFor, h.first?]
  | cons first later =>
    cases first with
    | named name =>
      rw [Query.adapter_of_named hasked, Query.adapter_of_named hasked, lookup_adaptersFor,
        h.find?]
    | given a => rw [Query.adapter_of_given hasked, Query.adapter_of_given hasked]

theorem Represents.alikeFor (h : s.Represents ctx) (asked : List (AdapterRef P.Adapter)) :
    Context.AlikeFor asked (s.contextFor asked) ctx where
  resolver := h.resolver
  adapter := by
    rintro q rfl
    exact adapter_adaptersFor h.adapters q
  predicates name := by
    have hkeys := h.predicates.sorted.nodup_keys
    exact (Entries.find?_reverse hkeys name).trans (h.predicates.find? name)

/-- Whatever is carried out ends in the same way. -/
theorem Represents.perform (h : s.Represents ctx) (b : Behavior P) (store : P.Store) (t : Task P) :
    s.perform b store t = ctx.perform b store t := (h.alikeFor t.asked).perform b store

/-- The adapter is selected from a shelf as from the registry, whatever was registered while the
query was being built. -/
theorem selection_from_shelf {q : Query P} {moves : List (Preparation.Move P)} {w : Preparation P}
    (hrun : (⟨{}, q⟩ : Preparation P).run moves = .ok w)
    (hs : s.adapters = (moves.filterMap Preparation.Move.change?).foldl Shelf.change {}) :
    let made := Registry.registrations (moves.filterMap Preparation.Move.change?)
    let asked := q.adapters ++
      (moves.filterMap Preparation.Move.step?).filterMap Step.adapter?
    let selected := w.query.adapter (s.adaptersFor w.query.adapters)
    Selects asked made selected ∧
      ∀ b store,
        (∀ e, selected = .error e →
          s.perform b store (.exec w.query) = .records ⟨.error e, store, []⟩) ∧
        ∀ o, s.perform b store (.exec w.query) = .records o →
          ∀ a handed, .dispatched a handed ∈ o.events → selected = .ok a := by
  intro made asked selected
  obtain ⟨hadapters, hbuild⟩ := Preparation.run_eq_ok_iff.mp hrun
  have hkeeps : s.adapters.Keeps w.adapters := by
    rw [hs, hadapters]
    exact (Shelf.keeps_clear {}).changes _
  have hanswers : w.adapters.AnswersFrom made := by
    rw [hadapters]
    exact Registry.answersFrom_after _
  have hselected : selected = w.query.adapter w.adapters := adapter_adaptersFor hkeeps w.query
  refine ⟨?_, fun b store => ⟨fun e he => ?_, fun o ho a handed h => ?_⟩⟩
  · have hasked : w.query.adapters = asked := Query.adapters_build hbuild
    rw [hselected, ← hasked]
    exact w.query.selects hanswers
  · exact congrArg Ended.records (Query.exec_of_unselected he store)
  · cases ho
    exact Query.adapter_of_dispatched h

end StoredContext

end QueryLayer

import QueryLayer.Context
import QueryLayer.Proofs.CatalogHistory
import QueryLayer.Proofs.StepReferences
import QueryLayer.Proofs.WellFormedReferences

/-! # Default adapters of the queries of a context

A context never changes its configuration, and the queries that it makes anew resolve references
with it. A query that it looks up goes on with the resolver it was defined with, so it agrees with
the configuration exactly when the first definition of its name since the last clear does.
-/

set_option autoImplicit false

namespace QueryLayer

variable {P : Plugins}

/-- Of the references that steps still add, those that name no adapter get this one. -/
def Query.DefaultsTo (adapter : String) (q : Query P) : Prop :=
  ∀ (steps : List (Step P)) (q' q'' : Query P) (s : Step P) (key : String)
    (entry : PathRef → Criterion), q.build steps = .ok q' →
    s.reference? q'.active = some (key, entry) → (Dotted.segments key).length ≤ 2 →
    (∀ scope, q'.scope = some scope → '.' ∉ scope.toList) → q'.apply s = .ok q'' →
    ∃ ref, q''.criteria = q'.criteria ++ [entry ref] ∧ ref.adapter = adapter

theorem Resolver.adapter_of_resolve {r : Resolver} {dotted : String} {start : Option String}
    {ref : PathRef} (h : r.resolve dotted start = .ok ref)
    (hlength : (Dotted.segments dotted).length ≤ 2)
    (hstart : ∀ scope, start = some scope → '.' ∉ scope.toList) :
    ref.adapter = r.defaultAdapter := by
  rcases resolve_cases h with ⟨attr, scope, -, rfl, hscope⟩ | ⟨model, attr, -, rfl⟩ |
    ⟨adapter, model, attr, heq, -⟩
  · rcases hscope with ⟨-, rfl⟩ | ⟨adapter, model, hqualifier, -⟩
    · rfl
    · rw [Dotted.qualifier?_eq_none_iff.mpr (hstart scope rfl)] at hqualifier
      cases hqualifier
  · rfl
  · rw [heq] at hlength
    exact absurd hlength (by simp)

theorem Query.defaultsTo_iff {adapter : String} {q : Query P} :
    q.DefaultsTo adapter ↔ q.resolver.defaultAdapter = adapter := by
  constructor
  · intro h
    -- Starting from a model of one segment frees the chain from the scope that `q` may have.
    let started : Query P := { q with scope := some "m" }.push (.start ⟨none, "m"⟩)
    let ref : PathRef := ⟨q.resolver.defaultAdapter, "m", "a", false⟩
    have hbuild : q.build [.start "m"] = .ok started := rfl
    have happly : started.apply (.select "a") = .ok (started.push (.select ref)) := rfl
    obtain ⟨other, hother, rfl⟩ := h [.start "m"] started _ (.select "a") "a" .select hbuild rfl
      (by decide) (by rintro _ ⟨⟩; decide) happly
    have heq : [Criterion.select ref] = [.select other] := List.append_cancel_left hother
    cases heq
    rfl
  · rintro rfl steps q' q'' s key entry hbuild hs hlength hscope happly
    obtain ⟨ref, scope, href, rfl, -⟩ := apply_of_reference? hs happly
    refine ⟨ref, rfl, ?_⟩
    rw [Resolver.adapter_of_resolve href hlength hscope, resolver_build hbuild]

theorem NamedQueries.resolver_query (queries : NamedQueries P) (name : String)
    (resolver : Resolver) : (queries.query name resolver).resolver =
      ((queries.find? name).map Query.resolver).getD resolver := by
  rw [query, get?]
  cases queries.find? name <;> rfl

/-- What a run shows of its states, if each step acts on that alone by way of `part`. -/
theorem foldl_view {σ γ β δ : Type} {step : σ → γ → σ} (view : σ → β) {part : γ → Option δ}
    {stepView : β → δ → β}
    (h : ∀ s c, view (step s c) = (part c).toList.foldl stepView (view s)) (s : σ) (cs : List γ) :
    view (cs.foldl step s) = (cs.filterMap part).foldl stepView (view s) := by
  induction cs generalizing s with
  | nil => rfl
  | cons c rest ih =>
    rw [List.foldl_cons, ih, h]
    cases hc : part c with
    | none => rw [List.filterMap_cons_none hc]; rfl
    | some d => rw [List.filterMap_cons_some hc]; rfl

namespace Context

/-- What can be done to a context; its registries may also be replaced as a whole. -/
inductive Change (P : Plugins) where
  | useAdapter (name : String) (adapter : P.Adapter)
  | setAdapters (adapters : Registry P.Adapter)
  | setPredicates (predicates : Predicates)
  | defineQuery (name : String) (q : Query P)
  | clearQueries
  | defineModel (m : Model P.RecordRule)
  | clearModels
  | reset

section Changes

variable (engine : Pattern.Engine)

def change (ctx : Context P) : Change P → Context P
  | .useAdapter name adapter => ctx.useAdapter name adapter
  | .setAdapters adapters => { ctx with adapters := adapters }
  | .setPredicates predicates => { ctx with predicates := predicates }
  | .defineQuery name q => ctx.defineQuery name q
  | .clearQueries => { ctx with queries := {} }
  | .defineModel m => ctx.defineModel m
  | .clearModels => { ctx with models := {} }
  | .reset => ctx.reset engine

def after (config : Config) (changes : List (Change P)) : Context P :=
  changes.foldl (change engine) (ofConfig engine config)

def Change.ofQueries? : Change P → Option (Catalog.Change (Query P))
  | defineQuery name q => some (.define name { q with name := some name }.fork)
  | clearQueries => some .clear
  | reset => some .clear
  | _ => none

def definition? (name : String) (changes : List (Change P)) : Option (Query P) :=
  Catalog.firstDefinition? name (changes.filterMap Change.ofQueries?)

theorem config_change (ctx : Context P) (c : Change P) :
    (ctx.change engine c).config = ctx.config := by
  cases c <;> rfl

theorem queries_change (ctx : Context P) (c : Change P) :
    (ctx.change engine c).queries = c.ofQueries?.toList.foldl Catalog.change ctx.queries := by
  cases c <;> rfl

theorem config_after (config : Config) (changes : List (Change P)) :
    (after engine config changes).config = config := by
  induction changes using List.reverseRecOn with
  | nil => rfl
  | append_singleton changes c ih =>
    rw [after, List.foldl_concat, config_change]
    exact ih

theorem queries_after (config : Config) (changes : List (Change P)) :
    (after engine config changes).queries = Catalog.after (changes.filterMap Change.ofQueries?) :=
  foldl_view Context.queries (queries_change engine) _ changes

theorem resolver_after (config : Config) (changes : List (Change P)) :
    (after engine config changes).resolver = ⟨config.defaultAdapter⟩ := by
  rw [resolver, config_after]

theorem resolver_query_after (config : Config) (changes : List (Change P)) (name : String) :
    ((after engine config changes).query name).resolver =
      ((definition? name changes).map Query.resolver).getD ⟨config.defaultAdapter⟩ := by
  rw [query, NamedQueries.resolver_query, queries_after, Catalog.find?_after, resolver_after]
  rfl

end Changes

/-- What the queries that a context gives out default to. -/
theorem defaults_of_queries (engine : Pattern.Engine) (config : Config)
    (changes : List (Change P)) (name : String) :
    let ctx := after engine config changes
    let defined := ∀ q, definition? name changes = some q → q.resolver = ctx.resolver
    ctx.resolver = ⟨config.defaultAdapter⟩ ∧
      ctx.newQuery.resolver = ctx.resolver ∧
      ctx.newQuery.DefaultsTo config.defaultAdapter ∧
      ((ctx.query name).resolver = ctx.resolver ↔ defined) ∧
      ((ctx.query name).DefaultsTo config.defaultAdapter ↔ defined) := by
  intro ctx defined
  have hctx : ctx.resolver = ⟨config.defaultAdapter⟩ := resolver_after engine config changes
  have hquery : (ctx.query name).resolver = ctx.resolver ↔ defined := by
    rw [resolver_query_after, hctx]
    cases hdefinition : definition? name changes with
    | none =>
      refine iff_of_true rfl fun q hq => ?_
      rw [hdefinition] at hq
      cases hq
    | some q =>
      constructor
      · intro h other hother
        rw [hdefinition] at hother
        cases hother
        rw [hctx]
        exact h
      · intro h
        exact (h q hdefinition).trans hctx
  have hdefaults : ∀ q : Query P,
      q.DefaultsTo config.defaultAdapter ↔ q.resolver = ctx.resolver := by
    intro q
    rw [Query.defaultsTo_iff, hctx]
    exact ⟨congrArg Resolver.mk, congrArg Resolver.defaultAdapter⟩
  exact ⟨hctx, rfl, (hdefaults ctx.newQuery).mpr rfl, hquery, (hdefaults _).trans hquery⟩

/-- A query that was made outside of the context brings its own default along. -/
theorem query_recent_defaults_to_memory :
    let ctx : Context Plugins.trivial :=
      after .words { defaultAdapter := "rest" } [.defineQuery "recent" {}]
    (ctx.query "recent").resolver ≠ ctx.resolver ∧
      ((ctx.query "recent").build [.start "user", .select "email"]).map (·.criteria.refs) =
        .ok [⟨"memory", "user", "email", false⟩] := by
  refine ⟨by decide, rfl⟩

end Context

end QueryLayer

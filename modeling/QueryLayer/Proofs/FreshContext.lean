import QueryLayer.Proofs.ContextAccess

/-! # Contexts that are reset

A context is used by asking it one thing after another, and what is asked may depend on all that
was heard before: what changes gave back, how tasks ended and what the context told of itself.
Whatever was asked of it earlier, a context that is reset cannot be told apart from a fresh one of
its configuration, which nothing that is asked ever changes.
-/

set_option autoImplicit false

namespace QueryLayer

variable {P : Plugins}

structure Sight (P : Plugins) where
  config : Config
  resolver : Resolver
  adapter? : String → Option P.Adapter
  defaultAdapter? : Option P.Adapter
  adapters : List P.Adapter
  predicate? : String → Option Predicate
  predicateNames : List String
  predicateCount : Nat
  newQuery : Query P
  query : String → Query P
  queryFrom : String → Resolver → Query P
  query? : String → Option (Query P)
  queryCount : Nat
  model? : String → Option (Model P.RecordRule)
  models : List (Model P.RecordRule)

structure Sight.AsConfigured (configured : Config) (v : Sight P) : Prop where
  config : v.config = configured
  resolver : v.resolver = ⟨configured.defaultAdapter⟩

def Context.sight (ctx : Context P) : Sight P where
  config := ctx.config
  resolver := ctx.resolver
  adapter? := ctx.adapters.lookup
  defaultAdapter? := ctx.adapters.default?
  adapters := ctx.adapters.toList
  predicate? := ctx.predicates.lookup
  predicateNames := ctx.predicates.names
  predicateCount := ctx.predicates.distinct
  newQuery := ctx.newQuery
  query := ctx.query
  queryFrom := ctx.queries.query
  query? := ctx.queries.get?
  queryCount := ctx.queries.size
  model? := ctx.models.find?
  models := ctx.models.toList

namespace StoredContext

def query? (s : StoredContext P) (name : String) : Option (Query P) :=
  (Entries.find? name s.queries).map Query.fork

def queryFrom (s : StoredContext P) (name : String) (resolver : Resolver) : Query P :=
  (s.query? name).getD { name := some name, resolver := resolver }

def sight (s : StoredContext P) : Sight P where
  config := s.config
  resolver := s.resolver
  adapter? := s.adapters.find?
  defaultAdapter? := s.adapters.first?
  adapters := s.adapters.order
  predicate? name := Entries.find? name s.predicates.table
  predicateNames := s.predicates.order
  predicateCount := s.predicates.table.length
  newQuery := { resolver := s.resolver }
  query name := s.queryFrom name s.resolver
  queryFrom := s.queryFrom
  query? := s.query?
  queryCount := s.queries.length
  model? := s.models.find?
  models := s.models.order

section Represents

variable {s : StoredContext P} {ctx : Context P}

theorem Represents.query? (h : s.Represents ctx) : s.query? = ctx.queries.get? := by
  funext name
  rw [StoredContext.query?, h.queries.find?, NamedQueries.get?]

theorem Represents.queryFrom (h : s.Represents ctx) : s.queryFrom = ctx.queries.query := by
  funext name resolver
  rw [StoredContext.queryFrom, h.query?, NamedQueries.query]

theorem Represents.sight (h : s.Represents ctx) : s.sight = ctx.sight := by
  have hnew : ({ resolver := s.resolver } : Query P) = ctx.newQuery := by
    rw [h.resolver, Context.newQuery]
  have hquery : (fun name => s.queryFrom name s.resolver) = ctx.query := by
    funext name
    rw [h.queryFrom, h.resolver, Context.query]
  simp only [StoredContext.sight, Context.sight, Sight.mk.injEq]
  exact ⟨h.config, h.resolver, funext h.adapters.find?, h.adapters.first?, h.adapters.order,
    funext h.predicates.find?, h.predicates.order, h.predicates.length_table, hnew, hquery,
    h.queryFrom, h.query?, h.queries.length, funext h.models.tabulated.find?, h.models.order⟩

end Represents

end StoredContext

/-! ## Conversations -/

inductive Request (P : Plugins) where
  | update (u : Update P)
  | perform (t : Task P)

inductive Reply (P : Plugins) where
  | given (g : Given P)
  | ended (e : Ended P)

structure Heard (P : Plugins) where
  reply : Reply P
  sight : Sight P

abbrev Asking (P : Plugins) := List (Heard P) → Request P

/-- Contexts of some kind, by what can be done with them. -/
structure Interface (P : Plugins) (C : Type) where
  update : C → Update P → Given P × C
  perform : C → P.Store → Task P → Ended P
  sight : C → Sight P

def Context.interface (engine : Pattern.Engine) (b : Behavior P) : Interface P (Context P) :=
  ⟨update engine, perform b, sight⟩

def StoredContext.interface (engine : Pattern.Engine) (b : Behavior P) :
    Interface P (StoredContext P) :=
  ⟨update engine, perform b, sight⟩

structure Site (P : Plugins) (C : Type) where
  ctx : C
  store : P.Store

/-- The sites keep the same for the adapters, and their contexts are related. -/
structure Site.Related {C D : Type} (R : C → D → Prop) (x : Site P C) (y : Site P D) : Prop where
  ctx : R x.ctx y.ctx
  store : x.store = y.store

namespace Interface

variable {C D : Type}

def answer (i : Interface P C) (x : Site P C) : Request P → Heard P × Site P C
  | .update u =>
    let changed := i.update x.ctx u
    (⟨.given changed.1, i.sight changed.2⟩, { x with ctx := changed.2 })
  | .perform t =>
    let ended := i.perform x.ctx x.store t
    (⟨.ended ended, i.sight x.ctx⟩, { x with store := ended.store x.store })

/-- Ask one thing after another: all that is heard by the end, and the site that is left. -/
def converse (i : Interface P C) (x : Site P C) (heard : List (Heard P)) :
    List (Asking P) → List (Heard P) × Site P C
  | [] => (heard, x)
  | ask :: rest =>
    let answered := i.answer x (ask heard)
    i.converse answered.2 (heard ++ [answered.1]) rest

/-- Related contexts show the same, and related contexts are left. -/
structure Simulates (i : Interface P C) (j : Interface P D) (R : C → D → Prop) : Prop where
  update : ∀ c d u, R c d →
    (i.update c u).1 = (j.update d u).1 ∧ R (i.update c u).2 (j.update d u).2
  perform : ∀ c d store t, R c d → i.perform c store t = j.perform d store t
  sight : ∀ c d, R c d → i.sight c = j.sight d

section Simulates

variable {i : Interface P C} {j : Interface P D} {R : C → D → Prop} {x : Site P C} {y : Site P D}

theorem Simulates.answer (h : i.Simulates j R) (hxy : Site.Related R x y) (q : Request P) :
    (i.answer x q).1 = (j.answer y q).1 ∧ Site.Related R (i.answer x q).2 (j.answer y q).2 := by
  obtain ⟨hctx, hstore⟩ := hxy
  cases q with
  | update u =>
    obtain ⟨hgiven, hleft⟩ := h.update x.ctx y.ctx u hctx
    rw [Interface.answer, Interface.answer, hgiven, h.sight _ _ hleft]
    exact ⟨rfl, hleft, hstore⟩
  | perform t =>
    rw [Interface.answer, Interface.answer, hstore, h.perform x.ctx y.ctx y.store t hctx,
      h.sight _ _ hctx]
    exact ⟨rfl, hctx, rfl⟩

theorem Simulates.converse (h : i.Simulates j R) (hxy : Site.Related R x y)
    (heard : List (Heard P)) (asked : List (Asking P)) :
    (i.converse x heard asked).1 = (j.converse y heard asked).1 ∧
      Site.Related R (i.converse x heard asked).2 (j.converse y heard asked).2 := by
  induction asked generalizing x y heard with
  | nil => exact ⟨rfl, hxy⟩
  | cons ask rest ih =>
    obtain ⟨hheard, hleft⟩ := h.answer hxy (ask heard)
    rw [Interface.converse, Interface.converse, hheard]
    exact ih hleft _

end Simulates

end Interface

namespace StoredContext

section AsConfigured

variable (engine : Pattern.Engine)

variable {config : Config} {s : StoredContext P}

theorem asConfigured_ofConfig (config : Config) :
    (ofConfig engine config : StoredContext P).sight.AsConfigured config := ⟨rfl, rfl⟩

theorem asConfigured_update (h : s.sight.AsConfigured config) (u : Update P) :
    (s.update engine u).2.sight.AsConfigured config := by
  obtain ⟨hconfig, hresolver⟩ := s.frame_update engine u
  exact ⟨hconfig.trans h.config, hresolver.trans h.resolver⟩

/-- Nothing but the configuration and the resolver outlives a reset. -/
theorem reset_of_asConfigured (h : s.sight.AsConfigured config) :
    s.reset engine = ofConfig engine config := by
  have hconfig : s.config = config := h.config
  have hresolver : s.resolver = ⟨config.defaultAdapter⟩ := h.resolver
  rw [reset, hconfig, hresolver]
  rfl

theorem asConfigured_answer (b : Behavior P) {x : Site P (StoredContext P)}
    (h : x.ctx.sight.AsConfigured config) (q : Request P) :
    ((interface engine b).answer x q).1.sight.AsConfigured config ∧
      ((interface engine b).answer x q).2.ctx.sight.AsConfigured config := by
  cases q with
  | update u => exact ⟨asConfigured_update engine h u, asConfigured_update engine h u⟩
  | perform t => exact ⟨h, h⟩

theorem asConfigured_converse (b : Behavior P) (x : Site P (StoredContext P))
    (heard : List (Heard P)) (hx : x.ctx.sight.AsConfigured config)
    (hheard : ∀ h ∈ heard, h.sight.AsConfigured config) (asked : List (Asking P)) :
    (∀ h ∈ ((interface engine b).converse x heard asked).1, h.sight.AsConfigured config) ∧
      ((interface engine b).converse x heard asked).2.ctx.sight.AsConfigured config := by
  induction asked generalizing x heard with
  | nil => exact ⟨hheard, hx⟩
  | cons ask rest ih =>
    obtain ⟨htold, hleft⟩ := asConfigured_answer engine b hx (ask heard)
    refine ih _ _ hleft fun h hh => ?_
    rcases List.mem_append.mp hh with hh | hh
    · exact hheard h hh
    · rw [List.mem_singleton.mp hh]
      exact htold

end AsConfigured

theorem simulates_context (engine : Pattern.Engine) (b : Behavior P) :
    (interface engine b).Simulates (Context.interface engine b) Represents where
  update _ _ u h := h.update engine u
  perform _ _ store t h := h.perform b store t
  sight _ _ h := h.sight

end StoredContext

namespace Site

structure Mirrors (config : Config) (x : Site P (StoredContext P)) (y : Site P (Context P)) :
    Prop where
  related : Related StoredContext.Represents x y
  asConfigured : x.ctx.sight.AsConfigured config

theorem mirrors_ofConfig (engine : Pattern.Engine) (config : Config) (store : P.Store) :
    Mirrors (P := P) config ⟨.ofConfig engine config, store⟩ ⟨.ofConfig engine config, store⟩ :=
  ⟨⟨StoredContext.represents_ofConfig engine config, rfl⟩,
    StoredContext.asConfigured_ofConfig engine config⟩

variable {config : Config} {x : Site P (StoredContext P)} {y : Site P (Context P)}

theorem Mirrors.reset (engine : Pattern.Engine) (h : x.Mirrors config y) :
    x.ctx.reset engine = .ofConfig engine config ∧
      y.ctx.reset engine = .ofConfig engine config := by
  have hconfig : y.ctx.config = config :=
    h.related.ctx.config.symm.trans h.asConfigured.config
  refine ⟨StoredContext.reset_of_asConfigured engine h.asConfigured, ?_⟩
  rw [Context.reset, hconfig]
  rfl

theorem Mirrors.converse (engine : Pattern.Engine) (h : x.Mirrors config y) (b : Behavior P)
    {heard : List (Heard P)} (hheard : ∀ h ∈ heard, h.sight.AsConfigured config)
    (asked : List (Asking P)) :
    let stored := (StoredContext.interface engine b).converse x heard asked
    let plain := (Context.interface engine b).converse y heard asked
    stored.1 = plain.1 ∧ (∀ h ∈ stored.1, h.sight.AsConfigured config) ∧
      stored.2.Mirrors config plain.2 := by
  obtain ⟨hsame, hrelated⟩ :=
    (StoredContext.simulates_context engine b).converse h.related heard asked
  obtain ⟨htold, hleft⟩ :=
    StoredContext.asConfigured_converse engine b x heard h.asConfigured hheard asked
  exact ⟨hsame, htold, hrelated, hleft⟩

end Site

namespace Context

/-- However a context was used, after a reset it goes on as a fresh one of its configuration: the
same is heard of it, whatever is asked, and the same is left. So it is where a context is stored in
tables and lists, of which nothing else is heard at any time. -/
theorem answers_after_reset (engine : Pattern.Engine) (b : Behavior P) (config : Config)
    (store : P.Store) (earlier later : List (Asking P)) :
    let plain := Context.interface engine b
    let tabled := StoredContext.interface engine b
    let used := plain.converse ⟨.ofConfig engine config, store⟩ [] earlier
    let stored := tabled.converse ⟨.ofConfig engine config, store⟩ [] earlier
    let again := plain.converse ⟨used.2.ctx.reset engine, used.2.store⟩ used.1 later
    let storedAgain := tabled.converse ⟨stored.2.ctx.reset engine, stored.2.store⟩ stored.1 later
    again = plain.converse ⟨.ofConfig engine config, used.2.store⟩ used.1 later ∧
    storedAgain = tabled.converse ⟨.ofConfig engine config, stored.2.store⟩ stored.1 later ∧
    storedAgain.1 = again.1 ∧ storedAgain.2.ctx.sight = again.2.ctx.sight ∧
    stored.2.store = used.2.store ∧ storedAgain.2.store = again.2.store ∧
    (∀ h ∈ again.1, h.sight.AsConfigured config) ∧
    stored.2.ctx.sight.AsConfigured config ∧ storedAgain.2.ctx.sight.AsConfigured config := by
  intro plain tabled used stored again storedAgain
  obtain ⟨hheard, htold, hleft⟩ : stored.1 = used.1 ∧
      (∀ h ∈ stored.1, h.sight.AsConfigured config) ∧ stored.2.Mirrors config used.2 :=
    (Site.mirrors_ofConfig engine config store).converse engine b (List.forall_mem_nil _) earlier
  obtain ⟨hstoredReset, husedReset⟩ := hleft.reset engine
  have hagain : again = plain.converse ⟨.ofConfig engine config, used.2.store⟩ used.1 later :=
    congrArg (fun ctx => plain.converse ⟨ctx, used.2.store⟩ used.1 later) husedReset
  have hstoredAgain :
      storedAgain = tabled.converse ⟨.ofConfig engine config, stored.2.store⟩ stored.1 later :=
    congrArg (fun ctx => tabled.converse ⟨ctx, stored.2.store⟩ stored.1 later) hstoredReset
  -- Both start afresh, over the same store and with the same heard so far.
  obtain ⟨hlater, htoldLater, hend⟩ : storedAgain.1 = again.1 ∧
      (∀ h ∈ storedAgain.1, h.sight.AsConfigured config) ∧
      storedAgain.2.Mirrors config again.2 := by
    rw [hheard] at htold
    rw [hstoredAgain, hagain, hleft.related.store, hheard]
    exact (Site.mirrors_ofConfig engine config used.2.store).converse engine b htold later
  rw [hlater] at htoldLater
  exact ⟨hagain, hstoredAgain, hlater, hend.related.ctx.sight, hleft.related.store,
    hend.related.store, htoldLater, hleft.asConfigured, hend.asConfigured⟩

end Context

end QueryLayer

import QueryLayer.Proofs.ContextHistory

/-! # Named queries and models are defined once

A context gives queries out, some of which are built on further, and takes definitions of queries
and models. Whatever was looked up, missed, built on or defined again in between, a name stands for
the first definition of it since the last clear.
-/

set_option autoImplicit false

namespace QueryLayer

variable {P : Plugins}

def Query.filed (name : String) (q : Query P) : Query P :=
  { q with name := some name, active := none, messages := [] }

namespace Context

def Change.queries? : Change P → Option (Catalog.Change (Query P))
  | defineQuery name q => some (.define name q)
  | clearQueries => some .clear
  | reset => some .clear
  | _ => none

def Change.models? : Change P → Option (Catalog.Change (Model P.RecordRule))
  | defineModel m => some (.define m.name m)
  | clearModels => some .clear
  | reset => some .clear
  | _ => none

/-- The queries that were defined since the names were cleared last, as they were given. -/
def definedQueries (changes : List (Change P)) : List (String × Query P) :=
  Catalog.definitions (changes.filterMap Change.queries?)

def definedModels (changes : List (Change P)) : List (String × Model P.RecordRule) :=
  Catalog.definitions (changes.filterMap Change.models?)

theorem Change.ofQueries?_eq (c : Change P) :
    c.ofQueries? = c.queries?.map (Catalog.Change.map Query.filed) := by
  cases c <;> rfl

variable (engine : Pattern.Engine)

theorem keepsFirst_queries (config : Config) (changes : List (Change P)) :
    (after engine config changes).queries.KeepsFirst
      ((definedQueries changes).map fun entry => (entry.1, entry.2.filed entry.1)) := by
  have hchanges : changes.filterMap Change.ofQueries? =
      (changes.filterMap Change.queries?).map (Catalog.Change.map Query.filed) := by
    rw [List.map_filterMap]
    exact List.filterMap_congr fun c _ => c.ofQueries?_eq
  rw [queries_after, hchanges, definedQueries, ← Catalog.definitions_map]
  exact Catalog.keepsFirst_after _

theorem models_after (config : Config) (changes : List (Change P)) :
    (after engine config changes).models = Catalog.after (changes.filterMap Change.models?) :=
  foldl_view Context.models (fun _ c => by cases c <;> rfl) _ changes

theorem keepsFirst_models (config : Config) (changes : List (Change P)) :
    (after engine config changes).models.KeepsFirst (definedModels changes) := by
  rw [models_after]
  exact Catalog.keepsFirst_after _

theorem name_of_mem_definedModels {changes : List (Change P)} {name : String}
    {m : Model P.RecordRule} (h : (name, m) ∈ definedModels changes) : name = m.name := by
  obtain ⟨c, -, hc⟩ := List.mem_filterMap.mp (Catalog.mem_of_mem_definitions h)
  cases c with
  | defineModel other =>
    cases hc
    rfl
  | _ => cases hc

theorem names_of_models (config : Config) (changes : List (Change P)) :
    (after engine config changes).models.toList.map Model.name =
      (after engine config changes).models.names := by
  have hkept := keepsFirst_models engine config changes
  rw [Catalog.toList, Catalog.names, List.map_map]
  refine List.map_congr_left fun entry hentry => ?_
  have hfind : Entries.find? entry.1 (definedModels changes) = some entry.2 := by
    rw [← hkept.find?]
    exact Entries.find?_of_mem hkept.nodup hentry
  obtain ⟨earlier, later, heq, -⟩ := Entries.find?_eq_some_iff.mp hfind
  have hmem : (entry.1, entry.2) ∈ definedModels changes := by simp [heq]
  exact (name_of_mem_definedModels hmem).symm

end Context

structure Desk (P : Plugins) where
  ctx : Context P
  given : List (Query P) := []

namespace Desk

variable (engine : Pattern.Engine)

inductive Use (P : Plugins) where
  | change (c : Context.Change P)
  | query (name : String) (resolver : Resolver)
  | get (name : String)
  | step (place : Nat) (s : Step P)

def Use.change? : Use P → Option (Context.Change P)
  | change c => some c
  | _ => none

/-- A definition gives a query out as the lookups do, and steps go on with what was given out. -/
def use (d : Desk P) : Use P → Desk P
  | .change (.defineQuery name q) =>
    ⟨d.ctx.defineQuery name q, d.given ++ [d.ctx.queries.defined name q]⟩
  | .change c => { d with ctx := d.ctx.change engine c }
  | .query name resolver => { d with given := d.given ++ [d.ctx.queries.query name resolver] }
  | .get name => { d with given := d.given ++ (d.ctx.queries.get? name).toList }
  | .step place s =>
    match d.given[place]? with
    | none => d
    | some q =>
      match q.apply s with
      | .error _ => d
      | .ok q' => { d with given := d.given.set place q' }

def after (config : Config) (uses : List (Use P)) : Desk P :=
  uses.foldl (use engine) { ctx := .ofConfig engine config }

theorem ctx_use (d : Desk P) (u : Use P) :
    (d.use engine u).ctx = u.change?.toList.foldl (Context.change engine) d.ctx := by
  cases u with
  | change c => cases c <;> rfl
  | query name resolver | get name => rfl
  | step place s =>
    rw [use]
    split
    · rfl
    · split <;> rfl

theorem ctx_after (config : Config) (uses : List (Use P)) :
    (after engine config uses).ctx = Context.after engine config (uses.filterMap Use.change?) :=
  foldl_view Desk.ctx (ctx_use engine) _ uses

/-- What a context knows of its queries and models after it has been used. -/
theorem definitions_are_kept (engine : Pattern.Engine) (config : Config) (uses : List (Use P)) :
    let ctx := (after engine config uses).ctx
    let changes := uses.filterMap Use.change?
    let tried := Context.definedQueries changes
    (∀ u : Use P, u.change? = none → ((after engine config uses).use engine u).ctx = ctx) ∧
    ctx.queries.KeepsFirst (tried.map fun entry => (entry.1, entry.2.filed entry.1)) ∧
    (∀ name, ctx.queries.get? name = (Entries.find? name tried).map (Query.filed name)) ∧
    (∀ name resolver, ctx.queries.query name resolver =
      ((Entries.find? name tried).map (Query.filed name)).getD
        { name := some name, resolver := resolver }) ∧
    (∀ name q, ctx.queries.defined name q = ((Entries.find? name tried).getD q).filed name ∧
      (ctx.queries.define name q).get? name = some (ctx.queries.defined name q)) ∧
    ctx.models.KeepsFirst (Context.definedModels changes) ∧
    ctx.models.toList.map Model.name = ctx.models.names := by
  intro ctx changes tried
  have hctx : ctx = Context.after engine config changes := ctx_after engine config uses
  have hqueries : ctx.queries.KeepsFirst
      (tried.map fun entry => (entry.1, entry.2.filed entry.1)) := by
    rw [hctx]
    exact Context.keepsFirst_queries engine config changes
  have hfind : ∀ name, ctx.queries.find? name =
      (Entries.find? name tried).map (Query.filed name) := by
    intro name
    rw [hqueries.find?]
    exact Entries.find?_map name Query.filed tried
  have hget : ∀ name,
      ctx.queries.get? name = (Entries.find? name tried).map (Query.filed name) := by
    intro name
    rw [NamedQueries.get?, hfind, Option.map_map]
    rfl
  refine ⟨?_, hqueries, hget, ?_, ?_, ?_, ?_⟩
  · intro u hu
    rw [ctx_use, hu]
    rfl
  · intro name resolver
    rw [NamedQueries.query, hget]
  · intro name q
    refine ⟨?_, NamedQueries.get?_define ctx.queries name q⟩
    rw [NamedQueries.defined_eq, hfind]
    cases Entries.find? name tried <;> rfl
  · rw [hctx]
    exact Context.keepsFirst_models engine config changes
  · rw [hctx]
    exact Context.names_of_models engine config changes

end Desk

end QueryLayer

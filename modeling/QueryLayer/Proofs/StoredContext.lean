import QueryLayer.Proofs.DefineOnce
import QueryLayer.Proofs.PredicateHistory

/-! # How a context is stored

What a context was given stands in tables by name. Adapters and models are also kept in a list, in
the order in which they came, and so are the names of the predicates; the resolver is made once.
Whatever is changed, such a store tells what the context tells. Main statement:
`Represents.update`.
-/

set_option autoImplicit false

namespace QueryLayer

namespace Entries

variable {α : Type}

theorem length_insert_of_none {key : String} {a : α} {entries : List (String × α)}
    (h : find? key entries = none) : (insert key a entries).length = entries.length + 1 := by
  induction entries with
  | nil => rfl
  | cons entry rest ih =>
    obtain ⟨k, b⟩ := entry
    rw [find?] at h
    split at h
    · cases h
    · rename_i hne
      rw [insert, if_neg hne]
      split
      · rfl
      · rw [List.length_cons, ih h, List.length_cons]

end Entries

namespace Catalog

variable {α : Type} {c : Catalog α} {table : List (String × α)}

structure Tabulated (c : Catalog α) (table : List (String × α)) : Prop where
  sorted : Entries.Sorted table
  find? : ∀ name, Entries.find? name table = c.find? name
  length : table.length = c.size

theorem tabulated_empty : Tabulated ({} : Catalog α) [] := ⟨List.Pairwise.nil, fun _ => rfl, rfl⟩

theorem define_of_some {name : String} {a b : α} (h : c.find? name = some b) :
    c.define name a = c := by
  rw [define, has, h]
  rfl

theorem define_of_none {name : String} {a : α} (h : c.find? name = none) :
    c.define name a = ⟨c.entries ++ [(name, a)]⟩ := by
  rw [define, has, h]
  rfl

theorem Tabulated.define (h : c.Tabulated table) (name : String) (a : α) :
    (c.define name a).Tabulated (Entries.insertNew name a table) := by
  cases hname : c.find? name with
  | some b =>
    rwa [define_of_some hname, Entries.insertNew_of_some ((h.find? name).trans hname)]
  | none =>
    have htable : Entries.find? name table = none := (h.find? name).trans hname
    rw [Entries.insertNew_of_none htable]
    refine ⟨Entries.sorted_insert h.sorted, fun k => ?_, ?_⟩
    · rw [Entries.find?_insert, find?_define, hname, h.find?]
      rfl
    · rw [Entries.length_insert_of_none htable, h.length, define_of_none hname, size, size,
        List.length_append]
      rfl

end Catalog

/-- What stands under each name, beside everything that was taken in, in order. -/
structure Shelf (α : Type) where
  table : List (String × α) := []
  order : List α := []

namespace Shelf

variable {α : Type} {s : Shelf α}

def find? (s : Shelf α) (name : String) : Option α := Entries.find? name s.table

def first? (s : Shelf α) : Option α := s.order.head?

def register (s : Shelf α) (name : String) (a : α) : Shelf α :=
  ⟨Entries.insert name a s.table, s.order ++ [a]⟩

def define (s : Shelf α) (name : String) (a : α) : Shelf α :=
  match s.find? name with
  | some _ => s
  | none => s.register name a

def clear (s : Shelf α) : Shelf α := { s with table := [], order := [] }

def change (s : Shelf α) : Registry.Change α → Shelf α
  | .register name a => s.register name a
  | .clear => s.clear

def ofRegistry (r : Registry α) : Shelf α :=
  r.entries.foldl (fun s entry => s.register entry.1 entry.2) {}

structure Keeps (s : Shelf α) (r : Registry α) : Prop where
  sorted : Entries.Sorted s.table
  find? : ∀ name, s.find? name = r.lookup name
  order : s.order = r.toList

theorem keeps_clear (s : Shelf α) : s.clear.Keeps {} := ⟨List.Pairwise.nil, fun _ => rfl, rfl⟩

theorem Keeps.first? {r : Registry α} (h : s.Keeps r) : s.first? = r.default? := by
  rw [Shelf.first?, h.order, Registry.toList, List.head?_map]
  rfl

theorem Keeps.register {r : Registry α} (h : s.Keeps r) (name : String) (a : α) :
    (s.register name a).Keeps (r.register name a) := by
  refine ⟨Entries.sorted_insert h.sorted, fun k => ?_, ?_⟩
  · rw [Registry.lookup_register, ← h.find?]
    exact Entries.find?_insert name k a s.table
  · rw [Shelf.register, h.order, Registry.register, Registry.toList, Registry.toList,
      List.map_append]
    rfl

/-- After a second registration the name stands for what came last, and the default is still what
came first. -/
example : let s := (({} : Shelf Nat).register "main" 1).register "main" 2
    s.find? "main" = some 2 ∧ s.first? = some 1 ∧ s.order = [1, 2] := by decide

theorem Keeps.change {r : Registry α} (h : s.Keeps r) (c : Registry.Change α) :
    (s.change c).Keeps (r.change c) := by
  cases c with
  | register name a => exact h.register name a
  | clear => exact s.keeps_clear

theorem Keeps.changes {r : Registry α} (h : s.Keeps r) (cs : List (Registry.Change α)) :
    (cs.foldl Shelf.change s).Keeps (cs.foldl Registry.change r) := by
  induction cs generalizing s r with
  | nil => exact h
  | cons c rest ih => exact ih (h.change c)

theorem keeps_ofRegistry (r : Registry α) : (ofRegistry r).Keeps r := by
  suffices ∀ (entries : List (String × α)) (s : Shelf α) (made : Registry α), s.Keeps made →
      (entries.foldl (fun s entry => s.register entry.1 entry.2) s).Keeps
        ⟨made.entries ++ entries⟩ from this r.entries {} {} (keeps_clear {})
  intro entries
  induction entries with
  | nil =>
    intro s made h
    rwa [List.append_nil]
  | cons entry rest ih =>
    intro s made h
    have hrest := ih _ _ (h.register entry.1 entry.2)
    rwa [Registry.register, List.append_assoc] at hrest

structure Files (s : Shelf α) (c : Catalog α) : Prop where
  tabulated : c.Tabulated s.table
  order : s.order = c.toList

theorem files_clear (s : Shelf α) : s.clear.Files {} := ⟨Catalog.tabulated_empty, rfl⟩

theorem Files.define {c : Catalog α} (h : s.Files c) (name : String) (a : α) :
    (s.define name a).Files (c.define name a) := by
  have htable := h.tabulated.define name a
  have hfind : s.find? name = c.find? name := h.tabulated.find? name
  cases hname : c.find? name with
  | some b =>
    rw [hname] at hfind
    rwa [Shelf.define, hfind, Catalog.define_of_some hname]
  | none =>
    rw [hname] at hfind
    rw [Shelf.define, hfind]
    refine ⟨?_, ?_⟩
    · rwa [Entries.insertNew_of_none hfind] at htable
    · rw [Shelf.register, h.order, Catalog.define_of_none hname, Catalog.toList, Catalog.toList,
        List.map_append]
      rfl

end Shelf

namespace Registry.Keyed

variable {α : Type} {k : Keyed α} {r : Registry α}

def ofRegistry (r : Registry α) : Keyed α :=
  after (r.entries.map fun entry => .register entry.1 entry.2)

theorem represents_ofRegistry (r : Registry α) : (ofRegistry r).Represents r := by
  have h := represents_after (r.entries.map fun entry => .register entry.1 entry.2)
  rwa [Registry.after, foldl_change_entries] at h

theorem Represents.changes (h : k.Represents r) (cs : List (Change α)) :
    (cs.foldl Keyed.change k).Represents (cs.foldl Registry.change r) := by
  induction cs generalizing k r with
  | nil => exact h
  | cons c rest ih => exact ih (h.change c)

end Registry.Keyed

variable {P : Plugins}

/-- What can be changed in a context: all that `Context.Change` lists, and its adapters and its
predicates in place. -/
inductive Update (P : Plugins) where
  | context (c : Context.Change P)
  | adapters (c : Registry.Change P.Adapter)
  | predicates (c : Predicates.Change)

inductive Given (P : Plugins) where
  | nothing
  | query (q : Query P)
  | model (m : Model P.RecordRule)

namespace Context

def given (ctx : Context P) : Change P → Given P
  | .defineQuery name q => .query (ctx.queries.defined name q)
  | .defineModel m => .model (ctx.models.defined m.name m)
  | _ => .nothing

def update (engine : Pattern.Engine) (ctx : Context P) : Update P → Given P × Context P
  | .context c => (ctx.given c, ctx.change engine c)
  | .adapters c => (.nothing, { ctx with adapters := ctx.adapters.change c })
  | .predicates c => (.nothing, { ctx with predicates := Predicates.change ctx.predicates c })

end Context

structure StoredContext (P : Plugins) where
  config : Config
  resolver : Resolver
  adapters : Shelf P.Adapter := {}
  predicates : Registry.Keyed Predicate := {}
  queries : List (String × Query P) := []
  models : Shelf (Model P.RecordRule) := {}

namespace StoredContext

variable (engine : Pattern.Engine)

def initialPredicates (config : Config) : Registry.Keyed Predicate :=
  if config.builtinPredicates then .ofRegistry (Predicates.builtin engine) else {}

def ofConfig (config : Config) : StoredContext P where
  config := config
  resolver := ⟨config.defaultAdapter⟩
  predicates := initialPredicates engine config

/-- Clear one store after another and install the predicates that are configured. Neither the
configuration nor the resolver is written. -/
def reset (s : StoredContext P) : StoredContext P :=
  { s with
    adapters := s.adapters.clear
    queries := []
    models := s.models.clear
    predicates := initialPredicates engine s.config }

def defineQuery (s : StoredContext P) (name : String) (q : Query P) :
    Given P × StoredContext P :=
  match Entries.find? name s.queries with
  | some kept => (.query kept.fork, s)
  | none =>
    let named := { q with name := some name }
    (.query named.fork, { s with queries := Entries.insert name named.fork s.queries })

def defineModel (s : StoredContext P) (m : Model P.RecordRule) : Given P × StoredContext P :=
  (.model ((s.models.find? m.name).getD m), { s with models := s.models.define m.name m })

def change (s : StoredContext P) : Context.Change P → Given P × StoredContext P
  | .useAdapter name a => (.nothing, { s with adapters := s.adapters.register name a })
  | .setAdapters r => (.nothing, { s with adapters := .ofRegistry r })
  | .setPredicates ps => (.nothing, { s with predicates := .ofRegistry ps })
  | .defineQuery name q => s.defineQuery name q
  | .clearQueries => (.nothing, { s with queries := [] })
  | .defineModel m => s.defineModel m
  | .clearModels => (.nothing, { s with models := s.models.clear })
  | .reset => (.nothing, s.reset engine)

def update (s : StoredContext P) : Update P → Given P × StoredContext P
  | .context c => s.change engine c
  | .adapters c => (.nothing, { s with adapters := s.adapters.change c })
  | .predicates c =>
    (.nothing, { s with predicates := c.parts.foldl Registry.Keyed.change s.predicates })

/-- The store tells what the context tells. -/
structure Represents (s : StoredContext P) (ctx : Context P) : Prop where
  config : s.config = ctx.config
  resolver : s.resolver = ctx.resolver
  adapters : s.adapters.Keeps ctx.adapters
  predicates : s.predicates.Represents ctx.predicates
  queries : ctx.queries.Tabulated s.queries
  models : s.models.Files ctx.models

theorem represents_initialPredicates (config : Config) :
    (initialPredicates engine config).Represents (Context.initialPredicates engine config) := by
  rw [initialPredicates, Context.initialPredicates]
  split
  · exact Registry.Keyed.represents_ofRegistry (Predicates.builtin engine)
  · exact ⟨List.Pairwise.nil, fun _ => rfl, rfl⟩

theorem represents_ofConfig (config : Config) :
    (ofConfig engine config : StoredContext P).Represents (.ofConfig engine config) where
  config := rfl
  resolver := rfl
  adapters := Shelf.keeps_clear {}
  predicates := represents_initialPredicates engine config
  queries := Catalog.tabulated_empty
  models := Shelf.files_clear {}

variable {s : StoredContext P} {ctx : Context P}

theorem Represents.reset (h : s.Represents ctx) :
    (s.reset engine).Represents (ctx.reset engine) where
  config := h.config
  resolver := h.resolver
  adapters := s.adapters.keeps_clear
  predicates := by
    rw [StoredContext.reset, h.config]
    exact represents_initialPredicates engine ctx.config
  queries := Catalog.tabulated_empty
  models := s.models.files_clear

theorem Represents.defineQuery (h : s.Represents ctx) (name : String) (q : Query P) :
    (s.defineQuery name q).1 = .query (ctx.queries.defined name q) ∧
      (s.defineQuery name q).2.Represents (ctx.defineQuery name q) := by
  have htable := h.queries.define name { q with name := some name }.fork
  rw [NamedQueries.defined_eq, ← h.queries.find?]
  cases hname : Entries.find? name s.queries with
  | some kept =>
    rw [Entries.insertNew_of_some hname] at htable
    rw [StoredContext.defineQuery, hname]
    exact ⟨rfl, { h with queries := htable }⟩
  | none =>
    rw [Entries.insertNew_of_none hname] at htable
    rw [StoredContext.defineQuery, hname]
    exact ⟨rfl, { h with queries := htable }⟩

theorem Represents.defineModel (h : s.Represents ctx) (m : Model P.RecordRule) :
    (s.defineModel m).1 = .model (ctx.models.defined m.name m) ∧
      (s.defineModel m).2.Represents (ctx.defineModel m) := by
  refine ⟨?_, { h with models := h.models.define m.name m }⟩
  rw [StoredContext.defineModel, Shelf.find?, h.models.tabulated.find?, Catalog.defined]

theorem Represents.change (h : s.Represents ctx) (c : Context.Change P) :
    (s.change engine c).1 = ctx.given c ∧
      (s.change engine c).2.Represents (ctx.change engine c) := by
  cases c with
  | useAdapter name a => exact ⟨rfl, { h with adapters := h.adapters.register name a }⟩
  | setAdapters r => exact ⟨rfl, { h with adapters := Shelf.keeps_ofRegistry r }⟩
  | setPredicates ps =>
    exact ⟨rfl, { h with predicates := Registry.Keyed.represents_ofRegistry ps }⟩
  | defineQuery name q => exact h.defineQuery name q
  | clearQueries => exact ⟨rfl, { h with queries := Catalog.tabulated_empty }⟩
  | defineModel m => exact h.defineModel m
  | clearModels => exact ⟨rfl, { h with models := s.models.files_clear }⟩
  | reset => exact ⟨rfl, h.reset engine⟩

/-- A change gives back the same and leaves a store that still tells what the context tells. -/
theorem Represents.update (h : s.Represents ctx) (u : Update P) :
    (s.update engine u).1 = (ctx.update engine u).1 ∧
      (s.update engine u).2.Represents (ctx.update engine u).2 := by
  cases u with
  | context c => exact h.change engine c
  | adapters c => exact ⟨rfl, { h with adapters := h.adapters.change c }⟩
  | predicates c =>
    refine ⟨rfl, { h with predicates := ?_ }⟩
    rw [Context.update, Predicates.change_eq_parts]
    exact h.predicates.changes c.parts

theorem frame_update (s : StoredContext P) (u : Update P) :
    (s.update engine u).2.config = s.config ∧ (s.update engine u).2.resolver = s.resolver := by
  cases u with
  | adapters c => exact ⟨rfl, rfl⟩
  | predicates c => exact ⟨rfl, rfl⟩
  | context c =>
    cases c with
    | defineQuery name q =>
      rw [update, change, defineQuery]
      split <;> exact ⟨rfl, rfl⟩
    | _ => exact ⟨rfl, rfl⟩

/-! ## Definitions in the tables -/

def after (config : Config) (changes : List (Context.Change P)) : StoredContext P :=
  changes.foldl (fun s c => (s.change engine c).2) (ofConfig engine config)

theorem represents_after (config : Config) (changes : List (Context.Change P)) :
    (after engine config changes).Represents (Context.after engine config changes) := by
  induction changes using List.reverseRecOn with
  | nil => exact represents_ofConfig engine config
  | append_singleton changes c ih =>
    rw [after, Context.after, List.foldl_concat, List.foldl_concat]
    exact (ih.change engine c).2

/-- In the tables, too, a name stands for its first definition since the last clear, and models are
listed in the order in which they were defined first. -/
theorem keeps_definitions (config : Config) (changes : List (Context.Change P)) :
    let s := after engine config changes
    let tried := Context.definedQueries changes
    let models := Context.definedModels changes
    (Entries.keys s.queries).Nodup ∧
    (∀ name, Entries.find? name s.queries =
      (Entries.find? name tried).map (Query.filed name)) ∧
    (∀ name q, (s.defineQuery name q).1 =
      .query (((Entries.find? name tried).getD q).filed name)) ∧
    (∀ name, s.models.find? name = Entries.find? name models) ∧
    (s.models.order =
      (models.map Prod.fst).eraseDups.filterMap fun name => Entries.find? name models) ∧
    ∀ m, (s.defineModel m).1 = .model ((Entries.find? m.name models).getD m) := by
  intro s tried models
  have hs : s.Represents (Context.after engine config changes) :=
    represents_after engine config changes
  have hqueries := Context.keepsFirst_queries engine config changes
  have hmodels := Context.keepsFirst_models engine config changes
  have hfind : ∀ name, Entries.find? name s.queries =
      (Entries.find? name tried).map (Query.filed name) := by
    intro name
    rw [hs.queries.find?, hqueries.find?]
    exact Entries.find?_map name Query.filed tried
  refine ⟨hs.queries.sorted.nodup_keys, hfind, fun name q => ?_, fun name => ?_, ?_, fun m => ?_⟩
  · rw [(hs.defineQuery name q).1, NamedQueries.defined_eq, ← hs.queries.find?, hfind]
    cases Entries.find? name tried <;> rfl
  · exact (hs.models.tabulated.find? name).trans (hmodels.find? name)
  · rw [hs.models.order, hmodels.toList, hmodels.names, funext hmodels.find?]
  · rw [(hs.defineModel m).1, hmodels.defined]

end StoredContext

end QueryLayer

import QueryLayer.Config
import QueryLayer.Model
import QueryLayer.Query.Named

/-! # Contexts

The registries that queries and models are carried out with. A context is made from a
configuration and can be brought back to that state; the patterns of its built-in predicates are
read by an engine.
-/

set_option autoImplicit false

namespace QueryLayer

structure Context (P : Plugins) where
  config : Config
  adapters : Registry P.Adapter := {}
  predicates : Predicates := {}
  queries : NamedQueries P := {}
  models : Catalog (Model P.RecordRule) := {}

namespace Context

variable {P : Plugins}

def initialPredicates (engine : Pattern.Engine) (config : Config) : Predicates :=
  if config.builtinPredicates then .builtin engine else {}

def ofConfig (engine : Pattern.Engine) (config : Config) : Context P where
  config := config
  predicates := initialPredicates engine config

def resolver (ctx : Context P) : Resolver := ⟨ctx.config.defaultAdapter⟩

def newQuery (ctx : Context P) : Query P := { resolver := ctx.resolver }

/-- A fork of the named query, or an empty query of that name. -/
def query (ctx : Context P) (name : String) : Query P := ctx.queries.query name ctx.resolver

def defineQuery (ctx : Context P) (name : String) (q : Query P) : Context P :=
  { ctx with queries := ctx.queries.define name q }

def defineModel (ctx : Context P) (m : Model P.RecordRule) : Context P :=
  { ctx with models := ctx.models.define m.name m }

def useAdapter (ctx : Context P) (name : String) (adapter : P.Adapter) : Context P :=
  { ctx with adapters := ctx.adapters.register name adapter }

/-- Empty the registries and install the built-in predicates again, if they are configured. -/
def reset (engine : Pattern.Engine) (ctx : Context P) : Context P :=
  { ctx with
    adapters := {}
    predicates := initialPredicates engine ctx.config
    queries := {}
    models := {} }

end Context

end QueryLayer

/-! # Plugins

Adapters, validators and observers come from outside. The library names them by values of types
that the caller chooses, so that a query is plain data; how they act is a `Behavior`, given when a
query is carried out.
-/

set_option autoImplicit false

namespace QueryLayer

structure Plugins where
  /-- Adapters carry out queries. -/
  Adapter : Type
  /-- Query rules are validators of queries. -/
  QueryRule : Type
  /-- Record rules are validators of records. -/
  RecordRule : Type
  /-- Observers are shown the criteria of a query before it is dispatched. -/
  Observer : Type
  /-- What the adapters keep from one call to the next. -/
  Store : Type

/-- Plugins that cannot be told apart, for queries that are not carried out. -/
@[reducible] def Plugins.trivial : Plugins := ⟨Unit, Unit, Unit, Unit, Unit⟩

end QueryLayer

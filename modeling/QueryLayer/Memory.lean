import QueryLayer.Criteria

/-! # Tables in memory

A store that criteria are carried out on: a table of records for every model, in the order in which
they were created. The constraints are tested with the built-in predicates, whose patterns an engine
reads.
-/

set_option autoImplicit false

namespace QueryLayer.Memory

variable (engine : Pattern.Engine)

abbrev Tables := List (String × List Value)

def table (tables : Tables) (model : String) : List Value :=
  (Entries.find? model tables).getD []

/-- What a record holds under a name, `null` if it is no map or does not have the name. -/
def cell (record : Value) (name : String) : Value :=
  .ofOption (record.map?.bind fun entries => Entries.find? name entries)

/-- Whether a record fulfils all constraints; an unknown operator is never fulfilled. -/
def fulfils (criteria : Criteria) (record : Value) : Bool :=
  criteria.constraints.all fun c =>
    (c.test (.builtin engine) (cell record c.left.attr)).getD false

def perform (criteria : Criteria) (action : Action) (records : List Value) :
    Except String (List Value) × List Value :=
  match action.kind with
  | .create =>
    let data := action.data.getD []
    (.ok data, records ++ data)
  | .find =>
    let found := records.filter (fulfils engine criteria)
    (.ok (match criteria.limit? with
      | some n => found.take n
      | none => found), records)
  | .count =>
    (.ok [.uint (UInt64.ofNat (records.filter (fulfils engine criteria)).length)], records)
  | .remove =>
    (.ok (records.filter (fulfils engine criteria)),
      records.filter fun record => !fulfils engine criteria record)
  | kind => (.error ("unsupported action '" ++ kind.label ++ "'"), records)

def serve (criteria : Criteria) (tables : Tables) : Except String (List Value) × Tables :=
  match criteria.start?, criteria.action? with
  | none, _ => (.error "query has no start model", tables)
  | some _, none => (.error "query has no action", tables)
  | some start, some action =>
    let answer := perform engine criteria action (table tables start.model)
    (answer.1, Entries.insert start.model answer.2 tables)

end QueryLayer.Memory

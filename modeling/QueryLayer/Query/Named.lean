import QueryLayer.Query
import QueryLayer.Registry

/-! # Named queries

Queries that are defined once under a name and handed out as forks, so that going on with one
changes neither the definition nor what others get.
-/

set_option autoImplicit false

namespace QueryLayer

abbrev NamedQueries (P : Plugins) := Catalog (Query P)

namespace NamedQueries

variable {P : Plugins}

def get? (queries : NamedQueries P) (name : String) : Option (Query P) :=
  (queries.find? name).map Query.fork

/-- The query of that name, or else an empty one that has the name and is not kept. -/
def query (queries : NamedQueries P) (name : String) (resolver : Resolver) : Query P :=
  (queries.get? name).getD { name := some name, resolver := resolver }

def define (queries : NamedQueries P) (name : String) (q : Query P) : NamedQueries P :=
  Catalog.define queries name { q with name := some name }.fork

def defined (queries : NamedQueries P) (name : String) (q : Query P) : Query P :=
  match queries.find? name with
  | some existing => existing.fork
  | none => { q with name := some name }.fork

theorem defined_eq (queries : NamedQueries P) (name : String) (q : Query P) :
    queries.defined name q =
      ((queries.find? name).getD ({ q with name := some name } : Query P).fork).fork := by
  rw [defined]
  cases queries.find? name <;> rfl

/-- A definition gives back what the name stands for afterwards. -/
theorem get?_define (queries : NamedQueries P) (name : String) (q : Query P) :
    (queries.define name q).get? name = some (queries.defined name q) := by
  rw [get?, define, Catalog.find?_define, if_pos rfl, defined_eq]
  rfl

end NamedQueries

end QueryLayer

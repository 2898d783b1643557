import QueryLayer.Pipeline
import QueryLayer.Value

/-! # Records

The attribute values of one instance of a model. A record has a field for every declared attribute
and for nothing else; an alias leads to the attribute that it stands for. A field remembers its
initial value, which `null` restores, and whether it was changed. Main statement: `get_set`.
-/

set_option autoImplicit false

namespace QueryLayer

structure Field where
  initial : Value
  value : Value
  dirty : Bool := false

namespace Field

def accept (f : Field) (v : Value) : Value := if v.isNull then f.initial else v

/-- The field holding what is stored for `v`, dirty if that is another value than before. -/
def put (v : Value) (f : Field) : Field :=
  { f with value := f.accept v, dirty := f.dirty || !f.value.same (f.accept v) }

def clean (f : Field) : Field := { f with dirty := false }

end Field

structure Record where
  model : String
  primaryKey : Option String
  fields : List (String × Field)
  aliases : List (String × String)
  messages : List String := []

instance : HasMessages Record where
  messages := Record.messages
  setMessages messages r := { r with messages := messages }

namespace Record

def canonical (r : Record) (name : String) : String := (Entries.find? name r.aliases).getD name

def field? (r : Record) (name : String) : Option Field := Entries.find? (r.canonical name) r.fields

def get (r : Record) (name : String) : Value := ((r.field? name).map Field.value).getD .null

def isDeclared (r : Record) (name : String) : Bool := (r.field? name).isSome

def has (r : Record) (name : String) : Bool := !(r.get name).isNull

def set (r : Record) (name : String) (v : Value) : Record :=
  { r with fields := Entries.modify (r.canonical name) (Field.put v) r.fields }

def assign (r : Record) (name : String) (v : Value) : Record × Bool :=
  if r.isDeclared name then (r.set name v, true) else (r, false)

def isNew (r : Record) : Bool := r.primaryKey.all fun key => !r.has key

def dirty (r : Record) : List String :=
  (r.fields.filter fun entry => entry.2.dirty).map Prod.fst

def isDirty (r : Record) : Bool := !r.dirty.isEmpty

def clearDirty (r : Record) : Record :=
  { r with fields := r.fields.map fun entry => (entry.1, entry.2.clean) }

def attrs (r : Record) : List (String × Value) :=
  r.fields.map fun entry => (entry.1, entry.2.value)

def toValue (r : Record) : Value := .map r.attrs

/-- Equality in all respects, with values compared by `Value.same`. -/
def same (r s : Record) : Bool :=
  r.model == s.model && r.primaryKey == s.primaryKey &&
    Value.sameEntries (initials r) (initials s) && r.aliases == s.aliases &&
    Value.sameEntries r.attrs s.attrs && r.dirty == s.dirty && r.messages == s.messages
where
  initials (r : Record) : List (String × Value) :=
    r.fields.map fun entry => (entry.1, entry.2.initial)

@[simp] theorem canonical_set (r : Record) (name k : String) (v : Value) :
    (r.set name v).canonical k = r.canonical k := rfl

theorem field?_set (r : Record) (name k : String) (v : Value) :
    (r.set name v).field? k =
      if r.canonical k = r.canonical name then (r.field? k).map (Field.put v) else r.field? k := by
  simp only [field?, canonical_set]
  exact Entries.find?_modify _ _ _ _

/-- Setting an attribute is seen under all of its names and under no other. -/
theorem get_set (r : Record) (name k : String) (v : Value) :
    (r.set name v).get k =
      if r.canonical k = r.canonical name then ((r.field? k).map (Field.accept · v)).getD .null
      else r.get k := by
  rw [get, field?_set]
  split
  · rw [Option.map_map]
    rfl
  · rfl

theorem mem_dirty_iff {r : Record} {name : String} :
    name ∈ r.dirty ↔ ∃ f, (name, f) ∈ r.fields ∧ f.dirty = true := by
  simp [dirty]

theorem field?_of_not_declared {r : Record} {name : String} (h : r.isDeclared name = false) :
    r.field? name = none := by
  rwa [isDeclared, Option.isSome_eq_false_iff, Option.isNone_iff_eq_none] at h

theorem get_of_not_declared {r : Record} {name : String} (h : r.isDeclared name = false) :
    r.get name = .null := by
  rw [get, field?_of_not_declared h]
  rfl

theorem set_of_not_declared {r : Record} {name : String} (h : r.isDeclared name = false)
    (v : Value) : r.set name v = r := by
  have hfield := field?_of_not_declared h
  rw [field?] at hfield
  rw [set, Entries.modify_of_find?_eq_none hfield]

theorem assign_eq (r : Record) (name : String) (v : Value) :
    r.assign name v = (r.set name v, r.isDeclared name) := by
  rw [assign]
  cases h : r.isDeclared name with
  | true => rfl
  | false => simp [set_of_not_declared h]

end Record

end QueryLayer

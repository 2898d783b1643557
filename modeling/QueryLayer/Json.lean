import QueryLayer.Value

/-! # JSON trees

The serialized form of values and criteria. The fields of an object are in strictly increasing
order of their names, so equal JSON is equal trees. Integers and doubles are different numbers;
a double that is not finite is written as `null`. A JSON text is a tree as it was written: the
fields of an object in their order, names repeated as they came, and numbers and strings only as far
as their form goes. A string in which an escape stands for no character is well formed, but has no
value.
-/

set_option autoImplicit false

namespace QueryLayer

inductive Json where
  | null
  | bool (b : Bool)
  | int (n : Int)
  | float (x : Binary64)
  | str (s : String)
  | arr (items : List Json)
  | obj (fields : List (String × Json))

instance : Inhabited Json := ⟨.null⟩

def Json.ofFields (fields : List (String × Json)) : Json := .obj (Entries.ofList fields)

def Binary64.toJson (x : Binary64) : Json := if x.isFinite then .float x else .null

mutual

/-- The plain form of a value, without its kind. -/
def Value.toJson : Value → Json
  | .null => .null
  | .bool b => .bool b
  | .int n => .int n.toInt
  | .uint n => .int n.toNat
  | .float x => x.toJson
  | .text s => .str s
  | .list items => .arr (Value.itemsToJson items)
  | .map entries => .obj (Value.entriesToJson entries)

def Value.itemsToJson : List Value → List Json
  | [] => []
  | v :: vs => v.toJson :: Value.itemsToJson vs

def Value.entriesToJson : List (String × Value) → List (String × Json)
  | [] => []
  | (k, v) :: rest => (k, v.toJson) :: Value.entriesToJson rest

end

theorem Value.itemsToJson_eq_map (items : List Value) :
    Value.itemsToJson items = items.map Value.toJson := by
  induction items with
  | nil => rfl
  | cons v vs ih => simp [Value.itemsToJson, ih]

theorem Value.entriesToJson_eq_map (entries : List (String × Value)) :
    Value.entriesToJson entries = entries.map fun entry => (entry.1, entry.2.toJson) := by
  induction entries with
  | nil => rfl
  | cons entry rest ih => obtain ⟨k, v⟩ := entry; simp [Value.entriesToJson, ih]

inductive JsonText where
  | null
  | bool (b : Bool)
  | number
  | str (s : Option String)
  | arr (items : List JsonText)
  | obj (fields : List (Option String × JsonText))

def JsonText.string? : JsonText → Option String
  | str s => s
  | _ => none

end QueryLayer

import Mathlib.Data.List.Induction
import QueryLayer.Proofs.RecordShape

/-! # Setting attributes one after another

A sequence of sets does to each attribute what the values given to it do, in their order and
whatever is given to the others in between. The last of them is what the attribute holds, with
`null` read as the initial value.
-/

set_option autoImplicit false

namespace QueryLayer

def Attr.accept (a : Attr) (v : Value) : Value := if v.isNull then a.initialValue else v

namespace Field

theorem accept_of_initial {f : Field} {a : Attr} (h : f.initial = a.initialValue) (v : Value) :
    f.accept v = a.accept v := by
  rw [accept, Attr.accept, h]

def putAll (f : Field) (vs : List Value) : Field := vs.foldl (fun f v => f.put v) f

theorem putAll_concat (f : Field) (vs : List Value) (v : Value) :
    f.putAll (vs ++ [v]) = (f.putAll vs).put v := List.foldl_append

@[simp] theorem initial_putAll (f : Field) (vs : List Value) :
    (f.putAll vs).initial = f.initial := by
  induction vs using List.reverseRecOn with
  | nil => rfl
  | append_singleton vs v ih =>
    rw [putAll_concat]
    exact ih

@[simp] theorem accept_putAll (f : Field) (vs : List Value) (v : Value) :
    (f.putAll vs).accept v = f.accept v := by
  rw [accept, accept, initial_putAll]

theorem value_putAll (f : Field) (vs : List Value) :
    (f.putAll vs).value = (vs.getLast?.map f.accept).getD f.value := by
  induction vs using List.reverseRecOn with
  | nil => rfl
  | append_singleton vs v ih =>
    rw [putAll_concat, List.getLast?_concat]
    exact accept_putAll f vs v

end Field

namespace Record

/-- The values that are given to an attribute under any of its names. -/
def given (r : Record) (name : String) (sets : List (String × Value)) : List Value :=
  (sets.filter fun pair => r.canonical pair.1 == name).map Prod.snd

theorem setAll_concat (r : Record) (sets : List (String × Value)) (pair : String × Value) :
    r.setAll (sets ++ [pair]) = (r.setAll sets).set pair.1 pair.2 := List.foldl_append

theorem setAll_frame (r : Record) (sets : List (String × Value)) :
    r.setAll sets = { r with fields := (r.setAll sets).fields } := by
  induction sets using List.reverseRecOn with
  | nil => rfl
  | append_singleton sets pair ih =>
    rw [setAll_concat, set, ih]

@[simp] theorem canonical_setAll (r : Record) (sets : List (String × Value)) (name : String) :
    (r.setAll sets).canonical name = r.canonical name := by
  rw [setAll_frame, canonical, canonical]

theorem given_of_aliases_eq {r s : Record} (h : r.aliases = s.aliases) : r.given = s.given := by
  funext name sets
  simp only [given, canonical, h]

theorem given_concat (r : Record) (name : String) (sets : List (String × Value))
    (pair : String × Value) : r.given name (sets ++ [pair]) =
      r.given name sets ++ if r.canonical pair.1 = name then [pair.2] else [] := by
  rw [given, List.filter_append, List.map_append]
  by_cases h : r.canonical pair.1 = name <;> simp [given, h]

/-- What a sequence of sets does to one attribute. -/
theorem find?_fields_setAll (r : Record) (sets : List (String × Value)) (name : String) :
    Entries.find? name (r.setAll sets).fields =
      (Entries.find? name r.fields).map fun f => f.putAll (r.given name sets) := by
  induction sets using List.reverseRecOn with
  | nil => exact Option.map_id'.symm
  | append_singleton sets pair ih =>
    rw [setAll_concat, set, Entries.find?_modify, canonical_setAll, ih, given_concat]
    split
    · rename_i heq
      rw [if_pos heq.symm, Option.map_map]
      congr 1
      funext f
      exact (f.putAll_concat _ _).symm
    · rename_i hne
      rw [if_neg (Ne.symm hne), List.append_nil]

end Record

end QueryLayer

import QueryLayer.Failure

/-! # Dotted references

`attr`, `model.attr` and `adapter.model.attr` name an attribute; `model` and `adapter.model` name
a model. A reference is read by its number of segments alone. The scope of an attribute is its
model, with the adapter in front when the adapter was written out.
-/

set_option autoImplicit false

namespace QueryLayer

namespace Dotted

/-- The runs of characters between dots; there is always at least one. -/
def split : List Char → List (List Char)
  | [] => [[]]
  | c :: rest =>
    if c = '.' then [] :: split rest
    else match split rest with
      | [] => [[c]]
      | segment :: segments => (c :: segment) :: segments

def segments (dotted : String) : List String := (split dotted.toList).map String.ofList

def cut : List Char → Option (List Char × List Char)
  | [] => none
  | c :: rest =>
    if c = '.' then some ([], rest)
    else (cut rest).map fun halves => (c :: halves.1, halves.2)

def qualifier? (scope : String) : Option (String × String) :=
  (cut scope.toList).map fun halves => (String.ofList halves.1, String.ofList halves.2)

theorem split_ne_nil (cs : List Char) : split cs ≠ [] := by
  cases cs with
  | nil => simp [split]
  | cons c rest =>
    rw [split]
    split
    · simp
    · split <;> simp

end Dotted

inductive PathError where
  | segmentCount (path : String) (found max : Nat)
  | emptySegment (path : String)
  | missingStart (attr : String)
  deriving DecidableEq

def PathError.message : PathError → String
  | .segmentCount path found max =>
    "invalid path '" ++ path ++ "': expected 1 to " ++ toString max ++ " segments, found "
      ++ toString found
  | .emptySegment path => "invalid path '" ++ path ++ "': empty segment"
  | .missingStart attr => "cannot resolve bare attribute '" ++ attr ++ "' without a start model"

instance : Failure PathError where
  message := PathError.message
  failureClass _ := .invalid
  origin _ := .path

/-- The attribute of a model of an adapter; `explicit` tells whether the adapter was written out. -/
structure PathRef where
  adapter : String
  model : String
  attr : String
  explicit : Bool
  deriving DecidableEq

def PathRef.scope (ref : PathRef) : String :=
  if ref.explicit then ref.adapter ++ "." ++ ref.model else ref.model

def PathRef.path (ref : PathRef) : String := ref.scope ++ "." ++ ref.attr

structure ModelRef where
  adapter : Option String
  model : String
  deriving DecidableEq

def ModelRef.scope (ref : ModelRef) : String :=
  match ref.adapter with
  | some adapter => adapter ++ "." ++ ref.model
  | none => ref.model

/-- The adapter name of references that do not write one out, unless another is configured. -/
def fallbackAdapter : String := "memory"

/-- Reads references, giving them `defaultAdapter` where they name no adapter. -/
structure Resolver where
  defaultAdapter : String := fallbackAdapter
  deriving DecidableEq

namespace Resolver

/-- The attribute that `dotted` names; a bare attribute belongs to the scope `start`. -/
def resolve (r : Resolver) (dotted : String) (start : Option String) : Except PathError PathRef :=
  let segments := Dotted.segments dotted
  if segments.any String.isEmpty then .error (.emptySegment dotted)
  else match segments with
    | [attr] =>
      match start with
      | none => .error (.missingStart attr)
      | some scope =>
        match Dotted.qualifier? scope with
        | some (adapter, model) => .ok ⟨adapter, model, attr, true⟩
        | none => .ok ⟨r.defaultAdapter, scope, attr, false⟩
    | [model, attr] => .ok ⟨r.defaultAdapter, model, attr, false⟩
    | [adapter, model, attr] => .ok ⟨adapter, model, attr, true⟩
    | _ => .error (.segmentCount dotted segments.length 3)

def resolveModel (_ : Resolver) (dotted : String) : Except PathError ModelRef :=
  let segments := Dotted.segments dotted
  if segments.any String.isEmpty then .error (.emptySegment dotted)
  else match segments with
    | [model] => .ok ⟨none, model⟩
    | [adapter, model] => .ok ⟨some adapter, model⟩
    | _ => .error (.segmentCount dotted segments.length 2)

end Resolver

end QueryLayer

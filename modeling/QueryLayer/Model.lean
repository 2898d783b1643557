import QueryLayer.Model.Record
import QueryLayer.Predicate

/-! # Models

A model declares attributes, and carries rules for its records. Attributes are declared once each;
declaring one again replaces it where it stands. Records are made from pairs of names and values.
-/

set_option autoImplicit false

namespace QueryLayer

structure Attr where
  name : String
  typeName : String := "string"
  initial : Option Value := none
  checks : List Check := []
  aliases : List String := []
  flagged : Bool := false

namespace Attr

def answersTo (a : Attr) (name : String) : Bool := a.name == name || a.aliases.contains name

def isPrimaryKey (a : Attr) : Bool := a.flagged || a.name == "id" || a.name == "_id"

def initialValue (a : Attr) : Value := .ofOption a.initial

def issuesOf (a : Attr) (ps : Predicates) (actual : Value) : List String :=
  (a.checks.filter fun check => !check.passes ps "attr" actual).map
    fun _ => "Invalid attribute: " ++ a.name

def issues (a : Attr) (ps : Predicates) (r : Record) : List String :=
  a.issuesOf ps (r.get a.name)

end Attr

/-- A model whose record rules are named by values of type `ρ`. -/
structure Model (ρ : Type) where
  name : String
  attrs : List Attr := []
  rules : List ρ := []
  key : Option String := none

namespace Model

variable {ρ : Type}

def declares (m : Model ρ) (name : String) : Bool := m.attrs.any fun a => a.name == name

def replaceAttr (a : Attr) : List Attr → List Attr
  | [] => []
  | b :: rest => if b.name = a.name then a :: rest else b :: replaceAttr a rest

/-- Declare an attribute, in place of one that has the same name. -/
def attr (m : Model ρ) (a : Attr) : Model ρ :=
  { m with attrs := if m.declares a.name then replaceAttr a m.attrs else m.attrs ++ [a] }

def id (m : Model ρ) (name : String) : Model ρ :=
  { m with
    attrs := if m.declares name then m.attrs else m.attrs ++ [{ name := name, flagged := true }]
    key := some name }

def rule (m : Model ρ) (r : ρ) : Model ρ := { m with rules := m.rules ++ [r] }

/-- The attribute of that name, else the first that answers to it. -/
def getAttr (m : Model ρ) (name : String) : Option Attr :=
  (m.attrs.find? fun a => a.name == name).or (m.attrs.find? fun a => a.answersTo name)

/-- The declared primary key, else the first attribute that is one by itself. -/
def primaryKey (m : Model ρ) : Option String :=
  m.key.or ((m.attrs.find? Attr.isPrimaryKey).map Attr.name)

/-- The aliases that are no attribute's name, each with the first attribute that has it. -/
def aliases (m : Model ρ) : List (String × String) :=
  let pairs := m.attrs.flatMap fun a => a.aliases.map fun other => (other, a.name)
  Entries.ofList (pairs.filter fun pair => !m.declares pair.1).reverse

def blank (m : Model ρ) : Record where
  model := m.name
  primaryKey := m.primaryKey
  fields := Entries.ofList
    (m.attrs.map fun a => (a.name, ⟨a.initialValue, a.initialValue, false⟩))
  aliases := m.aliases

/-- The record in which the pairs are set one after another; names that are not declared drop
out. -/
def init (m : Model ρ) (pairs : List (String × Value)) : Record :=
  (pairs.foldl (fun r pair => r.set pair.1 pair.2) m.blank).clearDirty

end Model

end QueryLayer

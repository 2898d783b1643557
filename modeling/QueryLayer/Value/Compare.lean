import QueryLayer.Value

/-! # Loose comparison of values

The comparisons behind the built-in predicates. Numbers are compared as numbers across their
kinds, inside lists too; every other pair is equal only by `Value.same`, and ordered only when
both are texts or both booleans.
-/

set_option autoImplicit false

namespace QueryLayer.Value

def numberEq? (a b : Value) : Option Bool :=
  match a.number?, b.number? with
  | some m, some n => some (m.compare? n == some .eq)
  | _, _ => none

mutual

/-- Equality in which numbers of different kinds may be equal, in lists item by item. -/
def looseEq : Value → Value → Bool
  | list xs, list ys => looseEqItems xs ys
  | a, b => (numberEq? a b).getD (a.same b)

def looseEqItems : List Value → List Value → Bool
  | [], [] => true
  | x :: xs, y :: ys => looseEq x y && looseEqItems xs ys
  | _, _ => false

end

/-- The order of two numbers, of two texts by code points, or of two booleans. -/
def looseCompare? : Value → Value → Option Ordering
  | text s, text t => some (compare s t)
  | bool a, bool b => some (compare a b)
  | a, b =>
    match a.number?, b.number? with
    | some m, some n => m.compare? n
    | _, _ => none

def hasInfix (needle text : List Char) : Bool :=
  needle.isPrefixOf text || match text with
    | [] => false
    | _ :: rest => hasInfix needle rest

def includes : Value → Value → Bool
  | list items, needle => items.any fun item => looseEq item needle
  | text s, text t => hasInfix t.toList s.toList
  | _, _ => false

theorem hasInfix_eq_true_iff {needle text : List Char} :
    hasInfix needle text = true ↔ needle <:+: text := by
  induction text with
  | nil => simp [hasInfix]
  | cons c rest ih =>
    rw [hasInfix, Bool.or_eq_true, ih, List.isPrefixOf_iff_prefix, List.infix_cons_iff]

end QueryLayer.Value

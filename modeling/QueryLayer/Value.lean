import QueryLayer.Binary64
import QueryLayer.Entries

/-! # Values

What attributes hold and what constraints compare with: eight kinds of value, lists and maps of
any depth. `Value.same` is equality kind by kind, with doubles compared as numbers; the two
coarser comparisons are in `Value.Compare`.
-/

set_option autoImplicit false

namespace QueryLayer

/-- The kind of a value; its label is what a serialized constraint carries beside the operand. -/
inductive Kind where
  | null
  | bool
  | int
  | uint
  | float
  | text
  | list
  | map
  deriving DecidableEq

def Kind.label : Kind → String
  | .null => "null"
  | .bool => "bool"
  | .int => "int"
  | .uint => "uint"
  | .float => "float64"
  | .text => "text"
  | .list => "list"
  | .map => "map"

theorem Kind.label_injective {a b : Kind} (h : a.label = b.label) : a = b := by
  cases a <;> cases b <;> first | rfl | exact absurd h (by decide)

/-- A value; the entries of a map are in strictly increasing key order. -/
inductive Value where
  | null
  | bool (b : Bool)
  | int (n : Int64)
  | uint (n : UInt64)
  | float (x : Binary64)
  | text (s : String)
  | list (items : List Value)
  | map (entries : List (String × Value))

instance : Inhabited Value := ⟨.null⟩

/-- Induction on a value, through the items of lists and the entries of maps. -/
@[elab_as_elim]
theorem Value.induction {motive : Value → Prop} (null : motive .null) (bool : ∀ b, motive (.bool b))
    (int : ∀ n, motive (.int n)) (uint : ∀ n, motive (.uint n)) (float : ∀ x, motive (.float x))
    (text : ∀ s, motive (.text s))
    (list : ∀ items, (∀ v ∈ items, motive v) → motive (.list items))
    (map : ∀ entries, (∀ entry ∈ entries, motive entry.2) → motive (.map entries))
    (v : Value) : motive v :=
  @Value.rec motive (fun items => ∀ v ∈ items, motive v)
    (fun entries => ∀ entry ∈ entries, motive entry.2) (fun entry => motive entry.2)
    null bool int uint float text list map
    (List.forall_mem_nil _) (fun _ _ hv hvs => List.forall_mem_cons.mpr ⟨hv, hvs⟩)
    (List.forall_mem_nil _) (fun _ _ he hes => List.forall_mem_cons.mpr ⟨he, hes⟩)
    (fun _ _ hv => hv) v

/-- A numeric value: integers are exact, whatever their kind. -/
inductive Number where
  | whole (n : Int)
  | float (x : Binary64)

def Number.toBinary64 : Number → Binary64
  | .whole n => Binary64.ofInt n
  | .float x => x

/-- Two integers are compared exactly; with a double, both sides are compared as doubles. -/
def Number.compare? : Number → Number → Option Ordering
  | .whole m, .whole n => some (compare m n)
  | x, y => x.toBinary64.compare? y.toBinary64

namespace Value

def kind : Value → Kind
  | null => .null
  | bool _ => .bool
  | int _ => .int
  | uint _ => .uint
  | float _ => .float
  | text _ => .text
  | list _ => .list
  | map _ => .map

def isNull : Value → Bool
  | null => true
  | _ => false

theorem isNull_eq_true_iff {v : Value} : v.isNull = true ↔ v = .null := by
  cases v <;> simp [isNull]

def number? : Value → Option Number
  | int n => some (.whole n.toInt)
  | uint n => some (.whole n.toNat)
  | float x => some (.float x)
  | _ => none

def isNumeric (v : Value) : Bool := v.number?.isSome

def toBinary64? (v : Value) : Option Binary64 := v.number?.map Number.toBinary64

def text? : Value → Option String
  | text s => some s
  | _ => none

def list? : Value → Option (List Value)
  | list items => some items
  | _ => none

def map? : Value → Option (List (String × Value))
  | map entries => some entries
  | _ => none

def toList : Value → List Value
  | list items => items
  | v => [v]

def ofPairs (pairs : List (String × Value)) : Value := map (Entries.ofList pairs)

def ofOption : Option Value → Value
  | none => null
  | some v => v

mutual

/-- Equality of values of the same kind; doubles are equal when they stand for the same number. -/
def same : Value → Value → Bool
  | null, null => true
  | bool a, bool b => a == b
  | int m, int n => m == n
  | uint m, uint n => m == n
  | float x, float y => x.same y
  | text s, text t => s == t
  | list xs, list ys => sameItems xs ys
  | map xs, map ys => sameEntries xs ys
  | _, _ => false

def sameItems : List Value → List Value → Bool
  | [], [] => true
  | x :: xs, y :: ys => same x y && sameItems xs ys
  | _, _ => false

def sameEntries : List (String × Value) → List (String × Value) → Bool
  | [], [] => true
  | (k, x) :: xs, (l, y) :: ys => k == l && same x y && sameEntries xs ys
  | _, _ => false

end

instance : BEq Value := ⟨same⟩

end Value

end QueryLayer

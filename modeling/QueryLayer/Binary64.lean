/-! # Binary64 numbers as words

A double is its 64-bit word. Its place on the extended real line is the integer `rank`, so the
order of doubles is the order of integers with the words that stand for no number left out.
Integers become doubles by rounding to the nearest, halves to the even significand.
-/

set_option autoImplicit false

namespace QueryLayer

structure Binary64 where
  bits : UInt64
  deriving DecidableEq

namespace Binary64

/-- The word of positive infinity; a larger magnitude is not a number. -/
def infinityBits : Nat := 0x7ff0000000000000

def signBit : Nat := 0x8000000000000000

def isNegative (x : Binary64) : Bool := decide (signBit ≤ x.bits.toNat)

def magnitude (x : Binary64) : Nat := x.bits.toNat % signBit

def isNaN (x : Binary64) : Bool := decide (infinityBits < x.magnitude)

def isFinite (x : Binary64) : Bool := decide (x.magnitude < infinityBits)

/-- The place of `x` among the doubles counted from zero; both zeros stand at `0`. -/
def rank (x : Binary64) : Int := if x.isNegative then -(x.magnitude : Int) else x.magnitude

def compare? (x y : Binary64) : Option Ordering :=
  if x.isNaN || y.isNaN then none else some (compare x.rank y.rank)

def same (x y : Binary64) : Bool := x.compare? y == some .eq

theorem compare?_eq_some_iff {x y : Binary64} {o : Ordering} :
    x.compare? y = some o ↔ x.isNaN = false ∧ y.isNaN = false ∧ compare x.rank y.rank = o := by
  cases hx : x.isNaN <;> cases hy : y.isNaN <;> simp [compare?, hx, hy]

theorem same_eq_true_iff {x y : Binary64} :
    x.same y = true ↔ x.isNaN = false ∧ y.isNaN = false ∧ x.rank = y.rank := by
  simp [same, compare?_eq_some_iff]

/-- The leading bits of `n` without the last `s`, rounded to the nearest, halves to the even one. -/
def roundShift (n s : Nat) : Nat :=
  let unit := 1 <<< s
  let q := n / unit
  let r := n % unit
  if 2 * r < unit then q else if unit < 2 * r then q + 1 else q + q % 2

/-- The 53 leading bits of `n`, rounded; a carry gives the least number of 54 bits. -/
def significand (n : Nat) : Nat :=
  if n.log2 ≤ 52 then n <<< (52 - n.log2) else roundShift n (n.log2 - 52)

/-- The magnitude of the double nearest to `n`. The leading bit of the significand, and a carry
out of it, add to the exponent field above. -/
def nearestMagnitude (n : Nat) : Nat :=
  if n = 0 then 0 else min infinityBits ((n.log2 + 1022) <<< 52 + significand n)

def ofInt (n : Int) : Binary64 :=
  ⟨UInt64.ofNat (if n < 0 then signBit + nearestMagnitude n.natAbs else nearestMagnitude n.natAbs)⟩

end Binary64

end QueryLayer

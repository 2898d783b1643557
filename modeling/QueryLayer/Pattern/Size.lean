import Std.Data.HashMap
import QueryLayer.Pattern.Shape

/-! # The size of a pattern

A pattern may be no larger than two automata over the bytes of UTF-8 may be that search for it, one
forwards and one backwards. A state takes 32 bytes; each way on from a state that only forks takes
4 more, and each byte range of a state that tells several apart takes 8 more. States of one set of
characters that lead on alike are shared as far as a table with few places remembers them.
-/

set_option autoImplicit false

namespace QueryLayer.Pattern

open Unicode

def sizeLimit : Nat := 10 * 1024 * 1024

abbrev Way := Utf8.ByteRange × Nat

/-- States by their place; each is kept with the ways on from it, before its number. -/
abbrev Table := Std.HashMap Nat (List Way × Nat)

/-- What is laid out, and the states that may be shared. -/
structure Layout where
  states : Nat := 0
  /-- The bytes of the ways on from the states. -/
  ways : Nat := 0
  table : Table := {}

def Layout.size (layout : Layout) : Nat := 32 * layout.states + layout.ways

abbrev Meter := StateT Layout Option

namespace Meter

def spend (states ways : Nat) : Meter Unit := fun layout =>
  let layout := { layout with states := layout.states + states, ways := layout.ways + ways }
  if layout.size ≤ sizeLimit then some ((), layout) else none

/-- Lead on from the end of what was laid out; only a state that forks takes more for it. -/
def link (forks : Bool) : Meter Unit := if forks then spend 0 4 else pure ()

def state (ways : Nat) : Meter Nat := do
  let number := (← get).states
  spend 1 ways
  pure number

/-! ## Sets of characters -/

def forget : Meter Unit := modify fun layout => { layout with table := {} }

def mix (h : UInt64) (n : Nat) : UInt64 := (h ^^^ UInt64.ofNat n) * 0x100000001B3

def mixBasis : UInt64 := 0xCBF29CE484222325

def placeForwards (ways : List Way) : Nat :=
  (ways.foldl (fun h way => mix (mix (mix h way.1.1) way.1.2) way.2) mixBasis % 10000).toNat

def placeBackwards (way : Way) : Nat :=
  (mix (mix (mix mixBasis way.2) way.1.1) way.1.2 % 1000).toNat

/-- The state at a place if it has the same ways on, or a new one that takes the place. -/
def shared (place : Nat) (ways : List Way) (cost : Nat) : Meter Nat := do
  match (← get).table[place]? with
  | some (others, number) => if others == ways then pure number else new
  | none => new
where
  new : Meter Nat := do
    let number ← state cost
    modify fun layout => { layout with table := layout.table.insert place (ways, number) }
    pure number

def sharedBranches (ways : List Way) : Meter Nat :=
  shared (placeForwards ways) ways (8 * ways.length)

def layTree (target : Nat) : ByteTree → List Way → Meter (List Way)
  | .done, others => pure others.reverse
  | .branch range below later, others => do
    let next ← if below.isDone then pure target else layTree target below [] >>= sharedBranches
    layTree target later ((range, next) :: others)

def laySequence (target : Nat) : List Utf8.ByteRange → Meter Unit
  | [] => pure ()
  | range :: rest => do
    let next ← shared (placeBackwards (range, target)) [(range, target)] 0
    laySequence next rest

def laySequences (target : Nat) : List (List Utf8.ByteRange) → Meter Unit
  | [] => pure ()
  | sequence :: rest => do
    laySequence target sequence
    spend 0 4
    laySequences target rest

/-! ## Repetitions -/

/-- As many turns one after another; `forks` says what the layout before them ends with. -/
def copies (body : Meter Bool) : Nat → Bool → Layout → Option (Bool × Layout)
  | 0, forks, layout => some (forks, layout)
  | n + 1, forks, layout =>
    match (do let later ← body; link forks; pure later : Meter Bool) layout with
    | some (later, layout) => copies body n later layout
    | none => none

def chances (body : Meter Bool) : Nat → Bool → Layout → Option (Bool × Layout)
  | 0, forks, layout => some (forks, layout)
  | n + 1, forks, layout =>
    match (do spend 1 8; link forks; body : Meter Bool) layout with
    | some (later, layout) => chances body n later layout
    | none => none

def turns (body : Meter Bool) (reads : Bool) (min : Nat) (max : Option Nat) : Meter Bool :=
  match min, max with
  | 0, some 1 => do
    spend 1 0
    link (← body)
    spend 1 8
    pure false
  | 0, none =>
    if reads then do
      spend 1 4
      link (← body)
      pure true
    else do
      link (← body)
      spend 3 16
      pure false
  | min, none => do
    link (← copies body min false)
    spend 1 4
    pure true
  | min, some max => do
    if min = 0 then spend 1 0
    let forks ← copies body min false
    if min = max then pure forks
    else do
      spend 1 0
      link (← chances body (max - min) forks)
      pure false

/-! ## Shapes -/

mutual

/-- Lay out a shape, and say whether it ends with a state that forks. -/
def lay : Shape → Meter Bool
  | .parcel p => do
    spend p.states p.ways
    pure false
  | .tree t => do
    let target ← state 0
    forget
    let _ ← layTree target t [] >>= sharedBranches
    pure false
  | .spread sequences => do
    spend 1 0
    let target ← state 0
    forget
    laySequences target sequences
    pure false
  | .row shapes => layRow shapes false
  | .fork shapes => do
    layBranches shapes 0
    pure false
  | .enclosed shape => do
    spend 1 0
    link (← lay shape)
    spend 1 0
    pure false
  | .counted shape reads min max => turns (lay shape) reads min max

def layRow : List Shape → Bool → Meter Bool
  | [], forks => pure forks
  | shape :: rest, forks => do
    let later ← lay shape
    link forks
    layRow rest later

def layBranches : List Shape → Nat → Meter Unit
  | [], n => if n ≤ 2 then spend 2 0 else pure ()
  | shape :: rest, n => do
    if n = 2 then spend 2 0
    link (← lay shape)
    spend 0 4
    layBranches rest (n + 1)

end

/-- An automaton that searches; it begins anywhere unless the pattern is bound to the end of the
text where it begins. -/
def layAutomaton (backwards : Bool) (e : Expr) : Meter Unit := do
  let bound := if backwards then e.closesWith .textEnd else e.opensWith .textStart
  spend (if bound then 1 else 3) (if bound then 0 else 16)
  spend (if backwards then 0 else 1) 0
  link (← lay (Shape.ofExpr backwards e))
  spend (if backwards then 1 else 2) 0

end Meter

def Expr.size? (backwards : Bool) (e : Expr) : Option Nat :=
  ((Meter.layAutomaton backwards e).run {}).map fun laid => laid.2.size

def Expr.fits (e : Expr) : Bool := (e.size? false).isSome && (e.size? true).isSome

end QueryLayer.Pattern

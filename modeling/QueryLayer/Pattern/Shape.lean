import QueryLayer.Pattern.Expr
import QueryLayer.Unicode.Utf8

/-! # Shapes of byte automata

What an expression becomes in an automaton over the bytes of UTF-8 that reads forwards or
backwards, before its states are counted.
-/

set_option autoImplicit false

namespace QueryLayer.Pattern

open Unicode

/-- The byte ranges that may come next, each with what may follow it. -/
inductive ByteTree where
  | done
  | branch (range : Utf8.ByteRange) (below others : ByteTree)

namespace ByteTree

def isDone : ByteTree → Bool
  | done => true
  | branch _ _ _ => false

def ofSequence : List Utf8.ByteRange → ByteTree
  | [] => done
  | range :: rest => branch range (ofSequence rest) done

/-- Add a sequence behind all others, below the last branch if it begins with the same range. -/
def add (sequence : List Utf8.ByteRange) : ByteTree → ByteTree
  | done => ofSequence sequence
  | branch range below others =>
    match sequence with
    | [] => branch range below others
    | first :: rest =>
      if !others.isDone then branch range below (add sequence others)
      else if first = range then branch range (add rest below) done
      else branch range below (ofSequence sequence)

def ofSequences (sequences : List (List Utf8.ByteRange)) : ByteTree :=
  sequences.foldl (fun tree sequence => tree.add sequence) done

end ByteTree

def CharSet.encodings (s : CharSet) : List (List Utf8.ByteRange) :=
  s.ranges.toList.flatMap fun range => Utf8.sequences range.1 range.2

/-- States that nothing else shares, and the bytes of the ways on from them. -/
structure Parcel where
  states : Nat := 0
  ways : Nat := 0

def Parcel.add (a b : Parcel) : Parcel := ⟨a.states + b.states, a.ways + b.ways⟩

/-! ## Choices between words

Words that begin alike share the states for their beginning, but not across a word that ends there,
since a word that stands earlier is tried earlier.
-/

namespace Words

def runs : List (List UInt8) → List (List (List UInt8))
  | [] => [[]]
  | [] :: rest => [] :: runs rest
  | word :: rest =>
    match runs rest with
    | run :: later => (word :: run) :: later
    | [] => [[word]]

def byFirst (words : List (List UInt8)) : List (List (List UInt8)) :=
  let firsts := (words.filterMap List.head?).eraseDups
  firsts.map fun b =>
    words.filterMap fun word => if word.head? = some b then some word.tail else none

/-- How many ways on lead to the end; before the first byte one is as good as many. -/
def ends (words : List (List UInt8)) : Nat :=
  Nat.min (words.takeWhile List.isEmpty).length 1 + (words.dropWhile List.isEmpty).count []

def fork : Nat → List (List UInt8) → Parcel
  | 0, _ => {}
  | length + 1, words =>
    let chunks := (runs words).filterMap fun run => if run.isEmpty then none else some (byFirst run)
    chunks.foldl (fun parcel chunk =>
      let ways := if chunk.length = 1 then 0 else 8 * chunk.length
      chunk.foldl (fun parcel rests =>
          if rests.all List.isEmpty then parcel else parcel.add (fork length rests))
        (parcel.add ⟨1, 4 + ways⟩))
      ⟨1, 4 * ends words⟩

def parcel (words : List (List UInt8)) : Parcel :=
  (fork ((words.foldl (fun n word => Nat.max n word.length) 0) + 1) words).add ⟨1, 0⟩

end Words

/-! ## Expressions -/

inductive Shape where
  | parcel (p : Parcel)
  /-- Encodings that are read forwards. -/
  | tree (t : ByteTree)
  /-- Encodings that are read backwards. -/
  | spread (sequences : List (List Utf8.ByteRange))
  | row (shapes : List Shape)
  | fork (shapes : List Shape)
  | enclosed (shape : Shape)
  /-- A repetition; `reads` says that every turn reads something. -/
  | counted (shape : Shape) (reads : Bool) (min : Nat) (max : Option Nat)

def bytesOf (cs : List Char) : List UInt8 := cs.flatMap String.utf8EncodeChar

def Expr.literal? : Expr → Option (List Char)
  | .literal cs => some cs
  | _ => none

namespace Shape

def ofSet (backwards : Bool) (s : CharSet) : Shape :=
  if s.isAscii then parcel ⟨2, 8 * s.ranges.size⟩
  else if backwards then spread s.encodings
  else tree (.ofSequences s.encodings)

mutual

def ofExpr (backwards : Bool) : Expr → Shape
  | .empty => parcel ⟨1, 0⟩
  | .literal cs => parcel ⟨(bytesOf cs).length, 0⟩
  | .one s => ofSet backwards s
  | .look _ => parcel ⟨1, 0⟩
  | .concat parts =>
    let shapes := ofExprs backwards parts
    row (if backwards then shapes.reverse else shapes)
  | .alternate branches =>
    match branches.mapM Expr.literal? with
    | some words =>
      let bytes := words.map bytesOf
      parcel (Words.parcel (if backwards then bytes.map List.reverse else bytes))
    | none => fork (ofExprs backwards branches)
  | .capture e => if backwards then ofExpr backwards e else enclosed (ofExpr backwards e)
  | .repeated e min max _ =>
    counted (ofExpr backwards e) (e.shortest?.any fun n => decide (0 < n)) min max

def ofExprs (backwards : Bool) : List Expr → List Shape
  | [] => []
  | e :: rest => ofExpr backwards e :: ofExprs backwards rest

end

end Shape

end QueryLayer.Pattern

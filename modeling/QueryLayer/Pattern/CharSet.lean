import QueryLayer.Unicode.CaseFold
import QueryLayer.Unicode.Number
import QueryLayer.Unicode.Word

/-! # Sets of characters in patterns

What one position of a pattern may read: closed ranges of code points in increasing order, of which
none meets or touches the next. Two sets that are written alike are therefore equal.
-/

set_option autoImplicit false

namespace QueryLayer.Pattern

open Unicode

structure CharSet where
  ranges : Ranges
  deriving DecidableEq

namespace CharSet

def meetsWithin (ranges : Ranges) (lo hi first last : Nat) : Bool :=
  if first < last then
    let middle := first + (last - first) / 2
    match ranges[middle]? with
    | some range =>
      if hi < range.1 then meetsWithin ranges lo hi first middle
      else if range.2 < lo then meetsWithin ranges lo hi (middle + 1) last
      else true
    | none => false
  else false
termination_by last - first

def meets (s : CharSet) (lo hi : Nat) : Bool := meetsWithin s.ranges lo hi 0 s.ranges.size

def has (s : CharSet) (c : Char) : Bool := s.meets c.toNat c.toNat

/-- Add a range that does not begin before the last one. -/
def join (ranges : Ranges) (range : Nat × Nat) : Ranges :=
  match ranges.back? with
  | some last =>
    if range.1 ≤ last.2 + 1 then ranges.pop.push (last.1, Nat.max last.2 range.2)
    else ranges.push range
  | none => #[range]

def ofList (ranges : List (Nat × Nat)) : CharSet :=
  ⟨(ranges.mergeSort fun a b => decide (a.1 ≤ b.1)).foldl join #[]⟩

def ofChars (ranges : List (Char × Char)) : CharSet :=
  ofList (ranges.map fun range => (range.1.toNat, range.2.toNat))

def single (c : Char) : CharSet := ⟨#[(c.toNat, c.toNat)]⟩

def single? (s : CharSet) : Option Char :=
  match s.ranges.toList with
  | [(lo, hi)] => if lo = hi then some (Char.ofNat lo) else none
  | _ => none

def digit : CharSet := ⟨digitRanges⟩

def blank : CharSet := ⟨blankRanges⟩

def word : CharSet := ⟨wordRanges⟩

def lastCode : Nat := 0x10FFFF

def all : CharSet := ⟨#[(0, lastCode)]⟩

def never : CharSet := ⟨#[]⟩

def isAscii (s : CharSet) : Bool := s.ranges.back?.all fun last => decide (last.2 < 0x80)

/-! ## Operations -/

def union (s t : CharSet) : CharSet := ofList (s.ranges.toList ++ t.ranges.toList)

def unions (sets : List CharSet) : CharSet := ofList (sets.flatMap fun s => s.ranges.toList)

def after (code : Nat) : Nat := if code = 0xD7FF then 0xE000 else code + 1

def before (code : Nat) : Nat := if code = 0xE000 then 0xD7FF else code - 1

/-- What lies between the ranges of a set, from `last` on, which is the end of one of them. Where
only the surrogates lie between two ranges, the ends are the wrong way round. -/
def gapsAfter (last : Nat) : List (Nat × Nat) → List (Nat × Nat)
  | [] => if last < lastCode then [(after last, lastCode)] else []
  | range :: rest => (after last, before range.1) :: gapsAfter range.2 rest

def gaps (s : CharSet) : List (Nat × Nat) :=
  match s.ranges.toList with
  | [] => [(0, lastCode)]
  | range :: rest =>
    (if 0 < range.1 then [(0, before range.1)] else []) ++ gapsAfter range.2 rest

/-- Everything in a gap. Of two ranges that have only the surrogates between them, the neighbours
count as the gap. -/
def compl (s : CharSet) : CharSet :=
  ⟨(s.gaps.map fun gap => (Nat.min gap.1 gap.2, Nat.max gap.1 gap.2)).toArray⟩

def overlaps : List (Nat × Nat) → List (Nat × Nat) → List (Nat × Nat)
  | [], _ => []
  | _, [] => []
  | a :: rest, b :: others =>
    let lo := Nat.max a.1 b.1
    let hi := Nat.min a.2 b.2
    let later := if a.2 < b.2 then overlaps rest (b :: others) else overlaps (a :: rest) others
    if lo ≤ hi then (lo, hi) :: later else later
termination_by left right => left.length + right.length

def inter (s t : CharSet) : CharSet := ⟨(overlaps s.ranges.toList t.ranges.toList).toArray⟩

def diff (s t : CharSet) : CharSet :=
  ⟨(overlaps s.ranges.toList (t.gaps.filter fun gap => decide (gap.1 ≤ gap.2))).toArray⟩

def symmDiff (s t : CharSet) : CharSet := (s.union t).diff (s.inter t)

/-! ## Case -/

/-- With every member, the least character that differs from it only in case. -/
def withLeast (s : CharSet) : CharSet :=
  s.union (ofList (foldRuns.toList.flatMap fun run =>
    if s.meets run.first run.last then
      (run.members.filter fun n => s.meets n n).map fun n => (run.least n, run.least n)
    else []))

/-- With every member, all characters that differ from it only in case. -/
def folded (s : CharSet) : CharSet :=
  let least := s.withLeast
  least.union (ofList (foldRuns.toList.flatMap fun run =>
    if least.meets (run.least run.first) (run.least run.last) then
      (run.members.filter fun n => least.meets (run.least n) (run.least n)).map fun n => (n, n)
    else []))

def asciiFolded (s : CharSet) : CharSet :=
  let lower := s.inter (ofChars [('a', 'z')])
  let upper := s.inter (ofChars [('A', 'Z')])
  unions [s, ⟨lower.ranges.map fun range => (range.1 - 32, range.2 - 32)⟩,
    ⟨upper.ranges.map fun range => (range.1 + 32, range.2 + 32)⟩]

/-! ## Names -/

/-- The bracketed names of character classes. They stand for basic characters only. -/
def named? : String → Option CharSet
  | "alnum" => some (ofChars [('0', '9'), ('A', 'Z'), ('a', 'z')])
  | "alpha" => some (ofChars [('A', 'Z'), ('a', 'z')])
  | "ascii" => some (ofChars [('\x00', '\x7f')])
  | "blank" => some (ofChars [('\t', '\t'), (' ', ' ')])
  | "cntrl" => some (ofChars [('\x00', '\x1f'), ('\x7f', '\x7f')])
  | "digit" => some (ofChars [('0', '9')])
  | "graph" => some (ofChars [('!', '~')])
  | "lower" => some (ofChars [('a', 'z')])
  | "print" => some (ofChars [(' ', '~')])
  | "punct" => some (ofChars [('!', '/'), (':', '@'), ('[', '\x60'), ('\x7b', '~')])
  | "space" => some (ofChars [('\t', '\r'), (' ', ' ')])
  | "upper" => some (ofChars [('A', 'Z')])
  | "word" => some (ofChars [('0', '9'), ('A', 'Z'), ('_', '_'), ('a', 'z')])
  | "xdigit" => some (ofChars [('0', '9'), ('A', 'F'), ('a', 'f')])
  | _ => none

end CharSet

end QueryLayer.Pattern

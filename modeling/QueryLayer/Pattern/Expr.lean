import QueryLayer.Pattern.CharSet

/-! # Pattern expressions

A pattern is read into an `Expr` in simplest form: `sequence`, `choice` and `counted` build one
from its parts, so that no sequence stands in a sequence, neighbouring literals are one, and
branches that begin alike share their beginning.
-/

set_option autoImplicit false

namespace QueryLayer.Pattern

/-- Relations between the characters around a place; the halves look at one side only. -/
inductive Edge where
  | word
  | noWord
  | wordStart
  | wordEnd
  | halfStart
  | halfEnd
  deriving DecidableEq

/-- What a pattern may demand of a place in the text without reading. A carriage return before a
line feed ends a line only if `crlf`. -/
inductive Look where
  | textStart
  | textEnd
  | lineStart (crlf : Bool)
  | lineEnd (crlf : Bool)
  | edge (kind : Edge) (ascii : Bool)
  deriving DecidableEq

def Edge.holds (before after : Bool) : Edge → Bool
  | word => before != after
  | noWord => before == after
  | wordStart => !before && after
  | wordEnd => before && !after
  | halfStart => !before
  | halfEnd => !after

def Look.holds (before after : Option Char) : Look → Bool
  | textStart => before.isNone
  | textEnd => after.isNone
  | lineStart crlf =>
    before.isNone || before == some '\n' || (crlf && before == some '\r' && after != some '\n')
  | lineEnd crlf =>
    after.isNone || (if crlf then after == some '\r' || (after == some '\n' && before != some '\r')
      else after == some '\n')
  | edge kind ascii =>
    let isWord := if ascii then Unicode.isAsciiWord else Unicode.isWord
    kind.holds (before.any isWord) (after.any isWord)

inductive Expr where
  | empty
  | literal (cs : List Char)
  /-- Read one member of `s`. -/
  | one (s : CharSet)
  | look (l : Look)
  | concat (parts : List Expr)
  | alternate (branches : List Expr)
  | capture (e : Expr)
  | repeated (e : Expr) (min : Nat) (max : Option Nat) (greedy : Bool)

namespace Expr

/-! ## Questions -/

mutual

/-- Whether the expression can read nothing at all, wherever it is tried. -/
def readsNothing : Expr → Bool
  | empty => true
  | literal _ => false
  | one _ => false
  | look _ => true
  | concat parts => allReadNothing parts
  | alternate branches => allReadNothing branches
  | capture e => e.readsNothing
  | repeated e _ _ _ => e.readsNothing

def allReadNothing : List Expr → Bool
  | [] => true
  | e :: rest => e.readsNothing && allReadNothing rest

end

mutual

/-- The fewest bytes that the expression reads, if none of its parts reads from an empty set. -/
def shortest? : Expr → Option Nat
  | empty => some 0
  | literal cs => some (cs.foldl (fun n c => n + c.utf8Size) 0)
  | one s => s.ranges[0]?.map fun range => (Char.ofNat range.1).utf8Size
  | look _ => some 0
  | concat parts => shortestSum? parts
  | alternate [] => some 0
  | alternate (e :: rest) => shortestOf? e.shortest? rest
  | capture e => e.shortest?
  | repeated e min _ _ => e.shortest?.map (· * min)

def shortestSum? : List Expr → Option Nat
  | [] => some 0
  | e :: rest =>
    match e.shortest?, shortestSum? rest with
    | some m, some n => some (m + n)
    | _, _ => none

def shortestOf? (least : Option Nat) : List Expr → Option Nat
  | [] => least
  | e :: rest =>
    match e.shortest?, shortestOf? least rest with
    | some m, some n => some (Nat.min m n)
    | _, _ => none

end

mutual

/-- Whether every way through the expression demands `l` before it reads. -/
def opensWith (l : Look) : Expr → Bool
  | empty => false
  | literal _ => false
  | one _ => false
  | look k => k == l
  | concat parts => partsOpenWith l parts
  | alternate branches => branchesOpenWith l branches
  | capture e => e.opensWith l
  | repeated e min _ _ => decide (0 < min) && e.opensWith l

def partsOpenWith (l : Look) : List Expr → Bool
  | [] => false
  | e :: rest => e.opensWith l || (e.readsNothing && partsOpenWith l rest)

def branchesOpenWith (l : Look) : List Expr → Bool
  | [] => true
  | e :: rest => e.opensWith l && branchesOpenWith l rest

end

mutual

def closesWith (l : Look) : Expr → Bool
  | empty => false
  | literal _ => false
  | one _ => false
  | look k => k == l
  | concat parts => partsCloseWith l parts
  | alternate branches => branchesCloseWith l branches
  | capture e => e.closesWith l
  | repeated e min _ _ => decide (0 < min) && e.closesWith l

def partsCloseWith (l : Look) : List Expr → Bool
  | [] => false
  | e :: rest => partsCloseWith l rest || (allReadNothing rest && e.closesWith l)

def branchesCloseWith (l : Look) : List Expr → Bool
  | [] => true
  | e :: rest => e.closesWith l && branchesCloseWith l rest

end

mutual

/-- Whether two expressions are written alike. Captures are told apart wherever they stand. -/
def same : Expr → Expr → Bool
  | empty, empty => true
  | literal cs, literal ds => cs == ds
  | one s, one t => s == t
  | look l, look k => l == k
  | concat parts, concat others => allSame parts others
  | alternate branches, alternate others => allSame branches others
  | repeated e min max greedy, repeated e' min' max' greedy' =>
    min == min' && max == max' && greedy == greedy' && e.same e'
  | _, _ => false

def allSame : List Expr → List Expr → Bool
  | [], [] => true
  | e :: rest, e' :: others => e.same e' && allSame rest others
  | _, _ => false

end

/-! ## Simplest forms -/

def char (c : Char) : Expr := literal [c]

def ofSet (s : CharSet) : Expr :=
  match s.single? with
  | some c => char c
  | none => one s

def attach (e : Expr) (parts : List Expr) : List Expr :=
  match e, parts with
  | empty, parts => parts
  | literal cs, literal ds :: rest => literal (cs ++ ds) :: rest
  | e, parts => e :: parts

def parts : Expr → List Expr
  | concat parts => parts
  | e => [e]

def sequence (es : List Expr) : Expr :=
  match (es.flatMap parts).foldr attach [] with
  | [] => empty
  | [e] => e
  | parts => concat parts

def branches : Expr → List Expr
  | alternate branches => branches
  | e => [e]

def char? : Expr → Option Char
  | literal [c] => some c
  | _ => none

def set? : Expr → Option CharSet
  | one s => some s
  | _ => none

/-- A choice that is no sequence. -/
def choiceOf (es : List Expr) : Expr :=
  match es.flatMap branches with
  | [] => one .never
  | [e] => e
  | branches =>
    match branches.mapM char?, branches.mapM set? with
    | some cs, _ => ofSet (.ofChars (cs.map fun c => (c, c)))
    | none, some sets => ofSet (.unions sets)
    | none, none => alternate branches

def commonLength : List Expr → List Expr → Nat
  | e :: rest, e' :: others => if e.same e' then commonLength rest others + 1 else 0
  | _, _ => 0

def sequence? : Expr → Option (List Expr)
  | concat parts => some parts
  | _ => none

/-- A choice between sequences that begin alike begins with what they have in common. -/
def choice (es : List Expr) : Expr :=
  match (es.flatMap branches).mapM sequence? with
  | some (first :: second :: others) =>
    let shared := (second :: others).foldl (fun n parts => Nat.min n (commonLength first parts))
      first.length
    if shared = 0 then choiceOf es
    else
      let rests := (first :: second :: others).map fun parts => sequence (parts.drop shared)
      sequence (first.take shared ++ [choiceOf rests])
  | _ => choiceOf es

/-- A repetition. Of what reads nothing, one turn is as good as many. -/
def counted (e : Expr) (min : Nat) (max : Option Nat) (greedy : Bool) : Expr :=
  let (min, max) :=
    if e.readsNothing then (Nat.min min 1, some (Nat.min (max.getD 1) 1)) else (min, max)
  if min = 0 ∧ max = some 0 then empty
  else if min = 1 ∧ max = some 1 then e
  else repeated e min max greedy

end Expr

end QueryLayer.Pattern

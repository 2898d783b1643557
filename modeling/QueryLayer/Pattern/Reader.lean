import QueryLayer.Pattern.Size
import QueryLayer.Unicode.Letter

/-! # Reading patterns

The written form of patterns: literals, escapes, classes in brackets, groups, alternation,
repetition and flags. A text that is not of this form is no pattern. Flags hold from where they
are set to the end of the group, alternatives included. What is too deep or too large is no pattern
either. The readers spend one unit of fuel on every construct, and `Expr.ofString?` gives them more
than the text can use.
-/

set_option autoImplicit false

namespace QueryLayer.Pattern

structure Flags where
  /-- Flag `i`: letters match in either case. -/
  fold : Bool := false
  /-- Flag `m`: `^` and `$` match at lines. -/
  lines : Bool := false
  /-- Flag `s`: the dot reads line feeds too. -/
  dotAll : Bool := false
  /-- Flag `x`: white space and comments do not count. -/
  spaced : Bool := false
  /-- Flag `R`: a carriage return belongs to the end of a line. -/
  crlf : Bool := false
  /-- Flag `U`: a repetition is greedy only with a question mark. -/
  swapped : Bool := false
  /-- Flag `u`: named classes, folding and edges of words go beyond the basic characters. -/
  unicode : Bool := true

structure Source where
  rest : List Char
  names : List String

abbrev Reader := StateT Source Option

namespace Reader

open Unicode

/-- Drop white space and, from `#` to the end of a line, comments. -/
def dropSpace (comment : Bool) : List Char → List Char
  | [] => []
  | c :: rest =>
    if comment then dropSpace (c != '\n') rest
    else if c == '#' then dropSpace true rest
    else if isBlank c then dropSpace false rest
    else c :: rest

def rest : Reader (List Char) := do return (← get).rest

def setRest (cs : List Char) : Reader Unit := modify fun source => { source with rest := cs }

def peek? : Reader (Option Char) := do return (← rest).head?

def bump : Reader Unit := do setRest (← rest).tail

def space (flags : Flags) : Reader Unit := do
  if flags.spaced then setRest (dropSpace false (← rest))

def next (flags : Flags) : Reader Unit := do
  bump
  space flags

def expect (c : Char) : Reader Unit := do
  let d :: cs ← rest | failure
  if c == d then setRest cs else failure

def more : Reader Unit := do
  if (← rest).isEmpty then failure

/-! ## Numbers -/

def hexDigits (flags : Flags) : Nat → Nat → Reader Nat
  | 0, acc => pure acc
  | n + 1, acc => do
    let c :: _ ← rest | failure
    let some d := hexValue? c | failure
    next flags
    hexDigits flags n (16 * acc + d)

def hexBraced (flags : Flags) : Nat → Option Nat → Reader Nat
  | 0, _ => failure
  | fuel + 1, acc => do
    let c :: _ ← rest | failure
    next flags
    if c == '}' then match acc with
      | some n => pure n
      | none => failure
    else match hexValue? c with
      | some d => hexBraced flags fuel (some (16 * acc.getD 0 + d))
      | none => failure

def hexChar (flags : Flags) (digits : Nat) : Reader Char := do
  more
  let braced := (← peek?) == some '{'
  let code ← if braced then do
      next flags
      hexBraced flags ((← rest).length + 1) none
    else hexDigits flags digits 0
  match charOf? code with
  | some c => pure c
  | none => failure

def decimalDigits (flags : Flags) : Nat → Option Nat → Reader (Option Nat)
  | 0, acc => pure acc
  | fuel + 1, acc => do
    match ← peek? with
    | some c =>
      if c.isDigit then do
        next flags
        decimalDigits flags fuel (some (10 * acc.getD 0 + (c.toNat - '0'.toNat)))
      else pure acc
    | none => pure acc

/-- A count of repetitions, of at most 32 bits; white space may stand around it. -/
def decimal (flags : Flags) : Reader Nat := do
  setRest ((← rest).dropWhile isBlank)
  let some n ← decimalDigits flags ((← rest).length + 1) none | failure
  setRest ((← rest).dropWhile isBlank)
  space flags
  if n < 0x100000000 then pure n else failure

/-! ## Escapes -/

inductive Atom where
  | char (c : Char)
  | set (s : CharSet)
  | look (l : Look)

/-- Without `u`, nothing but basic characters can be given by two digits, or read by a class. -/
def basicOnly (flags : Flags) (c : Char) : Reader Unit := do
  if !flags.unicode && decide (127 < c.toNat) then failure

def digitSet (flags : Flags) : CharSet :=
  if flags.unicode then .digit else .ofChars [('0', '9')]

def blankSet (flags : Flags) : CharSet :=
  if flags.unicode then .blank else .ofChars [('\t', '\r'), (' ', ' ')]

def wordSet (flags : Flags) : CharSet :=
  if flags.unicode then .word else .ofChars [('0', '9'), ('A', 'Z'), ('_', '_'), ('a', 'z')]

def complement (flags : Flags) (s : CharSet) : Reader CharSet :=
  if flags.unicode then pure s.compl else failure

def edge (flags : Flags) (kind : Edge) : Atom := .look (.edge kind !flags.unicode)

/-- The characters that stand for themselves after a backslash: the basic ones but for letters,
digits and the angles. -/
def standsForItself (c : Char) : Bool :=
  decide (c.toNat < 128) && !c.isAlphanum && c != '<' && c != '>'

def edgeName? : String → Option Edge
  | "start" => some .wordStart
  | "end" => some .wordEnd
  | "start-half" => some .halfStart
  | "end-half" => some .halfEnd
  | _ => none

def edgeLetters (flags : Flags) : Nat → List Char → Reader String
  | 0, _ => failure
  | fuel + 1, acc => do
    match ← peek? with
    | some c =>
      if c.isAlpha || c == '-' then do
        next flags
        edgeLetters flags fuel (c :: acc)
      else pure (String.ofList acc.reverse)
    | none => failure

/-- The edge of a word, which may be narrowed by a name in braces; other braces are left alone. -/
def wordEdge (flags : Flags) : Reader Atom := do
  if (← peek?) != some '{' then return edge flags .word
  let start ← rest
  next flags
  let some c ← peek? | failure
  if c.isAlpha || c == '-' then do
    let name ← edgeLetters flags ((← rest).length + 1) []
    expect '}'
    match edgeName? name with
    | some kind => pure (edge flags kind)
    | none => failure
  else do
    setRest start
    pure (edge flags .word)

def escape (flags : Flags) : Reader Atom := do
  let some c ← peek? | failure
  match c with
  | 'x' => next flags; fixed 2
  | 'u' => next flags; pure (.char (← hexChar flags 4))
  | 'U' => next flags; pure (.char (← hexChar flags 8))
  | 'd' => bump; pure (.set (digitSet flags))
  | 's' => bump; pure (.set (blankSet flags))
  | 'w' => bump; pure (.set (wordSet flags))
  | 'D' => bump; pure (.set (← complement flags (digitSet flags)))
  | 'S' => bump; pure (.set (← complement flags (blankSet flags)))
  | 'W' => bump; pure (.set (← complement flags (wordSet flags)))
  | 'a' => bump; pure (.char '\x07')
  | 'f' => bump; pure (.char '\x0c')
  | 't' => bump; pure (.char '\t')
  | 'n' => bump; pure (.char '\n')
  | 'r' => bump; pure (.char '\r')
  | 'v' => bump; pure (.char '\x0b')
  | 'A' => bump; pure (.look .textStart)
  | 'z' => bump; pure (.look .textEnd)
  | 'b' => bump; wordEdge flags
  | 'B' => bump; pure (edge flags .noWord)
  | '<' => bump; pure (edge flags .wordStart)
  | '>' => bump; pure (edge flags .wordEnd)
  | c =>
    if standsForItself c then do
      bump
      pure (.char c)
    else failure
where
  fixed (digits : Nat) : Reader Atom := do
    let braced := (← peek?) == some '{'
    let c ← hexChar flags digits
    if !braced then basicOnly flags c
    pure (.char c)

/-! ## Nesting -/

/-- The deepest nesting that a pattern may have. -/
def depthLimit : Nat := 250

/-- A part of a pattern, with the number of constructs around the innermost part of it. -/
structure Nested (α : Type) where
  content : α
  depth : Nat

def enclose {α β : Type} (content : α) (parts : List (Nested β)) : Reader (Nested α) :=
  let depth := 1 + (parts.map Nested.depth).foldl Nat.max 0
  if depth ≤ depthLimit then pure ⟨content, depth⟩ else failure

/-! ## Classes in brackets -/

/-- Everything that was listed, the last part first. -/
def listed (parts : List (Nested CharSet)) : Reader (Nested CharSet) :=
  match parts with
  | [] => pure ⟨.never, 0⟩
  | [part] => pure part
  | parts => enclose (.unions (parts.map Nested.content)) parts

inductive SetOp where
  | inter
  | diff
  | symmDiff

def SetOp.apply : SetOp → CharSet → CharSet → CharSet
  | inter => .inter
  | diff => .diff
  | symmDiff => .symmDiff

def foldSet (flags : Flags) (s : CharSet) : CharSet :=
  if flags.fold then (if flags.unicode then s.folded else s.asciiFolded) else s

/-- The operation begun before `right`, if there is one, carried out on it. -/
def settle (flags : Flags) (pending : Option (SetOp × Nested CharSet)) (right : Nested CharSet) :
    Reader (Nested CharSet) :=
  match pending with
  | none => pure right
  | some (op, left) =>
    enclose (op.apply (foldSet flags left.content) (foldSet flags right.content)) [left, right]

def className? (cs : List Char) : Option (Bool × String × List Char) :=
  match cs with
  | '[' :: ':' :: cs =>
    let negated := cs.head? == some '^'
    let cs := if negated then cs.tail else cs
    match cs.dropWhile (· != ':') with
    | ':' :: ']' :: after => some (negated, String.ofList (cs.takeWhile (· != ':')), after)
    | _ => none
  | _ => none

/-- A class that is named in brackets of its own; anything else is left alone. -/
def namedClass (flags : Flags) : Reader (Option CharSet) := do
  match className? (← rest) with
  | none => pure none
  | some (negated, name, after) =>
    match CharSet.named? name with
    | none => pure none
    | some s => do
      setRest after
      let s := foldSet flags s
      let s ← if negated then complement flags s else pure s
      pure (some s)

/-- The character that decides whether a hyphen makes a range: the first after it that counts,
where a `#` is passed over once. -/
def afterHyphen? (flags : Flags) (cs : List Char) : Option Char :=
  if flags.spaced then
    match cs.dropWhile isBlank with
    | '#' :: cs => (cs.dropWhile isBlank).head?
    | cs => cs.head?
  else cs.head?

def classAtom (flags : Flags) : Reader Atom := do
  let some c ← peek? | failure
  bump
  let atom ← if c == '\\' then escape flags else pure (.char c)
  if let .char c := atom then basicOnly flags c
  pure atom

def classRange (flags : Flags) : Reader CharSet := do
  let first ← classAtom flags
  space flags
  let c :: after ← rest | failure
  let far := afterHyphen? flags after
  if c != '-' || far == some ']' || far == some '-' then
    match first with
    | .char c => pure (.single c)
    | .set s => pure s
    | .look _ => failure
  else do
    next flags
    more
    match first, ← classAtom flags with
    | .char lo, .char hi => if lo ≤ hi then pure (.ofChars [(lo, hi)]) else failure
    | _, _ => failure

def hyphens (flags : Flags) : Nat → List (Nested CharSet) → Reader (List (Nested CharSet))
  | 0, _ => failure
  | fuel + 1, parts => do
    if (← peek?) == some '-' then do
      next flags
      more
      hyphens flags fuel (⟨.single '-', 0⟩ :: parts)
    else pure parts

/-- The parts that stand where a class opens: hyphens, or one closing bracket. -/
def firstParts (flags : Flags) : Reader (List (Nested CharSet)) := do
  let parts ← hyphens flags ((← rest).length + 1) []
  if parts.isEmpty && (← peek?) == some ']' then do
    next flags
    more
    pure [⟨.single ']', 0⟩]
  else pure parts

def setOp? : List Char → Option (SetOp × List Char)
  | '&' :: '&' :: cs => some (.inter, cs)
  | '-' :: '-' :: cs => some (.diff, cs)
  | '~' :: '~' :: cs => some (.symmDiff, cs)
  | _ => none

mutual

def bracket (flags : Flags) (room : Nat) : Nat → Reader (Nested CharSet)
  | 0 => failure
  | fuel + 1 => do
    expect '['
    space flags
    more
    let negated := (← peek?) == some '^'
    if negated then do
      next flags
      more
    let inside ← bracketed flags room fuel none (← firstParts flags)
    let s := foldSet flags inside.content
    enclose (← if negated then complement flags s else pure s) [inside]

/-- What stands inside brackets; `parts` are read already, the last one first, and there is room for
`room` classes around each other. -/
def bracketed (flags : Flags) (room : Nat) :
    Nat → Option (SetOp × Nested CharSet) → List (Nested CharSet) → Reader (Nested CharSet)
  | 0, _, _ => failure
  | fuel + 1, pending, parts => do
    space flags
    match ← rest with
    | [] => failure
    | '[' :: _ =>
      match ← namedClass flags with
      | some s => bracketed flags room fuel pending (⟨s, 0⟩ :: parts)
      | none =>
        match room with
        | 0 => failure
        | room + 1 => do
          let part ← bracket flags room fuel
          bracketed flags (room + 1) fuel pending (part :: parts)
    | ']' :: cs => do
      setRest cs
      settle flags pending (← listed parts)
    | cs =>
      match setOp? cs with
      | some (op, cs) => do
        setRest cs
        let left ← settle flags pending (← listed parts)
        bracketed flags room fuel (some (op, left)) []
      | none => do
        let s ← classRange flags
        bracketed flags room fuel pending (⟨s, 0⟩ :: parts)

end

/-! ## Groups and flags -/

def Flags.set? (on : Bool) (flags : Flags) : Char → Option Flags
  | 'i' => some { flags with fold := on }
  | 'm' => some { flags with lines := on }
  | 's' => some { flags with dotAll := on }
  | 'x' => some { flags with spaced := on }
  | 'R' => some { flags with crlf := on }
  | 'u' => some { flags with unicode := on }
  | 'U' => some { flags with swapped := on }
  | _ => none

/-- Flags up to a colon or a closing parenthesis. No letter stands twice, and a hyphen, after which
the letters are switched off, stands at most once and not at the end. -/
def flagLetters (on : Bool) (seen : List Char) (flags : Flags) : Nat → Reader Flags
  | 0 => failure
  | fuel + 1 => do
    let some c ← peek? | failure
    if c == ':' || c == ')' then
      if seen.head? == some '-' then failure else pure flags
    else if seen.contains c then failure
    else do
      bump
      if c == '-' then flagLetters false (c :: seen) flags fuel
      else match Flags.set? on flags c with
        | some flags => flagLetters on (c :: seen) flags fuel
        | none => failure

/-- The name of a group, which no other group has. -/
def groupName : Reader Unit := do
  let cs ← rest
  let name := cs.takeWhile (· != '>')
  let first :: others := name | failure
  let startsWell := first == '_' || isLetter first
  let goesOnWell := others.all fun c =>
    c == '_' || c == '.' || c == '[' || c == ']' || isLetter c || isNumber c
  let '>' :: after := cs.drop name.length | failure
  let name := String.ofList name
  if startsWell && goesOnWell && !(← get).names.contains name then
    modify fun source => ⟨after, name :: source.names⟩
  else failure

/-- What an opening parenthesis begins: a group read with some flags, which may capture what it
reads, or flags for what follows. -/
inductive Opening where
  | group (capture : Bool) (flags : Flags)
  | setting (flags : Flags)

/-- What stands between an opening parenthesis and the body of the group. Looking around and
groups that cannot be left are not part of the language. -/
def opening (flags : Flags) : Reader Opening := do
  match ← rest with
  | '?' :: 'P' :: '<' :: cs => do
    setRest cs
    groupName
    pure (.group true flags)
  | '?' :: '<' :: cs => do
    if cs.head? == some '=' || cs.head? == some '!' then failure
    setRest cs
    groupName
    pure (.group true flags)
  | '?' :: cs => do
    setRest cs
    let inside ← flagLetters true [] flags (cs.length + 1)
    let some c ← peek? | failure
    bump
    if c == ':' then pure (.group false inside)
    else if cs.head? == some ')' then failure
    else pure (.setting inside)
  | _ => pure (.group true flags)

/-! ## Expressions -/

def readDot (flags : Flags) : Reader Expr :=
  if !flags.unicode then failure
  else if flags.dotAll then pure (.one .all)
  else if flags.crlf then pure (.one (CharSet.compl (.ofChars [('\n', '\n'), ('\r', '\r')])))
  else pure (.one (CharSet.compl (.single '\n')))

def ofAtom (flags : Flags) : Atom → Expr
  | .char c => .ofSet (foldSet flags (.single c))
  | .set s => .ofSet s
  | .look l => .look l

def primitive (flags : Flags) : Reader Expr := do
  let some c ← peek? | failure
  bump
  match c with
  | '.' => readDot flags
  | '^' => pure (.look (if flags.lines then .lineStart flags.crlf else .textStart))
  | '$' => pure (.look (if flags.lines then .lineEnd flags.crlf else .textEnd))
  | '\\' => return ofAtom flags (← escape flags)
  | c => pure (ofAtom flags (.char c))

def counts (flags : Flags) : Reader (Nat × Option Nat) := do
  next flags
  more
  let min ← decimal flags
  let max ← if (← peek?) == some ',' then do
      next flags
      more
      if (← peek?) == some '}' then pure none else some <$> decimal flags
    else pure (some min)
  if (← peek?) != some '}' then failure
  next flags
  if max.all fun max => decide (min ≤ max) then pure (min, max) else failure

def greed (flags : Flags) : Reader Bool := do
  if (← peek?) == some '?' then do
    bump
    pure flags.swapped
  else pure !flags.swapped

inductive Item where
  | expr (e : Nested Expr)
  | setting

def Item.toExpr : Item → Nested Expr
  | .expr e => e
  | .setting => ⟨.empty, 0⟩

def sequence (items : List Item) : Reader (Nested Expr) :=
  match items with
  | [] => pure ⟨.empty, 0⟩
  | [item] => pure item.toExpr
  | items =>
    let parts := items.reverse.map Item.toExpr
    enclose (.sequence (parts.map Nested.content)) parts

def repeatLast (flags : Flags) (min : Nat) (max : Option Nat) : List Item → Reader (List Item)
  | .expr e :: items => do
    let repeated ← enclose (.counted e.content min max (← greed flags)) [e]
    pure (.expr repeated :: items)
  | _ => failure

mutual

/-- The branches up to the end of the group or of the pattern, with room for `room` groups around
each other; `done` are read already, the last one first. -/
def branches (room : Nat) : Nat → Flags → List (Nested Expr) → Reader (Nested Expr)
  | 0, _, _ => failure
  | fuel + 1, flags, done => do
    let (e, flags) ← branch room fuel flags []
    if (← peek?) == some '|' then do
      bump
      branches room fuel flags (e :: done)
    else if done.isEmpty then pure e
    else
      let all := (e :: done).reverse
      enclose (.choice (all.map Nested.content)) all

/-- One branch, and the flags that hold behind it; `items` are read already, the last one first. -/
def branch (room : Nat) : Nat → Flags → List Item → Reader (Nested Expr × Flags)
  | 0, _, _ => failure
  | fuel + 1, flags, items => do
    space flags
    match ← peek? with
    | none | some ')' | some '|' => return (← sequence items, flags)
    | some '(' => do
      next flags
      match ← opening flags with
      | .setting flags => branch room fuel flags (.setting :: items)
      | .group capture inside =>
        match room with
        | 0 => failure
        | room + 1 => do
          let e ← branches room fuel inside []
          expect ')'
          let group ← enclose (if capture then .capture e.content else e.content) [e]
          branch (room + 1) fuel flags (.expr group :: items)
    | some '[' => do
      let s ← bracket flags depthLimit fuel
      branch room fuel flags (.expr ⟨.ofSet s.content, s.depth⟩ :: items)
    | some '?' => do
      bump
      branch room fuel flags (← repeatLast flags 0 (some 1) items)
    | some '*' => do
      bump
      branch room fuel flags (← repeatLast flags 0 none items)
    | some '+' => do
      bump
      branch room fuel flags (← repeatLast flags 1 none items)
    | some '{' => do
      let (min, max) ← counts flags
      branch room fuel flags (← repeatLast flags min max items)
    | some _ => do
      let e ← primitive flags
      branch room fuel flags (.expr ⟨e, 0⟩ :: items)

end

end Reader

def Expr.ofString? (pattern : String) : Option Expr :=
  let cs := pattern.toList
  match Reader.branches Reader.depthLimit (2 * cs.length + 2) {} [] ⟨cs, []⟩ with
  | some (e, source) => if source.rest.isEmpty && e.content.fits then some e.content else none
  | none => none

end QueryLayer.Pattern

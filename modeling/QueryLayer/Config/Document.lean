import QueryLayer.Config

/-! # Documents of settings

Lines `key = value` with comments, where keys are bare or quoted and values are texts or booleans.
This is the part of TOML in which a configuration can be written: what else TOML has, such as
numbers, tables and dotted keys, is no setting, and a document with any of it is refused whole.
-/

set_option autoImplicit false

namespace QueryLayer.Document

open Config (Setting)
open Unicode

def isSpace (c : Char) : Bool := c == ' ' || c == '\t'

/-- Every character but the control characters, of which only the tab may stand in a line. -/
def isPlain (c : Char) : Bool := c == '\t' || (decide (32 ≤ c.toNat) && c.toNat != 127)

def isBareKey (c : Char) : Bool := c.isAlphanum || c == '_' || c == '-'

/-! ## Texts in double quotes -/

/-- What the next character of a text in double quotes belongs to. -/
inductive Mode where
  | plain
  | escape
  /-- A code point of which `left` digits are to come. -/
  | code (left value : Nat)
  /-- White space that a backslash at the end of a line removes; `broken` after the line's end. -/
  | gap (broken : Bool)

/-- A mode may leave the next character to a mode of lower rank. -/
def Mode.rank : Mode → Nat
  | escape => 2
  | gap _ => 1
  | _ => 0

def escaped? : Char → Option Char
  | 'b' => some '\x08'
  | 't' => some '\t'
  | 'n' => some '\n'
  | 'f' => some '\x0c'
  | 'r' => some '\r'
  | 'e' => some '\x1b'
  | '"' => some '"'
  | '\\' => some '\\'
  | _ => none

def codeDigits? : Char → Option Nat
  | 'x' => some 2
  | 'u' => some 4
  | 'U' => some 8
  | _ => none

def before (c : Char) (body : Option (List Char × List Char)) : Option (List Char × List Char) :=
  body.map fun (cs, rest) => (c :: cs, rest)

/-- At most two quotes before the closing three belong to the text. -/
def spareQuotes (quote : Char) (rest : List Char) : List Char × List Char :=
  let spare := (rest.take 2).takeWhile (· == quote)
  (spare, rest.drop spare.length)

def quoted (triple : Bool) (mode : Mode) (cs : List Char) : Option (List Char × List Char) :=
  match mode, cs with
  | _, [] => none
  | .plain, c :: rest =>
    if c == '"' then
      if !triple then some ([], rest)
      else if rest.take 2 == ['"', '"'] then some (spareQuotes '"' (rest.drop 2))
      else before c (quoted triple .plain rest)
    else if c == '\\' then quoted triple .escape rest
    else if isPlain c || (triple && (c == '\n' || (c == '\r' && rest.head? == some '\n'))) then
      before c (quoted triple .plain rest)
    else none
  | .escape, c :: rest =>
    match escaped? c, codeDigits? c with
    | some d, _ => before d (quoted triple .plain rest)
    | none, some digits => quoted triple (.code digits 0) rest
    | none, none => if triple then quoted triple (.gap false) (c :: rest) else none
  | .code left value, c :: rest =>
    match hexValue? c with
    | none => none
    | some d =>
      if 1 < left then quoted triple (.code (left - 1) (16 * value + d)) rest
      else match charOf? (16 * value + d) with
        | some e => before e (quoted triple .plain rest)
        | none => none
  | .gap broken, c :: rest =>
    if isSpace c then quoted triple (.gap broken) rest
    else if c == '\n' then quoted triple (.gap true) rest
    else if c == '\r' && rest.head? == some '\n' then quoted triple (.gap broken) rest
    else if broken then quoted triple .plain (c :: rest)
    else none
termination_by (cs.length, mode.rank)
decreasing_by all_goals simp_wf; grind [Mode.rank]

/-! ## Texts in single quotes -/

def literal (triple : Bool) : List Char → Option (List Char × List Char)
  | [] => none
  | c :: rest =>
    if c == '\'' then
      if !triple then some ([], rest)
      else if rest.take 2 == ['\'', '\''] then some (spareQuotes '\'' (rest.drop 2))
      else before c (literal triple rest)
    else if isPlain c || (triple && (c == '\n' || (c == '\r' && rest.head? == some '\n'))) then
      before c (literal triple rest)
    else none

/-! ## Settings -/

/-- A line feed right after three opening quotes does not belong to the text. -/
def dropNewline : List Char → List Char
  | '\n' :: rest => rest
  | '\r' :: '\n' :: rest => rest
  | cs => cs

/-- A text in any of the four forms of quotes; a key has only the two of single lines. -/
def text? (key : Bool) : List Char → Option (List Char × List Char)
  | '"' :: '"' :: '"' :: rest => if key then none else quoted true .plain (dropNewline rest)
  | '"' :: rest => quoted false .plain rest
  | '\'' :: '\'' :: '\'' :: rest => if key then none else literal true (dropNewline rest)
  | '\'' :: rest => literal false rest
  | _ => none

def key? (cs : List Char) : Option (String × List Char) :=
  match cs.takeWhile isBareKey with
  | [] => (text? true cs).map fun (name, rest) => (String.ofList name, rest)
  | name => some (String.ofList name, cs.drop name.length)

def value? : List Char → Option (Setting × List Char)
  | 't' :: 'r' :: 'u' :: 'e' :: rest => some (.bool true, rest)
  | 'f' :: 'a' :: 'l' :: 's' :: 'e' :: rest => some (.bool false, rest)
  | cs => (text? false cs).map fun (s, rest) => (.text (String.ofList s), rest)

def setting? (cs : List Char) : Option ((String × Setting) × List Char) := do
  let (key, rest) ← key? cs
  let '=' :: rest := rest.dropWhile isSpace | none
  let (value, rest) ← value? (rest.dropWhile isSpace)
  some ((key, value), rest)

def endLine? (cs : List Char) : Option (List Char) :=
  let cs := cs.dropWhile isSpace
  match (if cs.head? == some '#' then cs.dropWhile isPlain else cs) with
  | [] => some []
  | '\n' :: rest => some rest
  | '\r' :: '\n' :: rest => some rest
  | _ => none

/-- The settings of the remaining lines; no key stands twice. -/
def lines : Nat → List (String × Setting) → List Char → Option (List (String × Setting))
  | 0, _, _ => none
  | fuel + 1, settings, cs => do
    let cs := cs.dropWhile isSpace
    if cs.isEmpty then return settings.reverse
    if let some rest := endLine? cs then lines fuel settings rest
    else do
      let (setting, rest) ← setting? cs
      if settings.any fun other => other.1 == setting.1 then none
      let rest ← endLine? rest
      lines fuel (setting :: settings) rest

def read? (document : String) : Option (List (String × Setting)) :=
  let cs := document.toList
  let cs := if cs.head? == some '\ufeff' then cs.tail else cs
  lines (cs.length + 1) [] cs

end QueryLayer.Document

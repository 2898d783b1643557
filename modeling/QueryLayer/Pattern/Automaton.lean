import QueryLayer.Pattern
import QueryLayer.Pattern.Reader

/-! # Searching for a pattern

An expression becomes an automaton whose states are all tried side by side, so that a search takes
time proportional to the text and to the automaton, whatever the pattern.
-/

set_option autoImplicit false

namespace QueryLayer.Pattern

inductive Node where
  | char (c : Char) (next : Nat)
  | one (s : CharSet) (next : Nat)
  | look (l : Look) (next : Nat)
  | fork (left right : Nat)
  | accept

structure Automaton where
  start : Nat
  nodes : Array Node

namespace Automaton

/-! ## Construction

Every part of an expression is put in front of what comes later.
-/

def push (node : Nat → Node) : Automaton → Automaton
  | ⟨next, nodes⟩ => ⟨nodes.size, nodes.push (node next)⟩

def forkTo (other : Nat) : Automaton → Automaton
  | ⟨next, nodes⟩ => ⟨nodes.size, nodes.push (.fork next other)⟩

def loop (body : Automaton → Automaton) : Automaton → Automaton
  | ⟨next, nodes⟩ =>
    let turn := nodes.size
    match body ⟨turn, nodes.push .accept⟩ with
    | ⟨first, nodes⟩ => ⟨first, nodes.setIfInBounds turn (.fork first next)⟩

/-- Up to `n` turns, before each of which the repetition may end. -/
def chances (body : Automaton → Automaton) (n : Nat) : Automaton → Automaton
  | ⟨next, nodes⟩ => Nat.repeat (fun later => (body later).forkTo next) n ⟨next, nodes⟩

def turns (body : Automaton → Automaton) (min : Nat) (max : Option Nat) (later : Automaton) :
    Automaton :=
  match min, max with
  | min, some max => Nat.repeat body min (chances body (max - min) later)
  | min + 1, none => Nat.repeat body min (loop body later)
  | 0, none =>
    match later with
    | ⟨next, nodes⟩ => (loop body ⟨next, nodes⟩).forkTo next

mutual

def prepend (e : Expr) (later : Automaton) : Automaton :=
  match e with
  | .empty => later
  | .literal cs => cs.foldr (fun c later => later.push (.char c)) later
  | .one s => later.push (.one s)
  | .look l => later.push (.look l)
  | .concat parts => prependAll parts later
  | .alternate branches => prependAny branches later
  | .capture e => prepend e later
  | .repeated e min max _ => turns (prepend e) min max later

def prependAll (parts : List Expr) (later : Automaton) : Automaton :=
  match parts with
  | [] => later
  | [e] => prepend e later
  | e :: rest => prepend e (prependAll rest later)

def prependAny (branches : List Expr) (later : Automaton) : Automaton :=
  match branches, later with
  | [], later => later
  | [e], later => prepend e later
  | e :: rest, ⟨next, nodes⟩ =>
    match prependAny rest ⟨next, nodes⟩ with
    | ⟨other, nodes⟩ => (prepend e ⟨next, nodes⟩).forkTo other

end

def ofExpr (e : Expr) : Automaton := prepend e ⟨0, #[.accept]⟩

/-! ## Search -/

/-- What is known after all states that can be reached at a place of the text were followed. A state
was followed there if its mark is the number of the place. -/
structure Frontier where
  marks : Array Nat
  /-- The states behind the character after the place. -/
  later : List Nat
  accepted : Bool

def follow (nodes : Array Node) (place : Nat) (before after : Option Char) :
    Nat → List Nat → Array Nat → List Nat → Bool → Frontier
  | 0, _, marks, later, accepted => ⟨marks, later, accepted⟩
  | _, [], marks, later, accepted => ⟨marks, later, accepted⟩
  | fuel + 1, i :: todo, marks, later, accepted =>
    if marks.getD i place == place then
      follow nodes place before after fuel todo marks later accepted
    else
      let marks := marks.setIfInBounds i place
      match nodes[i]? with
      | some (.char c next) =>
        let later := if after == some c then next :: later else later
        follow nodes place before after fuel todo marks later accepted
      | some (.one s next) =>
        let later := if after.any s.has then next :: later else later
        follow nodes place before after fuel todo marks later accepted
      | some (.look l next) =>
        let todo := if l.holds before after then next :: todo else todo
        follow nodes place before after fuel todo marks later accepted
      | some (.fork left right) =>
        follow nodes place before after fuel (left :: right :: todo) marks later accepted
      | some .accept => follow nodes place before after fuel todo marks later true
      | none => follow nodes place before after fuel todo marks later accepted

/-- All that can be reached from `states`; every state but those given is put on the list by one
that is followed for the first time. -/
def frontier (a : Automaton) (place : Nat) (before after : Option Char) (states : List Nat)
    (marks : Array Nat) : Frontier :=
  follow a.nodes place before after (states.length + 2 * a.nodes.size + 1) states marks [] false

/-- Whether the pattern occurs from a place on, or goes on there from one of `states`. -/
def searchFrom (a : Automaton) :
    Nat → Option Char → List Nat → Array Nat → List Char → Bool
  | place, before, states, marks, [] =>
    (a.frontier place before none (a.start :: states) marks).accepted
  | place, before, states, marks, c :: rest =>
    match a.frontier place before (some c) (a.start :: states) marks with
    | ⟨marks, later, accepted⟩ => accepted || searchFrom a (place + 1) (some c) later marks rest

def search (a : Automaton) (text : String) : Bool :=
  a.searchFrom 1 none [] (Array.replicate a.nodes.size 0) text.toList

end Automaton

/-- Reads all patterns but those that name a class of characters by a property. -/
def Engine.automata : Engine where
  Compiled := Automaton
  compile source := (Expr.ofString? source).map Automaton.ofExpr
  isMatch := Automaton.search

end QueryLayer.Pattern

import Mathlib.Data.Finset.Card
import QueryLayer.Predicate
import QueryLayer.Proofs.RegistryHistory

/-! # Predicates and their histories

Predicates are registered one by one or through a namespace, and all of them can be cleared. Only
the full name counts afterwards: it does not matter where a namespace ends in it, and a predicate
inside a namespace is never reached by a registration under its bare name. The same answers are
given by a table of the predicates with the list of all names beside it.
-/

set_option autoImplicit false

namespace QueryLayer

namespace Registry

variable {α : Type}

theorem has_eq_true_iff {r : Registry α} {name : String} : r.has name = true ↔ name ∈ r.names := by
  rw [has, lookup, Entries.isSome_find?_iff, Entries.keys, List.map_reverse, List.mem_reverse]
  rfl

theorem nodup_eraseDups (names : List String) : names.eraseDups.Nodup := by
  induction names using List.reverseRecOn with
  | nil => exact List.nodup_nil
  | append_singleton names name ih =>
    rw [eraseDups_concat]
    split
    · exact ih
    · rename_i hnew
      rw [← List.concat_eq_append, List.nodup_concat, List.mem_eraseDups]
      exact ⟨hnew, ih⟩

theorem distinct_eq_card (r : Registry α) : r.distinct = r.names.toFinset.card := by
  have hsame : r.names.toFinset = r.names.eraseDups.toFinset := by
    ext name
    simp
  rw [hsame, List.toFinset_card_of_nodup (nodup_eraseDups _)]
  rfl

theorem foldl_change_entries (made : List (String × α)) (r : Registry α) :
    (made.map fun entry => Change.register entry.1 entry.2).foldl change r =
      ⟨r.entries ++ made⟩ := by
  induction made generalizing r with
  | nil => simp
  | cons entry rest ih =>
    rw [List.map_cons, List.foldl_cons, ih]
    simp [change, register]

/-- A table of what stands under each name, beside the names of all registrations in order. -/
structure Keyed (α : Type) where
  table : List (String × α) := []
  order : List String := []

namespace Keyed

def change (k : Keyed α) : Change α → Keyed α
  | .register name a => ⟨Entries.insert name a k.table, k.order ++ [name]⟩
  | .clear => {}

def after (history : List (Change α)) : Keyed α := history.foldl change {}

structure Represents (k : Keyed α) (r : Registry α) : Prop where
  sorted : Entries.Sorted k.table
  find? : ∀ name, Entries.find? name k.table = r.lookup name
  order : k.order = r.names

theorem Represents.change {k : Keyed α} {r : Registry α} (h : k.Represents r) (c : Change α) :
    (k.change c).Represents (r.change c) := by
  cases c with
  | register name a =>
    refine ⟨Entries.sorted_insert h.sorted, fun other => ?_, ?_⟩
    · rw [Keyed.change, Registry.change, Entries.find?_insert, lookup_register, h.find?]
    · rw [Keyed.change, Registry.change, names_register, h.order]
  | clear => exact ⟨List.Pairwise.nil, fun _ => rfl, rfl⟩

theorem represents_after (history : List (Change α)) :
    (after history).Represents (Registry.after history) := by
  induction history using List.reverseRecOn with
  | nil => exact ⟨List.Pairwise.nil, fun _ => rfl, rfl⟩
  | append_singleton history c ih =>
    rw [after, List.foldl_concat, after_concat]
    exact ih.change c

theorem Represents.length_table {k : Keyed α} {r : Registry α} (h : k.Represents r) :
    k.table.length = r.distinct := by
  have hkeys : (Entries.keys k.table).toFinset = r.names.toFinset := by
    ext name
    rw [List.mem_toFinset, List.mem_toFinset, ← Entries.isSome_find?_iff, h.find?,
      ← has_eq_true_iff]
    rfl
  rw [distinct_eq_card, ← hkeys, List.toFinset_card_of_nodup h.sorted.nodup_keys, Entries.keys,
    List.length_map]

end Keyed

end Registry

namespace Predicates

open Registry (Keyed)

/-- A registry seen from inside a namespace. -/
structure View where
  predicates : Predicates
  ns : String

namespace View

def key (v : View) (name : String) : String := v.ns ++ "." ++ name

def register (v : View) (name : String) (p : Predicate) : View :=
  { v with predicates := v.predicates.register (v.key name) p }

def lookup (v : View) (name : String) : Option Predicate := v.predicates.lookup (v.key name)

end View

inductive Change where
  | register (name : String) (p : Predicate)
  /-- Register all of these, one after another, from inside a namespace. -/
  | registerIn (ns : String) (named : List (String × Predicate))
  | clear

def change (ps : Predicates) : Change → Predicates
  | .register name p => ps.register name p
  | .registerIn ns named =>
    (named.foldl (fun v entry => v.register entry.1 entry.2) (View.mk ps ns)).predicates
  | .clear => {}

def Change.parts : Change → List (Registry.Change Predicate)
  | register name p => [.register name p]
  | registerIn ns named => named.map fun entry => .register (ns ++ "." ++ entry.1) entry.2
  | clear => [.clear]

def after (start : Predicates) (changes : List Change) : Predicates := changes.foldl change start

def history (start : Predicates) (changes : List Change) : List (Registry.Change Predicate) :=
  (start.entries.map fun entry => .register entry.1 entry.2) ++ changes.flatMap Change.parts

def made (start : Predicates) (changes : List Change) : List (String × Predicate) :=
  Registry.registrations (history start changes)

theorem foldl_view_register (v : View) (named : List (String × Predicate)) :
    named.foldl (fun v entry => v.register entry.1 entry.2) v =
      ⟨(Change.registerIn v.ns named).parts.foldl Registry.change v.predicates, v.ns⟩ := by
  induction named generalizing v with
  | nil => rfl
  | cons entry rest ih => exact ih (v.register entry.1 entry.2)

theorem change_eq_parts (ps : Predicates) (c : Change) :
    ps.change c = c.parts.foldl Registry.change ps := by
  cases c with
  | register name p | clear => rfl
  | registerIn ns named => rw [change, foldl_view_register]

theorem after_eq (start : Predicates) (changes : List Change) :
    start.after changes = Registry.after (history start changes) := by
  have hstart : (start.entries.map fun entry => Registry.Change.register entry.1 entry.2).foldl
      Registry.change {} = start := Registry.foldl_change_entries start.entries {}
  rw [Registry.after, history, List.foldl_append, hstart, List.foldl_flatMap, after]
  exact List.foldl_ext _ _ _ fun ps c _ => change_eq_parts ps c

theorem name_ne_qualified (ns name : String) : name ≠ qualified ns name := by
  intro h
  have hlength := congrArg String.length h
  simp only [qualified, String.length_append] at hlength
  have hdot : ".".length = 1 := rfl
  omega

/-- What a registry of predicates tells after any changes, whatever it was started with. -/
theorem answers_after_changes (start : Predicates) (changes : List Change) :
    let ps := start.after changes
    let made := start.made changes
    let keyed := Keyed.after (start.history changes)
    (∀ key p, ps.lookup key = some p ↔ Registry.LastUnder made key p) ∧
    (∀ key, ps.lookup key = none ↔ ∀ p, (key, p) ∉ made) ∧
    (∀ key other p, (ps.register other p).lookup key =
      if key = other then some p else ps.lookup key) ∧
    (∀ ns name p, ps.registerIn ns name p = ps.register (ns ++ "." ++ name) p ∧
      ((View.mk ps ns).register name p).predicates = ps.register (ns ++ "." ++ name) p) ∧
    (∀ ns name, ps.lookupIn ns name = ps.lookup (ns ++ "." ++ name) ∧
      (View.mk ps ns).lookup name = ps.lookup (ns ++ "." ++ name)) ∧
    (∀ key ns name p, lookupIn (ps.register key p) ns name =
      if ns ++ "." ++ name = key then some p else ps.lookupIn ns name) ∧
    (∀ ns name p, lookupIn (ps.register name p) ns name = ps.lookupIn ns name) ∧
    (∀ key, ps.has key = true ↔ key ∈ ps.names) ∧
    ps.names = made.map Prod.fst ∧
    ps.distinct = (made.map Prod.fst).toFinset.card ∧
    keyed.Represents ps ∧ keyed.table.length = ps.distinct := by
  intro ps made keyed
  have hps : ps = Registry.after (start.history changes) := after_eq start changes
  have hanswers : ps.AnswersFrom made := by
    rw [hps]
    exact Registry.answersFrom_after _
  have hnames : ps.names = made.map Prod.fst := by
    rw [hps, Registry.names, Registry.entries_after]
    rfl
  have hkeyed : keyed.Represents ps := by
    rw [hps]
    exact Keyed.represents_after _
  refine ⟨hanswers.lookup, hanswers.missing, fun key other p => ?_, fun ns name p => ⟨rfl, rfl⟩,
    fun ns name => ⟨rfl, rfl⟩, fun key ns name p => ?_, fun ns name p => ?_,
    fun key => Registry.has_eq_true_iff, hnames, ?_, hkeyed, hkeyed.length_table⟩
  · exact Registry.lookup_register ps other key p
  · exact Registry.lookup_register ps key (ns ++ "." ++ name) p
  · rw [lookupIn, Registry.lookup_register, if_neg (name_ne_qualified ns name).symm, lookupIn]
  · rw [Registry.distinct_eq_card, hnames]

/-- A name that is split at another dot is the same name. -/
example (p : Predicate) : ((Predicates.registerIn {} "user" "email.adult" p).lookupIn "user.email"
    "adult") = some p := rfl

end Predicates

end QueryLayer

import QueryLayer.Proofs.ChainSteps
import QueryLayer.Proofs.CheckAhead
import QueryLayer.Proofs.RegistryHistory

/-! # Which adapter a query is handed to

While a query is being built the registry of adapters may change as well. A name that the query asks
for is looked up only when the query is carried out, in the registry as it is then; what else the
query asks for, and what its references say about adapters, does not matter.
-/

set_option autoImplicit false

namespace QueryLayer

variable {P : Plugins}

namespace Query

open Pipeline

theorem exec_of_selected {b : Behavior P} {ctx : Context P} {q : Query P} {a : P.Adapter}
    (hadapter : q.adapter ctx.adapters = .ok a) (store : P.Store) :
    let found := q.unscoped.withComplaints b ctx.predicates a
    (∃ e rules, q.exec b ctx store = ⟨.error e, store, ruleCalls b rules found⟩) ∨
      q.exec b ctx store =
        (Query.dispatch b a (effects (q.rules.map b.queryRule) found) store).after
          (ruleCalls b q.rules found) := by
  intro found
  by_cases hpasses : q.unscoped.Passes b ctx.predicates a
  · obtain ⟨hcompletes, hmessages⟩ := passes_iff.mp hpasses
    have hempty : (effects (q.rules.map b.queryRule) found).messages.isEmpty = true :=
      List.isEmpty_iff.mpr hmessages
    rw [exec_of_completes hadapter hcompletes]
    exact .inr (if_pos hempty)
  · obtain ⟨e, rules, -, hexec⟩ := exec_of_not_passes hadapter hpasses store
    exact .inl ⟨e, rules, hexec⟩

/-- A query is dispatched to the adapter that was selected for it and to no other, as the rules
leave it. -/
theorem exec_of_dispatched {b : Behavior P} {ctx : Context P} {q handed : Query P}
    {store : P.Store} {a : P.Adapter}
    (h : .dispatched a handed ∈ (q.exec b ctx store).events) :
    q.adapter ctx.adapters = .ok a ∧
      let found := q.unscoped.withComplaints b ctx.predicates a
      handed = effects (q.rules.map b.queryRule) found ∧
        q.exec b ctx store =
          (Query.dispatch b a handed store).after (ruleCalls b q.rules found) := by
  cases hadapter : q.adapter ctx.adapters with
  | error e =>
    rw [exec_of_unselected hadapter] at h
    cases h
  | ok selected =>
    rcases exec_of_selected hadapter store with ⟨e, rules, hexec⟩ | hexec
    · rw [hexec] at h
      exact absurd h (dispatched_not_mem_ruleCalls b rules _ a handed)
    · rw [hexec, Outcome.after, List.mem_append] at h
      rcases h with h | h
      · exact absurd h (dispatched_not_mem_ruleCalls b q.rules _ a handed)
      · rw [dispatch, List.mem_append, List.mem_singleton] at h
        rcases h with h | h
        · obtain ⟨observer, -, ⟨⟩⟩ := List.mem_map.mp h
        · cases h
          exact ⟨rfl, rfl, hexec⟩

theorem adapter_of_dispatched {b : Behavior P} {ctx : Context P} {q handed : Query P}
    {store : P.Store} {a : P.Adapter}
    (h : .dispatched a handed ∈ (q.exec b ctx store).events) :
    q.adapter ctx.adapters = .ok a := (exec_of_dispatched h).1

end Query

/-- What is selected where these adapters are asked for and these were registered, in this order. -/
structure Selects {α : Type} (asked : List (AdapterRef α)) (made : List (String × α))
    (selected : Except ExecError α) : Prop where
  given : ∀ a later, asked = .given a :: later → selected = .ok a
  named : ∀ name later, asked = .named name :: later →
    (∀ a, selected = .ok a ↔ Registry.LastUnder made name a) ∧
      (selected = .error (.unknownAdapter name) ↔ ∀ a, (name, a) ∉ made)
  default : asked = [] →
    (∀ a, selected = .ok a ↔ ∃ name later, made = (name, a) :: later) ∧
      (selected = .error .noAdapter ↔ made = [])

theorem Query.selects {r : Registry P.Adapter} {made : List (String × P.Adapter)}
    (h : r.AnswersFrom made) (q : Query P) : Selects q.adapters made (q.adapter r) where
  given a later hasked := adapter_of_given hasked r
  named name later hasked := by
    rw [adapter_of_named hasked r]
    simp only [← h.lookup, ← h.missing]
    cases r.lookup name <;> simp
  default hasked := by
    rw [adapter_of_not_asked hasked r]
    simp only [← h.default, ← h.empty]
    cases r.default? <;> simp

structure Preparation (P : Plugins) where
  adapters : Registry P.Adapter := {}
  query : Query P

namespace Preparation

open Registry

inductive Move (P : Plugins) where
  | change (c : Registry.Change P.Adapter)
  | step (s : Step P)

def Move.change? : Move P → Option (Registry.Change P.Adapter)
  | change c => some c
  | step _ => none

def Move.step? : Move P → Option (Step P)
  | change _ => none
  | step s => some s

def move (w : Preparation P) : Move P → Except QueryError (Preparation P)
  | .change c => .ok { w with adapters := w.adapters.change c }
  | .step s => (w.query.apply s).map fun q => { w with query := q }

def run (w : Preparation P) (moves : List (Move P)) : Except QueryError (Preparation P) :=
  moves.foldlM move w

/-- The registry and the query go their own ways. -/
theorem run_eq_ok_iff {w w' : Preparation P} {moves : List (Move P)} :
    w.run moves = .ok w' ↔
      w'.adapters = (moves.filterMap Move.change?).foldl Registry.change w.adapters ∧
        w.query.build (moves.filterMap Move.step?) = .ok w'.query := by
  induction moves generalizing w with
  | nil =>
    obtain ⟨adapters, q⟩ := w
    obtain ⟨adapters', q'⟩ := w'
    constructor
    · intro h
      cases h
      exact ⟨rfl, rfl⟩
    · rintro ⟨hadapters, hquery⟩
      cases hadapters
      cases hquery
      rfl
  | cons m rest ih =>
    rw [run, List.foldlM_cons, Except.bind_eq_ok_iff]
    cases m with
    | change c =>
      constructor
      · rintro ⟨_, ⟨⟩, h⟩
        exact ih.mp h
      · intro h
        exact ⟨_, rfl, ih.mpr h⟩
    | step s =>
      have hsteps : (Move.step s :: rest).filterMap Move.step? = s :: rest.filterMap Move.step? :=
        rfl
      rw [hsteps, Query.build_cons, Except.bind_eq_ok_iff]
      constructor
      · rintro ⟨next, hnext, h⟩
        obtain ⟨q, hq, rfl⟩ := Except.map_eq_ok_iff.mp hnext
        obtain ⟨hadapters, hquery⟩ := ih.mp h
        exact ⟨hadapters, q, hq, hquery⟩
      · rintro ⟨hadapters, q, hq, hquery⟩
        exact ⟨_, Except.map_eq_ok_iff.mpr ⟨q, hq, rfl⟩, ih.mpr ⟨hadapters, hquery⟩⟩

/-- How the adapter is selected for a query that is carried out after all these moves. -/
theorem selection_of_run {q : Query P} {moves : List (Move P)} {w : Preparation P}
    (hrun : (⟨{}, q⟩ : Preparation P).run moves = .ok w) :
    let made := registrations (moves.filterMap Move.change?)
    let asked := q.adapters ++ (moves.filterMap Move.step?).filterMap Step.adapter?
    let selected := w.query.adapter w.adapters
    w.adapters.AnswersFrom made ∧
    (∀ a later, asked = .given a :: later → selected = .ok a) ∧
    (∀ name later, asked = .named name :: later →
      (∀ a, selected = .ok a ↔ LastUnder made name a) ∧
        (selected = .error (.unknownAdapter name) ↔ ∀ a, (name, a) ∉ made)) ∧
    (asked = [] →
      (∀ a, selected = .ok a ↔ ∃ name later, made = (name, a) :: later) ∧
        (selected = .error .noAdapter ↔ made = [])) ∧
    ∀ (b : Behavior P) (ctx : Context P) (store : P.Store), ctx.adapters = w.adapters →
      (∀ e, selected = .error e → w.query.exec b ctx store = ⟨.error e, store, []⟩) ∧
      ∀ a handed, .dispatched a handed ∈ (w.query.exec b ctx store).events →
        selected = .ok a := by
  intro made asked selected
  obtain ⟨hadapters, hbuild⟩ := run_eq_ok_iff.mp hrun
  have hanswers : w.adapters.AnswersFrom made := by
    rw [hadapters]
    exact answersFrom_after _
  have hasked : w.query.adapters = asked := Query.adapters_build hbuild
  have hselects : Selects asked made selected := by
    rw [← hasked]
    exact w.query.selects hanswers
  refine ⟨hanswers, hselects.given, hselects.named, hselects.default, ?_⟩
  intro b ctx store hctx
  have hctx' : w.query.adapter ctx.adapters = selected := by rw [hctx]
  constructor
  · intro e he
    exact Query.exec_of_unselected (hctx'.trans he) store
  · intro a handed h
    exact hctx'.symm.trans (Query.adapter_of_dispatched h)

/-- A name that is asked for before anything is registered under it, and registered twice later. -/
theorem selection_of_memory :
    let plugins : Plugins := ⟨Nat, Unit, Unit, Unit, Unit⟩
    let moves : List (Move plugins) := [.change (.register "memory" 0), .change .clear,
      .step (.start "user"), .step (.via (.named "memory")), .change (.register "rest" 1),
      .step (.via (.given 7)), .change (.register "memory" 2), .change (.register "rest" 3),
      .step (.select "cloud.user.email"), .change (.register "memory" 4)]
    ∃ w : Preparation plugins, (⟨{}, { resolver := ⟨"rest"⟩ }⟩ : Preparation plugins).run moves =
        .ok w ∧
      w.adapters.lookup "memory" = some 4 ∧ w.adapters.default? = some 1 ∧
      w.adapters.toList = [1, 2, 3, 4] ∧ w.query.adapter w.adapters = .ok 4 := by
  intro plugins moves
  let q : Query plugins := { resolver := ⟨"rest"⟩ }
  obtain ⟨w, hrun⟩ : ∃ w, (⟨{}, q⟩ : Preparation plugins).run moves = .ok w := ⟨_, rfl⟩
  obtain ⟨hanswers, -, hnamed, -⟩ := selection_of_run hrun
  have hlast : LastUnder (registrations (moves.filterMap Move.change?)) "memory" 4 :=
    ⟨[("rest", 1), ("memory", 2), ("rest", 3)], [], rfl, nofun⟩
  refine ⟨w, hrun, (hanswers.lookup _ _).mpr hlast, (hanswers.default 1).mpr ⟨_, _, rfl⟩,
    hanswers.all, ?_⟩
  exact ((hnamed "memory" [.given 7] rfl).1 4).mpr hlast

end Preparation

end QueryLayer

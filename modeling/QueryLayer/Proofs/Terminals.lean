import QueryLayer.Proofs.MemoryHistory

/-! # What a terminal asks for

A terminal adds its own entries behind all that a query recorded, and of several actions or limits
the last one counts. So the adapter is asked for what the terminal is for, whatever the chain or a
named query that it was forked from asked for earlier.
-/

set_option autoImplicit false

namespace QueryLayer

variable {P : Plugins}

namespace Terminal

def kind : Terminal → ActionKind
  | find | all | first | last => .find
  | remove => .remove
  | pipe => .pipe
  | stream => .stream
  | count => .count
  | existence => .existence
  | create _ => .create
  | update _ => .update

/-- The records of the action: those of a list, or else the one that is no list. -/
def data? : Terminal → Option (List Value)
  | create (.list records) | update (.list records) => some records
  | create record | update record => some [record]
  | _ => none

def single : Terminal → Bool
  | first | last => true
  | _ => false

def entries (T : Terminal) : Criteria :=
  (if T.single then [.limit 1] else []) ++ [.action ⟨T.kind, T.data?⟩]

def answer : Terminal → List Value → Answer
  | first, records => .one records.head?
  | last, records => .one records.getLast?
  | _, records => .records records

theorem action?_append_entries (cs : Criteria) (T : Terminal) :
    Criteria.action? (cs ++ T.entries) = some ⟨T.kind, T.data?⟩ := by
  rw [entries, ← List.append_assoc]
  exact Criteria.action?_concat _ _

theorem limit?_append_entries (cs : Criteria) (T : Terminal) :
    Criteria.limit? (cs ++ T.entries) = if T.single then some 1 else cs.limit? := by
  rw [entries, ← List.append_assoc, Criteria.limit?_concat]
  cases T.single with
  | false => exact congrArg Criteria.limit? (List.append_nil cs)
  | true =>
    have hlast : ∀ n, .limit n ∉ ([] : Criteria) := nofun
    exact Criteria.limit?_of_last rfl hlast

end Terminal

/-- A find never gives more records than its limit. -/
def Behavior.HonoursLimit (b : Behavior P) (a : P.Adapter) : Prop :=
  ∀ q store n records, q.criteria.action? = some ⟨.find, none⟩ → q.criteria.limit? = some n →
    (b.dispatch a q store).1 = .ok records → records.length ≤ n

namespace Outcome

variable {α β γ : Type}

theorem map_map (f : α → β) (g : β → γ) (o : Outcome P α) : (o.map f).map g = o.map (g ∘ f) := by
  obtain ⟨result, store, events⟩ := o
  cases result <;> rfl

theorem map_congr {f g : α → β} {o : Outcome P α} (h : ∀ x, o.result = .ok x → f x = g x) :
    o.map f = o.map g := by
  obtain ⟨result, store, events⟩ := o
  cases result with
  | error e => rfl
  | ok x =>
    have hx : f x = g x := h x rfl
    simp only [map, Except.map, hx]

end Outcome

namespace Query

def ended (q : Query P) (T : Terminal) : Query P := { q with criteria := q.criteria ++ T.entries }

/-- The query as a terminal hands it to the adapter. -/
def handed (q : Query P) (T : Terminal) : Query P :=
  { q with criteria := q.criteria ++ T.entries, active := none, scope := none, messages := [] }

/-- All terminals are one: add the entries, carry out the query and pick the answer. -/
theorem finish_eq (b : Behavior P) (ctx : Context P) (q : Query P) (store : P.Store)
    (T : Terminal) : q.finish b ctx store T = ((q.ended T).exec b ctx store).map T.answer := by
  have hsingle : ((q.limit 1).action .find none : Query P) =
      { q with criteria := q.criteria ++ [.limit 1, .action ⟨.find, none⟩] } := by
    simp [limit, action, push, Action.on]
  cases T with
  | create data | update data => cases data <;> rfl
  | first | last =>
    rw [finish]
    simp only [first, last, find, perform, hsingle, Outcome.map_map]
    rfl
  | _ => rfl

/-! ## What reaches the adapter -/

section Exec

variable {b : Behavior P} {ctx : Context P} {q : Query P} {store : P.Store}

theorem dispatch?_ruleCalls (b : Behavior P) (rules : List P.QueryRule) (q : Query P) :
    (ruleCalls b rules q).filterMap Event.dispatch? = [] :=
  Event.filterMap_dispatch?_eq_nil_iff.mpr (dispatched_not_mem_ruleCalls b rules q)

theorem calls_dispatch_after {events : List (Event P)}
    (hevents : events.filterMap Event.dispatch? = []) (a : P.Adapter) :
    ((q.dispatch b a store).after events).calls = [(a, q)] := by
  have hobserved : (q.observer.toList.map fun o => Event.observed o q.criteria).filterMap
      (Event.dispatch? (P := P)) = [] := by
    cases q.observer <;> rfl
  have hquiet : (events ++ q.observer.toList.map fun o => Event.observed o q.criteria).filterMap
      Event.dispatch? = [] := by
    rw [List.filterMap_append, hevents, hobserved, List.nil_append]
  rw [Outcome.calls, Outcome.after, dispatch, ← List.append_assoc]
  exact Model.dispatch?_append hquiet a q

/-- A query that passes at no adapter ends in an error, after calling rules at most. -/
theorem exec_of_unreached
    (h : ∀ a, q.adapter ctx.adapters = .ok a → ¬ q.unscoped.Passes b ctx.predicates a)
    (store : P.Store) :
    ∃ e called found, q.exec b ctx store = ⟨.error e, store, ruleCalls b called found⟩ := by
  cases hadapter : q.adapter ctx.adapters with
  | error e => exact ⟨e, [], q, exec_of_unselected hadapter store⟩
  | ok a =>
    obtain ⟨e, called, -, hexec⟩ := exec_of_not_passes hadapter (h a hadapter) store
    exact ⟨e, called, _, hexec⟩

theorem calls_exec_of_unreached
    (h : ∀ a, q.adapter ctx.adapters = .ok a → ¬ q.unscoped.Passes b ctx.predicates a) :
    (q.exec b ctx store).calls = [] := by
  obtain ⟨e, called, found, hexec⟩ := exec_of_unreached h store
  rw [hexec]
  exact dispatch?_ruleCalls b called found

theorem passes_of_exec_ok {records : List Value}
    (h : (q.exec b ctx store).result = .ok records) :
    ∃ a, q.adapter ctx.adapters = .ok a ∧ q.unscoped.Passes b ctx.predicates a := by
  by_contra hnone
  obtain ⟨e, called, found, hexec⟩ := exec_of_unreached
    (fun a hadapter hpasses => hnone ⟨a, hadapter, hpasses⟩) store
  rw [hexec] at h
  cases h

end Exec

section Rules

variable {b : Behavior P} {ctx : Context P} {q : Query P} {store : P.Store}
  (hrules : ∀ rule ∈ q.rules, (b.queryRule rule).ChangesMessagesOnly)

include hrules

theorem exec_ended_of_passes {T : Terminal} {a : P.Adapter}
    (hadapter : q.adapter ctx.adapters = .ok a)
    (hpasses : (q.ended T).unscoped.Passes b ctx.predicates a) :
    (q.ended T).exec b ctx store = ((q.handed T).dispatch b a store).after
      (ruleCalls b q.rules ((q.ended T).unscoped.withComplaints b ctx.predicates a)) :=
  exec_of_passes (q := q.ended T) hadapter hrules hpasses store

theorem finish_of_passes {T : Terminal} {a : P.Adapter}
    (hadapter : q.adapter ctx.adapters = .ok a)
    (hpasses : (q.ended T).unscoped.Passes b ctx.predicates a) :
    (q.finish b ctx store T).calls = [(a, q.handed T)] ∧
      (q.finish b ctx store T).result =
        ((b.dispatch a (q.handed T) store).1.mapError ExecError.adapter).map T.answer ∧
      (q.finish b ctx store T).store = (b.dispatch a (q.handed T) store).2 := by
  rw [finish_eq, exec_ended_of_passes hrules hadapter hpasses]
  exact ⟨calls_dispatch_after (dispatch?_ruleCalls _ _ _) a, rfl, rfl⟩

theorem length_le_one_of_last
    (hlimit : ∀ a, q.adapter ctx.adapters = .ok a → b.HonoursLimit a) {records : List Value}
    (h : ((q.ended .last).exec b ctx store).result = .ok records) : records.length ≤ 1 := by
  obtain ⟨a, hadapter, hpasses⟩ := passes_of_exec_ok h
  rw [exec_ended_of_passes hrules hadapter hpasses] at h
  exact hlimit a hadapter (q.handed .last) store 1 records (Terminal.action?_append_entries _ _)
    (Terminal.limit?_append_entries _ _) (Except.mapError_eq_ok_iff.mp h)

theorem finish_last_eq_first
    (hlimit : ∀ a, q.adapter ctx.adapters = .ok a → b.HonoursLimit a) :
    q.finish b ctx store .last = q.finish b ctx store .first := by
  rw [finish_eq, finish_eq]
  refine Outcome.map_congr fun records hok => ?_
  -- of at most one record the first is also the last
  have hlength := length_le_one_of_last hrules hlimit hok
  match records with
  | [] => rfl
  | [record] => rfl
  | _ :: _ :: _ => simp at hlength

end Rules

/-- Whatever a query holds, a terminal that reaches the adapter hands it the criteria of the query
and then its own entries, and these are the ones that count. -/
theorem finish_overrides (b : Behavior P) (ctx : Context P) (q : Query P) (store : P.Store)
    (hrules : ∀ rule ∈ q.rules, (b.queryRule rule).ChangesMessagesOnly) :
    let o := q.finish b ctx store
    (∀ T a, q.adapter ctx.adapters = .ok a →
      (q.ended T).unscoped.Passes b ctx.predicates a →
      (o T).calls = [(a, q.handed T)] ∧
      (o T).result =
        ((b.dispatch a (q.handed T) store).1.mapError ExecError.adapter).map T.answer ∧
      (o T).store = (b.dispatch a (q.handed T) store).2) ∧
    (∀ T, (∀ a, q.adapter ctx.adapters = .ok a →
      ¬ (q.ended T).unscoped.Passes b ctx.predicates a) → (o T).calls = []) ∧
    (∀ T, (q.handed T).criteria = q.criteria ++ T.entries ∧
      (q.handed T).criteria.action? = some ⟨T.kind, T.data?⟩ ∧
      (q.handed T).criteria.limit? = if T.single then some 1 else q.criteria.limit?) ∧
    o .all = o .find ∧
    ((o .last).calls = (o .first).calls ∧ (o .last).store = (o .first).store) ∧
    ((∀ a, q.adapter ctx.adapters = .ok a → b.HonoursLimit a) → o .last = o .first) := by
  intro o
  refine ⟨fun T a hadapter hpasses => finish_of_passes hrules hadapter hpasses, ?_, ?_, rfl, ?_,
    finish_last_eq_first hrules⟩
  · intro T hpasses
    have hquiet : ((q.ended T).exec b ctx store).calls = [] := calls_exec_of_unreached hpasses
    rw [← hquiet]
    exact congrArg Outcome.calls (finish_eq b ctx q store T)
  · intro T
    exact ⟨rfl, T.action?_append_entries _, T.limit?_append_entries _⟩
  · simp only [o, finish_eq]
    exact ⟨rfl, rfl⟩

end Query

namespace Memory

theorem honoursLimit_of_serves {engine : Pattern.Engine} {b : Behavior P} {a : P.Adapter}
    {tables : P.Store → Tables} (hb : b.Serves engine a tables) : b.HonoursLimit a := by
  intro q store n records haction hlimit hrecords
  rw [hb.answer] at hrecords
  cases hstart : q.criteria.start? with
  | none =>
    rw [serve, hstart] at hrecords
    cases hrecords
  | some start =>
    rw [answer_serve hstart haction, perform] at hrecords
    simp only [hlimit] at hrecords
    cases hrecords
    exact List.length_take_le _ _

/-- A fork of a named query that asked for other things before. -/
theorem finish_overrides_named :
    let recent : Query plugins := { users [.limit 5, .action ⟨.count, none⟩, .limit 3,
      .action ⟨.remove, none⟩] with rules := [.report "old", .forget] }
    let ctx := context.defineQuery "recent" recent
    let q := ctx.query "recent"
    let store := [("user", [user "a@x.com" 17, user "b@x.com" 30])]
    (∀ rule ∈ q.rules, (behavior.queryRule rule).ChangesMessagesOnly) ∧
      behavior.HonoursLimit () ∧
      (q.finish behavior ctx store .first).calls = [((), q.handed .first)] ∧
      (q.handed .first).criteria.action? = some ⟨.find, none⟩ ∧
      (q.handed .first).criteria.limit? = some 1 ∧
      (q.finish behavior ctx store .first).result = .ok (.one (some (user "a@x.com" 17))) ∧
      q.finish behavior ctx store .last = q.finish behavior ctx store .first ∧
      (q.handed (.create (user "c@y.com" 45))).criteria.action? =
        some ⟨.create, some [user "c@y.com" 45]⟩ := by
  intro recent ctx q store
  have hrules : ∀ rule ∈ q.rules, (behavior.queryRule rule).ChangesMessagesOnly :=
    fun rule _ => rule.changesMessagesOnly
  have hpasses : (q.ended .first).unscoped.Passes behavior ctx.predicates () :=
    ⟨⟨rfl, rfl, trivial⟩, rfl⟩
  have hlimit := honoursLimit_of_serves behavior_serves
  obtain ⟨hreaches, -, hcount, -, -, hlast⟩ :=
    Query.finish_overrides behavior ctx q store hrules
  obtain ⟨hcalls, hresult, -⟩ := hreaches .first () rfl hpasses
  obtain ⟨-, haction, hone⟩ := hcount .first
  obtain ⟨-, hcreate, -⟩ := hcount (.create (user "c@y.com" 45))
  exact ⟨hrules, hlimit, hcalls, haction, hone, hresult, hlast fun _ _ => hlimit, hcreate⟩

end Memory

end QueryLayer

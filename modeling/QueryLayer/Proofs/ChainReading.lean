import Mathlib.Data.List.DropRight
import QueryLayer.Proofs.StepReferences

/-! # Reading a chain of steps

What a chain of steps makes can be read off the chain, without the states in between. Each step is
read by itself at its place: the steps before it tell the scope and the active attribute there. A
chain fails at the first step that reads as a failure; otherwise its criteria are what the steps
after the last reset read as.
-/

set_option autoImplicit false

namespace QueryLayer

variable {P : Plugins}

theorem Except.map_eq_ok_iff {ε α β : Type} {x : Except ε α} {f : α → β} {b : β} :
    x.map f = .ok b ↔ ∃ a, x = .ok a ∧ f a = b := by
  cases x with
  | error e => exact ⟨nofun, nofun⟩
  | ok a =>
    constructor
    · intro h
      exact ⟨a, rfl, Except.ok.inj h⟩
    · rintro ⟨_, ⟨⟩, rfl⟩
      rfl

/-! ## One step -/

namespace Step

/-- What a step adds to the criteria in a scope and with an active attribute, or why it cannot;
five kinds of steps add nothing. -/
def criterion? (r : Resolver) (scope active : Option String) :
    Step P → Option (Except QueryError Criterion)
  | start key => some (((r.resolveModel key).mapError .path).map .start)
  | select key => some (refer key .select)
  | compare operator value =>
    match active with
    | none => some (.error (.noActiveAttribute operator.name))
    | some key => some (refer key fun ref => .constraint ⟨ref, operator, value⟩)
  | constrain key operator value => some (refer key fun ref => .constraint ⟨ref, operator, value⟩)
  | relate direction key => some (refer key fun ref => .relation ref direction)
  | order sort key => some (refer key fun ref => .order ref sort)
  | aliased name => some (.ok (.aliased name))
  | returns name => some (.ok (.returns name))
  | limit n => some (.ok (.limit n))
  | action kind data => some (.ok (.action (.on kind data)))
  | via _ | whereAttr _ | reset | observe _ | rule _ => none
where
  refer (key : String) (entry : PathRef → Criterion) : Except QueryError Criterion :=
    ((r.resolve key scope).mapError .path).map entry

def isReset : Step P → Bool
  | reset => true
  | _ => false

def label? : Step P → Option String
  | start _ => some "start"
  | select _ => some "select"
  | compare _ _ | constrain _ _ _ => some "constraint"
  | relate _ _ => some "relation"
  | order _ _ => some "order"
  | aliased _ => some "as"
  | returns _ => some "return"
  | limit _ => some "limit"
  | action _ _ => some "action"
  | via _ | whereAttr _ | reset | observe _ | rule _ => none

def startScope? (r : Resolver) : Step P → Option String
  | start key => (r.resolveModel key).toOption.map ModelRef.scope
  | _ => none

def selectScope? (r : Resolver) : Step P → Option String
  | select key => (r.resolve key none).toOption.map PathRef.scope
  | _ => none

def activeKey? : Step P → Option String
  | whereAttr key => some key
  | _ => none

def adapter? : Step P → Option (AdapterRef P.Adapter)
  | via adapter => some adapter
  | _ => none

def rule? : Step P → Option P.QueryRule
  | rule r => some r
  | _ => none

def observer? : Step P → Option P.Observer
  | observe observer => some observer
  | _ => none

theorem label?_of_criterion? {r : Resolver} {scope active : Option String} {s : Step P}
    {c : Criterion} (h : s.criterion? r scope active = some (.ok c)) : s.label? = some c.label := by
  cases s with
  | start key =>
    obtain ⟨model, -, rfl⟩ := Except.map_eq_ok_iff.mp (Option.some.inj h)
    rfl
  | select key | constrain key operator value | relate direction key | order sort key =>
    obtain ⟨ref, -, rfl⟩ := Except.map_eq_ok_iff.mp (Option.some.inj h)
    rfl
  | compare operator value =>
    cases active with
    | none => cases h
    | some key =>
      obtain ⟨ref, -, rfl⟩ := Except.map_eq_ok_iff.mp (Option.some.inj h)
      rfl
  | aliased name | returns name | limit n | action kind data =>
    cases h
    rfl
  | via adapter | whereAttr key | reset | observe observer | rule r => cases h

theorem label?_eq_none {r : Resolver} {scope active : Option String} {s : Step P}
    (h : s.criterion? r scope active = none) : s.label? = none := by
  cases s with
  | via adapter | whereAttr key | reset | observe observer | rule r => rfl
  | compare operator value => cases active <;> cases h
  | _ => cases h

end Step

namespace Query

def stepped (q : Query P) (s : Step P) (entry : Option Criterion) : Query P :=
  { q with
    criteria := if s.isReset then [] else q.criteria ++ entry.toList
    scope := ((s.startScope? q.resolver).or q.scope).or (s.selectScope? q.resolver)
    active := s.activeKey?.or q.active
    adapters := q.adapters ++ s.adapter?.toList
    rules := q.rules ++ s.rule?.toList
    observer := s.observer?.or q.observer }

def readAs (q : Query P) (s : Step P) :
    Option (Except QueryError Criterion) → Except QueryError (Query P)
  | none => .ok (q.stepped s none)
  | some (.error e) => .error e
  | some (.ok c) => .ok (q.stepped s (some c))

theorem apply_of_refer {q : Query P} {s : Step P} {key : String} {entry : PathRef → Criterion}
    (happly : q.apply s = q.resolve key >>= fun ref => .ok (q.push (entry ref)))
    (hentry : s.criterion? q.resolver q.scope q.active =
      some (Step.criterion?.refer q.resolver q.scope key entry))
    (hstepped : ∀ c, q.stepped s (some c) = q.push c) :
    q.apply s = q.readAs s (s.criterion? q.resolver q.scope q.active) := by
  rw [happly, hentry, resolve, Step.criterion?.refer]
  cases q.resolver.resolve key q.scope with
  | error e => rfl
  | ok ref => exact congrArg Except.ok (hstepped (entry ref)).symm

section

attribute [local simp] readAs stepped push Step.isReset Step.startScope? Step.selectScope?
  Step.activeKey? Step.adapter? Step.rule? Step.observer?

theorem apply_eq_reading (q : Query P) (s : Step P) :
    q.apply s = q.readAs s (s.criterion? q.resolver q.scope q.active) := by
  cases s with
  | via adapter | whereAttr key | observe observer | rule r | reset =>
    simp [apply, Step.criterion?, via, whereAttr, observe, rule, reset]
  | aliased name | returns name | limit n | action kind data =>
    simp [apply, Step.criterion?, aliased, returns, limit, action]
  | start key =>
    simp only [apply, start, Step.criterion?]
    cases h : q.resolver.resolveModel key with
    | error e => rfl
    | ok model => simp [h, Except.mapError, Except.map, Except.toOption]
  | select key =>
    simp only [apply, select, resolve, Step.criterion?, Step.criterion?.refer]
    cases h : q.resolver.resolve key q.scope with
    | error e => rfl
    | ok ref =>
      -- a selection that sets the scope was itself resolved without one
      have hscope : some (q.scope.getD ref.scope) =
          q.scope.or ((q.resolver.resolve key none).toOption.map PathRef.scope) := by
        cases hscope : q.scope with
        | some scope => rfl
        | none =>
          rw [hscope] at h
          rw [h]
          rfl
      simp [Except.mapError, Except.map, hscope]
  | compare operator value =>
    cases hactive : q.active with
    | none => simp [apply, compare, Step.criterion?, hactive]
    | some key =>
      have happly : q.apply (.compare operator value) = q.resolve key >>= fun ref =>
          .ok (q.push (.constraint ⟨ref, operator, value⟩)) := by
        rw [apply, compare, hactive]
        rfl
      have hentry : (.compare operator value : Step P).criterion? q.resolver q.scope q.active =
          some (Step.criterion?.refer q.resolver q.scope key fun ref =>
            .constraint ⟨ref, operator, value⟩) := by
        rw [hactive]
        rfl
      rw [← hactive]
      exact apply_of_refer happly hentry (by simp)
  | constrain key operator value => exact apply_of_refer rfl rfl (by simp)
  | relate direction key => exact apply_of_refer rfl rfl (by simp)
  | order sort key => exact apply_of_refer rfl rfl (by simp)

end

end Query

/-! ## The steps of a chain -/

abbrev Chain (P : Plugins) := List (Step P)

namespace Chain

/-- The scope after a chain: that of the last model it starts from, else that of its first
selection, which finds no scope yet. -/
def scope (r : Resolver) (steps : Chain P) : Option String :=
  (steps.reverse.findSome? (Step.startScope? r)).or (steps.findSome? (Step.selectScope? r))

def active (steps : Chain P) : Option String := steps.reverse.findSome? Step.activeKey?

structure Place (P : Plugins) where
  before : Chain P
  step : Step P

def placesFrom (before : Chain P) : Chain P → List (Place P)
  | [] => []
  | s :: rest => ⟨before, s⟩ :: placesFrom (before ++ [s]) rest

def places (steps : Chain P) : List (Place P) := placesFrom [] steps

namespace Place

/-- What a step of a chain on `q` adds at its place, or why it cannot. -/
def reading (q : Query P) (p : Place P) : Option (Except QueryError Criterion) :=
  p.step.criterion? q.resolver (p.before.scope q.resolver) (p.before.active.or q.active)

def failure? (q : Query P) (p : Place P) : Option QueryError :=
  match p.reading q with
  | some (.error e) => some e
  | _ => none

def criterion? (q : Query P) (p : Place P) : Option Criterion :=
  (p.reading q).bind Except.toOption

end Place

def firstFailure? (q : Query P) (steps : Chain P) : Option QueryError :=
  steps.places.findSome? (Place.failure? q)

/-- What the steps after the last reset add, in their order. -/
def entries (q : Query P) (steps : Chain P) : Criteria :=
  (steps.places.rtakeWhile fun p => !p.step.isReset).filterMap (Place.criterion? q)

def built (q : Query P) (steps : Chain P) : Query P :=
  { q with
    criteria := entries q steps
    scope := steps.scope q.resolver
    active := steps.active.or q.active
    adapters := q.adapters ++ steps.filterMap Step.adapter?
    rules := q.rules ++ steps.filterMap Step.rule?
    observer := (steps.reverse.findSome? Step.observer?).or q.observer }

theorem filterMap_concat {α β : Type} (f : α → Option β) (xs : List α) (x : α) :
    (xs ++ [x]).filterMap f = xs.filterMap f ++ (f x).toList := by
  cases h : f x <;> simp [h]

theorem placesFrom_append (before xs ys : Chain P) :
    placesFrom before (xs ++ ys) = placesFrom before xs ++ placesFrom (before ++ xs) ys := by
  induction xs generalizing before with
  | nil => simp [placesFrom]
  | cons s rest ih =>
    rw [List.cons_append, placesFrom, placesFrom, ih, List.append_assoc]
    rfl

theorem places_concat (steps : Chain P) (s : Step P) :
    places (steps ++ [s]) = steps.places ++ [⟨steps, s⟩] :=
  placesFrom_append [] steps [s]

theorem scope_concat (r : Resolver) (steps : Chain P) (s : Step P) :
    scope r (steps ++ [s]) = ((s.startScope? r).or (steps.scope r)).or (s.selectScope? r) := by
  rw [scope, scope, List.reverse_append, List.findSome?_append, List.findSome?_append,
    List.reverse_singleton, List.findSome?_singleton, List.findSome?_singleton, Option.or_assoc,
    Option.or_assoc, Option.or_assoc]

theorem active_concat (steps : Chain P) (s : Step P) :
    active (steps ++ [s]) = s.activeKey?.or steps.active := by
  rw [active, active, List.reverse_append, List.findSome?_append, List.reverse_singleton,
    List.findSome?_singleton]

theorem entries_concat (q : Query P) (steps : Chain P) (s : Step P) :
    entries q (steps ++ [s]) =
      if s.isReset then [] else entries q steps ++ (Place.criterion? q ⟨steps, s⟩).toList := by
  rw [entries, places_concat]
  cases h : s.isReset with
  | true => rw [List.rtakeWhile_concat_neg _ _ _ (by simp [h])]; rfl
  | false =>
    rw [List.rtakeWhile_concat_pos _ _ _ (by simp [h]), filterMap_concat]
    rfl

theorem firstFailure?_concat (q : Query P) (steps : Chain P) (s : Step P) :
    firstFailure? q (steps ++ [s]) = (firstFailure? q steps).or (Place.failure? q ⟨steps, s⟩) := by
  rw [firstFailure?, places_concat, List.findSome?_append, List.findSome?_singleton]
  rfl

theorem built_concat (q : Query P) (steps : Chain P) (s : Step P) :
    built q (steps ++ [s]) = (built q steps).stepped s (Place.criterion? q ⟨steps, s⟩) := by
  rw [built, entries_concat, scope_concat, active_concat, filterMap_concat, filterMap_concat,
    List.reverse_append, List.findSome?_append, List.reverse_singleton, List.findSome?_singleton]
  simp only [built, Query.stepped, List.append_assoc, Option.or_assoc]

/-! ## Building -/

theorem apply_built (q : Query P) (steps : Chain P) (s : Step P) :
    (built q steps).apply s =
      match Place.failure? q ⟨steps, s⟩ with
      | some e => .error e
      | none => .ok (built q (steps ++ [s])) := by
  have hreading : Place.reading q ⟨steps, s⟩ =
      s.criterion? (built q steps).resolver (built q steps).scope (built q steps).active := rfl
  rw [built_concat, Query.apply_eq_reading, ← hreading, Place.failure?, Place.criterion?]
  rcases Place.reading q ⟨steps, s⟩ with _ | ⟨e | c⟩ <;> rfl

theorem built_nil {q : Query P} (hcriteria : q.criteria = []) (hscope : q.scope = none) :
    built q [] = q := by
  cases q
  simp_all [built, entries, places, placesFrom, scope, active]

theorem build_eq {q : Query P} (hcriteria : q.criteria = []) (hscope : q.scope = none)
    (steps : Chain P) :
    q.build steps =
      match firstFailure? q steps with
      | some e => .error e
      | none => .ok (built q steps) := by
  -- from the end of the chain: its last step finds what the steps before it have built
  induction steps using List.reverseRecOn with
  | nil => exact congrArg Except.ok (built_nil hcriteria hscope).symm
  | append_singleton steps s ih =>
    rw [Query.build_append, ih, firstFailure?_concat]
    cases firstFailure? q steps with
    | some e => rfl
    | none =>
      have hone : (built q steps).build [s] = (built q steps).apply s := by
        rw [Query.build, List.foldlM_cons]
        exact bind_pure _
      rw [Option.none_or]
      exact hone.trans (apply_built q steps s)

theorem build_eq_error_iff {q : Query P} (hcriteria : q.criteria = []) (hscope : q.scope = none)
    (steps : Chain P) (e : QueryError) :
    q.build steps = .error e ↔ firstFailure? q steps = some e := by
  rw [build_eq hcriteria hscope]
  cases firstFailure? q steps <;> simp

theorem build_eq_ok_iff {q q' : Query P} (hcriteria : q.criteria = []) (hscope : q.scope = none)
    (steps : Chain P) :
    q.build steps = .ok q' ↔ firstFailure? q steps = none ∧ q' = built q steps := by
  rw [build_eq hcriteria hscope]
  cases firstFailure? q steps <;> simp [eq_comm]

/-- Each step that succeeds adds what its label says, once. -/
theorem map_label_criterion? {q : Query P} {p : Place P} (h : Place.failure? q p = none) :
    (Place.criterion? q p).map Criterion.label = p.step.label? := by
  rw [Place.failure?] at h
  rw [Place.criterion?]
  cases hreading : p.reading q with
  | none => exact (Step.label?_eq_none hreading).symm
  | some outcome =>
    cases outcome with
    | error e =>
      rw [hreading] at h
      cases h
    | ok c => exact (Step.label?_of_criterion? hreading).symm

theorem labels_entries {q : Query P} {steps : Chain P} (h : firstFailure? q steps = none) :
    (entries q steps).labels = (steps.rtakeWhile fun s => !s.isReset).filterMap Step.label? := by
  induction steps using List.reverseRecOn with
  | nil => rfl
  | append_singleton steps s ih =>
    rw [firstFailure?_concat, Option.or_eq_none_iff] at h
    rw [entries_concat]
    cases hs : s.isReset with
    | true =>
      rw [List.rtakeWhile_concat_neg _ _ _ (by simp [hs])]
      rfl
    | false =>
      rw [List.rtakeWhile_concat_pos _ _ _ (by simp [hs]), filterMap_concat, ← ih h.1,
        ← map_label_criterion? h.2, Option.toList_map]
      exact List.map_append

theorem active_eq_none_iff {steps : Chain P} :
    steps.active = none ↔ ∀ key, .whereAttr key ∉ steps := by
  rw [active, List.findSome?_eq_none_iff]
  constructor
  · intro h key hmem
    cases h _ (List.mem_reverse.mpr hmem)
  · intro h s hs
    cases s with
    | whereAttr key => exact absurd (List.mem_reverse.mp hs) (h key)
    | _ => rfl

theorem failure?_eq_some_iff {q : Query P} {p : Place P} {e : QueryError} :
    Place.failure? q p = some e ↔ p.reading q = some (.error e) := by
  rw [Place.failure?]
  rcases p.reading q with _ | ⟨e' | c⟩ <;> simp

theorem failure?_eq_none_iff {q : Query P} {p : Place P} :
    Place.failure? q p = none ↔ ∀ e, p.reading q ≠ some (.error e) := by
  simp only [Option.eq_none_iff_forall_ne_some, ne_eq, failure?_eq_some_iff]

theorem compare_eq_noActiveAttribute_iff {q : Query P} {operator : Operator} {value : Value} :
    q.apply (.compare operator value) = .error (.noActiveAttribute operator.name) ↔
      q.active = none := by
  rw [Query.apply, Query.compare]
  cases q.active with
  | none => exact iff_of_true rfl rfl
  | some key =>
    refine iff_of_false (fun h => ?_) (Option.some_ne_none key)
    simp only [Query.constrain, Query.resolve] at h
    cases hresolve : q.resolver.resolve key q.scope with
    | error e =>
      rw [hresolve] at h
      cases h
    | ok ref =>
      rw [hresolve] at h
      cases h

/-- How a chain on a query without criteria and scope reads. An attribute that is active there
already was made so before the chain. -/
theorem build_reading {q : Query P} (hcriteria : q.criteria = []) (hscope : q.scope = none)
    (steps : Chain P) :
    ((∃ e, q.build steps = .error e) ↔
      ∃ p ∈ steps.places, ∃ e, p.reading q = some (.error e)) ∧
    (∀ e, q.build steps = .error e ↔
      ∃ earlier p later, steps.places = earlier ++ p :: later ∧ p.reading q = some (.error e) ∧
        ∀ other ∈ earlier, ∀ e', other.reading q ≠ some (.error e')) ∧
    (∀ q', q.build steps = .ok q' →
      q' = built q steps ∧ q'.criteria = entries q steps ∧
        q'.criteria.labels = (steps.rtakeWhile fun s => !s.isReset).filterMap Step.label?) ∧
    ∀ q' operator value, q.build steps = .ok q' →
      (q'.apply (.compare operator value) = .error (.noActiveAttribute operator.name) ↔
        (∀ key, .whereAttr key ∉ steps) ∧ q.active = none) := by
  have hfirst := build_eq_error_iff hcriteria hscope steps
  refine ⟨?_, fun e => ?_, fun q' h => ?_, fun q' operator value h => ?_⟩
  · simp only [hfirst, ← failure?_eq_some_iff, ← Option.isSome_iff_exists]
    exact List.findSome?_isSome_iff
  · rw [hfirst, firstFailure?, List.findSome?_eq_some_iff]
    simp only [failure?_eq_some_iff, failure?_eq_none_iff]
  · obtain ⟨hnone, rfl⟩ := (build_eq_ok_iff hcriteria hscope steps).mp h
    exact ⟨rfl, rfl, labels_entries hnone⟩
  · obtain ⟨-, rfl⟩ := (build_eq_ok_iff hcriteria hscope steps).mp h
    rw [compare_eq_noActiveAttribute_iff, ← active_eq_none_iff]
    exact Option.or_eq_none_iff

/-- The first selection keeps setting the scope after a reset, until the chain starts from a model;
without either, a bare attribute cannot be compared. -/
theorem build_reading_of_orders :
    let q : Query Plugins.trivial := { resolver := ⟨"rest"⟩ }
    let steps : Chain Plugins.trivial := [.whereAttr "age", .select "shop.user.email", .reset,
      .compare .gte (.int 3), .start "order", .order .descending "total"]
    let bare : Chain Plugins.trivial := [.whereAttr "age", .compare .gte (.int 3), .limit 1]
    q.criteria = [] ∧ q.scope = none ∧
      (∃ q', q.build steps = .ok q' ∧ q'.criteria =
        [.constraint ⟨⟨"shop", "user", "age", true⟩, .gte, .int 3⟩, .start ⟨none, "order"⟩,
          .order ⟨"rest", "order", "total", false⟩ .descending]) ∧
      q.build bare = .error (.path (.missingStart "age")) := by
  intro q steps bare
  have hbuild : q.build steps = .ok (built q steps) := rfl
  obtain ⟨-, -, hok, -⟩ := build_reading (q := q) rfl rfl steps
  obtain ⟨-, hfirst, -, -⟩ := build_reading (q := q) rfl rfl bare
  refine ⟨rfl, rfl, ⟨built q steps, hbuild, (hok _ hbuild).2.1⟩, (hfirst _).mpr ?_⟩
  refine ⟨[⟨[], .whereAttr "age"⟩], ⟨[.whereAttr "age"], .compare .gte (.int 3)⟩, _, rfl, rfl, ?_⟩
  intro other hother
  rw [List.mem_singleton.mp hother]
  exact nofun

end Chain

end QueryLayer

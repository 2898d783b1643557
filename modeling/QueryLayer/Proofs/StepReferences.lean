import QueryLayer.Query

/-! # The references that steps record

Five kinds of steps refer to an attribute: they resolve a key in the scope and add one criterion
that carries the reference. `start` changes the scope and adds the model; every other step leaves
scope and references alone, apart from `reset`, which drops them. No step changes the resolver.
-/

set_option autoImplicit false

namespace QueryLayer

variable {P : Plugins}

def Criterion.ref? : Criterion → Option PathRef
  | .select ref => some ref
  | .relation ref _ => some ref
  | .constraint c => some c.left
  | .order ref _ => some ref
  | _ => none

def Criteria.refs (cs : Criteria) : List PathRef := cs.filterMap Criterion.ref?

/-- The key that a step resolves, if it refers to an attribute, and the criterion it makes of it. -/
def Step.reference? (active : Option String) :
    Step P → Option (String × (PathRef → Criterion))
  | .select key => some (key, .select)
  | .compare operator value =>
    active.map fun key => (key, fun ref => .constraint ⟨ref, operator, value⟩)
  | .constrain key operator value => some (key, fun ref => .constraint ⟨ref, operator, value⟩)
  | .relate direction key => some (key, fun ref => .relation ref direction)
  | .order sort key => some (key, fun ref => .order ref sort)
  | _ => none

theorem Step.ref?_of_reference? {active : Option String} {s : Step P} {key : String}
    {entry : PathRef → Criterion} (h : s.reference? active = some (key, entry)) (ref : PathRef) :
    (entry ref).ref? = some ref := by
  cases s <;> simp only [reference?, Option.map_eq_some_iff, Option.some.injEq, Prod.mk.injEq,
    reduceCtorEq] at h
  case compare operator value =>
    obtain ⟨_, _, _, rfl⟩ := h
    rfl
  all_goals
    obtain ⟨_, rfl⟩ := h
    rfl

theorem Except.bind_eq_ok_iff {ε α β : Type} {x : Except ε α} {f : α → Except ε β} {b : β} :
    (x >>= f) = .ok b ↔ ∃ a, x = .ok a ∧ f a = .ok b := by
  cases x with
  | error e => exact ⟨nofun, nofun⟩
  | ok a => exact ⟨fun h => ⟨a, rfl, h⟩, fun ⟨_, ha, h⟩ => by cases ha; exact h⟩

theorem Except.mapError_eq_ok_iff {ε ε' α : Type} {x : Except ε α} {f : ε → ε'} {a : α} :
    x.mapError f = .ok a ↔ x = .ok a := by
  cases x with
  | error e => exact ⟨nofun, nofun⟩
  | ok b => exact ⟨fun h => by cases h; rfl, fun h => by cases h; rfl⟩

namespace Query

theorem resolve_eq_ok_iff {q : Query P} {key : String} {ref : PathRef} :
    q.resolve key = .ok ref ↔ q.resolver.resolve key q.scope = .ok ref :=
  Except.mapError_eq_ok_iff

/-- A step that refers to an attribute records the reference in one criterion. -/
theorem apply_of_reference? {q q' : Query P} {s : Step P} {key : String}
    {entry : PathRef → Criterion} (hs : s.reference? q.active = some (key, entry))
    (h : q.apply s = .ok q') :
    ∃ ref scope, q.resolver.resolve key q.scope = .ok ref ∧
      q' = { q with scope := scope, criteria := q.criteria ++ [entry ref] } ∧
      (scope = q.scope ∨ scope = some ref.scope) := by
  cases s with
  | select key' =>
    cases hs
    obtain ⟨ref, href, heq⟩ := Except.bind_eq_ok_iff.mp h
    cases heq
    refine ⟨ref, q.scope.or (some ref.scope), resolve_eq_ok_iff.mp href, rfl, ?_⟩
    cases hscope : q.scope with
    | none => exact .inr rfl
    | some scope => exact .inl rfl
  | compare operator value =>
    obtain ⟨active, hactive, heq⟩ := Option.map_eq_some_iff.mp hs
    cases heq
    rw [apply, compare, hactive] at h
    obtain ⟨ref, href, heq⟩ := Except.bind_eq_ok_iff.mp h
    cases heq
    exact ⟨ref, q.scope, resolve_eq_ok_iff.mp href, rfl, .inl rfl⟩
  | constrain key' operator value =>
    cases hs
    obtain ⟨ref, href, heq⟩ := Except.bind_eq_ok_iff.mp h
    cases heq
    exact ⟨ref, q.scope, resolve_eq_ok_iff.mp href, rfl, .inl rfl⟩
  | relate direction key' =>
    cases hs
    obtain ⟨ref, href, heq⟩ := Except.bind_eq_ok_iff.mp h
    cases heq
    exact ⟨ref, q.scope, resolve_eq_ok_iff.mp href, rfl, .inl rfl⟩
  | order sort key' =>
    cases hs
    obtain ⟨ref, href, heq⟩ := Except.bind_eq_ok_iff.mp h
    cases heq
    exact ⟨ref, q.scope, resolve_eq_ok_iff.mp href, rfl, .inl rfl⟩
  | _ => cases hs

/-- A step that refers to no attribute starts from a model or leaves scope and references alone. -/
theorem apply_of_no_reference {q q' : Query P} {s : Step P} (hs : s.reference? q.active = none)
    (h : q.apply s = .ok q') :
    q'.resolver = q.resolver ∧
    ((∃ key model, q.resolver.resolveModel key = .ok model ∧ q'.scope = some model.scope ∧
        q'.criteria.refs = q.criteria.refs) ∨
      (q'.scope = q.scope ∧ (q'.criteria.refs = q.criteria.refs ∨ q'.criteria.refs = []))) := by
  have hpush : ∀ c : Criterion, c.ref? = none →
      Criteria.refs (q.criteria ++ [c]) = q.criteria.refs := by
    intro c hc
    simp [Criteria.refs, hc]
  cases s with
  | start key =>
    obtain ⟨model, hmodel, heq⟩ := Except.bind_eq_ok_iff.mp h
    cases heq
    exact ⟨rfl, .inl ⟨key, model, Except.mapError_eq_ok_iff.mp hmodel, rfl, hpush _ rfl⟩⟩
  | compare operator value =>
    have hactive : q.active = none := Option.map_eq_none_iff.mp hs
    rw [apply, compare, hactive] at h
    cases h
  | via adapter | whereAttr key | observe observer | rule r =>
    cases h
    exact ⟨rfl, .inr ⟨rfl, .inl rfl⟩⟩
  | aliased name | returns name | limit n | action kind data =>
    cases h
    exact ⟨rfl, .inr ⟨rfl, .inl (hpush _ rfl)⟩⟩
  | reset =>
    cases h
    exact ⟨rfl, .inr ⟨rfl, .inr rfl⟩⟩
  | select _ | constrain _ _ _ | relate _ _ | order _ _ => cases hs

theorem resolver_apply {q q' : Query P} {s : Step P} (h : q.apply s = .ok q') :
    q'.resolver = q.resolver := by
  cases hs : s.reference? q.active with
  | none => exact (apply_of_no_reference hs h).1
  | some reference =>
    obtain ⟨ref, scope, -, rfl, -⟩ := apply_of_reference? hs h
    rfl

theorem invariant_build {I : Query P → Prop}
    (hstep : ∀ (q q' : Query P) (s : Step P), I q → q.apply s = .ok q' → I q')
    {q q' : Query P} (hq : I q) {steps : List (Step P)} (h : q.build steps = .ok q') : I q' := by
  induction steps generalizing q with
  | nil =>
    cases h
    exact hq
  | cons s rest ih =>
    rw [build, List.foldlM_cons] at h
    obtain ⟨next, hnext, hrest⟩ := Except.bind_eq_ok_iff.mp h
    exact ih (hstep q next s hq hnext) hrest

theorem resolver_build {q q' : Query P} {steps : List (Step P)} (h : q.build steps = .ok q') :
    q'.resolver = q.resolver :=
  invariant_build (I := fun other => other.resolver = q.resolver)
    (fun _ _ _ hother hnext => (resolver_apply hnext).trans hother) rfl h

end Query

end QueryLayer

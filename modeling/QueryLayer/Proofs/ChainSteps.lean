import QueryLayer.Proofs.ChainReading

/-! # Chains step by step

A chain may go on from any query. It fails at a place if the steps before that place succeed and
the step there does not. What a chain that succeeds asks for and makes active can be read off its
steps.
-/

set_option autoImplicit false

namespace QueryLayer

variable {P : Plugins}

theorem Except.bind_eq_error_iff {ε α β : Type} {x : Except ε α} {f : α → Except ε β} {e : ε} :
    (x >>= f) = .error e ↔ x = .error e ∨ ∃ a, x = .ok a ∧ f a = .error e := by
  cases x with
  | error e' =>
    constructor
    · intro h
      cases h
      exact .inl rfl
    · rintro (⟨⟨⟩⟩ | ⟨a, ⟨⟩, -⟩)
      rfl
  | ok a =>
    constructor
    · intro h
      exact .inr ⟨a, rfl, h⟩
    · rintro (⟨⟨⟩⟩ | ⟨_, ⟨⟩, h⟩)
      exact h

theorem Except.map_eq_map_iff {ε α β : Type} {x y : Except ε α} {f : α → β} :
    x.map f = y.map f ↔ (∃ e, x = .error e ∧ y = .error e) ∨
      ∃ a b, x = .ok a ∧ y = .ok b ∧ f a = f b := by
  rcases x with e | a <;> rcases y with e' | b <;> simp [Except.map, eq_comm]

namespace Query

theorem build_cons (q : Query P) (s : Step P) (rest : List (Step P)) :
    q.build (s :: rest) = q.apply s >>= fun next => next.build rest := by
  rw [build, List.foldlM_cons]
  rfl

theorem build_concat (q : Query P) (steps : List (Step P)) (s : Step P) :
    q.build (steps ++ [s]) = q.build steps >>= fun next => next.apply s := by
  have hone : ∀ next : Query P, next.build [s] = next.apply s := by
    intro next
    rw [build_cons]
    exact bind_pure _
  rw [build_append]
  exact congrArg (Except.bind _) (funext hone)

def FailsAt (q : Query P) (steps : List (Step P)) (place : Nat) (e : QueryError) : Prop :=
  ∃ before s, q.build (steps.take place) = .ok before ∧ steps[place]? = some s ∧
    before.apply s = .error e

theorem failsAt_zero {q : Query P} {s : Step P} {rest : List (Step P)} {e : QueryError} :
    q.FailsAt (s :: rest) 0 e ↔ q.apply s = .error e := by
  constructor
  · rintro ⟨before, other, hbuild, hstep, h⟩
    cases hbuild
    cases hstep
    exact h
  · intro h
    exact ⟨q, s, rfl, rfl, h⟩

theorem failsAt_succ {q : Query P} {s : Step P} {rest : List (Step P)} {place : Nat}
    {e : QueryError} :
    q.FailsAt (s :: rest) (place + 1) e ↔ ∃ next, q.apply s = .ok next ∧
      next.FailsAt rest place e := by
  constructor
  · rintro ⟨before, other, hbuild, hstep, h⟩
    rw [List.take_succ_cons, build_cons] at hbuild
    obtain ⟨next, hnext, hbuild⟩ := Except.bind_eq_ok_iff.mp hbuild
    exact ⟨next, hnext, before, other, hbuild, hstep, h⟩
  · rintro ⟨next, hnext, before, other, hbuild, hstep, h⟩
    refine ⟨before, other, ?_, hstep, h⟩
    rw [List.take_succ_cons, build_cons]
    exact Except.bind_eq_ok_iff.mpr ⟨next, hnext, hbuild⟩

theorem build_eq_error_iff_failsAt {q : Query P} {steps : List (Step P)} {e : QueryError} :
    q.build steps = .error e ↔ ∃ place, q.FailsAt steps place e := by
  induction steps generalizing q with
  | nil =>
    refine iff_of_false nofun ?_
    rintro ⟨place, before, s, -, hstep, -⟩
    cases hstep
  | cons s rest ih =>
    rw [build_cons, Except.bind_eq_error_iff]
    constructor
    · rintro (h | ⟨next, hnext, h⟩)
      · exact ⟨0, failsAt_zero.mpr h⟩
      · obtain ⟨place, hplace⟩ := ih.mp h
        exact ⟨place + 1, failsAt_succ.mpr ⟨next, hnext, hplace⟩⟩
    · rintro ⟨_ | place, h⟩
      · exact .inl (failsAt_zero.mp h)
      · obtain ⟨next, hnext, hplace⟩ := failsAt_succ.mp h
        exact .inr ⟨next, hnext, ih.mpr ⟨place, hplace⟩⟩

theorem eq_stepped_of_apply {q q' : Query P} {s : Step P} (h : q.apply s = .ok q') :
    ∃ entry, q' = q.stepped s entry := by
  rw [apply_eq_reading] at h
  rcases hreading : s.criterion? q.resolver q.scope q.active with _ | ⟨e | c⟩ <;>
    rw [hreading] at h
  · exact ⟨none, (Except.ok.inj h).symm⟩
  · cases h
  · exact ⟨some c, (Except.ok.inj h).symm⟩

theorem adapters_build {q q' : Query P} {steps : List (Step P)} (h : q.build steps = .ok q') :
    q'.adapters = q.adapters ++ steps.filterMap Step.adapter? := by
  induction steps using List.reverseRecOn generalizing q' with
  | nil =>
    cases h
    rw [List.filterMap_nil, List.append_nil]
  | append_singleton steps s ih =>
    rw [build_concat] at h
    obtain ⟨before, hbefore, hs⟩ := Except.bind_eq_ok_iff.mp h
    obtain ⟨entry, rfl⟩ := eq_stepped_of_apply hs
    rw [Chain.filterMap_concat, ← List.append_assoc, ← ih hbefore]
    rfl

theorem active_build {q q' : Query P} {steps : List (Step P)} (h : q.build steps = .ok q') :
    q'.active = (Chain.active steps).or q.active := by
  induction steps using List.reverseRecOn generalizing q' with
  | nil =>
    cases h
    rfl
  | append_singleton steps s ih =>
    rw [build_concat] at h
    obtain ⟨before, hbefore, hs⟩ := Except.bind_eq_ok_iff.mp h
    obtain ⟨entry, rfl⟩ := eq_stepped_of_apply hs
    rw [Chain.active_concat, Option.or_assoc, ← ih hbefore]
    rfl

end Query

end QueryLayer

import Mathlib.Data.List.Forall2
import QueryLayer.Proofs.ChainSteps
import QueryLayer.Proofs.WellFormedReferences

/-! # What the default adapter can be seen in

The name of the default adapter goes into the references that write no adapter out, and nowhere
else. To mask a reference is to forget that adapter. Two chains whose queries are equal up to
masking then run alike: the scope that a selection sets comes from a reference, but masking leaves
the scope of a reference as it is.
-/

set_option autoImplicit false

namespace QueryLayer

variable {P : Plugins}

namespace PathRef

def masked (ref : PathRef) : PathRef := if ref.explicit then ref else { ref with adapter := "" }

@[simp] theorem masked_of_explicit (adapter model attr : String) :
    masked ⟨adapter, model, attr, true⟩ = ⟨adapter, model, attr, true⟩ := rfl

@[simp] theorem masked_of_implicit (adapter model attr : String) :
    masked ⟨adapter, model, attr, false⟩ = ⟨"", model, attr, false⟩ := rfl

/-- Two references that differ at most in an adapter that neither of them writes out. -/
structure AgreesWith (ref other : PathRef) : Prop where
  model : ref.model = other.model
  attr : ref.attr = other.attr
  explicit : ref.explicit = other.explicit
  scope : ref.scope = other.scope
  path : ref.path = other.path
  adapter : ref.explicit = true → ref.adapter = other.adapter

theorem masked_eq_masked_iff {ref other : PathRef} :
    ref.masked = other.masked ↔ ref.AgreesWith other := by
  obtain ⟨adapter, model, attr, explicit⟩ := ref
  obtain ⟨adapter', model', attr', explicit'⟩ := other
  constructor
  · intro h
    cases explicit <;> cases explicit' <;> cases h
    · exact ⟨rfl, rfl, rfl, rfl, rfl, nofun⟩
    · exact ⟨rfl, rfl, rfl, rfl, rfl, fun _ => rfl⟩
  · rintro ⟨hmodel, hattr, hexplicit, -, -, hadapter⟩
    cases hmodel
    cases hattr
    cases hexplicit
    cases explicit with
    | false => rfl
    | true =>
      cases hadapter rfl
      rfl

end PathRef

def Criterion.masked : Criterion → Criterion
  | select ref => select ref.masked
  | relation ref direction => relation ref.masked direction
  | constraint c => constraint { c with left := c.left.masked }
  | order ref sort => order ref.masked sort
  | start model => start model
  | action a => action a
  | limit n => limit n
  | aliased name => aliased name
  | returns name => returns name

namespace Resolver

/-- Up to masking, a reference is resolved without regard to the default adapter. -/
theorem masked_resolve (r r' : Resolver) (dotted : String) (start : Option String) :
    (r.resolve dotted start).map PathRef.masked = (r'.resolve dotted start).map PathRef.masked := by
  rw [resolve, resolve]
  cases (Dotted.segments dotted).any String.isEmpty with
  | true => rfl
  | false =>
    rcases Dotted.segments dotted with _ | ⟨first, _ | ⟨second, _ | ⟨third, _ | ⟨fourth, rest⟩⟩⟩⟩
    · rfl
    · cases start with
      | none => rfl
      | some scope => cases hqualifier : Dotted.qualifier? scope <;> simp [hqualifier, Except.map]
    · rfl
    · rfl
    · rfl

end Resolver

namespace Step

theorem masked_refer (r r' : Resolver) (scope : Option String) (key : String)
    {entry : PathRef → Criterion}
    (hentry : ∀ ref ref', ref.masked = ref'.masked → (entry ref).masked = (entry ref').masked) :
    (criterion?.refer r scope key entry).map Criterion.masked =
      (criterion?.refer r' scope key entry).map Criterion.masked := by
  rw [criterion?.refer, criterion?.refer]
  rcases Except.map_eq_map_iff.mp (r.masked_resolve r' key scope) with
    ⟨e, h, h'⟩ | ⟨ref, ref', h, h', hmasked⟩
  · rw [h, h']
  · rw [h, h']
    exact congrArg Except.ok (hentry ref ref' hmasked)

theorem masked_criterion? (r r' : Resolver) (scope active : Option String) (s : Step P) :
    (s.criterion? r scope active).map (Except.map Criterion.masked) =
      (s.criterion? r' scope active).map (Except.map Criterion.masked) := by
  have hconstraint : ∀ key operator value,
      (criterion?.refer r scope key fun ref => .constraint ⟨ref, operator, value⟩).map
          Criterion.masked =
        (criterion?.refer r' scope key fun ref => .constraint ⟨ref, operator, value⟩).map
          Criterion.masked := by
    intro key operator value
    refine masked_refer r r' scope key fun ref ref' h => ?_
    rw [Criterion.masked, Criterion.masked, h]
  cases s with
  | select key => exact congrArg some (masked_refer r r' scope key fun _ _ => congrArg _)
  | compare operator value =>
    cases active with
    | none => rfl
    | some key => exact congrArg some (hconstraint key operator value)
  | constrain key operator value => exact congrArg some (hconstraint key operator value)
  | relate direction key =>
    refine congrArg some (masked_refer r r' scope key fun ref ref' h => ?_)
    rw [Criterion.masked, Criterion.masked, h]
  | order sort key =>
    refine congrArg some (masked_refer r r' scope key fun ref ref' h => ?_)
    rw [Criterion.masked, Criterion.masked, h]
  | _ => rfl

theorem selectScope?_eq (r r' : Resolver) (s : Step P) : s.selectScope? r = s.selectScope? r' := by
  cases s with
  | select key =>
    rw [selectScope?, selectScope?]
    rcases Except.map_eq_map_iff.mp (r.masked_resolve r' key none) with
      ⟨e, h, h'⟩ | ⟨ref, ref', h, h', hmasked⟩
    · rw [h, h']
    · rw [h, h']
      exact congrArg some (PathRef.masked_eq_masked_iff.mp hmasked).scope
  | _ => rfl

end Step

namespace Query

/-- The query without anything that depends on the default adapter. -/
def masked (q : Query P) : Query P :=
  { q with criteria := q.criteria.map Criterion.masked, resolver := ⟨""⟩ }

theorem masked_stepped (q : Query P) (s : Step P) (entry : Option Criterion) :
    (q.stepped s entry).masked = q.masked.stepped s (entry.map Criterion.masked) := by
  have hcriteria : (if s.isReset then [] else q.criteria ++ entry.toList).map Criterion.masked =
      if s.isReset then [] else
        q.criteria.map Criterion.masked ++ (entry.map Criterion.masked).toList := by
    cases s.isReset <;> cases entry <;> simp
  simp only [masked, stepped, hcriteria]
  rw [s.selectScope?_eq q.resolver ⟨""⟩]
  rfl

theorem masked_readAs (q : Query P) (s : Step P)
    (reading : Option (Except QueryError Criterion)) :
    (q.readAs s reading).map masked =
      q.masked.readAs s (reading.map (Except.map Criterion.masked)) := by
  rcases reading with _ | ⟨e | c⟩
  · exact congrArg Except.ok (masked_stepped q s none)
  · rfl
  · exact congrArg Except.ok (masked_stepped q s (some c))

theorem masked_apply {q q' : Query P} (h : q.masked = q'.masked) (s : Step P) :
    (q.apply s).map masked = (q'.apply s).map masked := by
  have hscope : q.masked.scope = q'.masked.scope := congrArg scope h
  have hactive : q.masked.active = q'.masked.active := congrArg active h
  replace hscope : q.scope = q'.scope := hscope
  replace hactive : q.active = q'.active := hactive
  rw [apply_eq_reading, apply_eq_reading, masked_readAs, masked_readAs, h, hscope, hactive,
    s.masked_criterion? q.resolver q'.resolver]

theorem masked_build {q q' : Query P} (h : q.masked = q'.masked) (steps : List (Step P)) :
    (q.build steps).map masked = (q'.build steps).map masked := by
  -- over both queries at once: a step leaves two queries that are again equal up to masking
  induction steps generalizing q q' with
  | nil => exact congrArg Except.ok h
  | cons s rest ih =>
    rw [build_cons, build_cons]
    rcases Except.map_eq_map_iff.mp (masked_apply h s) with
      ⟨e, hs, hs'⟩ | ⟨next, next', hs, hs', hnext⟩
    · rw [hs, hs']
    · rw [hs, hs']
      exact ih hnext

theorem FailsAt.of_masked_eq {q q' : Query P} {steps : List (Step P)} {place : Nat}
    {e : QueryError} (hfails : q.FailsAt steps place e) (h : q.masked = q'.masked) :
    q'.FailsAt steps place e := by
  obtain ⟨before, s, hbefore, hs, he⟩ := hfails
  rcases Except.map_eq_map_iff.mp (masked_build h (steps.take place)) with
    ⟨e', hbefore', -⟩ | ⟨_, before', heq, hbefore', hmasked⟩
  · rw [hbefore] at hbefore'
    cases hbefore'
  · rw [hbefore] at heq
    cases heq
    rcases Except.map_eq_map_iff.mp (masked_apply hmasked s) with
      ⟨e', hs', he'⟩ | ⟨next, next', hs', -⟩
    · rw [he] at hs'
      cases hs'
      exact ⟨before', s, hbefore', hs, he'⟩
    · rw [he] at hs'
      cases hs'

theorem refs_map_masked (cs : Criteria) :
    Criteria.refs (cs.map Criterion.masked) = cs.refs.map PathRef.masked := by
  rw [Criteria.refs, Criteria.refs, List.filterMap_map, List.map_filterMap]
  refine List.filterMap_congr fun c _ => ?_
  cases c <;> rfl

theorem agree_of_masked_eq {cs cs' : Criteria}
    (h : cs.map Criterion.masked = cs'.map Criterion.masked) :
    List.Forall₂ PathRef.AgreesWith cs.refs cs'.refs := by
  have hrefs : cs.refs.map PathRef.masked = cs'.refs.map PathRef.masked := by
    rw [← refs_map_masked, h, refs_map_masked]
  have hmasked : List.Forall₂ Eq (cs.refs.map PathRef.masked) (cs'.refs.map PathRef.masked) := by
    rw [hrefs]
    exact List.forall₂_refl _
  have hpairs := List.forall₂_map_right_iff.mp (List.forall₂_map_left_iff.mp hmasked)
  exact hpairs.imp fun _ _ => PathRef.masked_eq_masked_iff.mp

/-- Two chains of the same steps that start with different default adapters. -/
theorem build_of_other_default (q : Query P) (adapter other : String) (steps : List (Step P)) :
    let q₁ : Query P := { q with resolver := ⟨adapter⟩ }
    let q₂ : Query P := { q with resolver := ⟨other⟩ }
    (∃ place e, q₁.FailsAt steps place e ∧ q₂.FailsAt steps place e ∧
      q₁.build steps = .error e ∧ q₂.build steps = .error e) ∨
    ∃ left₁ left₂, q₁.build steps = .ok left₁ ∧ q₂.build steps = .ok left₂ ∧
      left₁.scope = left₂.scope ∧ left₁.active = left₂.active ∧ left₁.size = left₂.size ∧
      left₁.criteria.map Criterion.masked = left₂.criteria.map Criterion.masked ∧
      List.Forall₂ PathRef.AgreesWith left₁.criteria.refs left₂.criteria.refs := by
  intro q₁ q₂
  have hmasked : q₁.masked = q₂.masked := rfl
  rcases Except.map_eq_map_iff.mp (masked_build hmasked steps) with
    ⟨e, h₁, h₂⟩ | ⟨left₁, left₂, h₁, h₂, hleft⟩
  · obtain ⟨place, hplace⟩ := build_eq_error_iff_failsAt.mp h₁
    exact .inl ⟨place, e, hplace, hplace.of_masked_eq hmasked, h₁, h₂⟩
  · have hcriteria : left₁.masked.criteria = left₂.masked.criteria := congrArg criteria hleft
    have hsize : left₁.masked.criteria.length = left₂.masked.criteria.length := by rw [hcriteria]
    have hscope : left₁.masked.scope = left₂.masked.scope := congrArg scope hleft
    have hactive : left₁.masked.active = left₂.masked.active := congrArg active hleft
    refine .inr ⟨left₁, left₂, h₁, h₂, hscope, hactive, ?_, hcriteria, agree_of_masked_eq hcriteria⟩
    rw [size, size]
    simpa only [masked, List.length_map] using hsize

end Query

end QueryLayer

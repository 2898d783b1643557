import Mathlib.Data.List.Forall2
import QueryLayer.Pipeline

/-! # How runs of a pipeline end

A validator has an effect on the target and may stop the run. A list of validators completes on a
target if none of them stops on what the ones before it have left; otherwise the first that does
stops the run at its place. Both readings are independent of the place where the run starts, which
only moves the reported places. Runs on targets that the validators do not tell apart end alike.
-/

set_option autoImplicit false

namespace QueryLayer

variable {τ : Type}

namespace Validator

def effect : Validator τ → τ → τ
  | sync step, t => (step t).1
  | async step, t => (step t).1

/-- How the validator stops a run, as the error for each place that it may have. -/
def stop? : Validator τ → τ → Option (Nat → PipelineError)
  | sync step, t =>
    match (step t).2 with
    | .proceed => none
    | .halt => some .halted
  | async step, t =>
    match (step t).2 with
    | .ok () => none
    | .error cause => some fun index => .failed index cause

theorem apply_eq (v : Validator τ) (index : Nat) (t : τ) :
    v.apply index t = (v.effect t, (v.stop? t).map fun stop => stop index) := by
  cases v with
  | sync step =>
    rw [apply, effect, stop?]
    rcases step t with ⟨t', _ | _⟩ <;> rfl
  | async step =>
    rw [apply, effect, stop?]
    rcases step t with ⟨t', _ | ⟨⟨⟩⟩⟩ <;> rfl

theorem index_of_stop? {v : Validator τ} {t : τ} {stop : Nat → PipelineError}
    (h : v.stop? t = some stop) (index : Nat) : (stop index).index = index := by
  cases v with
  | sync step =>
    rw [stop?] at h
    split at h
    · cases h
    · cases h
      rfl
  | async step =>
    rw [stop?] at h
    split at h
    · cases h
    · cases h
      rfl

/-- On related targets the validator stops the run for the same reason or not at all, and leaves
related targets. -/
def Respects (R : τ → τ → Prop) (v : Validator τ) : Prop :=
  ∀ t t', R t t' → v.stop? t' = v.stop? t ∧ R (v.effect t) (v.effect t')

/-- On related targets both validators stop the run alike, and leave related targets. -/
def Simulates {σ : Type} (R : σ → τ → Prop) (v : Validator σ) (w : Validator τ) : Prop :=
  ∀ s t, R s t → v.stop? s = w.stop? t ∧ R (v.effect s) (w.effect t)

@[simp] theorem effect_check (f : τ → τ) (t : τ) : (check f).effect t = f t := rfl

end Validator

namespace Pipeline

def effects (vs : List (Validator τ)) (t : τ) : τ := vs.foldl (fun t v => v.effect t) t

def found : List (Validator τ) → τ → List τ
  | [], _ => []
  | v :: rest, t => t :: found rest (v.effect t)

def Completes : List (Validator τ) → τ → Prop
  | [], _ => True
  | v :: rest, t => v.stop? t = none ∧ Completes rest (v.effect t)

/-- The validator at place `i` is the first that stops. -/
def StopsAt (vs : List (Validator τ)) (t : τ) (i : Nat) (stop : Nat → PipelineError) : Prop :=
  Completes (vs.take i) t ∧ ∃ v, vs[i]? = some v ∧ v.stop? (effects (vs.take i) t) = some stop

@[simp] theorem effects_nil (t : τ) : effects [] t = t := rfl

@[simp] theorem effects_cons (v : Validator τ) (rest : List (Validator τ)) (t : τ) :
    effects (v :: rest) t = effects rest (v.effect t) := rfl

@[simp] theorem length_found (vs : List (Validator τ)) (t : τ) :
    (found vs t).length = vs.length := by
  induction vs generalizing t with
  | nil => rfl
  | cons v rest ih => rw [found, List.length_cons, ih, List.length_cons]

theorem zip_found_take {ρ : Type} (f : ρ → Validator τ) (rules : List ρ) (n : Nat) (t : τ) :
    rules.zip (found ((rules.take n).map f) t) =
      (rules.take n).zip (found ((rules.take n).map f) t) := by
  induction rules generalizing n t with
  | nil => simp
  | cons rule rest ih =>
    cases n with
    | zero => rfl
    | succ n =>
      rw [List.take_succ_cons, List.map_cons, found, List.zip_cons_cons, List.zip_cons_cons, ih]

theorem completes_append {xs ys : List (Validator τ)} {t : τ} :
    Completes (xs ++ ys) t ↔ Completes xs t ∧ Completes ys (effects xs t) := by
  induction xs generalizing t with
  | nil => simp [Completes]
  | cons v rest ih => rw [List.cons_append, Completes, Completes, ih, effects_cons, and_assoc]

theorem effects_append (xs ys : List (Validator τ)) (t : τ) :
    effects (xs ++ ys) t = effects ys (effects xs t) := List.foldl_append

theorem stopsAt_zero {v : Validator τ} {rest : List (Validator τ)} {t : τ}
    {stop : Nat → PipelineError} :
    StopsAt (v :: rest) t 0 stop ↔ v.stop? t = some stop := by
  simp [StopsAt, Completes]

theorem stopsAt_succ {v : Validator τ} {rest : List (Validator τ)} {t : τ} {i : Nat}
    {stop : Nat → PipelineError} :
    StopsAt (v :: rest) t (i + 1) stop ↔ v.stop? t = none ∧ StopsAt rest (v.effect t) i stop := by
  simp [StopsAt, Completes, and_assoc]

theorem StopsAt.lt_length {vs : List (Validator τ)} {t : τ} {i : Nat}
    {stop : Nat → PipelineError} (h : StopsAt vs t i stop) : i < vs.length := by
  obtain ⟨-, v, hv, -⟩ := h
  exact (List.getElem?_eq_some_iff.mp hv).1

theorem StopsAt.index {vs : List (Validator τ)} {t : τ} {i : Nat}
    {stop : Nat → PipelineError} (h : StopsAt vs t i stop) (index : Nat) :
    (stop index).index = index := by
  obtain ⟨-, v, -, hstop⟩ := h
  exact Validator.index_of_stop? hstop index

theorem completes_or_stopsAt (vs : List (Validator τ)) (t : τ) :
    Completes vs t ∨ ∃ i stop, StopsAt vs t i stop := by
  induction vs generalizing t with
  | nil => exact .inl trivial
  | cons v rest ih =>
    cases hv : v.stop? t with
    | some stop => exact .inr ⟨0, stop, stopsAt_zero.mpr hv⟩
    | none =>
      rcases ih (v.effect t) with h | ⟨i, stop, h⟩
      · exact .inl ⟨hv, h⟩
      · exact .inr ⟨i + 1, stop, stopsAt_succ.mpr ⟨hv, h⟩⟩

/-! ## Runs on related targets -/

section

variable {R : τ → τ → Prop} {vs : List (Validator τ)} {t t' : τ}

theorem effects_related (hvs : ∀ v ∈ vs, v.Respects R) (h : R t t') :
    R (effects vs t) (effects vs t') := by
  induction vs generalizing t t' with
  | nil => exact h
  | cons v rest ih =>
    obtain ⟨hv, hrest⟩ := List.forall_mem_cons.mp hvs
    exact ih hrest (hv t t' h).2

theorem completes_related (hvs : ∀ v ∈ vs, v.Respects R) (h : R t t') :
    Completes vs t' ↔ Completes vs t := by
  induction vs generalizing t t' with
  | nil => rfl
  | cons v rest ih =>
    obtain ⟨hv, hrest⟩ := List.forall_mem_cons.mp hvs
    obtain ⟨hstop, heffect⟩ := hv t t' h
    rw [Completes, Completes, hstop, ih hrest heffect]

theorem stopsAt_related (hvs : ∀ v ∈ vs, v.Respects R) (h : R t t') {i : Nat}
    {stop : Nat → PipelineError} : StopsAt vs t' i stop ↔ StopsAt vs t i stop := by
  have hbefore : ∀ v ∈ vs.take i, v.Respects R := fun v hv => hvs v (List.mem_of_mem_take hv)
  have heffects := effects_related hbefore h
  rw [StopsAt, StopsAt, completes_related hbefore h]
  refine and_congr_right fun _ => exists_congr fun v => and_congr_right fun hv => ?_
  rw [(hvs v (List.mem_of_getElem? hv) _ _ heffects).1]

end

theorem runFrom_simulates {σ : Type} {R : σ → τ → Prop} {vs : List (Validator σ)}
    {ws : List (Validator τ)} (hvs : List.Forall₂ (Validator.Simulates R) vs ws) {s : σ} {t : τ}
    (h : R s t) (index : Nat) :
    let run := runFrom index vs s
    let run' := runFrom index ws t
    run.outcome = run'.outcome ∧ R run.target run'.target ∧
      List.Forall₂ R run.trail run'.trail := by
  induction hvs generalizing s t index with
  | nil => exact ⟨rfl, h, .nil⟩
  | @cons v w vs ws hv _ ih =>
    obtain ⟨hstop, heffect⟩ := hv s t h
    rw [runFrom, runFrom, Validator.apply_eq, Validator.apply_eq, hstop]
    cases w.stop? t with
    | some stop => exact ⟨rfl, heffect, .cons h .nil⟩
    | none =>
      obtain ⟨houtcome, htarget, htrail⟩ := ih heffect (index + 1)
      exact ⟨houtcome, htarget, .cons h htrail⟩

theorem runFrom_of_completes {vs : List (Validator τ)} {t : τ} (h : Completes vs t)
    (index : Nat) : runFrom index vs t = ⟨effects vs t, .ok (), found vs t⟩ := by
  induction vs generalizing t index with
  | nil => rfl
  | cons v rest ih =>
    obtain ⟨hv, hrest⟩ := h
    rw [runFrom, Validator.apply_eq, hv]
    simp only [Option.map_none]
    rw [ih hrest]
    rfl

/-- Validators that complete pass on what they leave, with places counted on from their number. -/
theorem run_append_of_completes {xs : List (Validator τ)} {t : τ} (h : Completes xs t)
    (ys : List (Validator τ)) :
    run (xs ++ ys) t =
      let later := runFrom xs.length ys (effects xs t)
      { later with trail := found xs t ++ later.trail } := by
  rw [run, runFrom_append, runFrom_of_completes h, Nat.zero_add]

theorem drop_found_append (xs : List (Validator τ)) (t : τ) (trail : List τ) :
    (found xs t ++ trail).drop xs.length = trail :=
  List.drop_left' (length_found xs t)

theorem runFrom_of_stopsAt {vs : List (Validator τ)} {t : τ} {i : Nat}
    {stop : Nat → PipelineError} (h : StopsAt vs t i stop) (index : Nat) :
    runFrom index vs t =
      ⟨effects (vs.take (i + 1)) t, .error (stop (index + i)), found (vs.take (i + 1)) t⟩ := by
  induction vs generalizing t i index with
  | nil => exact absurd h.lt_length (Nat.not_lt_zero i)
  | cons v rest ih =>
    rw [runFrom, Validator.apply_eq]
    cases i with
    | zero =>
      rw [stopsAt_zero.mp h]
      rfl
    | succ i =>
      obtain ⟨hv, hrest⟩ := stopsAt_succ.mp h
      rw [hv]
      simp only [Option.map_none]
      rw [ih hrest, Nat.add_right_comm, Nat.add_assoc]
      rfl

theorem outcome_runFrom_eq_error_iff {vs : List (Validator τ)} {t : τ} {index : Nat}
    {e : PipelineError} :
    (runFrom index vs t).outcome = .error e ↔
      ∃ i stop, StopsAt vs t i stop ∧ e = stop (index + i) := by
  constructor
  · intro h
    rcases completes_or_stopsAt vs t with hcompletes | ⟨i, stop, hstop⟩
    · rw [runFrom_of_completes hcompletes] at h
      cases h
    · rw [runFrom_of_stopsAt hstop] at h
      cases h
      exact ⟨i, stop, hstop, rfl⟩
  · rintro ⟨i, stop, hstop, rfl⟩
    rw [runFrom_of_stopsAt hstop]

theorem outcome_runFrom_eq_ok_iff {vs : List (Validator τ)} {t : τ} {index : Nat} :
    (runFrom index vs t).outcome = .ok () ↔ Completes vs t := by
  constructor
  · intro h
    rcases completes_or_stopsAt vs t with hcompletes | ⟨i, stop, hstop⟩
    · exact hcompletes
    · rw [runFrom_of_stopsAt hstop] at h
      cases h
  · intro h
    rw [runFrom_of_completes h]

end Pipeline

end QueryLayer

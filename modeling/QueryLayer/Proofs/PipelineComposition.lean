import Mathlib.Logic.Relation
import QueryLayer.Proofs.PipelineRuns

/-! # Composition of pipelines

Running one list of validators after another is running the two lists joined, with the places of
the second counted on. A run ends in an error exactly when one of its validators stops it, and the
error tells which one, and how. Which validators are called, and how often, is seen by letting each
of them note its place in a log beside the target.
-/

set_option autoImplicit false

namespace QueryLayer

variable {τ : Type}

namespace Validator

def Follows (E : τ → τ → Prop) (v : Validator τ) : Prop :=
  ∀ t, Relation.ReflTransGen E t (v.effect t)

/-- The two ways in which a validator stops a run. -/
theorem stop?_cases {v : Validator τ} {t : τ} {stop : Nat → PipelineError}
    (h : v.stop? t = some stop) :
    (∃ step, v = .sync step ∧ (step t).2 = .halt ∧ stop = .halted) ∨
      ∃ step cause, v = .async step ∧ (step t).2 = .error cause ∧
        stop = fun index => .failed index cause := by
  cases v with
  | sync step =>
    rw [stop?] at h
    split at h
    · cases h
    · rename_i hverdict
      exact .inl ⟨step, rfl, hverdict, (Option.some.inj h).symm⟩
  | async step =>
    rw [stop?] at h
    split at h
    · cases h
    · rename_i cause hcause
      exact .inr ⟨step, cause, rfl, hcause, (Option.some.inj h).symm⟩

theorem shift_of_stop? {v : Validator τ} {t : τ} {stop : Nat → PipelineError}
    (h : v.stop? t = some stop) (n i : Nat) : (stop i).shift n = stop (n + i) := by
  rcases stop?_cases h with ⟨_, -, -, rfl⟩ | ⟨_, _, -, -, rfl⟩ <;> rfl

theorem stop_eq_halted_iff {v : Validator τ} {t : τ} {stop : Nat → PipelineError}
    (h : v.stop? t = some stop) (i : Nat) :
    stop i = .halted i ↔ ∃ step, v = .sync step ∧ (step t).2 = .halt := by
  rcases stop?_cases h with ⟨step, hv, hverdict, rfl⟩ | ⟨step, cause, rfl, -, rfl⟩
  · exact iff_of_true rfl ⟨step, hv, hverdict⟩
  · exact iff_of_false nofun fun ⟨_, hsync, _⟩ => nomatch hsync

theorem stop_eq_failed_iff {v : Validator τ} {t : τ} {stop : Nat → PipelineError}
    (h : v.stop? t = some stop) (i : Nat) (cause : String) :
    stop i = .failed i cause ↔ ∃ step, v = .async step ∧ (step t).2 = .error cause := by
  rcases stop?_cases h with ⟨step, rfl, -, rfl⟩ | ⟨step, own, rfl, hown, rfl⟩
  · exact iff_of_false nofun fun ⟨_, hasync, _⟩ => nomatch hasync
  · constructor
    · rintro ⟨⟩
      exact ⟨step, rfl, hown⟩
    · rintro ⟨_, ⟨⟩, hcause⟩
      rw [hown] at hcause
      cases hcause
      rfl

/-- The validator on targets beside a log, in which it notes `place` whenever it is called. -/
def noting (place : Nat) : Validator τ → Validator (τ × List Nat)
  | sync step => .sync fun (t, log) => (((step t).1, log ++ [place]), (step t).2)
  | async step => .async fun (t, log) => (((step t).1, log ++ [place]), (step t).2)

theorem effect_noting (v : Validator τ) (place : Nat) (t : τ) (log : List Nat) :
    (v.noting place).effect (t, log) = (v.effect t, log ++ [place]) := by
  cases v <;> rfl

theorem stop?_noting (v : Validator τ) (place : Nat) (t : τ) (log : List Nat) :
    (v.noting place).stop? (t, log) = v.stop? t := by
  cases v <;> rfl

end Validator

namespace Pipeline

/-! ## Two lists of validators -/

/-- Where a run starts matters to nothing but the place that an error reports. -/
theorem runFrom_eq_run (index : Nat) (vs : List (Validator τ)) (t : τ) :
    runFrom index vs t =
      ⟨(run vs t).target, (run vs t).outcome.mapError (.shift index), (run vs t).trail⟩ := by
  rw [run]
  rcases completes_or_stopsAt vs t with h | ⟨i, stop, h⟩
  · rw [runFrom_of_completes h, runFrom_of_completes h]
    rfl
  · have hshift : (stop (0 + i)).shift index = stop (index + i) := by
      obtain ⟨-, v, -, hv⟩ := h
      rw [Nat.zero_add, Validator.shift_of_stop? hv]
    rw [runFrom_of_stopsAt h, runFrom_of_stopsAt h, ← hshift]
    rfl

theorem run_append_of_error {xs : List (Validator τ)} {t : τ} {e : PipelineError}
    (h : (run xs t).outcome = .error e) (ys : List (Validator τ)) :
    run (xs ++ ys) t = run xs t := by
  rw [run] at h
  rw [run, runFrom_append, h]
  rfl

theorem run_append_of_ok {xs : List (Validator τ)} {t : τ} (h : (run xs t).outcome = .ok ())
    (ys : List (Validator τ)) :
    run (xs ++ ys) t =
      let later := run ys (run xs t).target
      ⟨later.target, later.outcome.mapError (.shift xs.length),
        (run xs t).trail ++ later.trail⟩ := by
  rw [run] at h
  rw [run, runFrom_append, h]
  simp only [Nat.zero_add, runFrom_eq_run xs.length]
  rfl

/-! ## The calls of a run -/

def notingFrom (index : Nat) (vs : List (Validator τ)) : List (Validator (τ × List Nat)) :=
  (vs.zipIdx index).map fun (v, place) => v.noting place

/-- The places of the validators that a run calls, one for each call, in the order of the calls. -/
def calls (vs : List (Validator τ)) (t : τ) : List Nat :=
  (run (notingFrom 0 vs) (t, [])).target.2

theorem notingFrom_cons (index : Nat) (v : Validator τ) (rest : List (Validator τ)) :
    notingFrom index (v :: rest) = v.noting index :: notingFrom (index + 1) rest := rfl

theorem take_notingFrom (index n : Nat) (vs : List (Validator τ)) :
    (notingFrom index vs).take n = notingFrom index (vs.take n) := by
  induction vs generalizing index n with
  | nil => simp [notingFrom]
  | cons v rest ih =>
    cases n with
    | zero => rfl
    | succ n => rw [notingFrom_cons, List.take_succ_cons, List.take_succ_cons, notingFrom_cons, ih]

theorem effects_notingFrom (index : Nat) (vs : List (Validator τ)) (t : τ) (log : List Nat) :
    effects (notingFrom index vs) (t, log) =
      (effects vs t, log ++ List.range' index vs.length) := by
  induction vs generalizing index t log with
  | nil => simp [notingFrom]
  | cons v rest ih =>
    rw [notingFrom_cons, effects_cons, Validator.effect_noting, ih, effects_cons,
      List.length_cons, List.range'_succ, List.append_assoc]
    rfl

theorem completes_notingFrom {index : Nat} {vs : List (Validator τ)} {t : τ} {log : List Nat} :
    Completes (notingFrom index vs) (t, log) ↔ Completes vs t := by
  induction vs generalizing index t log with
  | nil => rfl
  | cons v rest ih =>
    rw [notingFrom_cons, Completes, Completes, Validator.stop?_noting, Validator.effect_noting, ih]

theorem stopsAt_notingFrom {index : Nat} {vs : List (Validator τ)} {t : τ} {log : List Nat}
    {i : Nat} {stop : Nat → PipelineError} (h : StopsAt vs t i stop) :
    StopsAt (notingFrom index vs) (t, log) i stop := by
  obtain ⟨hcompletes, v, hv, hstop⟩ := h
  refine ⟨?_, v.noting (index + i), ?_, ?_⟩
  · rw [take_notingFrom]
    exact completes_notingFrom.mpr hcompletes
  · simp [notingFrom, hv]
  · rw [take_notingFrom, effects_notingFrom, Validator.stop?_noting, hstop]

theorem calls_of_completes {vs : List (Validator τ)} {t : τ} (h : Completes vs t) :
    calls vs t = List.range vs.length := by
  rw [calls, run, runFrom_of_completes (completes_notingFrom.mpr h), effects_notingFrom,
    List.nil_append, List.range_eq_range']

theorem calls_of_stopsAt {vs : List (Validator τ)} {t : τ} {i : Nat}
    {stop : Nat → PipelineError} (h : StopsAt vs t i stop) : calls vs t = List.range (i + 1) := by
  rw [calls, run, runFrom_of_stopsAt (stopsAt_notingFrom h), take_notingFrom, effects_notingFrom,
    List.nil_append, List.length_take_of_le (Nat.succ_le_of_lt h.lt_length),
    List.range_eq_range']

/-! ## How a run ends -/

structure EndsWith (vs : List (Validator τ)) (t : τ) (e : PipelineError) : Prop where
  index_lt : e.index < vs.length
  target : (run vs t).target = effects (vs.take (e.index + 1)) t
  calls : calls vs t = List.range (e.index + 1)
  halted_iff : e = .halted e.index ↔
    ∃ step, vs[e.index]? = some (.sync step) ∧ (step (effects (vs.take e.index) t)).2 = .halt
  failed_iff : ∀ cause, e = .failed e.index cause ↔
    ∃ step, vs[e.index]? = some (.async step) ∧
      (step (effects (vs.take e.index) t)).2 = .error cause

theorem StopsAt.endsWith {vs : List (Validator τ)} {t : τ} {i : Nat}
    {stop : Nat → PipelineError} (h : StopsAt vs t i stop) : EndsWith vs t (stop i) := by
  have hindex : (stop i).index = i := h.index i
  obtain ⟨-, v, hv, hstop⟩ := id h
  refine ⟨?_, ?_, ?_, ?_, fun cause => ?_⟩ <;> rw [hindex]
  · exact h.lt_length
  · rw [run, runFrom_of_stopsAt h]
  · exact calls_of_stopsAt h
  · rw [Validator.stop_eq_halted_iff hstop, hv]
    simp only [Option.some.injEq]
  · rw [Validator.stop_eq_failed_iff hstop, hv]
    simp only [Option.some.injEq]

theorem outcome_eq_error_iff {vs : List (Validator τ)} {t : τ} {e : PipelineError} :
    (run vs t).outcome = .error e ↔ ∃ i stop, StopsAt vs t i stop ∧ e = stop i := by
  rw [run, outcome_runFrom_eq_error_iff]
  simp only [Nat.zero_add]

theorem outcome_eq_ok_iff {vs : List (Validator τ)} {t : τ} :
    (run vs t).outcome = .ok () ↔ Completes vs t := outcome_runFrom_eq_ok_iff

theorem StopsAt.append {xs : List (Validator τ)} {t : τ} {i : Nat} {stop : Nat → PipelineError}
    (h : StopsAt xs t i stop) (ys : List (Validator τ)) : StopsAt (xs ++ ys) t i stop := by
  have hlt := h.lt_length
  rw [StopsAt, List.take_append_of_le_length (Nat.le_of_lt hlt), List.getElem?_append_left hlt]
  exact h

/-- A run leaves the target to its validators alone. -/
theorem exists_target_eq_effects (vs : List (Validator τ)) (t : τ) :
    ∃ n, (run vs t).target = effects (vs.take n) t := by
  rw [run]
  rcases completes_or_stopsAt vs t with h | ⟨i, stop, h⟩
  · exact ⟨vs.length, by rw [runFrom_of_completes h, List.take_length]⟩
  · exact ⟨i + 1, by rw [runFrom_of_stopsAt h]⟩

theorem follows_effects {E : τ → τ → Prop} {vs : List (Validator τ)}
    (hvs : ∀ v ∈ vs, v.Follows E) (t : τ) : Relation.ReflTransGen E t (effects vs t) := by
  induction vs generalizing t with
  | nil => exact .refl
  | cons v rest ih =>
    obtain ⟨hv, hrest⟩ := List.forall_mem_cons.mp hvs
    exact (hv t).trans (ih hrest _)

theorem follows_run {E : τ → τ → Prop} {vs : List (Validator τ)} (hvs : ∀ v ∈ vs, v.Follows E)
    (t : τ) : Relation.ReflTransGen E t (run vs t).target := by
  obtain ⟨n, hn⟩ := exists_target_eq_effects vs t
  rw [hn]
  exact follows_effects (fun v hv => hvs v (List.mem_of_mem_take hv)) t

theorem messages_effects [HasMessages τ] {vs : List (Validator τ)}
    (hvs : ∀ v ∈ vs, ∀ t, HasMessages.messages (v.effect t) = HasMessages.messages t) (t : τ) :
    HasMessages.messages (effects vs t) = HasMessages.messages t := by
  induction vs generalizing t with
  | nil => rfl
  | cons v rest ih =>
    obtain ⟨hv, hrest⟩ := List.forall_mem_cons.mp hvs
    rw [effects_cons, ih hrest, hv]

/-- What a run comes to, alone and with more validators after it. -/
theorem run_composes [HasMessages τ] (xs : List (Validator τ)) (t : τ) :
    (∀ e, (run xs t).outcome = .error e →
      EndsWith xs t e ∧ ∀ ys, run (xs ++ ys) t = run xs t ∧ calls (xs ++ ys) t = calls xs t) ∧
    ((run xs t).outcome = .ok () →
      (run xs t).target = effects xs t ∧ calls xs t = List.range xs.length ∧
        ∀ ys, let later := run ys (run xs t).target
          run (xs ++ ys) t =
            ⟨later.target, later.outcome.mapError (.shift xs.length),
              (run xs t).trail ++ later.trail⟩) ∧
    ((∀ v ∈ xs, ∀ t, HasMessages.messages (v.effect t) = HasMessages.messages t) →
      HasMessages.messages (run xs t).target = HasMessages.messages t) := by
  refine ⟨fun e he => ?_, fun hok => ?_, fun hxs => ?_⟩
  · obtain ⟨i, stop, hstop, rfl⟩ := outcome_eq_error_iff.mp he
    refine ⟨hstop.endsWith, fun ys => ⟨run_append_of_error he ys, ?_⟩⟩
    rw [calls_of_stopsAt hstop, calls_of_stopsAt (hstop.append ys)]
  · have hcompletes := outcome_eq_ok_iff.mp hok
    refine ⟨?_, calls_of_completes hcompletes, run_append_of_ok hok⟩
    rw [run, runFrom_of_completes hcompletes]
  · obtain ⟨n, hn⟩ := exists_target_eq_effects xs t
    rw [hn]
    exact messages_effects (fun v hv => hxs v (List.mem_of_mem_take hv)) t

instance : HasMessages (List String) where
  messages := id
  setMessages messages _ := messages

/-- The second of two validators that say nothing stops, and a third is not called. -/
theorem run_composes_of_halt :
    let quiet : Validator (List String) := .async fun t => (t, .ok ())
    let halt : Validator (List String) := .sync fun t => (t, .halt)
    let vs := [quiet, halt]
    (run vs ["a"]).outcome = .error (.halted 1) ∧
      calls (vs ++ [.check fun t => t ++ ["b"]]) ["a"] = [0, 1] ∧
      (run ([quiet] ++ vs) ["a"]).outcome = .error (.halted 2) ∧
      (run vs ["a"]).target = ["a"] := by
  intro quiet halt vs
  have herror : (run vs ["a"]).outcome = .error (.halted 1) := rfl
  have hok : (run [quiet] ["a"]).outcome = .ok () := rfl
  obtain ⟨hstopped, -, hmessages⟩ := run_composes vs ["a"]
  obtain ⟨hends, happend⟩ := hstopped _ herror
  obtain ⟨-, -, hlater⟩ := (run_composes [quiet] ["a"]).2.1 hok
  refine ⟨herror, ?_, ?_, hmessages (by simp [vs, quiet, halt, Validator.effect])⟩
  · rw [(happend _).2]
    exact hends.calls
  · rw [hlater vs]
    rfl

end Pipeline

end QueryLayer

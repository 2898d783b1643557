import Mathlib.Data.List.Basic
import QueryLayer.Memory

/-! # What criteria do to tables

Carrying out criteria changes one table at most: that of the model they start from. A table
therefore holds what was created in it and not removed by anything carried out later, in the order
of creation.
-/

set_option autoImplicit false

namespace QueryLayer

/-! ## The entries that count -/

namespace Criterion

theorem start?_eq_none_iff {c : Criterion} : c.start? = none ↔ ∀ ref, c ≠ .start ref := by
  cases c <;> simp [start?]

theorem constraint?_eq_some_iff {c : Criterion} {d : Constraint} :
    c.constraint? = some d ↔ c = .constraint d := by
  cases c <;> simp [constraint?]

theorem limit?_eq_none_iff {c : Criterion} : c.limit? = none ↔ ∀ n, c ≠ .limit n := by
  cases c <;> simp [limit?]

end Criterion

namespace Criteria

variable {cs : Criteria}

theorem mem_constraints {c : Constraint} : c ∈ cs.constraints ↔ .constraint c ∈ cs := by
  simp only [constraints, List.mem_filterMap, Criterion.constraint?_eq_some_iff, exists_eq_right]

theorem start?_of_first {before later : Criteria} {ref : ModelRef}
    (h : cs = before ++ .start ref :: later) (hfirst : ∀ other, .start other ∉ before) :
    cs.start? = some ref := by
  rw [start?, List.head?_filterMap, List.findSome?_eq_some_iff]
  refine ⟨before, .start ref, later, h, rfl, fun c hc => ?_⟩
  rw [Criterion.start?_eq_none_iff]
  rintro other rfl
  exact hfirst other hc

theorem limit?_of_last {before later : Criteria} {n : Nat} (h : cs = before ++ .limit n :: later)
    (hlast : ∀ k, .limit k ∉ later) : cs.limit? = some n := by
  rw [limit?, List.getLast?_filterMap, List.findSome?_eq_some_iff]
  refine ⟨later.reverse, .limit n, before.reverse, by simp [h], rfl, fun c hc => ?_⟩
  rw [Criterion.limit?_eq_none_iff]
  rintro k rfl
  exact hlast k (List.mem_reverse.mp hc)

theorem limit?_of_none (h : ∀ n, .limit n ∉ cs) : cs.limit? = none := by
  rw [limit?, List.getLast?_filterMap, List.findSome?_eq_none_iff]
  intro c hc
  rw [Criterion.limit?_eq_none_iff]
  rintro n rfl
  exact h n (List.mem_reverse.mp hc)

/-! An action at the end is the one that counts, and leaves everything else as it is. -/

variable (cs : Criteria) (a : Action)

theorem action?_concat : action? (cs ++ [.action a]) = some a := by
  simp [action?, List.filterMap_append, Criterion.action?]

theorem start?_concat : start? (cs ++ [.action a]) = cs.start? := by
  simp [start?, List.filterMap_append, Criterion.start?]

theorem limit?_concat : limit? (cs ++ [.action a]) = cs.limit? := by
  simp [limit?, List.filterMap_append, Criterion.limit?]

theorem constraints_concat : constraints (cs ++ [.action a]) = cs.constraints := by
  simp [constraints, List.filterMap_append, Criterion.constraint?]

end Criteria

namespace Memory

variable (engine : Pattern.Engine)

theorem fulfils_iff {cs : Criteria} {record : Value} : fulfils engine cs record = true ↔
    ∀ c, .constraint c ∈ cs →
      c.test (.builtin engine) (cell record c.left.attr) = some true := by
  rw [fulfils, List.all_eq_true]
  simp only [Criteria.mem_constraints]
  refine forall₂_congr fun c _ => ?_
  cases c.test (.builtin engine) (cell record c.left.attr) <;> simp

theorem fulfils_concat (cs : Criteria) (a : Action) :
    fulfils engine (cs ++ [.action a]) = fulfils engine cs := by
  funext record
  rw [fulfils, fulfils, Criteria.constraints_concat]

/-- None of the records that are not selected is selected. -/
theorem filter_fulfils_rest (cs : Criteria) (records : List Value) :
    (records.filter fun record => !fulfils engine cs record).filter (fulfils engine cs) = [] := by
  rw [List.filter_filter, List.filter_eq_nil_iff]
  intro record _
  cases fulfils engine cs record <;> simp

theorem perform_concat (cs : Criteria) (a : Action) (records : List Value) :
    perform engine (cs ++ [.action a]) a records = perform engine cs a records := by
  obtain ⟨kind, data⟩ := a
  cases kind <;> simp only [perform, fulfils_concat, Criteria.limit?_concat]

theorem table_insert (model k : String) (records : List Value) (tables : Tables) :
    table (Entries.insert model records tables) k =
      if k = model then records else table tables k := by
  rw [table, Entries.find?_insert]
  split <;> rfl

/-! ## One step -/

def created (model : String) (cs : Criteria) : List Value :=
  match cs.start?, cs.action? with
  | some start, some ⟨.create, data⟩ => if start.model = model then data.getD [] else []
  | _, _ => []

def removes (model : String) (cs : Criteria) (record : Value) : Bool :=
  match cs.start?, cs.action? with
  | some start, some ⟨.remove, _⟩ => start.model = model && fulfils engine cs record
  | _, _ => false

section Serving

variable {engine} {cs : Criteria} {start : ModelRef} {a : Action}

theorem answer_serve (hstart : cs.start? = some start) (haction : cs.action? = some a)
    (tables : Tables) :
    (serve engine cs tables).1 = (perform engine cs a (table tables start.model)).1 := by
  rw [serve, hstart, haction]

theorem table_serve_of_action (hstart : cs.start? = some start) (haction : cs.action? = some a)
    (tables : Tables) (model : String) : table (serve engine cs tables).2 model =
      if model = start.model then (perform engine cs a (table tables start.model)).2
      else table tables model := by
  rw [serve, hstart, haction]
  exact table_insert _ _ _ _

theorem records_perform (hstart : cs.start? = some start) (haction : cs.action? = some a)
    (records : List Value) : (perform engine cs a records).2 =
      (records.filter fun record => !removes engine start.model cs record) ++
        created start.model cs := by
  obtain ⟨kind, data⟩ := a
  cases kind <;> simp [perform, removes, created, hstart, haction]

theorem table_serve (model : String) (cs : Criteria) (tables : Tables) :
    table (serve engine cs tables).2 model =
      (table tables model).filter (fun record => !removes engine model cs record) ++
        created model cs := by
  cases hstart : cs.start? with
  | none => simp [serve, removes, created, hstart]
  | some start =>
    cases haction : cs.action? with
    | none => simp [serve, removes, created, hstart, haction]
    | some a =>
      rw [table_serve_of_action hstart haction]
      by_cases hmodel : model = start.model
      · rw [if_pos hmodel, records_perform hstart haction, hmodel]
      · obtain ⟨kind, data⟩ := a
        have hother : ¬ start.model = model := fun h => hmodel h.symm
        rw [if_neg hmodel]
        cases kind <;> simp [removes, created, hstart, haction, hother]

end Serving

/-! ## Many steps -/

def replay (asked : List Criteria) (tables : Tables) : Tables :=
  asked.foldl (fun tables cs => (serve engine cs tables).2) tables

def spared (model : String) (asked : List Criteria) (record : Value) : Bool :=
  asked.all fun cs => !removes engine model cs record

/-- What the criteria create that none of the later ones removes. -/
def remaining (model : String) : List Criteria → List Value
  | [] => []
  | cs :: later =>
    (created model cs).filter (spared engine model later) ++ remaining model later

theorem table_replay (model : String) (asked : List Criteria) (tables : Tables) :
    table (replay engine asked tables) model =
      (table tables model).filter (spared engine model asked) ++ remaining engine model asked := by
  induction asked generalizing tables with
  | nil =>
    have hspared : spared engine model [] = fun _ => true := rfl
    rw [hspared, List.filter_true, remaining, List.append_nil]
    rfl
  | cons cs later ih =>
    have hspared : spared engine model (cs :: later) =
        fun record => spared engine model later record && !removes engine model cs record := by
      funext record
      rw [spared, List.all_cons, Bool.and_comm]
      rfl
    rw [replay, List.foldl_cons]
    -- for the later criteria, what the first ones leave and create is there from the start
    rw [← replay, ih, table_serve, List.filter_append, List.filter_filter, remaining, hspared,
      List.append_assoc]

end Memory

end QueryLayer

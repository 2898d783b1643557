import QueryLayer.Proofs.WellFormedReferences

/-! # The grammar of references

A dotted text falls into runs between dots in one way only. Which reference it is, or why it is
none, depends on these runs and, for a single one, on the scope: a run that is empty is reported
before a wrong number of them, and that before a missing scope.
-/

set_option autoImplicit false

namespace QueryLayer

namespace Dotted

/-- The text is these runs without dots, joined by dots. -/
structure Joins (dotted : String) (runs : List String) : Prop where
  ne_nil : runs ≠ []
  dotless : ∀ s ∈ runs, '.' ∉ s.toList
  join : ".".intercalate runs = dotted

theorem joins_segments (dotted : String) : Joins dotted (segments dotted) where
  ne_nil := by
    rw [segments, Ne, List.map_eq_nil_iff]
    exact split_ne_nil _
  dotless s hs := by
    obtain ⟨segment, hsegment, rfl⟩ := List.mem_map.mp hs
    rw [String.toList_ofList]
    exact dot_not_mem_of_mem_split hsegment
  join := by
    have hruns : (segments dotted).map String.toList = dotted.toList.splitOn '.' := by
      rw [segments, List.map_map, ← split_eq_splitOn]
      simp
    apply String.toList_injective
    rw [String.toList_intercalate, hruns]
    exact List.intercalate_splitOn '.'

theorem Joins.eq_segments {dotted : String} {runs : List String} (h : Joins dotted runs) :
    runs = segments dotted := by
  have hsplit : dotted.toList.splitOn '.' = runs.map String.toList := by
    rw [← h.join, String.toList_intercalate]
    refine List.splitOn_intercalate '.' ?_ (by simpa using h.ne_nil)
    exact List.forall_mem_map.mpr h.dotless
  rw [segments, split_eq_splitOn, hsplit, List.map_map]
  simp

theorem joins_iff {dotted : String} {runs : List String} :
    Joins dotted runs ↔ runs = segments dotted :=
  ⟨Joins.eq_segments, fun h => h ▸ joins_segments dotted⟩

theorem any_isEmpty_iff {runs : List String} : runs.any String.isEmpty = true ↔ "" ∈ runs := by
  simp

theorem cut_eq_some_iff {cs xs ys : List Char} :
    cut cs = some (xs, ys) ↔ cs = xs ++ '.' :: ys ∧ '.' ∉ xs := by
  constructor
  · intro h
    induction cs generalizing xs with
    | nil => cases h
    | cons c rest ih =>
      rw [cut] at h
      by_cases hc : c = '.'
      · rw [if_pos hc] at h
        cases h
        exact ⟨by rw [hc, List.nil_append], List.not_mem_nil⟩
      · rw [if_neg hc] at h
        obtain ⟨⟨before, after⟩, hhalves, heq⟩ := Option.map_eq_some_iff.mp h
        cases heq
        obtain ⟨rfl, hbefore⟩ := ih hhalves
        exact ⟨rfl, fun hdot => (List.mem_cons.mp hdot).elim (fun heq => hc heq.symm) hbefore⟩
  · rintro ⟨rfl, h⟩
    exact cut_append_dot h ys

theorem qualifier?_eq_some_iff {scope adapter model : String} :
    qualifier? scope = some (adapter, model) ↔
      scope = adapter ++ "." ++ model ∧ '.' ∉ adapter.toList := by
  rw [qualifier?, Option.map_eq_some_iff]
  constructor
  · rintro ⟨⟨before, after⟩, hcut, heq⟩
    cases heq
    obtain ⟨hscope, hdot⟩ := cut_eq_some_iff.mp hcut
    rw [String.toList_ofList]
    refine ⟨String.toList_injective ?_, hdot⟩
    rw [toList_append_dot, hscope, String.toList_ofList, String.toList_ofList]
  · rintro ⟨rfl, hdot⟩
    refine ⟨(adapter.toList, model.toList), ?_, by simp⟩
    rw [toList_append_dot]
    exact cut_append_dot hdot _

end Dotted

/-- Which references lists of runs without empty ones name. -/
structure Grammar (α : Type) where
  max : Nat
  /-- The runs are a bare attribute, and it lacks the scope that it belongs to. -/
  Lacks : List String → String → Prop
  Reads : List String → α → Prop
  length_of_lacks : ∀ {runs attr}, Lacks runs attr → runs.length ≤ max
  length_of_reads : ∀ {runs a}, Reads runs a → runs.length ≤ max
  lacks_unique : ∀ {runs attr other}, Lacks runs attr → Lacks runs other → attr = other
  reads_unique : ∀ {runs a b}, Reads runs a → Reads runs b → a = b
  not_reads_of_lacks : ∀ {runs attr a}, Lacks runs attr → ¬ Reads runs a

namespace Grammar

variable {α : Type}

/-- How reading a text with these runs ends. -/
inductive Ending (g : Grammar α) (dotted : String) (runs : List String) :
    Except PathError α → Prop where
  | empty : "" ∈ runs → Ending g dotted runs (.error (.emptySegment dotted))
  | tooMany : "" ∉ runs → g.max < runs.length →
    Ending g dotted runs (.error (.segmentCount dotted runs.length g.max))
  | unscoped {attr : String} : "" ∉ runs → g.Lacks runs attr →
    Ending g dotted runs (.error (.missingStart attr))
  | read {a : α} : "" ∉ runs → g.Reads runs a → Ending g dotted runs (.ok a)

namespace Ending

variable {g : Grammar α} {dotted : String} {runs : List String} {answer : Except PathError α}

theorem empty_iff (h : g.Ending dotted runs answer) :
    answer = .error (.emptySegment dotted) ↔ "" ∈ runs := by
  cases h with
  | empty hempty => exact iff_of_true rfl hempty
  | tooMany hno => exact iff_of_false nofun hno
  | unscoped hno => exact iff_of_false nofun hno
  | read hno => exact iff_of_false nofun hno

theorem tooMany_iff (h : g.Ending dotted runs answer) :
    answer = .error (.segmentCount dotted runs.length g.max) ↔
      "" ∉ runs ∧ g.max < runs.length := by
  cases h with
  | empty hempty => exact iff_of_false nofun fun hno => hno.1 hempty
  | tooMany hno hmax => exact iff_of_true rfl ⟨hno, hmax⟩
  | unscoped hno hlacks =>
    exact iff_of_false nofun fun h => Nat.not_lt.mpr (g.length_of_lacks hlacks) h.2
  | read hno hreads =>
    exact iff_of_false nofun fun h => Nat.not_lt.mpr (g.length_of_reads hreads) h.2

theorem unscoped_iff (h : g.Ending dotted runs answer) (attr : String) :
    answer = .error (.missingStart attr) ↔ "" ∉ runs ∧ g.Lacks runs attr := by
  cases h with
  | empty hempty => exact iff_of_false nofun fun hno => hno.1 hempty
  | tooMany hno hmax =>
    exact iff_of_false nofun fun h => Nat.not_lt.mpr (g.length_of_lacks h.2) hmax
  | unscoped hno hlacks =>
    constructor
    · rintro ⟨⟩
      exact ⟨hno, hlacks⟩
    · rintro ⟨-, hother⟩
      rw [g.lacks_unique hlacks hother]
  | read hno hreads => exact iff_of_false nofun fun h => g.not_reads_of_lacks h.2 hreads

theorem read_iff (h : g.Ending dotted runs answer) (a : α) :
    answer = .ok a ↔ "" ∉ runs ∧ g.Reads runs a := by
  cases h with
  | empty hempty => exact iff_of_false nofun fun hno => hno.1 hempty
  | tooMany hno hmax =>
    exact iff_of_false nofun fun h => Nat.not_lt.mpr (g.length_of_reads h.2) hmax
  | unscoped hno hlacks => exact iff_of_false nofun fun h => g.not_reads_of_lacks hlacks h.2
  | read hno hreads =>
    constructor
    · rintro ⟨⟩
      exact ⟨hno, hreads⟩
    · rintro ⟨-, hother⟩
      rw [g.reads_unique hreads hother]

theorem accepted_iff (h : g.Ending dotted runs answer) :
    (∃ a, answer = .ok a) ↔
      "" ∉ runs ∧ runs.length ≤ g.max ∧ ∀ attr, ¬ g.Lacks runs attr := by
  cases h with
  | empty hempty => exact iff_of_false nofun fun hno => hno.1 hempty
  | tooMany hno hmax => exact iff_of_false nofun fun h => Nat.not_lt.mpr h.2.1 hmax
  | unscoped hno hlacks => exact iff_of_false nofun fun h => h.2.2 _ hlacks
  | read hno hreads =>
    exact iff_of_true ⟨_, rfl⟩
      ⟨hno, g.length_of_reads hreads, fun attr hlacks => g.not_reads_of_lacks hlacks hreads⟩

end Ending

end Grammar

namespace ModelRef

def runs (model : ModelRef) : List String := model.adapter.toList ++ [model.model]

theorem length_runs_le (model : ModelRef) : model.runs.length ≤ 2 := by
  rw [runs]
  cases model.adapter <;> simp

theorem runs_injective {model other : ModelRef} (h : model.runs = other.runs) :
    model = other := by
  obtain ⟨adapter, name⟩ := model
  obtain ⟨adapter', name'⟩ := other
  cases adapter <;> cases adapter' <;> simp_all [runs]

theorem scope_eq_intercalate (model : ModelRef) :
    model.scope = ".".intercalate model.runs := by
  obtain ⟨adapter, name⟩ := model
  cases adapter with
  | none => simp [scope, runs]
  | some adapter => rfl

end ModelRef

namespace Resolver

open Dotted

/-! ## Attributes -/

/-- The attribute that runs name, none of them being empty. -/
inductive Reads (r : Resolver) (start : Option String) : List String → PathRef → Prop
  | inModel {scope attr : String} :
    start = some scope → '.' ∉ scope.toList →
    Reads r start [attr] ⟨r.defaultAdapter, scope, attr, false⟩
  | inScope {adapter model attr : String} :
    start = some (adapter ++ "." ++ model) → '.' ∉ adapter.toList →
    Reads r start [attr] ⟨adapter, model, attr, true⟩
  | ofModel {model attr : String} :
    Reads r start [model, attr] ⟨r.defaultAdapter, model, attr, false⟩
  | ofAdapter {adapter model attr : String} :
    Reads r start [adapter, model, attr] ⟨adapter, model, attr, true⟩

namespace Reads

variable {r : Resolver} {start : Option String} {runs : List String} {ref other : PathRef}

theorem length_le (h : r.Reads start runs ref) : runs.length ≤ 3 := by
  cases h <;> simp

theorem start_ne_none (h : r.Reads start runs ref) (hruns : runs.length = 1) : start ≠ none := by
  cases h with
  | inModel hstart => simp [hstart]
  | inScope hstart => simp [hstart]
  | ofModel => cases hruns
  | ofAdapter => cases hruns

theorem getLast? (h : r.Reads start runs ref) : runs.getLast? = some ref.attr := by
  cases h <;> rfl

theorem unique (h : r.Reads start runs ref) (hother : r.Reads start runs other) : ref = other := by
  cases h with
  | inModel hstart hdot =>
    cases hother with
    | inModel hstart' =>
      cases hstart.symm.trans hstart'
      rfl
    -- a scope that names an adapter has a dot
    | inScope hstart' =>
      cases hstart.symm.trans hstart'
      simp at hdot
  | inScope hstart hdot =>
    cases hother with
    | inModel hstart' hdot' =>
      cases hstart.symm.trans hstart'
      simp at hdot'
    | inScope hstart' hdot' =>
      have hscope := Option.some.inj (hstart.symm.trans hstart')
      have hqualifier := qualifier?_eq_some_iff.mpr ⟨hscope, hdot'⟩
      rw [qualifier?_eq_some_iff.mpr ⟨rfl, hdot⟩] at hqualifier
      cases hqualifier
      rfl
  | ofModel =>
    cases hother
    rfl
  | ofAdapter =>
    cases hother
    rfl

theorem explicit_iff (h : r.Reads start runs ref) :
    ref.explicit = true ↔
      runs.length = 3 ∨ runs.length = 1 ∧ ∃ scope, start = some scope ∧ '.' ∈ scope.toList := by
  cases h with
  | inModel hstart hdot => simp [hstart, hdot]
  | inScope hstart => simp [hstart]
  | ofModel => simp
  | ofAdapter => simp

end Reads

def attributeGrammar (r : Resolver) (start : Option String) : Grammar PathRef where
  max := 3
  Lacks runs attr := runs = [attr] ∧ start = none
  Reads := r.Reads start
  length_of_lacks h := by simp [h.1]
  length_of_reads h := h.length_le
  lacks_unique h hother := List.singleton_inj.mp (h.1.symm.trans hother.1)
  reads_unique h hother := h.unique hother
  not_reads_of_lacks h hreads := hreads.start_ne_none (by simp [h.1]) h.2

theorem resolve_ending (r : Resolver) (dotted : String) (start : Option String) :
    (r.attributeGrammar start).Ending dotted (segments dotted) (r.resolve dotted start) := by
  have hnil : segments dotted ≠ [] := (joins_segments dotted).ne_nil
  rw [resolve]
  generalize segments dotted = runs at hnil
  by_cases hempty : "" ∈ runs
  · rw [if_pos (any_isEmpty_iff.mpr hempty)]
    exact .empty hempty
  · rw [if_neg fun h => hempty (any_isEmpty_iff.mp h)]
    rcases runs with _ | ⟨first, _ | ⟨second, _ | ⟨third, _ | ⟨fourth, rest⟩⟩⟩⟩
    · exact absurd rfl hnil
    · cases start with
      | none => exact .unscoped hempty ⟨rfl, rfl⟩
      | some scope =>
        cases hqualifier : qualifier? scope with
        | none =>
          simp only [hqualifier]
          exact .read hempty (.inModel rfl (qualifier?_eq_none_iff.mp hqualifier))
        | some halves =>
          obtain ⟨adapter, model⟩ := halves
          simp only [hqualifier]
          obtain ⟨rfl, hdot⟩ := qualifier?_eq_some_iff.mp hqualifier
          exact .read hempty (.inScope rfl hdot)
    · exact .read hempty .ofModel
    · exact .read hempty .ofAdapter
    · exact .tooMany hempty (by simp [attributeGrammar])

structure AnswersAttribute (r : Resolver) (dotted : String) (start : Option String)
    (runs : List String) : Prop where
  empty : r.resolve dotted start = .error (.emptySegment dotted) ↔ "" ∈ runs
  tooMany : r.resolve dotted start = .error (.segmentCount dotted runs.length 3) ↔
    "" ∉ runs ∧ 3 < runs.length
  unscoped : ∀ attr, r.resolve dotted start = .error (.missingStart attr) ↔
    "" ∉ runs ∧ runs = [attr] ∧ start = none
  accepted : (∃ ref, r.resolve dotted start = .ok ref) ↔
    "" ∉ runs ∧ runs.length ≤ 3 ∧ (runs.length = 1 → start ≠ none)
  reads : ∀ ref, r.resolve dotted start = .ok ref ↔ "" ∉ runs ∧ r.Reads start runs ref
  attr : ∀ ref, r.resolve dotted start = .ok ref → runs.getLast? = some ref.attr
  path : ∀ ref, r.resolve dotted start = .ok ref → ref.path = ref.scope ++ "." ++ ref.attr
  explicit : ∀ ref, r.resolve dotted start = .ok ref →
    (ref.scope ≠ ref.model ↔
      runs.length = 3 ∨ runs.length = 1 ∧ ∃ scope, start = some scope ∧ '.' ∈ scope.toList)

theorem answersAttribute (r : Resolver) (dotted : String) (start : Option String) :
    r.AnswersAttribute dotted start (segments dotted) := by
  have hending := r.resolve_ending dotted start
  have hreads : ∀ ref, r.resolve dotted start = .ok ref → r.Reads start (segments dotted) ref :=
    fun ref href => ((hending.read_iff ref).mp href).2
  have hscope : (∀ attr, ¬ (segments dotted = [attr] ∧ start = none)) ↔
      ((segments dotted).length = 1 → start ≠ none) := by
    rw [List.length_eq_one_iff]
    exact ⟨fun h ⟨attr, hruns⟩ hstart => h attr ⟨hruns, hstart⟩,
      fun h attr hlacks => h ⟨attr, hlacks.1⟩ hlacks.2⟩
  exact {
    empty := hending.empty_iff
    tooMany := hending.tooMany_iff
    unscoped := hending.unscoped_iff
    accepted := by
      rw [← hscope]
      exact hending.accepted_iff
    reads := hending.read_iff
    attr := fun ref href => (hreads ref href).getLast?
    path := fun ref _ => rfl
    explicit := fun ref href => by
      rw [← ref.explicit_iff_scope_ne_model]
      exact (hreads ref href).explicit_iff }

/-! ## Models -/

def modelGrammar : Grammar ModelRef where
  max := 2
  Lacks _ _ := False
  Reads runs model := runs = model.runs
  length_of_lacks := nofun
  length_of_reads h := h ▸ ModelRef.length_runs_le _
  lacks_unique := nofun
  reads_unique h hother := ModelRef.runs_injective (h.symm.trans hother)
  not_reads_of_lacks := nofun

theorem resolveModel_ending (r : Resolver) (dotted : String) :
    modelGrammar.Ending dotted (segments dotted) (r.resolveModel dotted) := by
  have hnil : segments dotted ≠ [] := (joins_segments dotted).ne_nil
  rw [resolveModel]
  generalize segments dotted = runs at hnil
  by_cases hempty : "" ∈ runs
  · rw [if_pos (any_isEmpty_iff.mpr hempty)]
    exact .empty hempty
  · rw [if_neg fun h => hempty (any_isEmpty_iff.mp h)]
    rcases runs with _ | ⟨first, _ | ⟨second, _ | ⟨third, rest⟩⟩⟩
    · exact absurd rfl hnil
    · exact .read hempty rfl
    · exact .read hempty rfl
    · exact .tooMany hempty (by simp [modelGrammar])

structure AnswersModel (r : Resolver) (dotted : String) (runs : List String) : Prop where
  empty : r.resolveModel dotted = .error (.emptySegment dotted) ↔ "" ∈ runs
  tooMany : r.resolveModel dotted = .error (.segmentCount dotted runs.length 2) ↔
    "" ∉ runs ∧ 2 < runs.length
  accepted : (∃ model, r.resolveModel dotted = .ok model) ↔ "" ∉ runs ∧ runs.length ≤ 2
  reads : ∀ model, r.resolveModel dotted = .ok model ↔
    "" ∉ runs ∧ runs = model.runs
  scope : ∀ model, r.resolveModel dotted = .ok model → model.scope = dotted

theorem answersModel (r : Resolver) (dotted : String) :
    r.AnswersModel dotted (segments dotted) := by
  have hending := r.resolveModel_ending dotted
  exact {
    empty := hending.empty_iff
    tooMany := hending.tooMany_iff
    accepted := by simpa [modelGrammar] using hending.accepted_iff
    reads := hending.read_iff
    scope := fun model hmodel => by
      obtain ⟨-, hruns⟩ := (hending.read_iff model).mp hmodel
      have hruns : segments dotted = model.runs := hruns
      rw [model.scope_eq_intercalate, ← hruns, (joins_segments dotted).join] }

/-- A text falls into runs in one way, and the runs decide what is answered to it. -/
theorem answers_of_runs (r : Resolver) (dotted : String) (start : Option String) :
    ∃ runs, (∀ other, Joins dotted other ↔ other = runs) ∧
      r.AnswersAttribute dotted start runs ∧ r.AnswersModel dotted runs :=
  ⟨segments dotted, fun _ => joins_iff, r.answersAttribute dotted start, r.answersModel dotted⟩

end Resolver

end QueryLayer

import QueryLayer.Proofs.RecordShape

/-! # Checking a record

Validating a record checks its attributes and then runs the rules of its model. All attributes are
checked in one step, which is left out if none of them has a check. The step writes nothing but
messages, and these are the objections to the values stored under the attributes' names, whatever
the record was told before. The rules run from there on as a pipeline of their own, with places
counted on from the step.
-/

set_option autoImplicit false

namespace QueryLayer

open Pipeline

/-- What an attribute has against a value: each check whose predicate is unknown or refuses it. -/
def Attr.objections (a : Attr) (ps : Predicates) (v : Value) : List String :=
  a.checks.filterMap fun check =>
    match ps.lookup ("attr." ++ check.predicate) with
    | some predicate =>
      if predicate v check.argument then none else some ("Invalid attribute: " ++ a.name)
    | none => some ("Invalid attribute: " ++ a.name)

theorem Attr.issues_eq_objections (a : Attr) (ps : Predicates) (r : Record) :
    a.issues ps r = a.objections ps (r.get a.name) := by
  have hhead : "attr" ++ "." = "attr." := rfl
  rw [issues, issuesOf, Check.map_failing ps hhead]
  rfl

namespace Record

/-- The value stored under a name, without looking it up as an alias. -/
def stored (r : Record) (name : String) : Value := (Entries.find? name r.attrs).getD .null

theorem Fits.get_eq_stored {ρ : Type} {m : Model ρ} {r : Record} (h : r.Fits m)
    (hnames : m.names.Nodup) {a : Attr} (ha : a ∈ m.attrs) : r.get a.name = r.stored a.name := by
  rw [stored, Entries.find?_of_mem h.sorted_attrs.nodup_keys (h.get_of_mem hnames ha).1,
    Option.getD_some]

end Record

namespace Model

section

variable {ρ : Type}

def record (m : Model ρ) (pairs sets : List (String × Value)) : Record :=
  sets.foldl (fun r pair => r.set pair.1 pair.2) (m.init pairs)

theorem fits_record {m : Model ρ} (h : m.names.Nodup) (pairs sets : List (String × Value)) :
    (m.record pairs sets).Fits m :=
  (Record.Fits.init h pairs).setAll sets

def objections (m : Model ρ) (ps : Predicates) (r : Record) : List String :=
  m.attrs.flatMap fun a => a.objections ps (r.stored a.name)

def withObjections (m : Model ρ) (ps : Predicates) (r : Record) : Record :=
  { r with messages := m.objections ps r }

def checkCount (m : Model ρ) : Nat := if ∃ a ∈ m.attrs, a.checks ≠ [] then 1 else 0

end

variable {P : Plugins} {m : Model P.RecordRule} {b : Behavior P} {ps : Predicates} {r : Record}

theorem issues_eq_objections (hnames : m.names.Nodup) (h : r.Fits m) :
    m.issues ps r = m.objections ps r := by
  rw [issues, objections, List.flatMap_def, List.flatMap_def]
  congr 1
  refine List.map_congr_left fun a ha => ?_
  rw [a.issues_eq_objections, h.get_eq_stored hnames ha]

/-! ## The step that checks the attributes -/

theorem attributeChecks_eq (m : Model P.RecordRule) (ps : Predicates) :
    m.attributeChecks ps = if ∃ a ∈ m.attrs, a.checks ≠ [] then [m.attributeCheck ps] else [] := by
  by_cases h : ∃ a ∈ m.attrs, a.checks ≠ [] <;> simp_all [attributeChecks]

theorem length_attributeChecks (m : Model P.RecordRule) (ps : Predicates) :
    (m.attributeChecks ps).length = m.checkCount := by
  rw [attributeChecks_eq, checkCount]
  split <;> rfl

theorem completes_attributeChecks (m : Model P.RecordRule) (ps : Predicates) (r : Record) :
    Completes (m.attributeChecks ps) r := by
  rw [attributeChecks_eq]
  split
  · exact ⟨rfl, trivial⟩
  · trivial

theorem effects_attributeChecks (m : Model P.RecordRule) (ps : Predicates) (r : Record) :
    effects (m.attributeChecks ps) r = { r with messages := r.messages ++ m.issues ps r } := by
  rw [attributeChecks_eq]
  split
  · rfl
  · rename_i hnone
    -- the step is left out only where it would find nothing
    have hissues : m.issues ps r = [] := by
      rw [issues, List.flatMap_eq_nil_iff]
      intro a ha
      have hchecks : a.checks = [] := Decidable.byContradiction fun h => hnone ⟨a, ha, h⟩
      rw [Attr.issues, Attr.issuesOf, hchecks]
      rfl
    rw [hissues, List.append_nil]
    rfl

theorem effects_attributeChecks_nil (hnames : m.names.Nodup) (h : r.Fits m) :
    effects (m.attributeChecks ps) { r with messages := [] } = m.withObjections ps r := by
  rw [effects_attributeChecks, issues_eq_objections hnames (h.messages [])]
  rfl

/-! ## The rules -/

def ruleCalls (b : Behavior P) (rules : List P.RecordRule) (r : Record) : List (Event P) :=
  (rules.zip (found (rules.map b.recordRule) r)).map fun (rule, seen) =>
    .recordRule rule seen.messages

/-- Validating a record is a run of the rules, from the objections on. -/
theorem validate_eq (hnames : m.names.Nodup) (h : r.Fits m) :
    m.validate b ps r =
      let run := runFrom m.checkCount (m.rules.map b.recordRule) (m.withObjections ps r)
      { outcome := run.outcome
        target := run.target
        events := (m.rules.zip run.trail).map fun (rule, seen) =>
          .recordRule rule seen.messages } := by
  have hcompletes := m.completes_attributeChecks ps { r with messages := [] }
  rw [validate, run_append_of_completes hcompletes, effects_attributeChecks_nil hnames h]
  simp only [drop_found_append]
  rw [length_attributeChecks]

theorem validate_of_completes (hnames : m.names.Nodup) (h : r.Fits m)
    (hrules : Completes (m.rules.map b.recordRule) (m.withObjections ps r)) :
    m.validate b ps r =
      ⟨.ok (), effects (m.rules.map b.recordRule) (m.withObjections ps r),
        ruleCalls b m.rules (m.withObjections ps r)⟩ := by
  rw [validate_eq hnames h, runFrom_of_completes hrules]
  rfl

theorem validate_of_stopsAt (hnames : m.names.Nodup) (h : r.Fits m) {i : Nat}
    {stop : Nat → PipelineError}
    (hrules : StopsAt (m.rules.map b.recordRule) (m.withObjections ps r) i stop) :
    m.validate b ps r =
      ⟨.error (stop (m.checkCount + i)),
        effects ((m.rules.take (i + 1)).map b.recordRule) (m.withObjections ps r),
        ruleCalls b (m.rules.take (i + 1)) (m.withObjections ps r)⟩ := by
  rw [validate_eq hnames h, runFrom_of_stopsAt hrules, ← List.map_take]
  simp only
  rw [zip_found_take, ruleCalls]

theorem head?_events_validate (hnames : m.names.Nodup) (h : r.Fits m) {rule : P.RecordRule}
    {rest : List P.RecordRule} (hrules : m.rules = rule :: rest) :
    (m.validate b ps r).events.head? = some (.recordRule rule (m.objections ps r)) := by
  rcases completes_or_stopsAt (m.rules.map b.recordRule) (m.withObjections ps r) with
    hcompletes | ⟨i, stop, hstop⟩
  · rw [validate_of_completes hnames h hcompletes, hrules]
    rfl
  · rw [validate_of_stopsAt hnames h hstop, hrules, List.take_succ_cons]
    rfl

theorem outcome_validate (hnames : m.names.Nodup) (h : r.Fits m) :
    (m.validate b ps r).outcome =
      (runFrom m.checkCount (m.rules.map b.recordRule) (m.withObjections ps r)).outcome := by
  rw [validate_eq hnames h]

theorem stopped_iff (hnames : m.names.Nodup) (h : r.Fits m) (e : PipelineError) :
    (m.validate b ps r).answer = .error e ↔
      ∃ i stop, StopsAt (m.rules.map b.recordRule) (m.withObjections ps r) i stop ∧
        e = stop (m.checkCount + i) ∧ e.index = m.checkCount + i := by
  rw [Validated.answer_eq_error_iff, outcome_validate hnames h, outcome_runFrom_eq_error_iff]
  constructor
  · rintro ⟨i, stop, hstop, rfl⟩
    exact ⟨i, stop, hstop, rfl, hstop.index _⟩
  · rintro ⟨i, stop, hstop, rfl, -⟩
    exact ⟨i, stop, hstop, rfl⟩

theorem completed_iff (hnames : m.names.Nodup) (h : r.Fits m) (valid : Bool) :
    (m.validate b ps r).answer = .ok valid ↔
      Completes (m.rules.map b.recordRule) (m.withObjections ps r) ∧
        (valid = true ↔ (m.validate b ps r).target.messages = []) := by
  rw [Validated.answer_eq_ok_iff, outcome_validate hnames h, outcome_runFrom_eq_ok_iff]
  rfl

structure Validates (m : Model P.RecordRule) (b : Behavior P) (ps : Predicates) (r : Record) :
    Prop where
  /-- What is checked are the values that the record holds. -/
  stored : ∀ a ∈ m.attrs, (a.name, r.stored a.name) ∈ r.attrs
  /-- The step that checks the attributes writes nothing but messages. -/
  checked : let checked := run (m.attributeChecks ps) { r with messages := [] }
    checked.outcome = .ok () ∧ checked.target.messages = m.objections ps r ∧
      checked.target.attrs = r.attrs ∧ checked.target.dirty = r.dirty
  first : ∀ rule rest, m.rules = rule :: rest →
    (m.validate b ps r).events.head? = some (.recordRule rule (m.objections ps r))
  unruled : m.rules = [] → (m.validate b ps r).target = m.withObjections ps r
  stopped : ∀ e, (m.validate b ps r).answer = .error e ↔
    ∃ i stop, StopsAt (m.rules.map b.recordRule) (m.withObjections ps r) i stop ∧
      e = stop (m.checkCount + i) ∧ e.index = m.checkCount + i
  completed : ∀ valid, (m.validate b ps r).answer = .ok valid ↔
    Completes (m.rules.map b.recordRule) (m.withObjections ps r) ∧
      (valid = true ↔ (m.validate b ps r).target.messages = [])
  left : Completes (m.rules.map b.recordRule) (m.withObjections ps r) →
    (m.validate b ps r).target = effects (m.rules.map b.recordRule) (m.withObjections ps r)
  leftByStop : ∀ i stop, StopsAt (m.rules.map b.recordRule) (m.withObjections ps r) i stop →
    (m.validate b ps r).target =
      effects ((m.rules.take (i + 1)).map b.recordRule) (m.withObjections ps r)

theorem validates_of_fits (hnames : m.names.Nodup) (h : r.Fits m) : m.Validates b ps r where
  stored a ha := by
    rw [← h.get_eq_stored hnames ha]
    exact (h.get_of_mem hnames ha).1
  checked := by
    have hcompletes := m.completes_attributeChecks ps { r with messages := [] }
    rw [run, runFrom_of_completes hcompletes, effects_attributeChecks_nil hnames h]
    exact ⟨rfl, rfl, rfl, rfl⟩
  first _ _ hrules := head?_events_validate hnames h hrules
  unruled hrules := by
    rw [validate_eq hnames h, hrules]
    rfl
  stopped := stopped_iff hnames h
  completed := completed_iff hnames h
  left hcompletes := by rw [validate_of_completes hnames h hcompletes]
  leftByStop _ _ hstop := by rw [validate_of_stopsAt hnames h hstop]

/-- Validating a record of a model checks its attributes and then runs the rules. -/
theorem validates_record (m : Model P.RecordRule) (hm : m.Declared) (b : Behavior P)
    (ctx : Context P) (pairs sets : List (String × Value)) (told : List String) :
    m.Validates b ctx.predicates { m.record pairs sets with messages := told } :=
  validates_of_fits hm.nodup_names ((fits_record hm.nodup_names pairs sets).messages told)

/-- One of the checks is unknown, and the rule behind the report stops the run. -/
def agedModel : Model countingPlugins.RecordRule :=
  (((Model.attr { name := "user" }
    { name := "age", aliases := ["years"], checks := [⟨"present", .null⟩, ⟨"ripe", .null⟩] }).attr
    { name := "name" }).rule (.report "late")).rule .halt

theorem agedModel_declared : agedModel.Declared :=
  .rule _ (.rule _ (.attr _ (.attr _ (.new "user"))))

def agedContext : Context countingPlugins :=
  { countingContext with predicates := Registry.register {} "attr.present" Predicate.present }

theorem validates_aged :
    let r : Record := { agedModel.record [("age", .null)] [("years", .int 3)] with
      messages := ["stale"] }
    let validated := agedModel.validate counting agedContext.predicates r
    agedModel.Declared ∧
      validated.events.head? = some (.recordRule (.report "late") ["Invalid attribute: age"]) ∧
      validated.answer = .error (.halted 2) := by
  intro r validated
  have h := agedModel.validates_record agedModel_declared counting agedContext [("age", .null)]
    [("years", .int 3)] ["stale"]
  have hobjections : agedModel.objections agedContext.predicates r = ["Invalid attribute: age"] :=
    rfl
  refine ⟨agedModel_declared, ?_, (h.stopped _).mpr ⟨1, .halted, ?_, rfl, rfl⟩⟩
  · rw [h.first _ _ rfl, hobjections]
  · exact ⟨⟨rfl, trivial⟩, _, rfl, rfl⟩

end Model

end QueryLayer

import QueryLayer.Predicate

/-! # Comparisons that share a cache of patterns

The comparison with a pattern stands under three names, and all of them may ask and fill one cache.
Whatever is asked through them, in whatever order, and however often the cache is emptied, every
answer is the one that is given without a cache.
-/

set_option autoImplicit false

namespace QueryLayer

namespace Registry

variable {α β : Type}

def map (f : α → β) (r : Registry α) : Registry β :=
  ⟨r.entries.map fun entry => (entry.1, f entry.2)⟩

theorem lookup_map (f : α → β) (r : Registry α) (name : String) :
    (r.map f).lookup name = (r.lookup name).map f := by
  rw [lookup, map, ← List.map_reverse, Entries.find?_map name (fun _ => f)]
  rfl

theorem map_foldl_register (f : α → β) (under : String → String) (named : List (String × α))
    (r : Registry α) :
    (named.foldl (fun r entry => r.register (under entry.1) entry.2) r).map f =
      (named.map fun entry => (entry.1, f entry.2)).foldl
        (fun r entry => r.register (under entry.1) entry.2) (r.map f) := by
  induction named generalizing r with
  | nil => rfl
  | cons entry rest ih =>
    rw [List.map_cons, List.foldl_cons, List.foldl_cons, ih]
    simp only [register, map, List.map_append, List.map_cons, List.map_nil]

end Registry

namespace Pattern.Cache

structure Compact (cache : Cache) : Prop where
  nodup : (Entries.keys cache.entries).Nodup
  length_le : cache.entries.length ≤ limit

theorem compact_empty : Compact {} := ⟨List.nodup_nil, Nat.zero_le _⟩

theorem Compact.test?_snd {cache : Cache} (h : cache.Compact) (read : String → Option Test)
    (source : String) : (cache.test? read source).2.Compact := by
  rw [test?]
  split
  · exact h
  · rename_i hnone
    dsimp only
    split
    · rename_i hroom
      have hnew : source ∉ Entries.keys cache.entries := by
        rw [← Entries.isSome_find?_iff, hnone]
        exact Bool.false_ne_true
      exact ⟨List.nodup_cons.mpr ⟨hnew, h.nodup⟩, hroom⟩
    · have hone : 1 ≤ limit := by decide
      exact ⟨List.pairwise_singleton _ source, hone⟩

end Pattern.Cache

open Pattern (Cache Test)

theorem Predicate.matchingBy_eq_true_iff {read : String → Option Test} {actual expected : Value} :
    matchingBy read actual expected = true ↔ ∃ text source test, actual = .text text ∧
      expected = .text source ∧ read source = some test ∧ test text = true := by
  constructor
  · intro h
    cases actual with
    | text text =>
      cases expected with
      | text source =>
        obtain ⟨test, hread, htest⟩ := (Option.any_eq_true _ _).mp h
        exact ⟨text, source, test, rfl, rfl, hread, htest⟩
      | _ => cases h
    | _ => cases h
  · rintro ⟨text, source, test, rfl, rfl, hread, htest⟩
    exact (Option.any_eq_true _ _).mpr ⟨test, hread, htest⟩

inductive Comparison where
  | plain (p : Predicate)
  | matching

namespace Comparison

variable {read : String → Option Test}

def predicate (read : String → Option Test) : Comparison → Predicate
  | plain p => p
  | matching => Predicate.matchingBy read

def answer (read : String → Option Test) (cache : Cache) (actual expected : Value) :
    Comparison → Bool × Cache
  | plain p => (p actual expected, cache)
  | matching =>
    match actual.text?, expected.text? with
    | some text, some source => cache.occurs read source text
    | _, _ => (false, cache)

theorem answer_fst {cache : Cache} (h : cache.Faithful read) (c : Comparison)
    (actual expected : Value) :
    (c.answer read cache actual expected).1 = c.predicate read actual expected := by
  cases c with
  | plain p => rfl
  | matching =>
    rw [answer, predicate, Predicate.matchingBy]
    cases actual.text? with
    | none => rfl
    | some text =>
      cases expected.text? with
      | none => rfl
      | some source => exact congrArg (Option.any fun test => test text) (h.test?_fst source)

/-- What every test leaves as it is, every comparison leaves as it is. -/
theorem answer_snd {I : Cache → Prop} (hI : ∀ cache source, I cache → I (cache.test? read source).2)
    {cache : Cache} (h : I cache) (c : Comparison) (actual expected : Value) :
    I (c.answer read cache actual expected).2 := by
  cases c with
  | plain p => exact h
  | matching =>
    rw [answer]
    split
    · exact hI _ _ h
    · exact h

end Comparison

structure Question where
  name : String
  actual : Value
  expected : Value

namespace Question

variable {read : String → Option Test} {r : Registry Comparison}

def ask (read : String → Option Test) (r : Registry Comparison) (cache : Cache) (x : Question) :
    Option Bool × Cache :=
  match r.lookup x.name with
  | none => (none, cache)
  | some c =>
    let answer := c.answer read cache x.actual x.expected
    (some answer.1, answer.2)

def askAll (read : String → Option Test) (r : Registry Comparison) (cache : Cache) :
    List Question → List (Option Bool) × Cache
  | [] => ([], cache)
  | x :: rest =>
    let answer := x.ask read r cache
    let later := askAll read r answer.2 rest
    (answer.1 :: later.1, later.2)

def answerIn (ps : Predicates) (x : Question) : Option Bool :=
  (ps.lookup x.name).map fun p => p x.actual x.expected

theorem ask_fst {cache : Cache} (h : cache.Faithful read) (x : Question) :
    (x.ask read r cache).1 = x.answerIn (r.map (Comparison.predicate read)) := by
  rw [ask, answerIn, Registry.lookup_map]
  cases r.lookup x.name with
  | none => rfl
  | some c => exact congrArg some (c.answer_fst h x.actual x.expected)

theorem ask_snd {I : Cache → Prop} (hI : ∀ cache source, I cache → I (cache.test? read source).2)
    {cache : Cache} (h : I cache) (x : Question) : I (x.ask read r cache).2 := by
  rw [ask]
  split
  · exact h
  · exact Comparison.answer_snd hI h _ _ _

theorem askAll_snd {I : Cache → Prop}
    (hI : ∀ cache source, I cache → I (cache.test? read source).2) {cache : Cache} (h : I cache)
    (asked : List Question) : I (askAll read r cache asked).2 := by
  induction asked generalizing cache with
  | nil => exact h
  | cons x rest ih => exact ih (ask_snd hI h x)

theorem faithful_askAll {cache : Cache} (h : cache.Faithful read) (asked : List Question) :
    (askAll read r cache asked).2.Faithful read :=
  askAll_snd (fun _ source h => h.test?_snd source) h asked

theorem compact_askAll {cache : Cache} (h : cache.Compact) (asked : List Question) :
    (askAll read r cache asked).2.Compact :=
  askAll_snd (fun _ source h => h.test?_snd read source) h asked

theorem askAll_fst {cache : Cache} (h : cache.Faithful read) (asked : List Question) :
    (askAll read r cache asked).1 = asked.map (answerIn (r.map (Comparison.predicate read))) := by
  induction asked generalizing cache with
  | nil => rfl
  | cons x rest ih =>
    have hrest := ask_snd (r := r) (fun _ source h => h.test?_snd source) h x
    rw [askAll, List.map_cons, ← ask_fst h x, ih hrest]

end Question

namespace Predicates

section Install

variable {α β : Type}

/-- Register inside a namespace `present` and whatever stands under the names of the comparisons by
then. -/
def installIn (named : List (String × α)) (present : α) (r : Registry α) (ns : String) :
    Registry α :=
  let shared := named.filterMap fun entry => (r.lookup entry.1).map fun a => (entry.1, a)
  (("present", present) :: shared).foldl
    (fun r entry => r.register (qualified ns entry.1) entry.2) r

def install (named : List (String × α)) (present : α) : Registry α :=
  ["attr", "param"].foldl (installIn named present)
    (named.foldl (fun r entry => r.register entry.1 entry.2) {})

theorem map_installIn (f : α → β) (named : List (String × α)) (present : α) (r : Registry α)
    (ns : String) : (installIn named present r ns).map f =
      installIn (named.map fun entry => (entry.1, f entry.2)) (f present) (r.map f) ns := by
  rw [installIn, installIn, Registry.map_foldl_register, List.map_cons, List.map_filterMap,
    List.filterMap_map]
  simp only [Function.comp_def, Registry.lookup_map, Option.map_map]

theorem map_install (f : α → β) (named : List (String × α)) (present : α) :
    (install named present).map f =
      install (named.map fun entry => (entry.1, f entry.2)) (f present) := by
  have hplain := Registry.map_foldl_register f (fun name => name) named {}
  simp only [install, List.foldl_cons, List.foldl_nil, map_installIn, hplain]
  rfl

end Install

/-- The built-in comparisons as they are installed, `match` with a cache. -/
def cached : Registry Comparison :=
  install
    (Predicate.comparisons.map (fun entry => (entry.1, .plain entry.2)) ++ [("match", .matching)])
    (.plain .present)

theorem map_cached (engine : Pattern.Engine) :
    cached.map (Comparison.predicate engine.read) = builtin engine := by
  have hentries : cached.entries =
      let named : List (String × Comparison) :=
        Predicate.comparisons.map (fun entry => (entry.1, .plain entry.2)) ++ [("match", .matching)]
      let shared := fun ns => (("present", .plain .present) :: named).map fun entry =>
        (qualified ns entry.1, entry.2)
      named ++ shared "attr" ++ shared "param" := rfl
  have hmapped : (cached.map (Comparison.predicate engine.read)).entries =
      (builtin engine).entries := by
    rw [Registry.map, hentries, entries_builtin]
    rfl
  exact congrArg Registry.mk hmapped

theorem install_builtins (engine : Pattern.Engine) :
    install (Predicate.builtins engine) Predicate.present = builtin engine := by
  rw [← map_cached, cached, map_install]
  rfl

inductive MatchForm where
  | plain
  | ofAttribute
  | ofParameter

def MatchForm.name : MatchForm → String
  | plain => "match"
  | ofAttribute => "attr.match"
  | ofParameter => "param.match"

theorem lookup_cached_match (form : MatchForm) : cached.lookup form.name = some .matching := by
  cases form <;> rfl

/-- Whatever patterns are compiled to and however they are tried, all that is asked through the
three names of the comparison is answered as if there were no cache. -/
theorem matches_as_without_cache {ρ : Type} (compile : String → Option ρ)
    (isMatch : ρ → String → Bool) (asked : List (MatchForm × Value × Value)) :
    let engine : Pattern.Engine := ⟨ρ, compile, isMatch⟩
    let read := engine.read
    let questions := asked.map fun (form, actual, pattern) => ⟨form.name, actual, pattern⟩
    let run := Question.askAll read cached {} questions
    run.1 = asked.map (fun (_, actual, pattern) =>
      some (Predicate.matchingBy read actual pattern)) ∧
    (∀ actual pattern, Predicate.matchingBy read actual pattern = true ↔
      ∃ text source compiled, actual = .text text ∧ pattern = .text source ∧
        compile source = some compiled ∧ isMatch compiled text = true) ∧
    (∀ x : Question, (x.ask read cached run.2).1 = (x.ask read cached {}).1) ∧
    run.2.Compact ∧
    ∀ questions, (Question.askAll read cached {} questions).1 =
      questions.map (Question.answerIn (builtin engine)) := by
  intro engine read questions run
  have hempty : Cache.Faithful read {} := Cache.faithful_empty read
  have hmatching : ∀ form : MatchForm, (cached.map (Comparison.predicate read)).lookup form.name =
      some (Predicate.matchingBy read) := by
    intro form
    rw [Registry.lookup_map, lookup_cached_match]
    rfl
  refine ⟨?_, fun actual pattern => ?_, fun x => ?_, ?_, fun questions => ?_⟩
  · rw [Question.askAll_fst hempty, List.map_map]
    refine List.map_congr_left fun (form, actual, pattern) _ => ?_
    simp [Question.answerIn, hmatching]
  · rw [Predicate.matchingBy_eq_true_iff]
    simp only [read, Pattern.Engine.read, Option.map_eq_some_iff]
    constructor
    · rintro ⟨text, source, _, hactual, hpattern, ⟨compiled, hcompile, rfl⟩, hmatch⟩
      exact ⟨text, source, compiled, hactual, hpattern, hcompile, hmatch⟩
    · rintro ⟨text, source, compiled, hactual, hpattern, hcompile, hmatch⟩
      exact ⟨text, source, _, hactual, hpattern, ⟨compiled, hcompile, rfl⟩, hmatch⟩
  · rw [Question.ask_fst (Question.faithful_askAll hempty questions), Question.ask_fst hempty]
  · exact Question.compact_askAll Cache.compact_empty questions
  · rw [Question.askAll_fst hempty, map_cached]

end Predicates

end QueryLayer

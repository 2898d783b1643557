import QueryLayer.Proofs.ChainSteps
import QueryLayer.Proofs.CheckAhead

/-! # What naming a query changes

A query that is defined under a name and looked up again has lost its messages and its active
attribute and has got the name. Steps read neither name nor messages, and the active attribute
matters only to a comparison that comes before the chain makes an attribute active itself. Carrying
out starts without messages and active attribute anyway, so of the difference only the name is left.
-/

set_option autoImplicit false

namespace QueryLayer

variable {P : Plugins}

/-! ## Chains -/

/-- Each comparison of the chain comes after a step that makes an attribute active. -/
def Chain.Guarded (steps : Chain P) : Prop :=
  ∀ before operator value later, steps = before ++ .compare operator value :: later →
    ∃ key, .whereAttr key ∈ before

namespace Query

theorem criterion?_eq_of_active (r : Resolver) (scope : Option String)
    {active other : Option String} {s : Step P}
    (h : ∀ operator value, s = .compare operator value → active = other) :
    s.criterion? r scope active = s.criterion? r scope other := by
  cases s with
  | compare operator value => rw [h operator value rfl]
  | _ => rfl

theorem apply_relabelled (q : Query P) (name active : Option String) (messages : List String)
    {s : Step P} (h : ∀ operator value, s = .compare operator value → active = q.active) :
    ({ q with name := name, active := active, messages := messages } : Query P).apply s =
      (q.apply s).map fun next =>
        { next with name := name, active := s.activeKey?.or active, messages := messages } := by
  rw [apply_eq_reading, apply_eq_reading, criterion?_eq_of_active _ _ h]
  rcases s.criterion? q.resolver q.scope q.active with _ | ⟨e | c⟩ <;> rfl

end Query

namespace Chain

theorem Guarded.of_concat {steps : Chain P} {s : Step P} (h : Guarded (steps ++ [s])) :
    steps.Guarded ∧
      ∀ operator value, s = .compare operator value → ∃ key, .whereAttr key ∈ steps := by
  constructor
  · rintro before operator value later rfl
    exact h before operator value (later ++ [s]) (by simp)
  · rintro operator value rfl
    exact h steps operator value [] rfl

theorem guarded_whereAttr (key : String) (rest : Chain P) : Guarded (.whereAttr key :: rest) := by
  rintro (_ | ⟨s, before⟩) operator value later heq
  · cases heq
  · cases heq
    exact ⟨key, List.mem_cons_self⟩

/-- A guarded chain makes the same of a query whatever its name, messages and active attribute. -/
theorem build_relabelled {steps : Chain P} (hsteps : steps.Guarded) (q : Query P)
    (name active : Option String) (messages : List String) :
    ({ q with name := name, active := active, messages := messages } : Query P).build steps =
      (q.build steps).map fun left =>
        { left with name := name, active := steps.active.or active, messages := messages } := by
  -- from the end, since what guards a comparison is all that comes before it
  induction steps using List.reverseRecOn with
  | nil => rfl
  | append_singleton steps s ih =>
    obtain ⟨hbefore, hs⟩ := hsteps.of_concat
    rw [Query.build_concat, Query.build_concat, ih hbefore, active_concat]
    cases hbuild : q.build steps with
    | error e => rfl
    | ok left =>
      have hactive : ∀ operator value, s = .compare operator value →
          (Chain.active steps).or active = left.active := by
        intro operator value heq
        obtain ⟨key, hkey⟩ := hs operator value heq
        rw [Query.active_build hbuild]
        cases hnone : Chain.active steps with
        | none => exact absurd hkey (active_eq_none_iff.mp hnone key)
        | some _ => rfl
      rw [Option.or_assoc]
      exact Query.apply_relabelled left name _ messages hactive

/-- A comparison fails if no step before it, and nothing in the query, made an attribute active. -/
theorem build_bare_comparison {q left : Query P} {before later : Chain P} {operator : Operator}
    {value : Value} (hactive : q.active = none) (hbare : ∀ key, .whereAttr key ∉ before)
    (hbuild : q.build before = .ok left) :
    q.build (before ++ .compare operator value :: later) =
      .error (.noActiveAttribute operator.name) := by
  have hleft : left.active = none := by
    rw [Query.active_build hbuild, active_eq_none_iff.mpr hbare, hactive]
    rfl
  have hcompare : left.apply (.compare operator value) =
      .error (.noActiveAttribute operator.name) := compare_eq_noActiveAttribute_iff.mpr hleft
  rw [Query.build_append, hbuild, Except.bind, Query.build_cons, hcompare]
  rfl

end Chain

theorem Context.query_defineQuery {ctx : Context P} {name : String}
    (hname : ctx.queries.has name = false) (q : Query P) :
    (ctx.defineQuery name q).query name =
      { q with name := some name, active := none, messages := [] } := by
  have hnone : ctx.queries.find? name = none := by simpa [Catalog.has] using hname
  have hdefined := Catalog.find?_define_self ctx.queries name
    ({ q with name := some name } : Query P).fork
  rw [Catalog.defined, hnone] at hdefined
  rw [query, NamedQueries.query, NamedQueries.get?, defineQuery, NamedQueries.define, hdefined]
  rfl

/-! ## Carrying out -/

def Query.SameButName (q q' : Query P) : Prop := ∃ name, q' = { q with name := name }

def Validator.IgnoresName (v : Validator (Query P)) : Prop := v.Respects Query.SameButName

theorem MessageRule.ignoresName (rule : MessageRule) :
    (rule.validator : Validator (Query P)).IgnoresName := by
  rintro q _ ⟨name, rfl⟩
  cases rule <;> exact ⟨rfl, name, rfl⟩

/-- Two ways of carrying a query out that differ at most in the name of the query that the adapter
was handed: the same calls led to the same adapter, or to the same end without it. -/
def Behavior.SameOutcome (b : Behavior P) (store : P.Store) (o o' : Outcome P (List Value)) :
    Prop :=
  o' = o ∨ ∃ a handed handed' calls, handed.SameButName handed' ∧
    o = (Query.dispatch b a handed store).after calls ∧
    o' = (Query.dispatch b a handed' store).after calls

def Behavior.IgnoresNames (b : Behavior P) : Prop :=
  ∀ a q name store, b.dispatch a { q with name := name } store = b.dispatch a q store

namespace Query

open Pipeline

theorem ruleCalls_of_sameButName {b : Behavior P} {rules : List P.QueryRule}
    (hrules : ∀ rule ∈ rules, (b.queryRule rule).IgnoresName) {q q' : Query P}
    (h : q.SameButName q') : ruleCalls b rules q' = ruleCalls b rules q := by
  induction rules generalizing q q' with
  | nil => rfl
  | cons rule rest ih =>
    obtain ⟨hrule, hrest⟩ := List.forall_mem_cons.mp hrules
    rw [ruleCalls_cons, ruleCalls_cons, ih hrest (hrule q q' h).2]
    obtain ⟨name, rfl⟩ := h
    rfl

theorem exec_of_sameButName {b : Behavior P} {q q' : Query P} (h : q.SameButName q')
    (hrules : ∀ rule ∈ q.rules, (b.queryRule rule).IgnoresName) (ctx : Context P)
    (store : P.Store) : b.SameOutcome store (q.exec b ctx store) (q'.exec b ctx store) := by
  obtain ⟨name, hq'⟩ := h
  have hrules' : q'.rules = q.rules := by rw [hq']
  have hcriteria' : q'.criteria = q.criteria := by rw [hq']
  have hadapter' : q'.adapter ctx.adapters = q.adapter ctx.adapters := by
    rw [hq']
    rfl
  cases hadapter : q.adapter ctx.adapters with
  | error e =>
    left
    rw [exec_of_unselected hadapter, exec_of_unselected (hadapter'.trans hadapter)]
  | ok a =>
    replace hadapter' := hadapter'.trans hadapter
    have hvs : ∀ v ∈ q.rules.map b.queryRule, v.Respects SameButName :=
      List.forall_mem_map.mpr hrules
    have hfound : (q.unscoped.withComplaints b ctx.predicates a).SameButName
        (q'.unscoped.withComplaints b ctx.predicates a) := by
      refine ⟨name, ?_⟩
      rw [hq']
      rfl
    rcases completes_or_stopsAt (q.rules.map b.queryRule)
      (q.unscoped.withComplaints b ctx.predicates a) with hcompletes | ⟨i, stop, hstop⟩
    · have hcompletes' := (completes_related hvs hfound).mpr hcompletes
      obtain ⟨name', hleft⟩ := effects_related hvs hfound
      rw [← hrules'] at hcompletes'
      rw [exec_of_completes hadapter hcompletes, exec_of_completes hadapter' hcompletes', hrules']
      simp only [ruleCalls_of_sameButName hrules hfound, hleft]
      split
      · exact .inr ⟨a, _, _, _, ⟨name', rfl⟩, rfl, rfl⟩
      · exact .inl rfl
    · left
      have hstop' := (stopsAt_related hvs hfound).mpr hstop
      have htaken : ∀ rule ∈ q.rules.take (i + 1), (b.queryRule rule).IgnoresName :=
        fun rule hrule => hrules rule (List.mem_of_mem_take hrule)
      rw [← hrules'] at hstop'
      rw [exec_of_stopsAt hadapter hstop, exec_of_stopsAt hadapter' hstop', hrules', hcriteria',
        ruleCalls_of_sameButName htaken hfound]

theorem result_of_sameOutcome {b : Behavior P} (hb : b.IgnoresNames) {store : P.Store}
    {o o' : Outcome P (List Value)} (h : b.SameOutcome store o o') :
    o'.result = o.result ∧ o'.store = o.store := by
  rcases h with rfl | ⟨a, handed, _, calls, ⟨name, rfl⟩, rfl, rfl⟩
  · exact ⟨rfl, rfl⟩
  · have hanswer := hb a handed name store
    simp only [Outcome.after, dispatch, hanswer, and_self]

end Query

namespace Context

/-- A chain on a query that was defined under a new name and looked up, beside the same chain on
the query itself. -/
theorem build_of_defined (ctx : Context P) (q : Query P) (name : String)
    (hname : ctx.queries.has name = false) (steps : Chain P) :
    let defined := ctx.defineQuery name q
    let named := defined.query name
    (steps.Guarded →
      (∃ e, q.build steps = .error e ∧ named.build steps = .error e) ∨
      ∃ left left', q.build steps = .ok left ∧ named.build steps = .ok left' ∧
        left'.criteria = left.criteria ∧ left'.scope = left.scope ∧
        left'.adapters = left.adapters ∧ left'.rules = left.rules ∧
        left'.observer = left.observer ∧ left'.resolver = left.resolver ∧
        ∀ (b : Behavior P) (store : P.Store),
          (∀ rule ∈ left.rules, (b.queryRule rule).IgnoresName) →
          b.SameOutcome store (left.exec b defined store) (left'.exec b defined store) ∧
          (b.IgnoresNames →
            (left'.exec b defined store).result = (left.exec b defined store).result ∧
              (left'.exec b defined store).store = (left.exec b defined store).store)) ∧
    ∀ before operator value later, steps = before ++ .compare operator value :: later →
      (∀ key, .whereAttr key ∉ before) →
      ((∃ left, named.build before = .ok left) ∨
        Chain.Guarded before ∧ ∃ left, q.build before = .ok left) →
      named.build steps = .error (.noActiveAttribute operator.name) := by
  intro defined named
  have hnamed : named = { q with name := some name, active := none, messages := [] } :=
    query_defineQuery hname q
  have hguarded : ∀ chain : Chain P, chain.Guarded → named.build chain =
      (q.build chain).map fun left =>
        { left with name := some name, active := chain.active.or none, messages := [] } := by
    intro chain hchain
    rw [hnamed]
    exact Chain.build_relabelled hchain q (some name) none []
  constructor
  · intro hsteps
    have hbuild := hguarded steps hsteps
    cases hleft : q.build steps with
    | error e =>
      rw [hleft] at hbuild
      exact .inl ⟨e, rfl, hbuild⟩
    | ok left =>
      rw [hleft] at hbuild
      refine .inr ⟨left, _, rfl, hbuild, rfl, rfl, rfl, rfl, rfl, rfl, ?_⟩
      intro b store hrules
      -- carrying out drops the active attribute and the messages of both
      have hsame : b.SameOutcome store (left.exec b defined store)
          (({ left with name := some name } : Query P).exec b defined store) :=
        Query.exec_of_sameButName ⟨some name, rfl⟩ hrules defined store
      exact ⟨hsame, fun hb => Query.result_of_sameOutcome hb hsame⟩
  · rintro before operator value later rfl hbare hbefore
    have hleft : ∃ left, named.build before = .ok left := by
      rcases hbefore with hleft | ⟨hchain, left, hleft⟩
      · exact hleft
      · rw [hguarded before hchain, hleft]
        exact ⟨_, rfl⟩
    obtain ⟨left, hleft⟩ := hleft
    have hactive : named.active = none := by rw [hnamed]
    exact Chain.build_bare_comparison hactive hbare hleft

/-- Naming takes the active attribute away and leaves everything else that a chain can go on
with. -/
theorem build_of_defined_ages :
    let q := ageQuery [.forget]
    let named := (countingContext.defineQuery "ages" q).query "ages"
    let guarded : Chain countingPlugins := [.whereAttr "size", .compare .lt (.int 9), .limit 1]
    let bare : Chain countingPlugins := [.limit 1, .compare .gte (.int 18)]
    countingContext.queries.has "ages" = false ∧ guarded.Guarded ∧
      (∃ left left', q.build guarded = .ok left ∧ named.build guarded = .ok left' ∧
        left'.criteria = left.criteria ∧
        (left'.exec counting (countingContext.defineQuery "ages" q) 0).result = .ok []) ∧
      (∃ left, q.build bare = .ok left) ∧
      named.build bare = .error (.noActiveAttribute "gte") := by
  intro q named guarded bare
  have hname : countingContext.queries.has "ages" = false := rfl
  have hguarded : guarded.Guarded := Chain.guarded_whereAttr "size" _
  obtain ⟨hsame, -⟩ := build_of_defined countingContext q "ages" hname guarded
  obtain ⟨-, hbare⟩ := build_of_defined countingContext q "ages" hname bare
  refine ⟨hname, hguarded, ?_, ⟨_, rfl⟩, ?_⟩
  · rcases hsame hguarded with
      ⟨e, he, -⟩ | ⟨left, left', hleft, hleft', hcriteria, -, -, -, -, -, hexec⟩
    · cases he
    · cases hleft
      obtain ⟨-, hanswer⟩ := hexec counting 0 fun rule _ => rule.ignoresName
      exact ⟨_, left', rfl, hleft', hcriteria, (hanswer fun _ _ _ _ => rfl).1⟩
  · exact hbare [.limit 1] .gte (.int 18) [] rfl (by simp) (.inl ⟨_, rfl⟩)

end Context

end QueryLayer

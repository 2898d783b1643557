import Mathlib.Logic.Relation
import QueryLayer.Proofs.StepReferences
import QueryLayer.Proofs.WellFormedReferences
import QueryLayer.Query.Named

/-! # References of reachable queries

Queries are made anew, built on by steps, forked, defined under names and looked up again. The
resolver trusts the scope that it is given, so what it makes is well-formed only because every
query that can be reached this way has a well-formed scope.
-/

set_option autoImplicit false

namespace QueryLayer

open Dotted

variable {P : Plugins}

structure Query.WellFormed (q : Query P) : Prop where
  scope : ∀ scope, q.scope = some scope → IsScope scope
  refs : ∀ ref ∈ q.criteria.refs, ref.WellFormed q.resolver

namespace Query.WellFormed

theorem of_empty (name : Option String) (resolver : Resolver) :
    ({ name := name, resolver := resolver } : Query P).WellFormed :=
  ⟨nofun, nofun⟩

theorem named {q : Query P} (h : q.WellFormed) (name : String) :
    ({ q with name := some name } : Query P).WellFormed := ⟨h.scope, h.refs⟩

theorem fork {q : Query P} (h : q.WellFormed) : q.fork.WellFormed := ⟨h.scope, h.refs⟩

theorem apply {q q' : Query P} {s : Step P} (h : q.WellFormed) (hs : q.apply s = .ok q') :
    q'.WellFormed := by
  cases hreference : s.reference? q.active with
  | some reference =>
    obtain ⟨ref, scope, href, rfl, hscope⟩ := apply_of_reference? hreference hs
    have hnew := Resolver.wellFormed_of_resolve h.scope href
    refine ⟨?_, ?_⟩
    · intro s hs
      rcases hscope with rfl | rfl
      · exact h.scope s hs
      · cases hs
        exact hnew.isScope
    · intro other hother
      rw [Criteria.refs, List.filterMap_append, List.mem_append] at hother
      rcases hother with hother | hother
      · exact h.refs other hother
      · rw [List.filterMap_cons, Step.ref?_of_reference? hreference ref] at hother
        rw [List.mem_singleton.mp hother]
        exact hnew
  | none =>
    obtain ⟨hresolver, hcases⟩ := apply_of_no_reference hreference hs
    rcases hcases with ⟨key, model, hmodel, hscope, hrefs⟩ | ⟨hscope, hrefs | hrefs⟩
    · refine ⟨?_, by rw [hrefs, hresolver]; exact h.refs⟩
      rw [hscope]
      rintro _ ⟨⟩
      exact Resolver.isScope_of_resolveModel hmodel
    · exact ⟨by rw [hscope]; exact h.scope, by rw [hrefs, hresolver]; exact h.refs⟩
    · exact ⟨by rw [hscope]; exact h.scope, by rw [hrefs]; exact List.forall_mem_nil _⟩

end Query.WellFormed

structure Workbench (P : Plugins) where
  named : NamedQueries P := {}
  hand : List (Query P) := []

namespace Workbench

/-- A way of making one more query, or of forgetting the names. -/
inductive Move : Workbench P → Workbench P → Prop where
  | new (w : Workbench P) (resolver : Resolver) :
      Move w { w with hand := { resolver := resolver } :: w.hand }
  | newNamed (w : Workbench P) (name : String) (resolver : Resolver) :
      Move w { w with hand := { name := some name, resolver := resolver } :: w.hand }
  | step (w : Workbench P) {q q' : Query P} (s : Step P) :
      q ∈ w.hand → q.apply s = .ok q' → Move w { w with hand := q' :: w.hand }
  | fork (w : Workbench P) {q : Query P} :
      q ∈ w.hand → Move w { w with hand := q.fork :: w.hand }
  | define (w : Workbench P) {q : Query P} (name : String) :
      q ∈ w.hand → Move w ⟨w.named.define name q, w.named.defined name q :: w.hand⟩
  | query (w : Workbench P) (name : String) (resolver : Resolver) :
      Move w { w with hand := w.named.query name resolver :: w.hand }
  | get (w : Workbench P) {q : Query P} (name : String) :
      w.named.get? name = some q → Move w { w with hand := q :: w.hand }
  | clear (w : Workbench P) : Move w { w with named := {} }

structure WellFormed (w : Workbench P) : Prop where
  named : ∀ name q, w.named.find? name = some q → q.WellFormed
  hand : ∀ q ∈ w.hand, q.WellFormed

theorem WellFormed.add {w : Workbench P} (h : w.WellFormed) {q : Query P} (hq : q.WellFormed) :
    ({ w with hand := q :: w.hand } : Workbench P).WellFormed :=
  ⟨h.named, List.forall_mem_cons.mpr ⟨hq, h.hand⟩⟩

theorem WellFormed.get? {w : Workbench P} (h : w.WellFormed) {name : String} {q : Query P}
    (hq : w.named.get? name = some q) : q.WellFormed := by
  obtain ⟨stored, hstored, rfl⟩ := Option.map_eq_some_iff.mp hq
  exact (h.named name stored hstored).fork

theorem WellFormed.query {w : Workbench P} (h : w.WellFormed) (name : String)
    (resolver : Resolver) : (w.named.query name resolver).WellFormed := by
  rw [NamedQueries.query]
  cases hq : w.named.get? name with
  | none => exact .of_empty _ _
  | some q => exact h.get? hq

theorem WellFormed.define {w : Workbench P} (h : w.WellFormed) {q : Query P} (hq : q.WellFormed)
    (name : String) : ({ w with named := w.named.define name q } : Workbench P).WellFormed := by
  refine ⟨fun k other hother => ?_, h.hand⟩
  rw [NamedQueries.define, Catalog.find?_define] at hother
  split at hother
  · cases hstored : w.named.find? name with
    | none =>
      rw [hstored] at hother
      cases hother
      exact (hq.named name).fork
    | some stored =>
      rw [hstored] at hother
      cases hother
      exact h.named name stored hstored
  · exact h.named k other hother

theorem WellFormed.move {w w' : Workbench P} (h : w.WellFormed) (hmove : Move w w') :
    w'.WellFormed := by
  cases hmove with
  | new resolver => exact h.add (.of_empty none resolver)
  | newNamed name resolver => exact h.add (.of_empty (some name) resolver)
  | step s hq hs => exact h.add ((h.hand _ hq).apply hs)
  | fork hq => exact h.add (h.hand _ hq).fork
  | @define q name hq =>
    have hdefined := h.define (h.hand q hq) name
    exact hdefined.add (hdefined.get? (NamedQueries.get?_define w.named name q))
  | query name resolver => exact h.add (h.query name resolver)
  | get name hq => exact h.add (h.get? hq)
  | clear => exact ⟨nofun, h.hand⟩

theorem wellFormed_of_reachable {w : Workbench P} (h : Relation.ReflTransGen Move {} w) :
    w.WellFormed := by
  induction h with
  | refl => exact ⟨nofun, nofun⟩
  | tail _ hmove ih => exact ih.move hmove

theorem references_of_reachable {w : Workbench P} (hw : Relation.ReflTransGen Move {} w)
    {q : Query P} (hq : q ∈ w.hand) :
    (∀ scope, q.scope = some scope →
      ∃ model, q.resolver.resolveModel scope = .ok model ∧ model.scope = scope) ∧
    ∀ ref ∈ q.criteria.refs,
      IsSegment ref.model ∧ IsSegment ref.attr ∧ ref.path = ref.scope ++ "." ++ ref.attr ∧
      ((ref.explicit = true ∧ IsSegment ref.adapter ∧
          ref.scope = ref.adapter ++ "." ++ ref.model) ∨
        (ref.explicit = false ∧ ref.scope = ref.model ∧
          ref.adapter = q.resolver.defaultAdapter)) ∧
      (ref.explicit = true ↔ ref.scope ≠ ref.model) ∧
      ∀ start, q.resolver.resolve ref.path start = .ok ref := by
  have h := (wellFormed_of_reachable hw).hand q hq
  refine ⟨fun scope hscope => q.resolver.resolveModel_of_isScope (h.scope scope hscope), ?_⟩
  intro ref href
  have hwell := h.refs ref href
  refine ⟨hwell.model, hwell.attr, rfl, ?_, ref.explicit_iff_scope_ne_model, hwell.resolve_path⟩
  cases hexplicit : ref.explicit with
  | true =>
    exact .inl ⟨rfl, hwell.adapter_of_explicit hexplicit, PathRef.scope_of_explicit hexplicit⟩
  | false =>
    exact .inr ⟨rfl, PathRef.scope_of_implicit hexplicit, hwell.adapter_of_implicit hexplicit⟩

/-! ## A named query that is looked up and built on -/

def userQuery : Query Plugins.trivial where
  criteria := [.start ⟨some "shop", "user"⟩]
  scope := some "shop.user"
  resolver := ⟨"rest"⟩

def emailRef : PathRef := ⟨"shop", "user", "email", true⟩

def totalRef : PathRef := ⟨"rest", "order", "total", false⟩

def recentQuery : Query Plugins.trivial := { userQuery with name := some "recent" }

def emailQuery : Query Plugins.trivial :=
  { recentQuery with criteria := recentQuery.criteria ++ [.select emailRef] }

def totalQuery : Query Plugins.trivial :=
  { emailQuery with criteria := emailQuery.criteria ++ [.order totalRef .descending] }

def totalBench : Workbench Plugins.trivial where
  named := ⟨[("recent", recentQuery)]⟩
  hand := [totalQuery, emailQuery, recentQuery, recentQuery, userQuery, { resolver := ⟨"rest"⟩ }]

theorem totalBench_reachable : Relation.ReflTransGen Move {} totalBench := by
  let fresh : Query Plugins.trivial := { resolver := ⟨"rest"⟩ }
  let named : NamedQueries Plugins.trivial := ⟨[("recent", recentQuery)]⟩
  have hstart : Move ⟨{}, [fresh]⟩ ⟨{}, [userQuery, fresh]⟩ :=
    .step _ (.start "shop.user") (List.mem_singleton_self _) rfl
  have hdefine : Move ⟨{}, [userQuery, fresh]⟩ ⟨named, [recentQuery, userQuery, fresh]⟩ :=
    .define ⟨{}, [userQuery, fresh]⟩ (q := userQuery) "recent" List.mem_cons_self
  have hquery : Move ⟨named, [recentQuery, userQuery, fresh]⟩
      ⟨named, [recentQuery, recentQuery, userQuery, fresh]⟩ :=
    .query _ "recent" ⟨"memory"⟩
  have hselect : Move ⟨named, [recentQuery, recentQuery, userQuery, fresh]⟩
      ⟨named, [emailQuery, recentQuery, recentQuery, userQuery, fresh]⟩ :=
    .step _ (.select "email") List.mem_cons_self rfl
  have horder : Move ⟨named, [emailQuery, recentQuery, recentQuery, userQuery, fresh]⟩
      totalBench :=
    .step _ (.order .descending "order.total") List.mem_cons_self rfl
  exact (((((Relation.ReflTransGen.refl.tail (.new {} ⟨"rest"⟩)).tail hstart).tail hdefine).tail
    hquery).tail hselect).tail horder

theorem references_of_totalQuery :
    (∃ model, totalQuery.resolver.resolveModel "shop.user" = .ok model ∧
      model.scope = "shop.user") ∧
    emailRef.scope = emailRef.adapter ++ "." ++ emailRef.model ∧
    totalRef.adapter = "rest" ∧
    totalQuery.resolver.resolve "shop.user.email" none = .ok emailRef ∧
    totalQuery.resolver.resolve "order.total" (some "shop.user") = .ok totalRef := by
  obtain ⟨hscope, hrefs⟩ :=
    references_of_reachable totalBench_reachable (q := totalQuery) List.mem_cons_self
  obtain ⟨-, -, -, hemail, -, hresolve⟩ := hrefs emailRef List.mem_cons_self
  obtain ⟨-, -, -, htotal, -, hresolve'⟩ :=
    hrefs totalRef (List.mem_cons_of_mem _ List.mem_cons_self)
  refine ⟨hscope "shop.user" rfl, ?_, ?_, hresolve none, hresolve' (some "shop.user")⟩
  · rcases hemail with ⟨-, -, hemail⟩ | ⟨hexplicit, -⟩
    · exact hemail
    · cases hexplicit
  · rcases htotal with ⟨hexplicit, -⟩ | ⟨-, -, htotal⟩
    · cases hexplicit
    · exact htotal

end Workbench

end QueryLayer

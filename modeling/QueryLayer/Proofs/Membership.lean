import QueryLayer.Proofs.ComparisonAlgebra
import QueryLayer.Proofs.StepReferences

/-! # Membership

One operator asks for the items of a list and for the parts of a text. In a list a value is found up
to loose equality and wherever it stands; in a text it is found where the text can be cut before and
after it. Nothing is in a value of any other kind.
-/

set_option autoImplicit false

namespace QueryLayer

theorem isInfix_toList_iff {part text : String} :
    part.toList <:+: text.toList ↔ ∃ before after, text = before ++ part ++ after := by
  constructor
  · rintro ⟨before, after, h⟩
    refine ⟨.ofList before, .ofList after, String.toList_injective ?_⟩
    simp [← h]
  · rintro ⟨before, after, rfl⟩
    exact ⟨before.toList, after.toList, by simp⟩

namespace Value

/-- The value `a` is loosely equal to an item of the list `e`, or it is a part of the text `e`. -/
def IsIn (a e : Value) : Prop :=
  (∃ items, e = .list items ∧ ∃ item ∈ items, looseEq item a = true) ∨
    ∃ before part after, e = .text (before ++ part ++ after) ∧ a = .text part

theorem isIn_list_iff {a : Value} {items : List Value} :
    a.IsIn (.list items) ↔ ∃ item ∈ items, looseEq item a = true := by
  constructor
  · rintro (⟨_, ⟨⟩, h⟩ | ⟨_, _, _, ⟨⟩, _⟩)
    exact h
  · exact fun h => .inl ⟨items, rfl, h⟩

theorem isIn_text_iff {s t : String} :
    (text s).IsIn (.text t) ↔ ∃ before after, t = before ++ s ++ after := by
  constructor
  · rintro (⟨_, ⟨⟩, _⟩ | ⟨before, part, after, ht, hs⟩)
    cases hs
    exact ⟨before, after, Value.text.inj ht⟩
  · rintro ⟨before, after, rfl⟩
    exact .inr ⟨before, s, after, rfl, rfl⟩

theorem kind_of_isIn {a e : Value} (h : a.IsIn e) : e.kind = .list ∨ e.kind = .text := by
  rcases h with ⟨items, rfl, -⟩ | ⟨before, part, after, rfl, -⟩
  · exact .inl rfl
  · exact .inr rfl

theorem includes_iff {e a : Value} : includes e a = true ↔ a.IsIn e := by
  cases e with
  | list items => rw [includes, List.any_eq_true, isIn_list_iff]
  | text t =>
    cases a with
    | text s => rw [includes, hasInfix_eq_true_iff, isInfix_toList_iff, isIn_text_iff]
    | _ =>
      refine iff_of_false nofun ?_
      rintro (⟨_, ⟨⟩, _⟩ | ⟨_, _, _, _, ⟨⟩⟩)
  | _ => exact iff_of_false nofun fun h => by rcases kind_of_isIn h with h | h <;> cases h

end Value

open Value in
/-- What is asked of a predicate and its opposite so that they can be read as membership. -/
structure Predicate.Membership (within without : Predicate) : Prop where
  within_iff : ∀ a e, within a e = true ↔ a.IsIn e
  without_iff : ∀ a e, without a e = true ↔ ¬ a.IsIn e
  elsewhere : ∀ a e, e.kind ≠ .list → e.kind ≠ .text → without a e = true
  list_append : ∀ a xs ys,
    within a (list (xs ++ ys)) = true ↔ within a (list xs) = true ∨ within a (list ys) = true
  list_perm : ∀ a xs ys, xs.Perm ys → within a (list xs) = within a (list ys)
  text_empty : ∀ s, within (text "") (text s) = true
  text_refl : ∀ s, within (text s) (text s) = true
  text_trans : ∀ r s t, within (text r) (text s) = true → within (text s) (text t) = true →
    within (text r) (text t) = true

theorem Predicate.without_eq_true_iff {a e : Value} : without a e = true ↔ ¬ a.IsIn e := by
  rw [without, Bool.not_eq_true', ← Bool.not_eq_true, Value.includes_iff]

theorem Predicate.membership : Membership within without where
  within_iff a e := Value.includes_iff
  without_iff a e := without_eq_true_iff
  elsewhere a e hlist htext := by
    rw [without_eq_true_iff]
    intro h
    rcases Value.kind_of_isIn h with h | h
    · exact hlist h
    · exact htext h
  list_append a xs ys := by
    rw [within, Value.includes, List.any_append, Bool.or_eq_true]
    rfl
  list_perm a xs ys h := by
    rw [Bool.eq_iff_iff]
    simp only [within, Value.includes_iff, Value.isIn_list_iff, h.mem_iff]
  text_empty s := Value.includes_iff.mpr (Value.isIn_text_iff.mpr ⟨"", s, by simp⟩)
  text_refl s := Value.includes_iff.mpr (Value.isIn_text_iff.mpr ⟨"", "", by simp⟩)
  text_trans r s t hrs hst := by
    simp only [within, Value.includes_iff, Value.isIn_text_iff] at hrs hst ⊢
    obtain ⟨before, after, rfl⟩ := hrs
    obtain ⟨before', after', rfl⟩ := hst
    exact ⟨before' ++ before, after ++ after', by simp [String.append_assoc]⟩

theorem Query.constraint_of_compare {P : Plugins} {q q' : Query P} {operator : Operator}
    {operand : Value} (h : q.compare operator operand = .ok q') :
    ∃ left, q' = q.push (.constraint ⟨left, operator, operand⟩) := by
  rw [compare] at h
  split at h
  · cases h
  · rw [constrain, Except.bind_eq_ok_iff] at h
    obtain ⟨left, -, ⟨⟩⟩ := h
    exact ⟨left, rfl⟩

namespace Predicates

theorem lookups_of_mem_builtins {engine : Pattern.Engine} {more : List (String × Predicate)}
    (hmore : (builtin engine).names.Disjoint (Entries.keys more)) {entry : String × Predicate}
    (h : entry ∈ Predicate.builtins engine) :
    let ps := (builtin engine).registerAll more
    ps.lookup entry.1 = some entry.2 ∧ ps.lookupIn "attr" entry.1 = some entry.2 ∧
      ps.lookupIn "param" entry.1 = some entry.2 := by
  have hform : ∀ ns, (qualified ns entry.1, entry.2) ∈ namespaced engine ns := fun ns =>
    List.mem_map.mpr ⟨entry, List.mem_cons_of_mem _ h, rfl⟩
  have hplain : entry ∈ (builtin engine).entries := by
    rw [entries_builtin]
    exact List.mem_append_left _ (List.mem_append_left _ h)
  have hattr : (qualified "attr" entry.1, entry.2) ∈ (builtin engine).entries := by
    rw [entries_builtin]
    exact List.mem_append_left _ (List.mem_append_right _ (hform "attr"))
  have hparam : (qualified "param" entry.1, entry.2) ∈ (builtin engine).entries := by
    rw [entries_builtin]
    exact List.mem_append_right _ (hform "param")
  exact ⟨lookup_of_mem_builtin hmore hplain, lookup_of_mem_builtin hmore hattr,
    lookup_of_mem_builtin hmore hparam⟩

/-- Whatever is registered under other names, membership and its opposite stand under both of their
names, and a query that asks what is contained in a value is answered by membership. -/
theorem membership_registered {P : Plugins} (engine : Pattern.Engine)
    (more : List (String × Predicate))
    (hmore : (builtin engine).names.Disjoint (Entries.keys more)) :
    let ps := (builtin engine).registerAll more
    Predicate.Membership .within .without ∧
    (∀ name ∈ ["in", "contains"], Operator.ofName name = .within ∧
      ps.lookup name = some .within ∧ ps.lookupIn "attr" name = some .within ∧
      ps.lookupIn "param" name = some .within) ∧
    (∀ name ∈ ["nin", "excludes"], Operator.ofName name = .without ∧
      ps.lookup name = some .without ∧ ps.lookupIn "attr" name = some .without ∧
      ps.lookupIn "param" name = some .without) ∧
    ∀ (q q' : Query P) (e : Value), q.contains e = .ok q' →
      ∃ c : Constraint, q' = q.push (.constraint c) ∧
        ∀ a, c.test ps a = some (Predicate.within a e) := by
  intro ps
  have hlookups : ∀ name p, (name, p) ∈ Predicate.comparisons → ps.lookup name = some p ∧
      ps.lookupIn "attr" name = some p ∧ ps.lookupIn "param" name = some p :=
    fun _ _ h => lookups_of_mem_builtins hmore (List.mem_append_left _ h)
  have hin := hlookups "in" .within (by simp [Predicate.comparisons])
  have hcontains := hlookups "contains" .within (by simp [Predicate.comparisons])
  have hnin := hlookups "nin" .without (by simp [Predicate.comparisons])
  have hexcludes := hlookups "excludes" .without (by simp [Predicate.comparisons])
  refine ⟨Predicate.membership, ?_, ?_, ?_⟩
  · rw [List.forall_mem_cons, List.forall_mem_singleton]
    exact ⟨⟨rfl, hin⟩, rfl, hcontains⟩
  · rw [List.forall_mem_cons, List.forall_mem_singleton]
    exact ⟨⟨rfl, hnin⟩, rfl, hexcludes⟩
  · intro q q' e h
    obtain ⟨left, rfl⟩ := Query.constraint_of_compare h
    refine ⟨⟨left, .within, e⟩, rfl, fun a => ?_⟩
    rw [Constraint.test, Operator.name, hin.1]
    rfl

/-- A part of a text and an item of another kind of integer are found, an item of an item is not. -/
theorem membership_in_tags :
    let member : Predicate := fun actual _ => Predicate.present actual .null
    let more := [("attr.member", member)]
    let tags : Value := .list [.text "draft", .int 5, .list [.text "new"]]
    let q : Query .trivial := { active := some "tags", scope := some "post" }
    let ps := builtin .words
    ps.names.Disjoint (Entries.keys more) ∧
      ∃ q' c, q.contains tags = .ok q' ∧ q' = q.push (.constraint c) ∧
        c.test (ps.registerAll more) (.uint 5) = some true ∧
        c.test (ps.registerAll more) (.text "new") = some false ∧
        Predicate.within (.text "raft") (.text "draft") = true := by
  intro member more tags q ps
  have hmore : ps.names.Disjoint (Entries.keys more) := by
    have hnone : ∀ name ∈ Entries.keys more, name ∉ ps.names := by decide
    exact fun name hbuiltin hname => hnone name hname hbuiltin
  obtain ⟨hmembership, -, -, hqueries⟩ := membership_registered (P := .trivial) .words more hmore
  obtain ⟨q', hq'⟩ : ∃ q', q.contains tags = .ok q' := ⟨_, rfl⟩
  obtain ⟨c, hpush, htest⟩ := hqueries q q' tags hq'
  refine ⟨hmore, q', c, hq', hpush, ?_, ?_, ?_⟩
  · rw [htest, (hmembership.within_iff _ _).mpr (.inl ⟨_, rfl, .int 5, by simp, rfl⟩)]
  · rw [htest]
    rfl
  · exact (hmembership.within_iff _ _).mpr (.inr ⟨"d", "raft", "", rfl, rfl⟩)

end Predicates

end QueryLayer

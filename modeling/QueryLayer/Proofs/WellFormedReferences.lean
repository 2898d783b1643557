import QueryLayer.Proofs.DottedText

/-! # Well-formed references

What a resolver accepts in a well-formed scope is made of segments, and its own path names it again
whatever the scope. The scope of a model and of a well-formed reference are well-formed in turn.
-/

set_option autoImplicit false

namespace QueryLayer

open Dotted

/-- The adapter is a segment if it was written out, and otherwise the default one. -/
structure PathRef.WellFormed (r : Resolver) (ref : PathRef) : Prop where
  model : IsSegment ref.model
  attr : IsSegment ref.attr
  adapter_of_explicit : ref.explicit = true → IsSegment ref.adapter
  adapter_of_implicit : ref.explicit = false → ref.adapter = r.defaultAdapter

namespace PathRef

theorem scope_of_explicit {ref : PathRef} (h : ref.explicit = true) :
    ref.scope = ref.adapter ++ "." ++ ref.model := by rw [scope, if_pos h]

theorem scope_of_implicit {ref : PathRef} (h : ref.explicit = false) : ref.scope = ref.model := by
  rw [scope, if_neg (by rw [h]; exact Bool.false_ne_true)]

/-- A qualified scope is longer than its model, so the flag can be read off the scope. -/
theorem explicit_iff_scope_ne_model (ref : PathRef) :
    ref.explicit = true ↔ ref.scope ≠ ref.model := by
  cases h : ref.explicit with
  | false => simp [scope_of_implicit h]
  | true =>
    rw [scope_of_explicit h]
    refine iff_of_true rfl fun heq => ?_
    have hlength := congrArg (fun s : String => s.toList.length) heq
    simp only [toList_append_dot, List.length_append, List.length_cons] at hlength
    omega

end PathRef

namespace Resolver

theorem segments_of_resolve {r : Resolver} {dotted : String} {start : Option String}
    {ref : PathRef} (h : r.resolve dotted start = .ok ref) :
    ∀ s ∈ segments dotted, IsSegment s := by
  rw [resolve] at h
  exact (guarded_eq_ok_iff.mp h).1

/-- The three forms of a reference, by the number of its segments. -/
theorem resolve_cases {r : Resolver} {dotted : String} {start : Option String} {ref : PathRef}
    (h : r.resolve dotted start = .ok ref) :
    (∃ attr scope, segments dotted = [attr] ∧ start = some scope ∧
      ((qualifier? scope = none ∧ ref = ⟨r.defaultAdapter, scope, attr, false⟩) ∨
        ∃ adapter model, qualifier? scope = some (adapter, model) ∧
          ref = ⟨adapter, model, attr, true⟩)) ∨
    (∃ model attr, segments dotted = [model, attr] ∧
      ref = ⟨r.defaultAdapter, model, attr, false⟩) ∨
    ∃ adapter model attr, segments dotted = [adapter, model, attr] ∧
      ref = ⟨adapter, model, attr, true⟩ := by
  rw [resolve] at h
  replace h := (guarded_eq_ok_iff.mp h).2
  split at h
  · rename_i attr hsegments
    split at h
    · cases h
    · rename_i scope
      refine .inl ⟨attr, scope, hsegments, rfl, ?_⟩
      split at h
      · rename_i adapter model hqualifier
        cases h
        exact .inr ⟨adapter, model, hqualifier, rfl⟩
      · rename_i hqualifier
        cases h
        exact .inl ⟨hqualifier, rfl⟩
  · rename_i model attr hsegments
    cases h
    exact .inr (.inl ⟨model, attr, hsegments, rfl⟩)
  · rename_i adapter model attr hsegments
    cases h
    exact .inr (.inr ⟨adapter, model, attr, hsegments, rfl⟩)
  · cases h

theorem resolve_two_segments (r : Resolver) {model attr : String} (hmodel : IsSegment model)
    (hattr : IsSegment attr) (start : Option String) :
    r.resolve (model ++ "." ++ attr) start = .ok ⟨r.defaultAdapter, model, attr, false⟩ := by
  have hsegments : segments (model ++ "." ++ attr) = [model, attr] := by
    rw [segments_append_dot, segments_of_isSegment hmodel, segments_of_isSegment hattr]
    rfl
  rw [resolve]
  refine guarded_eq_ok_iff.mpr ⟨?_, ?_⟩
  · simp [hsegments, hmodel, hattr]
  · rw [hsegments]

theorem resolve_three_segments (r : Resolver) {adapter model attr : String}
    (hadapter : IsSegment adapter) (hmodel : IsSegment model) (hattr : IsSegment attr)
    (start : Option String) :
    r.resolve (adapter ++ "." ++ model ++ "." ++ attr) start =
      .ok ⟨adapter, model, attr, true⟩ := by
  have hsegments : segments (adapter ++ "." ++ model ++ "." ++ attr) = [adapter, model, attr] := by
    rw [segments_append_dot, segments_append_dot, segments_of_isSegment hadapter,
      segments_of_isSegment hmodel, segments_of_isSegment hattr]
    rfl
  rw [resolve]
  refine guarded_eq_ok_iff.mpr ⟨?_, ?_⟩
  · simp [hsegments, hadapter, hmodel, hattr]
  · rw [hsegments]

theorem resolveModel_of_isScope (r : Resolver) {scope : String} (h : IsScope scope) :
    ∃ model, r.resolveModel scope = .ok model ∧ model.scope = scope := by
  rcases h with hmodel | ⟨adapter, model, hadapter, hmodel, rfl⟩
  · have hsegments := segments_of_isSegment hmodel
    refine ⟨⟨none, scope⟩, ?_, rfl⟩
    rw [resolveModel]
    refine guarded_eq_ok_iff.mpr ⟨?_, ?_⟩
    · simpa [hsegments] using hmodel
    · rw [hsegments]
  · have hsegments : segments (adapter ++ "." ++ model) = [adapter, model] := by
      rw [segments_append_dot, segments_of_isSegment hadapter, segments_of_isSegment hmodel]
      rfl
    refine ⟨⟨some adapter, model⟩, ?_, rfl⟩
    rw [resolveModel]
    refine guarded_eq_ok_iff.mpr ⟨?_, ?_⟩
    · simp [hsegments, hadapter, hmodel]
    · rw [hsegments]

theorem isScope_of_resolveModel {r : Resolver} {dotted : String} {model : ModelRef}
    (h : r.resolveModel dotted = .ok model) : IsScope model.scope := by
  rw [resolveModel] at h
  obtain ⟨hsegments, h⟩ := guarded_eq_ok_iff.mp h
  split at h
  · rename_i name heq
    cases h
    exact .inl (hsegments name (by rw [heq]; exact List.mem_singleton_self _))
  · rename_i adapter name heq
    cases h
    rw [heq] at hsegments
    exact .inr ⟨adapter, name, hsegments adapter (by simp), hsegments name (by simp), rfl⟩
  · cases h

theorem wellFormed_of_resolve {r : Resolver} {dotted : String} {start : Option String}
    {ref : PathRef} (hstart : ∀ scope, start = some scope → IsScope scope)
    (h : r.resolve dotted start = .ok ref) : ref.WellFormed r := by
  have hsegments := segments_of_resolve h
  rcases resolve_cases h with ⟨attr, scope, heq, rfl, hscope⟩ | ⟨model, attr, heq, rfl⟩ |
    ⟨adapter, model, attr, heq, rfl⟩
  · have hattr : IsSegment attr := hsegments attr (by rw [heq]; exact List.mem_singleton_self _)
    rcases hstart scope rfl with hmodel | ⟨adapter, model, hadapter, hmodel, rfl⟩
    · rcases hscope with ⟨-, rfl⟩ | ⟨adapter, model, hqualifier, -⟩
      · exact ⟨hmodel, hattr, nofun, fun _ => rfl⟩
      · rw [qualifier?_eq_none_iff.mpr hmodel.2] at hqualifier
        cases hqualifier
    · rw [qualifier?_append_dot hadapter] at hscope
      rcases hscope with ⟨hqualifier, -⟩ | ⟨adapter', model', hqualifier, rfl⟩
      · cases hqualifier
      · cases hqualifier
        exact ⟨hmodel, hattr, fun _ => hadapter, nofun⟩
  · rw [heq] at hsegments
    exact ⟨hsegments model (by simp), hsegments attr (by simp), nofun, fun _ => rfl⟩
  · rw [heq] at hsegments
    exact ⟨hsegments model (by simp), hsegments attr (by simp),
      fun _ => hsegments adapter (by simp), nofun⟩

end Resolver

namespace PathRef.WellFormed

theorem isScope {r : Resolver} {ref : PathRef} (h : ref.WellFormed r) : IsScope ref.scope := by
  cases hexplicit : ref.explicit with
  | false =>
    rw [scope_of_implicit hexplicit]
    exact .inl h.model
  | true =>
    rw [scope_of_explicit hexplicit]
    exact .inr ⟨ref.adapter, ref.model, h.adapter_of_explicit hexplicit, h.model, rfl⟩

/-- A well-formed reference is named by its own path in every scope. -/
theorem resolve_path {r : Resolver} {ref : PathRef} (h : ref.WellFormed r)
    (start : Option String) : r.resolve ref.path start = .ok ref := by
  cases hexplicit : ref.explicit with
  | false =>
    rw [path, scope_of_implicit hexplicit, r.resolve_two_segments h.model h.attr,
      ← h.adapter_of_implicit hexplicit, ← hexplicit]
  | true =>
    rw [path, scope_of_explicit hexplicit,
      r.resolve_three_segments (h.adapter_of_explicit hexplicit) h.model h.attr, ← hexplicit]

end PathRef.WellFormed

end QueryLayer

import QueryLayer.Proofs.ChainSteps
import QueryLayer.Proofs.OperatorNames
import QueryLayer.Proofs.ValueEquality
import QueryLayer.Proofs.WellFormedReferences

/-! # What serialized criteria keep

A criterion is written as its label and its payload. Values are written without their kinds, so a
number in an operand can be read back only because its kind stands beside it, and a number in the
data of an action cannot. Operators and actions are written by name; those that were given by name
can be read back.
-/

set_option autoImplicit false

namespace QueryLayer

/-! ## Equality of JSON -/

namespace Json

mutual

/-- Equality of JSON trees, with doubles compared as numbers. -/
def same : Json → Json → Bool
  | null, null => true
  | bool a, bool b => a == b
  | int m, int n => m == n
  | float x, float y => x.same y
  | str s, str t => s == t
  | arr xs, arr ys => sameItems xs ys
  | obj xs, obj ys => sameFields xs ys
  | _, _ => false

def sameItems : List Json → List Json → Bool
  | [], [] => true
  | x :: xs, y :: ys => same x y && sameItems xs ys
  | _, _ => false

def sameFields : List (String × Json) → List (String × Json) → Bool
  | [], [] => true
  | (k, x) :: xs, (l, y) :: ys => k == l && same x y && sameFields xs ys
  | _, _ => false

end

theorem same_arr_iff {xs ys : List Json} :
    same (.arr xs) (.arr ys) = true ↔ List.Forall₂ (fun x y => same x y = true) xs ys := by
  rw [same]
  exact iff_forall₂ rfl (fun _ _ => rfl) (fun _ _ => rfl) (fun _ _ _ _ => rfl) xs ys

theorem same_obj_iff {xs ys : List (String × Json)} :
    same (.obj xs) (.obj ys) = true ↔
      List.Forall₂ (fun x y => x.1 = y.1 ∧ same x.2 y.2 = true) xs ys := by
  have h := iff_forall₂ (f := sameFields) (g := fun x y => x.1 == y.1 && same x.2 y.2) rfl
    (fun _ _ => rfl) (fun _ _ => rfl) (fun _ _ _ _ => rfl) xs ys
  simpa only [same, Bool.and_eq_true, beq_iff_eq] using h

/-! Of objects that are the same, every field is the same, in whatever order they were listed. -/

theorem rel_find? {xs ys : List (String × Json)}
    (h : List.Forall₂ (fun x y => x.1 = y.1 ∧ same x.2 y.2 = true) xs ys) (key : String) :
    Option.Rel (fun x y => same x y = true) (Entries.find? key xs) (Entries.find? key ys) := by
  induction h with
  | nil => exact .none
  | @cons x y xs ys hxy _ ih =>
    obtain ⟨k, x⟩ := x
    obtain ⟨l, y⟩ := y
    obtain ⟨rfl, hsame⟩ : k = l ∧ same x y = true := hxy
    by_cases hk : key = k
    · rw [Entries.find?, Entries.find?, if_pos hk, if_pos hk]
      exact .some hsame
    · rw [Entries.find?, Entries.find?, if_neg hk, if_neg hk]
      exact ih

section

variable {xs ys : List (String × Json)} {x y : Json} (key : String)

theorem rel_field (h : (ofFields xs).same (ofFields ys) = true) :
    Option.Rel (fun x y => same x y = true) (Entries.find? key xs.reverse)
      (Entries.find? key ys.reverse) := by
  have hrel := rel_find? (same_obj_iff.mp h) key
  rwa [Entries.find?_ofList, Entries.find?_ofList] at hrel

theorem same_field (h : (ofFields xs).same (ofFields ys) = true)
    (hx : Entries.find? key xs.reverse = some x) (hy : Entries.find? key ys.reverse = some y) :
    x.same y = true := by
  have hrel := rel_field key h
  rw [hx, hy] at hrel
  cases hrel with
  | some hxy => exact hxy

theorem text_field {s t : String} (h : (ofFields xs).same (ofFields ys) = true)
    (hs : Entries.find? key xs.reverse = some (.str s))
    (ht : Entries.find? key ys.reverse = some (.str t)) : s = t := by
  have hst := same_field key h hs ht
  rw [same] at hst
  exact beq_iff_eq.mp hst

theorem isSome_field (h : (ofFields xs).same (ofFields ys) = true) :
    (Entries.find? key xs.reverse).isSome = (Entries.find? key ys.reverse).isSome := by
  have hrel := rel_field key h
  generalize Entries.find? key xs.reverse = x at hrel ⊢
  generalize Entries.find? key ys.reverse = y at hrel ⊢
  cases hrel with
  | some => rfl
  | none => rfl

end

end Json

theorem beq_iff_forall₂ {α : Type} [BEq α] {xs ys : List α} :
    (xs == ys) = true ↔ List.Forall₂ (fun x y => (x == y) = true) xs ys :=
  iff_forall₂ (f := BEq.beq) rfl (fun _ _ => rfl) (fun _ _ => rfl) (fun _ _ _ _ => rfl) xs ys

/-! ## Values -/

namespace Value

/-- Neither a list nor a map, nor a double that is not finite. -/
def isScalar : Value → Bool
  | float x => x.isFinite
  | list _ => false
  | map _ => false
  | _ => true

theorem same_of_scalars {v w : Value} (hv : v.isScalar = true) (hw : w.isScalar = true)
    (hkind : v.kind = w.kind) (h : v.toJson.same w.toJson = true) : v.same w = true := by
  cases v with
  | float x =>
    cases w with
    | float y =>
      have hx : x.toJson = .float x := if_pos hv
      have hy : y.toJson = .float y := if_pos hw
      rw [toJson, toJson, hx, hy] at h
      exact h
    | _ => cases hkind
  | list xs => cases hv
  | map xs => cases hv
  | int m =>
    cases w with
    | int n => simpa [toJson, Json.same, same, Int64.toInt_inj] using h
    | _ => cases hkind
  | uint m =>
    cases w with
    | uint n => simpa [toJson, Json.same, same, Int.ofNat_inj, UInt64.toNat_inj] using h
    | _ => cases hkind
  | _ => cases w <;> simp_all [kind, toJson, Json.same, same]

/-- Without numbers the plain form shows the kinds as well. -/
theorem same_of_toJson {v w : Value} (hv : v.hasNumber = false) (hw : w.hasNumber = false)
    (h : v.toJson.same w.toJson = true) : v.same w = true := by
  induction v using Value.induction generalizing w with
  | int n => cases hv
  | uint n => cases hv
  | float x => cases hv
  | list xs ih =>
    cases w with
    | list ys =>
      rw [hasNumber, anyLeaf_list_eq_false_iff] at hv hw
      rw [toJson, toJson, itemsToJson_eq_map, itemsToJson_eq_map, Json.same_arr_iff,
        List.forall₂_map_left_iff, List.forall₂_map_right_iff] at h
      refine same_list_iff.mpr (forall₂_imp h fun x hx y hy hxy => ?_)
      exact ih x hx (hv x hx) (hw y hy) hxy
    | float y => cases hw
    | _ => cases h
  | map xs ih =>
    cases w with
    | map ys =>
      rw [hasNumber, anyLeaf_map_eq_false_iff] at hv hw
      rw [toJson, toJson, entriesToJson_eq_map, entriesToJson_eq_map, Json.same_obj_iff,
        List.forall₂_map_left_iff, List.forall₂_map_right_iff] at h
      refine same_map_iff.mpr (forall₂_imp h fun x hx y hy hxy => ?_)
      exact ⟨hxy.1, ih x hx (hv x hx) (hw y hy) hxy.2⟩
    | float y => cases hw
    | _ => cases h
  | _ =>
    cases w with
    | float y => cases hw
    | _ => exact h

end Value

/-! ## Actions by name -/

namespace ActionKind

theorem ofLabel_label (s : String) : ofLabel (ofLabel s).label = ofLabel s := by
  fun_cases ofLabel s
  case case9 => simp_all [label, ofLabel]
  all_goals rfl

theorem ofLabel_eq_of_label {s t : String} (h : (ofLabel s).label = (ofLabel t).label) :
    ofLabel s = ofLabel t := by
  rw [← ofLabel_label s, h, ofLabel_label]

end ActionKind

/-! ## Criteria -/

theorem PathRef.eq_of_scope {p q : PathRef} (hadapter : p.adapter = q.adapter)
    (hmodel : p.model = q.model) (hattr : p.attr = q.attr) (hscope : p.scope = q.scope) :
    p = q := by
  have hexplicit : p.explicit = q.explicit := by
    rw [Bool.eq_iff_iff, explicit_iff_scope_ne_model, explicit_iff_scope_ne_model, hscope, hmodel]
  cases p
  cases q
  simp_all

/-- The fields of a reference name it, whatever other fields stand in front. -/
theorem PathRef.eq_of_fields {p q : PathRef} (more others : List (String × Json))
    (h : (Json.ofFields (more ++ p.fields)).same (.ofFields (others ++ q.fields)) = true) :
    p = q := by
  have hfield : ∀ key s t, Entries.find? key p.fields.reverse = some (.str s) →
      Entries.find? key q.fields.reverse = some (.str t) → s = t := by
    intro key s t hs ht
    refine Json.text_field key h ?_ ?_
    · rw [List.reverse_append, Entries.find?_append, hs, Option.some_or]
    · rw [List.reverse_append, Entries.find?_append, ht, Option.some_or]
  exact eq_of_scope (hfield "adapter" _ _ rfl rfl) (hfield "model" _ _ rfl rfl)
    (hfield "attr" _ _ rfl rfl) (hfield "namespace" _ _ rfl rfl)

theorem PathRef.eq_of_toJson {p q : PathRef} (h : p.toJson.same q.toJson = true) : p = q :=
  eq_of_fields [] [] h

theorem PathRef.eq_of_directed {p q : PathRef} {d e : Json}
    (h : (Json.ofFields (("direction", d) :: p.fields)).same
      (.ofFields (("direction", e) :: q.fields)) = true) : p = q ∧ d.same e = true :=
  ⟨eq_of_fields [("direction", d)] [("direction", e)] h,
    Json.same_field "direction" h rfl rfl⟩

theorem ModelRef.eq_of_toJson {m n : ModelRef} (h : m.toJson.same n.toJson = true) : m = n := by
  obtain ⟨adapter, model⟩ := m
  obtain ⟨adapter', model'⟩ := n
  -- an adapter that was not written out leaves no field
  cases adapter with
  | none =>
    cases adapter' with
    | none =>
      have hmodel : model = model' := Json.text_field "model" h rfl rfl
      rw [hmodel]
    | some name' => cases Json.isSome_field "adapter" h
  | some name =>
    cases adapter' with
    | none => cases Json.isSome_field "adapter" h
    | some name' =>
      have hname : name = name' := Json.text_field "adapter" h rfl rfl
      have hmodel : model = model' := Json.text_field "model" h rfl rfl
      rw [hname, hmodel]

theorem Constraint.same_of_toJson {c d : Constraint} {s t : String}
    (hs : c.operator = .ofName s) (ht : d.operator = .ofName t) (hc : c.right.isScalar = true)
    (hd : d.right.isScalar = true) (h : c.toJson.same d.toJson = true) : (c == d) = true := by
  have hleft : c.left = d.left := PathRef.eq_of_toJson (Json.same_field "left" h rfl rfl)
  have hname : c.operator.name = d.operator.name := Json.text_field "operator" h rfl rfl
  have hoperator : c.operator = d.operator := by
    rw [hs, ht] at hname ⊢
    exact Operator.ofName_eq_iff.mpr hname
  have hoperand := Json.same_field "right" h rfl rfl
  have hkind : c.right.kind = d.right.kind :=
    Kind.label_injective (Json.text_field "type" hoperand rfl rfl)
  have hright : c.right.same d.right = true :=
    Value.same_of_scalars hc hd hkind (Json.same_field "value" hoperand rfl rfl)
  show (c.left == d.left && c.operator == d.operator && c.right.same d.right) = true
  simp [hleft, hoperator, hright]

theorem Action.same_of_toJson {a b : Action} {s t : String} (hs : a.kind = .ofLabel s)
    (ht : b.kind = .ofLabel t) (ha : ∀ records ∈ a.data, ∀ v ∈ records, v.hasNumber = false)
    (hb : ∀ records ∈ b.data, ∀ v ∈ records, v.hasNumber = false)
    (h : a.toJson.same b.toJson = true) : (a == b) = true := by
  obtain ⟨kind, data⟩ := a
  obtain ⟨kind', data'⟩ := b
  show (kind == kind' && data == data') = true
  rw [Bool.and_eq_true, beq_iff_eq]
  subst hs ht
  -- data that is left out makes another object than data that is empty
  cases data with
  | none =>
    cases data' with
    | none => exact ⟨ActionKind.ofLabel_eq_of_label (Json.text_field "type" h rfl rfl), rfl⟩
    | some records' => cases Json.isSome_field "data" h
  | some records =>
    cases data' with
    | none => cases Json.isSome_field "data" h
    | some records' =>
      refine ⟨ActionKind.ofLabel_eq_of_label (Json.text_field "type" h rfl rfl), ?_⟩
      have hitems := Json.same_field "data" h rfl rfl
      rw [Json.same_arr_iff, List.forall₂_map_left_iff, List.forall₂_map_right_iff] at hitems
      show (records == records') = true
      rw [beq_iff_forall₂]
      refine forall₂_imp hitems fun v hv w hw hvw => ?_
      exact Value.same_of_toJson (ha _ rfl v hv) (hb _ rfl w hw) hvw

namespace Criterion

def IsNamed : Criterion → Prop
  | constraint c => ∃ s, c.operator = .ofName s
  | action a => ∃ s, a.kind = .ofLabel s
  | _ => True

/-- The operand is a scalar, the data holds no number. -/
def IsPlain : Criterion → Prop
  | constraint c => c.right.isScalar = true
  | action a => ∀ records ∈ a.data, ∀ v ∈ records, v.hasNumber = false
  | _ => True

theorem same_of_payload {c d : Criterion} (hc : c.IsNamed) (hd : d.IsNamed) (hc' : c.IsPlain)
    (hd' : d.IsPlain) (hlabel : c.label = d.label)
    (h : c.payload.same d.payload = true) : c.same d = true := by
  cases c with
  | start m =>
    cases d with
    | start n => exact beq_iff_eq.mpr (ModelRef.eq_of_toJson h)
    | _ => simp [label] at hlabel
  | select p =>
    cases d with
    | select q => exact beq_iff_eq.mpr (PathRef.eq_of_toJson h)
    | _ => simp [label] at hlabel
  | relation p direction =>
    cases d with
    | relation q direction' =>
      obtain ⟨rfl, hdirection⟩ := PathRef.eq_of_directed h
      cases direction <;> cases direction' <;>
        simp [Direction.label, Json.same, same] at hdirection ⊢
    | _ => simp [label] at hlabel
  | constraint c =>
    cases d with
    | constraint d =>
      obtain ⟨s, hs⟩ := hc
      obtain ⟨t, ht⟩ := hd
      exact Constraint.same_of_toJson hs ht hc' hd' h
    | _ => simp [label] at hlabel
  | order p sort =>
    cases d with
    | order q sort' =>
      obtain ⟨rfl, hsign⟩ := PathRef.eq_of_directed h
      cases sort <;> cases sort' <;> simp [SortOrder.sign, Json.same, same] at hsign ⊢
    | _ => simp [label] at hlabel
  | action a =>
    cases d with
    | action b =>
      obtain ⟨s, hs⟩ := hc
      obtain ⟨t, ht⟩ := hd
      exact Action.same_of_toJson hs ht hc' hd' h
    | _ => simp [label] at hlabel
  | limit m =>
    cases d with
    | limit n => simpa [payload, Json.same, same, Int.natCast_inj] using h
    | _ => simp [label] at hlabel
  | aliased name =>
    cases d with
    | aliased name' => simpa [payload, Json.same, same] using h
    | _ => simp [label] at hlabel
  | returns name =>
    cases d with
    | returns name' => simpa [payload, Json.same, same] using h
    | _ => simp [label] at hlabel

theorem same_of_toJson {c d : Criterion} (hc : c.IsNamed) (hd : d.IsNamed) (hc' : c.IsPlain)
    (hd' : d.IsPlain) (h : c.toJson.same d.toJson = true) : c.same d = true := by
  rw [toJson, toJson, Json.same_arr_iff, List.forall₂_cons, List.forall₂_cons] at h
  obtain ⟨hlabel, hpayload, -⟩ := h
  have hlabel : c.label = d.label := by simpa [Json.same] using hlabel
  exact same_of_payload hc hd hc' hd' hlabel hpayload

end Criterion

namespace Criteria

theorem toJson_eq_pairs (cs : Criteria) :
    ∃ pairs, cs.toJson = .arr pairs ∧ pairs.length = cs.length ∧
      ∀ (i : Nat) (c : Criterion), cs[i]? = some c →
        pairs[i]? = some (.arr [.str c.label, c.payload]) := by
  refine ⟨cs.map Criterion.toJson, rfl, List.length_map _, fun i c hc => ?_⟩
  rw [List.getElem?_map, hc]
  rfl

theorem beq_of_toJson {cs ds : Criteria} (hcs : ∀ c ∈ cs, c.IsNamed ∧ c.IsPlain)
    (hds : ∀ d ∈ ds, d.IsNamed ∧ d.IsPlain) (h : cs.toJson.same ds.toJson = true) :
    (cs == ds) = true := by
  rw [toJson, toJson, Json.same_arr_iff, List.forall₂_map_left_iff,
    List.forall₂_map_right_iff] at h
  refine beq_iff_forall₂.mpr (forall₂_imp h fun c hc d hd hcd => ?_)
  obtain ⟨hc, hc'⟩ := hcs c hc
  obtain ⟨hd, hd'⟩ := hds d hd
  exact Criterion.same_of_toJson hc hd hc' hd' hcd

end Criteria

/-! ## Criteria of built queries -/

variable {P Q : Plugins}

def Step.IsNamed : Step P → Prop
  | .compare operator _ => ∃ s, operator = .ofName s
  | .constrain _ operator _ => ∃ s, operator = .ofName s
  | .action kind _ => ∃ s, kind = .ofLabel s
  | _ => True

theorem Step.isNamed_criterion? {r : Resolver} {scope active : Option String} {s : Step P}
    {c : Criterion} (hs : s.IsNamed) (h : s.criterion? r scope active = some (.ok c)) :
    c.IsNamed := by
  cases s with
  | start key =>
    obtain ⟨model, -, rfl⟩ := Except.map_eq_ok_iff.mp (Option.some.inj h)
    trivial
  | select key | relate direction key | order sort key =>
    obtain ⟨ref, -, rfl⟩ := Except.map_eq_ok_iff.mp (Option.some.inj h)
    trivial
  | constrain key operator value =>
    obtain ⟨ref, -, rfl⟩ := Except.map_eq_ok_iff.mp (Option.some.inj h)
    exact hs
  | compare operator value =>
    cases active with
    | none => cases h
    | some key =>
      obtain ⟨ref, -, rfl⟩ := Except.map_eq_ok_iff.mp (Option.some.inj h)
      exact hs
  | action kind data =>
    cases h
    exact hs
  | aliased name | returns name | limit n =>
    cases h
    trivial
  | via adapter | whereAttr key | reset | observe observer | rule r => cases h

namespace Query

theorem isNamed_apply {q q' : Query P} {s : Step P} (hs : s.IsNamed)
    (hq : ∀ c ∈ q.criteria, c.IsNamed) (h : q.apply s = .ok q') : ∀ c ∈ q'.criteria, c.IsNamed := by
  rw [apply_eq_reading] at h
  have hstepped : ∀ entry : Option Criterion, (∀ c ∈ entry, c.IsNamed) →
      ∀ c ∈ (q.stepped s entry).criteria, c.IsNamed := by
    intro entry hentry c hc
    rw [stepped] at hc
    split at hc
    · cases hc
    · rcases List.mem_append.mp hc with hc | hc
      · exact hq c hc
      · exact hentry c (Option.mem_toList.mp hc)
  rcases hreading : s.criterion? q.resolver q.scope q.active with _ | ⟨e | c⟩ <;>
    rw [hreading] at h
  · cases h
    exact hstepped none nofun
  · cases h
  · cases h
    refine hstepped (some c) fun d hd => ?_
    cases hd
    exact Step.isNamed_criterion? hs hreading

theorem isNamed_build {q q' : Query P} {steps : List (Step P)} (hsteps : ∀ s ∈ steps, s.IsNamed)
    (hq : ∀ c ∈ q.criteria, c.IsNamed) (h : q.build steps = .ok q') :
    ∀ c ∈ q'.criteria, c.IsNamed := by
  induction steps generalizing q with
  | nil =>
    cases h
    exact hq
  | cons s rest ih =>
    obtain ⟨hs, hrest⟩ := List.forall_mem_cons.mp hsteps
    rw [build_cons] at h
    obtain ⟨next, hnext, hbuild⟩ := Except.bind_eq_ok_iff.mp h
    exact ih hrest (isNamed_apply hs hq hnext) hbuild

end Query

/-- Serialized criteria list their labels and payloads in order. What was built from operators and
actions given by name, with scalar operands and with data without numbers, is equal if it is
serialized as equal JSON. -/
theorem Criteria.toJson_keeps_content :
    (∀ cs : Criteria, ∃ pairs, cs.toJson = .arr pairs ∧ pairs.length = cs.length ∧
      ∀ (i : Nat) (c : Criterion), cs[i]? = some c →
        pairs[i]? = some (.arr [.str c.label, c.payload])) ∧
    ∀ (p p' : Query P) (q q' : Query Q) (steps : List (Step P)) (others : List (Step Q)),
      (∀ c ∈ p.criteria, c.IsNamed) → (∀ c ∈ q.criteria, c.IsNamed) →
      (∀ s ∈ steps, s.IsNamed) → (∀ s ∈ others, s.IsNamed) →
      p.build steps = .ok p' → q.build others = .ok q' →
      (∀ c ∈ p'.criteria, c.IsPlain) → (∀ c ∈ q'.criteria, c.IsPlain) →
      Json.same (Criteria.toJson p'.criteria) (Criteria.toJson q'.criteria) = true →
      (p'.criteria == q'.criteria) = true := by
  refine ⟨toJson_eq_pairs, ?_⟩
  intro p p' q q' steps others hp hq hsteps hothers hbuild hbuild' hplain hplain' hjson
  have hnamed := Query.isNamed_build hsteps hp hbuild
  have hnamed' := Query.isNamed_build hothers hq hbuild'
  exact beq_of_toJson (fun c hc => ⟨hnamed c hc, hplain c hc⟩)
    (fun c hc => ⟨hnamed' c hc, hplain' c hc⟩) hjson

/-! ## Two ways to one list -/

def zeroSteps : List (Step Plugins.trivial) :=
  [.start "user", .constrain "age" (.ofName "in") (.float ⟨0⟩),
    .action (.ofLabel "create") (some (.list [.text "ada", .list []]))]

/-- Another name of the operator, and the other zero. -/
def otherZeroSteps : List (Step Plugins.trivial) :=
  [.limit 3, .reset, .start "user", .whereAttr "user.age",
    .compare (.ofName "contains") (.float ⟨0x8000000000000000⟩),
    .action (.ofLabel "create") (some (.list [.text "ada", .list []]))]

def zeroCriteria (zero : Binary64) : Criteria :=
  [.start ⟨none, "user"⟩, .constraint ⟨⟨"memory", "user", "age", false⟩, .within, .float zero⟩,
    .action ⟨.create, some [.text "ada", .list []]⟩]

theorem zeroCriteria_beq :
    (zeroCriteria ⟨0⟩ == zeroCriteria ⟨0x8000000000000000⟩) = true := by
  have hsteps : ∀ s ∈ zeroSteps, s.IsNamed := by
    intro s hs
    rcases hs with _ | ⟨_, _ | ⟨_, _ | ⟨_, ⟨⟩⟩⟩⟩
    · trivial
    · exact ⟨"in", rfl⟩
    · exact ⟨"create", rfl⟩
  have hothers : ∀ s ∈ otherZeroSteps, s.IsNamed := by
    intro s hs
    rcases hs with _ | ⟨_, _ | ⟨_, _ | ⟨_, _ | ⟨_, _ | ⟨_, _ | ⟨_, ⟨⟩⟩⟩⟩⟩⟩⟩
    · trivial
    · trivial
    · trivial
    · trivial
    · exact ⟨"contains", rfl⟩
    · exact ⟨"create", rfl⟩
  have hplain : ∀ zero : Binary64, zero.isFinite = true →
      ∀ c ∈ zeroCriteria zero, c.IsPlain := by
    intro zero hzero c hc
    rcases hc with _ | ⟨_, _ | ⟨_, _ | ⟨_, ⟨⟩⟩⟩⟩
    · trivial
    · exact hzero
    · rintro records ⟨⟩ v hv
      rcases hv with _ | ⟨_, _ | ⟨_, ⟨⟩⟩⟩ <;> rfl
  let fresh : Query Plugins.trivial := {}
  have hbuild : fresh.build zeroSteps =
      .ok { criteria := zeroCriteria ⟨0⟩, scope := some "user" } := rfl
  have hbuild' : fresh.build otherZeroSteps =
      .ok { criteria := zeroCriteria ⟨0x8000000000000000⟩, scope := some "user",
            active := some "user.age" } := rfl
  have hjson : Json.same (zeroCriteria ⟨0⟩).toJson
      (zeroCriteria ⟨0x8000000000000000⟩).toJson = true := rfl
  exact Criteria.toJson_keeps_content.2 fresh _ fresh _ zeroSteps otherZeroSteps nofun nofun
    hsteps hothers hbuild hbuild' (hplain _ rfl) (hplain _ rfl) hjson

end QueryLayer

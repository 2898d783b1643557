import QueryLayer.Proofs.LooseEquality

/-! # How far numbers widen

Loose equality compares numbers as numbers wherever lists alone lead to them, and kind by kind
inside maps. So it extends equality kind by kind, from which it differs only where lists lead to a
number, and it does not see the kind of an integer exactly at those places.
-/

set_option autoImplicit false

namespace QueryLayer.Value

/-! ## Equality kind by kind -/

theorem looseEq_of_same {a b : Value} (h : same a b = true) : looseEq a b = true := by
  induction a using Value.induction generalizing b with
  | int n =>
    cases eq_of_same h nofun nofun nofun
    exact (looseEq_self_iff _).mpr rfl
  | uint n =>
    cases eq_of_same h nofun nofun nofun
    exact (looseEq_self_iff _).mpr rfl
  | float x =>
    cases b with
    | float y =>
      rw [looseEq_of_numbers rfl rfl, Number.compare?_float_iff (.inl rfl)]
      exact h
    | _ => cases h
  | list xs ih =>
    cases b with
    | list ys =>
      exact looseEq_list_iff.mpr (forall₂_imp (same_list_iff.mp h) fun x hx y _ => ih x hx)
    | _ => cases h
  | _ =>
    rw [looseEq_eq_same (.inl rfl) (.inl rfl)]
    exact h

inductive ListsNumber : Value → Prop where
  | here {a : Value} : a.isNumeric = true → ListsNumber a
  | item {items : List Value} {a : Value} : a ∈ items → ListsNumber a → ListsNumber (.list items)

theorem same_of_looseEq {a b : Value} (hnone : ¬ ListsNumber a) (h : looseEq a b = true) :
    same a b = true := by
  induction a using Value.induction generalizing b with
  | int n => exact absurd (.here rfl) hnone
  | uint n => exact absurd (.here rfl) hnone
  | float x => exact absurd (.here rfl) hnone
  | list xs ih =>
    cases b with
    | list ys =>
      refine same_list_iff.mpr (forall₂_imp (looseEq_list_iff.mp h) fun x hx y _ => ?_)
      exact ih x hx fun hnumber => hnone (.item hx hnumber)
    | _ => cases h
  | _ =>
    rw [looseEq_eq_same (.inl rfl) (.inl rfl)] at h
    exact h

/-- Loose equality extends equality kind by kind, and agrees with it where lists lead to no
number. -/
theorem looseEq_extends_same :
    (∀ a b, same a b = true → looseEq a b = true) ∧
    (∀ a b, ¬ ListsNumber a → (looseEq a b = true ↔ same a b = true)) ∧
    ∀ items x, (∃ item ∈ items, same item x = true) → includes (.list items) x = true := by
  refine ⟨fun a b => looseEq_of_same, fun a b hnone => ⟨same_of_looseEq hnone, looseEq_of_same⟩, ?_⟩
  rintro items x ⟨item, hitem, hsame⟩
  exact List.any_eq_true.mpr ⟨item, hitem, looseEq_of_same hsame⟩

theorem looseEq_of_zeros :
    let zero : Binary64 := ⟨0⟩
    let negativeZero : Binary64 := ⟨0x8000000000000000⟩
    looseEq (.list [.float zero, .map [("x", .float zero)]])
        (.list [.float negativeZero, .map [("x", .float negativeZero)]]) = true ∧
      looseEq (.list [.map [("x", .float zero)]]) (.list [.map [("x", .int 0)]]) = false ∧
      includes (.list [.null, .float zero]) (.float negativeZero) = true := by
  intro zero negativeZero
  obtain ⟨hextends, hagrees, hincludes⟩ := looseEq_extends_same
  refine ⟨hextends _ _ (by decide), ?_, hincludes _ _ ⟨.float zero, by simp, by decide⟩⟩
  have hnone : ¬ ListsNumber (.list [.map [("x", .float zero)]]) := by
    rintro (hlist | ⟨hitem, hnumber⟩)
    · cases hlist
    · cases List.mem_singleton.mp hitem
      rcases hnumber with hmap | _
      cases hmap
  rw [Bool.eq_false_iff, Ne, hagrees _ _ hnone]
  decide

/-! ## The kinds of integers -/

inductive Reach where
  | lists
  | anywhere

/-- The second value is the first with some integers, within reach, in the other kind. -/
inductive Rekinded (reach : Reach) : Value → Value → Prop where
  | refl (v : Value) : Rekinded reach v v
  | integer {v w : Value} {n : Int} :
    v.number? = some (.whole n) → w.number? = some (.whole n) → Rekinded reach v w
  | list {xs ys : List Value} :
    List.Forall₂ (Rekinded reach) xs ys → Rekinded reach (.list xs) (.list ys)
  | map {xs ys : List (String × Value)} : reach = .anywhere → Entries.keys xs = Entries.keys ys →
    List.Forall₂ (Rekinded reach) (xs.map Prod.snd) (ys.map Prod.snd) →
    Rekinded reach (.map xs) (.map ys)

theorem Rekinded.of_list {reach : Reach} {xs : List Value} {w : Value}
    (h : Rekinded reach (.list xs) w) :
    ∃ ys, w = .list ys ∧ List.Forall₂ (Rekinded reach) xs ys := by
  cases h with
  | refl => exact ⟨xs, rfl, List.forall₂_same.mpr fun x _ => .refl x⟩
  | integer hv _ => cases hv
  | list hitems => exact ⟨_, rfl, hitems⟩

theorem Rekinded.of_map {reach : Reach} {xs : List (String × Value)} {w : Value}
    (h : Rekinded reach (.map xs) w) :
    w = .map xs ∨ ∃ ys, w = .map ys ∧ reach = .anywhere ∧ Entries.keys xs = Entries.keys ys ∧
      List.Forall₂ (fun x y => Rekinded reach x.2 y.2) xs ys := by
  cases h with
  | refl => exact .inl rfl
  | integer hv _ => cases hv
  | map hreach hkeys hvalues =>
    rw [List.forall₂_map_left_iff, List.forall₂_map_right_iff] at hvalues
    exact .inr ⟨_, rfl, hreach, hkeys, hvalues⟩

theorem Rekinded.symm {reach : Reach} {v w : Value} (h : Rekinded reach v w) :
    Rekinded reach w v := by
  induction v using Value.induction generalizing w with
  | list xs ih =>
    obtain ⟨ys, rfl, hitems⟩ := h.of_list
    exact .list (forall₂_swap hitems fun x hx y => ih x hx)
  | map xs ih =>
    rcases h.of_map with rfl | ⟨ys, rfl, hreach, hkeys, hvalues⟩
    · exact .refl _
    · refine .map hreach hkeys.symm ?_
      rw [List.forall₂_map_left_iff, List.forall₂_map_right_iff]
      exact forall₂_swap hvalues fun x hx y => ih x hx
  | _ =>
    cases h with
    | refl => exact .refl _
    | integer hv hw => exact .integer hw hv

theorem looseEq_of_rekinded {a v w : Value} (h : Rekinded .lists v w)
    (hav : looseEq a v = true) : looseEq a w = true := by
  induction v using Value.induction generalizing a w with
  | list xs ih =>
    obtain ⟨ys, rfl, hitems⟩ := h.of_list
    cases a with
    | list zs =>
      refine looseEq_list_iff.mpr (forall₂_trans (looseEq_list_iff.mp hav) hitems ?_)
      intro i z x y _ hx _ hzx hxy
      exact ih x (List.mem_of_getElem? hx) hxy hzx
    | _ => cases hav
  | map xs ih =>
    rcases h.of_map with rfl | ⟨ys, rfl, hreach, -⟩
    · exact hav
    · cases hreach
  | _ =>
    cases h with
    | refl => exact hav
    | integer hv hw =>
      obtain ⟨k, ha, hk⟩ := exists_number_of_looseEq hv (looseEq_symm hav)
      exact looseEq_symm ((looseEq_of_numbers hw ha).mpr hk)

theorem Rekinded.looseEq_eq {v w : Value} (h : Rekinded .lists v w) (a : Value) :
    looseEq a v = looseEq a w := by
  rw [Bool.eq_iff_iff]
  exact ⟨looseEq_of_rekinded h, looseEq_of_rekinded h.symm⟩

theorem Rekinded.eq_of_same {reach : Reach} {v w : Value} (h : Rekinded reach v w)
    (hsame : same v w = true) : v = w := by
  induction v using Value.induction generalizing w with
  | float x =>
    cases h with
    | refl => rfl
    | integer hv _ => cases hv
  | list xs ih =>
    obtain ⟨ys, rfl, hitems⟩ := h.of_list
    have heach := forall₂_imp hitems fun x hx y _ => ih x hx
    have heq := List.Forall₂.mp (fun _ _ hstep => hstep) heach (same_list_iff.mp hsame)
    rw [List.forall₂_eq_eq_eq] at heq
    rw [heq]
  | map xs ih =>
    rcases h.of_map with rfl | ⟨ys, rfl, -, -, hvalues⟩
    · rfl
    · have heach := forall₂_imp hvalues fun x hx y _ => ih x hx
      have heq : List.Forall₂ (fun x y => x = y) xs ys :=
        List.Forall₂.mp (fun _ _ hstep hentry => Prod.ext hentry.1 (hstep hentry.2)) heach
          (same_map_iff.mp hsame)
      rw [List.forall₂_eq_eq_eq] at heq
      rw [heq]
  | _ => exact Value.eq_of_same hsame nofun nofun nofun

/-- Loosely equal values with integers in different kinds have them where lists alone lead. -/
theorem Rekinded.within_lists {v w : Value} (h : Rekinded .anywhere v w)
    (heq : looseEq v w = true) : Rekinded .lists v w := by
  induction v using Value.induction generalizing w with
  | list xs ih =>
    obtain ⟨ys, rfl, hitems⟩ := h.of_list
    have heach := forall₂_imp hitems fun x hx y _ => ih x hx
    exact .list (List.Forall₂.mp (fun _ _ hstep => hstep) heach (looseEq_list_iff.mp heq))
  | map xs ih =>
    rw [looseEq_eq_same (.inl rfl) (.inl rfl)] at heq
    rw [h.eq_of_same heq]
    exact .refl _
  | _ =>
    cases h with
    | refl => exact .refl _
    | integer hv hw => exact .integer hv hw

theorem hasNaN_of_integer {v : Value} {n : Int} (h : v.number? = some (.whole n)) :
    v.hasNaN = false := by
  cases v <;> first | rfl | cases h

theorem Rekinded.hasNaN_eq_false {reach : Reach} {v w : Value} (h : Rekinded reach v w)
    (hv : v.hasNaN = false) : w.hasNaN = false := by
  induction v using Value.induction generalizing w with
  | list xs ih =>
    obtain ⟨ys, rfl, hitems⟩ := h.of_list
    rw [hasNaN, anyLeaf_list_eq_false_iff] at hv ⊢
    exact ((List.forall₂_and_left _ _).mp
      (forall₂_swap hitems fun x hx y hxy => ⟨ih x hx hxy (hv x hx), hxy⟩)).1
  | map xs ih =>
    rcases h.of_map with rfl | ⟨ys, rfl, -, -, hvalues⟩
    · exact hv
    · rw [hasNaN, anyLeaf_map_eq_false_iff] at hv ⊢
      exact ((List.forall₂_and_left _ _).mp
        (forall₂_swap hvalues fun x hx y hxy => ⟨ih x hx hxy (hv x hx), hxy⟩)).1
  | _ =>
    cases h with
    | refl => exact hv
    | integer _ hw => exact hasNaN_of_integer hw

theorem Rekinded.hasNaN_eq {reach : Reach} {v w : Value} (h : Rekinded reach v w) :
    v.hasNaN = w.hasNaN := by
  have hfalse : v.hasNaN = false ↔ w.hasNaN = false :=
    ⟨h.hasNaN_eq_false, h.symm.hasNaN_eq_false⟩
  rwa [Bool.eq_iff_iff, ← not_iff_not, Bool.not_eq_true, Bool.not_eq_true]

theorem Bridged.ne {a b c : Value} (h : Bridged a b c) : a ≠ c := by
  induction h with
  | number x ha hc hne =>
    rintro rfl
    cases ha.symm.trans hc
    exact hne rfl
  | item i hx hy hz _ ih =>
    intro heq
    cases heq
    exact ih (Option.some.inj (hx.symm.trans hz))

/-- A value with NaN in it is loosely equal to nothing. -/
theorem hasNaN_of_looseEq {a b : Value} (h : looseEq a b = true) : b.hasNaN = false := by
  rw [← looseEq_self_iff]
  exact looseEq_trans (looseEq_symm h) h fun hbridged => hbridged.ne rfl

theorem includes_of_hasNaN {v : Value} (h : v.hasNaN = true) (items : List Value) :
    includes (.list items) v = false := by
  rw [includes, List.any_eq_false]
  intro item _ heq
  rw [hasNaN_of_looseEq heq] at h
  cases h

/-- Loose equality and membership in a list do not see the kinds of integers to which lists alone
lead, and see every other change of kind. -/
theorem looseEq_rekinded_iff {v w : Value} (h : Rekinded .anywhere v w) :
    (looseEq v w = true ↔ v.hasNaN = false ∧ Rekinded .lists v w) ∧
    ((∀ items, includes (.list items) v = includes (.list items) w) ↔
      v.hasNaN = true ∨ Rekinded .lists v w) := by
  constructor
  · constructor
    · intro heq
      exact ⟨hasNaN_of_looseEq (looseEq_symm heq), h.within_lists heq⟩
    · rintro ⟨hnan, hlists⟩
      rw [← hlists.looseEq_eq, looseEq_self_iff]
      exact hnan
  · constructor
    · intro hall
      by_cases hnan : v.hasNaN = true
      · exact .inl hnan
      · have hself : looseEq v v = true := (looseEq_self_iff v).mpr (Bool.eq_false_iff.mpr hnan)
        have hsingle := hall [v]
        simp only [includes, List.any_cons, List.any_nil, Bool.or_false, hself] at hsingle
        exact .inr (h.within_lists hsingle.symm)
    · rintro (hnan | hlists) items
      · rw [includes_of_hasNaN hnan, includes_of_hasNaN (h.hasNaN_eq ▸ hnan)]
      · simp only [includes, hlists.looseEq_eq]

theorem looseEq_rekinded_items :
    let record : Value := .map [("age", .int 5)]
    let v : Value := .list [.int 5, record, .list [.uint 7]]
    let w : Value := .list [.uint 5, record, .list [.int 7]]
    looseEq v w = true ∧ ∀ items, includes (.list items) v = includes (.list items) w := by
  intro record v w
  have hkinds : ∀ reach, Rekinded reach v w := fun reach =>
    .list (.cons (.integer rfl rfl) (.cons (.refl _)
      (.cons (.list (.cons (.integer rfl rfl) .nil)) .nil)))
  obtain ⟨heq, hincludes⟩ := looseEq_rekinded_iff (hkinds .anywhere)
  exact ⟨heq.mpr ⟨rfl, hkinds .lists⟩, hincludes.mpr (.inr (hkinds .lists))⟩

theorem looseEq_rekinded_entry :
    let v : Value := .map [("age", .int 5)]
    let w : Value := .map [("age", .uint 5)]
    Rekinded .anywhere v w ∧ v.hasNaN = false ∧ looseEq v w = false ∧
      includes (.list [v]) v = true ∧ includes (.list [v]) w = false := by
  refine ⟨.map rfl rfl (.cons (.integer rfl rfl) .nil), ?_⟩
  decide

end QueryLayer.Value

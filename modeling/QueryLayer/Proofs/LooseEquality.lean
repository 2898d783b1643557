import QueryLayer.Proofs.IntegerDoubles
import QueryLayer.Proofs.ValueEquality
import QueryLayer.Value.Compare

/-! # Loose equality

Integers are compared exactly, and rounded only where the other side is a double. So loose equality
is symmetric, and reflexive where no double is NaN, but a double between two integers may be equal
to both of them; that is the only way in which it fails to be transitive.
-/

set_option autoImplicit false

namespace QueryLayer

theorem Binary64.compare?_swap (x y : Binary64) :
    y.compare? x = (x.compare? y).map Ordering.swap := by
  cases hx : x.isNaN <;> cases hy : y.isNaN <;> simp [compare?, hx, hy]
  exact Std.OrientedCmp.eq_swap

namespace Number

theorem compare?_whole_iff {m n : Int} :
    (whole m).compare? (whole n) = some .eq ↔ m = n := by
  simp [compare?]

theorem compare?_of_float {x y : Number} {u : Binary64} (h : x = .float u ∨ y = .float u) :
    x.compare? y = x.toBinary64.compare? y.toBinary64 := by
  rcases h with rfl | rfl
  · rfl
  · cases x <;> rfl

theorem compare?_float_iff {x y : Number} {u : Binary64} (h : x = .float u ∨ y = .float u) :
    x.compare? y = some .eq ↔ x.toBinary64.same y.toBinary64 = true := by
  rw [compare?_of_float h, Binary64.same, beq_iff_eq]

theorem compare?_swap (x y : Number) : y.compare? x = (x.compare? y).map Ordering.swap := by
  cases x with
  | whole m =>
    cases y with
    | whole n => exact congrArg some Std.OrientedCmp.eq_swap
    | float v => exact Binary64.compare?_swap _ _
  | float u =>
    rw [compare?_of_float (.inl rfl), compare?_of_float (.inr rfl)]
    exact Binary64.compare?_swap _ _

theorem compare?_eq_symm {x y : Number} (h : x.compare? y = some .eq) :
    y.compare? x = some .eq := by
  rw [compare?_swap, h]
  rfl

/-- Only a double between two integers can be equal to both without their being equal. -/
theorem compare?_eq_trans {x y z : Number} (hxy : x.compare? y = some .eq)
    (hyz : y.compare? z = some .eq)
    (h : ∀ m v n, x = .whole m → y = .float v → z = .whole n → m = n) :
    x.compare? z = some .eq := by
  cases y with
  | whole k =>
    cases x with
    | whole m => rwa [compare?_whole_iff.mp hxy]
    | float u =>
      cases z with
      | whole n => rwa [← compare?_whole_iff.mp hyz]
      | float w =>
        have hx := (compare?_float_iff (.inl rfl)).mp hxy
        have hz := (compare?_float_iff (.inr rfl)).mp hyz
        exact (compare?_float_iff (.inl rfl)).mpr (Binary64.same_trans hx hz)
  | float v =>
    have hx := (compare?_float_iff (.inr rfl)).mp hxy
    have hz := (compare?_float_iff (.inl rfl)).mp hyz
    have hsame := Binary64.same_trans hx hz
    cases x with
    | float u => exact (compare?_float_iff (.inl rfl)).mpr hsame
    | whole m =>
      cases z with
      | float w => exact (compare?_float_iff (.inr rfl)).mpr hsame
      | whole n => exact compare?_whole_iff.mpr (h m v n rfl rfl rfl)

end Number

namespace Value

theorem looseEq_list_iff {xs ys : List Value} :
    looseEq (.list xs) (.list ys) = true ↔ List.Forall₂ (fun x y => looseEq x y = true) xs ys := by
  rw [looseEq]
  exact iff_forall₂ rfl (fun _ _ => rfl) (fun _ _ => rfl) (fun _ _ _ _ => rfl) xs ys

theorem looseEq_eq_getD {a b : Value} (h : a.list? = none ∨ b.list? = none) :
    looseEq a b = (numberEq? a b).getD (a.same b) := by
  cases a <;> cases b <;> first | rfl | simp [list?] at h

theorem list?_of_number? {a : Value} {m : Number} (h : a.number? = some m) : a.list? = none := by
  cases a <;> first | rfl | cases h

theorem same_eq_false_of_number? {a b : Value} {m : Number} (ha : a.number? = some m)
    (hb : b.number? = none) : a.same b = false := by
  cases a <;> cases b <;> first | rfl | simp [number?] at ha hb

theorem flat_of_same {a b : Value} (h : a.same b = true) (hnumber : a.number? = none)
    (hlist : a.list? = none) : b.number? = none ∧ b.list? = none := by
  cases a <;> cases b <;> first | exact ⟨rfl, rfl⟩ | simp [same, number?, list?] at h hnumber hlist

theorem looseEq_of_numbers {a b : Value} {m n : Number} (ha : a.number? = some m)
    (hb : b.number? = some n) : looseEq a b = true ↔ m.compare? n = some .eq := by
  rw [looseEq_eq_getD (.inl (list?_of_number? ha))]
  simp [numberEq?, ha, hb]

theorem looseEq_eq_same {a b : Value} (hnumber : a.number? = none ∨ b.number? = none)
    (hlist : a.list? = none ∨ b.list? = none) : looseEq a b = a.same b := by
  rw [looseEq_eq_getD hlist, numberEq?]
  rcases hnumber with h | h <;> simp [h]

theorem exists_number_of_looseEq {a b : Value} {m : Number} (ha : a.number? = some m)
    (h : looseEq a b = true) : ∃ n, b.number? = some n ∧ m.compare? n = some .eq := by
  cases hb : b.number? with
  | some n => exact ⟨n, rfl, (looseEq_of_numbers ha hb).mp h⟩
  | none =>
    rw [looseEq_eq_same (.inr hb) (.inl (list?_of_number? ha)),
      same_eq_false_of_number? ha hb] at h
    cases h

theorem looseEq_symm_of_number {a b : Value} {m : Number} (ha : a.number? = some m)
    (h : looseEq a b = true) : looseEq b a = true := by
  obtain ⟨n, hb, hmn⟩ := exists_number_of_looseEq ha h
  exact (looseEq_of_numbers hb ha).mpr (Number.compare?_eq_symm hmn)

theorem looseEq_symm {a b : Value} (h : looseEq a b = true) : looseEq b a = true := by
  induction a using Value.induction generalizing b with
  | int n => exact looseEq_symm_of_number rfl h
  | uint n => exact looseEq_symm_of_number rfl h
  | float x => exact looseEq_symm_of_number rfl h
  | list xs ih =>
    cases b with
    | list ys =>
      exact looseEq_list_iff.mpr (forall₂_swap (looseEq_list_iff.mp h) fun x hx y => ih x hx)
    | _ => cases h
  | _ =>
    rw [looseEq_eq_same (.inl rfl) (.inl rfl)] at h
    rw [looseEq_eq_same (.inr rfl) (.inr rfl)]
    exact same_symm h

theorem looseEq_self_of_number {a : Value} {m : Number} (ha : a.number? = some m) :
    looseEq a a = true ↔ hasNaN a = false := by
  rw [looseEq_of_numbers ha ha]
  cases a with
  | int n =>
    cases ha
    simp [Number.compare?_whole_iff, hasNaN, anyLeaf, isNaN]
  | uint n =>
    cases ha
    simp [Number.compare?_whole_iff, hasNaN, anyLeaf, isNaN]
  | float x =>
    cases ha
    rw [Number.compare?_float_iff (.inl rfl)]
    simp [Number.toBinary64, Binary64.same_self, hasNaN, anyLeaf, isNaN]
  | _ => cases ha

theorem looseEq_self_iff (a : Value) : looseEq a a = true ↔ hasNaN a = false := by
  induction a using Value.induction with
  | int n => exact looseEq_self_of_number rfl
  | uint n => exact looseEq_self_of_number rfl
  | float x => exact looseEq_self_of_number rfl
  | list items ih =>
    rw [looseEq_list_iff, List.forall₂_same, hasNaN, anyLeaf_list_eq_false_iff]
    exact forall₂_congr ih
  | _ =>
    rw [looseEq_eq_same (.inl rfl) (.inl rfl)]
    exact same_self_iff _

/-! ## A double between two integers -/

/-- At one place, reached through lists alone, the second value has a double and the others have
different integers. -/
inductive Bridged : Value → Value → Value → Prop where
  | number {a c : Value} {m n : Int} (x : Binary64) :
    a.number? = some (.whole m) → c.number? = some (.whole n) → m ≠ n → Bridged a (.float x) c
  | item {xs ys zs : List Value} {a b c : Value} (i : Nat) :
    xs[i]? = some a → ys[i]? = some b → zs[i]? = some c → Bridged a b c →
    Bridged (.list xs) (.list ys) (.list zs)

theorem Bridged.looseEq_eq_false {a b c : Value} (h : Bridged a b c) : looseEq a c = false := by
  induction h with
  | number x ha hc hne =>
    rw [Bool.eq_false_iff, Ne, looseEq_of_numbers ha hc, Number.compare?_whole_iff]
    exact hne
  | item i hx hy hz _ ih =>
    rw [Bool.eq_false_iff, Ne, looseEq_list_iff]
    intro hall
    rw [forall₂_getElem? hall hx hz] at ih
    cases ih

theorem looseEq_trans_of_number {a b c : Value} {m : Number} (ha : a.number? = some m)
    (hab : looseEq a b = true) (hbc : looseEq b c = true) (h : ¬ Bridged a b c) :
    looseEq a c = true := by
  obtain ⟨k, hb, hmk⟩ := exists_number_of_looseEq ha hab
  obtain ⟨n, hc, hkn⟩ := exists_number_of_looseEq hb hbc
  rw [looseEq_of_numbers ha hc]
  refine Number.compare?_eq_trans hmk hkn ?_
  rintro i v j rfl rfl rfl
  by_contra hne
  cases b with
  | float x => exact h (.number x ha hc hne)
  | _ => cases hb

theorem looseEq_trans {a b c : Value} (hab : looseEq a b = true) (hbc : looseEq b c = true)
    (h : ¬ Bridged a b c) : looseEq a c = true := by
  induction a using Value.induction generalizing b c with
  | int n => exact looseEq_trans_of_number rfl hab hbc h
  | uint n => exact looseEq_trans_of_number rfl hab hbc h
  | float x => exact looseEq_trans_of_number rfl hab hbc h
  | list xs ih =>
    cases b with
    | list ys =>
      cases c with
      | list zs =>
        refine looseEq_list_iff.mpr
          (forall₂_trans (looseEq_list_iff.mp hab) (looseEq_list_iff.mp hbc) ?_)
        intro i x y z hx hy hz hxy hyz
        have hnot : ¬ Bridged x y z := fun hxyz => h (.item i hx hy hz hxyz)
        exact ih x (List.mem_of_getElem? hx) hxy hyz hnot
      | _ => cases hbc
    | _ => cases hab
  | _ =>
    rw [looseEq_eq_same (.inl rfl) (.inl rfl)] at hab
    obtain ⟨hnumber, hlist⟩ := flat_of_same hab rfl rfl
    rw [looseEq_eq_same (.inl hnumber) (.inl hlist)] at hbc
    rw [looseEq_eq_same (.inl rfl) (.inl rfl)]
    exact same_trans hab hbc

theorem eq_of_looseEq_double {a c : Value} {x : Binary64} {m n : Int}
    (ha : a.number? = some (.whole m)) (hc : c.number? = some (.whole n))
    (hax : looseEq a (.float x) = true) (hxc : looseEq (.float x) c = true)
    (hm : m.natAbs ≤ 2 ^ 53) (hn : n.natAbs ≤ 2 ^ 53) : m = n := by
  rw [looseEq_of_numbers ha rfl, Number.compare?_float_iff (.inr rfl)] at hax
  rw [looseEq_of_numbers rfl hc, Number.compare?_float_iff (.inl rfl)] at hxc
  obtain ⟨-, -, hrank⟩ := Binary64.same_eq_true_iff.mp (Binary64.same_trans hax hxc)
  exact Binary64.eq_of_rank_ofInt_eq hm hn hrank

/-- Loose equality is an equivalence of the values without NaN, up to doubles that stand between
two integers of which at least one has more than 53 bits. -/
theorem looseEq_equivalence :
    (∀ a, looseEq a a = true ↔ a.hasNaN = false) ∧
    (∀ a b, looseEq a b = looseEq b a) ∧
    (∀ a b c, looseEq a b = true → looseEq b c = true →
      (looseEq a c = true ↔ ¬ Bridged a b c)) ∧
    ∀ a c x m n, looseEq a (.float x) = true → looseEq (.float x) c = true →
      a.number? = some (.whole m) → c.number? = some (.whole n) → m ≠ n →
      2 ^ 53 < m.natAbs ∨ 2 ^ 53 < n.natAbs := by
  refine ⟨looseEq_self_iff, ?_, ?_, ?_⟩
  · intro a b
    rw [Bool.eq_iff_iff]
    exact ⟨looseEq_symm, looseEq_symm⟩
  · intro a b c hab hbc
    refine ⟨fun hac hbridged => ?_, looseEq_trans hab hbc⟩
    rw [hbridged.looseEq_eq_false] at hac
    cases hac
  · intro a c x m n hax hxc ha hc hne
    by_contra hsmall
    rw [not_or, Nat.not_lt, Nat.not_lt] at hsmall
    exact hne (eq_of_looseEq_double ha hc hax hxc hsmall.1 hsmall.2)

theorem looseEq_fives :
    looseEq (.list [.int 5, .text "x"]) (.list [.uint 5, .text "x"]) = true ∧
    (2 ^ 53 < Int.natAbs 9007199254740993 ∨ 2 ^ 53 < Int.natAbs 9007199254740992) := by
  obtain ⟨-, -, htrans, hlarge⟩ := looseEq_equivalence
  constructor
  · have hint : looseEq (.list [.int 5, .text "x"])
        (.list [.float ⟨0x4014000000000000⟩, .text "x"]) = true := by rfl
    have huint : looseEq (.list [.float ⟨0x4014000000000000⟩, .text "x"])
        (.list [.uint 5, .text "x"]) = true := by rfl
    refine (htrans _ _ _ hint huint).mpr fun hbridged => ?_
    cases hbridged with
    | item i hx hy hz hitem =>
      match i with
      | 0 =>
        cases hx
        cases hy
        cases hz
        cases hitem with
        | number x hm hn hne =>
          cases hm
          cases hn
          exact hne rfl
      | 1 =>
        cases hy
        cases hitem
      | i + 2 => cases hx
  · exact hlarge (.int 9007199254740993) (.uint 9007199254740992) ⟨0x4340000000000000⟩ _ _
      rfl rfl rfl rfl (by decide)

theorem looseEq_not_transitive :
    let a : Value := .int 9007199254740993
    let b : Value := .float ⟨0x4340000000000000⟩
    let c : Value := .int 9007199254740992
    (a.hasNaN = false ∧ b.hasNaN = false ∧ c.hasNaN = false) ∧
      looseEq a b = true ∧ looseEq b c = true ∧ looseEq a c = false := by
  decide

end Value

end QueryLayer

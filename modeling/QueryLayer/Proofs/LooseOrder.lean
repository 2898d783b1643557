import QueryLayer.Proofs.LooseEquality

/-! # Loose order

Two numbers, two texts or two booleans have an order, and no other values have. Integers are
compared exactly, and rounded only where the other side is a double. Rounding may make different
integers equal but never turns them round, so the order is transitive across the kinds of numbers,
which equality is not.
-/

set_option autoImplicit false

namespace QueryLayer

namespace Number

theorem compare?_whole_eq_lt_iff {m n : Int} :
    (whole m).compare? (whole n) = some .lt ↔ m < n := by
  simp [compare?, Int.compare_eq_lt]

theorem compare?_float_eq_lt_iff {x y : Number} {u : Binary64} (h : x = .float u ∨ y = .float u) :
    x.compare? y = some .lt ↔
      x.toBinary64.isNaN = false ∧ y.toBinary64.isNaN = false ∧
        x.toBinary64.rank < y.toBinary64.rank := by
  rw [compare?_of_float h, Binary64.compare?_eq_some_iff, Int.compare_eq_lt]

theorem rank_le_of_compare? {x y : Number} (h : x.compare? y = some .lt) :
    x.toBinary64.isNaN = false ∧ y.toBinary64.isNaN = false ∧
      x.toBinary64.rank ≤ y.toBinary64.rank := by
  cases x with
  | whole m =>
    cases y with
    | whole n =>
      have hlt := compare?_whole_eq_lt_iff.mp h
      exact ⟨Binary64.isNaN_ofInt m, Binary64.isNaN_ofInt n,
        Binary64.rank_ofInt_mono (Int.le_of_lt hlt)⟩
    | float v =>
      obtain ⟨hx, hy, hlt⟩ := (compare?_float_eq_lt_iff (.inr rfl)).mp h
      exact ⟨hx, hy, Int.le_of_lt hlt⟩
  | float u =>
    obtain ⟨hx, hy, hlt⟩ := (compare?_float_eq_lt_iff (.inl rfl)).mp h
    exact ⟨hx, hy, Int.le_of_lt hlt⟩

/-- Numbers whose doubles are in strict order are so themselves. -/
theorem compare?_eq_lt_of_rank_lt {x y : Number} (hx : x.toBinary64.isNaN = false)
    (hy : y.toBinary64.isNaN = false) (h : x.toBinary64.rank < y.toBinary64.rank) :
    x.compare? y = some .lt := by
  cases x with
  | whole m =>
    cases y with
    | whole n =>
      rw [compare?_whole_eq_lt_iff]
      by_contra hnot
      have hle := Binary64.rank_ofInt_mono (Int.not_lt.mp hnot)
      exact absurd h (Int.not_lt.mpr hle)
    | float v => exact (compare?_float_eq_lt_iff (.inr rfl)).mpr ⟨hx, hy, h⟩
  | float u => exact (compare?_float_eq_lt_iff (.inl rfl)).mpr ⟨hx, hy, h⟩

theorem compare?_lt_trans {x y z : Number} (hxy : x.compare? y = some .lt)
    (hyz : y.compare? z = some .lt) : x.compare? z = some .lt := by
  obtain ⟨hx, -, hxyle⟩ := rank_le_of_compare? hxy
  obtain ⟨-, hz, hyzle⟩ := rank_le_of_compare? hyz
  -- with a double on one side a comparison is strict for the doubles, so one such comparison is
  -- enough; without any, all three numbers are integers
  cases y with
  | float v =>
    obtain ⟨-, -, hlt⟩ := (compare?_float_eq_lt_iff (.inr rfl)).mp hxy
    exact compare?_eq_lt_of_rank_lt hx hz (Int.lt_of_lt_of_le hlt hyzle)
  | whole k =>
    cases x with
    | float u =>
      obtain ⟨-, -, hlt⟩ := (compare?_float_eq_lt_iff (.inl rfl)).mp hxy
      exact compare?_eq_lt_of_rank_lt hx hz (Int.lt_of_lt_of_le hlt hyzle)
    | whole m =>
      cases z with
      | float w =>
        obtain ⟨-, -, hlt⟩ := (compare?_float_eq_lt_iff (.inr rfl)).mp hyz
        exact compare?_eq_lt_of_rank_lt hx hz (Int.lt_of_le_of_lt hxyle hlt)
      | whole n =>
        rw [compare?_whole_eq_lt_iff] at hxy hyz ⊢
        omega

end Number

namespace Value

theorem looseCompare?_of_number {a : Value} {m : Number} (ha : a.number? = some m) (b : Value) :
    looseCompare? a b = b.number?.bind m.compare? := by
  cases a <;> cases b <;> simp_all [number?, looseCompare?]

theorem looseCompare?_to_number {b : Value} {n : Number} (hb : b.number? = some n) (a : Value) :
    looseCompare? a b = a.number?.bind fun m => m.compare? n := by
  cases a <;> cases b <;> simp_all [number?, looseCompare?]

theorem looseCompare?_of_integers {a b : Value} {m n : Int} (ha : a.number? = some (.whole m))
    (hb : b.number? = some (.whole n)) : looseCompare? a b = some (compare m n) := by
  rw [looseCompare?_of_number ha, hb]
  rfl

theorem looseCompare?_swap_of_number {a : Value} {m : Number} (ha : a.number? = some m)
    (b : Value) : looseCompare? b a = (looseCompare? a b).map Ordering.swap := by
  rw [looseCompare?_of_number ha, looseCompare?_to_number ha]
  cases b.number? with
  | none => rfl
  | some n => exact Number.compare?_swap m n

theorem looseCompare?_swap (a b : Value) :
    looseCompare? b a = (looseCompare? a b).map Ordering.swap := by
  cases a with
  | int n => exact looseCompare?_swap_of_number rfl b
  | uint n => exact looseCompare?_swap_of_number rfl b
  | float x => exact looseCompare?_swap_of_number rfl b
  | text s =>
    cases b with
    | text t => exact congrArg some Std.OrientedCmp.eq_swap
    | _ => rfl
  | bool p =>
    cases b with
    | bool q => exact congrArg some Std.OrientedCmp.eq_swap
    | _ => rfl
  | _ => cases b <;> rfl

theorem looseCompare?_self {a : Value} {o : Ordering} (h : looseCompare? a a = some o) :
    o = .eq := by
  have hswap := looseCompare?_swap a a
  rw [h] at hswap
  cases o with
  | eq => rfl
  | lt => cases hswap
  | gt => cases hswap

theorem looseCompare?_trans_of_number {a b c : Value} {m : Number} (ha : a.number? = some m)
    (hab : looseCompare? a b = some .lt) (hbc : looseCompare? b c = some .lt) :
    looseCompare? a c = some .lt := by
  rw [looseCompare?_of_number ha] at hab ⊢
  obtain ⟨k, hb, hmk⟩ := Option.bind_eq_some_iff.mp hab
  rw [looseCompare?_of_number hb] at hbc
  obtain ⟨n, hc, hkn⟩ := Option.bind_eq_some_iff.mp hbc
  rw [hc]
  exact Number.compare?_lt_trans hmk hkn

theorem looseCompare?_trans {a b c : Value} (hab : looseCompare? a b = some .lt)
    (hbc : looseCompare? b c = some .lt) : looseCompare? a c = some .lt := by
  cases a with
  | int n => exact looseCompare?_trans_of_number rfl hab hbc
  | uint n => exact looseCompare?_trans_of_number rfl hab hbc
  | float x => exact looseCompare?_trans_of_number rfl hab hbc
  | text s =>
    cases b with
    | text t =>
      cases c with
      | text u =>
        have hlt := Std.TransCmp.lt_trans (Option.some.inj hab) (Option.some.inj hbc)
        exact congrArg some hlt
      | _ => cases hbc
    | _ => cases hab
  | bool p =>
    cases b with
    | bool q =>
      cases c with
      | bool r =>
        have hlt := Std.TransCmp.lt_trans (Option.some.inj hab) (Option.some.inj hbc)
        exact congrArg some hlt
      | _ => cases hbc
    | _ => cases hab
  | _ => cases b <;> cases hab

/-- The loose order is a strict order on all values, and on integers it is theirs. -/
theorem looseCompare?_strictOrder :
    (∀ a b m n, a.number? = some (.whole m) → b.number? = some (.whole n) →
      looseCompare? a b = some (compare m n)) ∧
    (∀ a b, looseCompare? b a = (looseCompare? a b).map Ordering.swap) ∧
    (∀ a, looseCompare? a a ≠ some .lt ∧ looseCompare? a a ≠ some .gt) ∧
    ∀ a b c, looseCompare? a b = some .lt → looseCompare? b c = some .lt →
      looseCompare? a c = some .lt := by
  refine ⟨fun a b m n => looseCompare?_of_integers, looseCompare?_swap, fun a => ⟨?_, ?_⟩,
    fun a b c => looseCompare?_trans⟩
  · intro h
    cases looseCompare?_self h
  · intro h
    cases looseCompare?_self h

/-- An odd integer of 54 bits, the double after it and the greatest integer there is. -/
theorem looseCompare?_ascending :
    let odd : Value := .int 9007199254740993
    let next : Value := .float ⟨0x4340000000000001⟩
    let greatest : Value := .uint 18446744073709551615
    looseCompare? odd next = some .lt ∧ looseCompare? next greatest = some .lt ∧
      looseCompare? odd greatest = some .lt ∧ looseCompare? greatest (.int (-1)) = some .gt := by
  intro odd next greatest
  obtain ⟨hexact, -, -, htrans⟩ := looseCompare?_strictOrder
  have hnext : looseCompare? odd next = some .lt := by decide
  have hgreatest : looseCompare? next greatest = some .lt := by decide
  refine ⟨hnext, hgreatest, htrans odd next greatest hnext hgreatest, ?_⟩
  exact hexact greatest (.int (-1)) 18446744073709551615 (-1) rfl rfl

end Value

end QueryLayer

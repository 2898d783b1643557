import Mathlib.Algebra.Group.Nat.Defs
import Mathlib.Tactic.SplitIfs
import QueryLayer.Binary64

/-! # Integers as doubles

The double of an integer is a number or an infinity of its sign. Rounding starts beyond 53 bits: up
to there no two integers become the same double. It keeps the order of the integers throughout.
-/

set_option autoImplicit false

namespace QueryLayer.Binary64

theorem nearestMagnitude_le (n : Nat) : nearestMagnitude n ≤ infinityBits := by
  rw [nearestMagnitude]
  split
  · exact Nat.zero_le _
  · exact Nat.min_le_left _ _

theorem toNat_bits_ofInt (n : Int) :
    (ofInt n).bits.toNat =
      if n < 0 then signBit + nearestMagnitude n.natAbs else nearestMagnitude n.natAbs := by
  have hle := nearestMagnitude_le n.natAbs
  have hsmall : (if n < 0 then signBit + nearestMagnitude n.natAbs
      else nearestMagnitude n.natAbs) < 2 ^ 64 := by
    simp only [infinityBits, signBit] at hle ⊢
    split <;> omega
  rw [ofInt, UInt64.toNat_ofNat', Nat.mod_eq_of_lt hsmall]

theorem magnitude_ofInt (n : Int) : (ofInt n).magnitude = nearestMagnitude n.natAbs := by
  have hle := nearestMagnitude_le n.natAbs
  rw [magnitude, toNat_bits_ofInt]
  simp only [infinityBits, signBit] at hle ⊢
  split <;> omega

theorem isNaN_ofInt (n : Int) : (ofInt n).isNaN = false := by
  have hle := nearestMagnitude_le n.natAbs
  simpa [isNaN, magnitude_ofInt] using hle

theorem rank_ofInt (n : Int) :
    (ofInt n).rank =
      if n < 0 then -(nearestMagnitude n.natAbs : Int) else nearestMagnitude n.natAbs := by
  have hle := nearestMagnitude_le n.natAbs
  have hnegative : (ofInt n).isNegative = decide (n < 0) := by
    rw [isNegative, toNat_bits_ofInt]
    simp only [infinityBits, signBit] at hle ⊢
    split
    · simp_all
    · simp_all
      omega
  rw [rank, hnegative, magnitude_ofInt]
  simp

theorem scaled_lt (n : Nat) (h : n.log2 ≤ 52) : n * 2 ^ (52 - n.log2) < 2 ^ 53 := by
  have hlt := Nat.mul_lt_mul_of_pos_right (Nat.lt_log2_self (n := n))
    (Nat.two_pow_pos (52 - n.log2))
  rwa [← Nat.pow_add, show n.log2 + 1 + (52 - n.log2) = 53 by omega] at hlt

theorem le_scaled {n : Nat} (hpos : 0 < n) (h : n.log2 ≤ 52) :
    2 ^ 52 ≤ n * 2 ^ (52 - n.log2) := by
  have hle := Nat.mul_le_mul_right (2 ^ (52 - n.log2)) (Nat.log2_self_le (Nat.ne_of_gt hpos))
  rwa [← Nat.pow_add, show n.log2 + (52 - n.log2) = 52 by omega] at hle

theorem significand_of_log2_le {n : Nat} (h : n.log2 ≤ 52) :
    significand n = n * 2 ^ (52 - n.log2) := by
  rw [significand, if_pos h, Nat.shiftLeft_eq]

/-- Up to 53 bits the significand is the number moved up, which loses nothing. -/
theorem nearestMagnitude_of_lt {n : Nat} (hpos : 0 < n) (hlt : n < 2 ^ 53) :
    n.log2 ≤ 52 ∧
      nearestMagnitude n = (n.log2 + 1022) * 2 ^ 52 + n * 2 ^ (52 - n.log2) := by
  have hlog : n.log2 < 53 := (Nat.log2_lt (Nat.ne_of_gt hpos)).mpr hlt
  have hsignificand := significand_of_log2_le (n := n) (by omega)
  have hscaled := scaled_lt n (by omega)
  have hfinite : (n.log2 + 1022) * 2 ^ 52 + n * 2 ^ (52 - n.log2) ≤ infinityBits := by
    simp only [infinityBits]
    omega
  refine ⟨by omega, ?_⟩
  rw [nearestMagnitude, if_neg (Nat.ne_of_gt hpos), hsignificand, Nat.shiftLeft_eq,
    Nat.min_eq_right hfinite]

theorem nearestMagnitude_pos {n : Nat} (hpos : 0 < n) (hle : n ≤ 2 ^ 53) :
    0 < nearestMagnitude n := by
  rcases Nat.lt_or_eq_of_le hle with hlt | rfl
  · obtain ⟨-, heq⟩ := nearestMagnitude_of_lt hpos hlt
    omega
  · decide

theorem nearestMagnitude_lt {m n : Nat} (hmn : m < n) (hn : n ≤ 2 ^ 53) :
    nearestMagnitude m < nearestMagnitude n := by
  rcases Nat.eq_zero_or_pos m with rfl | hm
  · exact nearestMagnitude_pos hmn hn
  obtain ⟨hmlog, hmeq⟩ := nearestMagnitude_of_lt hm (by omega)
  have hmscaled := scaled_lt m hmlog
  rcases Nat.lt_or_eq_of_le hn with hlt | rfl
  · obtain ⟨hnlog, hneq⟩ := nearestMagnitude_of_lt (by omega) hlt
    have hnscaled := le_scaled (by omega) hnlog
    have hlog : m.log2 ≤ n.log2 := by
      have hself := Nat.log2_self_le (Nat.ne_of_gt hm)
      exact (Nat.le_log2 (by omega)).mpr (by omega)
    rw [hmeq, hneq]
    rcases Nat.lt_or_eq_of_le hlog with hless | hsame
    · omega
    · rw [hsame]
      have hmul := Nat.mul_lt_mul_of_pos_right hmn (Nat.two_pow_pos (52 - n.log2))
      omega
  · have htop : nearestMagnitude (2 ^ 53) = 1076 * 2 ^ 52 := by decide
    omega

/-- Two integers that become one double are equal, or one of them has more than 53 bits. -/
theorem eq_of_rank_ofInt_eq {m n : Int} (hm : m.natAbs ≤ 2 ^ 53) (hn : n.natAbs ≤ 2 ^ 53)
    (h : (ofInt m).rank = (ofInt n).rank) : m = n := by
  have hzero : nearestMagnitude 0 = 0 := rfl
  have hmagnitude : nearestMagnitude m.natAbs = nearestMagnitude n.natAbs := by
    rw [rank_ofInt, rank_ofInt] at h
    split at h <;> split at h <;> omega
  have habs : m.natAbs = n.natAbs := by
    rcases Nat.lt_trichotomy m.natAbs n.natAbs with hlt | heq | hlt
    · have := nearestMagnitude_lt hlt hn
      omega
    · exact heq
    · have := nearestMagnitude_lt hlt hm
      omega
  rcases Nat.eq_zero_or_pos m.natAbs with hzero | hpos
  · omega
  · -- equal magnitudes that are not zero leave no room for different signs
    have hpositive := nearestMagnitude_pos hpos hm
    rw [rank_ofInt, rank_ofInt] at h
    split at h <;> split at h <;> omega

/-! ## Order -/

theorem roundShift_bounds (n s : Nat) :
    n / 2 ^ s ≤ roundShift n s ∧ roundShift n s ≤ n / 2 ^ s + 1 := by
  simp only [roundShift, Nat.shiftLeft_eq, Nat.one_mul]
  split
  · omega
  · split <;> omega

theorem roundShift_mono {m n : Nat} (h : m ≤ n) (s : Nat) : roundShift m s ≤ roundShift n s := by
  rcases Nat.lt_or_eq_of_le (Nat.div_le_div_right (c := 2 ^ s) h) with hlt | hquotient
  · have hm := (roundShift_bounds m s).2
    have hn := (roundShift_bounds n s).1
    omega
  · -- with one quotient the remainders are in the order of the numbers, and so is the rounding
    have hm := Nat.div_add_mod m (2 ^ s)
    have hn := Nat.div_add_mod n (2 ^ s)
    rw [hquotient] at hm
    have hremainder : m % 2 ^ s ≤ n % 2 ^ s := by omega
    simp only [roundShift, Nat.shiftLeft_eq, Nat.one_mul, hquotient]
    split_ifs <;> omega

theorem significand_bounds {n : Nat} (hpos : 0 < n) :
    2 ^ 52 ≤ significand n ∧ significand n ≤ 2 ^ 53 := by
  by_cases h : n.log2 ≤ 52
  · rw [significand_of_log2_le h]
    exact ⟨le_scaled hpos h, Nat.le_of_lt (scaled_lt n h)⟩
  · rw [significand, if_neg h]
    obtain ⟨hle, hge⟩ := roundShift_bounds n (n.log2 - 52)
    have hlow : 2 ^ 52 ≤ n / 2 ^ (n.log2 - 52) := by
      rw [Nat.le_div_iff_mul_le (Nat.two_pow_pos _), ← Nat.pow_add,
        show 52 + (n.log2 - 52) = n.log2 by omega]
      exact Nat.log2_self_le (Nat.ne_of_gt hpos)
    have hhigh : n / 2 ^ (n.log2 - 52) < 2 ^ 53 := by
      rw [Nat.div_lt_iff_lt_mul (Nat.two_pow_pos _), ← Nat.pow_add,
        show 53 + (n.log2 - 52) = n.log2 + 1 by omega]
      exact Nat.lt_log2_self
    omega

theorem significand_mono {m n : Nat} (h : m ≤ n) (hlog : m.log2 = n.log2) :
    significand m ≤ significand n := by
  rw [significand, significand, hlog]
  split
  · rw [Nat.shiftLeft_eq, Nat.shiftLeft_eq]
    exact Nat.mul_le_mul_right _ h
  · exact roundShift_mono h _

theorem nearestMagnitude_mono {m n : Nat} (h : m ≤ n) :
    nearestMagnitude m ≤ nearestMagnitude n := by
  rcases Nat.eq_zero_or_pos m with rfl | hm
  · exact Nat.zero_le _
  have hlog : m.log2 ≤ n.log2 :=
    (Nat.le_log2 (by omega)).mpr (Nat.le_trans (Nat.log2_self_le (Nat.ne_of_gt hm)) h)
  obtain ⟨-, hcarry⟩ := significand_bounds hm
  obtain ⟨hlead, -⟩ := significand_bounds (Nat.lt_of_lt_of_le hm h)
  rw [nearestMagnitude, nearestMagnitude, if_neg (by omega), if_neg (by omega), Nat.shiftLeft_eq,
    Nat.shiftLeft_eq]
  rcases Nat.lt_or_eq_of_le hlog with hless | hsame
  · -- even a carry out of the smaller significand stays below the next power of two
    omega
  · have hsignificand := significand_mono h hsame
    rw [hsame]
    omega

/-- Rounding keeps the order of the integers, though not its strictness. -/
theorem rank_ofInt_mono {m n : Int} (h : m ≤ n) : (ofInt m).rank ≤ (ofInt n).rank := by
  rw [rank_ofInt, rank_ofInt]
  split
  · split
    · have := nearestMagnitude_mono (m := n.natAbs) (n := m.natAbs) (by omega)
      omega
    · omega
  · rw [if_neg (by omega)]
    have := nearestMagnitude_mono (m := m.natAbs) (n := n.natAbs) (by omega)
    omega

end QueryLayer.Binary64

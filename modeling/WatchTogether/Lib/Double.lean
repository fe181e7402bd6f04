/-
  WatchTogether.Lib.Double

  Rounding of a rational to a double: 53 significant bits, to nearest, ties to even.  Double
  arithmetic is exact arithmetic and this rounding; overflow and subnormal numbers are left
  out.

  Below `2 ^ 53` a natural number is a double, so rounding does not cross it.  It follows
  that the quotient of two such numbers, rounded, still has the right ceiling.
-/

import Mathlib.Algebra.Order.Round
import Mathlib.Data.Int.Log
import Mathlib.Data.Rat.Floor
import Mathlib.Tactic.Linarith
import Mathlib.Tactic.Positivity

namespace Double

-- ============================================================================
-- To the nearest integer
-- ============================================================================

/-- The nearest integer; of two, the even one. -/
def roundEven (y : ℚ) : ℤ :=
  if y - ⌊y⌋ < 1 / 2 then ⌊y⌋
  else if 1 / 2 < y - ⌊y⌋ then ⌊y⌋ + 1
  else if ⌊y⌋ % 2 = 0 then ⌊y⌋ else ⌊y⌋ + 1

theorem roundEven_cases (y : ℚ) :
    (roundEven y = ⌊y⌋ ∧ y - ⌊y⌋ ≤ 1 / 2) ∨ (roundEven y = ⌊y⌋ + 1 ∧ 1 / 2 ≤ y - ⌊y⌋) := by
  rw [roundEven]
  split
  · rename_i hlow
    exact .inl ⟨rfl, le_of_lt hlow⟩
  rename_i hhalf
  split
  · rename_i hhigh
    exact .inr ⟨rfl, le_of_lt hhigh⟩
  rename_i hle
  split
  · exact .inl ⟨rfl, not_lt.mp hle⟩
  · exact .inr ⟨rfl, not_lt.mp hhalf⟩

/-- Rounding does not cross an integer. -/
theorem le_roundEven {y : ℚ} {k : ℤ} (h : (k : ℚ) ≤ y) : k ≤ roundEven y := by
  have hfloor : k ≤ ⌊y⌋ := Int.le_floor.mpr h
  rcases roundEven_cases y with ⟨hy, -⟩ | ⟨hy, -⟩ <;> omega

theorem roundEven_le {y : ℚ} {k : ℤ} (h : y ≤ k) : roundEven y ≤ k := by
  have hfloor : ⌊y⌋ ≤ k := Int.floor_le_iff.mpr (lt_of_le_of_lt h (lt_add_one _))
  rcases roundEven_cases y with ⟨hy, -⟩ | ⟨hy, hhalf⟩
  · omega
  · -- Rounded up, so `y` is above its floor.
    have hlt : (⌊y⌋ : ℚ) < k := by linarith
    have hlt' : ⌊y⌋ < k := by exact_mod_cast hlt
    omega

theorem sub_roundEven_le (y : ℚ) : y - roundEven y ≤ 1 / 2 := by
  rcases roundEven_cases y with ⟨hy, hhalf⟩ | ⟨hy, -⟩
  · rw [hy]
    exact hhalf
  · have hfloor := Int.lt_floor_add_one y
    rw [hy]
    push_cast
    linarith

-- ============================================================================
-- To the nearest double
-- ============================================================================

/-- The distance of the doubles around `x`. -/
def ulp (x : ℚ) : ℚ := 2 ^ (Int.log 2 |x| - 52)

/-- The double next to a number; of two, the even one. -/
def round (x : ℚ) : ℚ := roundEven (x / ulp x) * ulp x

theorem ulp_pos (x : ℚ) : 0 < ulp x := zpow_pos two_pos _

theorem sub_round_le (x : ℚ) : x - round x ≤ ulp x / 2 := by
  have hx : x = x / ulp x * ulp x := (div_mul_cancel₀ x (ulp_pos x).ne').symm
  have hhalf := mul_le_mul_of_nonneg_right (sub_roundEven_le (x / ulp x)) (ulp_pos x).le
  rw [round]
  rw [sub_mul, ← hx] at hhalf
  linarith

/-- The binade of a positive number. -/
theorem zpow_log_le {x : ℚ} (hx : 0 < x) : (2 : ℚ) ^ Int.log 2 |x| ≤ x := by
  rw [abs_of_pos hx]
  exact_mod_cast Int.zpow_log_le_self (by decide) hx

/-- In units of a distance of at most one, a natural number is an integer. -/
theorem natCast_eq_mul_zpow (n : ℕ) {e : ℤ} (he : e ≤ 52) :
    ∃ k : ℤ, (n : ℚ) = k * 2 ^ (e - 52) := by
  refine ⟨n * 2 ^ (52 - e).toNat, ?_⟩
  have hexp : ((52 - e).toNat : ℤ) = 52 - e := by omega
  push_cast
  rw [mul_assoc, ← zpow_natCast, hexp, ← zpow_add₀ two_ne_zero]
  simp

/-- A natural number below `2 ^ 53` is not crossed from above. -/
theorem le_round {x : ℚ} {n : ℕ} (hn : n < 2 ^ 53) (hx : 0 < x) (h : (n : ℚ) ≤ x) :
    (n : ℚ) ≤ round x := by
  have hulp := ulp_pos x
  by_cases he : Int.log 2 |x| ≤ 52
  · obtain ⟨k, hk⟩ := natCast_eq_mul_zpow n he
    have hkx : (k : ℚ) ≤ x / ulp x := by
      rw [le_div_iff₀ hulp, ulp, ← hk]
      exact h
    have hround : (k : ℚ) ≤ roundEven (x / ulp x) := by exact_mod_cast le_roundEven hkx
    rw [round, hk]
    exact mul_le_mul_of_nonneg_right hround hulp.le
  · -- The power of two below `x` is a double, and is above `n`.
    have hbinade := zpow_log_le hx
    have hpow : (2 : ℚ) ^ Int.log 2 |x| = ((2 ^ 52 : ℤ) : ℚ) * ulp x := by
      have hsplit : Int.log 2 |x| = 52 + (Int.log 2 |x| - 52) := by omega
      rw [ulp]
      conv_lhs => rw [hsplit]
      rw [zpow_add₀ two_ne_zero]
      norm_num
    have hkx : ((2 ^ 52 : ℤ) : ℚ) ≤ x / ulp x := by
      rw [le_div_iff₀ hulp, ← hpow]
      exact hbinade
    have hround : ((2 ^ 52 : ℤ) : ℚ) ≤ roundEven (x / ulp x) := by
      exact_mod_cast le_roundEven hkx
    have hbig : (2 : ℚ) ^ (53 : ℤ) ≤ 2 ^ Int.log 2 |x| :=
      zpow_le_zpow_right₀ one_le_two (by omega)
    have hn' : (n : ℚ) < 2 ^ (53 : ℤ) := by exact_mod_cast hn
    calc (n : ℚ) ≤ 2 ^ (53 : ℤ) := le_of_lt hn'
      _ ≤ 2 ^ Int.log 2 |x| := hbig
      _ = ((2 ^ 52 : ℤ) : ℚ) * ulp x := hpow
      _ ≤ roundEven (x / ulp x) * ulp x := mul_le_mul_of_nonneg_right hround hulp.le

/-- A natural number below `2 ^ 53` is not crossed from below. -/
theorem round_le {x : ℚ} {n : ℕ} (hn : n < 2 ^ 53) (hx : 0 < x) (h : x ≤ n) :
    round x ≤ n := by
  have hulp := ulp_pos x
  have he : Int.log 2 |x| ≤ 52 := by
    have hpow : (2 : ℚ) ^ Int.log 2 |x| < 2 ^ (53 : ℤ) := by
      have hn' : (n : ℚ) < 2 ^ (53 : ℤ) := by exact_mod_cast hn
      exact lt_of_le_of_lt (zpow_log_le hx) (lt_of_le_of_lt h hn')
    have hlt := (zpow_lt_zpow_iff_right₀ (one_lt_two (α := ℚ))).mp hpow
    omega
  obtain ⟨k, hk⟩ := natCast_eq_mul_zpow n he
  have hkx : x / ulp x ≤ k := by
    rw [div_le_iff₀ hulp, ulp, ← hk]
    exact h
  have hround : (roundEven (x / ulp x) : ℚ) ≤ k := by exact_mod_cast roundEven_le hkx
  rw [round]
  conv_rhs => rw [hk]
  exact mul_le_mul_of_nonneg_right hround hulp.le

/-- **Natural numbers.**  Below `2 ^ 53` they are doubles. -/
theorem round_natCast {n : ℕ} (hn : n < 2 ^ 53) : round n = n := by
  rcases Nat.eq_zero_or_pos n with rfl | hpos
  · have hzero : roundEven 0 = 0 := by norm_num [roundEven]
    simp [round, hzero]
  · have hx : (0 : ℚ) < n := by exact_mod_cast hpos
    exact le_antisymm (round_le hn hx le_rfl) (le_round hn hx le_rfl)

-- ============================================================================
-- The ceiling of a quotient
-- ============================================================================

/-- Half the distance of the doubles around a quotient is below the least that a quotient can
    be above an integer. -/
theorem half_ulp_div_lt {s p : ℕ} (hs : 0 < s) (hs53 : s < 2 ^ 53) (hp : 0 < p) :
    ulp ((s : ℚ) / p) / 2 < 1 / p := by
  have hp' : (0 : ℚ) < p := by exact_mod_cast hp
  have hx : (0 : ℚ) < s / p := div_pos (by exact_mod_cast hs) hp'
  have hbinade := zpow_log_le hx
  rw [le_div_iff₀ hp'] at hbinade
  have hs' : (s : ℚ) < 2 ^ (53 : ℤ) := by exact_mod_cast hs53
  have hulp : ulp ((s : ℚ) / p) / 2 * 2 ^ (53 : ℤ) = 2 ^ Int.log 2 |(s : ℚ) / p| := by
    rw [ulp, zpow_sub₀ two_ne_zero]
    field_simp
  rw [lt_div_iff₀ hp']
  have hpow : (0 : ℚ) < 2 ^ (53 : ℤ) := by positivity
  have hlt : ulp ((s : ℚ) / p) / 2 * p * 2 ^ (53 : ℤ) < 1 * 2 ^ (53 : ℤ) := by
    calc ulp ((s : ℚ) / p) / 2 * p * 2 ^ (53 : ℤ)
        = ulp ((s : ℚ) / p) / 2 * 2 ^ (53 : ℤ) * p := by ring
      _ = 2 ^ Int.log 2 |(s : ℚ) / p| * p := by rw [hulp]
      _ ≤ s := hbinade
      _ < 1 * 2 ^ (53 : ℤ) := by rw [one_mul]; exact hs'
  exact lt_of_mul_lt_mul_right hlt hpow.le

/-- **Quotients.**  Rounding the quotient of two natural numbers does not change its
    ceiling. -/
theorem ceil_round_div {s p : ℕ} (hs53 : s < 2 ^ 53) (hp : 0 < p) :
    ⌈round ((s : ℚ) / p)⌉ = ((s + p - 1) / p : ℕ) := by
  rcases Nat.eq_zero_or_pos s with rfl | hs
  · have hround : round 0 = 0 := by exact_mod_cast round_natCast (show 0 < 2 ^ 53 by decide)
    have hcount : (0 + p - 1) / p = 0 := Nat.div_eq_of_lt (by omega)
    rw [hcount]
    simp [hround]
  obtain ⟨n, hn⟩ : ∃ n, (s + p - 1) / p = n := ⟨_, rfl⟩
  have hlow : n * p ≤ s + p - 1 := by
    rw [← hn]
    exact Nat.div_mul_le_self _ _
  have hhigh : s + p - 1 < (n + 1) * p := by
    rw [← hn]
    exact Nat.lt_mul_of_div_lt (Nat.lt_succ_self _) hp
  have hcover : s ≤ n * p := by
    rw [Nat.succ_mul] at hhigh
    omega
  have hp' : (0 : ℚ) < p := by exact_mod_cast hp
  have hx : (0 : ℚ) < s / p := div_pos (by exact_mod_cast hs) hp'
  rw [hn, Int.ceil_eq_iff]
  constructor
  · -- The quotient is above `n - 1` by more than the rounding can take.
    have habove : ((n : ℚ) - 1) + 1 / p ≤ s / p := by
      have hlow' : (n : ℚ) * p + 1 ≤ s + p := by
        have hnat : n * p + 1 ≤ s + p := by omega
        exact_mod_cast hnat
      rw [le_div_iff₀ hp', add_mul, sub_mul, one_div_mul_cancel hp'.ne']
      linarith
    have hround := sub_round_le ((s : ℚ) / p)
    have hulp := half_ulp_div_lt hs hs53 hp
    push_cast
    linarith
  · have hn53 : n < 2 ^ 53 := by
      have hle : n ≤ s := by
        rw [← hn]
        refine Nat.div_le_of_le_mul ?_
        have hmul : p + s ≤ p * s + 1 := by
          obtain ⟨p, rfl⟩ := Nat.exists_eq_succ_of_ne_zero hp.ne'
          have hle := Nat.mul_le_mul_left p hs
          rw [Nat.succ_mul]
          omega
        omega
      omega
    have hle : (s : ℚ) / p ≤ n := by
      rw [div_le_iff₀ hp']
      exact_mod_cast hcover
    exact_mod_cast round_le hn53 hx hle

end Double

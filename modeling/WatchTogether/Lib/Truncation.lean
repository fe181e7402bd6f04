/-
  WatchTogether.Lib.Truncation

  Integer counts scaled by a rational factor and truncated toward zero, and integer
  sequences that grow by small steps, read in a two's-complement word.

  A sequence that outgrows the word passes through the values just above its largest
  one, which the word reads as negative (`exists_crossing`, `bmod_of_crossing`).
-/

import Mathlib.Algebra.Order.Floor.Ring
import Mathlib.Data.Rat.Floor
import Mathlib.Tactic.Linarith
import Mathlib.Tactic.Positivity

-- ============================================================================
-- Scaled counts
-- ============================================================================

/-- The product, truncated toward zero. -/
def truncMul (n : Int) (r : ℚ) : Int := Int.tdiv (n * r.num) r.den

/-- Between nonnegative numbers truncation is the floor. -/
theorem truncMul_eq_floor {n : Int} {r : ℚ} (hn : 0 ≤ n) (hr : 0 ≤ r) :
    truncMul n r = ⌊(n : ℚ) * r⌋ := by
  have hnum : 0 ≤ n * r.num := Int.mul_nonneg hn (Rat.num_nonneg.mpr hr)
  have hprod : (n : ℚ) * r = ((n * r.num : Int) : ℚ) / (r.den : ℚ) := by
    rw [Int.cast_mul, mul_div_assoc, Rat.num_div_den]
  rw [truncMul, hprod, Rat.floor_intCast_div_natCast, Int.tdiv_eq_ediv_of_nonneg hnum]

theorem truncMul_nonneg {n : Int} {r : ℚ} (hn : 0 ≤ n) (hr : 0 ≤ r) : 0 ≤ truncMul n r := by
  rw [truncMul_eq_floor hn hr]
  exact Int.floor_nonneg.mpr (mul_nonneg (Int.cast_nonneg hn) hr)

theorem truncMul_mono {n n' : Int} {r : ℚ} (hn : 0 ≤ n) (hle : n ≤ n') (hr : 0 ≤ r) :
    truncMul n r ≤ truncMul n' r := by
  rw [truncMul_eq_floor hn hr, truncMul_eq_floor (hn.trans hle) hr]
  exact Int.floor_le_floor (mul_le_mul_of_nonneg_right (Int.cast_le.mpr hle) hr)

/-- One count more adds at most the factor. -/
theorem truncMul_succ_le {n k : Int} {r : ℚ} (hn : 0 ≤ n) (hr : 0 ≤ r) (hk : r ≤ k) :
    truncMul (n + 1) r ≤ truncMul n r + k := by
  rw [truncMul_eq_floor hn hr, truncMul_eq_floor (by omega) hr, ← Int.floor_add_intCast]
  refine Int.floor_le_floor ?_
  rw [Int.cast_add, Int.cast_one, add_mul, one_mul]
  exact add_le_add_right hk _

-- ============================================================================
-- Crossing a bound
-- ============================================================================

/-- A sequence that grows by at most `k` a step and gets from below `b` to `b` or above is
    less than `k` above it right after the last time below. -/
theorem exists_crossing {f : Nat → Int} {b k : Int} (hstep : ∀ n, f (n + 1) ≤ f n + k)
    (hzero : f 0 < b) {m : Nat} (hm : b ≤ f m) :
    ∃ n, n < m ∧ f n < b ∧ b ≤ f (n + 1) ∧ f (n + 1) < b + k := by
  induction m with
  | zero => omega
  | succ m ih =>
      by_cases hbelow : f m < b
      · have hnext := hstep m
        exact ⟨m, by omega, hbelow, hm, by omega⟩
      · obtain ⟨n, hn, hcross⟩ := ih (by omega)
        exact ⟨n, by omega, hcross⟩

/-- Just above its largest value a word reads negative. -/
theorem bmod_of_crossing {x k : Int} (hlow : 2 ^ 63 ≤ x) (hhigh : x < 2 ^ 63 + k)
    (hk : k ≤ 2 ^ 63) : x.bmod (2 ^ 64) < 0 := by
  have hwrap : x.bmod (2 ^ 64) = (x - 2 ^ 64).bmod (2 ^ 64) :=
    (Int.sub_bmod_right x (2 ^ 64)).symm
  rw [hwrap, Int.bmod_eq_of_le (by omega) (by omega)]
  omega

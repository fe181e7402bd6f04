/-
  WatchTogether.Lib.TokenBucket

  A token bucket over an ordered field: it holds at most `burst` tokens, is refilled at `rate`,
  and grants a request by taking a token.

  The level is a potential: what has been granted is what the bucket has lost, so a window
  of any length sees at most `burst` grants and what has been refilled in it.
-/

import Mathlib.Algebra.Order.Field.Basic
import Mathlib.Data.List.Basic
import Mathlib.Tactic.Linarith
import Mathlib.Tactic.Ring

/-- The level at the time of the last request. -/
structure TokenBucket (K : Type*) where
  level : K
  since : K

namespace TokenBucket

variable {K : Type*} [Field K] [LinearOrder K] (burst rate : K)

/-- The level at the time `t`. -/
def levelAt (b : TokenBucket K) (t : K) : K := min burst (b.level + (t - b.since) * rate)

/-- The bucket has a token at this time. -/
def grants (b : TokenBucket K) (t : K) : Bool := decide (1 ≤ b.levelAt burst rate t)

/-- A request at the time `t`. -/
def take (b : TokenBucket K) (t : K) : TokenBucket K :=
  ⟨b.levelAt burst rate t - if b.grants burst rate t then 1 else 0, t⟩

/-- The answers to requests at the given times. -/
def answers : TokenBucket K → List K → List (K × Bool)
  | _, [] => []
  | b, t :: ts => (t, b.grants burst rate t) :: answers (b.take burst rate t) ts

/-- How many requests have been granted from `s` to `t`. -/
def granted (s t : K) (as : List (K × Bool)) : Nat :=
  as.countP (fun a => a.2 && (decide (s ≤ a.1) && decide (a.1 ≤ t)))

variable {burst rate}

-- ============================================================================
-- Answers
-- ============================================================================

theorem mem_answers {b : TokenBucket K} {ts : List K} {a : K × Bool}
    (h : a ∈ b.answers burst rate ts) : a.1 ∈ ts := by
  induction ts generalizing b with
  | nil => exact absurd h List.not_mem_nil
  | cons t ts ih =>
      rcases List.mem_cons.mp h with rfl | h
      · exact List.mem_cons_self
      · exact List.mem_cons_of_mem _ (ih h)

/-- No request comes before `t`. -/
theorem granted_late {b : TokenBucket K} {ts : List K} {s t : K} (h : ∀ x ∈ ts, t < x) :
    granted s t (b.answers burst rate ts) = 0 := by
  refine List.countP_eq_zero.mpr fun a ha => ?_
  have hlate := h a.1 (mem_answers ha)
  simp [hlate]

/-- All requests of a list in order come after `t`, if the first one does. -/
theorem granted_late_cons {b : TokenBucket K} {x : K} {ts : List K} {s t : K} (hlate : t < x)
    (hfirst : ∀ y ∈ ts, x ≤ y) : granted s t (b.answers burst rate (x :: ts)) = 0 := by
  refine granted_late ?_
  intro y hy
  rcases List.mem_cons.mp hy with rfl | hy
  · exact hlate
  · exact hlate.trans_le (hfirst y hy)

theorem granted_cons (b : TokenBucket K) (s t x : K) (ts : List K) :
    granted s t (b.answers burst rate (x :: ts))
      = granted s t ((b.take burst rate x).answers burst rate ts)
        + if b.grants burst rate x = true ∧ s ≤ x ∧ x ≤ t then 1 else 0 := by
  unfold granted
  rw [answers, List.countP_cons]
  simp only [Bool.and_eq_true, decide_eq_true_eq]

-- ============================================================================
-- The level
-- ============================================================================

theorem levelAt_le (b : TokenBucket K) (t : K) : b.levelAt burst rate t ≤ burst := min_le_left ..

variable [IsStrictOrderedRing K]

/-- A look at the bucket changes nothing. -/
theorem levelAt_levelAt (hrate : 0 ≤ rate) (b : TokenBucket K) {s t : K} (h : s ≤ t) :
    (⟨b.levelAt burst rate s, s⟩ : TokenBucket K).levelAt burst rate t
      = b.levelAt burst rate t := by
  have hrefill : 0 ≤ (t - s) * rate := mul_nonneg (sub_nonneg.mpr h) hrate
  have hsplit : b.level + (t - b.since) * rate
      = (b.level + (s - b.since) * rate) + (t - s) * rate := by ring
  unfold levelAt
  dsimp only
  rw [hsplit, ← min_add_add_right, ← min_assoc, min_eq_left (le_add_of_nonneg_right hrefill)]

/-- A request takes no more than there is. -/
theorem level_take_nonneg (b : TokenBucket K) (t : K) :
    0 ≤ b.levelAt burst rate t → 0 ≤ (b.take burst rate t).level := by
  intro hlevel
  unfold take grants
  dsimp only
  split_ifs with hgrant
  · exact sub_nonneg.mpr (of_decide_eq_true hgrant)
  · rw [sub_zero]
    exact hlevel

theorem levelAt_nonneg (hburst : 0 ≤ burst) (hrate : 0 ≤ rate) {b : TokenBucket K} {t : K}
    (hlevel : 0 ≤ b.level) (h : b.since ≤ t) : 0 ≤ b.levelAt burst rate t :=
  le_min hburst (add_nonneg hlevel (mul_nonneg (sub_nonneg.mpr h) hrate))

/-- A bucket that has been refilled for long enough is full. -/
theorem levelAt_full {b : TokenBucket K} {t : K} (hlevel : 0 ≤ b.level)
    (h : burst ≤ (t - b.since) * rate) : b.levelAt burst rate t = burst :=
  min_eq_left (h.trans (le_add_of_nonneg_left hlevel))

-- ============================================================================
-- Windows
-- ============================================================================

variable (hburst : 0 ≤ burst) (hrate : 0 ≤ rate)

include hburst hrate

/-- From the last request on, at most the level and what is refilled can be granted. -/
theorem granted_le_level {b : TokenBucket K} {ts : List K} {s t : K} (hlevel : 0 ≤ b.level)
    (hsince : ∀ x ∈ ts, b.since ≤ x) (hsorted : ts.Pairwise (· ≤ ·)) (h : b.since ≤ t) :
    (granted s t (b.answers burst rate ts) : K) ≤ b.level + (t - b.since) * rate := by
  induction ts generalizing b with
  | nil =>
      rw [answers, granted, List.countP_nil, Nat.cast_zero]
      exact add_nonneg hlevel (mul_nonneg (sub_nonneg.mpr h) hrate)
  | cons x ts ih =>
      obtain ⟨hfirst, hrest⟩ := List.pairwise_cons.mp hsorted
      have hx := hsince x List.mem_cons_self
      rcases lt_or_ge t x with hlate | hin
      · rw [granted_late_cons hlate hfirst, Nat.cast_zero]
        exact add_nonneg hlevel (mul_nonneg (sub_nonneg.mpr h) hrate)
      · have hnow := levelAt_nonneg hburst hrate hlevel hx
        have hlevel' := level_take_nonneg b x hnow
        have hlater := ih hlevel' hfirst hrest hin
        have hmost : b.levelAt burst rate x ≤ b.level + (x - b.since) * rate := min_le_right ..
        -- a grant is what the bucket has lost
        have hlost : (b.take burst rate x).level
            + (if b.grants burst rate x = true then (1 : K) else 0) = b.levelAt burst rate x :=
          sub_add_cancel ..
        have hcount : ((if b.grants burst rate x = true ∧ s ≤ x ∧ x ≤ t then 1 else 0 : Nat) : K)
            ≤ if b.grants burst rate x = true then (1 : K) else 0 := by
          split_ifs with hwindow hgrant
          · rw [Nat.cast_one]
          · exact absurd hwindow.1 hgrant
          · rw [Nat.cast_zero]
            exact zero_le_one
          · rw [Nat.cast_zero]
        have hsince' : (b.take burst rate x).since = x := rfl
        rw [hsince'] at hlater
        rw [granted_cons, Nat.cast_add]
        have hsplit : (t - b.since) * rate = (x - b.since) * rate + (t - x) * rate := by ring
        linarith

/-- **Every window** of a token bucket. -/
theorem granted_le {b : TokenBucket K} {ts : List K} {s t : K} (hlevel : 0 ≤ b.level)
    (hsince : ∀ x ∈ ts, b.since ≤ x) (hsorted : ts.Pairwise (· ≤ ·)) (h : s ≤ t) :
    (granted s t (b.answers burst rate ts) : K) ≤ burst + (t - s) * rate := by
  have hwindow : 0 ≤ burst + (t - s) * rate :=
    add_nonneg hburst (mul_nonneg (sub_nonneg.mpr h) hrate)
  induction ts generalizing b with
  | nil =>
      rw [answers, granted, List.countP_nil, Nat.cast_zero]
      exact hwindow
  | cons x ts ih =>
      obtain ⟨hfirst, hrest⟩ := List.pairwise_cons.mp hsorted
      have hx := hsince x List.mem_cons_self
      have hnow := levelAt_nonneg hburst hrate hlevel hx
      rcases lt_or_ge x s with hbefore | hin
      · -- not in the window yet
        have hskip : granted s t (b.answers burst rate (x :: ts))
            = granted s t ((b.take burst rate x).answers burst rate ts) := by
          rw [granted_cons, if_neg fun hgrant => absurd hbefore (not_lt.mpr hgrant.2.1), add_zero]
        rw [hskip]
        exact ih (level_take_nonneg b x hnow) hfirst hrest
      · rcases lt_or_ge t x with hlate | hlast
        · rw [granted_late_cons hlate hfirst, Nat.cast_zero]
          exact hwindow
        · -- the bucket as the first request of the window finds it
          have hfind : (⟨b.levelAt burst rate x, x⟩ : TokenBucket K).levelAt burst rate x
              = b.levelAt burst rate x := levelAt_levelAt hrate b le_rfl
          have hsame : b.answers burst rate (x :: ts)
              = (⟨b.levelAt burst rate x, x⟩ : TokenBucket K).answers burst rate (x :: ts) := by
            unfold answers take grants
            rw [hfind]
          have hlevel' : 0 ≤ (⟨b.levelAt burst rate x, x⟩ : TokenBucket K).level := hnow
          have hall : ∀ y ∈ x :: ts, x ≤ y := by
            intro y hy
            rcases List.mem_cons.mp hy with rfl | hy
            · exact le_rfl
            · exact hfirst y hy
          rw [hsame]
          refine (granted_le_level hburst hrate hlevel' hall hsorted hlast).trans ?_
          have hmost : b.levelAt burst rate x ≤ burst := levelAt_le b x
          have hlonger : (t - x) * rate ≤ (t - s) * rate :=
            mul_le_mul_of_nonneg_right (sub_le_sub_left hin t) hrate
          exact add_le_add hmost hlonger

end TokenBucket

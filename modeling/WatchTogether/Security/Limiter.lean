/-
  WatchTogether.Security.Limiter

  `Limiter` (`internal/security/ratelimit.go`): one token bucket a key, created by the first
  call and dropped by `Cleanup` after a while.  A bucket that is not there stands for a full one,
  so each key has a token bucket of its own, whatever the calls for the others do.

  Times and durations are seconds, and `float64` is exact.
-/

import WatchTogether.Lib.LabelledRun
import WatchTogether.Lib.TokenBucket
import Mathlib.Algebra.Order.Ring.Rat
import Mathlib.Algebra.Field.Rat

namespace WatchTogether.Security

open LabelledRun

/-- `bucket`: the tokens of a key, and when they were counted. -/
structure Bucket where
  tokens : ℚ
  last : ℚ
deriving DecidableEq

/-- `Limiter`: a bucket for each key, with one rate and one burst. -/
structure Limiter where
  buckets : String → Option Bucket
  rate : ℚ
  burst : ℚ

namespace Limiter

/-- `NewLimiter`; `per` is in seconds. -/
def new (events : Int) (per : ℚ) (burst : Int) : Limiter := ⟨fun _ => none, events / per, burst⟩

/-- The bucket of a key changes. -/
def set (key : String) (b : Bucket) (l : Limiter) : Limiter :=
  { l with buckets := fun k => if k = key then some b else l.buckets k }

/-- `Allow`. -/
def allow (key : String) (now : ℚ) (l : Limiter) : Bool × Limiter :=
  match l.buckets key with
  | none => (true, l.set key ⟨l.burst - 1, now⟩)
  | some b =>
      let tokens := b.tokens + (now - b.last) * l.rate
      let tokens := if l.burst < tokens then l.burst else tokens
      if tokens < 1 then (false, l.set key ⟨tokens, now⟩)
      else (true, l.set key ⟨tokens - 1, now⟩)

/-- `Cleanup`. -/
def cleanup (maxIdle now : ℚ) (l : Limiter) : Limiter :=
  let cut := now - maxIdle
  { l with buckets := fun k => (l.buckets k).filter (fun b => !decide (b.last < cut)) }

-- ============================================================================
-- Calls
-- ============================================================================

/-- A call of the limiter. -/
inductive Call where
  | allow (key : String) (now : ℚ)
  | cleanup (maxIdle now : ℚ)
deriving DecidableEq

/-- The reading of the clock in the call. -/
def Call.now : Call → ℚ
  | allow _ now => now
  | cleanup _ now => now

/-- The limiter after the call. -/
def step (l : Limiter) : Call → Limiter
  | .allow key now => (l.allow key now).2
  | .cleanup maxIdle now => l.cleanup maxIdle now

/-- The answers to the calls for the key, with their times. -/
def answersFor (key : String) : Limiter → List Call → List (ℚ × Bool)
  | _, [] => []
  | l, .allow k now :: cs =>
      if k = key then (now, (l.allow k now).1) :: answersFor key (l.allow k now).2 cs
      else answersFor key (l.allow k now).2 cs
  | l, .cleanup maxIdle now :: cs => answersFor key (l.cleanup maxIdle now) cs

/-- When the key is asked for. -/
def timesFor (key : String) : List Call → List ℚ
  | [] => []
  | .allow k now :: cs => if k = key then now :: timesFor key cs else timesFor key cs
  | .cleanup _ _ :: cs => timesFor key cs

/-- A call for the key, or a clean-up. -/
def Call.concerns (key : String) : Call → Bool
  | .allow k _ => decide (k = key)
  | .cleanup _ _ => true

/-- The times of the calls do not decrease. -/
def Chronological (cs : List Call) : Prop := (cs.map Call.now).Pairwise (· ≤ ·)

instance (cs : List Call) : Decidable (Chronological cs) :=
  inferInstanceAs (Decidable (List.Pairwise _ _))

-- ============================================================================
-- The bucket of a key
-- ============================================================================

/-- The level of the key's bucket at the time `t`; a missing bucket is full. -/
def levelAt (key : String) (l : Limiter) (t : ℚ) : ℚ :=
  match l.buckets key with
  | none => l.burst
  | some b => (⟨b.tokens, b.last⟩ : TokenBucket ℚ).levelAt l.burst l.rate t

/-- From `now` on, the limiter has for the key what the token bucket holds. -/
structure Tracks (key : String) (l : Limiter) (b : TokenBucket ℚ) (now : ℚ) : Prop where
  since : b.since ≤ now
  nonneg : 0 ≤ b.level
  level : ∀ t, now ≤ t → l.levelAt key t = b.levelAt l.burst l.rate t
  bucket : ∀ x, l.buckets key = some x → 0 ≤ x.tokens ∧ x.last ≤ now

theorem set_self (key : String) (b : Bucket) (l : Limiter) :
    (l.set key b).buckets key = some b := if_pos rfl

theorem set_ne {k key : String} (h : k ≠ key) (b : Bucket) (l : Limiter) :
    (l.set key b).buckets k = l.buckets k := if_neg h

/-- `Allow` answers for the level, and takes a token from it. -/
theorem allow_eq (key : String) (now : ℚ) {l : Limiter} (hburst : 1 ≤ l.burst) :
    (l.allow key now).1 = decide (1 ≤ l.levelAt key now) ∧
      (l.allow key now).2 = l.set key
        ⟨l.levelAt key now - if 1 ≤ l.levelAt key now then 1 else 0, now⟩ := by
  unfold allow levelAt
  cases hbucket : l.buckets key with
  | none =>
      dsimp only
      rw [if_pos hburst, decide_eq_true hburst]
      exact ⟨rfl, rfl⟩
  | some b =>
      have hlevel : (if l.burst < b.tokens + (now - b.last) * l.rate then l.burst
          else b.tokens + (now - b.last) * l.rate)
          = (⟨b.tokens, b.last⟩ : TokenBucket ℚ).levelAt l.burst l.rate now := by
        unfold TokenBucket.levelAt
        dsimp only
        split_ifs with hfull
        · exact (min_eq_left hfull.le).symm
        · exact (min_eq_right (not_lt.mp hfull)).symm
      dsimp only
      rw [hlevel]
      rcases lt_or_ge ((⟨b.tokens, b.last⟩ : TokenBucket ℚ).levelAt l.burst l.rate now) 1 with
        hlow | hgrant
      · rw [if_pos hlow, if_neg (not_le.mpr hlow), sub_zero]
        exact ⟨(decide_eq_false (not_le.mpr hlow)).symm, rfl⟩
      · rw [if_neg (not_lt.mpr hgrant), if_pos hgrant]
        exact ⟨(decide_eq_true hgrant).symm, rfl⟩

@[simp] theorem allow_burst (key : String) (now : ℚ) (l : Limiter) :
    (l.allow key now).2.burst = l.burst := by
  unfold allow
  split
  · rfl
  · dsimp only
    split_ifs <;> rfl

@[simp] theorem allow_rate (key : String) (now : ℚ) (l : Limiter) :
    (l.allow key now).2.rate = l.rate := by
  unfold allow
  split
  · rfl
  · dsimp only
    split_ifs <;> rfl

/-- A call for the key is a request to its token bucket. -/
theorem Tracks.allow {key : String} {l : Limiter} {b : TokenBucket ℚ} {now t : ℚ}
    (h : Tracks key l b now) (hburst : 1 ≤ l.burst) (hrate : 0 ≤ l.rate) (hlater : now ≤ t) :
    (l.allow key t).1 = b.grants l.burst l.rate t ∧
      Tracks key (l.allow key t).2 (b.take l.burst l.rate t) t := by
  obtain ⟨hanswer, hnext⟩ := allow_eq key t hburst
  rw [h.level t hlater] at hanswer hnext
  have hnonneg : 0 ≤ (b.take l.burst l.rate t).level :=
    TokenBucket.level_take_nonneg b t (TokenBucket.levelAt_nonneg (zero_le_one.trans hburst) hrate
      h.nonneg (h.since.trans hlater))
  have htake : b.take l.burst l.rate t = ⟨b.levelAt l.burst l.rate t
      - if 1 ≤ b.levelAt l.burst l.rate t then 1 else 0, t⟩ := by
    unfold TokenBucket.take TokenBucket.grants
    simp only [decide_eq_true_eq]
  have hbucket : (l.allow key t).2.buckets key
      = some ⟨(b.take l.burst l.rate t).level, t⟩ := by
    rw [hnext, set_self, htake]
  refine ⟨hanswer, le_rfl, hnonneg, ?_, ?_⟩
  · intro t' _
    unfold Limiter.levelAt
    rw [hbucket]
    rfl
  · intro x hx
    obtain rfl := Option.some.inj (hbucket.symm.trans hx)
    exact ⟨hnonneg, le_rfl⟩

/-- What does not touch the key's bucket. -/
theorem Tracks.later {key : String} {l l' : Limiter} {b : TokenBucket ℚ} {now t : ℚ}
    (h : Tracks key l b now) (hlater : now ≤ t) (hbucket : l'.buckets key = l.buckets key)
    (hburst : l'.burst = l.burst) (hrate : l'.rate = l.rate) : Tracks key l' b t := by
  refine ⟨h.since.trans hlater, h.nonneg, ?_, ?_⟩
  · intro t' ht
    rw [hburst, hrate, ← h.level t' (hlater.trans ht)]
    unfold Limiter.levelAt
    rw [hbucket, hburst, hrate]
  · intro x hx
    obtain ⟨htokens, hlast⟩ := h.bucket x (hbucket.symm.trans hx)
    exact ⟨htokens, hlast.trans hlater⟩

/-- A call for another key leaves the bucket alone. -/
theorem Tracks.other {key k : String} {l : Limiter} {b : TokenBucket ℚ} {now t : ℚ}
    (h : Tracks key l b now) (hburst : 1 ≤ l.burst) (hne : k ≠ key) (hlater : now ≤ t) :
    Tracks key (l.allow k t).2 b t := by
  obtain ⟨-, hnext⟩ := allow_eq k t hburst
  refine h.later hlater ?_ (allow_burst ..) (allow_rate ..)
  rw [hnext, set_ne hne.symm]

/-- A bucket that is dropped has been full. -/
theorem Tracks.cleanup {key : String} {l : Limiter} {b : TokenBucket ℚ} {now t maxIdle : ℚ}
    (h : Tracks key l b now) (hrate : 0 ≤ l.rate) (hidle : l.burst ≤ maxIdle * l.rate)
    (hlater : now ≤ t) : Tracks key (l.cleanup maxIdle t) b t := by
  have hbuckets : (l.cleanup maxIdle t).buckets key
      = (l.buckets key).filter (fun b => !decide (b.last < t - maxIdle)) := rfl
  cases hx : l.buckets key with
  | none => exact h.later hlater (by rw [hbuckets, hx]; rfl) rfl rfl
  | some x =>
      rw [hx, Option.filter_some] at hbuckets
      by_cases hold : x.last < t - maxIdle
      · rw [if_neg (by rw [decide_eq_true hold]; decide)] at hbuckets
        refine ⟨h.since.trans hlater, h.nonneg, ?_, ?_⟩
        · intro t' ht
          have hlevel := h.level t' (hlater.trans ht)
          unfold Limiter.levelAt at hlevel
          rw [hx] at hlevel
          have hlong : l.burst ≤ (t' - x.last) * l.rate :=
            hidle.trans (mul_le_mul_of_nonneg_right (by linarith) hrate)
          have hfull : (⟨x.tokens, x.last⟩ : TokenBucket ℚ).levelAt l.burst l.rate t' = l.burst :=
            TokenBucket.levelAt_full (h.bucket x hx).1 hlong
          unfold Limiter.levelAt
          rw [hbuckets]
          exact hfull.symm.trans hlevel
        · intro y hy
          exact absurd (hbuckets.symm.trans hy) (by simp)
      · rw [if_pos (by rw [decide_eq_false hold]; decide)] at hbuckets
        exact h.later hlater (hbuckets.trans hx.symm) rfl rfl

-- ============================================================================
-- All calls
-- ============================================================================

/-- The answers for a key are those of its token bucket. -/
theorem answersFor_eq {key : String} {l : Limiter} {b : TokenBucket ℚ} {now : ℚ} {cs : List Call}
    (h : Tracks key l b now) (hburst : 1 ≤ l.burst) (hrate : 0 ≤ l.rate)
    (hlater : ∀ c ∈ cs, now ≤ c.now) (hchron : Chronological cs)
    (hidle : ∀ maxIdle t, .cleanup maxIdle t ∈ cs → l.burst ≤ maxIdle * l.rate) :
    l.answersFor key cs = b.answers l.burst l.rate (timesFor key cs) := by
  induction cs generalizing l b now with
  | nil => rfl
  | cons c cs ih =>
      obtain ⟨hfirst, hrest⟩ := List.pairwise_cons.mp hchron
      have hnow := hlater c List.mem_cons_self
      have hnext : ∀ x ∈ cs, c.now ≤ x.now := fun x hx => hfirst x.now (List.mem_map_of_mem hx)
      have hidle' : ∀ maxIdle t, .cleanup maxIdle t ∈ cs → l.burst ≤ maxIdle * l.rate :=
        fun maxIdle t hc => hidle maxIdle t (List.mem_cons_of_mem _ hc)
      cases c with
      | allow k t =>
          have hnow : now ≤ t := hnow
          have hnext : ∀ x ∈ cs, t ≤ x.now := hnext
          rw [answersFor, timesFor]
          by_cases hk : k = key
          · subst hk
            obtain ⟨hanswer, htracks⟩ := h.allow hburst hrate hnow
            have hrun := ih htracks (by rwa [allow_burst]) (by rwa [allow_rate]) hnext hrest
              (by rwa [allow_burst, allow_rate])
            rw [if_pos rfl, if_pos rfl, hrun, hanswer, allow_burst, allow_rate]
            rfl
          · have hrun := ih (h.other hburst hk hnow) (by rwa [allow_burst]) (by rwa [allow_rate])
              hnext hrest (by rwa [allow_burst, allow_rate])
            rw [if_neg hk, if_neg hk, hrun, allow_burst, allow_rate]
      | cleanup maxIdle t =>
          have htracks := h.cleanup hrate (hidle maxIdle t List.mem_cons_self) hnow
          exact ih htracks hburst hrate hnext hrest hidle'

/-- A limiter without buckets has a full one for every key. -/
theorem tracks_start (key : String) {rate burst : ℚ} (hburst : 1 ≤ burst) (hrate : 0 ≤ rate)
    (now : ℚ) : Tracks key ⟨fun _ => none, rate, burst⟩ ⟨burst, now⟩ now where
  since := le_rfl
  nonneg := zero_le_one.trans hburst
  level t ht := by
    refine (min_eq_left ?_).symm
    exact le_add_of_nonneg_right (mul_nonneg (sub_nonneg.mpr ht) hrate)
  bucket _ h := by cases h

theorem timesFor_filter (key : String) (cs : List Call) :
    timesFor key (cs.filter (Call.concerns key)) = timesFor key cs := by
  induction cs with
  | nil => rfl
  | cons c cs ih =>
      cases c with
      | allow k t =>
          by_cases hk : k = key
          · have hkeep : (Call.allow k t).concerns key = true := decide_eq_true hk
            rw [List.filter_cons_of_pos hkeep, timesFor, timesFor, ih]
          · have hdrop : ¬(Call.allow k t).concerns key = true := by
              rw [Call.concerns, decide_eq_false hk]
              decide
            rw [List.filter_cons_of_neg hdrop, timesFor, if_neg hk, ih]
      | cleanup maxIdle t =>
          have hkeep : (Call.cleanup maxIdle t).concerns key = true := rfl
          rw [List.filter_cons_of_pos hkeep, timesFor, timesFor, ih]

theorem timesFor_sublist (key : String) (cs : List Call) :
    (timesFor key cs).Sublist (cs.map Call.now) := by
  induction cs with
  | nil => exact .slnil
  | cons c cs ih =>
      cases c with
      | allow k t =>
          rw [timesFor]
          split_ifs
          · exact ih.cons_cons t
          · exact ih.cons t
      | cleanup maxIdle t => exact ih.cons t

/-- What the limiter does over a list of calls. -/
structure LimiterLaw (l : Limiter) (cs : List Call) : Prop where
  /-- Every window of every key. -/
  bounded : ∀ key s t, s ≤ t →
    (TokenBucket.granted s t (l.answersFor key cs) : ℚ) ≤ l.burst + l.rate * (t - s)
  /-- The calls for the other keys make no difference. -/
  independent : ∀ key, l.answersFor key (cs.filter (Call.concerns key)) = l.answersFor key cs

/-- **Rate limit.**  Every sequence of calls at times that do not decrease, if only buckets are
    dropped that have had the time to fill. -/
theorem limiter_law {rate burst : ℚ} (hburst : 1 ≤ burst) (hrate : 0 < rate) (cs : List Call)
    (hchron : Chronological cs)
    (hidle : ∀ maxIdle now, .cleanup maxIdle now ∈ cs → burst ≤ maxIdle * rate) :
    LimiterLaw ⟨fun _ => none, rate, burst⟩ cs := by
  -- a time before all calls
  obtain ⟨start, hstart⟩ : ∃ start, ∀ c ∈ cs, start ≤ c.now := by
    cases cs with
    | nil => exact ⟨0, fun c hc => absurd hc List.not_mem_nil⟩
    | cons c cs =>
        refine ⟨c.now, fun x hx => ?_⟩
        rcases List.mem_cons.mp hx with rfl | hx
        · exact le_rfl
        · exact (List.pairwise_cons.mp hchron).1 x.now (List.mem_map_of_mem hx)
  have htracks := fun key => tracks_start key hburst hrate.le start
  have hanswers := fun key => answersFor_eq (htracks key) hburst hrate.le hstart hchron hidle
  constructor
  · intro key s t hwindow
    rw [hanswers key, mul_comm rate]
    have htimes := timesFor_sublist key cs
    refine TokenBucket.granted_le (zero_le_one.trans hburst) hrate.le (htracks key).nonneg ?_
      (hchron.sublist htimes) hwindow
    intro x hx
    obtain ⟨c, hc, rfl⟩ := List.mem_map.mp (htimes.subset hx)
    exact hstart c hc
  · intro key
    rw [hanswers key, ← timesFor_filter key cs]
    refine answersFor_eq (htracks key) hburst hrate.le (fun c hc => hstart c (List.mem_of_mem_filter hc))
      (hchron.sublist (List.filter_sublist.map _)) ?_
    exact fun maxIdle now hc => hidle maxIdle now (List.mem_of_mem_filter hc)

/-- Two senders at a limit of one message a second. -/
def twoSenders : List Call :=
  [.allow "a" 0, .allow "b" 0, .allow "a" 0, .allow "a" 0, .cleanup 2 4, .allow "a" 4]

theorem limiter_law_two :
    (⟨fun _ => none, 1, 2⟩ : Limiter).answersFor "a" twoSenders
      = [(0, true), (0, true), (0, false), (4, true)] ∧
    LimiterLaw ⟨fun _ => none, 1, 2⟩ twoSenders := by
  refine ⟨by decide +kernel, limiter_law one_le_two one_pos _ (by decide +kernel) ?_⟩
  intro maxIdle now hc
  simp only [twoSenders, List.mem_cons, Call.cleanup.injEq, reduceCtorEq, List.not_mem_nil,
    false_or, or_false] at hc
  rw [hc.1]
  norm_num

end Limiter

end WatchTogether.Security

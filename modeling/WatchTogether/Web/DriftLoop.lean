/-
  WatchTogether.Web.DriftLoop

  The loop that `SyncController.tick` closes around `DriftCorrector.correct`: the player runs
  at the rate of the last answer until the next tick, with no hold window and no end of the
  media in the way.
-/

import WatchTogether.Web.DriftHistory
import Mathlib.Algebra.Order.Archimedean.Basic

namespace WatchTogether.Web

open LabelledRun DriftCorrector

/-- `SYNC_CHECK_INTERVAL_MS`. -/
def syncCheckIntervalMs : ℚ := 750

/-- The controller, the two positions at its last tick, and what it has answered there. -/
structure DriftLoop where
  drift : DriftCorrector
  expectedMs : ℚ
  actualMs : ℚ
  nowMs : ℚ
  action : Correction

namespace DriftLoop

/-- A tick at the given positions. -/
def check (d : DriftCorrector) (expectedMs actualMs roomRate nowMs : ℚ) : DriftLoop where
  drift := (d.correct expectedMs actualMs roomRate nowMs).2
  expectedMs := expectedMs
  actualMs := actualMs
  nowMs := nowMs
  action := (d.correct expectedMs actualMs roomRate nowMs).1

/-- The room plays at its rate and the player at the answered one, then comes the next
    tick. -/
def tick (roomRate : ℚ) (s : DriftLoop) (elapsedMs : ℚ) : DriftLoop :=
  check s.drift (s.expectedMs + roomRate * elapsedMs) (s.actualMs + s.action.rate * elapsedMs)
    roomRate (s.nowMs + elapsedMs)

/-- The drift at the last tick. -/
def driftMs (s : DriftLoop) : ℚ := s.actualMs - s.expectedMs

theorem driftMs_tick (roomRate elapsedMs : ℚ) (s : DriftLoop) :
    (s.tick roomRate elapsedMs).driftMs
      = s.driftMs + (s.action.rate - roomRate) * elapsedMs := by
  change (s.actualMs + s.action.rate * elapsedMs) - (s.expectedMs + roomRate * elapsedMs)
    = (s.actualMs - s.expectedMs) + (s.action.rate - roomRate) * elapsedMs
  ring

-- ============================================================================
-- The two stages
-- ============================================================================

/-- The player is being corrected, or has come into the release band. -/
inductive Tracks (roomRate : ℚ) (s : DriftLoop) : Prop
  | correcting (hlarge : driftReleaseMs < |s.driftMs|) (hsmall : |s.driftMs| < hardSeekThresholdMs)
      (hlatch : s.drift.correcting = true) (haction : s.action = soften s.driftMs roomRate)
  | released (hsmall : |s.driftMs| ≤ driftReleaseMs) (htype : s.action.type = .noop)
      (hrate : s.action.rate = roomRate)

/-- A tick outside the hold window at a drift that calls for no seek, in the release band
    or with a correction to go on with. -/
theorem tracks_check (roomRate : ℚ) {d : DriftCorrector} {expectedMs actualMs nowMs : ℚ}
    (hopen : d.holdUntil ≤ nowMs) (hsmall : |actualMs - expectedMs| < hardSeekThresholdMs)
    (hactive : |actualMs - expectedMs| ≤ driftReleaseMs ∨ d.correcting = true ∨
      softCorrectionThresholdMs ≤ |actualMs - expectedMs|) :
    Tracks roomRate (check d expectedMs actualMs roomRate nowMs) ∧
      (check d expectedMs actualMs roomRate nowMs).drift.holdUntil = d.holdUntil := by
  have hgap : driftReleaseMs < softCorrectionThresholdMs := by
    norm_num [driftReleaseMs, softCorrectionThresholdMs]
  have hturn := corrects expectedMs actualMs roomRate nowMs d
  change Tracks roomRate ⟨(d.correct expectedMs actualMs roomRate nowMs).2, expectedMs, actualMs,
    nowMs, (d.correct expectedMs actualMs roomRate nowMs).1⟩ ∧
    (d.correct expectedMs actualMs roomRate nowMs).2.holdUntil = d.holdUntil
  generalize (d.correct expectedMs actualMs roomRate nowMs).1 = action at hturn ⊢
  generalize (d.correct expectedMs actualMs roomRate nowMs).2 = d' at hturn ⊢
  cases hturn with
  | held h => exact absurd h (not_lt.mpr hopen)
  | released h hin => exact ⟨.released hin rfl rfl, rfl⟩
  | tolerated h hlarge hidle hin =>
      rcases hactive with hband | hon | hout
      · exact absurd hband (not_le.mpr hlarge)
      · exact absurd (hidle.symm.trans hon) (by decide)
      · exact absurd hout (not_le.mpr hin)
  | softened h hlarge hon hin => exact ⟨.correcting hlarge hin rfl rfl, rfl⟩
  | waited h hlarge hdue => exact absurd hlarge (not_le.mpr hsmall)
  | seeked h hlarge hdue => exact absurd hlarge (not_le.mpr hsmall)

-- ============================================================================
-- One tick
-- ============================================================================

/-- What a tick of a positive length does to a drift that is being corrected: it takes at least
    0.6 and at most 5 per cent of the room's progress from it. -/
theorem correcting_tick {roomRate elapsedMs : ℚ} {s : DriftLoop} (hrate : 0 < roomRate)
    (helapsed : 0 ≤ elapsedMs) (haction : s.action = soften s.driftMs roomRate) :
    (s.driftMs < 0 →
      s.driftMs + roomRate * elapsedMs * (6 / 1000) ≤ (s.tick roomRate elapsedMs).driftMs ∧
      (s.tick roomRate elapsedMs).driftMs ≤ s.driftMs + roomRate * elapsedMs * (5 / 100)) ∧
    (0 < s.driftMs →
      s.driftMs - roomRate * elapsedMs * (5 / 100) ≤ (s.tick roomRate elapsedMs).driftMs ∧
      (s.tick roomRate elapsedMs).driftMs ≤ s.driftMs - roomRate * elapsedMs * (6 / 1000)) := by
  rw [driftMs_tick, haction]
  constructor
  · intro hbehind
    obtain ⟨hlow, hhigh⟩ := soften_fast hbehind hrate
    have hleast : roomRate * (6 / 1000) ≤ (soften s.driftMs roomRate).rate - roomRate := by
      linarith
    have hmost : (soften s.driftMs roomRate).rate - roomRate ≤ roomRate * (5 / 100) := by linarith
    have hleast' := mul_le_mul_of_nonneg_right hleast helapsed
    have hmost' := mul_le_mul_of_nonneg_right hmost helapsed
    exact ⟨by linarith, by linarith⟩
  · intro hahead
    obtain ⟨hlow, hhigh⟩ := soften_slow hahead.le hrate
    have hleast : (soften s.driftMs roomRate).rate - roomRate ≤ -(roomRate * (6 / 1000)) := by
      linarith
    have hmost : -(roomRate * (5 / 100)) ≤ (soften s.driftMs roomRate).rate - roomRate := by
      linarith
    have hleast' := mul_le_mul_of_nonneg_right hleast helapsed
    have hmost' := mul_le_mul_of_nonneg_right hmost helapsed
    exact ⟨by linarith, by linarith⟩

/-- A correction between two ticks of the controller makes the drift smaller and does not
    overshoot. -/
theorem correcting_shrinks {roomRate elapsedMs : ℚ} {s : DriftLoop} (hrate : 0 < roomRate)
    (hslow : roomRate ≤ 2) (helapsed : 0 ≤ elapsedMs) (hshort : elapsedMs ≤ syncCheckIntervalMs)
    (hlarge : driftReleaseMs < |s.driftMs|) (haction : s.action = soften s.driftMs roomRate) :
    |(s.tick roomRate elapsedMs).driftMs| ≤ |s.driftMs| - roomRate * elapsedMs * (6 / 1000) ∧
      (s.driftMs < 0 → (s.tick roomRate elapsedMs).driftMs < 0) ∧
      (0 < s.driftMs → 0 < (s.tick roomRate elapsedMs).driftMs) := by
  have hway : roomRate * elapsedMs * (5 / 100) < driftReleaseMs := by
    have hmost : roomRate * elapsedMs ≤ 2 * syncCheckIntervalMs :=
      mul_le_mul hslow hshort helapsed (by norm_num)
    unfold syncCheckIntervalMs at hmost
    unfold driftReleaseMs
    linarith
  obtain ⟨hbehind, hahead⟩ := correcting_tick hrate helapsed haction
  rcases lt_trichotomy s.driftMs 0 with hneg | hzero | hpos
  · obtain ⟨hlow, hhigh⟩ := hbehind hneg
    rw [abs_of_neg hneg] at hlarge ⊢
    have hneg' : (s.tick roomRate elapsedMs).driftMs < 0 := by linarith
    rw [abs_of_neg hneg']
    exact ⟨by linarith, fun _ => hneg', fun hpos => absurd hneg hpos.not_gt⟩
  · rw [hzero, abs_zero] at hlarge
    exact absurd hlarge (by norm_num [driftReleaseMs])
  · obtain ⟨hlow, hhigh⟩ := hahead hpos
    rw [abs_of_pos hpos] at hlarge ⊢
    have hpos' : 0 < (s.tick roomRate elapsedMs).driftMs := by linarith
    rw [abs_of_pos hpos']
    exact ⟨by linarith, fun hneg => absurd hneg hpos.not_gt, fun _ => hpos'⟩

/-- A player at the room's rate keeps its drift. -/
theorem released_keeps {roomRate elapsedMs : ℚ} {s : DriftLoop} (hrate : s.action.rate = roomRate) :
    (s.tick roomRate elapsedMs).driftMs = s.driftMs := by
  rw [driftMs_tick, hrate]
  ring

-- ============================================================================
-- All ticks
-- ============================================================================

/-- The loop between two ticks. -/
structure Steady (roomRate : ℚ) (s : DriftLoop) : Prop where
  tracks : Tracks roomRate s
  unheld : s.drift.holdUntil ≤ s.nowMs

/-- No tick comes later than the interval after the one before it. -/
def Prompt (ticks : List ℚ) : Prop := ∀ t ∈ ticks, 0 ≤ t ∧ t ≤ syncCheckIntervalMs

theorem steady_tick {roomRate elapsedMs : ℚ} {s : DriftLoop} (hrate : 0 < roomRate)
    (hslow : roomRate ≤ 2) (helapsed : 0 ≤ elapsedMs) (hshort : elapsedMs ≤ syncCheckIntervalMs)
    (hs : Steady roomRate s) : Steady roomRate (s.tick roomRate elapsedMs) := by
  have hopen : s.drift.holdUntil ≤ s.nowMs + elapsedMs := by
    have hunheld := hs.unheld
    linarith
  have hnext : |(s.tick roomRate elapsedMs).driftMs| < hardSeekThresholdMs ∧
      (|(s.tick roomRate elapsedMs).driftMs| ≤ driftReleaseMs ∨ s.drift.correcting = true) := by
    cases hs.tracks with
    | correcting hlarge hsmall hlatch haction =>
        obtain ⟨hless, -⟩ := correcting_shrinks hrate hslow helapsed hshort hlarge haction
        have hway : 0 ≤ roomRate * elapsedMs * (6 / 1000) := by positivity
        exact ⟨by linarith, .inr hlatch⟩
    | released hsmall htype hkeep =>
        rw [released_keeps hkeep]
        refine ⟨lt_of_le_of_lt hsmall ?_, .inl hsmall⟩
        norm_num [driftReleaseMs, hardSeekThresholdMs]
  obtain ⟨hsmall, hactive⟩ := hnext
  have hactive' := hactive.imp_right (Or.inl (b := softCorrectionThresholdMs
    ≤ |(s.tick roomRate elapsedMs).driftMs|))
  obtain ⟨htracks, hhold⟩ := tracks_check roomRate hopen hsmall hactive'
  exact ⟨htracks, hhold.trans_le hopen⟩

theorem steady_run {roomRate : ℚ} {s : DriftLoop} (hrate : 0 < roomRate) (hslow : roomRate ≤ 2)
    {ticks : List ℚ} (hticks : Prompt ticks) (hs : Steady roomRate s) :
    Steady roomRate (run (tick roomRate) s ticks) :=
  run_invariant (fun _ _ hs ht => steady_tick hrate hslow ht.1 ht.2 hs) hs
    (eachStep_of_forall hticks)

/-- The drift keeps its sign. -/
theorem sign_run {roomRate : ℚ} {s : DriftLoop} (hrate : 0 < roomRate) (hslow : roomRate ≤ 2)
    {ticks : List ℚ} (hticks : Prompt ticks) (hs : Steady roomRate s) :
    (s.driftMs < 0 → (run (tick roomRate) s ticks).driftMs < 0) ∧
      (0 < s.driftMs → 0 < (run (tick roomRate) s ticks).driftMs) := by
  induction ticks using List.reverseRecOn with
  | nil => exact ⟨id, id⟩
  | append_singleton ticks t ih =>
      have hbefore : Prompt ticks := fun x hx => hticks x (List.mem_append_left _ hx)
      obtain ⟨hbehind, hahead⟩ := ih hbefore
      obtain ⟨helapsed, hshort⟩ := hticks t (by simp)
      have hs' := steady_run hrate hslow hbefore hs
      rw [run_append, run_cons, run_nil]
      generalize run (tick roomRate) s ticks = s' at hs' hbehind hahead ⊢
      cases hs'.tracks with
      | correcting hlarge hsmall hlatch haction =>
          obtain ⟨-, hneg, hpos⟩ :=
            correcting_shrinks hrate hslow helapsed hshort hlarge haction
          exact ⟨fun h => hneg (hbehind h), fun h => hpos (hahead h)⟩
      | released hsmall htype hkeep =>
          rw [released_keeps hkeep]
          exact ⟨hbehind, hahead⟩

/-- In the release band a player stays where it is, at the room's rate. -/
theorem released_run {roomRate : ℚ} {s : DriftLoop} (hrate : 0 < roomRate) (hslow : roomRate ≤ 2)
    {ticks : List ℚ} (hticks : Prompt ticks) (hs : Steady roomRate s)
    (hband : |s.driftMs| ≤ driftReleaseMs) :
    (run (tick roomRate) s ticks).driftMs = s.driftMs ∧
      (run (tick roomRate) s ticks).action.type = .noop ∧
      (run (tick roomRate) s ticks).action.rate = roomRate := by
  induction ticks generalizing s with
  | nil =>
      cases hs.tracks with
      | correcting hlarge hsmall hlatch haction => exact absurd hband (not_le.mpr hlarge)
      | released hsmall htype hkeep => exact ⟨rfl, htype, hkeep⟩
  | cons t ticks ih =>
      obtain ⟨helapsed, hshort⟩ := hticks t List.mem_cons_self
      have hs' := steady_tick hrate hslow helapsed hshort hs
      have hkeep : (s.tick roomRate t).driftMs = s.driftMs := by
        cases hs.tracks with
        | correcting hlarge hsmall hlatch haction => exact absurd hband (not_le.mpr hlarge)
        | released hsmall htype hkeep => exact released_keeps hkeep
      rw [← hkeep] at hband ⊢
      exact ih (fun x hx => hticks x (List.mem_cons_of_mem _ hx)) hs' hband

/-- After `n` full intervals the player is in the release band, or has come nearer by at least
    the least correction of each. -/
theorem full_run {roomRate : ℚ} {s : DriftLoop} (hrate : 0 < roomRate) (hslow : roomRate ≤ 2)
    (hs : Steady roomRate s) (n : ℕ) :
    |(run (tick roomRate) s (List.replicate n syncCheckIntervalMs)).driftMs| ≤ driftReleaseMs ∨
      |(run (tick roomRate) s (List.replicate n syncCheckIntervalMs)).driftMs|
        ≤ |s.driftMs| - n * (roomRate * syncCheckIntervalMs * (6 / 1000)) := by
  have hinterval : (0 : ℚ) ≤ syncCheckIntervalMs := by norm_num [syncCheckIntervalMs]
  induction n with
  | zero => exact .inr (by simp)
  | succ n ih =>
      have hprompt : Prompt (List.replicate n syncCheckIntervalMs) := by
        intro t ht
        obtain rfl := List.eq_of_mem_replicate ht
        exact ⟨hinterval, le_rfl⟩
      have hs' := steady_run hrate hslow hprompt hs
      rw [List.replicate_succ', run_append, run_cons, run_nil]
      generalize run (tick roomRate) s (List.replicate n syncCheckIntervalMs) = s' at hs' ih ⊢
      cases hs'.tracks with
      | correcting hlarge hsmall hlatch haction =>
          obtain ⟨hless, -⟩ := correcting_shrinks hrate hslow hinterval le_rfl hlarge haction
          rcases ih with hband | hnear
          · exact absurd hband (not_le.mpr hlarge)
          · push_cast
            exact .inr (by linarith)
      | released hsmall htype hkeep =>
          rw [released_keeps hkeep]
          exact .inl hsmall

-- ============================================================================
-- Convergence
-- ============================================================================

/-- What the loop does to a drift. -/
structure Converges (roomRate : ℚ) (s : DriftLoop) : Prop where
  /-- Every tick that takes time makes a drift beyond the release band smaller. -/
  shrinks : ∀ ticks, Prompt ticks → ∀ t, 0 ≤ t → t ≤ syncCheckIntervalMs →
    driftReleaseMs < |(run (tick roomRate) s ticks).driftMs| →
      |((run (tick roomRate) s ticks).tick roomRate t).driftMs|
        ≤ |(run (tick roomRate) s ticks).driftMs| ∧
      (0 < t → |((run (tick roomRate) s ticks).tick roomRate t).driftMs|
        < |(run (tick roomRate) s ticks).driftMs|)
  sign : ∀ ticks, Prompt ticks →
    (s.driftMs < 0 → (run (tick roomRate) s ticks).driftMs < 0) ∧
      (0 < s.driftMs → 0 < (run (tick roomRate) s ticks).driftMs)
  seekless : ∀ ticks, Prompt ticks → (run (tick roomRate) s ticks).action.type ≠ .hardSeek
  /-- Full intervals lead to the release band. -/
  arrives : ∃ n, |(run (tick roomRate) s (List.replicate n syncCheckIntervalMs)).driftMs|
    ≤ driftReleaseMs
  /-- From the first tick in the release band on, the player runs at the room's rate. -/
  settles : ∀ ticks later, Prompt (ticks ++ later) →
    |(run (tick roomRate) s ticks).driftMs| ≤ driftReleaseMs →
      (run (tick roomRate) s (ticks ++ later)).driftMs = (run (tick roomRate) s ticks).driftMs ∧
      (run (tick roomRate) s (ticks ++ later)).action.type = .noop ∧
      (run (tick roomRate) s (ticks ++ later)).action.rate = roomRate

/-- **Convergence.**  A drift between the soft and the hard threshold shrinks to the release
    band without overshoot. -/
theorem soft_correction_converges (d : DriftCorrector) (expectedMs actualMs roomRate nowMs : ℚ)
    (hrate : 0 < roomRate) (hslow : roomRate ≤ 2) (hunheld : d.holdUntil ≤ nowMs)
    (hlow : softCorrectionThresholdMs ≤ |actualMs - expectedMs|)
    (hhigh : |actualMs - expectedMs| < hardSeekThresholdMs) :
    Converges roomRate (check d expectedMs actualMs roomRate nowMs) := by
  obtain ⟨htracks, hhold⟩ := tracks_check roomRate hunheld hhigh (.inr (.inr hlow))
  have hs : Steady roomRate (check d expectedMs actualMs roomRate nowMs) :=
    ⟨htracks, hhold.trans_le hunheld⟩
  generalize check d expectedMs actualMs roomRate nowMs = s at hs
  constructor
  · intro ticks hticks t helapsed hshort hlarge
    have hs' := steady_run hrate hslow hticks hs
    generalize run (tick roomRate) s ticks = s' at hs' hlarge ⊢
    cases hs'.tracks with
    | correcting _ hsmall hlatch haction =>
        obtain ⟨hless, -⟩ := correcting_shrinks hrate hslow helapsed hshort hlarge haction
        refine ⟨hless.trans (sub_le_self _ (by positivity)), fun hpos => ?_⟩
        exact lt_of_le_of_lt hless (sub_lt_self _ (by positivity))
    | released hsmall htype hkeep => exact absurd hsmall (not_le.mpr hlarge)
  · exact fun ticks hticks => sign_run hrate hslow hticks hs
  · intro ticks hticks
    cases (steady_run hrate hslow hticks hs).tracks with
    | correcting hlarge hsmall hlatch haction =>
        rw [haction]
        exact soften_type_ne _ _
    | released hsmall htype hkeep =>
        rw [htype]
        decide
  · -- the least correction of an interval, taken often enough, exceeds any drift
    have hgain : 0 < roomRate * syncCheckIntervalMs * (6 / 1000) := by
      unfold syncCheckIntervalMs
      positivity
    obtain ⟨n, hn⟩ := Archimedean.arch |s.driftMs| hgain
    rw [nsmul_eq_mul] at hn
    refine ⟨n, ?_⟩
    rcases full_run hrate hslow hs n with hband | hnear
    · exact hband
    · have hrelease : (0 : ℚ) ≤ driftReleaseMs := by norm_num [driftReleaseMs]
      linarith
  · intro ticks later hticks hband
    have hbefore : Prompt ticks := fun t ht => hticks t (List.mem_append_left _ ht)
    have hafter : Prompt later := fun t ht => hticks t (List.mem_append_right _ ht)
    rw [run_append]
    exact released_run hrate hslow hafter (steady_run hrate hslow hbefore hs) hband

/-- A client that is a second behind a room at normal speed. -/
theorem soft_correction_converges_behind :
    (check initial 1000 0 1 0).action.type = .softSpeedUp ∧
      Converges 1 (check initial 1000 0 1 0) := by
  refine ⟨by decide +kernel, soft_correction_converges initial 1000 0 1 0 ?_ ?_ ?_ ?_ ?_⟩
  · exact one_pos
  · exact one_le_two
  · exact le_rfl
  · decide +kernel
  · decide +kernel

end DriftLoop

end WatchTogether.Web

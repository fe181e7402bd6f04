/-
  WatchTogether.Rooms.State

  The authoritative timeline of a room (`internal/rooms/state.go`): the playback
  state, the position it expects at a server time, and the accepted rates.

  Positions and times are `Int64` with Go's wrap-around addition.  `Revision` and
  `TimelineEpoch` only ever count accepted updates up from zero, so they are
  natural numbers.
-/

import Mathlib.Algebra.Order.Ring.Rat
import WatchTogether.Model

namespace WatchTogether.Rooms

/-- `scheduleLeadMs`. -/
def scheduleLeadMs : Int64 := 350

/-- `hostDriftThresholdMs`. -/
def hostDriftThresholdMs : Int64 := 750

/-- `hostDriftConfirmations`. -/
def hostDriftConfirmations : Nat := 2

/-- `hostAnchorMinIntervalMs`. -/
def hostAnchorMinIntervalMs : Int64 := 15000

/-- `PlaybackState`.  The empty `MediaID` is "no media"; `ResumeIntent` is `none`
    where Go has the empty phase. -/
structure PlaybackState where
  mediaID : String
  revision : Nat
  timelineEpoch : Nat
  phase : Phase
  anchorPositionMs : Int64
  anchorServerTimeMs : Int64
  playbackRate : ℚ
  durationMs : Int64
  resumeIntent : Option Phase
deriving DecidableEq

/-- `int64(float64(elapsed) * rate)`: the product is exact and truncated toward zero.
    Where it does not fit into 64 bits, Go leaves the result to the implementation; here
    it wraps. -/
def scaleElapsed (elapsed : Int64) (rate : ℚ) : Int64 :=
  Int64.ofInt (Int.tdiv (elapsed.toInt * rate.num) rate.den)

/-- The final clamp of `Expected` into `[0, durationMs]`; an unknown duration (`0`)
    does not bound. -/
def clampPosition (durationMs p : Int64) : Int64 :=
  if p < 0 then 0
  else if 0 < durationMs ∧ durationMs < p then durationMs
  else p

namespace PlaybackState

/-- `PlaybackState.Expected`. -/
def expected (s : PlaybackState) (now : Int64) : Int64 :=
  let p :=
    if s.phase = .playing ∧ s.anchorServerTimeMs < now then
      s.anchorPositionMs + scaleElapsed (now - s.anchorServerTimeMs) s.playbackRate
    else s.anchorPositionMs
  clampPosition s.durationMs p

end PlaybackState

/-- `validRate`: within `0.0001` of one of the offered rates. -/
def validRate (v : ℚ) : Bool :=
  [1 / 2, 3 / 4, 1, 5 / 4, 3 / 2, 2].any (fun x => decide (|v - x| < 1 / 10000))

/-! ## Expected positions -/

theorem clampPosition_idem (d p : Int64) :
    clampPosition d (clampPosition d p) = clampPosition d p := by
  unfold clampPosition
  by_cases hp : p < 0
  · rw [if_pos hp]
    by_cases hd : 0 < d ∧ d < 0
    · exact absurd (Int64.lt_trans hd.1 hd.2) (Int64.lt_irrefl)
    · simp [hd]
  · rw [if_neg hp]
    by_cases hd : 0 < d ∧ d < p
    · have hd0 : ¬ d < 0 := fun h => Int64.lt_irrefl (Int64.lt_trans hd.1 h)
      simp [hd, hd0]
    · simp [hp, hd]

/-- Outside `playing` the expected position does not depend on the time. -/
theorem PlaybackState.expected_of_not_playing {s : PlaybackState} (h : s.phase ≠ .playing)
    (now : Int64) : s.expected now = clampPosition s.durationMs s.anchorPositionMs := by
  simp [PlaybackState.expected, h]

/-- Freezing a state at `now` keeps the position it expected at `now`, for ever. -/
theorem PlaybackState.expected_freeze (s : PlaybackState) (now later : Int64) {s' : PlaybackState}
    (hphase : s'.phase ≠ .playing) (hanchor : s'.anchorPositionMs = s.expected now)
    (hdur : s'.durationMs = s.durationMs) : s'.expected later = s.expected now := by
  rw [PlaybackState.expected_of_not_playing hphase, hanchor, hdur]
  exact clampPosition_idem ..

end WatchTogether.Rooms

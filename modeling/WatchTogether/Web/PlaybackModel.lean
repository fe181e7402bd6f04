/-
  WatchTogether.Web.PlaybackModel

  The playback state as it arrives at a browser, and `expectedPosition` of it
  (`web/src/player/PlaybackModel.ts`), beside `Expected` of the server.
-/

import WatchTogether.Rooms.ExactTimeline
import WatchTogether.Web.SyncController

namespace WatchTogether.Web

open Rooms

-- ============================================================================
-- The state as JSON
-- ============================================================================

/-- `PlaybackState` of `web/src/realtime/protocol.ts`; an absent field is `none`. -/
structure WireState where
  mediaID : Option String
  revision : ℚ
  timelineEpoch : ℚ
  phase : Phase
  anchorPositionMs : ℚ
  anchorServerTimeMs : ℚ
  playbackRate : ℚ
  durationMs : Option ℚ
  resumeIntent : Option Phase

/-- What `json.Marshal` writes of the state: `omitempty` drops the empty media id, the zero
    duration and the empty intent. -/
def WireState.ofServer (s : PlaybackState) : WireState where
  mediaID := if s.mediaID = "" then none else some s.mediaID
  revision := s.revision
  timelineEpoch := s.timelineEpoch
  phase := s.phase
  anchorPositionMs := ms s.anchorPositionMs
  anchorServerTimeMs := ms s.anchorServerTimeMs
  playbackRate := s.playbackRate
  durationMs := if s.durationMs = 0 then none else some (ms s.durationMs)
  resumeIntent := s.resumeIntent

/-- `expectedPosition`; a duration of zero is as good as none. -/
def WireState.expectedPosition (state : WireState) (serverNowMs : ℚ) : ℚ :=
  let position :=
    if state.phase = .playing ∧ state.anchorServerTimeMs < serverNowMs then
      state.anchorPositionMs + (serverNowMs - state.anchorServerTimeMs) * state.playbackRate
    else state.anchorPositionMs
  max 0 (match state.durationMs with
    | some d => if d ≠ 0 then min position d else position
    | none => position)

theorem ms_eq_zero {x : Int64} : ms x = 0 ↔ x = 0 := by
  rw [ms, Int.cast_eq_zero]
  constructor
  · intro h
    exact Int64.toInt_inj.mp (h.trans int64_toInt_zero.symm)
  · rintro rfl
    exact int64_toInt_zero

/-- The controller works on the state that the server encodes. -/
theorem expectedPosition_ofServer (s : PlaybackState) (now : ℚ) :
    (WireState.ofServer s).expectedPosition now = expectedPosition s now := by
  rw [WireState.expectedPosition, expectedPosition]
  by_cases hduration : s.durationMs = 0
  · simp [WireState.ofServer, hduration]
  · have hms : ms s.durationMs ≠ 0 := fun h => hduration (ms_eq_zero.mp h)
    simp [WireState.ofServer, hduration, hms]

-- ============================================================================
-- One timeline
-- ============================================================================

/-- The two clamps agree up to the fraction. -/
theorem clampInt_floor {d : Int} (hd : 0 ≤ d) (x : ℚ) :
    clampInt d ⌊x⌋ = ⌊max 0 (if d ≠ 0 then min x d else x)⌋ := by
  rw [Int.floor_mono.map_max, Int.floor_zero]
  by_cases hzero : d = 0
  · simp only [hzero, clampInt, ne_eq, not_true_eq_false, if_false]
    split_ifs <;> omega
  · rw [if_pos hzero, Int.floor_mono.map_min, Int.floor_intCast, clampInt]
    split_ifs <;> omega

/-- The position before the clamp is that of the browser, without the fraction. -/
theorem unclamped_eq_floor {s : PlaybackState} (hrate : 0 ≤ s.playbackRate) (now : Int64) :
    s.unclamped now =
      ⌊if s.phase = .playing ∧ ms s.anchorServerTimeMs < ms now then
        ms s.anchorPositionMs + (ms now - ms s.anchorServerTimeMs) * s.playbackRate
      else ms s.anchorPositionMs⌋ := by
  have hlater : ms s.anchorServerTimeMs < ms now ↔ s.anchorServerTimeMs < now := by
    rw [ms, ms, Int.cast_lt, Int64.lt_iff_toInt_lt]
  rw [PlaybackState.unclamped]
  simp only [hlater]
  split
  · rename_i hplaying
    have hspan : 0 ≤ s.sinceAnchor now := by
      have hlt := Int64.lt_iff_toInt_lt.mp hplaying.2
      rw [PlaybackState.sinceAnchor]
      omega
    have hcast : ms now - ms s.anchorServerTimeMs = (s.sinceAnchor now : ℚ) := by
      rw [ms, ms, PlaybackState.sinceAnchor, Int.cast_sub]
    rw [truncMul_eq_floor hspan hrate, hcast, ms, Int.floor_intCast_add]
  · rw [ms, Int.floor_intCast]

/-- **One timeline.**  As long as nothing outgrows an `int64`, the server's position is the
    browser's without its fraction. -/
theorem expected_eq_floor (s : PlaybackState) (now : Int64) (hanchor : 0 ≤ s.anchorPositionMs)
    (hduration : 0 ≤ s.durationMs) (hrate : 0 < s.playbackRate) (hfits : s.Fits now) :
    (s.expected now).toInt = ⌊(WireState.ofServer s).expectedPosition (ms now)⌋ ∧
    |((s.expected now).toInt : ℚ) - (WireState.ofServer s).expectedPosition (ms now)| < 1 := by
  rw [Int64.le_iff_toInt_le, int64_toInt_zero] at hanchor hduration
  have hfloor : (s.expected now).toInt =
      ⌊(WireState.ofServer s).expectedPosition (ms now)⌋ := by
    have hzero : s.durationMs ≠ 0 ↔ s.durationMs.toInt ≠ 0 := by
      rw [ne_eq, ne_eq, ← Int.cast_eq_zero (α := ℚ)]
      exact not_congr ms_eq_zero.symm
    rw [PlaybackState.expected_toInt hanchor hrate.le hfits, unclamped_eq_floor hrate.le,
      clampInt_floor hduration, expectedPosition_ofServer, expectedPosition]
    simp only [hzero]
    rfl
  refine ⟨hfloor, ?_⟩
  rw [hfloor, abs_sub_comm, ← Int.fract, abs_of_nonneg (Int.fract_nonneg _)]
  exact Int.fract_lt_one _

/-- A film that plays at one and a half. -/
def fastFilm : PlaybackState :=
  ⟨"m", 1, 0, .playing, 100000, 1000000, 3 / 2, 200000, none⟩

theorem expected_eq_floor_fastFilm :
    (fastFilm.expected 1005001).toInt = 107501 ∧
    (WireState.ofServer fastFilm).expectedPosition 1005001 = 107501 + 1 / 2 ∧
    (fastFilm.expected 1005001).toInt =
      ⌊(WireState.ofServer fastFilm).expectedPosition (ms 1005001)⌋ :=
  ⟨by decide +kernel, by decide +kernel,
    (expected_eq_floor fastFilm 1005001 (by decide) (by decide) (by decide +kernel)
      (fun _ _ => by decide +kernel)).1⟩

end WatchTogether.Web

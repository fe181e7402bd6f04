/-
  WatchTogether.Rooms.ExactTimeline

  `PlaybackState.Expected` over unbounded integers, and where its 64-bit computation agrees
  with it.
-/

import WatchTogether.Lib.Truncation
import WatchTogether.Rooms.State

namespace WatchTogether.Rooms

theorem int64_toInt_zero : (0 : Int64).toInt = 0 := by decide

/-- `clampPosition` over the integers. -/
def clampInt (durationMs p : Int) : Int :=
  if p < 0 then 0 else if 0 < durationMs ∧ durationMs < p then durationMs else p

theorem clampPosition_toInt (d p : Int64) :
    (clampPosition d p).toInt = clampInt d.toInt p.toInt := by
  simp only [clampPosition, clampInt, Int64.lt_iff_toInt_lt, int64_toInt_zero]
  split
  · exact int64_toInt_zero
  · split <;> rfl

theorem clampInt_mono {d p p' : Int} (h : p ≤ p') : clampInt d p ≤ clampInt d p' := by
  simp only [clampInt]
  split_ifs <;> omega

theorem clampInt_nonneg (d p : Int) : 0 ≤ clampInt d p := by
  simp only [clampInt]
  split_ifs <;> omega

theorem clampInt_le {d : Int} (hd : 0 < d) (p : Int) : clampInt d p ≤ d := by
  simp only [clampInt]
  split_ifs <;> omega

theorem clampInt_pos {d p : Int} (hp : 0 < p) : 0 < clampInt d p := by
  simp only [clampInt]
  split_ifs <;> omega

namespace PlaybackState

/-- The milliseconds since the anchor. -/
def sinceAnchor (s : PlaybackState) (now : Int64) : Int := now.toInt - s.anchorServerTimeMs.toInt

/-- The position before the clamp, in unbounded arithmetic. -/
def unclamped (s : PlaybackState) (now : Int64) : Int :=
  if s.phase = .playing ∧ s.anchorServerTimeMs < now then
    s.anchorPositionMs.toInt + truncMul (s.sinceAnchor now) s.playbackRate
  else s.anchorPositionMs.toInt

/-- At `now` neither the time since the anchor nor the position outgrows an `int64`. -/
def Fits (s : PlaybackState) (now : Int64) : Prop :=
  s.phase = .playing → s.anchorServerTimeMs < now →
    s.sinceAnchor now < 2 ^ 63 ∧
    s.anchorPositionMs.toInt + truncMul (s.sinceAnchor now) s.playbackRate < 2 ^ 63

/-- The addition in `Expected`, wherever the time since the anchor fits. -/
theorem advance_toInt {s : PlaybackState} {now : Int64} (hlater : s.anchorServerTimeMs < now)
    (hsince : s.sinceAnchor now < 2 ^ 63) :
    (s.anchorPositionMs + scaleElapsed (now - s.anchorServerTimeMs) s.playbackRate).toInt =
      (s.anchorPositionMs.toInt + truncMul (s.sinceAnchor now) s.playbackRate).bmod (2 ^ 64) := by
  have hpos : 0 < s.sinceAnchor now := by
    rw [sinceAnchor]
    exact Int.sub_pos.mpr (Int64.lt_iff_toInt_lt.mp hlater)
  have hsub : (now - s.anchorServerTimeMs).toInt = s.sinceAnchor now := by
    rw [Int64.toInt_sub]
    exact Int.bmod_eq_of_le (by rw [sinceAnchor] at *; omega) (by rw [sinceAnchor] at *; omega)
  rw [Int64.toInt_add, scaleElapsed, Int64.toInt_ofInt, hsub]
  exact Int.add_bmod_bmod

/-- `Expected` is exact where nothing outgrows its word. -/
theorem expected_toInt {s : PlaybackState} {now : Int64} (hanchor : 0 ≤ s.anchorPositionMs.toInt)
    (hrate : 0 ≤ s.playbackRate) (hfits : s.Fits now) :
    (s.expected now).toInt = clampInt s.durationMs.toInt (s.unclamped now) := by
  rw [expected, clampPosition_toInt, unclamped]
  congr 1
  split
  · rename_i hplaying
    obtain ⟨hsince, hsum⟩ := hfits hplaying.1 hplaying.2
    have hpos : 0 ≤ s.sinceAnchor now := by
      have hlt := Int64.lt_iff_toInt_lt.mp hplaying.2
      rw [sinceAnchor]
      omega
    have hadvance := truncMul_nonneg hpos hrate
    rw [advance_toInt hplaying.2 hsince, Int.bmod_eq_of_le (by omega) (by omega)]
  · rfl

end PlaybackState

end WatchTogether.Rooms

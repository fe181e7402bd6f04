/-
  WatchTogether.Web.DriftCorrector

  The stateful drift controller of a member's player
  (`web/src/player/DriftCorrector.ts`): a dead band with hysteresis, proportional
  rate changes, and a hard seek only for a large drift that has lasted.

  Times and positions are JavaScript numbers, here rationals.
-/

import Mathlib.Algebra.Order.Ring.Rat

namespace WatchTogether.Web

/-- `DRIFT_RELEASE_MS`. -/
def driftReleaseMs : ℚ := 220

/-- `SOFT_CORRECTION_THRESHOLD_MS`. -/
def softCorrectionThresholdMs : ℚ := 420

/-- `HARD_SEEK_THRESHOLD_MS`. -/
def hardSeekThresholdMs : ℚ := 2400

/-- `HARD_SEEK_CONFIRM_MS`. -/
def hardSeekConfirmMs : ℚ := 1800

/-- `HARD_SEEK_COOLDOWN_MS`. -/
def hardSeekCooldownMs : ℚ := 12000

/-- `POST_SEEK_SETTLE_MS`. -/
def postSeekSettleMs : ℚ := 3500

/-- The `type` of a `Correction`. -/
inductive CorrectionType where
  | noop
  | softSpeedUp
  | softSlowDown
  | hardSeek
deriving DecidableEq, Repr

/-- `Correction`. -/
structure Correction where
  type : CorrectionType
  rate : ℚ
  driftMs : ℚ
  targetMs : Option ℚ
deriving DecidableEq

/-- `DriftCorrector`.  `lastHardSeekAt` is `none` where the source has `-Infinity`. -/
structure DriftCorrector where
  correcting : Bool
  hardCandidateSince : Option ℚ
  hardCandidateDirection : Int
  lastHardSeekAt : Option ℚ
  holdUntil : ℚ
deriving DecidableEq

namespace DriftCorrector

/-- A new corrector. -/
def initial : DriftCorrector := ⟨false, none, 0, none, 0⟩

/-- `clearHardCandidate`. -/
def clearHardCandidate (d : DriftCorrector) : DriftCorrector :=
  { d with hardCandidateSince := none, hardCandidateDirection := 0 }

/-- `reset`. -/
def reset (nowMs settleMs : ℚ) (d : DriftCorrector) : DriftCorrector :=
  let d := { d with correcting := false }.clearHardCandidate
  { d with holdUntil := max d.holdUntil (nowMs + settleMs) }

/-- The large drift has kept its direction long enough, and the last seek is long ago. -/
def seekDue (nowMs : ℚ) (d : DriftCorrector) : Bool :=
  d.hardCandidateSince.any (fun since => decide (hardSeekConfirmMs ≤ nowMs - since)) &&
    d.lastHardSeekAt.all (fun last => decide (hardSeekCooldownMs ≤ nowMs - last))

/-- A large drift in `direction` starts over as a candidate or stays one. -/
def candidate (direction : Int) (nowMs : ℚ) (d : DriftCorrector) : DriftCorrector :=
  if direction ≠ d.hardCandidateDirection then
    { d with hardCandidateDirection := direction, hardCandidateSince := some nowMs }
  else d

/-- The proportional rate change at the end of `correct`. -/
def soften (driftMs roomRate : ℚ) : Correction :=
  let scale := min 1 (max 0 ((|driftMs| - driftReleaseMs) / (hardSeekThresholdMs - driftReleaseMs)))
  if driftMs < 0 then
    ⟨.softSpeedUp, roomRate * (1 + (8 / 1000 + scale * (42 / 1000))), driftMs, none⟩
  else
    ⟨.softSlowDown, roomRate * (1 - (6 / 1000 + scale * (24 / 1000))), driftMs, none⟩

/-- `correct`. -/
def correct (expectedMs actualMs roomRate nowMs : ℚ) (d : DriftCorrector) :
    Correction × DriftCorrector :=
  let driftMs := actualMs - expectedMs
  let noop : Correction := ⟨.noop, roomRate, driftMs, none⟩
  if nowMs < d.holdUntil then (noop, d)
  else if |driftMs| ≤ driftReleaseMs then
    (noop, { d with correcting := false }.clearHardCandidate)
  else if d.correcting = false ∧ |driftMs| < softCorrectionThresholdMs then
    (noop, d.clearHardCandidate)
  else
    let d := { d with correcting := true }
    if hardSeekThresholdMs ≤ |driftMs| then
      let d := d.candidate (if driftMs < 0 then -1 else 1) nowMs
      if d.seekDue nowMs then
        let d := { d with
          lastHardSeekAt := some nowMs, holdUntil := nowMs + postSeekSettleMs, correcting := false }
        (⟨.hardSeek, roomRate, driftMs, some expectedMs⟩, d.clearHardCandidate)
      else (soften driftMs roomRate, d)
    else (soften driftMs roomRate, d.clearHardCandidate)

end DriftCorrector

end WatchTogether.Web

/-
  WatchTogether.Web.ClockSynchronizer

  `ClockSynchronizer` (`web/src/player/ClockSynchronizer.ts`): an estimate of the
  server's clock from the round trips of `clock.ping`.

  The readings of `performance.now()` and `Date.now()` are arguments.  A number is a
  rational, and a field of a pong that is no number is `none`; the `NaN` it leads to fails
  `Number.isFinite`.
-/

import Mathlib.Data.List.Sort
import Mathlib.Data.Rat.Defs
import Mathlib.Algebra.Order.Ring.Rat

namespace WatchTogether.Web

/-- `Sample`: what one pong says of the clock. -/
structure Sample where
  rtt : ℚ
  offset : ℚ
deriving DecidableEq, Repr

/-- `MAX_SAMPLES`. -/
def maxSamples : Nat := 12

/-- `MAX_VALID_RTT_MS`. -/
def maxValidRttMs : ℚ := 5000

/-- `OFFSET_NOISE_FLOOR_MS`. -/
def offsetNoiseFloorMs : ℚ := 8

/-- `MAX_OFFSET_STEP_MS`. -/
def maxOffsetStepMs : ℚ := 25

/-- `OFFSET_SMOOTHING`. -/
def offsetSmoothing : ℚ := 1 / 5

/-- `ClockSynchronizer`: its samples, the pings under way, and the estimate. -/
structure ClockSynchronizer where
  samples : List Sample
  /-- `Map<number, number>`: the key of an entry is also its value. -/
  pending : List ℚ
  offset : ℚ
deriving DecidableEq, Repr

/-- The payload of a `clock.pong`. -/
structure Pong where
  clientMonoMs : Option ℚ
  serverRecvUnixMs : Option ℚ
  serverSendUnixMs : Option ℚ
deriving DecidableEq, Repr

namespace ClockSynchronizer

/-- A new synchronizer trusts the client's clock. -/
def new (dateNow monoNow : ℚ) : ClockSynchronizer := ⟨[], [], dateNow - monoNow⟩

/-- `pingPayload`: the payload, and the synchronizer that waits for its pong. -/
def pingPayload (now : ℚ) (s : ClockSynchronizer) : ClockSynchronizer × ℚ :=
  ({ s with pending := if now ∈ s.pending then s.pending else s.pending ++ [now] }, now)

/-- The samples by their round trips. -/
def sortSamples (l : List Sample) : List Sample :=
  l.insertionSort (fun a b => a.rtt ≤ b.rtt)

/-- The median of the offsets of the five fastest samples. -/
def candidate (samples : List Sample) : ℚ :=
  let best := ((samples.take (min 5 samples.length)).map (fun x => x.offset)).insertionSort
    (· ≤ ·)
  best.getD (best.length / 2) 0

/-- The part of `acceptPong` behind the check of the round trip. -/
def accept (x : Sample) (s : ClockSynchronizer) : ClockSynchronizer :=
  let samples := (sortSamples (s.samples ++ [x])).take maxSamples
  let s := { s with samples := samples }
  let candidate := candidate samples
  if samples.length = 1 then { s with offset := candidate }
  else
    let delta := candidate - s.offset
    if |delta| ≤ offsetNoiseFloorMs then s
    else
      let step := max (-maxOffsetStepMs) (min maxOffsetStepMs (delta * offsetSmoothing))
      { s with offset := s.offset + step }

/-- `acceptPong`. -/
def acceptPong (payload : Pong) (clientReceive : ℚ) (s : ClockSynchronizer) : ClockSynchronizer :=
  match payload.clientMonoMs with
  | none => s
  | some clientSend =>
      if clientSend ∈ s.pending then
        let s := { s with pending := s.pending.erase clientSend }
        match payload.serverRecvUnixMs, payload.serverSendUnixMs with
        | some serverRecv, some serverSend =>
            let serverProcessing := serverSend - serverRecv
            let rtt := clientReceive - clientSend - serverProcessing
            if rtt < 0 ∨ maxValidRttMs < rtt then s
            else s.accept ⟨rtt, ((serverRecv - clientSend) + (serverSend - clientReceive)) / 2⟩
        | _, _ => s
      else s

/-- `serverNow`. -/
def serverNow (monoNow : ℚ) (s : ClockSynchronizer) : ℚ := monoNow + s.offset

/-- `reset`. -/
def reset (dateNow monoNow : ℚ) (_ : ClockSynchronizer) : ClockSynchronizer :=
  ⟨[], [], dateNow - monoNow⟩

/-- A pong nobody waits for is dropped. -/
theorem acceptPong_unknown {payload : Pong} {s : ClockSynchronizer}
    (h : ∀ x, payload.clientMonoMs = some x → x ∉ s.pending) (clientReceive : ℚ) :
    s.acceptPong payload clientReceive = s := by
  unfold acceptPong
  split
  · rfl
  · rename_i clientSend hsend
    rw [if_neg (h clientSend hsend)]

example : (((new 0 0).pingPayload 100).1.acceptPong ⟨some 100, some 550, some 560⟩ 130).offset
    = 440 := by decide +kernel

end ClockSynchronizer

end WatchTogether.Web

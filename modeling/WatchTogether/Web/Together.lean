/-
  WatchTogether.Web.Together

  Members who watch one film.  The browser of a member is the clock link of its connection
  (`ClockSynchronizer` against `Handler.ServeHTTP`), its `SyncController`, whose `tick` comes
  round from time to time, and a video element.

  The element always has data, seeks at once, and plays at the rate last written to it.  The
  room stays in the state it is in, and the connection is not lost: `ClockSynchronizer.reset`
  drops the samples.
-/

import WatchTogether.Realtime.ClockPing
import WatchTogether.Web.DriftHistory
import WatchTogether.Web.SyncController

namespace WatchTogether.Web

open LabelledRun Realtime Rooms

/-- A playing room, the length of its film, and the longest time between two ticks. -/
structure Airing where
  state : PlaybackState
  lengthS : ℚ
  gapMs : ℚ
  playing : state.phase = .playing
  rate_pos : 0 < state.playbackRate
  /-- Five per cent of the time between two ticks: from the release band, a correction does not
      lead out of the tolerated drift on the other side. -/
  paced : 5 / 100 * state.playbackRate * gapMs ≤ driftReleaseMs + softCorrectionThresholdMs

namespace Airing

/-- The rate of the room. -/
def rate (a : Airing) : ℚ := a.state.playbackRate

/-- Where the film is at a time of the server. -/
def line (a : Airing) (serverMs : ℚ) : ℚ :=
  ms a.state.anchorPositionMs + (serverMs - ms a.state.anchorServerTimeMs) * a.rate

/-- The film has begun, and is not over. -/
def OnAir (a : Airing) (serverMs : ℚ) : Prop :=
  ms a.state.anchorServerTimeMs ≤ serverMs ∧ 0 ≤ a.line serverMs ∧
    a.line serverMs ≤ 1000 * a.lengthS ∧
    (a.state.durationMs ≠ 0 → a.line serverMs ≤ ms a.state.durationMs)

instance (a : Airing) (serverMs : ℚ) : Decidable (a.OnAir serverMs) :=
  inferInstanceAs (Decidable (_ ∧ _ ∧ _ ∧ (_ → _)))

theorem line_add (a : Airing) (serverMs elapsedMs : ℚ) :
    a.line (serverMs + elapsedMs) = a.line serverMs + a.rate * elapsedMs := by
  unfold line
  ring

/-- On air, `expectedPosition` bounds nothing. -/
theorem expectedPosition_eq {a : Airing} {serverMs : ℚ} (h : a.OnAir serverMs) :
    expectedPosition a.state serverMs = a.line serverMs := by
  obtain ⟨hbegun, hnonneg, -, hduration⟩ := h
  have hplays : (if a.state.phase = .playing ∧ ms a.state.anchorServerTimeMs < serverMs then
      ms a.state.anchorPositionMs +
        (serverMs - ms a.state.anchorServerTimeMs) * a.state.playbackRate
      else ms a.state.anchorPositionMs) = a.line serverMs := by
    split_ifs with hlater
    · rfl
    · -- at the anchor itself, the line is at the anchor's position
      have hnow : serverMs = ms a.state.anchorServerTimeMs :=
        le_antisymm (not_lt.mp fun hlt => hlater ⟨a.playing, hlt⟩) hbegun
      rw [line, hnow, sub_self, zero_mul, add_zero]
  unfold expectedPosition
  dsimp only
  rw [hplays]
  split_ifs with hbounded
  · rw [min_eq_left (hduration hbounded), max_eq_right hnonneg]
  · exact max_eq_right hnonneg

end Airing

-- ============================================================================
-- A viewer
-- ============================================================================

/-- `HTMLMediaElement.HAVE_ENOUGH_DATA`. -/
def haveEnoughData : Nat := 4

/-- The browser of a member. -/
structure Viewer where
  link : ClockLink
  controller : SyncController
  /-- `currentTime`, in milliseconds, and `playbackRate` of the element. -/
  positionMs : ℚ
  rate : ℚ
  /-- When the controller has last ticked: a record that no code reads. -/
  checkedAt : ℚ

namespace Viewer

/-- What may happen in the browser. -/
inductive Label where
  | clock (l : ClockLink.Label)
  | tick

/-- What the controller sees. -/
def env (a : Airing) (v : Viewer) : BrowserEnv :=
  ⟨v.link.now, v.link.client.offset,
    ⟨v.positionMs / 1000, haveEnoughData, false, some a.lengthS, 0, 0, [(0, a.lengthS)], false⟩⟩

/-- What the element does. -/
def obey (v : Viewer) : Act → Viewer
  | .rate playbackRate => { v with rate := playbackRate }
  | .seek seconds _ _ _ => { v with positionMs := seconds * 1000 }
  | _ => v

/-- One step: the clock link's, in which the film may go on, or a tick of the controller. -/
def step (θ : ℚ) (a : Airing) (v : Viewer) : Label → Viewer
  | .clock l =>
      let link := v.link.step θ l
      { v with link := link, positionMs := v.positionMs + v.rate * (link.now - v.link.now) }
  | .tick =>
      let controller := v.controller.step (v.env a, .tick)
      controller.acts.foldl obey { v with controller := controller, checkedAt := v.link.now }

/-- How far the viewer is ahead of the film. -/
def error (θ : ℚ) (a : Airing) (v : Viewer) : ℚ := v.positionMs - a.line (v.link.now + θ)

/-- The estimate of the server's clock. -/
def estimate (v : Viewer) : ℚ := v.link.client.serverNow v.link.now

/-- A member's controller that shows the film, and has nothing to wait for. -/
structure Watches (a : Airing) (c : SyncController) : Prop where
  state : c.state = some a.state
  attached : c.attached = true
  ticking : c.tickTimer = true
  member : c.isHost = false
  unsuspected : c.bufferSuspected = false
  unconfirmed : c.confirmedBuffering = false

/-- From here on the controller corrects. -/
def openMs (v : Viewer) : ℚ :=
  max v.link.now (max v.controller.recoveryUntil v.controller.drift.holdUntil)

/-- What is expected of a step: the handler reads in time, there is a sample and no round trip is
    longer than twice the spread, no tick is missed, and ticks fall into the film. -/
def Fair (θ spreadMs : ℚ) (a : Airing) (v : Viewer) : Label → Prop
  | .clock l =>
      ClockLink.Fresh θ v.link l ∧ (v.link.step θ l).accepted ≠ [] ∧
        (∀ x ∈ (v.link.step θ l).accepted, x.rtt ≤ 2 * spreadMs) ∧
        (v.link.step θ l).now ≤ v.checkedAt + a.gapMs
  | .tick => a.OnAir v.estimate

instance (θ spreadMs : ℚ) (a : Airing) (v : Viewer) : (l : Label) → Decidable (Fair θ spreadMs a v l)
  | .clock l => inferInstanceAs (Decidable (ClockLink.Fresh θ v.link l ∧ _ ∧ _ ∧ _))
  | .tick => inferInstanceAs (Decidable (a.OnAir v.estimate))

/-- What is expected of a viewer at the start. -/
structure Tuned (θ spreadMs : ℚ) (a : Airing) (v : Viewer) : Prop where
  watches : Watches a v.controller
  sound : ClockLink.Sound θ v.link
  sampled : v.link.accepted ≠ []
  spread : ∀ x ∈ v.link.accepted, x.rtt ≤ 2 * spreadMs
  rate : v.rate = a.rate
  checked : v.checkedAt ≤ v.link.now
  due : v.link.now ≤ v.checkedAt + a.gapMs

/-- What is left of an error at the time `nowMs`, of a controller that corrects from `openMs` on:
    with the first tick after that, it goes down by at least 0.6 per cent of the room's progress, to
    the drift that is tolerated and the error of the clock. -/
def allowed (spreadMs : ℚ) (a : Airing) (errorMs openMs nowMs : ℚ) : ℚ :=
  max (softCorrectionThresholdMs + a.rate * spreadMs)
    (errorMs - 6 / 1000 * a.rate * (nowMs - (openMs + a.gapMs)))

/-- How far the viewer can be off at the time `nowMs`. -/
def reach (θ spreadMs : ℚ) (a : Airing) (v : Viewer) (nowMs : ℚ) : ℚ :=
  allowed spreadMs a |v.error θ a| v.openMs nowMs

-- ============================================================================
-- What a tick can do
-- ============================================================================

/-- What the controller is told of the position. -/
def driftMs (a : Airing) (v : Viewer) : ℚ := v.positionMs - a.line v.estimate

/-- A tick: the player settles, its rate is corrected, or it is moved to the film. -/
inductive Ticked (a : Airing) (v v' : Viewer) : Prop
  | settling (hearly : v.link.now < v.controller.recoveryUntil)
      (hrate : v'.rate = a.rate) (hposition : v'.positionMs = v.positionMs)
      (hrecovery : v'.controller.recoveryUntil = v.controller.recoveryUntil)
      (hhold : v'.controller.drift.holdUntil = v.controller.drift.holdUntil)
  | held (hearly : v.link.now < v.controller.drift.holdUntil)
      (hrate : v'.rate = a.rate) (hposition : v'.positionMs = v.positionMs)
      (hrecovery : v'.controller.recoveryUntil = v.controller.recoveryUntil)
      (hhold : v'.controller.drift.holdUntil = v.controller.drift.holdUntil)
  | tolerated (hsmall : |v.driftMs a| < softCorrectionThresholdMs)
      (hrate : v'.rate = a.rate) (hposition : v'.positionMs = v.positionMs)
  | softened (hlarge : driftReleaseMs < |v.driftMs a|)
      (hrate : v'.rate = (DriftCorrector.soften (v.driftMs a) a.rate).rate)
      (hposition : v'.positionMs = v.positionMs)
      (hrecovery : v'.controller.recoveryUntil ≤ v.link.now)
      (hhold : v'.controller.drift.holdUntil ≤ v.link.now)
  | seeked (hrate : v'.rate = a.rate) (hposition : v'.positionMs = a.line v.estimate)

/-- A status reaches the display alone. -/
theorem emitStatus_eq (next : SyncStatus) (s : SyncController) :
    ∃ status told, s.emitStatus next
        = { s with currentStatus := status, acts := s.acts ++ told } ∧
      ∀ v : Viewer, told.foldl obey v = v := by
  unfold SyncController.emitStatus
  split_ifs
  · exact ⟨s.currentStatus, [], by rw [List.append_nil], fun _ => rfl⟩
  · exact ⟨s.currentStatus, [], by rw [List.append_nil], fun _ => rfl⟩
  · exact ⟨some next, [.status next], rfl, fun _ => rfl⟩

theorem watches_tick {a : Airing} {v : Viewer} {c : SyncController} (hc : Watches a c)
    (hair : a.OnAir v.estimate) :
    c.tick (v.env a) = if v.link.now < c.recoveryUntil
      then (c.emit (.rate a.rate)).emitStatus .synced
      else c.correctDrift (v.env a) a.state := by
  have hplaying : ¬a.state.phase ≠ .playing := not_not.mpr a.playing
  have hbegun : ¬(v.env a).serverNow + 20 < ms a.state.anchorServerTimeMs := by
    have hanchor : ms a.state.anchorServerTimeMs ≤ (v.env a).serverNow := hair.1
    linarith
  have hdata : (v.env a).video.readyState = haveEnoughData := rfl
  have hready : ¬(c.attached = false ∨ (v.env a).video.readyState < haveMetadata) := by
    rw [hc.attached, hdata]
    decide
  have hsmooth : ¬(c.bufferSuspected = true ∨ c.confirmedBuffering = true ∨
      (v.env a).video.readyState < haveFutureData) := by
    rw [hc.unsuspected, hc.unconfirmed, hdata]
    decide
  have hmember : ¬c.isHost = true := by
    rw [hc.member]
    decide
  have hplays : ¬(v.env a).video.paused = true := Bool.false_ne_true
  unfold SyncController.tick
  rw [hc.state]
  dsimp only
  rw [if_neg hready, if_neg hplaying, if_neg hbegun, if_neg hsmooth, if_neg hmember,
    if_neg hplays]
  rfl

/-- What a tick leaves alone. -/
structure Carried (a : Airing) (v v' : Viewer) : Prop where
  link : v'.link = v.link
  checked : v'.checkedAt = v.link.now
  watches : Watches a v'.controller

/-- The element obeys the rate. -/
theorem applyCorrection_rate (env : BrowserEnv) (c : SyncController) {action : Correction}
    (htype : action.type ≠ .hardSeek) :
    ∃ since status told, c.applyCorrection env action = { c with
        softCorrectionSince := since, currentStatus := status,
        acts := c.acts ++ [.rate action.rate] ++ told } ∧
      ∀ v : Viewer, told.foldl obey v = v := by
  unfold SyncController.applyCorrection
  dsimp only
  split
  · rename_i hseek htarget
    exact absurd hseek htype
  · obtain ⟨status, told, heq, htold⟩ := emitStatus_eq .synced
      { c.emit (.rate action.rate) with softCorrectionSince := none }
    exact ⟨none, status, told, heq, htold⟩
  · generalize (c.emit (.rate action.rate)).softCorrectionSince.getD env.now = since
    obtain ⟨status, told, heq, htold⟩ := emitStatus_eq
      (if correctionStatusDelayMs ≤ env.now - since then .correcting else .synced)
      { c.emit (.rate action.rate) with softCorrectionSince := some since }
    exact ⟨some since, status, told, heq, htold⟩

/-- A seek to another place on the film is performed. -/
theorem seek_far {a : Airing} {v : Viewer} {c : SyncController} (target : Target)
    (hattached : c.attached = true) (hnonneg : 0 ≤ target.ms)
    (hlength : target.ms ≤ 1000 * a.lengthS) (hfar : 50 ≤ |v.positionMs - target.ms|) :
    c.seek (v.env a) .drift target
      = c.performSeek (v.env a) .drift target (target.ms / 1000) := by
  have hseconds : max 0 (target.ms / 1000) = target.ms / 1000 := max_eq_right (by positivity)
  have hcurrent : (v.env a).video.currentTime - target.ms / 1000
      = (v.positionMs - target.ms) / 1000 := (sub_div ..).symm
  have hseekable : ((v.env a).video.seekable.any fun r =>
      decide (r.1 - 5 / 100 ≤ target.ms / 1000 ∧ target.ms / 1000 ≤ r.2 + 5 / 100)) = true := by
    refine List.any_eq_true.mpr ⟨(0, a.lengthS), List.mem_singleton_self _, ?_⟩
    refine decide_eq_true ⟨?_, ?_⟩
    · linarith
    · linarith
  unfold SyncController.seek
  dsimp only
  rw [if_neg (by rw [hattached]; exact Bool.noConfusion), hseconds, if_neg, if_pos hseekable]
  rw [hcurrent, abs_div, abs_of_pos (by norm_num : (0 : ℚ) < 1000)]
  linarith

/-- The element obeys the rate, and is moved. -/
theorem applyCorrection_seek {a : Airing} {v : Viewer} {c : SyncController} (driftMs : ℚ)
    (hc : Watches a c) (hair : a.OnAir v.estimate)
    (hfar : 50 ≤ |v.positionMs - a.line v.estimate|) :
    ∃ status told target media,
      (c.applyCorrection (v.env a) ⟨.hardSeek, a.rate, driftMs, some (a.line v.estimate)⟩)
        = { c with
          drift := c.drift.reset v.link.now postSeekSettleMs, softCorrectionSince := none,
          currentStatus := status, pendingSeek := none,
          ignoreBufferUntil := v.link.now + programmaticSeekBufferGraceMs,
          recoveryUntil := v.link.now + postSeekSettleMs,
          acts := (c.acts ++ [.rate a.rate] ++ told)
            ++ [.seek (a.line v.estimate / 1000) .drift target media] } ∧
      ∀ v : Viewer, told.foldl obey v = v := by
  obtain ⟨-, hnonneg, hlength, -⟩ := hair
  obtain ⟨status, told, heq, htold⟩ := emitStatus_eq .correcting
    { c.emit (.rate a.rate) with softCorrectionSince := none }
  refine ⟨status, told, ⟨a.line v.estimate, c.media⟩, c.media, ?_, htold⟩
  have hseek : c.applyCorrection (v.env a) ⟨.hardSeek, a.rate, driftMs, some (a.line v.estimate)⟩
      = ({ c.emit (.rate a.rate) with softCorrectionSince := none }.emitStatus .correcting).seek
          (v.env a) .drift ⟨a.line v.estimate, c.media⟩ := rfl
  rw [hseek, heq]
  exact seek_far ⟨a.line v.estimate, c.media⟩ hc.attached hnonneg hlength hfar

/-- The controller runs, and the element does what it says. -/
theorem step_tick (θ : ℚ) {a : Airing} {v : Viewer} (hw : Watches a v.controller)
    {c : SyncController}
    (hc : ({ v.controller with acts := [] } : SyncController).tick (v.env a) = c) :
    v.step θ a .tick = c.acts.foldl obey
      { v with controller := { c with applyingRemoteState := false }, checkedAt := v.link.now } := by
  have hperform : ({ v.controller with acts := [] } : SyncController).perform (v.env a) .tick = c :=
    (if_pos hw.ticking).trans hc
  unfold step SyncController.step
  dsimp only
  rw [hperform]

theorem foldl_rate {told : List Act} (htold : ∀ v : Viewer, told.foldl obey v = v) (rate : ℚ)
    (v : Viewer) : (Act.rate rate :: told).foldl obey v = { v with rate := rate } :=
  htold _

theorem foldl_seek {told : List Act} (htold : ∀ v : Viewer, told.foldl obey v = v)
    (rate positionMs : ℚ) (target : Target) (media : Option String) (v : Viewer) :
    ((Act.rate rate :: told) ++ [Act.seek (positionMs / 1000) .drift target media]).foldl obey v
      = { v with rate := rate, positionMs := positionMs } := by
  rw [List.foldl_append, foldl_rate htold]
  change { v with rate := rate, positionMs := positionMs / 1000 * 1000 } = _
  rw [div_mul_cancel₀ _ (by norm_num : (1000 : ℚ) ≠ 0)]

/-- The room's expected position is on the line, and the position is the element's. -/
theorem correctDrift_eq {a : Airing} {v : Viewer} {c : SyncController} (hair : a.OnAir v.estimate) :
    c.correctDrift (v.env a) a.state
      = ({ c with drift := (c.drift.correct (a.line v.estimate) v.positionMs a.rate v.link.now).2 }
          : SyncController).applyCorrection (v.env a)
            (c.drift.correct (a.line v.estimate) v.positionMs a.rate v.link.now).1 := by
  have hexpected : expectedPosition a.state (v.env a).serverNow = a.line v.estimate :=
    Airing.expectedPosition_eq hair
  have hposition : (v.env a).positionMs = v.positionMs :=
    div_mul_cancel₀ _ (by norm_num : (1000 : ℚ) ≠ 0)
  have hplays : ¬(v.env a).video.paused = true := Bool.false_ne_true
  unfold SyncController.correctDrift
  dsimp only
  rw [if_neg hplays, hexpected, hposition]
  rfl

theorem Watches.keeps {a : Airing} {c : SyncController} (hc : Watches a c) (drift : DriftCorrector)
    (since : Option ℚ) (status : Option SyncStatus) (pending : Option Target)
    (ignore recovery : ℚ) (acts : List Act) (remote : Bool) :
    Watches a { c with
      drift := drift, softCorrectionSince := since, currentStatus := status,
      pendingSeek := pending, ignoreBufferUntil := ignore, recoveryUntil := recovery,
      acts := acts, applyingRemoteState := remote } :=
  ⟨hc.state, hc.attached, hc.ticking, hc.member, hc.unsuspected, hc.unconfirmed⟩

/-- A tick at which the player settles. -/
theorem step_settling (θ : ℚ) {a : Airing} {v : Viewer} (hw : Watches a v.controller)
    (hair : a.OnAir v.estimate) (hsettling : v.link.now < v.controller.recoveryUntil) :
    ∃ status acts, v.step θ a .tick = { v with
      controller := { v.controller with
        currentStatus := status, acts := acts, applyingRemoteState := false }
      checkedAt := v.link.now
      rate := a.rate } := by
  have htick := watches_tick (c := { v.controller with acts := [] })
    (hw.keeps _ _ _ _ _ _ _ _) hair
  rw [if_pos hsettling] at htick
  obtain ⟨status, told, heq, htold⟩ := emitStatus_eq .synced
    (({ v.controller with acts := [] } : SyncController).emit (.rate a.rate))
  refine ⟨status, .rate a.rate :: told, ?_⟩
  rw [step_tick θ hw (htick.trans heq)]
  exact foldl_rate htold _ _

/-- A tick at which the drift is corrected. -/
theorem step_correct (θ : ℚ) {a : Airing} {v : Viewer} (hw : Watches a v.controller)
    (hair : a.OnAir v.estimate) (hsettled : ¬v.link.now < v.controller.recoveryUntil)
    {action : Correction} {drift : DriftCorrector}
    (hcorrect : v.controller.drift.correct (a.line v.estimate) v.positionMs a.rate v.link.now
      = (action, drift)) :
    v.step θ a .tick =
      (({ v.controller with acts := [], drift := drift } : SyncController).applyCorrection
        (v.env a) action).acts.foldl obey
      { v with
        controller := { ({ v.controller with acts := [], drift := drift }
          : SyncController).applyCorrection (v.env a) action with applyingRemoteState := false }
        checkedAt := v.link.now } := by
  have htick := watches_tick (c := { v.controller with acts := [] })
    (hw.keeps _ _ _ _ _ _ _ _) hair
  rw [if_neg hsettled, correctDrift_eq hair] at htick
  dsimp only at htick
  rw [hcorrect] at htick
  exact step_tick θ hw htick

theorem step_rate (θ : ℚ) {a : Airing} {v : Viewer} (hw : Watches a v.controller)
    (hair : a.OnAir v.estimate) (hsettled : ¬v.link.now < v.controller.recoveryUntil)
    {action : Correction} {drift : DriftCorrector}
    (hcorrect : v.controller.drift.correct (a.line v.estimate) v.positionMs a.rate v.link.now
      = (action, drift)) (htype : action.type ≠ .hardSeek) :
    ∃ since status acts, v.step θ a .tick = { v with
      controller := { v.controller with
        drift := drift, softCorrectionSince := since, currentStatus := status,
        acts := acts, applyingRemoteState := false }
      checkedAt := v.link.now
      rate := action.rate } := by
  obtain ⟨since, status, told, heq, htold⟩ := applyCorrection_rate (v.env a)
    { v.controller with acts := [], drift := drift } htype
  refine ⟨since, status, .rate action.rate :: told, ?_⟩
  rw [step_correct θ hw hair hsettled hcorrect, heq]
  exact foldl_rate htold _ _

theorem step_seek (θ : ℚ) {a : Airing} {v : Viewer} (hw : Watches a v.controller)
    (hair : a.OnAir v.estimate) (hsettled : ¬v.link.now < v.controller.recoveryUntil)
    {driftMs : ℚ} {drift : DriftCorrector}
    (hcorrect : v.controller.drift.correct (a.line v.estimate) v.positionMs a.rate v.link.now
      = (⟨.hardSeek, a.rate, driftMs, some (a.line v.estimate)⟩, drift))
    (hfar : 50 ≤ |v.positionMs - a.line v.estimate|) :
    ∃ status acts, v.step θ a .tick = { v with
      controller := { v.controller with
        drift := drift.reset v.link.now postSeekSettleMs
        softCorrectionSince := none, currentStatus := status, pendingSeek := none
        ignoreBufferUntil := v.link.now + programmaticSeekBufferGraceMs
        recoveryUntil := v.link.now + postSeekSettleMs
        acts := acts, applyingRemoteState := false }
      checkedAt := v.link.now
      rate := a.rate
      positionMs := a.line v.estimate } := by
  obtain ⟨status, told, target, media, heq, htold⟩ := applyCorrection_seek driftMs
    (hw.keeps drift v.controller.softCorrectionSince v.controller.currentStatus
      v.controller.pendingSeek v.controller.ignoreBufferUntil v.controller.recoveryUntil []
      v.controller.applyingRemoteState) hair hfar
  refine ⟨status, (.rate a.rate :: told) ++ [Act.seek (a.line v.estimate / 1000) .drift target media],
    ?_⟩
  rw [step_correct θ hw hair hsettled hcorrect, heq]
  exact foldl_seek htold _ _ _ _ _

theorem ticked (θ : ℚ) {a : Airing} {v : Viewer} (hw : Watches a v.controller)
    (hair : a.OnAir v.estimate) :
    Ticked a v (v.step θ a .tick) ∧ Carried a v (v.step θ a .tick) := by
  by_cases hsettling : v.link.now < v.controller.recoveryUntil
  · obtain ⟨status, acts, heq⟩ := step_settling θ hw hair hsettling
    rw [heq]
    exact ⟨.settling hsettling rfl rfl rfl rfl, rfl, rfl, hw.keeps ..⟩
  have hturn := DriftCorrector.corrects (a.line v.estimate) v.positionMs a.rate v.link.now
    v.controller.drift
  obtain ⟨action, drift, hcorrect⟩ : ∃ action drift, v.controller.drift.correct
      (a.line v.estimate) v.positionMs a.rate v.link.now = (action, drift) := ⟨_, _, rfl⟩
  rw [hcorrect] at hturn
  have hrate := step_rate θ hw hair hsettling hcorrect
  have hsettled := not_lt.mp hsettling
  cases hturn with
  | held h =>
      obtain ⟨since, status, acts, heq⟩ := hrate (by simp)
      rw [heq]
      exact ⟨.held h rfl rfl rfl rfl, rfl, rfl, hw.keeps ..⟩
  | released h hsmall =>
      obtain ⟨since, status, acts, heq⟩ := hrate (by simp)
      rw [heq]
      have hgap : driftReleaseMs < softCorrectionThresholdMs := by
        norm_num [driftReleaseMs, softCorrectionThresholdMs]
      exact ⟨.tolerated (hsmall.trans_lt hgap) rfl rfl, rfl, rfl, hw.keeps ..⟩
  | tolerated h hlarge hidle hsmall =>
      obtain ⟨since, status, acts, heq⟩ := hrate (by simp)
      rw [heq]
      exact ⟨.tolerated hsmall rfl rfl, rfl, rfl, hw.keeps ..⟩
  | softened h hlarge hactive hsmall =>
      obtain ⟨since, status, acts, heq⟩ := hrate (DriftCorrector.soften_type_ne _ _)
      rw [heq]
      exact ⟨.softened hlarge rfl rfl hsettled h, rfl, rfl, hw.keeps ..⟩
  | waited h hlarge hdue =>
      obtain ⟨since, status, acts, heq⟩ := hrate (DriftCorrector.soften_type_ne _ _)
      rw [heq]
      have hgap : driftReleaseMs < hardSeekThresholdMs := by
        norm_num [driftReleaseMs, hardSeekThresholdMs]
      refine ⟨.softened (hgap.trans_le hlarge) rfl rfl hsettled ?_, rfl, rfl, hw.keeps ..⟩
      exact (DriftCorrector.candidate_holdUntil ..).trans_le h
  | seeked h hlarge hdue =>
      have hfar : (50 : ℚ) ≤ hardSeekThresholdMs := by norm_num [hardSeekThresholdMs]
      obtain ⟨status, acts, heq⟩ := step_seek θ hw hair hsettling hcorrect (hfar.trans hlarge)
      rw [heq]
      exact ⟨.seeked rfl rfl, rfl, rfl, hw.keeps ..⟩

-- ============================================================================
-- The error
-- ============================================================================

theorem now_le_step (θ : ℚ) (s : ClockLink) (l : ClockLink.Label) : s.now ≤ (s.step θ l).now := by
  cases l with
  | tick t => exact le_max_left ..
  | record =>
      rw [ClockLink.step]
      split <;> exact le_rfl
  | readPing clientMonoMs =>
      rw [ClockLink.step]
      split
      · split_ifs <;> exact le_rfl
      · exact le_rfl
  | readOther =>
      rw [ClockLink.step]
      split <;> exact le_rfl
  | answer =>
      rw [ClockLink.step]
      split <;> exact le_rfl
  | pong payload =>
      rw [ClockLink.step]
      split_ifs <;> exact le_rfl
  | connect | ping | reset dateNow => exact le_rfl

theorem error_clock (θ : ℚ) (a : Airing) (v : Viewer) (l : ClockLink.Label) :
    (v.step θ a (.clock l)).error θ a
      = v.error θ a + (v.rate - a.rate) * ((v.link.step θ l).now - v.link.now) := by
  have hline : a.line ((v.link.step θ l).now + θ)
      = a.line (v.link.now + θ) + a.rate * ((v.link.step θ l).now - v.link.now) := by
    rw [← Airing.line_add]
    congr 1
    ring
  change v.positionMs + v.rate * ((v.link.step θ l).now - v.link.now)
    - a.line ((v.link.step θ l).now + θ) = _
  rw [hline, error]
  ring

/-- The room's line at the estimate is off by the error of the clock. -/
theorem line_estimate {θ spreadMs : ℚ} (a : Airing) {v : Viewer} (hsound : ClockLink.Sound θ v.link)
    (hsampled : v.link.accepted ≠ []) (hspread : ∀ x ∈ v.link.accepted, x.rtt ≤ 2 * spreadMs) :
    |a.line v.estimate - a.line (v.link.now + θ)| ≤ a.rate * spreadMs := by
  obtain ⟨x, hx, hclock⟩ := hsound.estimate.error hsampled
  have hhalf : |v.estimate - (v.link.now + θ)| ≤ spreadMs := by
    have hrtt := hspread x hx
    exact hclock.trans (by linarith)
  have hline : a.line v.estimate - a.line (v.link.now + θ)
      = a.rate * (v.estimate - (v.link.now + θ)) := by
    unfold Airing.line
    ring
  rw [hline, abs_mul, abs_of_pos (show 0 < a.rate from a.rate_pos)]
  exact mul_le_mul_of_nonneg_left hhalf a.rate_pos.le

theorem allowed_antitone (spreadMs errorMs openMs : ℚ) (a : Airing) {nowMs laterMs : ℚ}
    (h : nowMs ≤ laterMs) :
    allowed spreadMs a errorMs openMs nowMs - 6 / 1000 * a.rate * (laterMs - nowMs)
      ≤ allowed spreadMs a errorMs openMs laterMs := by
  have hrate : 0 < a.rate := a.rate_pos
  have hprogress : 0 ≤ 6 / 1000 * a.rate * (laterMs - nowMs) :=
    mul_nonneg (by positivity) (sub_nonneg.mpr h)
  unfold allowed
  rw [sub_le_iff_le_add]
  refine max_le ?_ ?_
  · have hnear := le_max_left (softCorrectionThresholdMs + a.rate * spreadMs)
      (errorMs - 6 / 1000 * a.rate * (laterMs - (openMs + a.gapMs)))
    linarith
  · have hleft := le_max_right (softCorrectionThresholdMs + a.rate * spreadMs)
      (errorMs - 6 / 1000 * a.rate * (laterMs - (openMs + a.gapMs)))
    linarith

-- ============================================================================
-- The invariant
-- ============================================================================

/-- What the viewer is doing: it waits for the first correction, runs with the room, or makes up
    for its error in the direction `d`. -/
inductive Course (θ spreadMs : ℚ) (a : Airing) (errorMs openMs : ℚ) (v : Viewer) : Prop
  | waiting (hrate : v.rate = a.rate) (herror : |v.error θ a| ≤ errorMs)
      (hearly : v.checkedAt ≤ openMs) (hrecovery : v.controller.recoveryUntil ≤ openMs)
      (hhold : v.controller.drift.holdUntil ≤ openMs)
  | idle (hrate : v.rate = a.rate)
      (hnear : |v.error θ a| ≤ softCorrectionThresholdMs + a.rate * spreadMs)
  | correcting (d : ℚ) (hd : |d| = 1) (hleast : 6 / 1000 * a.rate ≤ d * (v.rate - a.rate))
      (hmost : d * (v.rate - a.rate) ≤ 5 / 100 * a.rate)
      (hbehind : d * v.error θ a ≤ -driftReleaseMs + a.rate * spreadMs
        + 5 / 100 * a.rate * (v.link.now - v.checkedAt))
      (hrecovery : v.controller.recoveryUntil ≤ v.checkedAt)
      (hhold : v.controller.drift.holdUntil ≤ v.checkedAt)

/-- What holds of a viewer in every state. -/
structure Kept (θ spreadMs : ℚ) (a : Airing) (errorMs openMs : ℚ) (v : Viewer) : Prop where
  watches : Watches a v.controller
  sound : ClockLink.Sound θ v.link
  sampled : v.link.accepted ≠ []
  spread : ∀ x ∈ v.link.accepted, x.rtt ≤ 2 * spreadMs
  checked : v.checkedAt ≤ v.link.now
  due : v.link.now ≤ v.checkedAt + a.gapMs
  course : Course θ spreadMs a errorMs openMs v
  within : |v.error θ a| ≤ allowed spreadMs a errorMs openMs v.link.now

theorem kept_start {θ spreadMs : ℚ} {a : Airing} {v : Viewer} (h : Tuned θ spreadMs a v) :
    Kept θ spreadMs a |v.error θ a| v.openMs v := by
  have hnow : v.link.now ≤ v.openMs := le_max_left ..
  have hrecovery : v.controller.recoveryUntil ≤ v.openMs :=
    (le_max_left ..).trans (le_max_right ..)
  have hhold : v.controller.drift.holdUntil ≤ v.openMs := (le_max_right ..).trans (le_max_right ..)
  have hgap : v.link.now ≤ v.openMs + a.gapMs := by
    have hchecked := h.checked
    have hdue := h.due
    linarith
  refine ⟨h.watches, h.sound, h.sampled, h.spread, h.checked, h.due, ?_, ?_⟩
  · exact .waiting h.rate le_rfl (h.checked.trans hnow) hrecovery hhold
  · refine le_trans ?_ (le_max_right ..)
    have hprogress : 6 / 1000 * a.rate * (v.link.now - (v.openMs + a.gapMs)) ≤ 0 :=
      mul_nonpos_of_nonneg_of_nonpos (mul_nonneg (by norm_num) a.rate_pos.le) (by linarith)
    linarith

/-- Between two ticks an error that is made up for goes down, and not below what is tolerated on
    the other side. -/
theorem correcting_within {spreadMs rate errorMs openMs error d nowMs laterMs checkedAt : ℚ}
    (a : Airing) (hd : |d| = 1) (hlater : nowMs ≤ laterMs) (hdue : laterMs ≤ checkedAt + a.gapMs)
    (hleast : 6 / 1000 * a.rate ≤ d * (rate - a.rate))
    (hmost : d * (rate - a.rate) ≤ 5 / 100 * a.rate)
    (hbehind : d * error ≤ -driftReleaseMs + a.rate * spreadMs
      + 5 / 100 * a.rate * (nowMs - checkedAt))
    (hwithin : |error| ≤ allowed spreadMs a errorMs openMs nowMs) :
    d * (error + (rate - a.rate) * (laterMs - nowMs)) ≤ -driftReleaseMs + a.rate * spreadMs
        + 5 / 100 * a.rate * (laterMs - checkedAt) ∧
      |error + (rate - a.rate) * (laterMs - nowMs)| ≤ allowed spreadMs a errorMs openMs laterMs := by
  have helapsed : 0 ≤ laterMs - nowMs := sub_nonneg.mpr hlater
  have hmoved : d * (error + (rate - a.rate) * (laterMs - nowMs))
      = d * error + d * (rate - a.rate) * (laterMs - nowMs) := by ring
  have hgain := mul_le_mul_of_nonneg_right hleast helapsed
  have hpace := mul_le_mul_of_nonneg_right hmost helapsed
  have hbehind' : d * (error + (rate - a.rate) * (laterMs - nowMs))
      ≤ -driftReleaseMs + a.rate * spreadMs + 5 / 100 * a.rate * (laterMs - checkedAt) := by
    rw [hmoved]
    linarith
  refine ⟨hbehind', ?_⟩
  have hsign : ∀ x : ℚ, |d * x| = |x| := by
    intro x
    rw [abs_mul, hd, one_mul]
  rw [← hsign, abs_le]
  constructor
  · -- the error goes down at least as fast as what is allowed
    have hallowed := allowed_antitone spreadMs errorMs openMs a hlater
    have hlow := neg_abs_le (d * error)
    rw [hsign] at hlow
    rw [hmoved]
    linarith
  · have hpaced := a.paced
    have hgap : 5 / 100 * a.rate * (laterMs - checkedAt) ≤ 5 / 100 * a.rate * a.gapMs :=
      mul_le_mul_of_nonneg_left (by linarith) (mul_nonneg (by norm_num) a.rate_pos.le)
    refine le_trans ?_ (le_max_left ..)
    change 5 / 100 * a.rate * a.gapMs ≤ _ at hpaced
    linarith

theorem kept_clock {θ spreadMs errorMs openMs : ℚ} {a : Airing} {v : Viewer} {l : ClockLink.Label}
    (hv : Kept θ spreadMs a errorMs openMs v) (hl : Fair θ spreadMs a v (.clock l)) :
    Kept θ spreadMs a errorMs openMs (v.step θ a (.clock l)) := by
  obtain ⟨hfresh, hsampled, hspread, hdue⟩ := hl
  have hnow := now_le_step θ v.link l
  have hmoved := error_clock θ a v l
  have hnear : softCorrectionThresholdMs + a.rate * spreadMs
      ≤ allowed spreadMs a errorMs openMs (v.link.step θ l).now := le_max_left ..
  have hkept : Course θ spreadMs a errorMs openMs (v.step θ a (.clock l)) ∧
      |(v.step θ a (.clock l)).error θ a|
        ≤ allowed spreadMs a errorMs openMs (v.link.step θ l).now := by
    cases hv.course with
    | waiting hrate herror hearly hrecovery hhold =>
        rw [hrate, sub_self, zero_mul, add_zero] at hmoved
        refine ⟨.waiting hrate (hmoved ▸ herror) hearly hrecovery hhold, ?_⟩
        rw [hmoved]
        -- no tick that corrects has been missed
        refine le_trans ?_ (le_max_right ..)
        have hprogress : 6 / 1000 * a.rate * ((v.link.step θ l).now - (openMs + a.gapMs)) ≤ 0 :=
          mul_nonpos_of_nonneg_of_nonpos (mul_nonneg (by norm_num) a.rate_pos.le) (by linarith)
        linarith
    | idle hrate hclose =>
        rw [hrate, sub_self, zero_mul, add_zero] at hmoved
        refine ⟨.idle hrate (hmoved ▸ hclose), ?_⟩
        rw [hmoved]
        exact hclose.trans hnear
    | correcting d hd hleast hmost hbehind hrecovery hhold =>
        obtain ⟨hbehind', hwithin⟩ :=
          correcting_within a hd hnow hdue hleast hmost hbehind hv.within
        rw [← hmoved] at hbehind' hwithin
        exact ⟨.correcting d hd hleast hmost hbehind' hrecovery hhold, hwithin⟩
  exact ⟨hv.watches, ClockLink.sound_step hv.sound hfresh, hsampled, hspread,
    hv.checked.trans hnow, hdue, hkept.1, hkept.2⟩

/-- The course after a tick. -/
theorem course_tick {θ spreadMs errorMs openMs : ℚ} {a : Airing} {v v' : Viewer}
    (hv : Kept θ spreadMs a errorMs openMs v) (hturn : Ticked a v v') (hlink : v'.link = v.link)
    (hchecked : v'.checkedAt = v.link.now) :
    Course θ spreadMs a errorMs openMs v' ∧
      |v'.error θ a| ≤ allowed spreadMs a errorMs openMs v.link.now := by
  have hnear : softCorrectionThresholdMs + a.rate * spreadMs
      ≤ allowed spreadMs a errorMs openMs v.link.now := le_max_left ..
  have hestimate := line_estimate a hv.sound hv.sampled hv.spread
  have herror : v'.error θ a = v'.positionMs - a.line (v.link.now + θ) := by
    rw [error, hlink]
  -- a player that is left alone early keeps its course
  have hleft : (v.link.now < v.controller.recoveryUntil ∨
        v.link.now < v.controller.drift.holdUntil) → v'.rate = a.rate →
      v'.positionMs = v.positionMs → v'.controller.recoveryUntil = v.controller.recoveryUntil →
      v'.controller.drift.holdUntil = v.controller.drift.holdUntil →
      Course θ spreadMs a errorMs openMs v' ∧
        |v'.error θ a| ≤ allowed spreadMs a errorMs openMs v.link.now := by
    intro hearly hrate hposition hrecovery hhold
    have hsame : v'.error θ a = v.error θ a := by rw [herror, hposition, error]
    rw [hsame]
    refine ⟨?_, hv.within⟩
    cases hv.course with
    | waiting _ hstart _ hopen hopen' =>
        refine .waiting hrate (hsame ▸ hstart) ?_ (hrecovery.trans_le hopen) (hhold.trans_le hopen')
        rw [hchecked]
        rcases hearly with hlt | hlt
        · exact hlt.le.trans hopen
        · exact hlt.le.trans hopen'
    | idle _ hclose => exact .idle hrate (hsame ▸ hclose)
    | correcting d _ _ _ _ hopen hopen' =>
        have hpast := hv.checked
        rcases hearly with hlt | hlt
        · exact absurd (hopen.trans hpast) (not_le.mpr hlt)
        · exact absurd (hopen'.trans hpast) (not_le.mpr hlt)
  have hsplit : v.error θ a = v.driftMs a + (a.line v.estimate - a.line (v.link.now + θ)) := by
    unfold error driftMs
    ring
  obtain ⟨hlow, hhigh⟩ := abs_le.mp hestimate
  cases hturn with
  | settling hearly hrate hposition hrecovery hhold =>
      exact hleft (.inl hearly) hrate hposition hrecovery hhold
  | held hearly hrate hposition hrecovery hhold =>
      exact hleft (.inr hearly) hrate hposition hrecovery hhold
  | tolerated hsmall hrate hposition =>
      have hsame : v'.error θ a = v.error θ a := by rw [herror, hposition, error]
      rw [hsame]
      refine ⟨.idle hrate ?_, hv.within⟩
      rw [hsame, hsplit]
      exact (abs_add_le _ _).trans (add_le_add hsmall.le hestimate)
  | softened hlarge hrate hposition hrecovery hhold =>
      have hsame : v'.error θ a = v.error θ a := by rw [herror, hposition, error]
      rw [hsame]
      refine ⟨?_, hv.within⟩
      have hstill : 5 / 100 * a.rate * (v'.link.now - v'.checkedAt) = 0 := by
        rw [hlink, hchecked, sub_self, mul_zero]
      rw [← hchecked] at hrecovery hhold
      rcases lt_or_ge (v.driftMs a) 0 with hneg | hpos
      · obtain ⟨hleast, hmost⟩ := DriftCorrector.soften_fast hneg a.rate_pos
        rw [← show a.rate = a.state.playbackRate from rfl, ← hrate] at hleast hmost
        rw [abs_of_neg hneg] at hlarge
        refine .correcting 1 abs_one ?_ ?_ ?_ hrecovery hhold
        · have hroom : 0 < a.rate := a.rate_pos
          linarith
        · linarith
        · rw [hstill, hsame, hsplit]
          linarith
      · obtain ⟨hleast, hmost⟩ := DriftCorrector.soften_slow hpos a.rate_pos
        rw [← show a.rate = a.state.playbackRate from rfl, ← hrate] at hleast hmost
        rw [abs_of_nonneg hpos] at hlarge
        have hroom : 0 < a.rate := a.rate_pos
        refine .correcting (-1) (by rw [abs_neg, abs_one]) ?_ ?_ ?_ hrecovery hhold
        · linarith
        · linarith
        · rw [hstill, hsame, hsplit]
          linarith
  | seeked hrate hposition =>
      rw [herror, hposition]
      have hsoft : (0 : ℚ) ≤ softCorrectionThresholdMs := by norm_num [softCorrectionThresholdMs]
      have hclose : |a.line v.estimate - a.line (v.link.now + θ)|
          ≤ softCorrectionThresholdMs + a.rate * spreadMs := by linarith
      refine ⟨.idle hrate ?_, hclose.trans hnear⟩
      rw [herror, hposition]
      exact hclose

theorem kept_step {θ spreadMs errorMs openMs : ℚ} {a : Airing} {v : Viewer} {l : Label}
    (hv : Kept θ spreadMs a errorMs openMs v) (hl : Fair θ spreadMs a v l) :
    Kept θ spreadMs a errorMs openMs (v.step θ a l) := by
  cases l with
  | clock l => exact kept_clock hv hl
  | tick =>
      obtain ⟨hturn, hcarried⟩ := ticked θ hv.watches hl
      obtain ⟨hlink, hchecked, hwatches⟩ := hcarried
      obtain ⟨hcourse, hwithin⟩ := course_tick hv hturn hlink hchecked
      have hgap : 0 ≤ a.gapMs := by
        have hpast := hv.checked
        have hdue := hv.due
        linarith
      refine ⟨hwatches, ?_, ?_, ?_, ?_, ?_, hcourse, ?_⟩
      · rw [hlink]
        exact hv.sound
      · rw [hlink]
        exact hv.sampled
      · rw [hlink]
        exact hv.spread
      · rw [hlink, hchecked]
      · rw [hlink, hchecked]
        linarith
      · rw [hlink]
        exact hwithin

-- ============================================================================
-- Runs
-- ============================================================================

theorem kept_run {θ spreadMs : ℚ} {a : Airing} {v : Viewer} {ls : List Label}
    (hv : Tuned θ spreadMs a v) (hls : EachStep (step θ a) (Fair θ spreadMs a) v ls) :
    Kept θ spreadMs a |v.error θ a| v.openMs (run (step θ a) v ls) :=
  run_invariant (fun _ _ hs hl => kept_step hs hl) (kept_start hv) hls

/-- **Together.**  A viewer is off by no more than is left of the error at the start, and at the
    same time of the server two viewers are no farther from each other than both can be off. -/
theorem watch_together (a : Airing) {θ θ' spreadMs spreadMs' : ℚ} {v w : Viewer}
    {ls ks : List Label} (hv : Tuned θ spreadMs a v) (hw : Tuned θ' spreadMs' a w)
    (hls : EachStep (step θ a) (Fair θ spreadMs a) v ls)
    (hks : EachStep (step θ' a) (Fair θ' spreadMs' a) w ks) :
    |(run (step θ a) v ls).error θ a|
        ≤ v.reach θ spreadMs a (run (step θ a) v ls).link.now ∧
      |(run (step θ' a) w ks).error θ' a|
        ≤ w.reach θ' spreadMs' a (run (step θ' a) w ks).link.now ∧
      ((run (step θ a) v ls).link.now + θ = (run (step θ' a) w ks).link.now + θ' →
        |(run (step θ a) v ls).positionMs - (run (step θ' a) w ks).positionMs|
          ≤ v.reach θ spreadMs a (run (step θ a) v ls).link.now
            + w.reach θ' spreadMs' a (run (step θ' a) w ks).link.now) := by
  have hleft := (kept_run hv hls).within
  have hright := (kept_run hw hks).within
  refine ⟨hleft, hright, fun hsame => ?_⟩
  generalize run (step θ a) v ls = v' at hsame hleft ⊢
  generalize run (step θ' a) w ks = w' at hsame hright ⊢
  have hpositions : v'.positionMs - w'.positionMs = v'.error θ a - w'.error θ' a := by
    unfold error
    rw [hsame]
    ring
  rw [hpositions]
  exact (abs_sub _ _).trans (add_le_add hleft hright)

/-- A film of one hour that begins at the server's time 1000. -/
def premiere : Airing where
  state := ⟨"film", 1, 1, .playing, 0, 1000, 1, 3600000, none⟩
  lengthS := 3600
  gapMs := 750
  playing := rfl
  rate_pos := one_pos
  paced := by
    unfold driftReleaseMs softCorrectionThresholdMs
    norm_num

/-- The clock link of a connection that has answered one ping, 100 ms long. -/
def pinged (θ : ℚ) : List ClockLink.Label :=
  [.tick 100, .ping, .tick 150, .record, .readPing 100, .answer, .tick 200,
    .pong ⟨some 100, some (150 + θ), some (150 + θ)⟩]

/-- A viewer at a position, whose clock has one sample. -/
def seated (θ positionMs : ℚ) : Viewer where
  link := run (ClockLink.step θ) (.start 0 0) (pinged θ)
  controller := { SyncController.create false with
    state := some premiere.state, attached := true, tickTimer := true }
  positionMs := positionMs
  rate := 1
  checkedAt := 200

theorem tuned_seated {θ : ℚ} (positionMs : ℚ)
    (hfresh : EachStep (ClockLink.step θ) (ClockLink.Fresh θ) (.start 0 0) (pinged θ))
    (haccepted : (run (ClockLink.step θ) (.start 0 0) (pinged θ)).accepted = [⟨100, θ⟩])
    (hnow : (run (ClockLink.step θ) (.start 0 0) (pinged θ)).now = 200) :
    Tuned θ 50 premiere (seated θ positionMs) := by
  have hsound : ClockLink.Sound θ (run (ClockLink.step θ) (.start 0 0) (pinged θ)) :=
    run_invariant (fun _ _ hs hl => ClockLink.sound_step hs hl)
      ⟨ClockLink.inv_start θ 0 0, fun _ h => absurd h List.not_mem_nil⟩ hfresh
  refine ⟨⟨rfl, rfl, rfl, rfl, rfl, rfl⟩, hsound, ?_, ?_, rfl, hnow.ge, ?_⟩
  · exact haccepted.trans_ne (List.cons_ne_nil _ _)
  · intro x hx
    obtain rfl := List.mem_singleton.mp (haccepted ▸ hx)
    norm_num
  · change (run (ClockLink.step θ) (.start 0 0) (pinged θ)).now ≤ 200 + 750
    rw [hnow]
    norm_num

/-- One viewer is three seconds ahead and is moved back, another one half a second behind. -/
theorem watch_together_premiere :
    let ahead := seated 1000 3200
    let behind := seated 2000 700
    let ls : List Label :=
      [.tick, .clock (.tick 900), .tick, .clock (.tick 1600), .tick, .clock (.tick 2300), .tick]
    let ks : List Label := [.tick, .clock (.tick 800), .tick, .clock (.tick 1300), .tick]
    (run (step 1000 premiere) ahead ls).positionMs = 2300 ∧
      |(run (step 1000 premiere) ahead ls).error 1000 premiere|
        ≤ ahead.reach 1000 50 premiere (run (step 1000 premiere) ahead ls).link.now ∧
      |(run (step 1000 premiere) ahead ls).positionMs
          - (run (step 2000 premiere) behind ks).positionMs|
        ≤ ahead.reach 1000 50 premiere (run (step 1000 premiere) ahead ls).link.now
          + behind.reach 2000 50 premiere (run (step 2000 premiere) behind ks).link.now := by
  intro ahead behind ls ks
  have hahead : Tuned 1000 50 premiere ahead :=
    tuned_seated 3200 (by decide +kernel) (by decide +kernel) (by decide +kernel)
  have hbehind : Tuned 2000 50 premiere behind :=
    tuned_seated 700 (by decide +kernel) (by decide +kernel) (by decide +kernel)
  have hls : EachStep (step 1000 premiere) (Fair 1000 50 premiere) ahead ls := by decide +kernel
  have hks : EachStep (step 2000 premiere) (Fair 2000 50 premiere) behind ks := by decide +kernel
  obtain ⟨hwithin, -, htogether⟩ := watch_together premiere hahead hbehind hls hks
  exact ⟨by decide +kernel, hwithin, htogether (by decide +kernel)⟩

end Viewer

end WatchTogether.Web

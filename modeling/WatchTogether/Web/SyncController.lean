/-
  WatchTogether.Web.SyncController

  `SyncController` (`web/src/player/SyncController.ts`), which drives the video
  element of one browser from the room's playback state.

  JavaScript runs one task at a time, so a method is a function from the fields of
  the controller to the next ones.  What a task reads from the browser comes in with
  `BrowserEnv`; what it does to the element, the socket and the status display is
  appended to `acts`.  Three things that JavaScript keeps outside of the fields are
  fields here:

    * the handle of a timer is the time at which the timer is due;
    * `plays` counts the promises of `video.play()` that are still open;
    * `awaiting` lists the commands whose acknowledgement is still open.

  Numbers are rationals: no `NaN` reaches the arithmetic, and nothing is rounded but
  by `Math.round` and by `setTimeout`, which drops the fraction of a delay.
-/

import Mathlib.Data.Rat.Floor
import WatchTogether.Web.DriftCorrector
import WatchTogether.Web.RoomState

namespace WatchTogether.Web

open Rooms

/-- `BUFFER_CONFIRM_MS`. -/
def bufferConfirmMs : ℚ := 1800

/-- `BUFFER_RECOVERY_STABLE_MS`. -/
def bufferRecoveryStableMs : ℚ := 600

/-- `PROGRAMMATIC_SEEK_BUFFER_GRACE_MS`. -/
def programmaticSeekBufferGraceMs : ℚ := 2500

/-- `TIMELINE_JUMP_MS`. -/
def timelineJumpMs : Nat := 1000

/-- `ALIGN_ON_TRANSITION_MS`. -/
def alignOnTransitionMs : ℚ := 750

/-- `CORRECTION_STATUS_DELAY_MS`. -/
def correctionStatusDelayMs : ℚ := 2000

/-- `HTMLMediaElement.HAVE_METADATA`. -/
def haveMetadata : Nat := 1

/-- `HTMLMediaElement.HAVE_FUTURE_DATA`. -/
def haveFutureData : Nat := 3

-- ============================================================================
-- The browser
-- ============================================================================

/-- What the controller reads of the video element.  `duration` is `none` where it is
    not finite; `seekThrows` says whether writing `currentTime` throws. -/
structure Video where
  currentTime : ℚ
  readyState : Nat
  paused : Bool
  duration : Option ℚ
  videoWidth : Int
  videoHeight : Int
  seekable : List (ℚ × ℚ)
  seekThrows : Bool

/-- What a task reads: `performance.now()`, which stands still while it runs, the offset
    of the server's clock, and the video element. -/
structure BrowserEnv where
  now : ℚ
  offset : ℚ
  video : Video

/-- `ws.clock.serverNow()`. -/
def BrowserEnv.serverNow (env : BrowserEnv) : ℚ := env.now + env.offset

/-- When a timer set now with this delay is due. -/
def BrowserEnv.due (env : BrowserEnv) (delay : ℚ) : ℚ := env.now + ⌊delay⌋

/-- The playing position in milliseconds. -/
def BrowserEnv.positionMs (env : BrowserEnv) : ℚ := env.video.currentTime * 1000

/-- `Math.round`. -/
def mathRound (x : ℚ) : Int := ⌊x + 1 / 2⌋

/-- A millisecond count of the server as a number. -/
def ms (x : Int64) : ℚ := x.toInt

/-- `expectedPosition`. -/
def expectedPosition (state : PlaybackState) (serverNowMs : ℚ) : ℚ :=
  let position :=
    if state.phase = .playing ∧ ms state.anchorServerTimeMs < serverNowMs then
      ms state.anchorPositionMs +
        (serverNowMs - ms state.anchorServerTimeMs) * state.playbackRate
    else ms state.anchorPositionMs
  max 0 (if state.durationMs ≠ 0 then min position (ms state.durationMs) else position)

/-- `isTimelineJump`. -/
def isTimelineJump (previous : Option PlaybackState) (next : PlaybackState) : Bool :=
  match previous with
  | none => true
  | some previous =>
      if previous.mediaID ≠ next.mediaID then true
      else if previous.timelineEpoch ≠ next.timelineEpoch then true
      else if previous.phase = .playing ∧ next.phase = .playing then false
      else decide (previous.phase = next.phase ∧ timelineJumpMs ≤
        (previous.anchorPositionMs.toInt - next.anchorPositionMs.toInt).natAbs)

-- ============================================================================
-- What a task does
-- ============================================================================

/-- `SyncStatus`. -/
inductive SyncStatus where
  | synced
  | correcting
  | localBuffering
  | hostBuffering
  | autoplayBlocked
deriving DecidableEq, Repr

/-- A command on its way to the server; `id` is its `requestId`. -/
structure Request where
  id : Nat
  command : Command
deriving DecidableEq

/-- Which statement calls `video.pause()`. -/
inductive PauseCause where
  | schedulePlay
  | phase
  | buffering
  | user
  | suspend
deriving DecidableEq, Repr

/-- Which statement calls `seek`. -/
inductive SeekCause where
  | align
  | drift
  | retry
  | user
deriving DecidableEq, Repr

/-- What a seek aims at, with the media of the state that was current when the target
    was chosen. -/
structure Target where
  ms : ℚ
  media : Option String
deriving DecidableEq

/-- What a task does to the outside.  `play` carries the state and the server time at the
    call, `seek` the media that was current when `currentTime` was written. -/
inductive Act where
  | play (current : Option PlaybackState) (serverNow : ℚ)
  | pause (cause : PauseCause)
  | seek (seconds : ℚ) (cause : SeekCause) (target : Target) (current : Option String)
  | rate (playbackRate : ℚ)
  | send (r : Request)
  | status (s : SyncStatus)
deriving DecidableEq

-- ============================================================================
-- What is sent
-- ============================================================================

/-- A payload with the given fields: the server decodes the others to their zeros. -/
def payload (p : CommandPayload) : Payload :=
  ⟨some ⟨false, p.mediaID, p.durationMs, 0, 0⟩, some p⟩

/-- `{ positionMs }`, with whatever else the server does not read. -/
def positionCommand (type : CommandType) (positionMs : Int) : Command :=
  ⟨type, payload ⟨Int64.ofInt positionMs, 0, false, 0, "", "", 0⟩⟩

/-- `cmd.playback.rate`. -/
def rateCommand (playbackRate : ℚ) (positionMs : Int) : Command :=
  ⟨.playbackRate, payload ⟨Int64.ofInt positionMs, playbackRate, false, 0, "", "", 0⟩⟩

/-- `telemetry.host.playback`. -/
def heartbeatCommand (video : Video) : Command :=
  ⟨.telemetryHostPlayback, payload
    ⟨Int64.ofInt (mathRound (video.currentTime * 1000)), 0, video.paused, video.readyState,
      "", "", 0⟩⟩

/-- `Math.round(video.duration * 1000)`; what is not finite is sent as `null` and decoded
    to `0`. -/
def Video.durationMs (video : Video) : Int :=
  match video.duration with
  | some duration => mathRound (duration * 1000)
  | none => 0

/-- `client.ready`. -/
def readyCommand (mediaID : String) (video : Video) : Command :=
  let durationMs := Int64.ofInt video.durationMs
  ⟨.clientReady,
    ⟨some ⟨true, mediaID, durationMs, video.videoWidth, video.videoHeight⟩,
      some ⟨0, 0, false, 0, "", mediaID, durationMs⟩⟩⟩

-- ============================================================================
-- The controller
-- ============================================================================

/-- The fields of `SyncController`; `video` is attached or not. -/
structure SyncController extends RoomState where
  isHost : Bool
  attached : Bool
  tickTimer : Bool
  heartbeatTimer : Bool
  playTimer : Option ℚ
  bufferConfirmTimer : Option ℚ
  recoveryTimer : Option ℚ
  pendingSeek : Option Target
  applyingRemoteState : Bool
  bufferSuspected : Bool
  confirmedBuffering : Bool
  hostBufferingReported : Bool
  memberBufferingReported : Bool
  ignoreBufferUntil : ℚ
  recoveryUntil : ℚ
  softCorrectionSince : Option ℚ
  autoplayBlocked : Bool
  currentStatus : Option SyncStatus
  drift : DriftCorrector
  plays : Nat
  awaiting : List Request
  nextID : Nat
  acts : List Act
deriving DecidableEq

namespace SyncController

/-- `new SyncController(ws, isHost, status)`. -/
def create (isHost : Bool) : SyncController :=
  { RoomState.initial with
    isHost := isHost, attached := false, tickTimer := false, heartbeatTimer := false,
    playTimer := none, bufferConfirmTimer := none, recoveryTimer := none,
    pendingSeek := none, applyingRemoteState := false, bufferSuspected := false,
    confirmedBuffering := false, hostBufferingReported := false,
    memberBufferingReported := false, ignoreBufferUntil := 0, recoveryUntil := 0,
    softCorrectionSince := none, autoplayBlocked := false, currentStatus := none,
    drift := .initial, plays := 0, awaiting := [], nextID := 0, acts := [] }

/-- `this.state?.mediaId`, where no state differs from a state without media. -/
def media (s : SyncController) : Option String := s.state.map (fun p => p.mediaID)

/-- `this.state?.phase === phase`. -/
def inPhase (phase : Phase) (s : SyncController) : Bool :=
  s.state.any (fun p => decide (p.phase = phase))

/-- The controller does something to the browser. -/
def emit (a : Act) (s : SyncController) : SyncController := { s with acts := s.acts ++ [a] }

/-- `emitStatus`. -/
def emitStatus (next : SyncStatus) (s : SyncController) : SyncController :=
  if s.autoplayBlocked = true ∧ next ≠ .autoplayBlocked then s
  else if s.currentStatus = some next then s
  else { s with currentStatus := some next }.emit (.status next)

/-- `ws.send`, with or without waiting for the acknowledgement. -/
def send (command : Command) (ack : Bool) (s : SyncController) : SyncController :=
  let r : Request := ⟨s.nextID, command⟩
  let s := { s with nextID := s.nextID + 1 }.emit (.send r)
  if ack then { s with awaiting := s.awaiting ++ [r] } else s

/-- `tryPlay`. -/
def tryPlay (env : BrowserEnv) (s : SyncController) : SyncController :=
  if s.attached = false ∨ s.autoplayBlocked = true ∨ s.confirmedBuffering = true then s
  else { s with plays := s.plays + 1 }.emit (.play s.state env.serverNow)

/-- `cancelScheduledPlay`. -/
def cancelScheduledPlay (s : SyncController) : SyncController := { s with playTimer := none }

/-- `schedulePlay`. -/
def schedulePlay (env : BrowserEnv) (anchorServerTimeMs : ℚ) (s : SyncController) :
    SyncController :=
  let s := s.cancelScheduledPlay
  let delay := max 0 (anchorServerTimeMs - env.serverNow)
  let s :=
    if 20 < delay ∧ s.attached = true ∧ env.video.paused = false then
      s.emit (.pause .schedulePlay)
    else s
  { s with playTimer := some (env.due delay) }

/-- `perform` of `seek`. -/
def performSeek (env : BrowserEnv) (cause : SeekCause) (target : Target) (seconds : ℚ)
    (s : SyncController) : SyncController :=
  if env.video.seekThrows then { s with pendingSeek := some target }
  else
    { s with
      pendingSeek := none
      ignoreBufferUntil := env.now + programmaticSeekBufferGraceMs
      recoveryUntil := env.now + postSeekSettleMs
      drift := s.drift.reset env.now postSeekSettleMs }.emit (.seek seconds cause target s.media)

/-- `seek`. -/
def seek (env : BrowserEnv) (cause : SeekCause) (target : Target) (s : SyncController) :
    SyncController :=
  if s.attached = false then s
  else
    let seconds := max 0 (target.ms / 1000)
    if |env.video.currentTime - seconds| < 5 / 100 then { s with pendingSeek := none }
    else if env.video.seekable.any
        (fun r => decide (r.1 - 5 / 100 ≤ seconds ∧ seconds ≤ r.2 + 5 / 100)) then
      s.performSeek env cause target seconds
    else
      let s := { s with pendingSeek := some target }
      if haveMetadata ≤ env.video.readyState ∧
          env.video.duration.any (fun duration => decide (seconds ≤ duration)) then
        s.performSeek env cause target seconds
      else s

/-- `retrySeek`. -/
def retrySeek (env : BrowserEnv) (s : SyncController) : SyncController :=
  match s.pendingSeek with
  | some target => s.seek env .retry target
  | none => s

/-- `scheduleRecovery`. -/
def scheduleRecovery (env : BrowserEnv) (s : SyncController) : SyncController :=
  { s with recoveryTimer := some (env.due bufferRecoveryStableMs) }

-- ============================================================================
-- Applying a state
-- ============================================================================

/-- The alignment in `apply`. -/
def align (env : BrowserEnv) (state : PlaybackState) (mediaChanged timelineJump force : Bool)
    (s : SyncController) : SyncController :=
  let target := expectedPosition state env.serverNow
  if (force || mediaChanged || timelineJump) = true ∧
      (s.isHost = false ∨ force = true ∨ mediaChanged = true) ∧
      state.phase ≠ .buffering ∧ state.phase ≠ .loading ∧
      alignOnTransitionMs ≤ |env.positionMs - target| then
    s.seek env .align ⟨target, s.media⟩
  else s

/-- The `playing` branch of `apply`. -/
def applyPlaying (env : BrowserEnv) (state : PlaybackState)
    (phaseChanged timelineJump force : Bool) (s : SyncController) : SyncController :=
  let s :=
    if (phaseChanged || force || timelineJump) = true then
      s.schedulePlay env (ms state.anchorServerTimeMs)
    else s
  if phaseChanged then
    { s with
      recoveryUntil := env.now + postSeekSettleMs
      drift := s.drift.reset env.now postSeekSettleMs }
  else s

/-- The player stands still in a state that is not `playing`. -/
def standStill (env : BrowserEnv) (state : PlaybackState) (s : SyncController) : SyncController :=
  let s := (s.cancelScheduledPlay.emit (.pause .phase)).emit (.rate state.playbackRate)
  { s with softCorrectionSince := none, drift := s.drift.reset env.now 0 }

/-- A host that waits for its buffering to be confirmed checks again whether it is ready. -/
def checkRecovery (env : BrowserEnv) (s : SyncController) : SyncController :=
  if s.isHost = true ∧ s.hostBufferingReported = true ∧
      haveFutureData ≤ env.video.readyState then s.scheduleRecovery env
  else s

/-- The other branch of `apply`. -/
def applyStopped (env : BrowserEnv) (state : PlaybackState) (s : SyncController) :
    SyncController :=
  let s := s.standStill env state
  if state.phase = .buffering then
    (s.emitStatus (if s.isHost then .localBuffering else .hostBuffering)).checkRecovery env
  else s.emitStatus .synced

/-- `apply`.  The microtask at its end runs when the task is over. -/
def apply (env : BrowserEnv) (previous : Option PlaybackState) (force : Bool)
    (s : SyncController) : SyncController :=
  match s.state with
  | none => s
  | some state =>
      if s.attached = false then s
      else
        let mediaChanged := previous.any (fun p => decide (p.mediaID ≠ state.mediaID))
        let phaseChanged := previous.all (fun p => decide (p.phase ≠ state.phase))
        let timelineJump := isTimelineJump previous state
        let s := { s with applyingRemoteState := true }.emit (.rate state.playbackRate)
        let s := s.align env state mediaChanged timelineJump force
        if state.phase = .playing then s.applyPlaying env state phaseChanged timelineJump force
        else s.applyStopped env state

/-- `setRoomState`. -/
def setRoomState (env : BrowserEnv) (next : PlaybackState) (force : Bool) (s : SyncController) :
    SyncController :=
  if force = false ∧ acceptRevision s.lastRevision next.revision = false then s
  else { s with toRoomState := .synced next }.apply env s.state force

/-- `updateHeartbeat`. -/
def updateHeartbeat (s : SyncController) : SyncController :=
  { s with heartbeatTimer := s.isHost && s.attached }

/-- `attach`; the controller is detached whenever a player is built. -/
def attach (env : BrowserEnv) (s : SyncController) : SyncController :=
  if s.attached then s
  else ({ s with attached := true, tickTimer := true }.updateHeartbeat).apply env none true

/-- `destroy`. -/
def destroy (s : SyncController) : SyncController :=
  { s.cancelScheduledPlay with
    attached := false, tickTimer := false, heartbeatTimer := false,
    bufferConfirmTimer := none, recoveryTimer := none }

/-- `setHost`. -/
def setHost (env : BrowserEnv) (value : Bool) (s : SyncController) : SyncController :=
  if s.isHost = value then s
  else
    let s := { s with
      isHost := value
      drift := s.drift.reset env.now postSeekSettleMs
      softCorrectionSince := none }
    s.updateHeartbeat.apply env none true

/-- `realign`. -/
def realign (env : BrowserEnv) (s : SyncController) : SyncController := s.apply env none true

/-- `suspend`. -/
def suspend (s : SyncController) : SyncController :=
  if s.isHost = false ∧ s.attached = true then s.emit (.pause .suspend) else s

/-- `resumeLocal`. -/
def resumeLocal (env : BrowserEnv) (s : SyncController) : SyncController :=
  { s with autoplayBlocked := false }.tryPlay env

-- ============================================================================
-- The host's controls
-- ============================================================================

/-- `onUserPlay`. -/
def onUserPlay (env : BrowserEnv) (s : SyncController) : SyncController :=
  if s.isHost = false ∨ s.attached = false then s
  else { s with autoplayBlocked := false }.send
    (positionCommand .playbackPlay (mathRound env.positionMs)) true

/-- `onUserPause`. -/
def onUserPause (env : BrowserEnv) (s : SyncController) : SyncController :=
  if s.isHost = false ∨ s.attached = false then s
  else (s.cancelScheduledPlay.emit (.pause .user)).send
    (positionCommand .playbackPause (mathRound env.positionMs)) true

/-- `onUserSeek`. -/
def onUserSeek (env : BrowserEnv) (positionMs : ℚ) (s : SyncController) : SyncController :=
  if s.isHost = false then s
  else
    let s := s.seek env .user ⟨positionMs, s.media⟩
    let s :=
      if s.inPhase .playing = true ∧ s.attached = true then s.emit (.pause .user) else s
    s.send (positionCommand .playbackSeek (mathRound positionMs)) true

/-- `onUserRateChange`. -/
def onUserRateChange (env : BrowserEnv) (playbackRate : ℚ) (s : SyncController) :
    SyncController :=
  if s.isHost = false then s
  else
    let positionMs := if s.attached then mathRound env.positionMs else 0
    let s := if s.attached then s.emit (.rate playbackRate) else s
    s.send (rateCommand playbackRate positionMs) true

-- ============================================================================
-- Ticks
-- ============================================================================

/-- `applyCorrection`. -/
def applyCorrection (env : BrowserEnv) (action : Correction) (s : SyncController) :
    SyncController :=
  let s := s.emit (.rate action.rate)
  match action.type, action.targetMs with
  | .hardSeek, some targetMs =>
      ({ s with softCorrectionSince := none }.emitStatus .correcting).seek env .drift
        ⟨targetMs, s.media⟩
  | .noop, _ => { s with softCorrectionSince := none }.emitStatus .synced
  | _, _ =>
      let since := s.softCorrectionSince.getD env.now
      { s with softCorrectionSince := some since }.emitStatus
        (if correctionStatusDelayMs ≤ env.now - since then .correcting else .synced)

/-- The end of `tick`: drift correction for a member past the settling time. -/
def correctDrift (env : BrowserEnv) (state : PlaybackState) (s : SyncController) :
    SyncController :=
  let expected := expectedPosition state env.serverNow
  let (action, drift) := s.drift.correct expected env.positionMs state.playbackRate env.now
  let s := { s with drift := drift }.applyCorrection env action
  if env.video.paused then s.tryPlay env else s

/-- `tick`. -/
def tick (env : BrowserEnv) (s : SyncController) : SyncController :=
  match s.state with
  | none => s
  | some state =>
      if s.attached = false ∨ env.video.readyState < haveMetadata then s
      else if state.phase ≠ .playing then s
      else if env.serverNow + 20 < ms state.anchorServerTimeMs then s
      else if s.bufferSuspected = true ∨ s.confirmedBuffering = true ∨
          env.video.readyState < haveFutureData then
        s.emit (.rate state.playbackRate)
      else if s.isHost then
        let s := (s.emit (.rate state.playbackRate)).emitStatus .synced
        if env.video.paused = true ∧ s.applyingRemoteState = false then s.tryPlay env else s
      else if env.now < s.recoveryUntil then
        let s := (s.emit (.rate state.playbackRate)).emitStatus .synced
        if env.video.paused then s.tryPlay env else s
      else s.correctDrift env state

/-- `heartbeat`. -/
def heartbeat (env : BrowserEnv) (s : SyncController) : SyncController :=
  if s.attached = false then s else s.send (heartbeatCommand env.video) false

-- ============================================================================
-- Media events
-- ============================================================================

/-- `waiting`. -/
def waiting (env : BrowserEnv) (s : SyncController) : SyncController :=
  match s.state with
  | none => s
  | some state =>
      if s.attached = false ∨ state.phase ≠ .playing ∨ haveFutureData ≤ env.video.readyState then s
      else
        let s := { s with bufferSuspected := true }.emit (.rate state.playbackRate)
        let s := { s with
          softCorrectionSince := none, drift := s.drift.reset env.now 0, recoveryTimer := none }
        if s.bufferConfirmTimer.isSome then s
        else
          { s with
            bufferConfirmTimer :=
              some (env.due (max bufferConfirmMs (s.ignoreBufferUntil - env.now))) }

/-- `canPlay`. -/
def canPlay (env : BrowserEnv) (s : SyncController) : SyncController :=
  let s := { s with bufferConfirmTimer := none, bufferSuspected := false }
  if s.confirmedBuffering = false then s.tick env else s.scheduleRecovery env

/-- `loadedMetadata`. -/
def loadedMetadata (env : BrowserEnv) (s : SyncController) : SyncController :=
  let s := s.retrySeek env
  match s.state with
  | some state =>
      if s.attached = true ∧ state.mediaID ≠ "" then
        s.send (readyCommand state.mediaID env.video) true
      else s
  | none => s

/-- `nativePause`. -/
def nativePause (env : BrowserEnv) (s : SyncController) : SyncController :=
  if s.isHost = false ∧ s.applyingRemoteState = false ∧ s.confirmedBuffering = false ∧
      s.inPhase .playing = true then s.tryPlay env
  else s

/-- `ended`. -/
def ended (env : BrowserEnv) (s : SyncController) : SyncController :=
  if s.isHost = true ∧ s.attached = true then
    s.send (positionCommand .playbackEnded env.video.durationMs) true
  else s

-- ============================================================================
-- Timers
-- ============================================================================

/-- The callback of `schedulePlay`. -/
def firePlay (env : BrowserEnv) (s : SyncController) : SyncController :=
  let s : SyncController := { s with playTimer := none }
  if s.confirmedBuffering = false ∧ s.inPhase .playing = true then s.tryPlay env else s

/-- What a buffering player reports, once: the host pauses and asks the room to wait, a
    member says that it buffers. -/
def reportBuffering (env : BrowserEnv) (s : SyncController) : SyncController :=
  if s.isHost = true ∧ s.hostBufferingReported = false then
    ({ s with hostBufferingReported := true }.emit (.pause .buffering)).send
      (positionCommand .playbackHostBuffering (mathRound env.positionMs)) true
  else if s.isHost = false ∧ s.memberBufferingReported = false then
    { s with memberBufferingReported := true }.send
      (positionCommand .telemetryMemberPlayback (mathRound env.positionMs)) false
  else s

/-- The callback of `waiting`. -/
def confirmBuffering (env : BrowserEnv) (s : SyncController) : SyncController :=
  let s := { s with bufferConfirmTimer := none }
  if s.attached = false ∨ s.inPhase .playing = false ∨ haveFutureData ≤ env.video.readyState then
    { s with bufferSuspected := false }
  else ({ s with confirmedBuffering := true }.emitStatus .localBuffering).reportBuffering env

/-- What a recovered player reports: the host to a buffering room that it is ready, a
    member that it no longer buffers. -/
def reportRecovery (env : BrowserEnv) (state : PlaybackState) (s : SyncController) :
    SyncController :=
  if s.isHost = true ∧ s.hostBufferingReported = true then
    if state.phase = .buffering then
      s.send (positionCommand .playbackHostReady (mathRound env.positionMs)) true
    else s
  else if s.isHost = false ∧ s.memberBufferingReported = true then
    { s with memberBufferingReported := false }.send
      (positionCommand .telemetryMemberPlayback (mathRound env.positionMs)) false
  else s

/-- The callback of `scheduleRecovery`. -/
def recover (env : BrowserEnv) (s : SyncController) : SyncController :=
  let s := { s with recoveryTimer := none }
  match s.state with
  | none => s
  | some state =>
      if s.attached = false ∨ s.bufferSuspected = true ∨
          env.video.readyState < haveFutureData then s
      else if s.isHost = true ∧ s.hostBufferingReported = true ∧ state.phase ≠ .buffering then
        { s with confirmedBuffering := true }
      else
        let s := { s with
          confirmedBuffering := false
          recoveryUntil := env.now + postSeekSettleMs
          drift := s.drift.reset env.now postSeekSettleMs }
        let s := s.reportRecovery env state
        let s := s.emitStatus (if state.phase = .buffering then .hostBuffering else .synced)
        if state.phase = .playing then s.tryPlay env else s

-- ============================================================================
-- Promises
-- ============================================================================

/-- A promise of `video.play()` is settled. -/
def playSettled (ok : Bool) (s : SyncController) : SyncController :=
  if s.plays = 0 then s
  else
    let s := { s with plays := s.plays - 1 }
    if ok then { s with autoplayBlocked := false }
    else { s with autoplayBlocked := true }.emitStatus .autoplayBlocked

/-- What hangs on the promise of a command. -/
def settle (type : CommandType) (ok : Bool) (s : SyncController) : SyncController :=
  match type, ok with
  | .playbackHostBuffering, false => { s with hostBufferingReported := false }
  | .playbackHostReady, true => { s with hostBufferingReported := false }
  | .playbackHostReady, false => { s with confirmedBuffering := true }
  | _, _ => s

/-- The promise of the command `id` is settled: the server has accepted or refused it,
    no answer has come in time, or the connection is gone. -/
def replied (id : Nat) (ok : Bool) (s : SyncController) : SyncController :=
  match s.awaiting.find? (fun r => r.id = id) with
  | none => s
  | some r => { s with awaiting := s.awaiting.erase r }.settle r.command.type ok

-- ============================================================================
-- Tasks
-- ============================================================================

/-- The media events `attach` listens to. -/
inductive MediaEvent where
  | waiting
  | stalled
  | canplay
  | playing
  | progress
  | loadedmetadata
  | pause
  | ended
deriving DecidableEq, Repr

end SyncController

/-- What the browser can run next. -/
inductive Task where
  | attach
  | destroy
  | setRoomState (next : PlaybackState) (force : Bool)
  | setHost (value : Bool)
  | realign
  | suspend
  | resumeLocal
  | onUserPlay
  | onUserPause
  | onUserSeek (positionMs : ℚ)
  | onUserRateChange (playbackRate : ℚ)
  | tick
  | heartbeat
  | playTimer
  | bufferConfirmTimer
  | recoveryTimer
  | event (e : SyncController.MediaEvent)
  | playSettled (ok : Bool)
  | replied (id : Nat) (ok : Bool)
deriving DecidableEq

namespace SyncController

/-- A media event reaches its listener. -/
def dispatch (env : BrowserEnv) (e : MediaEvent) (s : SyncController) : SyncController :=
  match e with
  | .waiting | .stalled => s.waiting env
  | .canplay | .playing => s.canPlay env
  | .progress => s.retrySeek env
  | .loadedmetadata => s.loadedMetadata env
  | .pause => s.nativePause env
  | .ended => s.ended env

/-- A timer that is not due yet, or is not set, does not fire. -/
def fire (env : BrowserEnv) (timer : Option ℚ) (callback : SyncController → SyncController)
    (s : SyncController) : SyncController :=
  if timer.any (fun due => decide (due ≤ env.now)) then callback s else s

/-- What a task runs. -/
def perform (env : BrowserEnv) (task : Task) (s : SyncController) : SyncController :=
  match task with
  | .attach => s.attach env
  | .destroy => s.destroy
  | .setRoomState next force => s.setRoomState env next force
  | .setHost value => s.setHost env value
  | .realign => s.realign env
  | .suspend => s.suspend
  | .resumeLocal => s.resumeLocal env
  | .onUserPlay => s.onUserPlay env
  | .onUserPause => s.onUserPause env
  | .onUserSeek positionMs => s.onUserSeek env positionMs
  | .onUserRateChange playbackRate => s.onUserRateChange env playbackRate
  | .tick => if s.tickTimer then s.tick env else s
  | .heartbeat => if s.heartbeatTimer then s.heartbeat env else s
  | .playTimer => s.fire env s.playTimer (firePlay env)
  | .bufferConfirmTimer => s.fire env s.bufferConfirmTimer (confirmBuffering env)
  | .recoveryTimer => s.fire env s.recoveryTimer (recover env)
  | .event e => if s.attached then s.dispatch env e else s
  | .playSettled ok => s.playSettled ok
  | .replied id ok => s.replied id ok

/-- One task and the microtasks behind it.  `acts` is what this task does. -/
def step (s : SyncController) (l : BrowserEnv × Task) : SyncController :=
  { ({ s with acts := [] }.perform l.1 l.2) with applyingRemoteState := false }

-- ============================================================================
-- What a method can leave
-- ============================================================================

section Cases

variable {env : BrowserEnv} {s : SyncController} {motive : SyncController → Prop}

/-- `seek` does nothing without a player; else it sets or clears the pending target, or
    performs. -/
theorem seek_cases {cause : SeekCause} {target : Target}
    (hdetached : s.attached = false → motive s)
    (hpending : ∀ pending, pending = none ∨ pending = some target →
      motive { s with pendingSeek := pending })
    (hperform : ∀ x seconds, x = s ∨ x = { s with pendingSeek := some target } →
      motive (x.performSeek env cause target seconds)) :
    motive (s.seek env cause target) := by
  rw [seek]
  split
  · rename_i h
    exact hdetached h
  dsimp only
  split
  · exact hpending none (Or.inl rfl)
  split
  · exact hperform s _ (Or.inl rfl)
  split
  · exact hperform _ _ (Or.inr rfl)
  · exact hpending (some target) (Or.inr rfl)

/-- `apply` does nothing without a state or a player; else it aligns and takes the branch of
    the phase. -/
theorem apply_cases {previous : Option PlaybackState} {force : Bool}
    (hignored : s.state = none ∨ s.attached = false → motive s)
    (happlied : ∀ state y, s.state = some state → s.attached = true →
      y = (({ s with applyingRemoteState := true } : SyncController).emit
        (.rate state.playbackRate)).align env state
          (previous.any (fun p => decide (p.mediaID ≠ state.mediaID)))
          (isTimelineJump previous state) force →
      (state.phase = .playing → motive (y.applyPlaying env state
        (previous.all (fun p => decide (p.phase ≠ state.phase))) (isTimelineJump previous state)
        force)) ∧
      (state.phase ≠ .playing → motive (y.applyStopped env state))) :
    motive (s.apply env previous force) := by
  rw [apply]
  split
  · rename_i hnone
    exact hignored (Or.inl hnone)
  rename_i state hstate
  split
  · rename_i hdetached
    exact hignored (Or.inr hdetached)
  rename_i hattached
  obtain ⟨hplaying, hstopped⟩ := happlied state _ hstate (Bool.not_eq_false _ ▸ hattached) rfl
  split
  · rename_i hphase
    exact hplaying hphase
  · rename_i hphase
    exact hstopped hphase

/-- In a playing room whose anchor is reached, `tick` sets the rate, and then may correct the
    drift and start the element; else it does nothing. -/
theorem tick_cases (hidle : motive s)
    (hreached : ∀ state, s.state = some state → state.phase = .playing →
      ms state.anchorServerTimeMs ≤ env.serverNow + 20 →
      motive (s.emit (.rate state.playbackRate)) ∧
      ∀ x, (x = (s.emit (.rate state.playbackRate)).emitStatus .synced ∨
          ∃ action drift, x = { s with drift := drift }.applyCorrection env action) →
        motive x ∧ motive (x.tryPlay env)) :
    motive (s.tick env) := by
  rw [tick]
  split
  · exact hidle
  rename_i state hstate
  split
  · exact hidle
  split
  · exact hidle
  rename_i hphase
  split
  · exact hidle
  rename_i hanchor
  obtain ⟨hrate, hplay⟩ := hreached state hstate (by simpa using hphase) (not_lt.mp hanchor)
  have hends : ∀ (x : SyncController) (c : Prop) [Decidable c], motive x ∧ motive (x.tryPlay env) →
      motive (if c then x.tryPlay env else x) := by
    intro x c hc hx
    split
    · exact hx.2
    · exact hx.1
  split
  · exact hrate
  split
  · exact hends _ _ (hplay _ (Or.inl rfl))
  split
  · exact hends _ _ (hplay _ (Or.inl rfl))
  · exact hends _ _ (hplay _ (Or.inr ⟨_, _, rfl⟩))

end Cases

end SyncController

-- ============================================================================
-- A player, for concrete runs
-- ============================================================================

/-- A player with data at the browser's time `now`. -/
def playerAt (now : ℚ) (paused : Bool) : BrowserEnv :=
  ⟨now, 0, ⟨0, 4, paused, some 3600, 640, 360, [(0, 3600)], false⟩⟩

end WatchTogether.Web

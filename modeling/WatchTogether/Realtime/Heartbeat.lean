/-
  WatchTogether.Realtime.Heartbeat

  What the room's answer to a heartbeat does to the players.  The server side says
  which fields of the timeline a `telemetry.host.playback` or a `client.ready` may
  change; the browser side says which differences between two states are a jump.  The
  two line up: such an update is never a reason to seek.
-/

import WatchTogether.Rooms.Replication
import WatchTogether.Web.Aim

namespace WatchTogether.Realtime

open Rooms Web

variable {σ : Type}

-- ============================================================================
-- The server's side
-- ============================================================================

/-- The playback switch on a heartbeat. -/
theorem playbackSwitch_continues {t t' : Timeline} {now : Int64} {p : CommandPayload}
    {r : Except ActorError Bool}
    (h : t.playbackSwitch now .telemetryHostPlayback p = (t', r)) :
    Continues t.playback t'.playback := by
  have hsample := Timeline.acceptHostAnchorSample_continues t now p.positionMs p.paused p.readyState
  have ht' : t' = (t.playbackSwitch now .telemetryHostPlayback p).1 := by rw [h]
  rw [ht']
  exact hsample

theorem continues_hostTurn {P : Persistence σ} {env : Env} {a a' : Actor σ}
    {type : CommandType} {p : CommandPayload} {r : Except ActorError (Option PlaybackState)}
    (htype : type = .telemetryHostPlayback) (hturn : HostTurn P env a type p a' r) :
    Continues a.playback a'.playback := by
  subst htype
  cases hturn with
  | refused e => exact continues_refl _
  | transferRefused m e store htype => exact absurd htype (by decide)
  | transferred m store htype => exact absurd htype (by decide)
  | kicked m htype => exact absurd htype (by decide)
  | closeFailed e store htype => exact absurd htype (by decide)
  | closed store htype => exact absurd htype (by decide)
  | mediaRefused e store htype => exact absurd htype (by decide)
  | mediaSet store htype => exact absurd htype (by decide)
  | playbackRefused t e hswitch => exact playbackSwitch_continues hswitch
  | playbackKept t hswitch => exact playbackSwitch_continues hswitch
  | playbackChanged t s hswitch hs =>
      have ht := playbackSwitch_continues hswitch
      subst hs
      exact ⟨ht.mediaID, ht.timelineEpoch, ht.phase, ht.anchor⟩

/-- The two commands that refresh the timeline without steering it. -/
def Refreshing (type : CommandType) : Prop := type = .telemetryHostPlayback ∨ type = .clientReady

theorem continues_commandTurn {P : Persistence σ} {env : Env} {a a' : Actor σ} {i : Identity}
    {c : Command} {r : Except ActorError (Option PlaybackState)} (hc : Refreshing c.type)
    (hturn : CommandTurn P env a i c a' r) : Continues a.playback a'.playback := by
  cases hturn with
  | refused e => exact continues_refl _
  | ignored hm htype => exact continues_refl _
  | readied p hm htype => exact continues_refl _
  | measured p s hm htype hhost hs =>
      subst hs
      exact ⟨rfl, rfl, rfl, fun _ => rfl⟩
  | host p a' r hp hturn =>
      obtain ⟨⟨-, hready, -⟩, -⟩ := Core.authorised_eq_some.mp hp
      exact continues_hostTurn (hc.resolve_right hready) hturn

/-- **Server side.**  Whatever such a command makes the room broadcast continues the
    timeline it found. -/
theorem broadcast_continues {P : Persistence σ} {a : Actor σ} {env : Env} {i : Identity}
    {c : Command} (hc : Refreshing c.type) {client : Client} {revision : Nat}
    {next : PlaybackState}
    (h : (client, revision, next) ∈
      playbackSends ((Actor.step P a (env, .command i c)).out.drop a.out.length)) :
    Continues a.playback next := by
  obtain ⟨hsent, -⟩ := stepReplicated P a (env, .command i c)
  obtain ⟨r, hturn⟩ := turn_step P env a (.command i c)
  generalize Actor.step P a (env, .command i c) = a' at h hsent hturn
  rcases hsent with ⟨-, hnone⟩ | ⟨-, hall⟩
  · rw [hnone] at h
    exact absurd h List.not_mem_nil
  rw [hall] at h
  obtain ⟨m, -, hm⟩ := List.mem_map.mp h
  rw [Prod.mk.injEq, Prod.mk.injEq] at hm
  rw [← hm.2.2]
  cases hturn with
  | stopped m hstopped => exact continues_refl _
  | command i c a' r hlive hturn => exact continues_commandTurn hc hturn

-- ============================================================================
-- The browser's side
-- ============================================================================

/-- A continued timeline is no jump. -/
theorem isTimelineJump_continues {p next : PlaybackState} (h : Continues p next) :
    isTimelineJump (some p) next = false := by
  rw [isTimelineJump]
  rw [if_neg (by simp [h.mediaID]), if_neg (by simp [h.timelineEpoch])]
  split
  · rfl
  · rename_i hplaying
    have hstopped : p.phase ≠ .playing := by
      intro hp
      exact hplaying ⟨hp, h.phase.trans hp⟩
    have hzero : (p.anchorPositionMs.toInt - next.anchorPositionMs.toInt).natAbs = 0 := by
      rw [h.anchor hstopped]
      omega
    rw [hzero, timelineJumpMs]
    simp

/-- The player was not moved: nothing was seeked, no start was scheduled for later, and no
    seek was deferred or dropped. -/
structure Undisturbed (s s' : SyncController) : Prop where
  seeks : ∀ seconds cause target current, Act.seek seconds cause target current ∉ s'.acts
  starts : Act.pause .schedulePlay ∉ s'.acts
  pendingSeek : s'.pendingSeek = s.pendingSeek

/-- No `currentTime` was written. -/
theorem not_seeked_of_aim {s s' : SyncController} (h : s'.aim = s.aim) (hs : s.acts = []) :
    ∀ seconds cause target current, Act.seek seconds cause target current ∉ s'.acts := by
  intro seconds cause target current hin
  have hseeks : s'.acts.filter Act.isSeek = s.acts.filter Act.isSeek := congrArg Aim.seeks h
  have hin' : Act.seek seconds cause target current ∈ s'.acts.filter Act.isSeek :=
    List.mem_filter.mpr ⟨hin, rfl⟩
  rw [hseeks, hs] at hin'
  exact absurd hin' List.not_mem_nil

theorem mem_emitStatus {next : SyncStatus} {s : SyncController} {x : Act}
    (h : x ∈ (s.emitStatus next).acts) : x ∈ s.acts ∨ x = .status next := by
  rw [SyncController.emitStatus] at h
  split at h
  · exact Or.inl h
  split at h
  · exact Or.inl h
  · rcases List.mem_append.mp h with h | h
    · exact Or.inl h
    · exact Or.inr (List.mem_singleton.mp h)

theorem checkRecovery_acts (env : BrowserEnv) (s : SyncController) :
    (s.checkRecovery env).acts = s.acts := by
  rw [SyncController.checkRecovery]
  split <;> rfl

/-- A stopped room pauses the player on account of its phase alone. -/
theorem applyStopped_no_start {env : BrowserEnv} {state : PlaybackState} {s : SyncController}
    (h : Act.pause .schedulePlay ∉ s.acts) :
    Act.pause .schedulePlay ∉ (s.applyStopped env state).acts := by
  have hstill : Act.pause .schedulePlay ∉ (s.standStill env state).acts := by
    simp [SyncController.standStill, SyncController.emit, SyncController.cancelScheduledPlay, h]
  have hstatus : ∀ next, Act.pause .schedulePlay ∉
      ((s.standStill env state).emitStatus next).acts := by
    intro next hin
    rcases mem_emitStatus hin with hin | hin
    · exact hstill hin
    · exact absurd hin (by simp)
  rw [SyncController.applyStopped]
  split
  · rw [checkRecovery_acts]
    exact hstatus _
  · exact hstatus _

/-- A continued timeline leaves the player where it is. -/
theorem apply_continues (env : BrowserEnv) {p next : PlaybackState} (h : Continues p next)
    {s : SyncController} (hs : s.acts = []) (hstate : s.state = some next) :
    Undisturbed s (s.apply env (some p) false) := by
  have hmedia : (some p).any (fun q => decide (q.mediaID ≠ next.mediaID)) = false := by
    simp [h.mediaID]
  have hphase : (some p).all (fun q => decide (q.phase ≠ next.phase)) = false := by
    simp [h.phase]
  have hjump : isTimelineJump (some p) next = false := isTimelineJump_continues h
  rw [SyncController.apply]
  rw [hstate]
  dsimp only
  split
  · exact ⟨by simp [hs], by simp [hs], rfl⟩
  rw [hmedia, hphase, hjump, SyncController.align_of_not (by simp [SyncController.Aligns])]
  have hrate : (({ s with applyingRemoteState := true } : SyncController).emit
      (.rate next.playbackRate)).aim = s.aim := SyncController.aim_emit rfl _
  generalize hr : ({ s with applyingRemoteState := true } : SyncController).emit
    (.rate next.playbackRate) = r at hrate
  have hquiet : Act.pause .schedulePlay ∉ r.acts := by
    rw [← hr]
    simp [SyncController.emit, hs]
  split
  · refine ⟨not_seeked_of_aim ((SyncController.aim_applyPlaying ..).trans hrate) hs, hquiet, ?_⟩
    exact congrArg Aim.pendingSeek ((SyncController.aim_applyPlaying ..).trans hrate)
  · refine ⟨not_seeked_of_aim ((SyncController.aim_applyStopped ..).trans hrate) hs,
      applyStopped_no_start hquiet, ?_⟩
    exact congrArg Aim.pendingSeek ((SyncController.aim_applyStopped ..).trans hrate)

/-- **Browser side.**  A broadcast that continues the controller's state moves no player. -/
theorem setRoomState_continues {env : BrowserEnv} {p next : PlaybackState}
    (h : Continues p next) {s : SyncController} (hstate : s.state = some p) :
    Undisturbed s (s.step (env, .setRoomState next false)) := by
  have hset : Undisturbed s
      (({ s with acts := [] } : SyncController).setRoomState env next false) := by
    rw [SyncController.setRoomState]
    split
    · exact ⟨by simp, by simp, rfl⟩
    · dsimp only
      rw [hstate]
      obtain ⟨hseeks, hstarts, hpending⟩ := apply_continues env h
        (s := { s with acts := [], toRoomState := .synced next }) rfl rfl
      exact ⟨hseeks, hstarts, hpending⟩
  exact ⟨hset.seeks, hset.starts, hset.pendingSeek⟩

/-- A broadcast never seeks the host within the film it is showing. -/
theorem setRoomState_host {env : BrowserEnv} {next : PlaybackState} {s : SyncController}
    (hhost : s.isHost = true) (hmedia : ∀ p, s.state = some p → p.mediaID = next.mediaID) :
    ∀ seconds cause target current,
      Act.seek seconds cause target current ∉ (s.step (env, .setRoomState next false)).acts := by
  have hchanged : s.state.any (fun p => decide (p.mediaID ≠ next.mediaID)) = false := by
    cases hstate : s.state with
    | none => rfl
    | some p => simp [hmedia p hstate]
  show ∀ seconds cause target current, Act.seek seconds cause target current ∉
    (({ s with acts := [] } : SyncController).setRoomState env next false).acts
  rw [SyncController.setRoomState]
  split
  · simp
  rw [SyncController.apply]
  dsimp only [RoomState.synced]
  split
  · simp
  have hnot : ¬SyncController.Aligns env next false (isTimelineJump s.state next) false
      (({ s with acts := [], applyingRemoteState := true, toRoomState := ⟨next.revision, some next⟩ }
        : SyncController).emit (.rate next.playbackRate)) := by
    rintro ⟨-, hwho, -⟩
    simp [SyncController.emit, hhost] at hwho
  rw [hchanged, SyncController.align_of_not hnot]
  refine not_seeked_of_aim
    (s := { s with acts := [], toRoomState := ⟨next.revision, some next⟩ }) ?_ rfl
  split
  · exact (SyncController.aim_applyPlaying ..).trans (SyncController.aim_emit rfl _)
  · exact (SyncController.aim_applyStopped ..).trans (SyncController.aim_emit rfl _)

-- ============================================================================
-- Both sides
-- ============================================================================

/-- **Heartbeats never seek anybody.**  What a `telemetry.host.playback` or `client.ready`
    makes the room broadcast leaves every player that is at the room's state undisturbed;
    and whatever the command, a broadcast within the current film never seeks the host. -/
theorem heartbeat_undisturbing (P : Persistence σ) (a : Actor σ) (env : Env) (i : Identity)
    (c : Command) (s : SyncController) (b : BrowserEnv) :
    (∀ client revision next,
      (client, revision, next) ∈
        playbackSends ((Actor.step P a (env, .command i c)).out.drop a.out.length) →
      Refreshing c.type → s.state = some a.playback →
      Undisturbed s (s.step (b, .setRoomState next false))) ∧
    (∀ next, s.isHost = true → (∀ p, s.state = some p → p.mediaID = next.mediaID) →
      ∀ seconds cause target current,
        Act.seek seconds cause target current ∉ (s.step (b, .setRoomState next false)).acts) := by
  constructor
  · intro client revision next hsent hc hstate
    exact setRoomState_continues (broadcast_continues hc hsent) hstate
  · intro next hhost hmedia
    exact setRoomState_host hhost hmedia

/-! ## A host that reports the length of its film -/

/-- The host `h` alone in its room. -/
def hostAlone : Actor Unit :=
  Actor.step (Persistence.answering (.ok ()) []) (newActor (smallRoom "h") none () 45)
    (Env.at 0, .join (userClient 0 "h"))

/-- The host's report that it can play. -/
def readyReport : Command := ⟨.clientReady, ⟨some ⟨true, "", 5000, 640, 360⟩, none⟩⟩

/-- The state the room broadcasts for the report. -/
def measuredState : PlaybackState := { hostAlone.playback with revision := 1, durationMs := 5000 }

/-- A controller with a player. -/
def attachedPlayer : SyncController :=
  { SyncController.create true with attached := true, toRoomState := .synced hostAlone.playback }

theorem heartbeat_undisturbing_ready :
    Undisturbed attachedPlayer
      (attachedPlayer.step (SyncController.loadedPlayer, .setRoomState measuredState false)) ∧
    ∀ seconds cause target current, Act.seek seconds cause target current ∉
      (attachedPlayer.step (SyncController.loadedPlayer, .setRoomState measuredState false)).acts := by
  obtain ⟨hrefresh, hhost⟩ := heartbeat_undisturbing (Persistence.answering (.ok ()) []) hostAlone
    (Env.at 1) (user "h") readyReport attachedPlayer SyncController.loadedPlayer
  refine ⟨hrefresh (userClient 0 "h") 1 measuredState (by decide +kernel) (Or.inr rfl) rfl, ?_⟩
  exact hhost measuredState rfl (by decide +kernel)

end WatchTogether.Realtime

/-
  WatchTogether.Rooms.Apply

  `Actor.apply`, the handler of every command.  Its early returns decide the
  permissions, so `apply` keeps their order; each branch behind them is a function
  of its own.
-/

import WatchTogether.Rooms.Actor

namespace WatchTogether.Rooms

-- ============================================================================
-- The playback switch
-- ============================================================================

/-- The `switch c.Type` of the playback commands: the timeline it leaves, and
    `changed` or the error it returns.  The drift tracking is reset before a rate is
    validated, so a refused rate resets it too. -/
def Timeline.playbackSwitch (t : Timeline) (now : Int64) (type : CommandType)
    (p : CommandPayload) : Timeline × Except ActorError Bool :=
  match type with
  | .playbackPlay =>
      let t := t.resetHostDriftTracking
      ({ t with playback := { t.playback with
          phase := .playing
          anchorPositionMs := p.positionMs
          anchorServerTimeMs := now + scheduleLeadMs } }, .ok true)
  | .playbackPause =>
      let t := t.resetHostDriftTracking
      ({ t with playback := { t.playback with
          phase := .paused
          anchorPositionMs := p.positionMs
          anchorServerTimeMs := now } }, .ok true)
  | .playbackSeek =>
      let t := t.resetHostDriftTracking
      ({ t with playback := { t.playback with
          timelineEpoch := t.playback.timelineEpoch + 1
          anchorPositionMs := p.positionMs
          anchorServerTimeMs :=
            if t.playback.phase = .playing then now + scheduleLeadMs else now } }, .ok true)
  | .playbackRate =>
      let t := t.resetHostDriftTracking
      if validRate p.playbackRate then
        let pos := t.playback.expected now
        ({ t with playback := { t.playback with
            playbackRate := p.playbackRate
            anchorPositionMs := pos
            anchorServerTimeMs := now } }, .ok true)
      else (t, .error .invalidCommand)
  | .playbackHostBuffering =>
      let t := t.resetHostDriftTracking
      ({ t with playback := { t.playback with
          phase := .buffering
          resumeIntent := some .playing
          anchorPositionMs := p.positionMs
          anchorServerTimeMs := now } }, .ok true)
  | .playbackHostReady =>
      let t := t.resetHostDriftTracking
      if t.playback.phase = .buffering ∧ t.playback.resumeIntent = some .playing then
        ({ t with playback := { t.playback with
            phase := .playing
            anchorServerTimeMs := now + scheduleLeadMs } }, .ok true)
      else (t, .ok false)
  | .telemetryHostPlayback =>
      let (t, accepted) := t.acceptHostAnchorSample now p.positionMs p.paused p.readyState
      (t, .ok accepted)
  | .playbackEnded =>
      let t := t.resetHostDriftTracking
      ({ t with playback := { t.playback with
          phase := .ended
          anchorPositionMs := p.positionMs
          anchorServerTimeMs := now } }, .ok true)
  | _ => (t, .error .invalidCommand)

/-- The switch keeps the revision, and the whole playback state unless it reports a
    change. -/
theorem Timeline.playbackSwitch_spec (t : Timeline) (now : Int64) (type : CommandType)
    (p : CommandPayload) :
    (t.playbackSwitch now type p).1.playback.revision = t.playback.revision ∧
    ((t.playbackSwitch now type p).2 = .ok true ∨
      (t.playbackSwitch now type p).1.playback = t.playback) := by
  cases type with
  | playbackPlay => exact ⟨rfl, Or.inl rfl⟩
  | playbackPause => exact ⟨rfl, Or.inl rfl⟩
  | playbackSeek => exact ⟨rfl, Or.inl rfl⟩
  | playbackRate =>
      rw [Timeline.playbackSwitch]
      dsimp only
      split
      · exact ⟨rfl, Or.inl rfl⟩
      · exact ⟨rfl, Or.inr rfl⟩
  | playbackHostBuffering => exact ⟨rfl, Or.inl rfl⟩
  | playbackHostReady =>
      rw [Timeline.playbackSwitch]
      dsimp only
      split
      · exact ⟨rfl, Or.inl rfl⟩
      · exact ⟨rfl, Or.inr rfl⟩
  | telemetryHostPlayback =>
      obtain ⟨hrev, hkeep⟩ :=
        t.acceptHostAnchorSample_spec now p.positionMs p.paused p.readyState
      refine ⟨hrev, ?_⟩
      rcases hkeep with h | h
      · exact Or.inl (congrArg Except.ok h)
      · exact Or.inr h
  | playbackEnded => exact ⟨rfl, Or.inl rfl⟩
  | _ => exact ⟨rfl, Or.inr rfl⟩

/-- A switch that refuses or reports no change keeps the playback state. -/
theorem Timeline.playbackSwitch_kept {t t' : Timeline} {now : Int64} {type : CommandType}
    {p : CommandPayload} {r : Except ActorError Bool}
    (h : t.playbackSwitch now type p = (t', r)) (hr : r ≠ .ok true) :
    t'.playback = t.playback := by
  obtain ⟨-, hkeep⟩ := t.playbackSwitch_spec now type p
  rw [h] at hkeep
  exact hkeep.resolve_left hr

/-- The types the switch has a case for. -/
def CommandType.isPlayback : CommandType → Bool
  | .playbackPlay | .playbackPause | .playbackSeek | .playbackRate | .playbackHostBuffering
  | .playbackHostReady | .telemetryHostPlayback | .playbackEnded => true
  | _ => false

/-- Every other type is refused. -/
theorem Timeline.playbackSwitch_isPlayback {t t' : Timeline} {now : Int64} {type : CommandType}
    {p : CommandPayload} {changed : Bool} (h : t.playbackSwitch now type p = (t', .ok changed)) :
    type.isPlayback = true := by
  cases type <;> first | rfl | exact absurd (congrArg Prod.snd h) (by simp [playbackSwitch])

/-- The switch knows no `cmd.room.*` command. -/
theorem Timeline.playbackSwitch_isAdmin {t t' : Timeline} {now : Int64} {type : CommandType}
    {p : CommandPayload} {changed : Bool} (h : t.playbackSwitch now type p = (t', .ok changed)) :
    type.isAdmin = false := by
  have hplayback := Timeline.playbackSwitch_isPlayback h
  cases type <;> first | rfl | exact absurd hplayback (by decide)

/-- `next` continues the timeline of `p`: the film, the epoch and the phase are kept, and
    outside `playing` the anchor position is too. -/
structure Continues (p next : PlaybackState) : Prop where
  mediaID : next.mediaID = p.mediaID
  timelineEpoch : next.timelineEpoch = p.timelineEpoch
  phase : next.phase = p.phase
  anchor : p.phase ≠ .playing → next.anchorPositionMs = p.anchorPositionMs

theorem continues_refl (p : PlaybackState) : Continues p p := ⟨rfl, rfl, rfl, fun _ => rfl⟩

/-- An anchor sample moves at most the anchor, and only while the room is playing. -/
theorem Timeline.acceptHostAnchorSample_continues (t : Timeline) (now positionMs : Int64) (paused : Bool)
    (readyState : Int) :
    Continues t.playback
      (t.acceptHostAnchorSample now positionMs paused readyState).1.playback := by
  rw [Timeline.acceptHostAnchorSample]
  split
  · exact continues_refl _
  rename_i hcond
  have hplaying : t.playback.phase = .playing := by
    by_contra h
    exact hcond (Or.inl h)
  dsimp only
  split
  · exact continues_refl _
  generalize (if positionMs - t.playback.expected now < 0 then (-1 : Int) else 1) = direction
  have hcount : (t.countDriftSample direction).playback = t.playback :=
    Timeline.countDriftSample_playback t direction
  split
  · rw [hcount]
    exact continues_refl _
  split
  · rw [hcount]
    exact continues_refl _
  · rw [Timeline.resetHostDriftTracking_playback, hcount]
    exact ⟨rfl, rfl, rfl, fun h => absurd hplaying h⟩

/-- The switch never changes the film. -/
theorem Timeline.playbackSwitch_mediaID (t : Timeline) (now : Int64) (type : CommandType)
    (p : CommandPayload) :
    (t.playbackSwitch now type p).1.playback.mediaID = t.playback.mediaID := by
  cases type with
  | playbackRate =>
      rw [Timeline.playbackSwitch]
      dsimp only
      split <;> rfl
  | playbackHostReady =>
      rw [Timeline.playbackSwitch]
      dsimp only
      split <;> rfl
  | telemetryHostPlayback =>
      exact (t.acceptHostAnchorSample_continues now p.positionMs p.paused p.readyState).mediaID
  | _ => rfl

/-- `a.playback.Revision++`. -/
def PlaybackState.bump (s : PlaybackState) : PlaybackState := { s with revision := s.revision + 1 }

namespace Actor

variable {σ : Type}

-- ============================================================================
-- The branches of `apply`
-- ============================================================================

/-- The longest duration `client.ready` may report: seven days. -/
def maxReadyDurationMs : Int64 := 7 * 24 * 60 * 60 * 1000

/-- `members[id].ready = ready`. -/
def setReady (id : String) (ready : Bool) (ms : KeyedTable String RuntimeMember) :
    KeyedTable String RuntimeMember :=
  ms.modify (fun k m => if k = id then { m with ready := ready } else m)

/-- The `client.ready` branch. -/
def applyReady (P : Persistence σ) (env : Env) (a : Actor σ) (i : Identity) (payload : Payload) :
    Actor σ × Except ActorError (Option PlaybackState) :=
  match payload.asReady with
  | none => (a, .error .invalidCommand)
  | some p =>
      let a := { a with members := setReady i.id p.ready a.members }
      if i.id = a.room.hostUserID ∧ p.ready = true ∧ p.mediaID = a.playback.mediaID ∧
          0 < p.durationMs ∧ p.durationMs ≤ maxReadyDurationMs then
        let state := PlaybackState.bump { a.playback with durationMs := p.durationMs }
        let a := { a with playback := state }
        let a := { a with
          store := (P.updateMediaMetadata p.mediaID p.durationMs p.videoWidth p.videoHeight
            (env.now 0) a.store).2 }
        (a.broadcast env 1 (.playbackState state) state.revision, .ok (some state))
      else (a, .ok none)

/-- The `cmd.room.transfer_host` branch. -/
def applyTransferHost (P : Persistence σ) (env : Env) (a : Actor σ) (p : CommandPayload) :
    Actor σ × Except ActorError (Option PlaybackState) :=
  match a.members.lookup p.targetUserID with
  | none => (a, .error .invalidCommand)
  | some target =>
      if target.identity.guest then (a, .error .invalidCommand)
      else
        let old := a.room.hostUserID
        match P.transferHost a.room.id old p.targetUserID (env.now 0) a.store with
        | (.error e, store) => ({ a with store := store }, .error (.store e))
        | (.ok _, store) =>
            let a := { a with store := store, room := { a.room with hostUserID := p.targetUserID } }
            (a.broadcast env 1 (.hostChanged p.targetUserID) 0, .ok none)

/-- The `cmd.room.kick` branch. -/
def applyKick (P : Persistence σ) (env : Env) (a : Actor σ) (p : CommandPayload) :
    Actor σ × Except ActorError (Option PlaybackState) :=
  match a.members.lookup p.targetUserID with
  | none => (a, .error .invalidCommand)
  | some target =>
      if p.targetUserID = a.room.hostUserID then (a, .error .invalidCommand)
      else
        let a := { a with members := a.members.erase p.targetUserID, clients := a.clients - 1 }
        let a :=
          if target.identity.guest then
            { a with store := (P.deleteGuestSession a.room.id p.targetUserID a.store).2 }
          else
            { a with store := (P.leaveMember a.room.id p.targetUserID (env.now 0) a.store).2 }
        let a := a.emit [.close target.client 1008 "removed from room"]
        (a.broadcast env 1 (.memberLeft p.targetUserID true) 0, .ok none)

/-- The `cmd.room.close` branch. -/
def applyClose (P : Persistence σ) (env : Env) (a : Actor σ) :
    Actor σ × Except ActorError (Option PlaybackState) :=
  let a := { a with room := { a.room with status := .CLOSED } }
  match P.closeRoom a.room.id (env.now 0) a.store with
  | (.error e, store) => ({ a with store := store }, .error (.store e))
  | (.ok _, store) =>
      let a := { a with store := store }
      let a := a.broadcast env 1 .roomClosed 0
      let a := a.emit (a.members.rows.map (fun m => .close m.client 1000 "room closed"))
      ({ a with members := ∅, clients := 0 }, .ok none)

/-- The playback state `cmd.room.media` installs. -/
def mediaPlayback (s : PlaybackState) (now : Int64) (p : CommandPayload) : PlaybackState :=
  PlaybackState.bump
    { s with
      mediaID := p.mediaID
      durationMs := p.durationMs
      phase := .loading
      anchorPositionMs := 0
      anchorServerTimeMs := now
      playbackRate := 1
      timelineEpoch := s.timelineEpoch + 1 }

/-- The `cmd.room.media` branch. -/
def applyMedia (P : Persistence σ) (env : Env) (a : Actor σ) (p : CommandPayload) :
    Actor σ × Except ActorError (Option PlaybackState) :=
  if p.mediaID = "" ∨ p.durationMs < 0 then (a, .error .invalidCommand)
  else
    match P.setRoomMedia a.room.id p.mediaID (env.now 0) a.store with
    | (.error e, store) => ({ a with store := store }, .error (.store e))
    | (.ok _, store) =>
        let a := { a with
          store := store
          room := { a.room with mediaID := some p.mediaID }
          playback := mediaPlayback a.playback (env.now 0) p }
        let state := a.playback
        let a := a.broadcast env 1 (.playbackState state) state.revision
        (a.persistCheckpoint P env 2, .ok (some state))

/-- The position check and the playback commands; a type that is none of them is
    refused by the switch. -/
def applyPlayback (P : Persistence σ) (env : Env) (a : Actor σ) (type : CommandType)
    (p : CommandPayload) : Actor σ × Except ActorError (Option PlaybackState) :=
  if p.positionMs < 0 ∨
      (0 < a.playback.durationMs ∧ a.playback.durationMs + 1000 < p.positionMs) then
    (a, .error .invalidPosition)
  else
    match a.toTimeline.playbackSwitch (env.now 0) type p with
    | (t, .error e) => ({ a with toTimeline := t }, .error e)
    | (t, .ok false) => ({ a with toTimeline := t }, .ok none)
    | (t, .ok true) =>
        let a := { a with toTimeline := { t with playback := t.playback.bump } }
        let state := a.playback
        let a := a.broadcast env 1 (.playbackState state) state.revision
        (a.persistCheckpoint P env 2, .ok (some state))

-- ============================================================================
-- `apply`
-- ============================================================================

/-- The super administrator's right to the `cmd.room.*` commands. -/
def adminOverride (i : Identity) (type : CommandType) : Bool :=
  type.isAdmin && !i.guest && decide (i.role = .SUPER_ADMIN)

/-- The rest of `apply`, once the caller is admitted and the payload decoded. -/
def applyHost (P : Persistence σ) (env : Env) (a : Actor σ) (type : CommandType)
    (p : CommandPayload) : Actor σ × Except ActorError (Option PlaybackState) :=
  match type with
  | .roomTransferHost => applyTransferHost P env a p
  | .roomKick => applyKick P env a p
  | .roomClose => applyClose P env a
  | .roomMedia => applyMedia P env a p
  | type => applyPlayback P env a type p

/-- `Actor.apply`. -/
def apply (P : Persistence σ) (env : Env) (a : Actor σ) (i : Identity) (c : Command) :
    Actor σ × Except ActorError (Option PlaybackState) :=
  if i.id ∉ a.members ∧ c.type.isAdmin = false then (a, .error .notMember)
  else if c.type = .clientReady then applyReady P env a i c.payload
  else if c.type = .telemetryMemberPlayback ∨ c.type = .presenceTyping then (a, .ok none)
  else if i.id ≠ a.room.hostUserID ∧ adminOverride i c.type = false then (a, .error .notHost)
  else
    match c.payload.asCommand with
    | none => (a, .error .invalidCommand)
    | some p => applyHost P env a c.type p

end Actor

end WatchTogether.Rooms

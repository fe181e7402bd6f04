/-
  WatchTogether.Web.Buffering

  The part of a controller that decides when a player counts as buffering: the four
  flags, the two timers and the commands that are still unacknowledged.  Most of the
  code leaves it alone; `BufferingTurn` lists what the tasks that do not make of it.
-/

import WatchTogether.Web.SyncController

namespace WatchTogether.Web

open Rooms

/-- What buffering and its recovery read and write. -/
structure Buffering where
  state : Option PlaybackState
  isHost : Bool
  attached : Bool
  bufferSuspected : Bool
  confirmedBuffering : Bool
  hostBufferingReported : Bool
  bufferConfirmTimer : Option ℚ
  recoveryTimer : Option ℚ
  awaiting : List Request

namespace SyncController

/-- What the controller knows of buffering. -/
def buffering (s : SyncController) : Buffering :=
  ⟨s.state, s.isHost, s.attached, s.bufferSuspected, s.confirmedBuffering,
    s.hostBufferingReported, s.bufferConfirmTimer, s.recoveryTimer, s.awaiting⟩

-- ============================================================================
-- What leaves it alone
-- ============================================================================

@[simp] theorem buffering_emitStatus (next : SyncStatus) (s : SyncController) :
    (s.emitStatus next).buffering = s.buffering := by
  rw [emitStatus]
  split
  · rfl
  split <;> rfl

@[simp] theorem buffering_tryPlay (env : BrowserEnv) (s : SyncController) :
    (s.tryPlay env).buffering = s.buffering := by
  rw [tryPlay]
  split <;> rfl

theorem buffering_schedulePlay (env : BrowserEnv) (anchor : ℚ) (s : SyncController) :
    (s.schedulePlay env anchor).buffering = s.buffering := by
  rw [schedulePlay]
  split <;> rfl

theorem buffering_performSeek (env : BrowserEnv) (cause : SeekCause) (target : Target)
    (seconds : ℚ) (s : SyncController) :
    (s.performSeek env cause target seconds).buffering = s.buffering := by
  rw [performSeek]
  split <;> rfl

@[simp] theorem buffering_seek (env : BrowserEnv) (cause : SeekCause) (target : Target)
    (s : SyncController) : (s.seek env cause target).buffering = s.buffering := by
  refine seek_cases (motive := fun x => x.buffering = s.buffering) (fun _ => rfl)
    (fun _ _ => rfl) ?_
  rintro x seconds (rfl | rfl)
  · exact buffering_performSeek ..
  · exact buffering_performSeek ..

@[simp] theorem buffering_retrySeek (env : BrowserEnv) (s : SyncController) :
    (s.retrySeek env).buffering = s.buffering := by
  rw [retrySeek]
  split
  · exact buffering_seek ..
  · rfl

theorem buffering_align (env : BrowserEnv) (state : PlaybackState)
    (mediaChanged timelineJump force : Bool) (s : SyncController) :
    (s.align env state mediaChanged timelineJump force).buffering = s.buffering := by
  rw [align]
  split
  · exact buffering_seek ..
  · rfl

theorem buffering_applyPlaying (env : BrowserEnv) (state : PlaybackState)
    (phaseChanged timelineJump force : Bool) (s : SyncController) :
    (s.applyPlaying env state phaseChanged timelineJump force).buffering = s.buffering := by
  have hsettling : ∀ x : SyncController, (if phaseChanged then
      { x with
        recoveryUntil := env.now + postSeekSettleMs
        drift := x.drift.reset env.now postSeekSettleMs }
      else x).buffering = x.buffering := by
    intro x
    split <;> rfl
  rw [applyPlaying]
  rw [hsettling]
  split
  · exact buffering_schedulePlay ..
  · rfl

theorem buffering_applyCorrection (env : BrowserEnv) (action : Correction)
    (s : SyncController) : (s.applyCorrection env action).buffering = s.buffering := by
  rw [applyCorrection]
  dsimp only
  split
  · rw [buffering_seek, buffering_emitStatus]
    rfl
  · exact buffering_emitStatus ..
  · exact buffering_emitStatus ..

@[simp] theorem buffering_tick (env : BrowserEnv) (s : SyncController) :
    (s.tick env).buffering = s.buffering := by
  refine tick_cases (motive := fun x => x.buffering = s.buffering) rfl ?_
  intro state _ _ _
  refine ⟨rfl, ?_⟩
  intro x hx
  have hsame : x.buffering = s.buffering := by
    rcases hx with rfl | ⟨action, drift, rfl⟩
    · exact buffering_emitStatus ..
    · exact buffering_applyCorrection ..
  exact ⟨hsame, (buffering_tryPlay env x).trans hsame⟩

theorem buffering_nativePause (env : BrowserEnv) (s : SyncController) :
    (s.nativePause env).buffering = s.buffering := by
  rw [nativePause]
  split
  · exact buffering_tryPlay ..
  · rfl

theorem buffering_firePlay (env : BrowserEnv) (s : SyncController) :
    (s.firePlay env).buffering = s.buffering := by
  rw [firePlay]
  dsimp only
  split
  · exact buffering_tryPlay ..
  · rfl

theorem buffering_suspend (s : SyncController) : s.suspend.buffering = s.buffering := by
  rw [suspend]
  split <;> rfl

theorem buffering_playSettled (ok : Bool) (s : SyncController) :
    (s.playSettled ok).buffering = s.buffering := by
  rw [playSettled]
  split
  · rfl
  split
  · rfl
  · exact buffering_emitStatus ..

/-- A command may wait for its acknowledgement. -/
theorem buffering_send (command : Command) (ack : Bool) (s : SyncController) :
    (s.send command ack).buffering = { s.buffering with
      awaiting := s.awaiting ++ if ack then [⟨s.nextID, command⟩] else [] } := by
  rw [send]
  cases ack with
  | true => rfl
  | false => simp [buffering, emit]

theorem buffering_send_unacknowledged (command : Command) (s : SyncController) :
    (s.send command false).buffering = s.buffering := by
  rw [buffering_send]
  simp [buffering]

/-- A host reports once; what a member reports waits for no answer. -/
theorem buffering_reportBuffering (env : BrowserEnv) (s : SyncController) :
    ∃ rs, (s.reportBuffering env).buffering = { s.buffering with
      hostBufferingReported := s.isHost || s.hostBufferingReported
      awaiting := s.awaiting ++ rs } := by
  rw [reportBuffering]
  split
  · rename_i hreport
    have hflag : (s.isHost || s.hostBufferingReported) = true := by
      rw [hreport.1, Bool.true_or]
    refine ⟨[⟨s.nextID, positionCommand .playbackHostBuffering (mathRound env.positionMs)⟩], ?_⟩
    rw [hflag, buffering_send]
    rfl
  rename_i hreport
  have hflag : (s.isHost || s.hostBufferingReported) = s.hostBufferingReported := by
    cases hhost : s.isHost with
    | false => exact Bool.false_or _
    | true => simpa [hhost] using hreport
  refine ⟨[], ?_⟩
  rw [hflag, List.append_nil]
  split
  · exact buffering_send_unacknowledged ..
  · rfl

/-- A host tells a buffering room that it is ready. -/
theorem buffering_reportRecovery (env : BrowserEnv) (state : PlaybackState) (s : SyncController) :
    ∃ rs, (s.reportRecovery env state).buffering
        = { s.buffering with awaiting := s.awaiting ++ rs } ∧
      (s.isHost = true → s.hostBufferingReported = true → state.phase = .buffering →
        ∃ r ∈ rs, r.command.type = .playbackHostReady) := by
  have hsilent : { s.buffering with awaiting := s.awaiting ++ [] } = s.buffering := by
    rw [List.append_nil]
    rfl
  rw [reportRecovery]
  split
  · split
    · exact ⟨_, buffering_send .., fun _ _ _ => ⟨_, List.mem_singleton_self _, rfl⟩⟩
    · rename_i hphase
      exact ⟨[], hsilent.symm, fun _ _ h => absurd h hphase⟩
  rename_i hreport
  refine ⟨[], ?_, fun hhost hreported => absurd ⟨hhost, hreported⟩ hreport⟩
  rw [hsilent]
  split
  · exact buffering_send_unacknowledged ..
  · rfl

theorem buffering_checkRecovery (env : BrowserEnv) (s : SyncController) :
    (s.checkRecovery env).buffering = s.buffering ∨
      ∃ due, (s.checkRecovery env).buffering = { s.buffering with recoveryTimer := some due } := by
  rw [checkRecovery]
  split
  · exact Or.inr ⟨env.due bufferRecoveryStableMs, rfl⟩
  · exact Or.inl rfl

/-- Applying a state can only start the recovery timer. -/
theorem buffering_apply (env : BrowserEnv) (previous : Option PlaybackState) (force : Bool)
    (s : SyncController) :
    (s.apply env previous force).buffering = s.buffering ∨
      ∃ due, (s.apply env previous force).buffering
        = { s.buffering with recoveryTimer := some due } := by
  refine apply_cases (motive := fun x => x.buffering = s.buffering ∨
    ∃ due, x.buffering = { s.buffering with recoveryTimer := some due }) (fun _ => Or.inl rfl) ?_
  intro state y _ _ hy
  have hbuffering : y.buffering = s.buffering := by
    rw [hy]
    exact buffering_align ..
  have hstill : ∀ next, ((y.standStill env state).emitStatus next).buffering = s.buffering := by
    intro next
    rw [buffering_emitStatus]
    exact hbuffering
  refine ⟨fun _ => Or.inl ((buffering_applyPlaying ..).trans hbuffering), fun _ => ?_⟩
  rw [applyStopped]
  split
  · rw [← hstill (if (y.standStill env state).isHost then .localBuffering else .hostBuffering)]
    exact buffering_checkRecovery ..
  · exact Or.inl (hstill _)

end SyncController

-- ============================================================================
-- What a task makes of it
-- ============================================================================

/-- What is left of the promise of a command. -/
def Buffering.settle (type : CommandType) (ok : Bool) (b : Buffering) : Buffering :=
  match type, ok with
  | .playbackHostBuffering, false => { b with hostBufferingReported := false }
  | .playbackHostReady, true => { b with hostBufferingReported := false }
  | .playbackHostReady, false => { b with confirmedBuffering := true }
  | _, _ => b

/-- The tasks without a case of their own below. -/
def Task.isPassive : Task → Bool
  | .destroy | .event .canplay | .event .playing | .recoveryTimer | .replied _ _ => false
  | _ => true

/-- What a task makes of `b`. -/
inductive BufferingTurn (env : BrowserEnv) (b : Buffering) : Task → Buffering → Prop
  /-- At most, commands are sent. -/
  | kept (task : Task) (rs : List Request) (htask : task.isPassive = true)
      (hrs : ∀ r ∈ rs, r.command.type ≠ .playbackHostReady) :
      BufferingTurn env b task { b with awaiting := b.awaiting ++ rs }
  | detached (e : SyncController.MediaEvent) (h : b.attached = false) :
      BufferingTurn env b (.event e) b
  /-- A state is applied, which can start the recovery timer. -/
  | applied (task : Task) (x y : Buffering) (htask : task.isPassive = true)
      (hstate : b.state.isSome = true → x.state.isSome = true)
      (hhost : (∀ value, task ≠ .setHost value) → x.isHost = b.isHost)
      (hattached : b.attached = true → x.attached = true)
      (hx : x = { b with state := x.state, isHost := x.isHost, attached := x.attached })
      (hy : y = x ∨ ∃ due, y = { x with recoveryTimer := some due }) :
      BufferingTurn env b task y
  | destroyed : BufferingTurn env b .destroy
      { b with attached := false, bufferConfirmTimer := none, recoveryTimer := none }
  /-- The player has run dry. -/
  | suspected (e : SyncController.MediaEvent) (due : ℚ)
      (hdry : env.video.readyState < haveFutureData) :
      BufferingTurn env b (.event e)
        { b with bufferSuspected := true, recoveryTimer := none, bufferConfirmTimer := some due }
  /-- The player has data again; the recovery of one that buffered is timed. -/
  | dataBack (e : SyncController.MediaEvent) (timer : Option ℚ)
      (he : e = .canplay ∨ e = .playing)
      (hidle : b.confirmedBuffering = false → timer = b.recoveryTimer)
      (htimed : b.confirmedBuffering = true → timer.isSome = true) :
      BufferingTurn env b (.event e)
        { b with bufferConfirmTimer := none, bufferSuspected := false, recoveryTimer := timer }
  | refuted : BufferingTurn env b .bufferConfirmTimer
      { b with bufferConfirmTimer := none, bufferSuspected := false }
  /-- The player is still without data; the host reports it unless it already has. -/
  | confirmed (rs : List Request) (reported : Bool) (hstate : b.state.isSome = true)
      (hdry : env.video.readyState < haveFutureData)
      (hreported : reported = (b.isHost || b.hostBufferingReported)) :
      BufferingTurn env b .bufferConfirmTimer
        { b with
          bufferConfirmTimer := none, confirmedBuffering := true
          hostBufferingReported := reported, awaiting := b.awaiting ++ rs }
  | notDue (h : b.recoveryTimer.any (fun due => decide (due ≤ env.now)) = false) :
      BufferingTurn env b .recoveryTimer b
  /-- The recovery timer fires, and the player has no data. -/
  | relapsed (h : b.state.isSome = true → b.attached = true → b.bufferSuspected = false →
        env.video.readyState < haveFutureData) :
      BufferingTurn env b .recoveryTimer { b with recoveryTimer := none }
  /-- The recovery timer fires while the room does not know of the buffering. -/
  | gaveUp (hdue : b.recoveryTimer.any (fun due => decide (due ≤ env.now)) = true)
      (hhost : b.isHost = true) (hreported : b.hostBufferingReported = true)
      (hphase : b.state.any (fun p => decide (p.phase ≠ .buffering)) = true) :
      BufferingTurn env b .recoveryTimer
        { b with recoveryTimer := none, confirmedBuffering := true }
  | recovered (rs : List Request) (hstate : b.state.isSome = true)
      (hphase : ¬(b.isHost = true ∧ b.hostBufferingReported = true ∧
        b.state.any (fun p => decide (p.phase ≠ .buffering)) = true))
      (hreport : b.isHost = true → b.hostBufferingReported = true →
        ∃ r ∈ rs, r.command.type = .playbackHostReady) :
      BufferingTurn env b .recoveryTimer
        { b with
          recoveryTimer := none, confirmedBuffering := false, awaiting := b.awaiting ++ rs }
  | unknown (id : Nat) (ok : Bool) (h : b.awaiting.find? (fun r => r.id = id) = none) :
      BufferingTurn env b (.replied id ok) b
  | replied (id : Nat) (ok : Bool) (r : Request)
      (h : b.awaiting.find? (fun r => r.id = id) = some r) :
      BufferingTurn env b (.replied id ok)
        (Buffering.settle r.command.type ok { b with awaiting := b.awaiting.erase r })

namespace SyncController

/-- Applying a state to a controller whose flags and timers are those of `b`. -/
theorem bufferingTurn_apply {env : BrowserEnv} {b : Buffering} {task : Task} {s : SyncController}
    (previous : Option PlaybackState) (force : Bool) (htask : task.isPassive = true)
    (hstate : b.state.isSome = true → s.state.isSome = true)
    (hhost : (∀ value, task ≠ .setHost value) → s.isHost = b.isHost)
    (hattached : b.attached = true → s.attached = true)
    (hs : s.buffering = { b with state := s.state, isHost := s.isHost, attached := s.attached }) :
    BufferingTurn env b task (s.apply env previous force).buffering :=
  .applied task s.buffering _ htask hstate hhost hattached hs (buffering_apply ..)

theorem bufferingTurn_kept {env : BrowserEnv} {s s' : SyncController} (task : Task)
    (htask : task.isPassive = true) (h : s'.buffering = s.buffering) :
    BufferingTurn env s.buffering task s'.buffering := by
  have hkept : BufferingTurn env s.buffering task
      { s.buffering with awaiting := s.buffering.awaiting ++ [] } := .kept task [] htask (by simp)
  rw [List.append_nil] at hkept
  rw [h]
  exact hkept

theorem bufferingTurn_send {env : BrowserEnv} {s s' : SyncController} (task : Task)
    {command : Command} (ack : Bool) (htask : task.isPassive = true)
    (hcommand : command.type ≠ .playbackHostReady) (h : s'.buffering = s.buffering) :
    BufferingTurn env s.buffering task (s'.send command ack).buffering := by
  have hawaiting : s'.awaiting = s.buffering.awaiting := congrArg Buffering.awaiting h
  rw [buffering_send, h, hawaiting]
  refine .kept task _ htask ?_
  intro r hr
  cases ack with
  | true => rwa [List.mem_singleton.mp hr]
  | false => exact absurd hr List.not_mem_nil

theorem bufferingTurn_event (env : BrowserEnv) (s : SyncController) (e : MediaEvent) :
    BufferingTurn env s.buffering (.event e) (s.dispatch env e).buffering := by
  have hwaiting : (Task.event e).isPassive = true →
      BufferingTurn env s.buffering (.event e) (s.waiting env).buffering := by
    intro hpassive
    rw [waiting]
    split
    · exact bufferingTurn_kept _ hpassive rfl
    split
    · exact bufferingTurn_kept _ hpassive rfl
    rename_i hguard
    have hdry : env.video.readyState < haveFutureData := by
      simp only [not_or, not_le] at hguard
      exact hguard.2.2
    dsimp only
    split
    · rename_i hpending
      obtain ⟨due, hdue⟩ := Option.isSome_iff_exists.mp hpending
      have hdue : s.bufferConfirmTimer = some due := hdue
      have h : BufferingTurn env s.buffering (.event e) { s.buffering with
          bufferSuspected := true, recoveryTimer := none, bufferConfirmTimer := some due } :=
        .suspected e due hdry
      rw [← hdue] at h
      exact h
    · exact .suspected e _ hdry
  have hcanPlay : e = .canplay ∨ e = .playing →
      BufferingTurn env s.buffering (.event e) (s.canPlay env).buffering := by
    intro he
    rw [canPlay]
    dsimp only
    split
    · rename_i hnot
      rw [buffering_tick]
      have hnot : s.buffering.confirmedBuffering = false := hnot
      exact .dataBack e s.recoveryTimer he (fun _ => rfl) (by simp [hnot])
    · rename_i hconfirmed
      have hconfirmed : s.buffering.confirmedBuffering = true := Bool.not_eq_false _ ▸ hconfirmed
      exact .dataBack e (some (env.due bufferRecoveryStableMs)) he (by simp [hconfirmed])
        (fun _ => rfl)
  cases e with
  | waiting => exact hwaiting rfl
  | stalled => exact hwaiting rfl
  | canplay => exact hcanPlay (Or.inl rfl)
  | playing => exact hcanPlay (Or.inr rfl)
  | progress => exact bufferingTurn_kept _ rfl (buffering_retrySeek ..)
  | loadedmetadata =>
      rw [dispatch, loadedMetadata]
      split
      · split
        · exact bufferingTurn_send _ _ rfl (fun h => CommandType.noConfusion h)
            (buffering_retrySeek ..)
        · exact bufferingTurn_kept _ rfl (buffering_retrySeek ..)
      · exact bufferingTurn_kept _ rfl (buffering_retrySeek ..)
  | pause => exact bufferingTurn_kept _ rfl (buffering_nativePause ..)
  | ended =>
      rw [dispatch, ended]
      split
      · exact bufferingTurn_send _ _ rfl (fun h => CommandType.noConfusion h) rfl
      · exact bufferingTurn_kept _ rfl rfl

theorem bufferingTurn_confirm (env : BrowserEnv) (s : SyncController) :
    BufferingTurn env s.buffering .bufferConfirmTimer (s.confirmBuffering env).buffering := by
  rw [confirmBuffering]
  dsimp only
  split
  · exact .refuted
  rename_i hguard
  simp only [not_or, Bool.not_eq_false, not_le] at hguard
  obtain ⟨-, hplaying, hdry⟩ := hguard
  have hstate : s.buffering.state.isSome = true := by
    obtain ⟨p, hp, -⟩ := (Option.any_eq_true _ _).mp hplaying
    have hp : s.buffering.state = some p := hp
    rw [hp]
    rfl
  generalize hy : emitStatus SyncStatus.localBuffering { s with
    bufferConfirmTimer := none, confirmedBuffering := true } = y
  have hbuffering : y.buffering = { s.buffering with
      bufferConfirmTimer := none, confirmedBuffering := true } := by
    rw [← hy, buffering_emitStatus]
    rfl
  have hhost : y.isHost = s.buffering.isHost := congrArg Buffering.isHost hbuffering
  have hreported : y.hostBufferingReported = s.buffering.hostBufferingReported :=
    congrArg Buffering.hostBufferingReported hbuffering
  have hawaiting : y.awaiting = s.buffering.awaiting := congrArg Buffering.awaiting hbuffering
  obtain ⟨rs, hreport⟩ := buffering_reportBuffering env y
  rw [hreport, hbuffering, hhost, hreported, hawaiting]
  exact .confirmed rs _ hstate hdry rfl

theorem bufferingTurn_recover {env : BrowserEnv} {s : SyncController}
    (hdue : s.recoveryTimer.any (fun due => decide (due ≤ env.now)) = true) :
    BufferingTurn env s.buffering .recoveryTimer (s.recover env).buffering := by
  rw [recover]
  dsimp only
  split
  · rename_i hnone
    have hnone : s.buffering.state = none := hnone
    exact .relapsed (by simp [hnone])
  rename_i p hstate
  have hstate : s.buffering.state = some p := hstate
  split
  · rename_i hguard
    refine .relapsed ?_
    intro _ hattached hsuspected
    rcases hguard with h | h | h
    · exact absurd (hattached.symm.trans h) (by simp)
    · exact absurd (hsuspected.symm.trans h) (by simp)
    · exact h
  split
  · rename_i hreported
    exact .gaveUp hdue hreported.1 hreported.2.1 (by simp [hstate, hreported.2.2])
  rename_i hreported
  have hphase : ¬(s.buffering.isHost = true ∧ s.buffering.hostBufferingReported = true ∧
      s.buffering.state.any (fun p => decide (p.phase ≠ .buffering)) = true) := by
    rintro ⟨hhost, hrep, hphase⟩
    rw [hstate] at hphase
    exact hreported ⟨hhost, hrep, by simpa using hphase⟩
  have hsome : s.buffering.state.isSome = true := by
    rw [hstate]
    rfl
  generalize hy : ({ s with
    recoveryTimer := none, confirmedBuffering := false, recoveryUntil := env.now + postSeekSettleMs
    drift := s.drift.reset env.now postSeekSettleMs } : SyncController) = y
  have hbuffering : y.buffering = { s.buffering with
      recoveryTimer := none, confirmedBuffering := false } := by
    rw [← hy]
    rfl
  have hhost : y.isHost = s.buffering.isHost := congrArg Buffering.isHost hbuffering
  have hrep : y.hostBufferingReported = s.buffering.hostBufferingReported :=
    congrArg Buffering.hostBufferingReported hbuffering
  have hawaiting : y.awaiting = s.buffering.awaiting := congrArg Buffering.awaiting hbuffering
  obtain ⟨rs, hsent, hready⟩ := buffering_reportRecovery env p y
  have hrecovered : BufferingTurn env s.buffering .recoveryTimer
      (y.reportRecovery env p).buffering := by
    rw [hsent, hbuffering, hawaiting]
    refine .recovered rs hsome hphase ?_
    intro hisHost hreported
    refine hready (hhost.trans hisHost) (hrep.trans hreported) ?_
    by_contra hne
    exact hphase ⟨hisHost, hreported, by simp [hstate, hne]⟩
  split
  · rw [buffering_tryPlay, buffering_emitStatus]
    exact hrecovered
  · rw [buffering_emitStatus]
    exact hrecovered

theorem buffering_settle (type : CommandType) (ok : Bool) (s : SyncController) :
    (s.settle type ok).buffering = s.buffering.settle type ok := by
  cases type <;> cases ok <;> rfl

/-- **Every task** makes of the buffering what `BufferingTurn` lists. -/
theorem bufferingTurn (env : BrowserEnv) (s : SyncController) (task : Task) :
    BufferingTurn env s.buffering task (s.perform env task).buffering := by
  cases task with
  | attach =>
      rw [perform, attach]
      split
      · exact bufferingTurn_kept _ rfl rfl
      · exact bufferingTurn_apply none true rfl id (fun _ => rfl) (fun _ => rfl) rfl
  | destroy => exact .destroyed
  | setRoomState next force =>
      rw [perform, setRoomState]
      split
      · exact bufferingTurn_kept _ rfl rfl
      · exact bufferingTurn_apply s.state force rfl (fun _ => rfl) (fun _ => rfl) id rfl
  | setHost value =>
      rw [perform, setHost]
      split
      · exact bufferingTurn_kept _ rfl rfl
      · exact bufferingTurn_apply none true rfl id (fun h => absurd rfl (h value)) id rfl
  | realign => exact bufferingTurn_apply none true rfl id (fun _ => rfl) id rfl
  | suspend => exact bufferingTurn_kept _ rfl (buffering_suspend s)
  | resumeLocal => exact bufferingTurn_kept _ rfl (buffering_tryPlay ..)
  | onUserPlay =>
      rw [perform, onUserPlay]
      split
      · exact bufferingTurn_kept _ rfl rfl
      · exact bufferingTurn_send _ _ rfl (fun h => CommandType.noConfusion h) rfl
  | onUserPause =>
      rw [perform, onUserPause]
      split
      · exact bufferingTurn_kept _ rfl rfl
      · exact bufferingTurn_send _ _ rfl (fun h => CommandType.noConfusion h) rfl
  | onUserSeek positionMs =>
      rw [perform, onUserSeek]
      split
      · exact bufferingTurn_kept _ rfl rfl
      · refine bufferingTurn_send _ _ rfl (fun h => CommandType.noConfusion h) ?_
        split
        · exact buffering_seek ..
        · exact buffering_seek ..
  | onUserRateChange playbackRate =>
      rw [perform, onUserRateChange]
      split
      · exact bufferingTurn_kept _ rfl rfl
      · refine bufferingTurn_send _ _ rfl (fun h => CommandType.noConfusion h) ?_
        split <;> rfl
  | tick =>
      rw [perform]
      split
      · exact bufferingTurn_kept _ rfl (buffering_tick ..)
      · exact bufferingTurn_kept _ rfl rfl
  | heartbeat =>
      rw [perform]
      split
      · rw [heartbeat]
        split
        · exact bufferingTurn_kept _ rfl rfl
        · exact bufferingTurn_send _ _ rfl (fun h => CommandType.noConfusion h) rfl
      · exact bufferingTurn_kept _ rfl rfl
  | playTimer =>
      rw [perform, fire]
      split
      · exact bufferingTurn_kept _ rfl (buffering_firePlay ..)
      · exact bufferingTurn_kept _ rfl rfl
  | bufferConfirmTimer =>
      rw [perform, fire]
      split
      · exact bufferingTurn_confirm env s
      · exact bufferingTurn_kept _ rfl rfl
  | recoveryTimer =>
      rw [perform, fire]
      split
      · rename_i hdue
        exact bufferingTurn_recover hdue
      · rename_i hdue
        exact .notDue (Bool.not_eq_true _ ▸ hdue)
  | event e =>
      rw [perform]
      split
      · exact bufferingTurn_event env s e
      · rename_i hdetached
        exact .detached e (Bool.not_eq_true _ ▸ hdetached)
  | playSettled ok => exact bufferingTurn_kept _ rfl (buffering_playSettled ok s)
  | replied id ok =>
      rw [perform, replied]
      split
      · rename_i hnone
        exact .unknown id ok hnone
      · rename_i r hr
        rw [buffering_settle]
        exact .replied id ok r hr

/-- The buffering after a task and the microtasks behind it. -/
theorem bufferingTurn_step (s : SyncController) (l : BrowserEnv × Task) :
    BufferingTurn l.1 s.buffering l.2 (s.step l).buffering :=
  bufferingTurn l.1 { s with acts := [] } l.2

end SyncController

end WatchTogether.Web

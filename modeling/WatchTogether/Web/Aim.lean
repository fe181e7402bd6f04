/-
  WatchTogether.Web.Aim

  Where a controller seeks to.  A seek that the element cannot take yet is kept as a
  number and tried again on later media events.  Each target is aimed at the film that
  was current when it was chosen; this module follows the targets, through state
  updates and player rebuilds, to the assignments of `currentTime`.
-/

import WatchTogether.Lib.LabelledRun
import WatchTogether.Web.SyncController

namespace WatchTogether.Web

open Rooms LabelledRun

/-- The act is a seek. -/
def Act.isSeek : Act → Bool
  | .seek .. => true
  | _ => false

/-- The part of a controller that seeking reads and writes. -/
structure Aim where
  attached : Bool
  state : Option PlaybackState
  pendingSeek : Option Target
  seeks : List Act

namespace SyncController

/-- What the controller aims at. -/
def aim (s : SyncController) : Aim :=
  ⟨s.attached, s.state, s.pendingSeek, s.acts.filter Act.isSeek⟩

-- ============================================================================
-- What leaves the aim alone
-- ============================================================================

theorem aim_emit {a : Act} (h : a.isSeek = false) (s : SyncController) : (s.emit a).aim = s.aim := by
  simp [aim, emit, h]

theorem aim_ite {c : Prop} [Decidable c] {f g : SyncController} {x : Aim} (hf : f.aim = x)
    (hg : g.aim = x) : (if c then f else g).aim = x := by
  split
  · exact hf
  · exact hg

@[simp] theorem aim_emitStatus (next : SyncStatus) (s : SyncController) :
    (s.emitStatus next).aim = s.aim := by
  rw [emitStatus]
  split
  · rfl
  split
  · rfl
  · exact aim_emit rfl _

@[simp] theorem aim_send (command : Command) (ack : Bool) (s : SyncController) :
    (s.send command ack).aim = s.aim := by
  rw [send]
  split
  · simp [aim, emit, Act.isSeek]
  · simp [aim, emit, Act.isSeek]

@[simp] theorem aim_tryPlay (env : BrowserEnv) (s : SyncController) :
    (s.tryPlay env).aim = s.aim := by
  rw [tryPlay]
  split
  · rfl
  · exact aim_emit rfl _

@[simp] theorem aim_schedulePlay (env : BrowserEnv) (anchor : ℚ) (s : SyncController) :
    (s.schedulePlay env anchor).aim = s.aim := by
  rw [schedulePlay]
  split
  · simp [aim, emit, cancelScheduledPlay, Act.isSeek]
  · rfl

@[simp] theorem aim_applyPlaying (env : BrowserEnv) (state : PlaybackState)
    (phaseChanged timelineJump force : Bool) (s : SyncController) :
    (s.applyPlaying env state phaseChanged timelineJump force).aim = s.aim := by
  have hscheduled : (if (phaseChanged || force || timelineJump) = true then
      s.schedulePlay env (ms state.anchorServerTimeMs) else s).aim = s.aim :=
    aim_ite (aim_schedulePlay env _ s) rfl
  rw [applyPlaying]
  exact aim_ite hscheduled hscheduled

@[simp] theorem aim_standStill (env : BrowserEnv) (state : PlaybackState) (s : SyncController) :
    (s.standStill env state).aim = s.aim := by
  simp [standStill, aim, emit, cancelScheduledPlay, Act.isSeek]

@[simp] theorem aim_checkRecovery (env : BrowserEnv) (s : SyncController) :
    (s.checkRecovery env).aim = s.aim := by
  rw [checkRecovery]
  split <;> rfl

@[simp] theorem aim_applyStopped (env : BrowserEnv) (state : PlaybackState) (s : SyncController) :
    (s.applyStopped env state).aim = s.aim := by
  rw [applyStopped]
  split
  · rw [aim_checkRecovery, aim_emitStatus, aim_standStill]
  · rw [aim_emitStatus, aim_standStill]

@[simp] theorem aim_settle (type : CommandType) (ok : Bool) (s : SyncController) :
    (s.settle type ok).aim = s.aim := by
  unfold settle
  split <;> rfl

@[simp] theorem aim_replied (id : Nat) (ok : Bool) (s : SyncController) :
    (s.replied id ok).aim = s.aim := by
  rw [replied]
  split
  · rfl
  · exact aim_settle _ _ _

@[simp] theorem aim_playSettled (ok : Bool) (s : SyncController) :
    (s.playSettled ok).aim = s.aim := by
  rw [playSettled]
  exact aim_ite rfl (aim_ite rfl (aim_emitStatus _ _))

@[simp] theorem aim_firePlay (env : BrowserEnv) (s : SyncController) :
    (s.firePlay env).aim = s.aim := by
  rw [firePlay]
  exact aim_ite (aim_tryPlay env _) rfl

@[simp] theorem aim_reportBuffering (env : BrowserEnv) (s : SyncController) :
    (s.reportBuffering env).aim = s.aim := by
  rw [reportBuffering]
  split
  · rw [aim_send, aim_emit rfl]
    rfl
  split
  · exact aim_send _ _ _
  · rfl

@[simp] theorem aim_confirmBuffering (env : BrowserEnv) (s : SyncController) :
    (s.confirmBuffering env).aim = s.aim := by
  rw [confirmBuffering]
  split
  · rfl
  · rw [aim_reportBuffering, aim_emitStatus]
    rfl

@[simp] theorem aim_reportRecovery (env : BrowserEnv) (state : PlaybackState)
    (s : SyncController) : (s.reportRecovery env state).aim = s.aim := by
  rw [reportRecovery]
  split
  · split
    · exact aim_send _ _ _
    · rfl
  split
  · exact aim_send _ _ _
  · rfl

@[simp] theorem aim_recover (env : BrowserEnv) (s : SyncController) :
    (s.recover env).aim = s.aim := by
  rw [recover]
  dsimp only
  split
  · rfl
  split
  · rfl
  split
  · rfl
  split
  · rw [aim_tryPlay, aim_emitStatus, aim_reportRecovery]
    rfl
  · rw [aim_emitStatus, aim_reportRecovery]
    rfl

@[simp] theorem aim_waiting (env : BrowserEnv) (s : SyncController) :
    (s.waiting env).aim = s.aim := by
  rw [waiting]
  split
  · rfl
  split
  · rfl
  dsimp only
  split
  · simp [aim, emit, Act.isSeek]
  · simp [aim, emit, Act.isSeek]

@[simp] theorem aim_nativePause (env : BrowserEnv) (s : SyncController) :
    (s.nativePause env).aim = s.aim := by
  rw [nativePause]
  split
  · exact aim_tryPlay env s
  · rfl

@[simp] theorem aim_ended (env : BrowserEnv) (s : SyncController) : (s.ended env).aim = s.aim := by
  rw [ended]
  split
  · exact aim_send _ _ _
  · rfl

@[simp] theorem aim_heartbeat (env : BrowserEnv) (s : SyncController) :
    (s.heartbeat env).aim = s.aim := by
  rw [heartbeat]
  split
  · rfl
  · exact aim_send _ _ _

-- ============================================================================
-- Targets of the current film
-- ============================================================================

/-- A deferred seek is aimed at the current film. -/
def PendingOnFilm (s : SyncController) : Prop :=
  ∀ target, s.pendingSeek = some target → target.media = s.media

/-- Every assignment of `currentTime` that the task made was aimed at the film that was
    current when it was made. -/
def SeeksOnFilm (s : SyncController) : Prop :=
  ∀ seconds cause target current,
    Act.seek seconds cause target current ∈ s.acts → target.media = current

/-- The seek under way and the media of the room are those of the state. -/
structure OnFilm (s : SyncController) : Prop where
  pending : s.PendingOnFilm
  seeks : s.SeeksOnFilm

theorem seeksOnFilm_of_aim {s s' : SyncController} (h : s'.aim = s.aim) (hs : s.SeeksOnFilm) :
    s'.SeeksOnFilm := by
  intro seconds cause target current hin
  have hfilter : s'.acts.filter Act.isSeek = s.acts.filter Act.isSeek := congrArg Aim.seeks h
  have hin' : Act.seek seconds cause target current ∈ s'.acts.filter Act.isSeek :=
    List.mem_filter.mpr ⟨hin, rfl⟩
  rw [hfilter] at hin'
  exact hs seconds cause target current (List.mem_filter.mp hin').1

theorem onFilm_of_aim {s s' : SyncController} (h : s'.aim = s.aim) (hs : s.OnFilm) :
    s'.OnFilm := by
  refine ⟨?_, seeksOnFilm_of_aim h hs.seeks⟩
  have hpending : s'.pendingSeek = s.pendingSeek := congrArg Aim.pendingSeek h
  have hstate : s'.state = s.state := congrArg Aim.state h
  intro target htarget
  rw [hpending] at htarget
  rw [media, hstate]
  exact hs.pending target htarget

theorem performSeek_onFilm {env : BrowserEnv} {cause : SeekCause} {target : Target} {seconds : ℚ}
    {s : SyncController} (hs : s.SeeksOnFilm) (ht : target.media = s.media) :
    (s.performSeek env cause target seconds).OnFilm := by
  rw [performSeek]
  split
  · refine ⟨?_, hs⟩
    intro target' h
    rw [← Option.some.inj h]
    exact ht
  · refine ⟨fun target' h => absurd h (by simp [emit]), ?_⟩
    intro seconds' cause' target' current hin
    rcases List.mem_append.mp hin with hin | hin
    · exact hs _ _ _ _ hin
    · rw [List.mem_singleton, Act.seek.injEq] at hin
      rw [hin.2.2.1, hin.2.2.2]
      exact ht

/-- A seek of the current film leaves no older target behind, whatever was pending. -/
theorem seek_onFilm {env : BrowserEnv} {cause : SeekCause} {target : Target} {s : SyncController}
    (hs : s.SeeksOnFilm) (hpending : s.PendingOnFilm ∨ s.attached = true)
    (ht : target.media = s.media) : (s.seek env cause target).OnFilm := by
  refine seek_cases ?_ ?_ ?_
  · intro hdetached
    refine ⟨hpending.resolve_right ?_, hs⟩
    intro h
    rw [hdetached] at h
    exact Bool.noConfusion h
  · rintro pending (rfl | rfl)
    · exact ⟨fun target' h => absurd h (by simp), hs⟩
    · refine ⟨?_, hs⟩
      intro target' h
      rw [← Option.some.inj h]
      exact ht
  · rintro x seconds (rfl | rfl)
    · exact performSeek_onFilm hs ht
    · exact performSeek_onFilm hs ht

theorem retrySeek_onFilm {env : BrowserEnv} {s : SyncController} (hs : s.OnFilm) :
    (s.retrySeek env).OnFilm := by
  rw [retrySeek]
  split
  · rename_i target htarget
    exact seek_onFilm hs.seeks (Or.inl hs.pending) (hs.pending target htarget)
  · exact hs

/-- The alignment of `apply` seeks. -/
def Aligns (env : BrowserEnv) (state : PlaybackState) (mediaChanged timelineJump force : Bool)
    (s : SyncController) : Prop :=
  (force || mediaChanged || timelineJump) = true ∧
    (s.isHost = false ∨ force = true ∨ mediaChanged = true) ∧
    state.phase ≠ .buffering ∧ state.phase ≠ .loading ∧
    alignOnTransitionMs ≤ |env.positionMs - expectedPosition state env.serverNow|

theorem align_of_not {env : BrowserEnv} {state : PlaybackState}
    {mediaChanged timelineJump force : Bool} {s : SyncController}
    (h : ¬s.Aligns env state mediaChanged timelineJump force) :
    s.align env state mediaChanged timelineJump force = s :=
  if_neg h

theorem align_onFilm {env : BrowserEnv} {state : PlaybackState}
    {mediaChanged timelineJump force : Bool} {s : SyncController} (hs : s.SeeksOnFilm)
    (hpending : s.PendingOnFilm ∨
      (s.attached = true ∧ s.Aligns env state mediaChanged timelineJump force)) :
    (s.align env state mediaChanged timelineJump force).OnFilm := by
  by_cases h : s.Aligns env state mediaChanged timelineJump force
  · have halign : s.align env state mediaChanged timelineJump force
        = s.seek env .align ⟨expectedPosition state env.serverNow, s.media⟩ := if_pos h
    rw [halign]
    exact seek_onFilm hs (hpending.imp_right And.left) rfl
  · rw [align_of_not h]
    exact ⟨hpending.resolve_right (fun h' => h h'.2), hs⟩

theorem apply_onFilm {env : BrowserEnv} {previous : Option PlaybackState} {force : Bool}
    {s : SyncController} (hs : s.SeeksOnFilm)
    (hpending : s.PendingOnFilm ∨ (s.attached = true ∧ ∃ state, s.state = some state ∧
      s.Aligns env state (previous.any (fun p => decide (p.mediaID ≠ state.mediaID)))
        (isTimelineJump previous state) force)) :
    (s.apply env previous force).OnFilm := by
  refine apply_cases ?_ ?_
  · rintro hignored
    refine ⟨hpending.resolve_right ?_, hs⟩
    rintro ⟨hattached, state, hstate, -⟩
    rcases hignored with hnone | hdetached
    · rw [hnone] at hstate
      exact absurd hstate (by simp)
    · rw [hdetached] at hattached
      exact Bool.noConfusion hattached
  intro state y hstate hattached hy
  -- the alignment decides; what follows it neither seeks nor defers
  have haligned : y.OnFilm := by
    rw [hy]
    refine align_onFilm (seeksOnFilm_of_aim (aim_emit rfl _) hs) ?_
    refine hpending.imp_right ?_
    rintro ⟨hattached, state', hstate', haligns⟩
    rw [hstate] at hstate'
    rw [Option.some.inj hstate']
    exact ⟨hattached, haligns⟩
  exact ⟨fun _ => onFilm_of_aim (aim_applyPlaying ..) haligned,
    fun _ => onFilm_of_aim (aim_applyStopped ..) haligned⟩

-- ============================================================================
-- Every task
-- ============================================================================

/-- The update installs another film while a seek is deferred, and the controller does
    not align with it: the player is detached or already in place, the new film is not
    playable yet, or the host takes its first state from a broadcast. -/
def CarriesSeek (s : SyncController) (l : BrowserEnv × Task) : Prop :=
  match l.2 with
  | .setRoomState next force =>
      s.pendingSeek ≠ none ∧
      (force = true ∨ s.lastRevision < next.revision) ∧
      s.media ≠ some next.mediaID ∧
      ¬(s.attached = true ∧ (s.isHost = false ∨ force = true ∨ s.state ≠ none) ∧
        next.phase ≠ .buffering ∧ next.phase ≠ .loading ∧
        alignOnTransitionMs ≤ |l.1.positionMs - expectedPosition next l.1.serverNow|)
  | _ => False

/-- An update to another film is aligned with unless something stands in the way. -/
theorem aligns_of_media {env : BrowserEnv} {s : SyncController} {next : PlaybackState}
    {force : Bool} (hmedia : s.media ≠ some next.mediaID)
    (hhost : s.isHost = false ∨ force = true ∨ s.state ≠ none) (hphase : next.phase ≠ .buffering)
    (hloading : next.phase ≠ .loading)
    (hfar : alignOnTransitionMs ≤ |env.positionMs - expectedPosition next env.serverNow|) :
    s.Aligns env next (s.state.any (fun p => decide (p.mediaID ≠ next.mediaID)))
      (isTimelineJump s.state next) force := by
  cases hstate : s.state with
  | none =>
      refine ⟨by simp [isTimelineJump], ?_, hphase, hloading, hfar⟩
      rw [hstate] at hhost
      simpa using hhost
  | some p =>
      have hne : p.mediaID ≠ next.mediaID := by
        intro h
        rw [media, hstate] at hmedia
        exact hmedia (congrArg some h)
      have hchanged : (some p).any (fun p => decide (p.mediaID ≠ next.mediaID)) = true := by
        simpa using hne
      rw [hchanged]
      exact ⟨by simp, Or.inr (Or.inr rfl), hphase, hloading, hfar⟩

theorem setRoomState_onFilm {env : BrowserEnv} {next : PlaybackState} {force : Bool}
    {s : SyncController} (hs : s.OnFilm)
    (hok : ¬s.CarriesSeek (env, .setRoomState next force)) :
    (s.setRoomState env next force).OnFilm := by
  rw [setRoomState]
  split
  · exact hs
  rename_i haccept
  have haccepted : force = true ∨ s.lastRevision < next.revision := by
    simpa [acceptRevision, or_iff_not_imp_left] using haccept
  refine apply_onFilm (s := { s with toRoomState := .synced next }) hs.seeks ?_
  by_cases hmedia : s.media = some next.mediaID
  · refine Or.inl ?_
    intro target htarget
    exact (hs.pending target htarget).trans hmedia
  by_cases hnone : s.pendingSeek = none
  · refine Or.inl ?_
    intro target htarget
    exact absurd htarget (by simp [hnone])
  have haligned : s.attached = true ∧ (s.isHost = false ∨ force = true ∨ s.state ≠ none) ∧
      next.phase ≠ .buffering ∧ next.phase ≠ .loading ∧
      alignOnTransitionMs ≤ |env.positionMs - expectedPosition next env.serverNow| := by
    by_contra h
    exact hok ⟨hnone, haccepted, hmedia, h⟩
  obtain ⟨hattached, hhost, hphase, hloading, hfar⟩ := haligned
  exact Or.inr ⟨hattached, next, rfl, aligns_of_media hmedia hhost hphase hloading hfar⟩

theorem onUserSeek_onFilm {env : BrowserEnv} {positionMs : ℚ} {s : SyncController}
    (hs : s.OnFilm) : (s.onUserSeek env positionMs).OnFilm := by
  rw [onUserSeek]
  split
  · exact hs
  have hseek : (s.seek env .user ⟨positionMs, s.media⟩).OnFilm :=
    seek_onFilm hs.seeks (Or.inl hs.pending) rfl
  dsimp only
  refine onFilm_of_aim (aim_send ..) ?_
  split
  · exact onFilm_of_aim (aim_emit rfl _) hseek
  · exact hseek

theorem applyCorrection_onFilm {env : BrowserEnv} {action : Correction} {s : SyncController}
    (hs : s.OnFilm) : (s.applyCorrection env action).OnFilm := by
  have hrate : (s.emit (.rate action.rate)).OnFilm := onFilm_of_aim (aim_emit rfl _) hs
  rw [applyCorrection]
  dsimp only
  split
  · rename_i targetMs htype htarget
    have hstatus : (({ s.emit (.rate action.rate) with
        softCorrectionSince := none }).emitStatus .correcting).OnFilm :=
      onFilm_of_aim (aim_emitStatus ..) ⟨hrate.pending, hrate.seeks⟩
    have hmedia : (({ s.emit (.rate action.rate) with
        softCorrectionSince := none }).emitStatus .correcting).media = s.media := by
      have hstate := congrArg Aim.state (aim_emitStatus .correcting
        { s.emit (.rate action.rate) with softCorrectionSince := none })
      exact congrArg (Option.map (fun p => p.mediaID)) hstate
    exact seek_onFilm hstatus.seeks (Or.inl hstatus.pending) hmedia.symm
  · exact onFilm_of_aim (aim_emitStatus ..) ⟨hrate.pending, hrate.seeks⟩
  · exact onFilm_of_aim (aim_emitStatus ..) ⟨hrate.pending, hrate.seeks⟩

theorem tick_onFilm {env : BrowserEnv} {s : SyncController} (hs : s.OnFilm) :
    (s.tick env).OnFilm := by
  refine tick_cases hs ?_
  intro state _ _ _
  have hrate : (s.emit (.rate state.playbackRate)).OnFilm := onFilm_of_aim (aim_emit rfl s) hs
  refine ⟨hrate, ?_⟩
  intro x hx
  have honFilm : x.OnFilm := by
    rcases hx with rfl | ⟨action, drift, rfl⟩
    · exact onFilm_of_aim (aim_emitStatus ..) hrate
    · exact applyCorrection_onFilm ⟨hs.pending, hs.seeks⟩
  exact ⟨honFilm, onFilm_of_aim (aim_tryPlay ..) honFilm⟩

theorem dispatch_onFilm {env : BrowserEnv} {s : SyncController} (e : MediaEvent) (hs : s.OnFilm) :
    (s.dispatch env e).OnFilm := by
  have hcanPlay : (s.canPlay env).OnFilm := by
    rw [canPlay]
    split
    · exact tick_onFilm ⟨hs.pending, hs.seeks⟩
    · exact ⟨hs.pending, hs.seeks⟩
  have hmetadata : (s.loadedMetadata env).OnFilm := by
    rw [loadedMetadata]
    split
    · split
      · exact onFilm_of_aim (aim_send ..) (retrySeek_onFilm hs)
      · exact retrySeek_onFilm hs
    · exact retrySeek_onFilm hs
  cases e with
  | waiting => exact onFilm_of_aim (aim_waiting ..) hs
  | stalled => exact onFilm_of_aim (aim_waiting ..) hs
  | canplay => exact hcanPlay
  | playing => exact hcanPlay
  | progress => exact retrySeek_onFilm hs
  | loadedmetadata => exact hmetadata
  | pause => exact onFilm_of_aim (aim_nativePause ..) hs
  | ended => exact onFilm_of_aim (aim_ended ..) hs

theorem perform_onFilm (env : BrowserEnv) {s : SyncController} (task : Task) (hs : s.OnFilm)
    (hok : ¬s.CarriesSeek (env, task)) : (s.perform env task).OnFilm := by
  have hforced : ∀ x : SyncController, x.OnFilm → (x.apply env none true).OnFilm :=
    fun x hx => apply_onFilm hx.seeks (Or.inl hx.pending)
  have hfire : ∀ (timer : Option ℚ) (callback : SyncController → SyncController),
      (callback s).aim = s.aim → (s.fire env timer callback).OnFilm := by
    intro timer callback haim
    rw [fire]
    split
    · exact onFilm_of_aim haim hs
    · exact hs
  cases task with
  | attach =>
      rw [perform, attach]
      split
      · exact hs
      · exact hforced _ ⟨hs.pending, hs.seeks⟩
  | destroy => exact ⟨hs.pending, hs.seeks⟩
  | setRoomState next force => exact setRoomState_onFilm hs hok
  | setHost value =>
      rw [perform, setHost]
      split
      · exact hs
      · exact hforced _ ⟨hs.pending, hs.seeks⟩
  | realign => exact hforced s hs
  | suspend =>
      rw [perform, suspend]
      split
      · exact onFilm_of_aim (aim_emit rfl s) hs
      · exact hs
  | resumeLocal => exact onFilm_of_aim (aim_tryPlay ..) ⟨hs.pending, hs.seeks⟩
  | onUserPlay =>
      rw [perform, onUserPlay]
      split
      · exact hs
      · exact onFilm_of_aim (aim_send ..) ⟨hs.pending, hs.seeks⟩
  | onUserPause =>
      rw [perform, onUserPause]
      split
      · exact hs
      · exact onFilm_of_aim ((aim_send ..).trans (aim_emit rfl _)) ⟨hs.pending, hs.seeks⟩
  | onUserSeek positionMs => exact onUserSeek_onFilm hs
  | onUserRateChange playbackRate =>
      rw [perform, onUserRateChange]
      split
      · exact hs
      · refine onFilm_of_aim (aim_send ..) ?_
        split
        · exact onFilm_of_aim (aim_emit rfl s) hs
        · exact hs
  | tick =>
      rw [perform]
      split
      · exact tick_onFilm hs
      · exact hs
  | heartbeat =>
      rw [perform]
      split
      · exact onFilm_of_aim (aim_heartbeat ..) hs
      · exact hs
  | playTimer => exact hfire _ _ (aim_firePlay ..)
  | bufferConfirmTimer => exact hfire _ _ (aim_confirmBuffering ..)
  | recoveryTimer => exact hfire _ _ (aim_recover ..)
  | event e =>
      rw [perform]
      split
      · exact dispatch_onFilm e hs
      · exact hs
  | playSettled ok => exact onFilm_of_aim (aim_playSettled ..) hs
  | replied id ok => exact onFilm_of_aim (aim_replied ..) hs

/-- **Step lemma.**  A task that carries no seek over to another film leaves none behind,
    and seeks only within the current film. -/
theorem step_onFilm {s : SyncController} {l : BrowserEnv × Task} (hs : s.PendingOnFilm)
    (hok : ¬s.CarriesSeek l) : (s.step l).OnFilm := by
  have hstart : ({ s with acts := [] } : SyncController).OnFilm :=
    ⟨hs, fun _ _ _ _ hin => absurd hin (List.not_mem_nil)⟩
  obtain ⟨hpending, hseeks⟩ := perform_onFilm l.1 l.2 hstart hok
  exact ⟨hpending, hseeks⟩

/-- **Seeks stay on their film.**  In every run in which no update installs another film
    behind a deferred seek, every assignment of `currentTime` has a target of the film
    that is current at the assignment. -/
theorem seeks_on_film (isHost : Bool) (ls : List (BrowserEnv × Task))
    (hok : EachStep step (fun s l => ¬s.CarriesSeek l) (create isHost) ls) :
    EachStep step (fun s l => (s.step l).SeeksOnFilm) (create isHost) ls := by
  have hkeep : ∀ (s : SyncController) l, s.PendingOnFilm → ¬s.CarriesSeek l →
      (s.step l).PendingOnFilm := fun s l hs hl => (step_onFilm hs hl).pending
  have hstart : (create isHost).PendingOnFilm := by
    intro target htarget
    exact absurd htarget (by simp [create])
  exact eachStep_of_invariant hkeep (fun s l hs hl => (step_onFilm hs hl).seeks) hstart hok

/-! ## A seek that lands on the next film -/

/-- A member's player without data, and the same player once the film is in. -/
def emptyPlayer : BrowserEnv := ⟨0, 0, ⟨0, 0, true, none, 0, 0, [], false⟩⟩

/-- A browser with a film of an hour that can be sought anywhere. -/
def loadedPlayer : BrowserEnv := ⟨0, 0, ⟨0, 1, true, some 3600, 640, 360, [(0, 3600)], false⟩⟩

/-- The room shows the film `mediaID`. -/
def showing (mediaID : String) (revision : Nat) (phase : Phase) (anchorPositionMs : Int64) :
    PlaybackState :=
  ⟨mediaID, revision, revision, phase, anchorPositionMs, 0, 1, 0, none⟩

/-- The seek into the first film waits for data; the host then switches to a second one,
    whose player executes it. -/
def filmSwitch : List (BrowserEnv × Task) :=
  [(emptyPlayer, .attach),
   (emptyPlayer, .setRoomState (showing "first" 1 .paused 100000) true),
   (emptyPlayer, .setRoomState (showing "second" 2 .loading 0) false),
   (emptyPlayer, .destroy),
   (emptyPlayer, .attach),
   (loadedPlayer, .event .loadedmetadata)]

theorem filmSwitch_crosses :
    ¬EachStep step (fun s l => (s.step l).SeeksOnFilm) (create false) filmSwitch := by
  intro h
  have hcrossed : Act.seek 100 .retry ⟨100000, some "first"⟩ (some "second") ∈
      (run step (create false) filmSwitch).acts := by decide +kernel
  have hlast := h (filmSwitch.take 5) (loadedPlayer, .event .loadedmetadata) [] rfl
  exact absurd (hlast _ _ _ _ hcrossed) (by decide)

/-- The same player when the host had waited for the seek. -/
theorem seeks_on_film_waited :
    EachStep step (fun s l => (s.step l).SeeksOnFilm) (create false)
      [(emptyPlayer, .attach),
       (emptyPlayer, .setRoomState (showing "first" 1 .paused 100000) true),
       (loadedPlayer, .event .loadedmetadata)] := by
  apply seeks_on_film
  simp only [eachStep_cons]
  refine ⟨id, ?_, id, eachStep_nil _ _⟩
  rintro ⟨hpending, -⟩
  exact hpending rfl

end SyncController

end WatchTogether.Web

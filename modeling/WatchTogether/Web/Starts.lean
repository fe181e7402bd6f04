/-
  WatchTogether.Web.Starts

  What can call `video.play()`.  `Stance` is the part of a controller that decides it;
  most of the code leaves it alone, and each task that does not is described by one
  lemma: it starts the element under its own guard, moves the pending start, or
  changes who may start it.
-/

import WatchTogether.Web.SyncController

namespace WatchTogether.Web

open Rooms

/-- The act is a call of `play()`. -/
def Act.isPlay : Act → Bool
  | .play .. => true
  | _ => false

/-- The part of a controller that starting the element reads and writes. -/
structure Stance where
  state : Option PlaybackState
  isHost : Bool
  attached : Bool
  autoplayBlocked : Bool
  confirmedBuffering : Bool
  playTimer : Option ℚ
  plays : Nat
  starts : List Act

namespace SyncController

/-- What the controller knows of starts. -/
def stance (s : SyncController) : Stance :=
  ⟨s.state, s.isHost, s.attached, s.autoplayBlocked, s.confirmedBuffering, s.playTimer, s.plays,
    s.acts.filter Act.isPlay⟩

-- ============================================================================
-- What leaves the stance alone
-- ============================================================================

theorem stance_emit {a : Act} (h : a.isPlay = false) (s : SyncController) :
    (s.emit a).stance = s.stance := by
  simp [stance, emit, h]

@[simp] theorem stance_emitStatus (next : SyncStatus) (s : SyncController) :
    (s.emitStatus next).stance = s.stance := by
  rw [emitStatus]
  split
  · rfl
  split
  · rfl
  · exact stance_emit rfl _

@[simp] theorem stance_send (command : Command) (ack : Bool) (s : SyncController) :
    (s.send command ack).stance = s.stance := by
  rw [send]
  split
  · simp [stance, emit, Act.isPlay]
  · simp [stance, emit, Act.isPlay]

theorem stance_performSeek (env : BrowserEnv) (cause : SeekCause) (target : Target) (seconds : ℚ)
    (s : SyncController) : (s.performSeek env cause target seconds).stance = s.stance := by
  rw [performSeek]
  split
  · rfl
  · exact stance_emit rfl _

@[simp] theorem stance_seek (env : BrowserEnv) (cause : SeekCause) (target : Target)
    (s : SyncController) : (s.seek env cause target).stance = s.stance := by
  refine seek_cases (motive := fun x => x.stance = s.stance) (fun _ => rfl) (fun _ _ => rfl) ?_
  rintro x seconds (rfl | rfl)
  · exact stance_performSeek ..
  · exact stance_performSeek ..

@[simp] theorem stance_retrySeek (env : BrowserEnv) (s : SyncController) :
    (s.retrySeek env).stance = s.stance := by
  rw [retrySeek]
  split
  · exact stance_seek ..
  · rfl

@[simp] theorem stance_align (env : BrowserEnv) (state : PlaybackState)
    (mediaChanged timelineJump force : Bool) (s : SyncController) :
    (s.align env state mediaChanged timelineJump force).stance = s.stance := by
  rw [align]
  split
  · exact stance_seek ..
  · rfl

@[simp] theorem stance_checkRecovery (env : BrowserEnv) (s : SyncController) :
    (s.checkRecovery env).stance = s.stance := by
  rw [checkRecovery]
  split <;> rfl

@[simp] theorem stance_applyCorrection (env : BrowserEnv) (action : Correction)
    (s : SyncController) : (s.applyCorrection env action).stance = s.stance := by
  have hrate : (s.emit (.rate action.rate)).stance = s.stance := stance_emit rfl s
  rw [applyCorrection]
  dsimp only
  split
  · rw [stance_seek, stance_emitStatus]
    exact hrate
  · exact (stance_emitStatus ..).trans hrate
  · exact (stance_emitStatus ..).trans hrate

@[simp] theorem stance_waiting (env : BrowserEnv) (s : SyncController) :
    (s.waiting env).stance = s.stance := by
  rw [waiting]
  split
  · rfl
  split
  · rfl
  dsimp only
  split
  · simp [stance, emit, Act.isPlay]
  · simp [stance, emit, Act.isPlay]

@[simp] theorem stance_loadedMetadata (env : BrowserEnv) (s : SyncController) :
    (s.loadedMetadata env).stance = s.stance := by
  rw [loadedMetadata]
  split
  · split
    · rw [stance_send, stance_retrySeek]
    · exact stance_retrySeek ..
  · exact stance_retrySeek ..

@[simp] theorem stance_ended (env : BrowserEnv) (s : SyncController) :
    (s.ended env).stance = s.stance := by
  rw [ended]
  split
  · exact stance_send ..
  · rfl

@[simp] theorem stance_heartbeat (env : BrowserEnv) (s : SyncController) :
    (s.heartbeat env).stance = s.stance := by
  rw [heartbeat]
  split
  · rfl
  · exact stance_send ..

@[simp] theorem stance_reportBuffering (env : BrowserEnv) (s : SyncController) :
    (s.reportBuffering env).stance = s.stance := by
  rw [reportBuffering]
  split
  · rw [stance_send, stance_emit rfl]
    rfl
  split
  · exact stance_send ..
  · rfl

@[simp] theorem stance_reportRecovery (env : BrowserEnv) (state : PlaybackState)
    (s : SyncController) : (s.reportRecovery env state).stance = s.stance := by
  rw [reportRecovery]
  split
  · split
    · exact stance_send ..
    · rfl
  split
  · exact stance_send ..
  · rfl

@[simp] theorem stance_suspend (s : SyncController) : s.suspend.stance = s.stance := by
  rw [suspend]
  split
  · exact stance_emit rfl s
  · rfl

@[simp] theorem stance_onUserSeek (env : BrowserEnv) (positionMs : ℚ) (s : SyncController) :
    (s.onUserSeek env positionMs).stance = s.stance := by
  rw [onUserSeek]
  split
  · rfl
  rw [stance_send]
  split
  · rw [stance_emit rfl, stance_seek]
  · exact stance_seek ..

@[simp] theorem stance_onUserRateChange (env : BrowserEnv) (playbackRate : ℚ)
    (s : SyncController) : (s.onUserRateChange env playbackRate).stance = s.stance := by
  rw [onUserRateChange]
  split
  · rfl
  rw [stance_send]
  split
  · exact stance_emit rfl s
  · rfl

end SyncController

-- ============================================================================
-- Starting the element
-- ============================================================================

namespace Stance

/-- The controller is free to start its element. -/
def Free (x : Stance) : Prop :=
  x.attached = true ∧ x.autoplayBlocked = false ∧ x.confirmedBuffering = false

instance (x : Stance) : Decidable x.Free :=
  inferInstanceAs (Decidable (_ ∧ _ ∧ _))

/-- `tryPlay`, as far as the stance goes. -/
def start (serverNow : ℚ) (x : Stance) : Stance :=
  if x.Free then
    { x with plays := x.plays + 1, starts := x.starts ++ [.play x.state serverNow] }
  else x

@[simp] theorem start_state (t : ℚ) (x : Stance) : (x.start t).state = x.state := by
  rw [start]
  split <;> rfl

@[simp] theorem start_isHost (t : ℚ) (x : Stance) : (x.start t).isHost = x.isHost := by
  rw [start]
  split <;> rfl

@[simp] theorem start_attached (t : ℚ) (x : Stance) : (x.start t).attached = x.attached := by
  rw [start]
  split <;> rfl

@[simp] theorem start_playTimer (t : ℚ) (x : Stance) : (x.start t).playTimer = x.playTimer := by
  rw [start]
  split <;> rfl

@[simp] theorem start_autoplayBlocked (t : ℚ) (x : Stance) :
    (x.start t).autoplayBlocked = x.autoplayBlocked := by
  rw [start]
  split <;> rfl

theorem mem_start {t : ℚ} {x : Stance} {a : Act} (h : a ∈ (x.start t).starts) :
    a ∈ x.starts ∨ (x.Free ∧ a = .play x.state t) := by
  rw [start] at h
  split at h
  · rename_i hfree
    rcases List.mem_append.mp h with h | h
    · exact Or.inl h
    · exact Or.inr ⟨hfree, List.mem_singleton.mp h⟩
  · exact Or.inl h

end Stance

namespace SyncController

theorem stance_tryPlay (env : BrowserEnv) (s : SyncController) :
    (s.tryPlay env).stance = s.stance.start env.serverNow := by
  rw [tryPlay, Stance.start]
  by_cases hfree : s.stance.Free
  · have hcond : ¬(s.attached = false ∨ s.autoplayBlocked = true ∨ s.confirmedBuffering = true) := by
      obtain ⟨hattached, hblocked, hbuffering⟩ := hfree
      simp only [stance] at hattached hblocked hbuffering
      simp [hattached, hblocked, hbuffering]
    rw [if_pos hfree, if_neg hcond]
    simp [stance, emit, Act.isPlay]
  · have hcond : s.attached = false ∨ s.autoplayBlocked = true ∨ s.confirmedBuffering = true := by
      by_contra h
      exact hfree (by simpa [Stance.Free, stance, not_or] using h)
    rw [if_neg hfree, if_pos hcond]

/-- The room is playing and its anchor is reached, but for 20 ms. -/
def OnTime (env : BrowserEnv) (state : Option PlaybackState) : Prop :=
  ∃ p, state = some p ∧ p.phase = .playing ∧ ms p.anchorServerTimeMs ≤ env.serverNow + 20

/-- The recovery timer finds the player recovered. -/
def Recovers (env : BrowserEnv) (s : SyncController) : Prop :=
  s.attached = true ∧ s.bufferSuspected = false ∧ haveFutureData ≤ env.video.readyState ∧
    ¬(s.isHost = true ∧ s.hostBufferingReported = true ∧ s.inPhase .buffering = false)

end SyncController

-- ============================================================================
-- What a task does to the stance
-- ============================================================================

/-- What `apply` does: it moves the pending start. -/
inductive Applied (env : BrowserEnv) (previous : Option PlaybackState) (force : Bool)
    (x : Stance) : Stance → Prop
  | ignored (h : x.state = none ∨ x.attached = false) : Applied env previous force x x
  | scheduled (p : PlaybackState) (hstate : x.state = some p) (hattached : x.attached = true)
      (hplaying : p.phase = .playing) :
      Applied env previous force x { x with
        playTimer := some (env.due (max 0 (ms p.anchorServerTimeMs - env.serverNow))) }
  /-- A playing room stays on its timeline. -/
  | continued (p q : PlaybackState) (hstate : x.state = some p) (hattached : x.attached = true)
      (hplaying : p.phase = .playing) (hprevious : previous = some q)
      (hphase : q.phase = .playing) (hforce : force = false)
      (hjump : isTimelineJump previous p = false) : Applied env previous force x x
  | stopped (p : PlaybackState) (hstate : x.state = some p) (hattached : x.attached = true)
      (hstopped : p.phase ≠ .playing) : Applied env previous force x { x with playTimer := none }

open SyncController in
/-- What a task does to the stance of the controller `s`. -/
inductive StanceTurn (env : BrowserEnv) (s : SyncController) : Task → Stance → Prop
  | kept (task : Task) : StanceTurn env s task s.stance
  | attached (x : Stance) (h : Applied env none true { s.stance with attached := true } x) :
      StanceTurn env s .attach x
  | destroyed : StanceTurn env s .destroy { s.stance with attached := false, playTimer := none }
  | updated (next : PlaybackState) (force : Bool) (x : Stance)
      (haccept : force = true ∨ s.lastRevision < next.revision)
      (h : Applied env s.state force { s.stance with state := some next } x) :
      StanceTurn env s (.setRoomState next force) x
  | hostSet (value : Bool) (x : Stance)
      (h : Applied env none true { s.stance with isHost := value } x) :
      StanceTurn env s (.setHost value) x
  | realigned (x : Stance) (h : Applied env none true s.stance x) : StanceTurn env s .realign x
  | resumed :
      StanceTurn env s .resumeLocal ({ s.stance with autoplayBlocked := false }.start env.serverNow)
  | userPlayed (hhost : s.isHost = true) :
      StanceTurn env s .onUserPlay { s.stance with autoplayBlocked := false }
  | userPaused : StanceTurn env s .onUserPause { s.stance with playTimer := none }
  /-- A tick, alone or behind `canplay`, starts an element that should be playing. -/
  | ticked (task : Task)
      (htask : task = .tick ∨ task = .event .canplay ∨ task = .event .playing)
      (hontime : OnTime env s.state) :
      StanceTurn env s task (s.stance.start env.serverNow)
  | pauseAnswered (hmember : s.isHost = false) (hbuffering : s.confirmedBuffering = false)
      (hplaying : s.inPhase .playing = true) :
      StanceTurn env s (.event .pause) (s.stance.start env.serverNow)
  | timerFired (due : ℚ) (htimer : s.playTimer = some due) (hdue : due ≤ env.now) :
      StanceTurn env s .playTimer { s.stance with playTimer := none }
  | timerStarted (due : ℚ) (htimer : s.playTimer = some due) (hdue : due ≤ env.now)
      (hplaying : s.inPhase .playing = true) :
      StanceTurn env s .playTimer ({ s.stance with playTimer := none }.start env.serverNow)
  | confirmed : StanceTurn env s .bufferConfirmTimer { s.stance with confirmedBuffering := true }
  | recoveryWaits : StanceTurn env s .recoveryTimer { s.stance with confirmedBuffering := true }
  | recovered : StanceTurn env s .recoveryTimer { s.stance with confirmedBuffering := false }
  | recoveryStarted (hrecovers : s.Recovers env) (hplaying : s.inPhase .playing = true) :
      StanceTurn env s .recoveryTimer
        ({ s.stance with confirmedBuffering := false }.start env.serverNow)
  | settled (ok : Bool) (hplays : s.plays ≠ 0) :
      StanceTurn env s (.playSettled ok)
        { s.stance with plays := s.plays - 1, autoplayBlocked := !ok }
  | readyRefused (id : Nat) :
      StanceTurn env s (.replied id false) { s.stance with confirmedBuffering := true }

namespace SyncController

theorem stance_schedulePlay (env : BrowserEnv) (anchor : ℚ) (s : SyncController) :
    (s.schedulePlay env anchor).stance
      = { s.stance with playTimer := some (env.due (max 0 (anchor - env.serverNow))) } := by
  rw [schedulePlay]
  split
  · simp [stance, emit, cancelScheduledPlay, Act.isPlay]
  · rfl

theorem stance_applyPlaying (env : BrowserEnv) (p : PlaybackState)
    (phaseChanged timelineJump force : Bool) (s : SyncController) :
    (s.applyPlaying env p phaseChanged timelineJump force).stance =
      if (phaseChanged || force || timelineJump) = true then
        { s.stance with
          playTimer := some (env.due (max 0 (ms p.anchorServerTimeMs - env.serverNow))) }
      else s.stance := by
  have hsettled : ∀ x : SyncController, (if phaseChanged then
      { x with
        recoveryUntil := env.now + postSeekSettleMs
        drift := x.drift.reset env.now postSeekSettleMs }
      else x).stance = x.stance := by
    intro x
    split <;> rfl
  rw [applyPlaying]
  rw [hsettled]
  split
  · exact stance_schedulePlay ..
  · rfl

theorem stance_applyStopped (env : BrowserEnv) (p : PlaybackState) (s : SyncController) :
    (s.applyStopped env p).stance = { s.stance with playTimer := none } := by
  have hstill : (s.standStill env p).stance = { s.stance with playTimer := none } := by
    simp [standStill, stance, emit, cancelScheduledPlay, Act.isPlay]
  rw [applyStopped]
  split
  · rw [stance_checkRecovery, stance_emitStatus, hstill]
  · rw [stance_emitStatus, hstill]

theorem applied (env : BrowserEnv) (previous : Option PlaybackState) (force : Bool)
    (s : SyncController) : Applied env previous force s.stance (s.apply env previous force).stance := by
  refine apply_cases (motive := fun x => Applied env previous force s.stance x.stance)
    (fun h => .ignored h) ?_
  intro p y hstate hattached hy
  have hystance : y.stance = s.stance := by
    rw [hy, stance_align]
    exact stance_emit rfl _
  constructor
  · intro hplaying
    rw [stance_applyPlaying, hystance]
    split
    · exact .scheduled p hstate hattached hplaying
    · rename_i hsame
      simp only [Bool.or_eq_true, not_or, Bool.not_eq_true] at hsame
      obtain ⟨⟨hphase, hforce⟩, hjump⟩ := hsame
      cases hprevious : previous with
      | none =>
          rw [hprevious] at hphase
          exact absurd hphase (by simp)
      | some q =>
          rw [hprevious] at hphase hjump
          have hq : q.phase = .playing := by
            rw [← hplaying]
            simpa using hphase
          exact .continued p q hstate hattached hplaying rfl hq hforce hjump
  · intro hstopped
    rw [stance_applyStopped, hystance]
    exact .stopped p hstate hattached hstopped

theorem applied_of {env : BrowserEnv} {previous : Option PlaybackState} {force : Bool}
    {s : SyncController} {x : Stance} (h : s.stance = x) :
    Applied env previous force x (s.apply env previous force).stance := by
  rw [← h]
  exact applied env previous force s

-- ============================================================================
-- Every task is one of these
-- ============================================================================

/-- A tick starts the element, if at all, on time. -/
theorem stance_tick (env : BrowserEnv) (s : SyncController) :
    (s.tick env).stance = s.stance ∨
      ((s.tick env).stance = s.stance.start env.serverNow ∧ OnTime env s.state) := by
  refine tick_cases (motive := fun x => x.stance = s.stance ∨
    (x.stance = s.stance.start env.serverNow ∧ OnTime env s.state)) (Or.inl rfl) ?_
  intro p hstate hplaying hanchor
  have hrate : (s.emit (.rate p.playbackRate)).stance = s.stance := stance_emit rfl s
  refine ⟨Or.inl hrate, ?_⟩
  intro x hx
  -- whatever is done first, the stance is the same when `tryPlay` is reached
  have hsame : x.stance = s.stance := by
    rcases hx with rfl | ⟨action, drift, rfl⟩
    · rw [stance_emitStatus, hrate]
    · rw [stance_applyCorrection]
      rfl
  refine ⟨Or.inl hsame, Or.inr ⟨?_, p, hstate, hplaying, hanchor⟩⟩
  rw [stance_tryPlay, hsame]

theorem stanceTurn_event (env : BrowserEnv) (s : SyncController) (e : MediaEvent) :
    StanceTurn env s (.event e) (s.dispatch env e).stance := by
  have hcanPlay : (s.canPlay env).stance = s.stance ∨
      ((s.canPlay env).stance = s.stance.start env.serverNow ∧ OnTime env s.state) := by
    rw [canPlay]
    split
    · exact stance_tick env { s with bufferConfirmTimer := none, bufferSuspected := false }
    · exact Or.inl rfl
  have hkept : ∀ {x : Stance}, x = s.stance → StanceTurn env s (.event e) x := by
    rintro x rfl
    exact .kept _
  cases e with
  | waiting => exact hkept (stance_waiting ..)
  | stalled => exact hkept (stance_waiting ..)
  | canplay =>
      rcases hcanPlay with h | ⟨h, hontime⟩
      · exact hkept h
      · rw [dispatch, h]
        exact .ticked _ (Or.inr (Or.inl rfl)) hontime
  | playing =>
      rcases hcanPlay with h | ⟨h, hontime⟩
      · exact hkept h
      · rw [dispatch, h]
        exact .ticked _ (Or.inr (Or.inr rfl)) hontime
  | progress => exact hkept (stance_retrySeek ..)
  | loadedmetadata => exact hkept (stance_loadedMetadata ..)
  | pause =>
      rw [dispatch, nativePause]
      split
      · rename_i hguard
        rw [stance_tryPlay]
        exact .pauseAnswered hguard.1 hguard.2.2.1 hguard.2.2.2
      · exact .kept _
  | ended => exact hkept (stance_ended ..)

theorem stanceTurn_recover (env : BrowserEnv) (s : SyncController) :
    StanceTurn env s .recoveryTimer (s.recover env).stance := by
  rw [recover]
  dsimp only
  split
  · exact .kept _
  rename_i p hstate
  split
  · exact .kept _
  rename_i hready
  split
  · exact .recoveryWaits
  rename_i hreported
  have hrecovered : ∀ (x : SyncController) (next : SyncStatus),
      x.stance = { s.stance with confirmedBuffering := false } →
      ((x.reportRecovery env p).emitStatus next).stance
        = { s.stance with confirmedBuffering := false } := by
    intro x next hx
    rw [stance_emitStatus, stance_reportRecovery, hx]
  split
  · rename_i hplaying
    rw [stance_tryPlay, hrecovered _ _ (by rfl)]
    refine .recoveryStarted ?_ ?_
    · simp only [not_or, Bool.not_eq_true, not_lt] at hready
      refine ⟨by simpa using hready.1, hready.2.1, hready.2.2, ?_⟩
      rintro ⟨hhost, hrep, hphase⟩
      refine hreported ⟨hhost, hrep, ?_⟩
      rw [hplaying]
      decide
    · rw [inPhase, hstate]
      simp [hplaying]
  · rw [hrecovered _ _ (by rfl)]
    exact .recovered

/-- **Every task** does to the stance what `StanceTurn` lists. -/
theorem stanceTurn (env : BrowserEnv) (s : SyncController) (task : Task) :
    StanceTurn env s task (s.perform env task).stance := by
  have hkept : ∀ {x : Stance}, x = s.stance → StanceTurn env s task x := by
    rintro x rfl
    exact .kept _
  cases task with
  | attach =>
      rw [perform, attach]
      split
      · exact .kept _
      · exact .attached _ (applied_of rfl)
  | destroy => exact .destroyed
  | setRoomState next force =>
      rw [perform, setRoomState]
      split
      · exact .kept _
      · rename_i haccept
        refine .updated next force _ ?_ (applied_of rfl)
        simpa [acceptRevision, or_iff_not_imp_left] using haccept
  | setHost value =>
      rw [perform, setHost]
      split
      · exact .kept _
      · exact .hostSet value _ (applied_of rfl)
  | realign => exact .realigned _ (applied env none true s)
  | suspend => exact hkept (stance_suspend s)
  | resumeLocal =>
      rw [perform, resumeLocal, stance_tryPlay]
      exact .resumed
  | onUserPlay =>
      rw [perform, onUserPlay]
      split
      · exact .kept _
      · rename_i hguard
        rw [stance_send]
        exact .userPlayed (by simpa using (not_or.mp hguard).1)
  | onUserPause =>
      rw [perform, onUserPause]
      split
      · exact .kept _
      · rw [stance_send, stance_emit rfl]
        exact .userPaused
  | onUserSeek positionMs => exact hkept (stance_onUserSeek ..)
  | onUserRateChange playbackRate => exact hkept (stance_onUserRateChange ..)
  | tick =>
      rw [perform]
      split
      · rcases stance_tick env s with h | ⟨h, hontime⟩
        · exact hkept h
        · rw [h]
          exact .ticked _ (Or.inl rfl) hontime
      · exact .kept _
  | heartbeat =>
      rw [perform]
      split
      · exact hkept (stance_heartbeat ..)
      · exact .kept _
  | playTimer =>
      rw [perform, fire]
      split
      · rename_i hfire
        obtain ⟨due, htimer, hdue⟩ := (Option.any_eq_true _ _).mp hfire
        rw [firePlay]
        split
        · rename_i hguard
          rw [stance_tryPlay]
          exact .timerStarted due htimer (by simpa using hdue) hguard.2
        · exact .timerFired due htimer (by simpa using hdue)
      · exact .kept _
  | bufferConfirmTimer =>
      rw [perform, fire]
      split
      · rw [confirmBuffering]
        split
        · exact .kept _
        · rw [stance_reportBuffering, stance_emitStatus]
          exact .confirmed
      · exact .kept _
  | recoveryTimer =>
      rw [perform, fire]
      split
      · exact stanceTurn_recover env s
      · exact .kept _
  | event e =>
      rw [perform]
      split
      · exact stanceTurn_event env s e
      · exact .kept _
  | playSettled ok =>
      rw [perform, playSettled]
      split
      · exact .kept _
      · rename_i hplays
        split
        · rename_i hok
          subst hok
          exact .settled true hplays
        · rename_i hok
          rw [Bool.not_eq_true] at hok
          subst hok
          rw [stance_emitStatus]
          exact .settled false hplays
  | replied id ok =>
      rw [perform, replied]
      split
      · exact .kept _
      · rename_i r hr
        unfold settle
        split
        · exact .kept _
        · exact .kept _
        · exact .readyRefused id
        · exact .kept _

/-- The stance after a task and the microtasks behind it. -/
theorem stanceTurn_step (s : SyncController) (l : BrowserEnv × Task) :
    StanceTurn l.1 { s with acts := [] } l.2 (s.step l).stance :=
  stanceTurn l.1 { s with acts := [] } l.2

theorem mem_acts_of_starts {s : SyncController} {state : Option PlaybackState} {t : ℚ} :
    Act.play state t ∈ s.acts ↔ Act.play state t ∈ s.stance.starts := by
  simp [stance, Act.isPlay]

end SyncController

end WatchTogether.Web

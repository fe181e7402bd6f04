/-
  WatchTogether.Web.Starvation

  When a controller takes a starving player for buffering: the confirmation timer, the grace
  that a seek gives, and the reports to the room.  A player whose `readyState` rises to
  `HAVE_FUTURE_DATA` fires `canplay`.
-/

import WatchTogether.Lib.History
import WatchTogether.Lib.LabelledRun
import WatchTogether.Web.Aim
import Mathlib.Data.List.Induction
import Mathlib.Tactic.Linarith
import Mathlib.Tactic.NormNum

namespace WatchTogether.Web

open Rooms LabelledRun

/-- `cmd.playback.host_buffering` is sent. -/
def Act.isReport : Act → Bool
  | .send r => decide (r.command.type = .playbackHostBuffering)
  | _ => false

/-- What the confirmation of a starvation reads and writes. -/
structure Watch where
  attached : Bool
  bufferConfirmTimer : Option ℚ
  ignoreBufferUntil : ℚ
  seeks : List Act
  reports : List Act

namespace SyncController

/-- What the controller knows of a stall. -/
def watch (s : SyncController) : Watch :=
  ⟨s.attached, s.bufferConfirmTimer, s.ignoreBufferUntil, s.acts.filter Act.isSeek,
    s.acts.filter Act.isReport⟩

-- ============================================================================
-- What leaves it alone
-- ============================================================================

theorem watch_emit {a : Act} (hseek : a.isSeek = false) (hreport : a.isReport = false)
    (s : SyncController) : (s.emit a).watch = s.watch := by
  simp [watch, emit, hseek, hreport]

theorem watch_ite {c : Prop} [Decidable c] {f g : SyncController} {x : Watch} (hf : f.watch = x)
    (hg : g.watch = x) : (if c then f else g).watch = x := by
  split
  · exact hf
  · exact hg

@[simp] theorem watch_emitStatus (next : SyncStatus) (s : SyncController) :
    (s.emitStatus next).watch = s.watch := by
  rw [emitStatus]
  exact watch_ite rfl (watch_ite rfl (watch_emit rfl rfl _))

theorem watch_send {command : Command} (h : command.type ≠ .playbackHostBuffering) (ack : Bool)
    (s : SyncController) : (s.send command ack).watch = s.watch := by
  have hreport : (Act.send ⟨s.nextID, command⟩).isReport = false := decide_eq_false h
  have hemit := watch_emit rfl hreport { s with nextID := s.nextID + 1 }
  rw [send]
  split
  · exact hemit
  · exact hemit

@[simp] theorem watch_tryPlay (env : BrowserEnv) (s : SyncController) :
    (s.tryPlay env).watch = s.watch := by
  rw [tryPlay]
  exact watch_ite rfl (watch_emit rfl rfl _)

theorem watch_schedulePlay (env : BrowserEnv) (anchor : ℚ) (s : SyncController) :
    (s.schedulePlay env anchor).watch = s.watch := by
  rw [schedulePlay]
  exact watch_ite (watch_emit rfl rfl _) rfl

theorem watch_applyPlaying (env : BrowserEnv) (state : PlaybackState)
    (phaseChanged timelineJump force : Bool) (s : SyncController) :
    (s.applyPlaying env state phaseChanged timelineJump force).watch = s.watch := by
  have hscheduled : (if (phaseChanged || force || timelineJump) = true then
      s.schedulePlay env (ms state.anchorServerTimeMs) else s).watch = s.watch :=
    watch_ite (watch_schedulePlay env _ s) rfl
  rw [applyPlaying]
  exact watch_ite hscheduled hscheduled

theorem watch_standStill (env : BrowserEnv) (state : PlaybackState) (s : SyncController) :
    (s.standStill env state).watch = s.watch := by
  simp [standStill, watch, emit, cancelScheduledPlay, Act.isSeek, Act.isReport]

theorem watch_checkRecovery (env : BrowserEnv) (s : SyncController) :
    (s.checkRecovery env).watch = s.watch := by
  rw [checkRecovery]
  exact watch_ite rfl rfl

theorem watch_applyStopped (env : BrowserEnv) (state : PlaybackState) (s : SyncController) :
    (s.applyStopped env state).watch = s.watch := by
  rw [applyStopped]
  split
  · rw [watch_checkRecovery, watch_emitStatus, watch_standStill]
  · rw [watch_emitStatus, watch_standStill]

theorem watch_replied (id : Nat) (ok : Bool) (s : SyncController) :
    (s.replied id ok).watch = s.watch := by
  rw [replied]
  split
  · rfl
  · unfold settle
    split <;> rfl

theorem watch_playSettled (ok : Bool) (s : SyncController) :
    (s.playSettled ok).watch = s.watch := by
  rw [playSettled]
  exact watch_ite rfl (watch_ite rfl (watch_emitStatus _ _))

theorem watch_firePlay (env : BrowserEnv) (s : SyncController) :
    (s.firePlay env).watch = s.watch := by
  rw [firePlay]
  exact watch_ite (watch_tryPlay env _) rfl

theorem watch_nativePause (env : BrowserEnv) (s : SyncController) :
    (s.nativePause env).watch = s.watch := by
  rw [nativePause]
  exact watch_ite (watch_tryPlay env _) rfl

theorem watch_ended (env : BrowserEnv) (s : SyncController) : (s.ended env).watch = s.watch := by
  rw [ended]
  exact watch_ite (watch_send CommandType.noConfusion _ _) rfl

theorem watch_heartbeat (env : BrowserEnv) (s : SyncController) :
    (s.heartbeat env).watch = s.watch := by
  rw [heartbeat]
  exact watch_ite rfl (watch_send CommandType.noConfusion _ _)

theorem watch_suspend (s : SyncController) : s.suspend.watch = s.watch := by
  rw [suspend]
  exact watch_ite (watch_emit rfl rfl _) rfl

theorem watch_reportRecovery (env : BrowserEnv) (state : PlaybackState) (s : SyncController) :
    (s.reportRecovery env state).watch = s.watch := by
  rw [reportRecovery]
  refine watch_ite (watch_ite ?_ rfl) (watch_ite ?_ rfl)
  · exact watch_send CommandType.noConfusion _ _
  · exact watch_send CommandType.noConfusion _ _

theorem watch_recover (env : BrowserEnv) (s : SyncController) :
    (s.recover env).watch = s.watch := by
  rw [recover]
  split
  · rfl
  refine watch_ite rfl (watch_ite rfl ?_)
  refine watch_ite ?_ ?_
  · rw [watch_tryPlay, watch_emitStatus, watch_reportRecovery]
    rfl
  · rw [watch_emitStatus, watch_reportRecovery]
    rfl

-- ============================================================================
-- What may seek
-- ============================================================================

/-- At most, one seek is performed, which opens the grace. -/
def Moves (env : BrowserEnv) (x x' : Watch) : Prop :=
  x' = x ∨ ∃ a : Act, a.isSeek = true ∧
    x' = { x with
      ignoreBufferUntil := env.now + programmaticSeekBufferGraceMs, seeks := x.seeks ++ [a] }

theorem moves_performSeek (env : BrowserEnv) (cause : SeekCause) (target : Target) (seconds : ℚ)
    (s : SyncController) : Moves env s.watch (s.performSeek env cause target seconds).watch := by
  rw [performSeek]
  split
  · exact .inl rfl
  · refine .inr ⟨.seek seconds cause target s.media, rfl, ?_⟩
    simp [watch, emit, Act.isSeek, Act.isReport, media]

theorem moves_seek (env : BrowserEnv) (cause : SeekCause) (target : Target) (s : SyncController) :
    Moves env s.watch (s.seek env cause target).watch := by
  refine seek_cases (motive := fun x => Moves env s.watch x.watch) (fun _ => .inl rfl)
    (fun _ _ => .inl rfl) ?_
  rintro x seconds (rfl | rfl)
  · exact moves_performSeek ..
  · exact moves_performSeek ..

theorem moves_retrySeek (env : BrowserEnv) (s : SyncController) :
    Moves env s.watch (s.retrySeek env).watch := by
  rw [retrySeek]
  split
  · exact moves_seek ..
  · exact .inl rfl

theorem moves_align (env : BrowserEnv) (state : PlaybackState)
    (mediaChanged timelineJump force : Bool) (s : SyncController) :
    Moves env s.watch (s.align env state mediaChanged timelineJump force).watch := by
  rw [align]
  split
  · exact moves_seek ..
  · exact .inl rfl

theorem moves_apply (env : BrowserEnv) (previous : Option PlaybackState) (force : Bool)
    (s : SyncController) : Moves env s.watch (s.apply env previous force).watch := by
  refine apply_cases (motive := fun x => Moves env s.watch x.watch) (fun _ => .inl rfl) ?_
  intro state y _ _ hy
  have hmoves : Moves env s.watch y.watch := by
    have hset : (({ s with applyingRemoteState := true } : SyncController).emit
        (.rate state.playbackRate)).watch = s.watch := watch_emit rfl rfl _
    rw [hy, ← hset]
    exact moves_align ..
  constructor
  · intro _
    rw [watch_applyPlaying]
    exact hmoves
  · intro _
    rw [watch_applyStopped]
    exact hmoves

theorem moves_applyCorrection (env : BrowserEnv) (action : Correction) (s : SyncController) :
    Moves env s.watch (s.applyCorrection env action).watch := by
  have hrate : (s.emit (.rate action.rate)).watch = s.watch := watch_emit rfl rfl s
  rw [applyCorrection]
  dsimp only
  split
  · have hstatus : (emitStatus .correcting
        { s.emit (.rate action.rate) with softCorrectionSince := none }).watch = s.watch :=
      (watch_emitStatus _ _).trans hrate
    rw [← hstatus]
    exact moves_seek ..
  · exact .inl ((watch_emitStatus _ _).trans hrate)
  · exact .inl ((watch_emitStatus _ _).trans hrate)

theorem moves_tick (env : BrowserEnv) (s : SyncController) :
    Moves env s.watch (s.tick env).watch := by
  refine tick_cases (motive := fun x => Moves env s.watch x.watch) (.inl rfl) ?_
  intro state _ _ _
  have hrate : (s.emit (.rate state.playbackRate)).watch = s.watch := watch_emit rfl rfl s
  refine ⟨.inl hrate, ?_⟩
  intro x hx
  have hmoves : Moves env s.watch x.watch := by
    rcases hx with rfl | ⟨action, drift, rfl⟩
    · exact .inl ((watch_emitStatus _ _).trans hrate)
    · exact moves_applyCorrection env action { s with drift := drift }
  refine ⟨hmoves, ?_⟩
  rw [watch_tryPlay]
  exact hmoves

theorem moves_loadedMetadata (env : BrowserEnv) (s : SyncController) :
    Moves env s.watch (s.loadedMetadata env).watch := by
  rw [loadedMetadata]
  split
  · split
    · rw [watch_send CommandType.noConfusion]
      exact moves_retrySeek ..
    · exact moves_retrySeek ..
  · exact moves_retrySeek ..

theorem moves_onUserSeek (env : BrowserEnv) (positionMs : ℚ) (s : SyncController) :
    Moves env s.watch (s.onUserSeek env positionMs).watch := by
  rw [onUserSeek]
  split
  · exact .inl rfl
  · have hpause : ∀ x : SyncController, (if x.inPhase .playing = true ∧ x.attached = true then
        x.emit (.pause .user) else x).watch = x.watch :=
      fun x => watch_ite (watch_emit rfl rfl x) rfl
    dsimp only
    rw [watch_send CommandType.noConfusion, hpause]
    exact moves_seek ..

-- ============================================================================
-- The confirmation
-- ============================================================================

/-- The first `waiting` starts the timer, further ones leave it. -/
theorem watch_waiting (env : BrowserEnv) (s : SyncController) :
    (s.waiting env).watch = s.watch ∨
      (s.attached = true ∧ env.video.readyState < haveFutureData ∧
        (s.waiting env).watch = { s.watch with
          bufferConfirmTimer := some (s.bufferConfirmTimer.getD
            (env.due (max bufferConfirmMs (s.ignoreBufferUntil - env.now)))) }) := by
  rw [waiting]
  split
  · exact .inl rfl
  rename_i state hstate
  split
  · exact .inl rfl
  rename_i hguard
  rw [not_or, not_or, Bool.not_eq_false, not_le] at hguard
  obtain ⟨hattached, -, hdry⟩ := hguard
  refine .inr ⟨hattached, hdry, ?_⟩
  have hrate : ∀ timer : Option ℚ, ({ { s with bufferSuspected := true }.emit
      (.rate state.playbackRate) with
        softCorrectionSince := none, drift := s.drift.reset env.now 0, recoveryTimer := none,
        bufferConfirmTimer := timer } : SyncController).watch
      = { s.watch with bufferConfirmTimer := timer } := by
    intro timer
    simp [watch, emit, Act.isSeek, Act.isReport]
  dsimp only
  cases htimer : s.bufferConfirmTimer with
  | none =>
      rw [if_neg (by simp [emit])]
      exact hrate _
  | some due =>
      rw [if_pos (by simp [emit]), Option.getD_some, ← htimer]
      exact hrate _

theorem moves_canPlay (env : BrowserEnv) (s : SyncController) :
    Moves env { s.watch with bufferConfirmTimer := none } (s.canPlay env).watch := by
  rw [canPlay]
  dsimp only
  split
  · exact moves_tick env { s with bufferConfirmTimer := none, bufferSuspected := false }
  · exact .inl rfl

theorem watch_reportBuffering (env : BrowserEnv) (s : SyncController) :
    ∃ rs, (s.reportBuffering env).watch = { s.watch with reports := s.watch.reports ++ rs } := by
  rw [reportBuffering]
  split
  · refine ⟨[.send ⟨s.nextID, positionCommand .playbackHostBuffering (mathRound env.positionMs)⟩],
      ?_⟩
    simp [watch, emit, send, Act.isSeek, Act.isReport, positionCommand]
  · refine ⟨[], ?_⟩
    rw [List.append_nil]
    exact watch_ite (watch_send CommandType.noConfusion _ _) rfl

theorem watch_confirmBuffering (env : BrowserEnv) (s : SyncController) :
    ∃ rs, (s.confirmBuffering env).watch = { s.watch with
      bufferConfirmTimer := none, reports := s.watch.reports ++ rs } := by
  rw [confirmBuffering]
  dsimp only
  split
  · exact ⟨[], by simp [watch]⟩
  · obtain ⟨rs, hrs⟩ := watch_reportBuffering env (emitStatus .localBuffering
      { s with bufferConfirmTimer := none, confirmedBuffering := true })
    refine ⟨rs, ?_⟩
    rw [hrs, watch_emitStatus]
    rfl

-- ============================================================================
-- What a task makes of it
-- ============================================================================

/-- The events that end the wait for data. -/
def regains : Task → Bool
  | .event .canplay | .event .playing => true
  | _ => false

/-- What a task makes of `x`. -/
inductive WatchTurn (env : BrowserEnv) (x : Watch) : Task → Watch → Prop
  | moved (task : Task) (htask : regains task = false ∨ x.attached = false) (x' : Watch)
      (h : Moves env x x') : WatchTurn env x task x'
  | attached (x' : Watch) (h : Moves env { x with attached := true } x') :
      WatchTurn env x .attach x'
  | destroyed : WatchTurn env x .destroy
      { x with attached := false, bufferConfirmTimer := none }
  /-- The player has run dry. -/
  | waited (e : MediaEvent) (hattached : x.attached = true)
      (hdry : env.video.readyState < haveFutureData) :
      WatchTurn env x (.event e)
        { x with bufferConfirmTimer := some (x.bufferConfirmTimer.getD
          (env.due (max bufferConfirmMs (x.ignoreBufferUntil - env.now)))) }
  /-- The player has data again. -/
  | dataBack (e : MediaEvent) (he : e = .canplay ∨ e = .playing) (x' : Watch)
      (h : Moves env { x with bufferConfirmTimer := none } x') : WatchTurn env x (.event e) x'
  /-- The timer fires. -/
  | fired (due : ℚ) (rs : List Act) (htimer : x.bufferConfirmTimer = some due)
      (hdue : due ≤ env.now) :
      WatchTurn env x .bufferConfirmTimer
        { x with bufferConfirmTimer := none, reports := x.reports ++ rs }

theorem watchTurn_kept {env : BrowserEnv} {s s' : SyncController} {task : Task}
    (htask : regains task = false ∨ s.watch.attached = false) (h : s'.watch = s.watch) :
    WatchTurn env s.watch task s'.watch :=
  .moved task htask _ (.inl h)

theorem watchTurn_event (env : BrowserEnv) (s : SyncController) (e : MediaEvent) :
    WatchTurn env s.watch (.event e) (s.dispatch env e).watch := by
  have hwaiting : WatchTurn env s.watch (.event e) (s.waiting env).watch ∨
      regains (.event e) = true := by
    cases hregains : regains (.event e) with
    | true => exact .inr rfl
    | false =>
        left
        rcases watch_waiting env s with hsame | ⟨hattached, hdry, hset⟩
        · exact watchTurn_kept (.inl hregains) hsame
        · rw [hset]
          exact .waited e hattached hdry
  cases e with
  | waiting => exact hwaiting.resolve_right (by decide)
  | stalled => exact hwaiting.resolve_right (by decide)
  | canplay => exact .dataBack _ (.inl rfl) _ (moves_canPlay env s)
  | playing => exact .dataBack _ (.inr rfl) _ (moves_canPlay env s)
  | progress => exact .moved _ (.inl rfl) _ (moves_retrySeek env s)
  | loadedmetadata => exact .moved _ (.inl rfl) _ (moves_loadedMetadata env s)
  | pause => exact watchTurn_kept (.inl rfl) (watch_nativePause env s)
  | ended => exact watchTurn_kept (.inl rfl) (watch_ended env s)

/-- **Every task** makes of the watch what `WatchTurn` lists. -/
theorem watchTurn (env : BrowserEnv) (s : SyncController) (task : Task) :
    WatchTurn env s.watch task (s.perform env task).watch := by
  cases task with
  | attach =>
      rw [perform, attach]
      split
      · exact watchTurn_kept (.inl rfl) rfl
      · have happly := moves_apply env none true
          ({ s with attached := true, tickTimer := true } : SyncController).updateHeartbeat
        exact .attached _ happly
  | destroy => exact .destroyed
  | setRoomState next force =>
      rw [perform, setRoomState]
      split
      · exact watchTurn_kept (.inl rfl) rfl
      · exact .moved _ (.inl rfl) _ (moves_apply env s.state force
          { s with toRoomState := .synced next })
  | setHost value =>
      rw [perform, setHost]
      split
      · exact watchTurn_kept (.inl rfl) rfl
      · exact .moved _ (.inl rfl) _ (moves_apply ..)
  | realign => exact .moved _ (.inl rfl) _ (moves_apply ..)
  | suspend => exact watchTurn_kept (.inl rfl) (watch_suspend s)
  | resumeLocal => exact watchTurn_kept (.inl rfl) (watch_tryPlay ..)
  | onUserPlay =>
      rw [perform, onUserPlay]
      split
      · exact watchTurn_kept (.inl rfl) rfl
      · exact watchTurn_kept (.inl rfl) (watch_send CommandType.noConfusion _ _)
  | onUserPause =>
      rw [perform, onUserPause]
      split
      · exact watchTurn_kept (.inl rfl) rfl
      · refine watchTurn_kept (.inl rfl) ((watch_send CommandType.noConfusion _ _).trans ?_)
        exact watch_emit rfl rfl _
  | onUserSeek positionMs => exact .moved _ (.inl rfl) _ (moves_onUserSeek ..)
  | onUserRateChange playbackRate =>
      rw [perform, onUserRateChange]
      split
      · exact watchTurn_kept (.inl rfl) rfl
      · refine watchTurn_kept (.inl rfl) ((watch_send CommandType.noConfusion _ _).trans ?_)
        exact watch_ite (watch_emit rfl rfl _) rfl
  | tick =>
      rw [perform]
      split
      · exact .moved _ (.inl rfl) _ (moves_tick env s)
      · exact watchTurn_kept (.inl rfl) rfl
  | heartbeat =>
      rw [perform]
      exact watchTurn_kept (.inl rfl) (watch_ite (watch_heartbeat env s) rfl)
  | playTimer =>
      rw [perform, fire]
      exact watchTurn_kept (.inl rfl) (watch_ite (watch_firePlay env s) rfl)
  | bufferConfirmTimer =>
      rw [perform, fire]
      split
      · rename_i hfires
        obtain ⟨due, htimer, hdue⟩ := (Option.any_eq_true _ _).mp hfires
        obtain ⟨rs, hrs⟩ := watch_confirmBuffering env s
        rw [hrs]
        exact .fired due rs htimer (of_decide_eq_true hdue)
      · exact watchTurn_kept (.inl rfl) rfl
  | recoveryTimer =>
      rw [perform, fire]
      exact watchTurn_kept (.inl rfl) (watch_ite (watch_recover env s) rfl)
  | event e =>
      rw [perform]
      split
      · exact watchTurn_event env s e
      · rename_i hdetached
        exact watchTurn_kept (.inr (Bool.not_eq_true _ ▸ hdetached)) rfl
  | playSettled ok => exact watchTurn_kept (.inl rfl) (watch_playSettled ok s)
  | replied id ok => exact watchTurn_kept (.inl rfl) (watch_replied id ok s)

theorem watchTurn_step (env : BrowserEnv) (s : SyncController) (task : Task) :
    WatchTurn env { s.watch with seeks := [], reports := [] } task (s.step (env, task)).watch :=
  watchTurn env { s with acts := [] } task

end SyncController

-- ============================================================================
-- The player over time
-- ============================================================================

/-- A controller and the element's `readyState` at the time `now`. -/
structure Player where
  now : ℚ
  readyState : Nat
  controller : SyncController

namespace Player

open SyncController

/-- What happens next.  The time and the `readyState` that a task reads are the player's. -/
inductive Event where
  | wait (t : ℚ)
  | ready (readyState : Nat) (env : BrowserEnv)
  | task (env : BrowserEnv) (task : Task)

/-- What the controller sees of the player. -/
def env (p : Player) (e : BrowserEnv) : BrowserEnv :=
  { e with now := p.now, video := { e.video with readyState := p.readyState } }

/-- No task runs. -/
def idle (p : Player) : Player := { p with controller := { p.controller with acts := [] } }

/-- One step.  `controller.acts` is what the step does. -/
def step (p : Player) : Event → Player
  | .wait t => { p.idle with now := max p.now t }
  | .ready readyState e =>
      let next := { p with readyState := readyState }
      if p.readyState < haveFutureData ∧ haveFutureData ≤ readyState then
        { next with controller := p.controller.step (next.env e, .event .canplay) }
      else next.idle
  | .task e task => { p with controller := p.controller.step (p.env e, task) }

/-- A new controller and its element. -/
def start (now : ℚ) (readyState : Nat) (isHost : Bool) : Player :=
  ⟨now, readyState, .create isHost⟩

/-- The states of a run, each with what its step has done. -/
def visited (p : Player) (ls : List Event) : List Player :=
  p :: history step (fun p l => [p.step l]) p ls

theorem visited_snoc (p : Player) (ls : List Event) (l : Event) :
    visited p (ls ++ [l]) = visited p ls ++ [(run step p ls).step l] := by
  rw [visited, history_append]
  rfl

-- ============================================================================
-- What must hold
-- ============================================================================

/-- The player has no data to go on with. -/
def Dry (p : Player) : Prop := p.readyState < haveFutureData

/-- The step has performed a seek. -/
def Seeks (p : Player) : Prop := ∃ a ∈ p.controller.acts, a.isSeek = true

/-- The timer of `waiting` confirms the buffering, or the host reports it. -/
def Confirms (p : Player) (l : Event) : Prop :=
  (∃ e due, l = .task e .bufferConfirmTimer ∧ p.controller.bufferConfirmTimer = some due ∧
    due ≤ p.now ∧ (p.step l).controller.confirmedBuffering = true) ∨
  ∃ a ∈ (p.step l).controller.acts, a.isReport = true

/-- At the time `t` the player has been dry for 1800 ms, and no seek has been performed for
    2500 ms. -/
structure Starved (ps : List Player) (t : ℚ) : Prop where
  dry : History.Since Dry (fun p => p.Dry ∧ p.now + bufferConfirmMs ≤ t) ps
  unsought : ∀ p ∈ ps, p.Seeks → p.now + programmaticSeekBufferGraceMs < t

/-- No seek is performed while the timer runs, unless by an event that stops it, and a callback
    that runs within a millisecond of its time runs behind the grace. -/
def Undisturbed (p : Player) : Event → Prop
  | .task e task =>
      (regains task = false → p.controller.bufferConfirmTimer.isSome = true →
        ¬(p.step (.task e task)).Seeks) ∧
      (task = .bufferConfirmTimer → ∀ due ∈ p.controller.bufferConfirmTimer,
        due ≤ p.now → p.now < due + 1 → p.controller.ignoreBufferUntil < p.now)
  | _ => True

instance (p : Player) : Decidable p.Seeks :=
  inferInstanceAs (Decidable (∃ a ∈ p.controller.acts, a.isSeek = true))

instance (p : Player) : (l : Event) → Decidable (Undisturbed p l)
  | .task _ _ => inferInstanceAs (Decidable ((_ → _ → _) ∧ (_ → ∀ due ∈ _, _ → _ → _)))
  | .wait _ | .ready _ _ => inferInstanceAs (Decidable True)

-- ============================================================================
-- The invariant
-- ============================================================================

theorem seeks_iff (p : Player) : p.Seeks ↔ p.controller.watch.seeks ≠ [] := by
  have hfilter : p.controller.watch.seeks = p.controller.acts.filter Act.isSeek := rfl
  rw [hfilter, ne_eq, List.filter_eq_nil_iff]
  constructor
  · rintro ⟨a, ha, hseek⟩ hall
    exact hall a ha hseek
  · intro hsome
    by_contra hno
    exact hsome fun a ha hseek => hno ⟨a, ha, hseek⟩

theorem not_seeks_idle {p q : Player} (h : q.controller = p.idle.controller) : ¬q.Seeks := by
  rintro ⟨a, ha, -⟩
  rw [h] at ha
  exact absurd ha List.not_mem_nil

/-- The timer that has been started now is due behind the confirmation and the grace. -/
theorem due_bounds (env : BrowserEnv) (untilMs : ℚ) :
    env.now + bufferConfirmMs ≤ env.due (max bufferConfirmMs (untilMs - env.now)) ∧
      untilMs < env.due (max bufferConfirmMs (untilMs - env.now)) + 1 := by
  have hconfirm : (1800 : ℤ) ≤ ⌊max bufferConfirmMs (untilMs - env.now)⌋ := by
    refine Int.le_floor.mpr (le_max_of_le_left ?_)
    norm_num [bufferConfirmMs]
  have hconfirm' : (bufferConfirmMs : ℚ) ≤ ⌊max bufferConfirmMs (untilMs - env.now)⌋ := by
    unfold bufferConfirmMs at hconfirm ⊢
    exact_mod_cast hconfirm
  have hgrace : untilMs - env.now ≤ max bufferConfirmMs (untilMs - env.now) := le_max_right ..
  have hfloor := Int.sub_one_lt_floor (max bufferConfirmMs (untilMs - env.now))
  unfold BrowserEnv.due
  exact ⟨by linarith, by linarith⟩

/-- What is known after the states `ps`, of which `p` is the last. -/
structure Known (ps : List Player) (p : Player) : Prop where
  past : ∀ q ∈ ps, q.now ≤ p.now
  seeks : ∀ q ∈ ps, q.Seeks →
    q.now + programmaticSeekBufferGraceMs ≤ p.controller.ignoreBufferUntil
  /-- A timer that runs has found the player dry all the time. -/
  pending : ∀ due, p.controller.bufferConfirmTimer = some due →
    p.controller.attached = true ∧ p.Dry ∧ p.controller.ignoreBufferUntil < due + 1 ∧
      History.Since Dry (fun q => q.Dry ∧ q.now + bufferConfirmMs ≤ due) ps

theorem known_start (now : ℚ) (readyState : Nat) (isHost : Bool) :
    Known [start now readyState isHost] (start now readyState isHost) where
  past q hq := (List.mem_singleton.mp hq).symm ▸ le_rfl
  seeks q hq hseeks := by
    obtain rfl := List.mem_singleton.mp hq
    obtain ⟨a, ha, -⟩ := hseeks
    exact absurd ha List.not_mem_nil
  pending _ h := by cases h

/-- A step without a seek that leaves the timer, or stops it. -/
theorem Known.quiet {ps : List Player} {p p' : Player} (hp : Known ps p) (hnow : p.now ≤ p'.now)
    (hseeks : ¬p'.Seeks)
    (huntil : p'.controller.ignoreBufferUntil = p.controller.ignoreBufferUntil)
    (htimer : ∀ due, p'.controller.bufferConfirmTimer = some due →
      p.controller.bufferConfirmTimer = some due ∧ p'.controller.attached = true ∧ p'.Dry) :
    Known (ps ++ [p']) p' := by
  refine ⟨?_, ?_, ?_⟩
  · intro q hq
    rcases List.mem_append.mp hq with hq | hq
    · exact (hp.past q hq).trans hnow
    · exact (List.mem_singleton.mp hq).symm ▸ le_rfl
  · intro q hq hseek
    rcases List.mem_append.mp hq with hq | hq
    · rw [huntil]
      exact hp.seeks q hq hseek
    · exact absurd ((List.mem_singleton.mp hq) ▸ hseek) hseeks
  · intro due hdue
    obtain ⟨hold, hattached, hdry⟩ := htimer due hdue
    obtain ⟨-, -, hgrace, hsince⟩ := hp.pending due hold
    refine ⟨hattached, hdry, ?_, History.since_snoc.mpr (.inr ⟨hsince, hdry⟩)⟩
    rw [huntil]
    exact hgrace

/-- A step with a seek, which leaves no timer behind. -/
theorem Known.sought {ps : List Player} {p p' : Player} (hp : Known ps p) (hnow : p'.now = p.now)
    (huntil : p'.controller.ignoreBufferUntil = p.now + programmaticSeekBufferGraceMs)
    (htimer : p'.controller.bufferConfirmTimer = none) : Known (ps ++ [p']) p' := by
  have hpast : ∀ q ∈ ps ++ [p'], q.now ≤ p.now := by
    intro q hq
    rcases List.mem_append.mp hq with hq | hq
    · exact hp.past q hq
    · exact (List.mem_singleton.mp hq).symm ▸ hnow.le
  refine ⟨fun q hq => hnow ▸ hpast q hq, ?_, ?_⟩
  · intro q hq _
    rw [huntil]
    exact add_le_add_left (hpast q hq) _
  · intro due hdue
    exact absurd (htimer.symm.trans hdue) (by simp)

/-- A step that moves the watch from `x`, where the timer is stopped or kept. -/
theorem Known.moves {ps : List Player} {p p' : Player} {env : BrowserEnv} {x : Watch}
    (hp : Known ps p) (hnow : p'.now = p.now) (henv : env.now = p.now)
    (huntil : x.ignoreBufferUntil = p.controller.ignoreBufferUntil) (hx : x.seeks = [])
    (htimer : ∀ due, x.bufferConfirmTimer = some due →
      p.controller.bufferConfirmTimer = some due ∧ x.attached = true ∧ p'.Dry ∧ ¬p'.Seeks)
    (h : Moves env x p'.controller.watch) : Known (ps ++ [p']) p' := by
  rcases h with hsame | ⟨a, ha, hseek⟩
  · refine hp.quiet hnow.ge ?_ ?_ ?_
    · rw [seeks_iff, hsame, hx]
      exact fun h => h rfl
    · rw [← huntil]
      exact congrArg Watch.ignoreBufferUntil hsame
    · intro due hdue
      obtain ⟨hold, hattached, hdry, -⟩ :=
        htimer due ((congrArg Watch.bufferConfirmTimer hsame).symm.trans hdue)
      exact ⟨hold, (congrArg Watch.attached hsame).trans hattached, hdry⟩
  · have hsought : p'.Seeks := by
      rw [seeks_iff, hseek]
      exact List.append_ne_nil_of_right_ne_nil _ (List.cons_ne_nil _ _)
    refine hp.sought hnow ?_ ?_
    · rw [← henv]
      exact congrArg Watch.ignoreBufferUntil hseek
    · refine (congrArg Watch.bufferConfirmTimer hseek).trans ?_
      cases hdue : x.bufferConfirmTimer with
      | none => rfl
      | some due => exact absurd hsought (htimer due hdue).2.2.2

/-- The timer starts. -/
theorem Known.started {ps : List Player} {p p' : Player} {env : BrowserEnv} (hp : Known ps p)
    (hnow : p'.now = p.now) (henv : env.now = p.now) (hseeks : ¬p'.Seeks) (hdry : p'.Dry)
    (hattached : p'.controller.attached = true)
    (huntil : p'.controller.ignoreBufferUntil = p.controller.ignoreBufferUntil)
    (htimer : p'.controller.bufferConfirmTimer = some (env.due (max bufferConfirmMs
      (p.controller.ignoreBufferUntil - env.now)))) : Known (ps ++ [p']) p' := by
  obtain ⟨hconfirm, hgrace⟩ := due_bounds env p.controller.ignoreBufferUntil
  refine ⟨?_, ?_, ?_⟩
  · intro q hq
    rcases List.mem_append.mp hq with hq | hq
    · exact hnow ▸ hp.past q hq
    · exact (List.mem_singleton.mp hq).symm ▸ le_rfl
  · intro q hq hseek
    rcases List.mem_append.mp hq with hq | hq
    · rw [huntil]
      exact hp.seeks q hq hseek
    · exact absurd ((List.mem_singleton.mp hq) ▸ hseek) hseeks
  · intro due hdue
    obtain rfl := Option.some.inj (htimer.symm.trans hdue)
    refine ⟨hattached, hdry, huntil ▸ hgrace, History.since_snoc.mpr (.inl ⟨hdry, ?_⟩)⟩
    rw [hnow, ← henv]
    exact hconfirm

/-- A task of the controller. -/
theorem Known.task {ps : List Player} {p p' : Player} {env : BrowserEnv} {task : Task}
    (hp : Known ps p) (hnow : p'.now = p.now) (henv : env.now = p.now)
    (hready : env.video.readyState = p'.readyState)
    (hdry : regains task = false → p'.readyState = p.readyState)
    (hturn : WatchTurn env { p.controller.watch with seeks := [], reports := [] } task
      p'.controller.watch)
    (hseekless : regains task = false → p.controller.bufferConfirmTimer.isSome = true →
      ¬p'.Seeks) : Known (ps ++ [p']) p' := by
  -- a timer that has been running and still is
  have hkept : regains task = false → ∀ due, p.controller.bufferConfirmTimer = some due →
      p.controller.attached = true ∧ p'.Dry ∧ ¬p'.Seeks := by
    intro hregains due hdue
    obtain ⟨hattached, hwas, -⟩ := hp.pending due hdue
    refine ⟨hattached, ?_, hseekless hregains (by rw [hdue]; rfl)⟩
    unfold Dry
    rw [hdry hregains]
    exact hwas
  generalize hx : p'.controller.watch = x' at hturn
  cases hturn with
  | moved _ htask _ h =>
      refine hp.moves hnow henv rfl rfl ?_ (hx ▸ h)
      intro due hdue
      have hregains : regains task = false := by
        rcases htask with hregains | hdetached
        · exact hregains
        · exact absurd ((hp.pending due hdue).1.symm.trans hdetached) (by decide)
      exact ⟨hdue, hkept hregains due hdue⟩
  | attached _ h =>
      refine hp.moves hnow henv rfl rfl ?_ (hx ▸ h)
      intro due hdue
      exact ⟨hdue, rfl, (hkept rfl due hdue).2⟩
  | destroyed =>
      refine hp.moves hnow henv rfl rfl ?_ (.inl hx)
      intro due hdue
      cases hdue
  | waited e hattached hnodata =>
      have hnoseek : ¬p'.Seeks := by
        rw [seeks_iff, hx]
        exact fun h => h rfl
      have hdry' : p'.Dry := hready.symm.trans_lt hnodata
      have hattached' : p'.controller.attached = true := (congrArg Watch.attached hx).trans hattached
      have huntil := congrArg Watch.ignoreBufferUntil hx
      have htimer := congrArg Watch.bufferConfirmTimer hx
      cases hold : p.controller.bufferConfirmTimer with
      | none =>
          refine hp.started hnow henv hnoseek hdry' hattached' huntil ?_
          refine htimer.trans (congrArg some ?_)
          change p.controller.bufferConfirmTimer.getD _ = _
          rw [hold]
          rfl
      | some due =>
          refine hp.quiet hnow.ge hnoseek huntil ?_
          intro due' hdue'
          refine ⟨?_, hattached', hdry'⟩
          rw [← hdue', hold]
          refine (htimer.trans (congrArg some ?_)).symm
          change p.controller.bufferConfirmTimer.getD _ = _
          rw [hold]
          rfl
  | dataBack e he _ h =>
      refine hp.moves hnow henv rfl rfl ?_ (hx ▸ h)
      intro due hdue
      cases hdue
  | fired due rs htimer hdue =>
      refine hp.quiet hnow.ge ?_ (congrArg Watch.ignoreBufferUntil hx) ?_
      · rw [seeks_iff, hx]
        exact fun h => h rfl
      · intro due' hdue'
        have hnone := congrArg Watch.bufferConfirmTimer hx
        exact absurd (hnone.symm.trans hdue') (by simp)

theorem known_step {ps : List Player} {p : Player} {l : Event} (hp : Known ps p)
    (hl : Undisturbed p l) : Known (ps ++ [p.step l]) (p.step l) := by
  cases l with
  | wait t =>
      refine hp.quiet (le_max_left ..) (not_seeks_idle rfl) rfl ?_
      intro due hdue
      obtain ⟨hattached, hdry, -⟩ := hp.pending due hdue
      exact ⟨hdue, hattached, hdry⟩
  | ready readyState e =>
      rw [step]
      dsimp only
      split_ifs with hrise
      · have hturn := watchTurn_step (({ p with readyState := readyState } : Player).env e)
          p.controller (.event .canplay)
        exact hp.task rfl rfl rfl (fun h => absurd h (by decide)) hturn
          (fun h => absurd h (by decide))
      · refine hp.quiet le_rfl (not_seeks_idle rfl) rfl ?_
        intro due hdue
        obtain ⟨hattached, hdry, -⟩ := hp.pending due hdue
        refine ⟨hdue, hattached, ?_⟩
        by_contra hdata
        exact hrise ⟨hdry, not_lt.mp hdata⟩
  | task e task =>
      exact hp.task rfl rfl rfl (fun _ => rfl) (watchTurn_step _ _ _)
        (fun hregains htimer => hl.1 hregains htimer)

theorem known_run {p : Player} {ls : List Event} (hinit : Known [p] p)
    (h : EachStep step Undisturbed p ls) : Known (visited p ls) (run step p ls) := by
  induction ls using List.reverseRecOn with
  | nil => exact hinit
  | append_singleton ls l ih =>
      obtain ⟨hbefore, hlast⟩ := eachStep_append.mp h
      rw [visited_snoc, run_append, run_cons, run_nil]
      exact known_step (ih hbefore) (eachStep_cons.mp hlast).1

-- ============================================================================
-- The confirmation
-- ============================================================================

/-- Only the timer's callback confirms and reports. -/
theorem Confirms.fires {p : Player} {l : Event} (h : Confirms p l) :
    ∃ e due, l = .task e .bufferConfirmTimer ∧ p.controller.bufferConfirmTimer = some due ∧
      due ≤ p.now := by
  rcases h with ⟨e, due, hl, htimer, hdue, -⟩ | ⟨a, ha, hreport⟩
  · exact ⟨e, due, hl, htimer, hdue⟩
  have hsome : (p.step l).controller.watch.reports ≠ [] := by
    intro hnone
    exact List.filter_eq_nil_iff.mp hnone a ha hreport
  -- every other task leaves the reports empty
  have hother : ∀ env task, WatchTurn env { p.controller.watch with seeks := [], reports := [] }
      task (p.step l).controller.watch →
      ∃ due, task = .bufferConfirmTimer ∧ p.controller.bufferConfirmTimer = some due ∧
        due ≤ env.now := by
    intro env task hturn
    generalize (p.step l).controller.watch = x' at hturn hsome
    have hmoves : ∀ x : Watch, x.reports = [] → ¬Moves env x x' := by
      rintro x hnone (rfl | ⟨a, -, rfl⟩)
      · exact hsome hnone
      · exact hsome hnone
    cases hturn with
    | moved _ _ _ h => exact absurd h (hmoves _ rfl)
    | attached _ h => exact absurd h (hmoves _ rfl)
    | destroyed => exact absurd rfl hsome
    | waited e hattached hdry => exact absurd rfl hsome
    | dataBack e he _ h => exact absurd h (hmoves _ rfl)
    | fired due rs htimer hdue => exact ⟨due, rfl, htimer, hdue⟩
  cases l with
  | wait t => exact absurd ha List.not_mem_nil
  | ready readyState e =>
      rw [step] at ha hother
      dsimp only at ha hother
      split_ifs at ha hother with hrise
      · obtain ⟨due, htask, -⟩ := hother _ _ (watchTurn_step _ _ _)
        cases htask
      · exact absurd ha List.not_mem_nil
  | task e task =>
      obtain ⟨due, rfl, htimer, hdue⟩ := hother _ _ (watchTurn_step _ _ _)
      exact ⟨e, due, rfl, htimer, hdue⟩

/-- **Starvation.**  In a run without disturbance, buffering is confirmed and reported only of a
    player that has been dry for 1800 ms, and not within 2500 ms of a seek. -/
theorem confirmed_after_starvation (now : ℚ) (readyState : Nat) (isHost : Bool) (ls : List Event)
    (h : EachStep step Undisturbed (start now readyState isHost) ls) :
    ∀ pre l post, ls = pre ++ l :: post →
      Confirms (run step (start now readyState isHost) pre) l →
      Starved (visited (start now readyState isHost) (pre ++ [l]))
        (run step (start now readyState isHost) pre).now := by
  rintro pre l post rfl hconfirms
  have hknown := known_run (known_start now readyState isHost) h.before
  have hl := h.at
  rw [visited_snoc]
  generalize run step (start now readyState isHost) pre = p at hknown hl hconfirms ⊢
  generalize visited (start now readyState isHost) pre = ps at hknown ⊢
  obtain ⟨e, due, rfl, htimer, hdue⟩ := hconfirms.fires
  obtain ⟨-, hdry, hgrace, pre', q, post', hps, ⟨hq, hlong⟩, hkept⟩ := hknown.pending due htimer
  have hlate : p.controller.ignoreBufferUntil < p.now := by
    rcases lt_or_ge p.now (due + 1) with hsoon | hlater
    · exact hl.2 rfl due htimer hdue hsoon
    · exact hgrace.trans_le hlater
  constructor
  · refine History.since_snoc.mpr (.inr ⟨⟨pre', q, post', hps, ⟨hq, ?_⟩, hkept⟩, hdry⟩)
    exact hlong.trans hdue
  · intro q hq hseek
    rcases List.mem_append.mp hq with hq | hq
    · exact (hknown.seeks q hq hseek).trans_lt hlate
    · obtain rfl := List.mem_singleton.mp hq
      refine absurd hseek (hl.1 rfl ?_)
      rw [htimer]
      rfl

/-- A host's player runs dry at 0, and its timer is due at 1800. -/
def runsDry : List Event :=
  [.task loadedPlayer .attach,
   .task loadedPlayer (.setRoomState (showing "film" 1 .playing 0) true),
   .ready 2 loadedPlayer,
   .task loadedPlayer (.event .waiting)]

/-- The host drags the player at 0, and it runs dry a second later; its timer is due at 2800. -/
def dragsThenDry : List Event :=
  [.task loadedPlayer .attach,
   .task loadedPlayer (.setRoomState (showing "film" 1 .playing 0) true),
   .task loadedPlayer (.onUserSeek 60000),
   .wait 1000,
   .ready 2 loadedPlayer,
   .task loadedPlayer (.event .waiting),
   .wait 2800]

/-- The buffering is confirmed behind the grace of the seek. -/
theorem confirmed_after_starvation_host :
    (∃ p ∈ visited (start 0 4 true) dragsThenDry, p.Seeks) ∧
    Confirms (run step (start 0 4 true) dragsThenDry)
      (.task loadedPlayer .bufferConfirmTimer) ∧
    Starved (visited (start 0 4 true) (dragsThenDry ++ [.task loadedPlayer .bufferConfirmTimer]))
      (run step (start 0 4 true) dragsThenDry).now := by
  have hconfirms : Confirms (run step (start 0 4 true) dragsThenDry)
      (.task loadedPlayer .bufferConfirmTimer) :=
    .inl ⟨loadedPlayer, 2800, rfl, by decide +kernel, by decide +kernel, by decide +kernel⟩
  refine ⟨by decide +kernel, hconfirms, ?_⟩
  exact confirmed_after_starvation 0 4 true
    (dragsThenDry ++ [.task loadedPlayer .bufferConfirmTimer]) (by decide +kernel) _ _ [] rfl
    hconfirms

/-- The host drags the player a second after it has run dry. -/
def dragsDry : List Event :=
  runsDry ++ [.wait 1000, .task loadedPlayer (.onUserSeek 60000), .wait 1800]

/-- The report follows the seek after 800 ms. -/
theorem confirmed_after_seek :
    Confirms (run step (start 0 4 true) dragsDry) (.task loadedPlayer .bufferConfirmTimer) ∧
    ¬Starved (visited (start 0 4 true) (dragsDry ++ [.task loadedPlayer .bufferConfirmTimer]))
      (run step (start 0 4 true) dragsDry).now := by
  refine ⟨.inl ⟨loadedPlayer, 1800, rfl, by decide +kernel, by decide +kernel, by decide +kernel⟩,
    fun h => ?_⟩
  have hseek : ∃ p ∈ visited (start 0 4 true)
      (dragsDry ++ [.task loadedPlayer .bufferConfirmTimer]),
      p.Seeks ∧ ¬p.now + programmaticSeekBufferGraceMs
        < (run step (start 0 4 true) dragsDry).now := by decide +kernel
  obtain ⟨p, hp, hsought, hlate⟩ := hseek
  exact hlate (h.unsought p hp hsought)

end Player

end WatchTogether.Web

/-
  WatchTogether.Web.Suspension

  `suspend` pauses the element of a member whose connection is gone and leaves no
  other trace.  The element stays paused exactly if the controller had no way of
  starting it anyway: there is no player, the room is not playing, or autoplay is
  blocked for good.
-/

import WatchTogether.Lib.LabelledRun
import WatchTogether.Web.Starts

namespace WatchTogether.Web

open Rooms LabelledRun

/-- Ticks, media events and timers. -/
def Task.isLocal : Task → Bool
  | .tick | .heartbeat | .playTimer | .bufferConfirmTimer | .recoveryTimer | .event _ => true
  | _ => false

/-- Everything but what brings the room or the viewer back. -/
def Task.isQuiet : Task → Bool
  | .setRoomState _ _ | .realign | .setHost _ | .attach | .resumeLocal => false
  | _ => true

theorem isQuiet_of_isLocal {task : Task} (h : task.isLocal = true) : task.isQuiet = true := by
  cases task <;> first | rfl | exact Bool.noConfusion h

-- ============================================================================
-- What keeps the element paused
-- ============================================================================

/-- The controller cannot start its element; `settles` says whether promises of earlier
    starts may still be fulfilled. -/
def Stance.Grounded (settles : Bool) (x : Stance) : Prop :=
  x.attached = false ∨ (∀ p, x.state = some p → p.phase ≠ .playing) ∨
    (x.autoplayBlocked = true ∧ (settles = true → x.plays = 0))

theorem Stance.start_of_not_free {t : ℚ} {x : Stance} (h : ¬x.Free) : x.start t = x := if_neg h

theorem Stance.start_of_free {t : ℚ} {x : Stance} (h : x.Free) :
    x.start t = { x with plays := x.plays + 1, starts := x.starts ++ [.play x.state t] } := if_pos h

namespace SyncController

theorem inPhase_iff {phase : Phase} {s : SyncController} :
    s.inPhase phase = true ↔ ∃ p, s.state = some p ∧ p.phase = phase := by
  rw [inPhase, Option.any_eq_true]
  simp

/-- In a playing room a grounded controller is not free. -/
theorem not_free_of_grounded {settles : Bool} {x : Stance} (hx : x.Grounded settles)
    (hplaying : ∃ p, x.state = some p ∧ p.phase = .playing) : ¬x.Free := by
  rintro ⟨hattached, hblocked, -⟩
  obtain ⟨p, hstate, hphase⟩ := hplaying
  rcases hx with h | h | h
  · rw [hattached] at h
    exact Bool.noConfusion h
  · exact h p hstate hphase
  · rw [hblocked] at h
    exact Bool.noConfusion h.1

/-- **Step lemma.**  A quiet task keeps a member's controller grounded and starts
    nothing. -/
theorem step_grounded {settles : Bool} {s : SyncController} {l : BrowserEnv × Task}
    (hmember : s.isHost = false) (hs : s.stance.Grounded settles) (hquiet : l.2.isQuiet = true)
    (hsettles : settles = false → ∀ ok, l.2 ≠ .playSettled ok) :
    (s.step l).isHost = false ∧ (s.step l).stance.Grounded settles ∧
      (s.step l).stance.starts = [] := by
  have hturn := stanceTurn_step s l
  have hhost : (s.step l).isHost = (s.step l).stance.isHost := rfl
  rw [hhost]
  generalize (s.step l).stance = x at hturn
  generalize htask : l.2 = task at hturn hquiet hsettles
  have hstarted : ∀ y : Stance, y.isHost = false → y.starts = [] → y.Grounded settles →
      (∃ p, y.state = some p ∧ p.phase = .playing) →
      (y.start l.1.serverNow).isHost = false ∧ (y.start l.1.serverNow).Grounded settles ∧
        (y.start l.1.serverNow).starts = [] := by
    intro y hy hnone hground hplaying
    rw [Stance.start_of_not_free (not_free_of_grounded hground hplaying)]
    exact ⟨hy, hground, hnone⟩
  cases hturn with
  | kept task => exact ⟨hmember, hs, rfl⟩
  | attached x h => exact Bool.noConfusion hquiet
  | destroyed => exact ⟨hmember, Or.inl rfl, rfl⟩
  | updated next force x haccept h => exact Bool.noConfusion hquiet
  | hostSet value x h => exact Bool.noConfusion hquiet
  | realigned x h => exact Bool.noConfusion hquiet
  | resumed => exact Bool.noConfusion hquiet
  | userPlayed hhost =>
      have hhost : s.isHost = true := hhost
      rw [hmember] at hhost
      exact Bool.noConfusion hhost
  | userPaused => exact ⟨hmember, hs, rfl⟩
  | ticked task htask hontime =>
      obtain ⟨p, hstate, hplaying, -⟩ := hontime
      exact hstarted _ hmember rfl hs ⟨p, hstate, hplaying⟩
  | pauseAnswered hmember' hbuffering hplaying =>
      exact hstarted _ hmember rfl hs (inPhase_iff.mp hplaying)
  | timerFired due htimer hdue => exact ⟨hmember, hs, rfl⟩
  | timerStarted due htimer hdue hplaying =>
      refine hstarted _ hmember rfl ?_ (inPhase_iff.mp hplaying)
      exact hs
  | confirmed => exact ⟨hmember, hs, rfl⟩
  | recoveryWaits => exact ⟨hmember, hs, rfl⟩
  | recovered => exact ⟨hmember, hs, rfl⟩
  | recoveryStarted hrecovers hplaying =>
      refine hstarted _ hmember rfl ?_ (inPhase_iff.mp hplaying)
      exact hs
  | settled ok hplays =>
      refine ⟨hmember, ?_, rfl⟩
      rcases hs with h | h | ⟨hblocked, hnone⟩
      · exact Or.inl h
      · exact Or.inr (Or.inl h)
      · -- no promise is open, so none is settled
        cases settles with
        | true => exact absurd (hnone rfl) hplays
        | false => exact absurd rfl (hsettles rfl ok)
  | readyRefused id => exact ⟨hmember, hs, rfl⟩

-- ============================================================================
-- What starts it again
-- ============================================================================

theorem play_mem_of_start {s s' : SyncController} {x : Stance} {env : BrowserEnv}
    (hstance : s'.stance = x.start env.serverNow) (hfree : x.Free) (hstate : x.state = s.state) :
    Act.play s.state env.serverNow ∈ s'.acts := by
  rw [mem_acts_of_starts, hstance, Stance.start_of_free hfree, hstate]
  exact List.mem_append_right _ (List.mem_singleton_self _)

theorem stance_nativePause {env : BrowserEnv} {s : SyncController} (hmember : s.isHost = false)
    (happlying : s.applyingRemoteState = false) (hbuffering : s.confirmedBuffering = false)
    (hplaying : s.inPhase .playing = true) :
    (s.nativePause env).stance = s.stance.start env.serverNow := by
  rw [nativePause, if_pos ⟨hmember, happlying, hbuffering, hplaying⟩, stance_tryPlay]

/-- A member that is free to play answers a pause event with a start. -/
theorem pause_restarts {s : SyncController} (env : BrowserEnv) (hmember : s.isHost = false)
    (happlying : s.applyingRemoteState = false) (hfree : s.stance.Free)
    (hplaying : s.inPhase .playing = true) :
    Act.play s.state env.serverNow ∈ (s.step (env, .event .pause)).acts := by
  let s₀ : SyncController := { s with acts := [] }
  have hperform : s₀.perform env (.event .pause) = s₀.nativePause env := if_pos hfree.1
  have hstart : (s.step (env, .event .pause)).stance = s₀.stance.start env.serverNow := by
    show (s₀.perform env (.event .pause)).stance = _
    rw [hperform]
    exact stance_nativePause hmember happlying hfree.2.2 hplaying
  exact play_mem_of_start hstart hfree rfl

theorem stance_recover {env : BrowserEnv} {s : SyncController} {p : PlaybackState}
    (hstate : s.state = some p) (hplaying : p.phase = .playing) (hmember : s.isHost = false)
    (hattached : s.attached = true) (hsuspected : s.bufferSuspected = false)
    (hready : haveFutureData ≤ env.video.readyState) :
    (s.recover env).stance
      = { s.stance with confirmedBuffering := false }.start env.serverNow := by
  have hgo : ¬(s.attached = false ∨ s.bufferSuspected = true ∨
      env.video.readyState < haveFutureData) := by
    simp [hattached, hsuspected, hready]
  have hhost : ¬(s.isHost = true ∧ s.hostBufferingReported = true ∧ p.phase ≠ .buffering) := by
    simp [hmember]
  rw [recover]
  dsimp only
  rw [hstate]
  dsimp only
  rw [if_neg hgo, if_neg hhost, if_pos hplaying, stance_tryPlay, stance_emitStatus,
    stance_reportRecovery]
  rfl

/-- A buffering member that is otherwise free starts once its data has been there for a
    while. -/
theorem recovery_restarts {s : SyncController} (env env' : BrowserEnv)
    (hmember : s.isHost = false) (hattached : s.attached = true)
    (hblocked : s.autoplayBlocked = false) (hbuffering : s.confirmedBuffering = true)
    (hplaying : s.inPhase .playing = true) (hready : haveFutureData ≤ env'.video.readyState)
    (hdue : env.due bufferRecoveryStableMs ≤ env'.now) :
    Act.play s.state env'.serverNow ∈
      ((s.step (env, .event .canplay)).step (env', .recoveryTimer)).acts := by
  obtain ⟨p, hstate, hphase⟩ := inPhase_iff.mp hplaying
  let s₁ : SyncController := { s with
    acts := [], bufferConfirmTimer := none, bufferSuspected := false,
    recoveryTimer := some (env.due bufferRecoveryStableMs), applyingRemoteState := false }
  have hcanplay : s.step (env, .event .canplay) = s₁ := by
    simp [step, perform, hattached, dispatch, canPlay, hbuffering, scheduleRecovery, s₁]
  have hfire : s₁.perform env' .recoveryTimer = s₁.recover env' := if_pos (by simpa [s₁] using hdue)
  have hstart : (s₁.step (env', .recoveryTimer)).stance
      = { s₁.stance with confirmedBuffering := false }.start env'.serverNow := by
    show (s₁.perform env' .recoveryTimer).stance = _
    rw [hfire]
    exact stance_recover hstate hphase hmember hattached rfl hready
  rw [hcanplay]
  exact play_mem_of_start hstart ⟨hattached, hblocked, rfl⟩ rfl

-- ============================================================================
-- Suspension
-- ============================================================================

/-- No time passes backwards between the tasks. -/
def Chronological (ls : List (BrowserEnv × Task)) : Prop :=
  ls.Pairwise (fun l l' => l.1.now ≤ l'.1.now)

instance (ls : List (BrowserEnv × Task)) : Decidable (Chronological ls) :=
  inferInstanceAs (Decidable (List.Pairwise _ ls))

/-- The task calls `video.play()`. -/
def Plays (s : SyncController) (l : BrowserEnv × Task) : Prop :=
  ∃ current t, Act.play current t ∈ (s.step l).acts

/-- However the browser goes on after `suspend` with tasks that are `allowed`, none of them
    calls `video.play()`. -/
def StaysPaused (allowed : Task → Bool) (s : SyncController) : Prop :=
  ∀ env ls, Chronological ((env, .suspend) :: ls) → (∀ l ∈ ls, allowed l.2 = true) →
    EachStep step (fun s l => ¬s.Plays l) (s.step (env, .suspend)) ls

theorem staysPaused_of_grounded {settles : Bool} {allowed : Task → Bool} {s : SyncController}
    (hquiet : ∀ task, allowed task = true → task.isQuiet = true)
    (hsettles : settles = false → ∀ ok, allowed (.playSettled ok) = false)
    (hmember : s.isHost = false) (hs : s.stance.Grounded settles) : s.StaysPaused allowed := by
  intro env ls _ hallowed
  have hsteps : EachStep step (fun _ l => allowed l.2 = true) (s.step (env, .suspend)) ls := by
    intro pre l post hls
    refine hallowed l ?_
    rw [hls]
    exact List.mem_append_right pre (List.mem_cons_self ..)
  have hstep : ∀ (s : SyncController) (l : BrowserEnv × Task),
      s.isHost = false ∧ s.stance.Grounded settles → allowed l.2 = true →
      (s.step l).isHost = false ∧ (s.step l).stance.Grounded settles ∧
        (s.step l).stance.starts = [] := by
    intro s l hs hl
    refine step_grounded hs.1 hs.2 (hquiet l.2 hl) ?_
    intro hfalse ok htask
    rw [htask, hsettles hfalse ok] at hl
    exact Bool.noConfusion hl
  have hkeep : ∀ (s : SyncController) (l : BrowserEnv × Task),
      s.isHost = false ∧ s.stance.Grounded settles → allowed l.2 = true →
      (s.step l).isHost = false ∧ (s.step l).stance.Grounded settles := fun s l hs hl =>
    ⟨(hstep s l hs hl).1, (hstep s l hs hl).2.1⟩
  have hsuspended : (s.step (env, .suspend)).isHost = false ∧
      (s.step (env, .suspend)).stance.Grounded settles := by
    obtain ⟨hhost, hground, -⟩ := step_grounded hmember hs (l := (env, .suspend)) rfl (by simp)
    exact ⟨hhost, hground⟩
  refine eachStep_of_invariant hkeep ?_ hsuspended hsteps
  rintro s l hs hl ⟨current, t, hplay⟩
  rw [mem_acts_of_starts, (hstep s l hs hl).2.2] at hplay
  exact absurd hplay List.not_mem_nil

/-- A task that plays, after `pre`, breaks the silence. -/
theorem not_staysPaused {allowed : Task → Bool} {s : SyncController} (env : BrowserEnv)
    (pre : List (BrowserEnv × Task)) (l : BrowserEnv × Task)
    (hchron : Chronological ((env, .suspend) :: (pre ++ [l])))
    (hallowed : ∀ l' ∈ pre ++ [l], allowed l'.2 = true)
    (hplay : (run step (s.step (env, .suspend)) pre).Plays l) : ¬s.StaysPaused allowed := by
  intro h
  exact h env (pre ++ [l]) hchron hallowed pre l [] rfl hplay

/-- A suspended member that is free, but for buffering, starts again on its own. -/
theorem exists_restart {s : SyncController} (hmember : s.isHost = false)
    (happlying : s.applyingRemoteState = false) (hattached : s.attached = true)
    (hblocked : s.autoplayBlocked = false) (hplaying : s.inPhase .playing = true) :
    ∃ pre l, Chronological ((playerAt 0 true, .suspend) :: (pre ++ [l])) ∧
      (∀ l' ∈ pre ++ [l], l'.2.isLocal = true) ∧ (run step s pre).Plays l := by
  cases hbuffering : s.confirmedBuffering with
  | false =>
      have hplay := pause_restarts (playerAt 0 true) hmember happlying
        ⟨hattached, hblocked, hbuffering⟩ hplaying
      exact ⟨[], (playerAt 0 true, .event .pause), by decide +kernel, by decide +kernel, _, _, hplay⟩
  | true =>
      have hplay := recovery_restarts (playerAt 0 true) (playerAt 600 true) hmember hattached hblocked
        hbuffering hplaying (by decide) (by decide +kernel)
      exact ⟨[(playerAt 0 true, .event .canplay)], (playerAt 600 true, .recoveryTimer), by decide +kernel,
        by decide +kernel, _, _, hplay⟩

theorem suspend_stance (s : SyncController) (env : BrowserEnv) :
    (s.step (env, .suspend)).stance = { s.stance with starts := [] } :=
  stance_suspend { s with acts := [] }

/-- The fulfilled promise of an earlier start lifts the block. -/
theorem settled_stance {s : SyncController} (env : BrowserEnv) (hplays : s.plays ≠ 0) :
    (s.step (env, .playSettled true)).stance
      = { s.stance with plays := s.plays - 1, autoplayBlocked := false, starts := [] } := by
  let s₀ : SyncController := { s with acts := [] }
  have hsettled : s₀.playSettled true
      = { s₀ with plays := s₀.plays - 1, autoplayBlocked := false } := if_neg hplays
  show (s₀.playSettled true).stance = _
  rw [hsettled]
  rfl

theorem inPhase_of_stance {s : SyncController} {x : Stance} {phase : Phase} (h : s.stance = x) :
    s.inPhase phase = x.state.any (fun p => decide (p.phase = phase)) := by
  rw [← h]
  rfl

/-- A member in a playing room that nothing blocks is started by a local task. -/
theorem free_starts {s : SyncController} (hmember : s.isHost = false) (hattached : s.attached = true)
    (hplaying : s.inPhase .playing = true) (hblocked : s.autoplayBlocked = false) :
    ¬s.StaysPaused Task.isLocal := by
  have hs₁ := suspend_stance s (playerAt 0 true)
  obtain ⟨pre, l, hchron, hallowed, hplay⟩ := exists_restart
    (s := s.step (playerAt 0 true, .suspend))
    ((congrArg Stance.isHost hs₁).trans hmember) rfl
    ((congrArg Stance.attached hs₁).trans hattached)
    ((congrArg Stance.autoplayBlocked hs₁).trans hblocked)
    ((inPhase_of_stance hs₁).trans hplaying)
  exact not_staysPaused (playerAt 0 true) pre l hchron hallowed hplay

/-- A blocked member with an open promise is started once the promise is fulfilled. -/
theorem open_promise_starts {s : SyncController} (hmember : s.isHost = false)
    (hattached : s.attached = true) (hplaying : s.inPhase .playing = true)
    (hplays : s.plays ≠ 0) : ¬s.StaysPaused Task.isQuiet := by
  have hs₁ := suspend_stance s (playerAt 0 true)
  generalize hs₁' : s.step (playerAt 0 true, .suspend) = s₁ at hs₁
  have hplays₁ : s₁.plays ≠ 0 := by
    have h : s₁.plays = s.plays := congrArg Stance.plays hs₁
    rw [h]
    exact hplays
  have hs₂ := settled_stance (playerAt 0 true) hplays₁
  rw [hs₁] at hs₂
  obtain ⟨pre, l, hchron, hallowed, hplay⟩ := exists_restart
    (s := s₁.step (playerAt 0 true, .playSettled true))
    ((congrArg Stance.isHost hs₂).trans hmember) rfl
    ((congrArg Stance.attached hs₂).trans hattached)
    (congrArg Stance.autoplayBlocked hs₂)
    ((inPhase_of_stance hs₂).trans hplaying)
  refine not_staysPaused (playerAt 0 true) ((playerAt 0 true, .playSettled true) :: pre) l ?_ ?_ ?_
  · obtain ⟨hfirst, hrest⟩ := List.pairwise_cons.mp hchron
    refine List.pairwise_cons.mpr ⟨?_, List.pairwise_cons.mpr ⟨hfirst, hrest⟩⟩
    intro l' hl'
    rcases List.mem_cons.mp hl' with rfl | hl'
    · exact le_refl _
    · exact hfirst l' hl'
  · intro l' hl'
    rcases List.mem_cons.mp hl' with rfl | hl'
    · rfl
    · exact isQuiet_of_isLocal (hallowed l' hl')
  · rw [hs₁']
    exact hplay

/-- **Suspension holds exactly where the member could not start anyway.**  Through ticks,
    media events and timers: without a player, outside a playing room, or with autoplay
    blocked.  Through every other quiet task too: with autoplay blocked, only if no
    promise of an earlier start is open. -/
theorem suspension_holds_iff (s : SyncController) (hmember : s.isHost = false) :
    (s.StaysPaused Task.isLocal ↔
      s.attached = false ∨ s.inPhase .playing = false ∨ s.autoplayBlocked = true) ∧
    (s.StaysPaused Task.isQuiet ↔
      s.attached = false ∨ s.inPhase .playing = false ∨
        (s.autoplayBlocked = true ∧ s.plays = 0)) := by
  have hstill : s.inPhase .playing = false → ∀ p, s.state = some p → p.phase ≠ .playing := by
    intro hphase p hstate hplaying
    rw [inPhase, hstate] at hphase
    simp [hplaying] at hphase
  constructor
  · constructor
    · intro h
      by_contra hcond
      simp only [not_or, Bool.not_eq_false, Bool.not_eq_true] at hcond
      exact free_starts hmember hcond.1 hcond.2.1 hcond.2.2 h
    · intro h
      have hground : s.stance.Grounded false := by
        rcases h with h | h | h
        · exact Or.inl h
        · exact Or.inr (Or.inl (hstill h))
        · exact Or.inr (Or.inr ⟨h, fun hfalse => Bool.noConfusion hfalse⟩)
      exact staysPaused_of_grounded (fun _ => isQuiet_of_isLocal) (fun _ _ => rfl) hmember hground
  · constructor
    · intro h
      by_contra hcond
      simp only [not_or, Bool.not_eq_false, not_and] at hcond
      obtain ⟨hattached, hplaying, hplays⟩ := hcond
      cases hblocked : s.autoplayBlocked with
      | false =>
          refine free_starts hmember hattached hplaying hblocked ?_
          intro env ls hchron hallowed
          exact h env ls hchron (fun l hl => isQuiet_of_isLocal (hallowed l hl))
      | true => exact open_promise_starts hmember hattached hplaying (hplays hblocked) h
    · intro h
      have hground : s.stance.Grounded true := by
        rcases h with h | h | h
        · exact Or.inl h
        · exact Or.inr (Or.inl (hstill h))
        · exact Or.inr (Or.inr ⟨h.1, fun _ => h.2⟩)
      exact staysPaused_of_grounded (fun _ h => h) (by simp) hmember hground

/-! ## A member that goes on without the room -/

/-- A member in a room that plays. -/
def joinedPlaying : List (BrowserEnv × Task) :=
  [(playerAt 0 true, .attach),
   (playerAt 0 true, .setRoomState ⟨"film", 1, 0, .playing, 0, 0, 1, 0, none⟩ true)]

/-- Its own pause event starts the suspended element again. -/
theorem joinedPlaying_resumes :
    (run step (create false) joinedPlaying).isHost = false ∧
      ¬(run step (create false) joinedPlaying).StaysPaused Task.isLocal := by
  refine ⟨by decide +kernel, ?_⟩
  intro h
  refine h (playerAt 0 true) [(playerAt 0 true, .event .pause)] (by decide +kernel) (by decide) []
    (playerAt 0 true, .event .pause) [] rfl ?_
  have hplay : Act.play (some ⟨"film", 1, 0, .playing, 0, 0, 1, 0, none⟩) 0 ∈
      (run step (create false)
        (joinedPlaying ++ [(playerAt 0 true, .suspend), (playerAt 0 true, .event .pause)])).acts := by
    decide +kernel
  exact ⟨_, _, hplay⟩

/-- The same member in a paused room. -/
theorem suspension_holds_paused :
    (run step (create false)
      [(playerAt 0 true, .attach),
       (playerAt 0 true, .setRoomState ⟨"film", 1, 0, .paused, 0, 0, 1, 0, none⟩ true)]).StaysPaused
      Task.isQuiet :=
  (suspension_holds_iff _ (by decide +kernel)).2.mpr (Or.inr (Or.inl (by decide +kernel)))

end SyncController

end WatchTogether.Web

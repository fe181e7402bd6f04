/-
  WatchTogether.Web.Schedule

  A client starts its element when the room's anchor is reached, and only while the
  room is playing.  The invariant is about the pending start: it is due no earlier
  than the anchor of the state it belongs to.  Four kinds of step get ahead of the
  anchor; in a run without them every start is on schedule.
-/

import Mathlib.Tactic.Linarith
import WatchTogether.Lib.LabelledRun
import WatchTogether.Web.Starts

namespace WatchTogether.Web

open Rooms LabelledRun

-- ============================================================================
-- The invariant
-- ============================================================================

/-- The pending start is due, but for 20 ms, no earlier than the anchor of the current
    state.  `offset` is the offset of the server's clock. -/
structure Timed (offset : ℚ) (x : Stance) : Prop where
  detached : x.attached = false → x.playTimer = none
  ahead : ∀ due p, x.playTimer = some due → x.state = some p → p.phase = .playing →
    ms p.anchorServerTimeMs ≤ due + offset + 20

/-- Every start of the task happened in a playing room whose anchor was reached. -/
def Stance.OnSchedule (x : Stance) : Prop :=
  ∀ current t, Act.play current t ∈ x.starts →
    ∃ p, current = some p ∧ p.phase = .playing ∧ ms p.anchorServerTimeMs ≤ t + 20

theorem timed_of_no_timer {offset : ℚ} {x : Stance} (h : x.playTimer = none) :
    Timed offset x := by
  refine ⟨fun _ => h, ?_⟩
  intro due p htimer
  rw [h] at htimer
  exact absurd htimer (by simp)

/-- A step that leaves the pending start and its state alone. -/
theorem Timed.frame {offset : ℚ} {x x' : Stance} (hx : Timed offset x)
    (hstate : x'.state = x.state) (hattached : x'.attached = x.attached)
    (htimer : x'.playTimer = x.playTimer) : Timed offset x' := by
  refine ⟨?_, ?_⟩
  · rw [hattached, htimer]
    exact hx.detached
  · rw [hstate, htimer]
    exact hx.ahead

/-- `setTimeout` drops the fraction of the delay, so a start is due at most one
    millisecond before the anchor it was scheduled for. -/
theorem anchor_le_due (env : BrowserEnv) (anchor : ℚ) :
    anchor ≤ env.due (max 0 (anchor - env.serverNow)) + env.offset + 20 := by
  have hdelay : anchor - env.serverNow ≤ max 0 (anchor - env.serverNow) := le_max_right _ _
  have hfloor := Int.sub_one_lt_floor (max 0 (anchor - env.serverNow))
  have hnow : env.serverNow = env.now + env.offset := rfl
  have hdue : env.due (max 0 (anchor - env.serverNow))
      = env.now + ⌊max 0 (anchor - env.serverNow)⌋ := rfl
  rw [hdue]
  linarith

/-- `apply` leaves a start behind that is due in time, or the one it found. -/
theorem Timed.applied {env : BrowserEnv} {previous : Option PlaybackState} {force : Bool}
    {x x' : Stance} (hdetached : x.attached = false → x.playTimer = none)
    (hahead : ∀ due p q, x.playTimer = some due → x.state = some p → p.phase = .playing →
      previous = some q → q.phase = .playing → force = false → x.attached = true →
      isTimelineJump previous p = false → ms p.anchorServerTimeMs ≤ due + env.offset + 20)
    (h : Applied env previous force x x') : Timed env.offset x' := by
  cases h with
  | ignored h =>
      refine ⟨hdetached, ?_⟩
      intro due p htimer hstate
      rcases h with h | h
      · rw [h] at hstate
        exact absurd hstate (by simp)
      · rw [hdetached h] at htimer
        exact absurd htimer (by simp)
  | scheduled p hstate hattached hplaying =>
      refine ⟨fun h => ?_, ?_⟩
      · rw [hattached] at h
        exact Bool.noConfusion h
      · intro due p' htimer hstate' _
        have hp : p' = p := Option.some.inj (hstate'.symm.trans hstate)
        rw [← Option.some.inj htimer, hp]
        exact anchor_le_due env _
  | continued p q hstate hattached hplaying hprevious hphase hforce hjump =>
      refine ⟨hdetached, ?_⟩
      intro due p' htimer hstate' _
      have hp : p' = p := Option.some.inj (hstate'.symm.trans hstate)
      rw [hp]
      exact hahead due p q htimer hstate hplaying hprevious hphase hforce hattached hjump
  | stopped p hstate hattached hstopped => exact timed_of_no_timer rfl

theorem Applied.starts {env : BrowserEnv} {previous : Option PlaybackState} {force : Bool}
    {x x' : Stance} (h : Applied env previous force x x') : x'.starts = x.starts := by
  cases h <;> rfl

/-- A start in a playing room whose anchor is reached. -/
theorem onSchedule_start {env : BrowserEnv} {x : Stance} (hx : x.starts = [])
    (h : x.Free → SyncController.OnTime env x.state) : (x.start env.serverNow).OnSchedule := by
  intro current t hin
  rcases Stance.mem_start hin with hin | ⟨hfree, heq⟩
  · rw [hx] at hin
    exact absurd hin List.not_mem_nil
  · obtain ⟨hcurrent, ht⟩ := Act.play.inj heq
    rw [hcurrent, ht]
    exact h hfree

theorem onSchedule_of_empty {x : Stance} (hx : x.starts = []) : x.OnSchedule := by
  intro current t hin
  rw [hx] at hin
  exact absurd hin List.not_mem_nil

-- ============================================================================
-- Getting ahead of the anchor
-- ============================================================================

namespace SyncController

/-- The task gets ahead of the anchor, or may do so later:

    * a click on the resume button, whatever the room does;
    * a pause event that finds a member in a playing room before its anchor;
    * a recovery before the anchor;
    * a playing room's new anchor behind which the pending start is already due. -/
def Premature (s : SyncController) (l : BrowserEnv × Task) : Prop :=
  match l.2 with
  | .resumeLocal =>
      s.attached = true ∧ s.confirmedBuffering = false ∧ ¬OnTime l.1 s.state
  | .event .pause =>
      s.attached = true ∧ s.isHost = false ∧ s.autoplayBlocked = false ∧
        s.confirmedBuffering = false ∧ s.inPhase .playing = true ∧ ¬OnTime l.1 s.state
  | .recoveryTimer =>
      s.autoplayBlocked = false ∧ s.Recovers l.1 ∧ s.inPhase .playing = true ∧
        ¬OnTime l.1 s.state
  | .setRoomState next force =>
      force = false ∧ s.lastRevision < next.revision ∧ s.attached = true ∧
        s.inPhase .playing = true ∧ next.phase = .playing ∧
        isTimelineJump s.state next = false ∧
        ∃ due, s.playTimer = some due ∧ due + l.1.offset + 20 < ms next.anchorServerTimeMs
  | _ => False

/-- **Step lemma.**  A task that does not get ahead starts the element on schedule and
    keeps the pending start behind its anchor. -/
theorem step_onSchedule {s : SyncController} {l : BrowserEnv × Task}
    (hs : Timed l.1.offset s.stance) (hok : ¬s.Premature l) :
    Timed l.1.offset (s.step l).stance ∧ (s.step l).stance.OnSchedule := by
  obtain ⟨env, task⟩ := l
  have hturn := stanceTurn_step s (env, task)
  have hs₀ : Timed env.offset ({ s with acts := [] } : SyncController).stance :=
    hs.frame rfl rfl rfl
  have hnone : ({ s with acts := [] } : SyncController).stance.starts = [] := rfl
  generalize (s.step (env, task)).stance = x at hturn
  -- a forced application reschedules, so nothing carries over
  have hforced : ∀ {y x : Stance}, (y.attached = false → y.playTimer = none) → y.starts = [] →
      Applied env none true y x → Timed env.offset x ∧ x.OnSchedule := by
    intro y x hdetached hstarts h
    refine ⟨Timed.applied hdetached ?_ h, onSchedule_of_empty (h.starts.trans hstarts)⟩
    intro due p q _ _ _ hprevious
    exact absurd hprevious (by simp)
  have hstarted : ∀ {y : Stance}, y.starts = [] → Timed env.offset y →
      (y.Free → OnTime env y.state) →
      Timed env.offset (y.start env.serverNow) ∧ (y.start env.serverNow).OnSchedule := by
    intro y hstarts hy hontime
    exact ⟨hy.frame (by simp) (by simp) (by simp), onSchedule_start hstarts hontime⟩
  cases hturn with
  | kept task => exact ⟨hs₀, onSchedule_of_empty hnone⟩
  | attached x h =>
      refine hforced ?_ ?_ h
      · intro hdetached
        exact Bool.noConfusion hdetached
      · rfl
  | destroyed => exact ⟨timed_of_no_timer rfl, onSchedule_of_empty hnone⟩
  | updated next force x haccept h =>
      refine ⟨Timed.applied ?_ ?_ h, onSchedule_of_empty (h.starts.trans hnone)⟩
      · exact hs.detached
      intro due p q htimer hstate hplaying hprevious hphase hforce hattached hjump
      obtain rfl : next = p := Option.some.inj hstate
      by_contra hlate
      have hrevision : s.lastRevision < next.revision := by simpa [hforce] using haccept
      refine hok ⟨hforce, hrevision, hattached, ?_, hplaying, hjump, due, htimer, not_le.mp hlate⟩
      have hprevious : s.state = some q := hprevious
      rw [inPhase, hprevious]
      simp [hphase]
  | hostSet value x h =>
      refine hforced ?_ ?_ h
      · exact hs.detached
      · rfl
  | realigned x h =>
      refine hforced ?_ ?_ h
      · exact hs.detached
      · rfl
  | resumed =>
      refine hstarted ?_ ?_ ?_
      · rfl
      · exact hs.frame rfl rfl rfl
      · intro hfree
        by_contra hearly
        exact hok ⟨hfree.1, hfree.2.2, hearly⟩
  | userPlayed hhost => exact ⟨hs.frame rfl rfl rfl, onSchedule_of_empty hnone⟩
  | userPaused => exact ⟨timed_of_no_timer rfl, onSchedule_of_empty hnone⟩
  | ticked task htask hontime => exact hstarted hnone hs₀ (fun _ => hontime)
  | pauseAnswered hmember hbuffering hplaying =>
      refine hstarted hnone hs₀ ?_
      intro hfree
      by_contra hearly
      exact hok ⟨hfree.1, hmember, hfree.2.1, hbuffering, hplaying, hearly⟩
  | timerFired due htimer hdue => exact ⟨timed_of_no_timer rfl, onSchedule_of_empty hnone⟩
  | timerStarted due htimer hdue hplaying =>
      refine hstarted ?_ (timed_of_no_timer rfl) ?_
      · rfl
      · intro _
        obtain ⟨p, hstate, hphase⟩ := (Option.any_eq_true _ _).mp hplaying
        have hphase : p.phase = .playing := by simpa using hphase
        have hanchor := hs.ahead due p htimer hstate hphase
        refine ⟨p, hstate, hphase, ?_⟩
        have hnow : env.serverNow = env.now + env.offset := rfl
        have hdue : due ≤ env.now := hdue
        linarith
  | confirmed => exact ⟨hs.frame rfl rfl rfl, onSchedule_of_empty hnone⟩
  | recoveryWaits => exact ⟨hs.frame rfl rfl rfl, onSchedule_of_empty hnone⟩
  | recovered => exact ⟨hs.frame rfl rfl rfl, onSchedule_of_empty hnone⟩
  | recoveryStarted hrecovers hplaying =>
      refine hstarted ?_ ?_ ?_
      · rfl
      · exact hs.frame rfl rfl rfl
      · intro hfree
        by_contra hearly
        exact hok ⟨hfree.2.1, hrecovers, hplaying, hearly⟩
  | settled ok hplays => exact ⟨hs.frame rfl rfl rfl, onSchedule_of_empty hnone⟩
  | readyRefused id => exact ⟨hs.frame rfl rfl rfl, onSchedule_of_empty hnone⟩

/-- Every call of `video.play()` that the task made happened in a playing room whose anchor
    was reached. -/
def OnSchedule (s : SyncController) : Prop :=
  ∀ current t, Act.play current t ∈ s.acts →
    ∃ p, current = some p ∧ p.phase = .playing ∧ ms p.anchorServerTimeMs ≤ t + 20

theorem onSchedule_of_stance {s : SyncController} (h : s.stance.OnSchedule) : s.OnSchedule :=
  fun current t hin => h current t (mem_acts_of_starts.mp hin)

/-- **The element is started on schedule.**  In every run whose tasks do not get ahead of
    the anchor, with a clock offset that stands still, every call of `video.play()` happens
    in a playing room and no earlier than 20 ms before the anchor. -/
theorem plays_on_schedule (isHost : Bool) (offset : ℚ) (ls : List (BrowserEnv × Task))
    (hclock : ∀ l ∈ ls, l.1.offset = offset)
    (hok : EachStep step (fun s l => ¬s.Premature l) (create isHost) ls) :
    EachStep step (fun s l => (s.step l).OnSchedule) (create isHost) ls := by
  have hsteps : EachStep step (fun s l => l.1.offset = offset ∧ ¬s.Premature l)
      (create isHost) ls := by
    intro pre l post hls
    refine ⟨hclock l ?_, hok pre l post hls⟩
    rw [hls]
    exact List.mem_append_right pre (List.mem_cons_self ..)
  have hstep : ∀ (s : SyncController) l, Timed offset s.stance →
      l.1.offset = offset ∧ ¬s.Premature l →
      Timed offset (s.step l).stance ∧ (s.step l).stance.OnSchedule := by
    rintro s l hs ⟨rfl, hl⟩
    exact step_onSchedule hs hl
  exact eachStep_of_invariant (fun s l hs hl => (hstep s l hs hl).1)
    (fun s l hs hl => onSchedule_of_stance (hstep s l hs hl).2) (timed_of_no_timer rfl) hsteps

/-! ## A member that resumes ahead of a seek -/

/-- The room plays from `positionMs` at the server time `anchor`. -/
def playingFrom (revision : Nat) (positionMs anchor : Int64) : PlaybackState :=
  ⟨"film", revision, revision, .playing, positionMs, anchor, 1, 0, none⟩

/-- The host seeks a playing room.  The member pauses until the new anchor at 2350 and is
    told, by its own pause event, to play at once. -/
def seekedAway : List (BrowserEnv × Task) :=
  [(playerAt 1000 true, .attach),
   (playerAt 1000 true, .setRoomState (playingFrom 1 0 1000) true),
   (playerAt 1000 true, .playTimer),
   (playerAt 2000 false, .setRoomState (playingFrom 2 60000 2350) false),
   (playerAt 2001 true, .event .pause)]

theorem seekedAway_early :
    ¬EachStep step (fun s l => (s.step l).OnSchedule) (create false) seekedAway := by
  intro h
  have hearly : Act.play (some (playingFrom 2 60000 2350)) 2001 ∈
      (run step (create false) seekedAway).acts := by decide +kernel
  obtain ⟨p, hp, -, hanchor⟩ :=
    h (seekedAway.take 4) (playerAt 2001 true, .event .pause) [] rfl _ _ hearly
  rw [← Option.some.inj hp] at hanchor
  exact absurd hanchor (by decide +kernel)

/-- The same member, had the pause event not come. -/
theorem plays_on_schedule_seeked :
    EachStep step (fun s l => (s.step l).OnSchedule) (create false)
      [(playerAt 1000 true, .attach),
       (playerAt 1000 true, .setRoomState (playingFrom 1 60000 1350) true),
       (playerAt 1350 true, .playTimer)] := by
  refine plays_on_schedule false 0 _ (by decide +kernel) ?_
  simp only [eachStep_cons]
  refine ⟨id, ?_, id, eachStep_nil _ _⟩
  rintro ⟨hforce, -⟩
  exact Bool.noConfusion hforce

end SyncController

end WatchTogether.Web

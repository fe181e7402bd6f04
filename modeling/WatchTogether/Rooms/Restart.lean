/-
  WatchTogether.Rooms.Restart

  A checkpoint and the actor that is built from it: what a restart of the server does to
  the timeline.

  `persistCheckpoint` clamps the position only while the room plays.  Outside of `playing`
  it stores the anchor as it is, up to a second beyond the duration, and the next actor
  does not know the duration: the position moves.
-/

import WatchTogether.Rooms.CrashPoints
import WatchTogether.Rooms.TimelineLaw

namespace WatchTogether.Rooms

variable {σ : Type}

/-- The timeline after a restart: it stands, with the same film and rate, where it was at
    the checkpoint, for ever. -/
structure SameTimeline (s s' : PlaybackState) (t : Int64) : Prop where
  phase : s'.phase = .paused
  mediaID : s'.mediaID = s.mediaID
  rate : s'.playbackRate = s.playbackRate
  position : ∀ t', t ≤ t' → s'.expected t' = s.expected t

/-- The timeline stands beyond the known duration. -/
def StandsBeyond (s : PlaybackState) : Prop :=
  s.phase ≠ .playing ∧ 0 < s.durationMs ∧ s.durationMs < s.anchorPositionMs

/-- The actor built from the checkpoint of `s` stands at the stored position. -/
theorem expected_restarted (s : Core) (env : Env) (k : Nat) (room : Room) (store : σ)
    (grace : Nat) (t : Int64) :
    (newActor room (some (s.checkpoint env k)) store grace).playback.expected t =
      clampPosition 0 (s.checkpoint env k).positionMs :=
  PlaybackState.expected_of_not_playing (fun h => Phase.noConfusion h) t

/-- An unknown duration does not bound. -/
theorem clampPosition_zero (p : Int64) : clampPosition 0 p = if p < 0 then 0 else p := by
  have hunknown : ¬ ((0 : Int64) < 0 ∧ 0 < p) := fun h => Int64.lt_irrefl h.1
  rw [clampPosition, if_neg hunknown]

theorem clampPosition_expected (s : PlaybackState) (now : Int64) :
    clampPosition 0 (s.expected now) = s.expected now := by
  have hnonneg := s.expected_nonneg now
  rw [clampPosition_zero, if_neg]
  rw [Int64.lt_iff_toInt_lt, int64_toInt_zero]
  omega

/-- Without the duration a standing position is the same, unless it was beyond it. -/
theorem clampPosition_zero_iff (d p : Int64) :
    clampPosition 0 p = clampPosition d p ↔ ¬ (0 < d ∧ d < p) := by
  rw [clampPosition_zero, clampPosition]
  by_cases hneg : p < 0
  · rw [if_pos hneg, if_pos hneg]
    exact ⟨fun _ h => Int64.lt_irrefl (Int64.lt_trans hneg (Int64.lt_trans h.1 h.2)), fun _ => rfl⟩
  · rw [if_neg hneg, if_neg hneg]
    by_cases hbeyond : 0 < d ∧ d < p
    · rw [if_pos hbeyond]
      constructor
      · intro heq
        rw [heq] at hbeyond
        exact absurd hbeyond.2 Int64.lt_irrefl
      · exact fun h => absurd hbeyond h
    · rw [if_neg hbeyond]
      exact ⟨fun _ => hbeyond, fun _ => rfl⟩

/-- A checkpoint keeps the position, unless the timeline stands beyond the duration. -/
theorem position_restarted_iff (s : Core) (env : Env) (k : Nat) :
    clampPosition 0 (s.checkpoint env k).positionMs = s.playback.expected (env.now k) ↔
      ¬ StandsBeyond s.playback := by
  rw [Core.checkpoint, StandsBeyond]
  by_cases hplaying : s.playback.phase = .playing
  · simp only [hplaying, if_true]
    exact ⟨fun _ h => h.1 rfl, fun _ => clampPosition_expected _ _⟩
  · rw [PlaybackState.expected_of_not_playing hplaying]
    simp only [hplaying, if_false, ne_eq, not_false_eq_true, true_and]
    exact clampPosition_zero_iff _ _

/-- The next actor has the same timeline exactly if the timeline does not stand beyond a known
    duration and the actor has one film. -/
theorem sameTimeline_iff (a : Actor σ) (env : Env) (k : Nat) (room : Room) (store : σ)
    (grace : Nat) :
    SameTimeline a.playback
        (newActor room (some (a.toCore.checkpoint env k)) store grace).playback (env.now k) ↔
      SameMedia a.room a.playback ∧ ¬ StandsBeyond a.playback := by
  constructor
  · intro h
    refine ⟨sameMedia_iff.mpr h.mediaID.symm, ?_⟩
    rw [← position_restarted_iff a.toCore env k, ← expected_restarted a.toCore env k room store grace
      (env.now k)]
    exact h.position (env.now k) (Int64.le_refl _)
  · rintro ⟨hmedia, hwithin⟩
    refine ⟨rfl, (sameMedia_iff.mp hmedia).symm, rfl, fun t' _ => ?_⟩
    rw [expected_restarted]
    exact (position_restarted_iff a.toCore env k).mpr hwithin

-- ============================================================================
-- Over a run
-- ============================================================================

/-- The film is a matter of the room's row in memory and the timeline, and only
    `cmd.room.media` writes either, both at once. -/
theorem sameMedia_hostTurn {P : Persistence σ} {env : Env} {a a' : Actor σ} {type : CommandType}
    {p : CommandPayload} {r : Except ActorError (Option PlaybackState)}
    (h : SameMedia a.room a.playback) (hturn : HostTurn P env a type p a' r) :
    SameMedia a'.room a'.playback := by
  have hswitched : ∀ t x, a.toTimeline.playbackSwitch (env.now 0) type p = (t, x) →
      t.playback.mediaID = a.playback.mediaID := by
    intro t x hswitch
    have hid := a.toTimeline.playbackSwitch_mediaID (env.now 0) type p
    rw [hswitch] at hid
    exact hid
  cases hturn with
  | mediaSet store htype hid hP => exact .inr rfl
  | playbackRefused t e hswitch =>
      exact sameMedia_iff.mpr ((hswitched t _ hswitch).trans (sameMedia_iff.mp h))
  | playbackKept t hswitch =>
      exact sameMedia_iff.mpr ((hswitched t _ hswitch).trans (sameMedia_iff.mp h))
  | playbackChanged t s hswitch hs =>
      subst hs
      exact sameMedia_iff.mpr ((hswitched t _ hswitch).trans (sameMedia_iff.mp h))
  | _ => exact h

theorem sameMedia_step {P : Persistence σ} {a : Actor σ} (h : SameMedia a.room a.playback)
    (l : Env × Msg) : SameMedia (Actor.step P a l).room (Actor.step P a l).playback := by
  obtain ⟨env, m⟩ := l
  obtain ⟨r, hturn⟩ := turn_step P env a m
  generalize Actor.step P a (env, m) = a' at hturn ⊢
  cases hturn with
  | command i c a' r hlive hturn =>
      cases hturn with
      | host p a' r hp hturn => exact sameMedia_hostTurn h hturn
      | measured p s hm hready hhost hs =>
          subst hs
          exact h
      | _ => exact h
  | joined c s hlive hstatus hroom hback hs =>
      subst hs
      exact h
  | hostReturned c s hlive hroom hhost hstatus hs =>
      subst hs
      rw [Core.hostBack_toTimeline, Core.hostBack_room]
      exact h
  | hostLeft id client m s hlive hm hclient hhost hstatus hs =>
      subst hs
      exact h
  | tookOver hostID next m candidate s hlive hstatus hhost hchosen hsome hnext hcand hid hm hguest hs =>
      subst hs
      exact h
  | halted hlive =>
      show SameMedia a.toCore.halt.room a.toCore.halt.playback
      rw [Core.halt_toTimeline, Core.halt_room]
      exact h
  | _ => exact h

theorem sameMedia_run {P : Persistence σ} {a : Actor σ} (h : SameMedia a.room a.playback)
    (ls : List (Env × Msg)) :
    SameMedia (Actor.runActor P a ls).room (Actor.runActor P a ls).playback := by
  induction ls generalizing a with
  | nil => exact h
  | cons l ls ih => exact ih (sameMedia_step h l)

/-- **Restart.**  In every state of every run, a checkpoint and the restart from it keep the
    timeline exactly if the timeline does not stand beyond a known duration and the actor has
    one film; an actor that starts with one film always has one. -/
theorem restart_keeps_timeline_iff (P : Persistence σ) (a : Actor σ) (ls : List (Env × Msg))
    (env : Env) (k : Nat) (room : Room) (store : σ) (grace : Nat) :
    (SameTimeline (Actor.runActor P a ls).playback
        (newActor room (some ((Actor.runActor P a ls).toCore.checkpoint env k)) store
          grace).playback (env.now k) ↔
      SameMedia (Actor.runActor P a ls).room (Actor.runActor P a ls).playback ∧
        ¬ StandsBeyond (Actor.runActor P a ls).playback) ∧
    (SameMedia a.room a.playback →
      SameMedia (Actor.runActor P a ls).room (Actor.runActor P a ls).playback) :=
  ⟨sameTimeline_iff _ env k room store grace, fun h => sameMedia_run h ls⟩

-- ============================================================================
-- Half a second past the end
-- ============================================================================

/-- The host reports ten seconds of film and pauses half a second later than that. -/
def pausedPastEnd : Actor Unit :=
  Actor.runActor (Persistence.answering (.ok ()) [])
    (newActor { smallRoom "h" with mediaID := some "m" } none () 30000)
    [(Env.at 0, .join (userClient 1 "h")),
     (Env.at 100, .command (user "h") ⟨.clientReady, ⟨some ⟨true, "m", 10000, 1, 1⟩, none⟩⟩),
     (Env.at 1000, .command (user "h") (hostCommand .playbackPause "" 10500 ""))]

/-- The room stands at 10 s, and at 10.5 s after the restart. -/
theorem restart_moves :
    Reached (Persistence.answering (.ok ()) []) pausedPastEnd ∧
    ¬ SameTimeline pausedPastEnd.playback
      (newActor pausedPastEnd.room (some (pausedPastEnd.toCore.checkpoint (Env.at 2000) 0)) ()
        30000).playback 2000 := by
  refine ⟨(((Reached.created _ _ _).handled _ _).handled _ _).handled _ _, ?_⟩
  intro h
  have hmoved : (newActor pausedPastEnd.room
      (some (pausedPastEnd.toCore.checkpoint (Env.at 2000) 0)) () 30000).playback.expected 2000 ≠
      pausedPastEnd.playback.expected 2000 := by
    decide +kernel
  exact hmoved (h.position 2000 (Int64.le_refl _))

end WatchTogether.Rooms

/-
  WatchTogether.Rooms.BufferingIntent

  What a room returns to when its host has buffered.  `host_buffering` always notes
  that the room is to play again, whatever it was doing; `host_ready` acts on the note.
  So a room that is playing comes back to playing where it was frozen, and a room that
  was not playing starts.
-/

import Mathlib.Data.List.Induction
import Mathlib.Tactic.IntervalCases
import WatchTogether.Rooms.Turn

namespace WatchTogether.Rooms

open LabelledRun

variable {σ : Type}

-- ============================================================================
-- What a turn does to a buffering room
-- ============================================================================

/-- The message is a command of this type. -/
def IsCommand (type : CommandType) (m : Msg) : Prop := ∃ i c, m = .command i c ∧ c.type = type

/-- The actor takes `m` for a playback command of this type with the payload `p`: it is
    past the permission checks and the check of its position. -/
def Accepts (type : CommandType) (p : CommandPayload) (a : Actor σ) (m : Msg) : Prop :=
  a.stopped = false ∧
    ∃ i c, m = .command i c ∧ c.type = type ∧ a.toCore.authorised i c = some p ∧
      ¬(p.positionMs < 0 ∨
        (0 < a.playback.durationMs ∧ a.playback.durationMs + 1000 < p.positionMs))

/-- The room's intent survives a step: buffering that is not entered here is the
    buffering, with the intent, that was there before. -/
structure KeepsIntent (p p' : PlaybackState) : Prop where
  phase : p'.phase = .buffering → p.phase = .buffering
  resumeIntent : p'.phase = .buffering → p'.resumeIntent = p.resumeIntent

theorem keepsIntent_refl (p : PlaybackState) : KeepsIntent p p := ⟨id, fun _ => rfl⟩

theorem keepsIntent_of_phase {p p' : PlaybackState} (h : p'.phase ≠ .buffering) :
    KeepsIntent p p' :=
  ⟨fun h' => absurd h' h, fun h' => absurd h' h⟩

theorem acceptHostAnchorSample_keepsIntent (t : Timeline) (now positionMs : Int64) (paused : Bool)
    (readyState : Int) :
    KeepsIntent t.playback
      (t.acceptHostAnchorSample now positionMs paused readyState).1.playback := by
  by_cases hplaying : t.playback.phase = .playing
  · have hcont := t.acceptHostAnchorSample_continues now positionMs paused readyState
    refine keepsIntent_of_phase ?_
    rw [hcont.phase, hplaying]
    decide
  · rw [Timeline.acceptHostAnchorSample, if_pos (Or.inl hplaying)]
    exact keepsIntent_refl _

/-- No playback command but `host_buffering` enters buffering. -/
theorem playbackSwitch_keepsIntent {t t' : Timeline} {now : Int64} {type : CommandType}
    {p : CommandPayload} {r : Except ActorError Bool} (h : t.playbackSwitch now type p = (t', r))
    (htype : type ≠ .playbackHostBuffering) : KeepsIntent t.playback t'.playback := by
  have ht' : t' = (t.playbackSwitch now type p).1 := by rw [h]
  rw [ht']
  cases type with
  | playbackPlay => exact keepsIntent_of_phase (by simp [Timeline.playbackSwitch])
  | playbackPause => exact keepsIntent_of_phase (by simp [Timeline.playbackSwitch])
  | playbackSeek => exact ⟨id, fun _ => rfl⟩
  | playbackRate =>
      rw [Timeline.playbackSwitch]
      dsimp only
      split
      · exact ⟨id, fun _ => rfl⟩
      · exact keepsIntent_refl _
  | playbackHostBuffering => exact absurd rfl htype
  | playbackHostReady =>
      rw [Timeline.playbackSwitch]
      dsimp only
      split
      · exact keepsIntent_of_phase (by simp)
      · exact keepsIntent_refl _
  | telemetryHostPlayback =>
      exact acceptHostAnchorSample_keepsIntent t now p.positionMs p.paused p.readyState
  | playbackEnded => exact keepsIntent_of_phase (by simp [Timeline.playbackSwitch])
  | _ => exact keepsIntent_refl _

/-- `host_buffering` enters buffering, to play again. -/
theorem playbackSwitch_hostBuffering {t t' : Timeline} {now : Int64} {p : CommandPayload}
    {r : Except ActorError Bool}
    (h : t.playbackSwitch now .playbackHostBuffering p = (t', r)) :
    t'.playback = { t.playback with
        phase := .buffering, resumeIntent := some .playing
        anchorPositionMs := p.positionMs, anchorServerTimeMs := now } ∧ r = .ok true := by
  obtain ⟨rfl, rfl⟩ := Prod.mk.inj h
  exact ⟨rfl, rfl⟩

/-- `host_ready` in a buffering room that is to play again. -/
theorem playbackSwitch_hostReady {t t' : Timeline} {now : Int64} {p : CommandPayload}
    {r : Except ActorError Bool} (h : t.playbackSwitch now .playbackHostReady p = (t', r))
    (hphase : t.playback.phase = .buffering) (hintent : t.playback.resumeIntent = some .playing) :
    t'.playback = { t.playback with
        phase := .playing, anchorServerTimeMs := now + scheduleLeadMs } ∧ r = .ok true := by
  rw [Timeline.playbackSwitch] at h
  dsimp only at h
  rw [if_pos ⟨hphase, hintent⟩] at h
  obtain ⟨rfl, rfl⟩ := Prod.mk.inj h
  exact ⟨rfl, rfl⟩

theorem keepsIntent_hostTurn {P : Persistence σ} {env : Env} {a a' : Actor σ}
    {type : CommandType} {p : CommandPayload} {r : Except ActorError (Option PlaybackState)}
    (hturn : HostTurn P env a type p a' r) (htype : type ≠ .playbackHostBuffering) :
    KeepsIntent a.playback a'.playback := by
  cases hturn with
  | mediaSet store htype' hid hP =>
      exact keepsIntent_of_phase (by simp [Core.withMedia, Actor.mediaPlayback,
        PlaybackState.bump])
  | playbackRefused t e hswitch => exact playbackSwitch_keepsIntent hswitch htype
  | playbackKept t hswitch => exact playbackSwitch_keepsIntent hswitch htype
  | playbackChanged t s hswitch hs =>
      subst hs
      have ht := playbackSwitch_keepsIntent hswitch htype
      exact ⟨ht.phase, ht.resumeIntent⟩
  | _ => exact keepsIntent_refl _

theorem keepsIntent_commandTurn {P : Persistence σ} {env : Env} {a a' : Actor σ} {i : Identity}
    {c : Command} {r : Except ActorError (Option PlaybackState)}
    (hturn : CommandTurn P env a i c a' r) (htype : c.type ≠ .playbackHostBuffering) :
    KeepsIntent a.playback a'.playback := by
  cases hturn with
  | measured p s hm htype' hhost hs =>
      subst hs
      exact ⟨id, fun _ => rfl⟩
  | host p a' r hp hturn => exact keepsIntent_hostTurn hturn htype
  | _ => exact keepsIntent_refl _

/-- Nothing but `host_buffering` enters buffering or changes what is to follow it. -/
theorem keepsIntent_step (P : Persistence σ) (a : Actor σ) (l : Env × Msg)
    (hm : ¬IsCommand .playbackHostBuffering l.2) :
    KeepsIntent a.playback (Actor.step P a l).playback := by
  obtain ⟨env, m⟩ := l
  obtain ⟨r, hturn⟩ := turn_step P env a m
  generalize Actor.step P a (env, m) = a' at hturn
  cases hturn with
  | hostReturned c s hlive hroom hhost hstatus hs =>
      subst hs
      have hkept : ((a.toCore.enter c (env.now 0)).hostBack).playback = a.playback :=
        congrArg Timeline.playback (Core.hostBack_toTimeline _)
      exact hkept ▸ keepsIntent_refl a.playback
  | hostLeft id client m s hlive hm' hclient hhost hstatus hs =>
      subst hs
      refine keepsIntent_of_phase ?_
      rw [Core.armHostTimer]
      simp [Core.hostAway, Actor.freeze, PlaybackState.bump]
  | command i c a' r hlive hturn =>
      exact keepsIntent_commandTurn hturn (fun h => hm ⟨i, c, rfl, h⟩)
  | halted hlive =>
      have hkept : a.toCore.halt.playback = a.playback :=
        congrArg Timeline.playback (Core.halt_toTimeline _)
      exact hkept ▸ keepsIntent_refl a.playback
  | joined c s hlive hstatus hroom hback hs =>
      subst hs
      exact keepsIntent_refl _
  | tookOver hostID next m candidate s hlive hstatus hhost hchosen hsome hnext hcand hid hm' hguest
      hs =>
      subst hs
      exact keepsIntent_refl _
  | _ => exact keepsIntent_refl _

-- ============================================================================
-- The two commands
-- ============================================================================

/-- A playback command ends in the switch. -/
theorem applyHost_isPlayback (P : Persistence σ) (env : Env) (a : Actor σ) {type : CommandType}
    (p : CommandPayload) (htype : type.isPlayback = true) :
    a.applyHost P env type p = a.applyPlayback P env type p := by
  cases type with
  | roomTransferHost => exact absurd htype (by decide)
  | roomKick => exact absurd htype (by decide)
  | roomClose => exact absurd htype (by decide)
  | roomMedia => exact absurd htype (by decide)
  | _ => rfl

/-- An accepted playback command leaves the timeline the switch returns, with the next
    revision if it is changed. -/
theorem step_accepts {P : Persistence σ} {env : Env} {a : Actor σ} {m : Msg} {type : CommandType}
    {p : CommandPayload} (h : Accepts type p a m) (htype : type.isPlayback = true) {t : Timeline}
    {changed : Bool} (hswitch : a.toTimeline.playbackSwitch (env.now 0) type p = (t, .ok changed)) :
    (Actor.step P a (env, m)).playback = if changed then t.playback.bump else t.playback := by
  obtain ⟨hlive, i, c, rfl, rfl, hp, hpos⟩ := h
  rw [Actor.step, Actor.process, if_neg (by simp [hlive])]
  dsimp only
  rw [apply_authorised P env hp, applyHost_isPlayback P env a p htype]
  rw [Actor.applyPlayback, if_neg hpos, hswitch]
  cases changed <;> rfl

/-- A playback command that is not accepted keeps the playback state. -/
theorem step_not_accepts {P : Persistence σ} {env : Env} {a : Actor σ} {i : Identity}
    {c : Command} (htype : c.type.isPlayback = true)
    (h : ∀ p, ¬Accepts c.type p a (.command i c)) :
    (Actor.step P a (env, .command i c)).playback = a.playback := by
  by_cases hstopped : a.stopped = true
  · rw [Actor.step, Actor.process, if_pos hstopped]
  have hlive : a.stopped = false := Bool.not_eq_true _ ▸ hstopped
  cases hp : a.toCore.authorised i c with
  | some p =>
      -- only the position check is left to refuse it
      have hpos : p.positionMs < 0 ∨
          (0 < a.playback.durationMs ∧ a.playback.durationMs + 1000 < p.positionMs) := by
        by_contra hpos
        exact h p ⟨hlive, i, c, rfl, rfl, hp, hpos⟩
      rw [Actor.step, Actor.process, if_neg hstopped]
      dsimp only
      rw [apply_authorised P env hp, applyHost_isPlayback P env a p htype]
      rw [Actor.applyPlayback, if_pos hpos]
  | none =>
      obtain ⟨r, hturn⟩ := turn_step P env a (.command i c)
      generalize Actor.step P a (env, .command i c) = a' at hturn
      cases hturn with
      | stopped _ hs => rfl
      | command i c a' r hlive' hturn =>
          cases hturn with
          | measured p s hm hready hhost hs =>
              rw [hready] at htype
              exact absurd htype (by decide)
          | host p a' r hp' hturn =>
              rw [hp] at hp'
              exact absurd hp' (by simp)
          | _ => rfl

theorem step_hostBuffering {P : Persistence σ} {env : Env} {a : Actor σ} {m : Msg}
    {p : CommandPayload} (h : Accepts .playbackHostBuffering p a m) :
    (Actor.step P a (env, m)).playback = PlaybackState.bump { a.playback with
      phase := .buffering, resumeIntent := some .playing
      anchorPositionMs := p.positionMs, anchorServerTimeMs := env.now 0 } := by
  rcases hswitch : a.toTimeline.playbackSwitch (env.now 0) .playbackHostBuffering p with ⟨t, r⟩
  obtain ⟨ht, hr⟩ := playbackSwitch_hostBuffering hswitch
  rw [hr] at hswitch
  rw [step_accepts h rfl hswitch, ht, if_pos rfl]

theorem step_hostReady {P : Persistence σ} {env : Env} {a : Actor σ} {m : Msg}
    {p : CommandPayload} (h : Accepts .playbackHostReady p a m)
    (hphase : a.playback.phase = .buffering) (hintent : a.playback.resumeIntent = some .playing) :
    (Actor.step P a (env, m)).playback = PlaybackState.bump { a.playback with
      phase := .playing, anchorServerTimeMs := env.now 0 + scheduleLeadMs } := by
  rcases hswitch : a.toTimeline.playbackSwitch (env.now 0) .playbackHostReady p with ⟨t, r⟩
  obtain ⟨ht, hr⟩ := playbackSwitch_hostReady hswitch hphase hintent
  rw [hr] at hswitch
  rw [step_accepts h rfl hswitch, ht, if_pos rfl]

/-- `host_ready` does nothing outside buffering. -/
theorem step_hostReady_kept {P : Persistence σ} {env : Env} {a : Actor σ} {m : Msg}
    (hm : IsCommand .playbackHostReady m) (hphase : a.playback.phase ≠ .buffering) :
    (Actor.step P a (env, m)).playback = a.playback := by
  obtain ⟨i, c, rfl, htype⟩ := hm
  by_cases hacc : ∃ p, Accepts c.type p a (.command i c)
  · obtain ⟨p, hacc⟩ := hacc
    rw [htype] at hacc
    have hswitch : a.toTimeline.playbackSwitch (env.now 0) .playbackHostReady p =
        (a.toTimeline.resetHostDriftTracking, .ok false) := by
      rw [Timeline.playbackSwitch]
      exact if_neg (fun h => hphase h.1)
    rw [step_accepts hacc rfl hswitch]
    rfl
  · exact step_not_accepts (by rw [htype]; rfl) (fun p hp => hacc ⟨p, hp⟩)

-- ============================================================================
-- Runs
-- ============================================================================

/-- The room that `pre` leaves was playing when `host_buffering` put it into buffering,
    and it has been buffering since. -/
def EnteredPlaying (P : Persistence σ) (a₀ : Actor σ) (pre : List (Env × Msg)) : Prop :=
  ∃ before l mid p, pre = before ++ l :: mid ∧
    Accepts .playbackHostBuffering p (Actor.runActor P a₀ before) l.2 ∧
    (Actor.runActor P a₀ before).playback.phase = .playing ∧
    ∀ m₁ m₂, mid = m₁ ++ m₂ →
      (Actor.runActor P a₀ (before ++ l :: m₁)).playback.phase = .buffering

/-- The step in which `host_buffering` finds a room that is neither playing nor
    buffering already. -/
def BuffersStill (a : Actor σ) (l : Env × Msg) : Prop :=
  a.playback.phase ≠ .playing ∧ a.playback.phase ≠ .buffering ∧
    ∃ p, Accepts .playbackHostBuffering p a l.2

theorem EnteredPlaying.extend {P : Persistence σ} {a₀ : Actor σ} {pre : List (Env × Msg)}
    {l : Env × Msg} (h : EnteredPlaying P a₀ pre)
    (hphase : (Actor.runActor P a₀ (pre ++ [l])).playback.phase = .buffering) :
    EnteredPlaying P a₀ (pre ++ [l]) := by
  obtain ⟨before, b, mid, p, rfl, hacc, hplaying, hsince⟩ := h
  refine ⟨before, b, mid ++ [l], p, by simp, hacc, hplaying, ?_⟩
  intro m₁ m₂ hsplit
  rcases List.eq_nil_or_concat m₂ with rfl | ⟨m₂', x, rfl⟩
  · rw [List.append_nil] at hsplit
    rw [← hsplit]
    simpa using hphase
  · rw [List.concat_eq_append, ← List.append_assoc] at hsplit
    exact hsince m₁ m₂' (List.append_inj_left' hsplit rfl)

/-- A room that is buffering is to play again, and was playing before. -/
def Remembers (P : Persistence σ) (a₀ : Actor σ) (pre : List (Env × Msg)) : Prop :=
  (Actor.runActor P a₀ pre).playback.phase = .buffering →
    (Actor.runActor P a₀ pre).playback.resumeIntent = some .playing ∧ EnteredPlaying P a₀ pre

theorem remembers_concat {P : Persistence σ} {a₀ : Actor σ} {pre : List (Env × Msg)}
    {l : Env × Msg} (h : Remembers P a₀ pre)
    (hok : ¬BuffersStill (Actor.runActor P a₀ pre) l) : Remembers P a₀ (pre ++ [l]) := by
  intro hphase
  obtain ⟨env, m⟩ := l
  have hrun : Actor.runActor P a₀ (pre ++ [(env, m)])
      = Actor.step P (Actor.runActor P a₀ pre) (env, m) := by
    simp [Actor.runActor]
  rw [hrun] at hphase ⊢
  by_cases hacc : ∃ p, Accepts .playbackHostBuffering p (Actor.runActor P a₀ pre) m
  · obtain ⟨p, hacc⟩ := hacc
    refine ⟨by rw [step_hostBuffering hacc]; rfl, ?_⟩
    by_cases hplaying : (Actor.runActor P a₀ pre).playback.phase = .playing
    · refine ⟨pre, (env, m), [], p, rfl, hacc, hplaying, ?_⟩
      intro m₁ m₂ hsplit
      obtain ⟨rfl, -⟩ := List.nil_eq_append_iff.mp hsplit
      rw [hrun]
      exact hphase
    · have hbuffering : (Actor.runActor P a₀ pre).playback.phase = .buffering := by
        by_contra hne
        exact hok ⟨hplaying, hne, p, hacc⟩
      exact (h hbuffering).2.extend (by rw [hrun]; exact hphase)
  · have hkept : KeepsIntent (Actor.runActor P a₀ pre).playback
        (Actor.step P (Actor.runActor P a₀ pre) (env, m)).playback := by
      by_cases hm : IsCommand .playbackHostBuffering m
      · obtain ⟨i, c, rfl, htype⟩ := hm
        rw [step_not_accepts (by rw [htype]; rfl) (fun p hp => hacc ⟨p, htype ▸ hp⟩)]
        exact keepsIntent_refl _
      · exact keepsIntent_step P _ (env, m) hm
    obtain ⟨hintent, hentered⟩ := h (hkept.phase hphase)
    exact ⟨(hkept.resumeIntent hphase).trans hintent,
      hentered.extend (by rw [hrun]; exact hphase)⟩

theorem remembers {P : Persistence σ} {a₀ : Actor σ} (hinit : a₀.playback.phase ≠ .buffering)
    {ls : List (Env × Msg)}
    (hok : EachStep (Actor.step P) (fun a l => ¬BuffersStill a l) a₀ ls) : Remembers P a₀ ls := by
  induction ls using List.reverseRecOn with
  | nil => exact fun h => absurd h hinit
  | append_singleton pre l ih => exact remembers_concat (ih hok.before) hok.at

/-- A fresh actor is not buffering. -/
theorem newActor_not_buffering (room : Room) (checkpoint : Option Checkpoint) (store : σ)
    (grace : Nat) : (newActor room checkpoint store grace).playback.phase ≠ .buffering := by
  cases checkpoint with
  | some cp => simp [newActor]
  | none =>
      simp only [newActor]
      split <;> simp

/-- Buffering as the step `l` after `pre` coordinates it. -/
structure Transparent (P : Persistence σ) (a₀ : Actor σ) (pre : List (Env × Msg))
    (l : Env × Msg) : Prop where
  /-- `host_ready` starts only a room that buffering had stopped. -/
  resumes : IsCommand .playbackHostReady l.2 →
    (Actor.runActor P a₀ pre).playback.phase ≠ .playing →
    (Actor.step P (Actor.runActor P a₀ pre) l).playback.phase = .playing →
    EnteredPlaying P a₀ pre
  /-- An accepted `host_buffering` freezes the room where the host is. -/
  freezes : ∀ p, Accepts .playbackHostBuffering p (Actor.runActor P a₀ pre) l.2 →
    (Actor.step P (Actor.runActor P a₀ pre) l).playback.phase = .buffering ∧
    (Actor.step P (Actor.runActor P a₀ pre) l).playback.anchorPositionMs = p.positionMs
  /-- An accepted `host_ready` brings a buffering room back to playing from there. -/
  returns : ∀ p, Accepts .playbackHostReady p (Actor.runActor P a₀ pre) l.2 →
    (Actor.runActor P a₀ pre).playback.phase = .buffering →
    (Actor.step P (Actor.runActor P a₀ pre) l).playback.phase = .playing ∧
    (Actor.step P (Actor.runActor P a₀ pre) l).playback.anchorPositionMs =
      (Actor.runActor P a₀ pre).playback.anchorPositionMs

/-- In every run in which `host_buffering` finds the room playing, or buffering already,
    buffering is transparent to play and pause. -/
theorem buffering_transparent (P : Persistence σ) (room : Room) (checkpoint : Option Checkpoint)
    (store : σ) (grace : Nat) (pre : List (Env × Msg)) (l : Env × Msg) (post : List (Env × Msg))
    (hok : EachStep (Actor.step P) (fun a l => ¬BuffersStill a l)
      (newActor room checkpoint store grace) (pre ++ l :: post)) :
    Transparent P (newActor room checkpoint store grace) pre l := by
  obtain ⟨env, m⟩ := l
  have hremembers : Remembers P (newActor room checkpoint store grace) pre :=
    remembers (newActor_not_buffering room checkpoint store grace) hok.before
  refine ⟨?_, ?_, ?_⟩
  · intro hm hphase hplays
    by_cases hbuffering : (Actor.runActor P (newActor room checkpoint store grace)
        pre).playback.phase = .buffering
    · exact (hremembers hbuffering).2
    · rw [step_hostReady_kept hm hbuffering] at hplays
      exact absurd hplays hphase
  · intro p hacc
    rw [step_hostBuffering hacc]
    exact ⟨rfl, rfl⟩
  · intro p hacc hbuffering
    rw [step_hostReady hacc hbuffering (hremembers hbuffering).1]
    exact ⟨rfl, rfl⟩

/-- Room "r" shows a film, and stands still. -/
def stillActor : Actor Unit := newActor { smallRoom "h" with mediaID := some "film" } none () 60

/-- The host joins, plays, and runs dry at 3650 ms. -/
def playDryRun : List (Env × Msg) :=
  [(Env.at 1000, .join (userClient 1 "h")),
   (Env.at 1000, .command (user "h") (hostCommand .playbackPlay "" 0 "")),
   (Env.at 5000, .command (user "h") (hostCommand .playbackHostBuffering "" 3650 ""))]

/-- The host reports that it can play. -/
def hostIsReady : Env × Msg :=
  (Env.at 7000, .command (user "h") (hostCommand .playbackHostReady "" 3650 ""))

theorem buffering_transparent_playDry :
    Transparent (.answering (.ok ()) []) stillActor playDryRun hostIsReady ∧
    (Actor.runActor (.answering (.ok ()) []) stillActor playDryRun).playback.phase = .buffering ∧
    (Actor.step (.answering (.ok ()) []) (Actor.runActor (.answering (.ok ()) []) stillActor
      playDryRun) hostIsReady).playback.phase = .playing := by
  refine ⟨buffering_transparent (.answering (.ok ()) []) _ none () 60 playDryRun hostIsReady [] ?_,
    by decide, by decide⟩
  rw [playDryRun, hostIsReady]
  simp only [List.cons_append, List.nil_append, eachStep_cons]
  refine ⟨?_, ?_, ?_, ?_, eachStep_nil _ _⟩
  · rintro ⟨-, -, p, -, i, c, hm, -⟩
    cases hm
  · rintro ⟨-, -, p, -, i, c, hm, htype, -⟩
    cases hm
    exact absurd htype (by decide)
  · rintro ⟨hplaying, -⟩
    exact hplaying (by decide)
  · rintro ⟨-, -, p, -, i, c, hm, htype, -⟩
    cases hm
    exact absurd htype (by decide)

/-- The host joins the paused room and runs dry; its player was still to be paused. -/
def pausedDryRun : List (Env × Msg) :=
  [(Env.at 1000, .join (userClient 1 "h")),
   (Env.at 5000, .command (user "h") (hostCommand .playbackHostBuffering "" 3650 ""))]

/-- The paused room plays once its host is ready. -/
theorem pausedDry_plays :
    (Actor.runActor (.answering (.ok ()) []) stillActor (pausedDryRun.take 1)).playback.phase
      = .paused ∧
    (Actor.step (.answering (.ok ()) []) (Actor.runActor (.answering (.ok ()) []) stillActor
      pausedDryRun) hostIsReady).playback.phase = .playing ∧
    ¬Transparent (.answering (.ok ()) []) stillActor pausedDryRun hostIsReady := by
  refine ⟨by decide, by decide, ?_⟩
  intro h
  obtain ⟨before, b, mid, p, hsplit, -, hplaying, -⟩ :=
    h.resumes ⟨user "h", _, rfl, rfl⟩ (by decide) (by decide)
  have hlength : before.length < 2 := by
    have hlen := congrArg List.length hsplit
    simp only [pausedDryRun, List.length_append, List.length_cons, List.length_nil] at hlen
    omega
  have hbefore : before = pausedDryRun.take before.length := by simp [hsplit]
  rw [hbefore] at hplaying
  generalize before.length = n at hlength hplaying
  -- neither before the join nor after it was the room playing
  interval_cases n
  · exact absurd hplaying (by decide)
  · exact absurd hplaying (by decide)

end WatchTogether.Rooms

/-
  WatchTogether.Rooms.AnchorRefresh

  When the host's heartbeat refreshes the anchor: two healthy samples in a row that drift to
  one side, and no refresh in the fifteen seconds before.

  `hostDriftSamples` is a cell that a sample writes and most commands clear.  A change of the
  host does not clear it, so the first sample of a new host may confirm one of the old host.
-/

import WatchTogether.Lib.History
import WatchTogether.Rooms.TimelineLaw

namespace WatchTogether.Rooms

open History LabelledRun

variable {σ : Type}

-- ============================================================================
-- One sample
-- ============================================================================

/-- The host plays healthily, at least 750 ms from the position that the room expects, ahead
    (`1`) or behind (`-1`). -/
structure Drifted (s : PlaybackState) (now : Int64) (p : CommandPayload) (direction : Int) :
    Prop where
  running : p.paused = false
  ready : 3 ≤ p.readyState
  far : 750 ≤ (p.positionMs.toInt - (s.expected now).toInt).natAbs
  side : direction = if p.positionMs.toInt - (s.expected now).toInt < 0 then -1 else 1

/-- What `acceptHostAnchorSample` can do with a sample. -/
inductive SampleTurn (t : Timeline) (now : Int64) (p : CommandPayload) : Timeline → Bool → Prop
  | cleared : SampleTurn t now p t.resetHostDriftTracking false
  | counted (direction : Int) (hplaying : t.playback.phase = .playing)
      (hdrift : Drifted t.playback now p direction) :
      SampleTurn t now p (t.countDriftSample direction) false
  | refreshed (direction : Int) (hplaying : t.playback.phase = .playing)
      (hdrift : Drifted t.playback now p direction)
      (hcount : 2 ≤ (t.countDriftSample direction).hostDriftSamples)
      (hrate : ¬(0 < t.lastHostAnchorUpdateMs ∧
        now - t.lastHostAnchorUpdateMs < hostAnchorMinIntervalMs)) :
      SampleTurn t now p
        { playback := { t.playback with
            anchorPositionMs := p.positionMs, anchorServerTimeMs := now }
          hostDriftSamples := 0
          hostDriftDirection := 0
          lastHostAnchorUpdateMs := now } true

/-- A difference of two positions does not wrap. -/
theorem toInt_sub_of_nonneg {x y : Int64} (hx : 0 ≤ x.toInt) (hy : 0 ≤ y.toInt) :
    (x - y).toInt = x.toInt - y.toInt := by
  have hx' := Int64.toInt_lt x
  have hy' := Int64.toInt_lt y
  rw [Int64.toInt_sub]
  exact Int.bmod_eq_of_le (by omega) (by omega)

theorem countDriftSample_last (t : Timeline) (direction : Int) :
    (t.countDriftSample direction).lastHostAnchorUpdateMs = t.lastHostAnchorUpdateMs := by
  rw [Timeline.countDriftSample]
  split
  · rfl
  · rfl

theorem countDriftSample_direction (t : Timeline) (direction : Int) :
    (t.countDriftSample direction).hostDriftDirection = direction := by
  rw [Timeline.countDriftSample]
  split
  · rfl
  · next heq => exact (not_not.mp heq).symm

/-- A second sample in a row has the direction of the first. -/
theorem pending_of_count {t : Timeline} {direction : Int}
    (h : 2 ≤ (t.countDriftSample direction).hostDriftSamples) :
    0 < t.hostDriftSamples ∧ t.hostDriftDirection = direction := by
  rw [Timeline.countDriftSample] at h
  split at h
  · have hone : 2 ≤ 1 := h
    omega
  · next heq =>
      have hcount : 2 ≤ t.hostDriftSamples + 1 := h
      exact ⟨by omega, (not_not.mp heq).symm⟩

/-- Every sample is one of these. -/
theorem sampleTurn (t : Timeline) (now : Int64) {p : CommandPayload}
    (hpos : 0 ≤ p.positionMs.toInt) :
    SampleTurn t now p (t.acceptHostAnchorSample now p.positionMs p.paused p.readyState).1
      (t.acceptHostAnchorSample now p.positionMs p.paused p.readyState).2 := by
  rw [Timeline.acceptHostAnchorSample]
  split
  · exact .cleared
  next hhealthy =>
  dsimp only
  have hdiff := toInt_sub_of_nonneg hpos (t.playback.expected_nonneg now)
  have hplaying : t.playback.phase = .playing := by
    by_contra h
    exact hhealthy (Or.inl h)
  split
  · exact .cleared
  next hfar =>
  have hdrift : Drifted t.playback now p
      (if p.positionMs - t.playback.expected now < 0 then -1 else 1) := by
    refine ⟨?_, ?_, ?_, ?_⟩
    · by_contra h
      exact hhealthy (Or.inr (Or.inl (by simpa using h)))
    · by_contra h
      exact hhealthy (Or.inr (Or.inr (not_le.mp h)))
    · have hbound := t.playback.expected_nonneg now
      have hlt := Int64.toInt_lt p.positionMs
      have hlt' := Int64.toInt_lt (t.playback.expected now)
      rw [hdiff, Int64.lt_iff_toInt_lt, Int64.toInt_ofNat_of_lt (by omega)] at hfar
      have hthreshold : hostDriftThresholdMs.toInt = 750 := by decide
      omega
    · have hneg : (p.positionMs - t.playback.expected now < 0) ↔
          p.positionMs.toInt - (t.playback.expected now).toInt < 0 := by
        rw [Int64.lt_iff_toInt_lt, hdiff, int64_toInt_zero]
      simp only [hneg]
  generalize (if p.positionMs - t.playback.expected now < 0 then (-1 : Int) else 1) = direction
    at hdrift ⊢
  have hplayback := Timeline.countDriftSample_playback t direction
  have hlast := countDriftSample_last t direction
  split
  · exact .counted direction hplaying hdrift
  next hcount =>
  rw [hlast]
  split
  · exact .counted direction hplaying hdrift
  next hrate =>
  rw [hplayback]
  exact .refreshed direction hplaying hdrift (not_lt.mp hcount) hrate

-- ============================================================================
-- What a step does to the drift tracking
-- ============================================================================

/-- `m` is a `telemetry.host.playback` command of `i` that has passed the position check. -/
def Sampled (a : Actor σ) (m : Msg) (i : Identity) (p : CommandPayload) : Prop :=
  Accepts .telemetryHostPlayback p a m ∧ ∃ c, m = .command i c

/-- The types that end a candidate, apart from a change of the host. -/
def CommandType.interrupts : CommandType → Bool
  | .playbackPlay | .playbackPause | .playbackSeek | .playbackRate | .playbackHostBuffering
  | .playbackHostReady | .playbackEnded | .roomMedia => true
  | _ => false

/-- A command of one of these types is carried out. -/
def CarriesOut (P : Persistence σ) (a : Actor σ) (l : Env × Msg) (ok : CommandType → Bool) : Prop :=
  ∃ i c r, l.2 = .command i c ∧ ok c.type = true ∧ (a.process P l.1 l.2).2 = .command (.ok r)

/-- A transfer of the host is carried out, or the room has another host after the step. -/
def ChangesHost (P : Persistence σ) (a : Actor σ) (l : Env × Msg) : Prop :=
  CarriesOut P a l (fun type => decide (type = .roomTransferHost)) ∨
    (Actor.step P a l).room.hostUserID ≠ a.room.hostUserID

/-- A play, pause, seek, rate, media, buffering or ended command is carried out, or the host
    changes. -/
def Interrupts (P : Persistence σ) (a : Actor σ) (l : Env × Msg) : Prop :=
  CarriesOut P a l CommandType.interrupts ∨ ChangesHost P a l

/-- The step takes a sample and refreshes the anchor. -/
def Refreshes (P : Persistence σ) (a : Actor σ) (l : Env × Msg) : Prop :=
  IsCommand .telemetryHostPlayback l.2 ∧
    ∃ state, (a.process P l.1 l.2).2 = .command (.ok (some state))

/-- One sample waits for a second one. -/
def Pending (a : Core) : Prop := 0 < a.hostDriftSamples ∧ a.playback.phase = .playing

section Steps

variable {P : Persistence σ} {env : Env} {a : Actor σ} {m : Msg}

theorem Sampled.host {i : Identity} {p : CommandPayload} (h : Sampled a m i p) :
    i.id = a.room.hostUserID := by
  obtain ⟨⟨-, i', c, hm, htype, hp, -⟩, c', hm'⟩ := h
  rw [hm] at hm'
  cases hm'
  obtain ⟨⟨-, -, -, -, hhost⟩, -⟩ := Core.authorised_eq_some.mp hp
  rcases hhost with hhost | hover
  · exact hhost
  · rw [Actor.adminOverride, htype] at hover
    exact absurd hover (by simp [CommandType.isAdmin])

/-- An accepted playback command is its switch: the timeline, the room and the reply. -/
theorem process_accepts {type : CommandType} {p : CommandPayload} (h : Accepts type p a m)
    (htype : type.isPlayback = true) {t : Timeline} {r : Except ActorError Bool}
    (hswitch : a.toTimeline.playbackSwitch (env.now 0) type p = (t, r)) :
    (a.process P env m).1.toTimeline =
        (if r = .ok true then { t with playback := t.playback.bump } else t) ∧
      (a.process P env m).1.room = a.room ∧
      ((∃ state, (a.process P env m).2 = .command (.ok (some state))) ↔ r = .ok true) := by
  obtain ⟨hlive, i, c, rfl, rfl, hp, hpos⟩ := h
  rw [Actor.process, if_neg (by simp [hlive])]
  dsimp only
  rw [apply_authorised P env hp, applyHost_isPlayback P env a p htype]
  rw [Actor.applyPlayback, if_neg hpos, hswitch]
  rcases r with e | changed
  · refine ⟨rfl, rfl, ?_⟩
    simp
  · cases changed
    · refine ⟨rfl, rfl, ?_⟩
      simp
    · refine ⟨rfl, rfl, ?_⟩
      simp

variable (P env) in
/-- A playback command that is not accepted leaves the actor as it was, and is not answered with
    success. -/
theorem process_not_accepts {i : Identity} {c : Command} (htype : c.type.isPlayback = true)
    (h : ∀ p, ¬Accepts c.type p a (.command i c)) :
    (a.process P env (.command i c)).1 = a ∧
      ∀ r, (a.process P env (.command i c)).2 ≠ .command (.ok r) := by
  by_cases hstopped : a.stopped = true
  · rw [Actor.process, if_pos hstopped]
    exact ⟨rfl, by simp⟩
  have hlive : a.stopped = false := Bool.not_eq_true _ ▸ hstopped
  cases hp : a.toCore.authorised i c with
  | some p =>
      have hpos : p.positionMs < 0 ∨
          (0 < a.playback.durationMs ∧ a.playback.durationMs + 1000 < p.positionMs) := by
        by_contra hpos
        exact h p ⟨hlive, i, c, rfl, rfl, hp, hpos⟩
      rw [Actor.process, if_neg hstopped]
      dsimp only
      rw [apply_authorised P env hp, applyHost_isPlayback P env a p htype]
      rw [Actor.applyPlayback, if_pos hpos]
      exact ⟨rfl, by simp⟩
  | none =>
      have hturn := turn P env a (.command i c)
      generalize a.process P env (.command i c) = out at hturn ⊢
      obtain ⟨a', r⟩ := out
      cases hturn with
      | stopped _ hs => exact absurd hs hstopped
      | command i c a' r hlive' hturn =>
          cases hturn with
          | refused e => exact ⟨rfl, by simp⟩
          | ignored hm hignored =>
              rcases hignored with hignored | hignored
              · rw [hignored] at htype
                exact absurd htype (by decide)
              · rw [hignored] at htype
                exact absurd htype (by decide)
          | readied p hm hready =>
              rw [hready] at htype
              exact absurd htype (by decide)
          | measured p s hm hready hhost hs =>
              rw [hready] at htype
              exact absurd htype (by decide)
          | host p a' r hp' hturn =>
              rw [hp] at hp'
              cases hp'

/-- Every playback command but the heartbeat clears the tracking; none of them notes a refresh. -/
theorem playbackSwitch_clears (t : Timeline) (now : Int64) {type : CommandType}
    (p : CommandPayload) (htype : type.isPlayback = true) (hne : type ≠ .telemetryHostPlayback) :
    (t.playbackSwitch now type p).1.hostDriftSamples = 0 ∧
      (t.playbackSwitch now type p).1.lastHostAnchorUpdateMs = t.lastHostAnchorUpdateMs := by
  cases type with
  | playbackPlay => exact ⟨rfl, rfl⟩
  | playbackPause => exact ⟨rfl, rfl⟩
  | playbackSeek => exact ⟨rfl, rfl⟩
  | playbackRate =>
      rw [Timeline.playbackSwitch]
      dsimp only
      split
      · exact ⟨rfl, rfl⟩
      · exact ⟨rfl, rfl⟩
  | playbackHostBuffering => exact ⟨rfl, rfl⟩
  | playbackHostReady =>
      rw [Timeline.playbackSwitch]
      dsimp only
      split
      · exact ⟨rfl, rfl⟩
      · exact ⟨rfl, rfl⟩
  | telemetryHostPlayback => exact absurd rfl hne
  | playbackEnded => exact ⟨rfl, rfl⟩
  | _ => exact absurd htype (by decide)

theorem playbackSwitch_of_not_isPlayback {t t' : Timeline} {now : Int64} {type : CommandType}
    {p : CommandPayload} {r : Except ActorError Bool} (htype : type.isPlayback = false)
    (h : t.playbackSwitch now type p = (t', r)) : t' = t ∧ ∀ changed, r ≠ .ok changed := by
  cases type with
  | playbackPlay => exact absurd htype (by decide)
  | playbackPause => exact absurd htype (by decide)
  | playbackSeek => exact absurd htype (by decide)
  | playbackRate => exact absurd htype (by decide)
  | playbackHostBuffering => exact absurd htype (by decide)
  | playbackHostReady => exact absurd htype (by decide)
  | telemetryHostPlayback => exact absurd htype (by decide)
  | playbackEnded => exact absurd htype (by decide)
  | _ =>
      cases h
      exact ⟨rfl, by simp⟩

/-- A step without a sample keeps the time of the last refresh, and a sample that waits after it
    waited before it; nothing that ends a candidate was carried out. -/
structure Unsampled (P : Persistence σ) (a : Actor σ) (l : Env × Msg) : Prop where
  last : (Actor.step P a l).lastHostAnchorUpdateMs = a.lastHostAnchorUpdateMs
  pending : Pending (Actor.step P a l).toCore → Pending a.toCore ∧
    (Actor.step P a l).hostDriftDirection = a.hostDriftDirection ∧
    ¬CarriesOut P a l CommandType.interrupts

theorem unsampled_of_timeline {l : Env × Msg}
    (h : (Actor.step P a l).toTimeline = a.toTimeline)
    (hc : ¬CarriesOut P a l CommandType.interrupts) : Unsampled P a l := by
  refine ⟨by rw [h], fun hp => ?_⟩
  rw [Pending, h] at hp
  exact ⟨hp, by rw [h], hc⟩

theorem not_carriesOut_of_type {ok : CommandType → Bool}
    (h : ∀ i c, m = .command i c → ok c.type = false) : ¬CarriesOut P a (env, m) ok := by
  rintro ⟨i, c, r, hm, hok, -⟩
  rw [h i c hm] at hok
  cases hok

theorem not_carriesOut_of_reply {ok : CommandType → Bool}
    (h : ∀ r, (a.process P env m).2 ≠ .command (.ok r)) : ¬CarriesOut P a (env, m) ok := by
  rintro ⟨i, c, r, -, -, hr⟩
  exact h r hr

/-- A playback command other than a sample. -/
theorem unsampled_playback {i : Identity} {c : Command} (htype : c.type.isPlayback = true)
    (hsample : ∀ i' p, ¬Sampled a (.command i c) i' p) : Unsampled P a (env, .command i c) := by
  by_cases hacc : ∃ p, Accepts c.type p a (.command i c)
  · obtain ⟨p, hacc⟩ := hacc
    have hne : c.type ≠ .telemetryHostPlayback := fun h => hsample i p ⟨h ▸ hacc, c, rfl⟩
    rcases hswitch : a.toTimeline.playbackSwitch (env.now 0) c.type p with ⟨t, r⟩
    obtain ⟨hsamples, hlast⟩ := playbackSwitch_clears a.toTimeline (env.now 0) p htype hne
    rw [hswitch] at hsamples hlast
    obtain ⟨htimeline, -, -⟩ := process_accepts (P := P) hacc htype hswitch
    have hstep : (Actor.step P a (env, .command i c)).hostDriftSamples = 0 ∧
        (Actor.step P a (env, .command i c)).lastHostAnchorUpdateMs = a.lastHostAnchorUpdateMs := by
      rw [Actor.step, htimeline]
      split
      · exact ⟨hsamples, hlast⟩
      · exact ⟨hsamples, hlast⟩
    refine ⟨hstep.2, fun hp => ?_⟩
    rw [Pending, hstep.1] at hp
    exact absurd hp.1 (by decide)
  · obtain ⟨hsame, hreply⟩ := process_not_accepts P env htype
      (fun p hp => hacc ⟨p, hp⟩)
    exact unsampled_of_timeline (by rw [Actor.step, hsame]) (not_carriesOut_of_reply hreply)

/-- A command that is none of the playback commands. -/
theorem unsampled_command {i : Identity} {c : Command} (htype : c.type.isPlayback = false) :
    Unsampled P a (env, .command i c) := by
  have hturn := turn P env a (.command i c)
  have hstep : Actor.step P a (env, .command i c) = (a.process P env (.command i c)).1 := rfl
  generalize hout : a.process P env (.command i c) = out at hturn hstep
  obtain ⟨a', reply⟩ := out
  have herror : ∀ e, reply = .command (.error e) → ¬CarriesOut P a (env, .command i c)
      CommandType.interrupts := by
    rintro e he
    refine not_carriesOut_of_reply (fun r hr => ?_)
    rw [hout, he] at hr
    cases hr
  have hother : c.type ≠ .roomMedia → ¬CarriesOut P a (env, .command i c)
      CommandType.interrupts := by
    intro hne
    refine not_carriesOut_of_type (fun i' c' heq => ?_)
    cases heq
    cases hc : c.type with
    | roomMedia => exact absurd hc hne
    | _ => first | rfl | (rw [hc] at htype; exact absurd htype (by decide))
  cases hturn with
  | stopped _ hs =>
      refine unsampled_of_timeline (by rw [hstep]) (not_carriesOut_of_reply (fun r hr => ?_))
      rw [hout] at hr
      cases hr
  | command i c a' r hlive hturn =>
      cases hturn with
      | refused e => exact unsampled_of_timeline (by rw [hstep]) (herror e rfl)
      | ignored hm hignored =>
          refine unsampled_of_timeline (by rw [hstep]) (hother (fun h => ?_))
          rw [h] at hignored
          exact absurd hignored (by decide)
      | readied p hm hready =>
          exact unsampled_of_timeline (by rw [hstep]; rfl) (hother (by rw [hready]; decide))
      | measured p s hm hready hhost hs =>
          subst hs
          refine ⟨by rw [hstep]; rfl, fun hp => ?_⟩
          rw [hstep] at hp ⊢
          exact ⟨hp, rfl, hother (by rw [hready]; decide)⟩
      | host p a' r hp hturn =>
          cases hturn with
          | refused e => exact unsampled_of_timeline (by rw [hstep]) (herror e rfl)
          | transferRefused m e store ht hm hguest hP =>
              exact unsampled_of_timeline (by rw [hstep]) (herror _ rfl)
          | transferred m store ht hm hguest hP =>
              exact unsampled_of_timeline (by rw [hstep]; rfl) (hother (by rw [ht]; decide))
          | kicked m ht hm hhost =>
              exact unsampled_of_timeline (by rw [hstep]; rfl) (hother (by rw [ht]; decide))
          | closeFailed e store ht hP =>
              exact unsampled_of_timeline (by rw [hstep]; rfl) (herror _ rfl)
          | closed store ht hP =>
              exact unsampled_of_timeline (by rw [hstep]; rfl) (hother (by rw [ht]; decide))
          | mediaRefused e store ht hid hP =>
              exact unsampled_of_timeline (by rw [hstep]) (herror _ rfl)
          | mediaSet store ht hid hP =>
              -- the film is loading, so no sample waits
              refine ⟨by rw [hstep]; rfl, fun hpend => ?_⟩
              rw [hstep] at hpend
              exact absurd hpend.2 (by simp [Core.withMedia, Actor.mediaPlayback,
                PlaybackState.bump])
          | playbackRefused t e hswitch =>
              obtain ⟨rfl, -⟩ := playbackSwitch_of_not_isPlayback htype hswitch
              exact unsampled_of_timeline (by rw [hstep]; rfl) (herror _ rfl)
          | playbackKept t hswitch =>
              exact absurd rfl ((playbackSwitch_of_not_isPlayback htype hswitch).2 false)
          | playbackChanged t s hswitch hs =>
              exact absurd rfl ((playbackSwitch_of_not_isPlayback htype hswitch).2 true)

/-- A message that is no command. -/
theorem unsampled_message (hm : ∀ i c, m ≠ .command i c) : Unsampled P a (env, m) := by
  have hcarries : ¬CarriesOut P a (env, m) CommandType.interrupts :=
    not_carriesOut_of_type (fun i c heq => absurd heq (hm i c))
  obtain ⟨reply, hturn⟩ := turn_step P env a m
  generalize hstep : Actor.step P a (env, m) = a' at hturn
  cases hturn with
  | command i c a' r hlive hturn => exact absurd rfl (hm i c)
  | joined c s hlive hstatus hroom hback hs =>
      subst hs
      exact unsampled_of_timeline (by rw [hstep]; rfl) hcarries
  | hostReturned c s hlive hroom hhost hstatus hs =>
      subst hs
      refine unsampled_of_timeline ?_ hcarries
      rw [hstep]
      exact (Core.hostBack_toTimeline _).trans rfl
  | hostLeft id client m s hlive hm' hclient hhost hstatus hs =>
      -- the room is paused, so no sample waits
      subst hs
      refine ⟨by rw [hstep]; rfl, fun hpend => ?_⟩
      rw [hstep] at hpend
      exact absurd hpend.2 (by simp [Core.hostAway, Core.armHostTimer, Actor.freeze,
        PlaybackState.bump])
  | tookOver hostID next m candidate s hlive hstatus hhost hchosen hsome hnext hcand hid hm' hguest hs =>
      subst hs
      exact unsampled_of_timeline (by rw [hstep]; rfl) hcarries
  | halted hlive =>
      refine unsampled_of_timeline ?_ hcarries
      rw [hstep]
      exact Core.halt_toTimeline _
  | _ => exact unsampled_of_timeline (congrArg (fun x => x.toTimeline) hstep) hcarries

variable (P env) in
theorem unsampled (hsample : ∀ i p, ¬Sampled a m i p) : Unsampled P a (env, m) := by
  by_cases hcommand : ∃ i c, m = .command i c
  · obtain ⟨i, c, rfl⟩ := hcommand
    cases htype : c.type.isPlayback with
    | true => exact unsampled_playback htype hsample
    | false => exact unsampled_command htype
  · exact unsampled_message (fun i c heq => hcommand ⟨i, c, heq⟩)

variable (P env) in
/-- A sample leaves the timeline that `acceptHostAnchorSample` returns, and the room. -/
theorem sampled_step {i : Identity} {p : CommandPayload} (h : Sampled a m i p) :
    ∃ t accepted, SampleTurn a.toTimeline (env.now 0) p t accepted ∧
      (Actor.step P a (env, m)).toTimeline =
        (if accepted then { t with playback := t.playback.bump } else t) ∧
      (Actor.step P a (env, m)).room = a.room ∧
      (Refreshes P a (env, m) ↔ accepted = true) := by
  obtain ⟨hacc, c, rfl⟩ := h
  obtain ⟨hlive, i', c', hm, hc, hp, hpos⟩ := id hacc
  have hturn := sampleTurn a.toTimeline (env.now 0) (p := p)
    (not_negative (fun hneg => hpos (Or.inl hneg)))
  rcases hresult : a.toTimeline.acceptHostAnchorSample (env.now 0) p.positionMs p.paused
    p.readyState with ⟨t, accepted⟩
  rw [hresult] at hturn
  have hswitch : a.toTimeline.playbackSwitch (env.now 0) .telemetryHostPlayback p =
      (t, .ok accepted) := by
    rw [Timeline.playbackSwitch, hresult]
  obtain ⟨htimeline, hroom, hreply⟩ := process_accepts (P := P) hacc rfl hswitch
  refine ⟨t, accepted, hturn, ?_, hroom, ?_⟩
  · rw [Actor.step, htimeline]
    cases accepted
    · rfl
    · rfl
  · have hcommand : IsCommand .telemetryHostPlayback (Msg.command i c) := by
      cases hm
      exact ⟨i, c, rfl, hc⟩
    constructor
    · rintro ⟨-, hstate⟩
      have hok := hreply.mp hstate
      cases hok
      rfl
    · rintro rfl
      exact ⟨hcommand, hreply.mpr rfl⟩

/-- Only a sample refreshes the anchor. -/
theorem Refreshes.sampled (h : Refreshes P a (env, m)) : ∃ i p, Sampled a m i p := by
  obtain ⟨⟨i, c, rfl, htype⟩, state, hreply⟩ := h
  by_contra hnone
  have hrefused := (process_not_accepts P env (by rw [htype]; rfl)
    (fun p hp => hnone ⟨i, p, htype ▸ hp, c, rfl⟩)).2
  exact hrefused _ hreply

end Steps

-- ============================================================================
-- Runs
-- ============================================================================

/-- A step of a run: the actor before it, and the message with its answers. -/
abbrev Taken (σ : Type) : Type := Actor σ × (Env × Msg)

/-- The steps of a run. -/
def taken (P : Persistence σ) (a : Actor σ) (ls : List (Env × Msg)) : List (Taken σ) :=
  history (Actor.step P) (fun a l => [(a, l)]) a ls

/-- A sample that came from `host`, healthy and drifting to one side. -/
def HostSample (host : String) (direction : Int) (e : Taken σ) : Prop :=
  ∃ i p, Sampled e.1 e.2.2 i p ∧ i.id = host ∧ Drifted e.1.playback (e.2.1.now 0) p direction

/-- The step is no sample, and carries out nothing that ends a candidate. -/
def Quiet (P : Persistence σ) (e : Taken σ) : Prop :=
  (∀ i p, ¬Sampled e.1 e.2.2 i p) ∧ ¬Interrupts P e.1 e.2

/-- What a refresh at the step `l` from `a`, after the steps `h`, rests on and changes. -/
structure RefreshRule (P : Persistence σ) (h : List (Taken σ)) (a : Actor σ) (l : Env × Msg) :
    Prop where
  /-- Every earlier refresh is 15 seconds old. -/
  rate : ∀ e ∈ h, Refreshes P e.1 e.2 → (e.2.1.now 0).toInt ≤ (l.1.now 0).toInt - 15000
  /-- This sample and the one before it drift to one side and came from the current host, and
      nothing that ends a candidate was between them. -/
  confirmed : ∃ direction, HostSample a.room.hostUserID direction (a, l) ∧
    Since (Quiet P) (HostSample a.room.hostUserID direction) h
  only : ∃ i p, Sampled a l.2 i p ∧ (Actor.step P a l).playback =
    { a.playback with
      anchorPositionMs := p.positionMs
      anchorServerTimeMs := l.1.now 0
      revision := a.playback.revision + 1 }

/-- While a sample waits the host does not change, and the clock is past 1970 when the host's
    heartbeat arrives. -/
def Settled (P : Persistence σ) (a : Actor σ) (l : Env × Msg) : Prop :=
  (Pending a.toCore → ¬ChangesHost P a l) ∧
    (IsCommand .telemetryHostPlayback l.2 → 0 < l.1.now 0)

/-- What the drift tracking says about the steps so far. -/
structure Tracked (P : Persistence σ) (h : List (Taken σ)) (a : Actor σ) : Prop where
  candidate : Pending a.toCore →
    Since (Quiet P) (HostSample a.room.hostUserID a.hostDriftDirection) h
  refreshed : ∀ e ∈ h, Refreshes P e.1 e.2 →
    0 < (e.2.1.now 0).toInt ∧ (e.2.1.now 0).toInt ≤ a.lastHostAnchorUpdateMs.toInt
  last_known : a.lastHostAnchorUpdateMs = 0 ∨ ∃ e ∈ h, e.2.1.now 0 = a.lastHostAnchorUpdateMs

theorem tracked_step {P : Persistence σ} {h : List (Taken σ)} {a : Actor σ} {l : Env × Msg}
    (ht : Tracked P h a) (hclock : ∀ e ∈ h, e.2.1.now 0 ≤ l.1.now 0) (hok : Settled P a l) :
    Tracked P (h ++ [(a, l)]) (Actor.step P a l) := by
  obtain ⟨env, m⟩ := l
  -- a step that keeps the time of the last refresh and is none itself
  have hkept : (Actor.step P a (env, m)).lastHostAnchorUpdateMs = a.lastHostAnchorUpdateMs →
      ¬Refreshes P a (env, m) →
      (∀ e ∈ h ++ [(a, (env, m))], Refreshes P e.1 e.2 → 0 < (e.2.1.now 0).toInt ∧
        (e.2.1.now 0).toInt ≤ (Actor.step P a (env, m)).lastHostAnchorUpdateMs.toInt) ∧
      ((Actor.step P a (env, m)).lastHostAnchorUpdateMs = 0 ∨
        ∃ e ∈ h ++ [(a, (env, m))], e.2.1.now 0 =
          (Actor.step P a (env, m)).lastHostAnchorUpdateMs) := by
    intro hlast hno
    rw [hlast]
    constructor
    · intro e he href
      rcases List.mem_append.mp he with he | he
      · exact ht.refreshed e he href
      · rw [List.mem_singleton.mp he] at href
        exact absurd href hno
    · rcases ht.last_known with hzero | ⟨e, he, heq⟩
      · exact Or.inl hzero
      · exact Or.inr ⟨e, List.mem_append_left _ he, heq⟩
  by_cases hsample : ∃ i p, Sampled a m i p
  · obtain ⟨i, p, hsampled⟩ := hsample
    obtain ⟨t, accepted, hturn, htimeline, hroom, href⟩ := sampled_step P env hsampled
    cases hturn with
    | cleared =>
        obtain ⟨h2, h3⟩ := hkept (by rw [htimeline]; rfl) (fun hr => absurd (href.mp hr) (by decide))
        refine ⟨fun hp => ?_, h2, h3⟩
        rw [Pending, htimeline] at hp
        exact absurd hp.1 (Nat.lt_irrefl 0)
    | counted direction hplaying hdrift =>
        have hlast : (Actor.step P a (env, m)).lastHostAnchorUpdateMs = a.lastHostAnchorUpdateMs := by
          rw [htimeline]
          exact countDriftSample_last _ _
        have hdirection : (Actor.step P a (env, m)).hostDriftDirection = direction := by
          rw [htimeline]
          exact countDriftSample_direction _ _
        obtain ⟨h2, h3⟩ := hkept hlast (fun hr => absurd (href.mp hr) (by decide))
        refine ⟨fun _ => since_snoc.mpr (Or.inl ?_), h2, h3⟩
        rw [hroom, hdirection]
        exact ⟨i, p, hsampled, hsampled.host, hdrift⟩
    | refreshed direction hplaying hdrift hcount hrate =>
        have hnow : (Actor.step P a (env, m)).lastHostAnchorUpdateMs = env.now 0 := by
          rw [htimeline]
          rfl
        obtain ⟨⟨hlive, i', c, hm, htype, hp, hpos⟩, -⟩ := hsampled
        have hpositive := hok.2 ⟨i', c, hm, htype⟩
        rw [Int64.lt_iff_toInt_lt, int64_toInt_zero] at hpositive
        refine ⟨fun hp => ?_, fun e he hr => ?_, Or.inr ⟨(a, (env, m)), by simp, hnow.symm⟩⟩
        · rw [Pending, htimeline] at hp
          exact absurd hp.1 (Nat.lt_irrefl 0)
        · rw [hnow]
          rcases List.mem_append.mp he with he | he
          · exact ⟨(ht.refreshed e he hr).1, Int64.le_iff_toInt_le.mp (hclock e he)⟩
          · rw [List.mem_singleton.mp he]
            exact ⟨hpositive, le_refl _⟩
  · have hun := unsampled P env (fun i p hs => hsample ⟨i, p, hs⟩)
    obtain ⟨h2, h3⟩ := hkept hun.last (fun hr => hsample hr.sampled)
    refine ⟨fun hp => ?_, h2, h3⟩
    obtain ⟨hpending, hdirection, hcarries⟩ := hun.pending hp
    have hhost := hok.1 hpending
    have hsame : (Actor.step P a (env, m)).room.hostUserID = a.room.hostUserID := by
      by_contra hne
      exact hhost (Or.inr hne)
    rw [hsame, hdirection]
    refine since_snoc.mpr (Or.inr ⟨ht.candidate hpending, fun i p hs => hsample ⟨i, p, hs⟩, ?_⟩)
    rintro (hinterrupt | hchange)
    · exact hcarries hinterrupt
    · exact hhost hchange

/-- A refresh after steps that the tracking speaks for. -/
theorem refreshRule_of_tracked {P : Persistence σ} {h : List (Taken σ)} {a : Actor σ}
    {l : Env × Msg} (ht : Tracked P h a) (hclock : ∀ e ∈ h, e.2.1.now 0 ≤ l.1.now 0)
    (href : Refreshes P a l) : RefreshRule P h a l := by
  obtain ⟨env, m⟩ := l
  obtain ⟨i, p, hsampled⟩ := href.sampled
  obtain ⟨t, accepted, hturn, htimeline, -, hacc⟩ := sampled_step P env hsampled
  cases hturn with
  | cleared => exact absurd (hacc.mp href) (by decide)
  | counted direction hplaying hdrift => exact absurd (hacc.mp href) (by decide)
  | refreshed direction hplaying hdrift hcount hrate =>
      obtain ⟨hpending, hdirection⟩ := pending_of_count hcount
      refine ⟨fun e he hr => ?_, ⟨direction, ⟨i, p, hsampled, hsampled.host, hdrift⟩, ?_⟩,
        i, p, hsampled, ?_⟩
      · obtain ⟨hpositive, hle⟩ := ht.refreshed e he hr
        have hlast : a.lastHostAnchorUpdateMs.toInt ≤ (env.now 0).toInt := by
          rcases ht.last_known with hzero | ⟨e', he', heq⟩
          · rw [hzero, int64_toInt_zero] at hle
            omega
          · rw [← heq]
            exact Int64.le_iff_toInt_le.mp (hclock e' he')
        have hsub : (env.now 0 - a.lastHostAnchorUpdateMs).toInt =
            (env.now 0).toInt - a.lastHostAnchorUpdateMs.toInt :=
          toInt_sub_of_nonneg (by omega) (by omega)
        have hinterval : hostAnchorMinIntervalMs.toInt = 15000 := by decide
        rw [not_and, Int64.lt_iff_toInt_lt, Int64.lt_iff_toInt_lt, hsub, int64_toInt_zero,
          hinterval] at hrate
        have hold := hrate (by omega)
        change (e.2.1.now 0).toInt ≤ (env.now 0).toInt - 15000
        omega
      · rw [← hdirection]
        exact ht.candidate ⟨hpending, hplaying⟩
      · rw [htimeline]
        rfl

theorem taken_snoc (P : Persistence σ) (a₀ : Actor σ) (pre : List (Env × Msg)) (l : Env × Msg) :
    taken P a₀ (pre ++ [l]) = taken P a₀ pre ++ [(Actor.runActor P a₀ pre, l)] := by
  rw [taken, history_append]
  rfl

/-- The steps of a run take its messages. -/
theorem mem_taken {P : Persistence σ} {a₀ : Actor σ} {ls : List (Env × Msg)} {e : Taken σ}
    (h : e ∈ taken P a₀ ls) : e.2 ∈ ls := by
  induction ls using List.reverseRecOn with
  | nil => exact absurd h List.not_mem_nil
  | append_singleton pre l ih =>
      rw [taken_snoc] at h
      rcases List.mem_append.mp h with h | h
      · exact List.mem_append_left _ (ih h)
      · rw [List.mem_singleton.mp h]
        exact List.mem_append_right _ List.mem_cons_self

/-- The clock does not go back from one message to a later one. -/
def ClockForward (ls : List (Env × Msg)) : Prop := ls.Pairwise (fun l l' => l.1.now 0 ≤ l'.1.now 0)

theorem ClockForward.before {ls pre post : List (Env × Msg)} {l : Env × Msg} (h : ClockForward ls)
    (hsplit : ls = pre ++ l :: post) : ∀ x ∈ pre, x.1.now 0 ≤ l.1.now 0 := by
  subst hsplit
  intro x hx
  exact (List.pairwise_append.mp h).2.2 x hx l List.mem_cons_self

theorem tracked_run {P : Persistence σ} {a₀ : Actor σ} (hinit : a₀.lastHostAnchorUpdateMs = 0)
    (hsamples : a₀.hostDriftSamples = 0) {ls : List (Env × Msg)} (hclock : ClockForward ls)
    (hok : EachStep (Actor.step P) (Settled P) a₀ ls) :
    Tracked P (taken P a₀ ls) (Actor.runActor P a₀ ls) := by
  induction ls using List.reverseRecOn with
  | nil =>
      refine ⟨fun hp => ?_, fun e he => absurd he List.not_mem_nil, Or.inl hinit⟩
      have hpending : 0 < a₀.hostDriftSamples := hp.1
      omega
  | append_singleton pre l ih =>
      have hbefore := hclock.before (l := l) rfl
      have hrun : Actor.runActor P a₀ (pre ++ [l]) = Actor.step P (Actor.runActor P a₀ pre) l := by
        simp [Actor.runActor]
      rw [taken_snoc, hrun]
      exact tracked_step (ih (List.pairwise_append.mp hclock).1 hok.before)
        (fun e he => hbefore e.2 (mem_taken he)) hok.at

/-- In a run whose host does not change while a sample waits, every refresh of the anchor by the
    host's heartbeat is confirmed by two samples of that host and is the first in 15 seconds. -/
theorem host_anchor_refresh (P : Persistence σ) (room : Room) (checkpoint : Option Checkpoint)
    (store : σ) (grace : Nat) (ls : List (Env × Msg)) (hclock : ClockForward ls)
    (hok : EachStep (Actor.step P) (Settled P) (newActor room checkpoint store grace) ls) :
    ∀ pre l post, ls = pre ++ l :: post →
      Refreshes P (Actor.runActor P (newActor room checkpoint store grace) pre) l →
        RefreshRule P (taken P (newActor room checkpoint store grace) pre)
          (Actor.runActor P (newActor room checkpoint store grace) pre) l := by
  intro pre l post hsplit href
  have hbefore := hclock.before hsplit
  subst hsplit
  have htracked : Tracked P (taken P (newActor room checkpoint store grace) pre)
      (Actor.runActor P (newActor room checkpoint store grace) pre) :=
    tracked_run rfl rfl (List.pairwise_append.mp hclock).1 hok.before
  exact refreshRule_of_tracked htracked (fun e he => hbefore e.2 (mem_taken he)) href

-- ============================================================================
-- Two samples
-- ============================================================================

/-- Two members join, and the host plays. -/
def playingRun : List (Env × Msg) :=
  [(Env.at 1000, .join (userClient 1 "h")),
   (Env.at 1000, .join (userClient 2 "g")),
   (Env.at 1000, .command (user "h") (hostCommand .playbackPlay "" 0 "")),
   (Env.at 7000, .command (user "h") (hostCommand .telemetryHostPlayback "" 8000 ""))]

/-- The host's second sample, and one of the other member. -/
def secondSample : Env × Msg :=
  (Env.at 12000, .command (user "h") (hostCommand .telemetryHostPlayback "" 13000 ""))

/-- A sample of the second host. -/
def otherSample : Env × Msg :=
  (Env.at 12000, .command (user "g") (hostCommand .telemetryHostPlayback "" 13000 ""))

/-- The host hands the room over to the other member. -/
def handOver : Env × Msg :=
  (Env.at 9000, .command (user "h") (hostCommand .roomTransferHost "g" 0 ""))

theorem settled_of_no_transfer {P : Persistence σ} {a : Actor σ} {l : Env × Msg}
    (htype : ∀ i c, l.2 = .command i c → c.type ≠ .roomTransferHost)
    (hhost : (Actor.step P a l).room.hostUserID = a.room.hostUserID) (hclock : 0 < l.1.now 0) :
    Settled P a l := by
  refine ⟨fun _ hchange => ?_, fun _ => hclock⟩
  rcases hchange with ⟨i, c, r, hm, hc, -⟩ | hne
  · exact htype i c hm (of_decide_eq_true hc)
  · exact hne hhost

/-- Two samples of one host refresh the anchor. -/
theorem host_anchor_refresh_twice :
    RefreshRule (.answering (.ok ()) []) (taken (.answering (.ok ()) []) stillActor playingRun)
      (Actor.runActor (.answering (.ok ()) []) stillActor playingRun) secondSample := by
  refine host_anchor_refresh (.answering (.ok ()) []) _ none () 60 (playingRun ++ [secondSample])
    ?_ ?_ playingRun secondSample [] rfl ⟨⟨user "h", _, rfl, rfl⟩, _, rfl⟩
  · unfold ClockForward
    decide
  · rw [playingRun, secondSample]
    simp only [List.cons_append, List.nil_append, eachStep_cons]
    refine ⟨?_, ?_, ?_, ?_, ?_, eachStep_nil _ _⟩
    · exact settled_of_no_transfer (by simp) (by decide) (by decide)
    · exact settled_of_no_transfer (by simp) (by decide) (by decide)
    · refine settled_of_no_transfer (fun i c h => ?_) (by decide) (by decide)
      cases h
      decide
    · refine settled_of_no_transfer (fun i c h => ?_) (by decide) (by decide)
      cases h
      decide
    · refine settled_of_no_transfer (fun i c h => ?_) (by decide) (by decide)
      cases h
      decide

/-- The first sample of a new host refreshes the anchor, with one of the old host before it. -/
theorem anchor_refreshed_by_two_hosts :
    ClockForward (playingRun ++ [handOver, otherSample]) ∧
    Refreshes (.answering (.ok ()) [])
      (Actor.runActor (.answering (.ok ()) []) stillActor (playingRun ++ [handOver])) otherSample ∧
    ¬RefreshRule (.answering (.ok ()) [])
      (taken (.answering (.ok ()) []) stillActor (playingRun ++ [handOver]))
      (Actor.runActor (.answering (.ok ()) []) stillActor (playingRun ++ [handOver]))
      otherSample := by
  refine ⟨by unfold ClockForward; decide, ⟨⟨user "g", _, rfl, rfl⟩, _, rfl⟩, ?_⟩
  rintro ⟨-, ⟨direction, -, pre, e, post, hsplit, ⟨i, p, hsampled, hid, -⟩, -⟩, -⟩
  have hhost : (Actor.runActor (.answering (.ok ()) []) stillActor
      (playingRun ++ [handOver])).room.hostUserID = "g" := by
    decide
  rw [hhost] at hid
  have hmem := mem_taken (hsplit ▸ List.mem_append_right _ List.mem_cons_self)
  obtain ⟨⟨-, i', c', hm', htype, -⟩, c, hm⟩ := hsampled
  rw [hm] at hm'
  cases hm'
  -- the only heartbeat in the run so far is that of the old host
  simp only [playingRun, handOver, List.cons_append, List.nil_append, List.mem_cons,
    List.not_mem_nil, or_false] at hmem
  rcases hmem with heq | heq | heq | heq | heq
  · rw [heq] at hm
    cases hm
  · rw [heq] at hm
    cases hm
  · rw [heq] at hm
    cases hm
    exact absurd htype (by decide)
  · rw [heq] at hm
    cases hm
    exact absurd hid (by decide)
  · rw [heq] at hm
    cases hm
    exact absurd htype (by decide)

end WatchTogether.Rooms

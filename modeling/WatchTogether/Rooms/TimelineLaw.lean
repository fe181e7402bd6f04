/-
  WatchTogether.Rooms.TimelineLaw

  The expected position over time, in the 64-bit arithmetic of `Expected`: never negative,
  never past a known duration, standing still unless the room plays, and never going back
  as long as the position fits into an `int64`.

  Where the duration is unknown no check bounds a position, so a host can put the anchor
  next to the largest `int64`: the sum wraps and the room falls back to zero.
-/

import WatchTogether.Rooms.BufferingIntent
import WatchTogether.Rooms.ExactTimeline

namespace WatchTogether.Rooms

-- ============================================================================
-- Reached actors
-- ============================================================================

/-- The actors of a room over all lives of the server: a first one without a checkpoint,
    those that messages lead to, and those built from a checkpoint that one of them writes. -/
inductive Reached {σ : Type} (P : Persistence σ) : Actor σ → Prop
  | created (room : Room) (store : σ) (grace : Nat) : Reached P (newActor room none store grace)
  | handled {a : Actor σ} (h : Reached P a) (env : Env) (m : Msg) :
      Reached P (Actor.step P a (env, m))
  | restarted {a : Actor σ} (h : Reached P a) (env : Env) (k : Nat) (room : Room) (store : σ)
      (grace : Nat) : Reached P (newActor room (some (a.toCore.checkpoint env k)) store grace)

/-- The position of the anchor is not negative, and the rate is one of those offered. -/
structure Anchored (s : PlaybackState) : Prop where
  anchor : 0 ≤ s.anchorPositionMs.toInt
  rate : validRate s.playbackRate = true

theorem validRate_bounds {v : ℚ} (h : validRate v = true) : 0 < v ∧ v ≤ 3 := by
  simp only [validRate, List.any_cons, List.any_nil, Bool.or_false, Bool.or_eq_true,
    decide_eq_true_eq, abs_lt] at h
  constructor
  · obtain h | h | h | h | h | h := h <;> linarith [h.1]
  · obtain h | h | h | h | h | h := h <;> linarith [h.2]

theorem validRate_one : validRate 1 = true := by
  norm_num [validRate]

theorem PlaybackState.expected_nonneg (s : PlaybackState) (now : Int64) :
    0 ≤ (s.expected now).toInt := by
  rw [PlaybackState.expected, clampPosition_toInt]
  exact clampInt_nonneg _ _

theorem not_negative {x : Int64} (h : ¬ x < 0) : 0 ≤ x.toInt := by
  rw [Int64.lt_iff_toInt_lt, int64_toInt_zero] at h
  omega

theorem Anchored.frozen {s : PlaybackState} (h : Anchored s) (now : Int64) :
    Anchored (Actor.freeze s now) :=
  ⟨s.expected_nonneg now, h.rate⟩

theorem Anchored.media {s : PlaybackState} (now : Int64) (p : CommandPayload) :
    Anchored (Actor.mediaPlayback s now p) :=
  ⟨by simp [Actor.mediaPlayback, PlaybackState.bump], validRate_one⟩

/-- An anchor sample moves the anchor to its position, or leaves it. -/
theorem anchored_acceptHostAnchorSample {t : Timeline} (h : Anchored t.playback)
    {positionMs : Int64} (hpos : 0 ≤ positionMs.toInt) (now : Int64) (paused : Bool)
    (readyState : Int) :
    Anchored (t.acceptHostAnchorSample now positionMs paused readyState).1.playback := by
  rw [Timeline.acceptHostAnchorSample]
  split
  · exact h
  dsimp only
  split
  · exact h
  generalize (if positionMs - t.playback.expected now < 0 then (-1 : Int) else 1) = direction
  have hcount : Anchored (t.countDriftSample direction).playback := by
    rw [Timeline.countDriftSample_playback]
    exact h
  split
  · exact hcount
  split
  · exact hcount
  · exact ⟨hpos, hcount.rate⟩

/-- Every playback command keeps the anchor, takes a position that passed its check, or
    freezes the expected one. -/
theorem anchored_playbackSwitch {t : Timeline} (h : Anchored t.playback) (now : Int64)
    (type : CommandType) {p : CommandPayload} (hpos : 0 ≤ p.positionMs.toInt) :
    Anchored (t.playbackSwitch now type p).1.playback := by
  cases type with
  | playbackPlay => exact ⟨hpos, h.rate⟩
  | playbackPause => exact ⟨hpos, h.rate⟩
  | playbackSeek => exact ⟨hpos, h.rate⟩
  | playbackRate =>
      rw [Timeline.playbackSwitch]
      dsimp only
      split
      · rename_i hrate
        exact ⟨PlaybackState.expected_nonneg _ _, hrate⟩
      · exact h
  | playbackHostBuffering => exact ⟨hpos, h.rate⟩
  | playbackHostReady =>
      rw [Timeline.playbackSwitch]
      dsimp only
      split
      · exact ⟨h.anchor, h.rate⟩
      · exact h
  | telemetryHostPlayback =>
      exact anchored_acceptHostAnchorSample h hpos now p.paused p.readyState
  | playbackEnded => exact ⟨hpos, h.rate⟩
  | _ => exact h

section Steps

variable {σ : Type} {P : Persistence σ}

/-- A playback command with a negative position does nothing. -/
theorem applyHost_negative {env : Env} {a : Actor σ} {type : CommandType} {p : CommandPayload}
    (htype : type.isPlayback = true) (hneg : p.positionMs < 0) :
    (a.applyHost P env type p).1 = a := by
  rw [applyHost_isPlayback P env a p htype, Actor.applyPlayback, if_pos (.inl hneg)]

theorem anchored_applyHost {env : Env} {a : Actor σ} (h : Anchored a.playback)
    (type : CommandType) (p : CommandPayload) :
    Anchored (a.applyHost P env type p).1.playback := by
  by_cases hrefused : type.isPlayback = true ∧ p.positionMs < 0
  · rw [applyHost_negative hrefused.1 hrefused.2]
    exact h
  have hturn := hostTurn P env a type p
  generalize a.applyHost P env type p = out at hturn ⊢
  obtain ⟨a', r⟩ := out
  cases hturn with
  | mediaSet store htype hid hP => exact .media _ _
  | playbackRefused t e hswitch =>
      show Anchored t.playback
      rw [Timeline.playbackSwitch_kept hswitch (by simp)]
      exact h
  | playbackKept t hswitch =>
      show Anchored t.playback
      rw [Timeline.playbackSwitch_kept hswitch (by simp)]
      exact h
  | playbackChanged t s hswitch hs =>
      have hpos : 0 ≤ p.positionMs.toInt :=
        not_negative (fun hneg => hrefused ⟨Timeline.playbackSwitch_isPlayback hswitch, hneg⟩)
      have hnext := anchored_playbackSwitch h (env.now 0) type hpos
      rw [hswitch] at hnext
      subst hs
      exact ⟨hnext.anchor, hnext.rate⟩
  | _ => exact h

theorem anchored_apply {env : Env} {a : Actor σ} (h : Anchored a.playback) (i : Identity)
    (c : Command) : Anchored (a.apply P env i c).1.playback := by
  cases hp : a.toCore.authorised i c with
  | some p =>
      rw [apply_authorised P env hp]
      exact anchored_applyHost h c.type p
  | none =>
      have hturn := commandTurn P env a i c
      generalize a.apply P env i c = out at hturn ⊢
      obtain ⟨a', r⟩ := out
      cases hturn with
      | measured p s hm hready hhost hs =>
          subst hs
          exact ⟨h.anchor, h.rate⟩
      | host p a' r hp' hturn => exact absurd (hp.symm.trans hp') (by simp)
      | _ => exact h

theorem anchored_step {a : Actor σ} (h : Anchored a.playback) (env : Env) (m : Msg) :
    Anchored (Actor.step P a (env, m)).playback := by
  by_cases hcommand : ∃ i c, m = .command i c
  · obtain ⟨i, c, rfl⟩ := hcommand
    rw [Actor.step, Actor.process]
    split
    · exact h
    · exact anchored_apply h i c
  obtain ⟨r, hturn⟩ := turn_step P env a m
  generalize Actor.step P a (env, m) = a' at hturn ⊢
  cases hturn with
  | command i c a' r hlive hturn => exact absurd ⟨i, c, rfl⟩ hcommand
  | joined c s hlive hstatus hroom hback hs =>
      subst hs
      exact h
  | hostReturned c s hlive hroom hhost hstatus hs =>
      subst hs
      rw [show ((a.toCore.enter c (env.now 0)).hostBack).playback = a.playback by
        rw [Core.hostBack_toTimeline]; rfl]
      exact h
  | hostLeft id client m s hlive hm hclient hhost hstatus hs =>
      subst hs
      exact h.frozen (env.now 1)
  | tookOver hostID next m candidate s hlive hstatus hhost hchosen hsome hnext hcand hid hm hguest hs =>
      subst hs
      exact h
  | halted hlive =>
      show Anchored a.toCore.halt.playback
      rw [Core.halt_toTimeline]
      exact h
  | _ => exact h

/-- What a checkpoint stores of an anchored timeline is anchored. -/
theorem Anchored.restart {s : Core} (h : Anchored s.playback) (env : Env) (k : Nat) (room : Room)
    (store : σ) (grace : Nat) :
    Anchored (newActor room (some (s.checkpoint env k)) store grace).playback := by
  refine ⟨?_, h.rate⟩
  show 0 ≤ (s.checkpoint env k).positionMs.toInt
  rw [Core.checkpoint]
  dsimp only
  split
  · exact PlaybackState.expected_nonneg _ _
  · exact h.anchor

theorem Reached.anchored {a : Actor σ} (h : Reached P a) : Anchored a.playback := by
  induction h with
  | created room store grace => exact ⟨by simp [newActor], validRate_one⟩
  | handled h env m ih => exact anchored_step ih env m
  | restarted h env k room store grace ih => exact ih.restart env k room store grace

end Steps

-- ============================================================================
-- The law
-- ============================================================================

/-- What the timeline shows at two server times, one not before the other. -/
structure TimelineLaw (s : PlaybackState) (now now' : Int64) : Prop where
  nonneg : 0 ≤ s.expected now
  mono : s.expected now ≤ s.expected now'
  bounded : 0 < s.durationMs → s.expected now ≤ s.durationMs
  still : s.phase ≠ .playing → s.expected now = s.expected now'

/-- The law at all server times up to `limit`. -/
def LawUntil (s : PlaybackState) (limit : Int64) : Prop :=
  ∀ now now', now ≤ now' → now' ≤ limit → TimelineLaw s now now'

namespace PlaybackState

theorem sinceAnchor_mono {s : PlaybackState} {now now' : Int64} (h : now ≤ now') :
    s.sinceAnchor now ≤ s.sinceAnchor now' := by
  have hint := Int64.le_iff_toInt_le.mp h
  rw [sinceAnchor, sinceAnchor]
  omega

theorem sinceAnchor_pos {s : PlaybackState} {now : Int64} (h : s.anchorServerTimeMs < now) :
    0 < s.sinceAnchor now := by
  have hint := Int64.lt_iff_toInt_lt.mp h
  rw [sinceAnchor]
  omega

theorem Fits.before {s : PlaybackState} {now limit : Int64} (h : s.Fits limit)
    (hrate : 0 ≤ s.playbackRate) (hle : now ≤ limit) : s.Fits now := by
  intro hplaying hlater
  obtain ⟨hsince, hsum⟩ := h hplaying (Int64.lt_of_lt_of_le hlater hle)
  have hspan := s.sinceAnchor_mono hle
  have hadvance := truncMul_mono (s.sinceAnchor_pos hlater).le hspan hrate
  exact ⟨by omega, by omega⟩

theorem unclamped_mono {s : PlaybackState} {now now' : Int64} (hrate : 0 ≤ s.playbackRate)
    (hle : now ≤ now') : s.unclamped now ≤ s.unclamped now' := by
  rw [unclamped, unclamped]
  split
  · rename_i hplaying
    rw [if_pos ⟨hplaying.1, Int64.lt_of_lt_of_le hplaying.2 hle⟩]
    have hadvance := truncMul_mono (s.sinceAnchor_pos hplaying.2).le (s.sinceAnchor_mono hle) hrate
    omega
  · split
    · rename_i hplaying
      have hadvance := truncMul_nonneg (s.sinceAnchor_pos hplaying.2).le hrate
      omega
    · exact le_refl _

end PlaybackState

/-- Up to the time at which the position still fits, the law holds. -/
theorem law_of_fits {s : PlaybackState} (h : Anchored s) {limit : Int64} (hfits : s.Fits limit) :
    LawUntil s limit := by
  intro now now' hle hlimit
  have hrate := (validRate_bounds h.rate).1.le
  have hfits' := hfits.before hrate hlimit
  have hexact := PlaybackState.expected_toInt h.anchor hrate (hfits'.before hrate hle)
  have hexact' := PlaybackState.expected_toInt h.anchor hrate hfits'
  refine ⟨?_, ?_, ?_, ?_⟩
  · rw [Int64.le_iff_toInt_le, int64_toInt_zero]
    exact s.expected_nonneg now
  · rw [Int64.le_iff_toInt_le, hexact, hexact']
    exact clampInt_mono (PlaybackState.unclamped_mono hrate hle)
  · intro hduration
    rw [Int64.lt_iff_toInt_lt, int64_toInt_zero] at hduration
    rw [Int64.le_iff_toInt_le, hexact]
    exact clampInt_le hduration _
  · intro hphase
    rw [PlaybackState.expected_of_not_playing hphase, PlaybackState.expected_of_not_playing hphase]

/-- Where the position outgrows an `int64`, it falls back to zero. -/
theorem falls_back {s : PlaybackState} (h : Anchored s) {limit : Int64}
    (hplaying : s.phase = .playing) (hlater : s.anchorServerTimeMs < limit)
    (hspan : s.sinceAnchor limit < 2 ^ 63)
    (hover : 2 ^ 63 ≤ s.anchorPositionMs.toInt + truncMul (s.sinceAnchor limit) s.playbackRate) :
    ∃ now now', now ≤ now' ∧ now' ≤ limit ∧ s.expected now' < s.expected now := by
  obtain ⟨hrate, hrate3⟩ := validRate_bounds h.rate
  -- the position by the milliseconds since the anchor
  let f : Nat → Int := fun n => s.anchorPositionMs.toInt + truncMul n s.playbackRate
  have hstep : ∀ n, f (n + 1) ≤ f n + 3 := by
    intro n
    have hsucc := truncMul_succ_le (k := 3) (Int.natCast_nonneg n) hrate.le (by exact_mod_cast hrate3)
    simp only [f, Nat.cast_add, Nat.cast_one]
    omega
  have hzero : f 0 < 2 ^ 63 := by
    have hbound := Int64.toInt_lt s.anchorPositionMs
    simpa [f, truncMul] using hbound
  have hpos := s.sinceAnchor_pos hlater
  have hend : 2 ^ 63 ≤ f (s.sinceAnchor limit).toNat := by
    simp only [f, Int.toNat_of_nonneg hpos.le]
    exact hover
  obtain ⟨n, hn, hbelow, habove, hclose⟩ := exists_crossing hstep hzero hend
  -- the two times
  have hlow := Int64.le_toInt s.anchorServerTimeMs
  have hhigh := Int64.toInt_lt limit
  have hspan' : s.sinceAnchor limit = limit.toInt - s.anchorServerTimeMs.toInt := rfl
  have htime : ∀ m : Nat, (m : Int) ≤ s.sinceAnchor limit →
      (Int64.ofInt (s.anchorServerTimeMs.toInt + m)).toInt = s.anchorServerTimeMs.toInt + m := by
    intro m hm
    exact Int64.toInt_ofInt_of_le (by omega) (by omega)
  have hn1 : ((n + 1 : Nat) : Int) ≤ s.sinceAnchor limit := by omega
  have hnow := htime n (by omega)
  have hnow' := htime (n + 1) hn1
  generalize Int64.ofInt (s.anchorServerTimeMs.toInt + n) = now at hnow
  generalize Int64.ofInt (s.anchorServerTimeMs.toInt + (n + 1 : Nat)) = now' at hnow'
  refine ⟨now, now', ?_, ?_, ?_⟩
  · rw [Int64.le_iff_toInt_le, hnow, hnow']
    omega
  · rw [Int64.le_iff_toInt_le, hnow']
    omega
  have hsince : s.sinceAnchor now = n := by
    rw [PlaybackState.sinceAnchor, hnow]
    omega
  have hsince' : s.sinceAnchor now' = (n + 1 : Nat) := by
    rw [PlaybackState.sinceAnchor, hnow']
    omega
  have hafter : s.anchorServerTimeMs < now' := by
    rw [Int64.lt_iff_toInt_lt, hnow']
    omega
  -- the later one reads a negative sum
  have hfallen : (s.expected now').toInt = 0 := by
    rw [PlaybackState.expected, clampPosition_toInt, if_pos ⟨hplaying, hafter⟩,
      PlaybackState.advance_toInt hafter (by omega), hsince']
    have hneg := bmod_of_crossing habove hclose (by norm_num)
    rw [clampInt, if_pos hneg]
  have hbefore : 0 < (s.expected now).toInt := by
    have hvalue : s.unclamped now = f n := by
      rw [PlaybackState.unclamped]
      split
      · simp only [f, hsince]
      · rename_i hnot
        have hfirst : n = 0 := by
          by_contra hne
          refine hnot ⟨hplaying, ?_⟩
          rw [Int64.lt_iff_toInt_lt, hnow]
          omega
        simp [f, hfirst, truncMul]
    have hfits : s.Fits now := by
      intro _ _
      rw [hsince]
      exact ⟨by omega, hbelow⟩
    rw [PlaybackState.expected_toInt h.anchor hrate.le hfits, hvalue]
    exact clampInt_pos (by have := hstep n; omega)
  rw [Int64.lt_iff_toInt_lt]
  omega

/-- **Timeline law.**  At every reached state, the law holds up to `limit` if the position
    still fits into an `int64` there; and it holds only then, unless the time since the anchor
    alone outgrows one. -/
theorem timeline_law_iff_fits {σ : Type} (P : Persistence σ) {a : Actor σ} (h : Reached P a)
    (limit : Int64) :
    (a.playback.Fits limit → LawUntil a.playback limit) ∧
    (a.playback.sinceAnchor limit < 2 ^ 63 → LawUntil a.playback limit → a.playback.Fits limit) := by
  refine ⟨law_of_fits h.anchored, ?_⟩
  intro hspan hlaw hplaying hlater
  refine ⟨hspan, ?_⟩
  by_contra hover
  obtain ⟨now, now', hle, hlimit, hfall⟩ :=
    falls_back h.anchored hplaying hlater hspan (by omega)
  exact absurd (hlaw now now' hle hlimit).mono (Int64.not_le.mpr hfall)

-- ============================================================================
-- The largest position
-- ============================================================================

/-- The host of a room with a film of unknown length joins at 0 and plays from `positionMs`
    at 1000. -/
def playingFrom (positionMs : Int64) : Actor Unit :=
  Actor.runActor (Persistence.answering (.ok ()) [])
    (newActor { smallRoom "h" with mediaID := some "m" } none () 30000)
    [(Env.at 0, .join (userClient 1 "h")),
     (Env.at 1000, .command (user "h") (hostCommand .playbackPlay "" positionMs ""))]

theorem reached_playingFrom (positionMs : Int64) :
    Reached (Persistence.answering (.ok ()) []) (playingFrom positionMs) :=
  ((Reached.created _ _ _).handled _ _).handled _ _

theorem timeline_law_playing :
    LawUntil (playingFrom 5000).playback 1000000 ∧
    (LawUntil (playingFrom 9223372036854775807).playback 2000 →
      (playingFrom 9223372036854775807).playback.Fits 2000) := by
  refine ⟨(timeline_law_iff_fits _ (reached_playingFrom 5000) 1000000).1 ?_, ?_⟩
  · intro _ _
    decide +kernel
  · exact (timeline_law_iff_fits _ (reached_playingFrom _) 2000).2 (by decide +kernel)

/-- A position next to the largest `int64` is accepted while the length is unknown; one
    millisecond after the start the room is back at zero. -/
theorem timeline_falls_back :
    ¬ ∀ a, Reached (Persistence.answering (.ok ()) []) a →
      ∀ now now', now ≤ now' → TimelineLaw a.playback now now' := by
  intro h
  have hlaw := h _ (reached_playingFrom 9223372036854775807) 1350 1351 (by decide)
  have hfall : ¬ (playingFrom 9223372036854775807).playback.expected 1350 ≤
      (playingFrom 9223372036854775807).playback.expected 1351 := by decide +kernel
  exact hfall hlaw.mono

end WatchTogether.Rooms

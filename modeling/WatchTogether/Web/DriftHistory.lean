/-
  WatchTogether.Web.DriftHistory

  `DriftCorrector` over the history of its calls: what the five fields remember of all
  `correct` and `reset` calls so far, when it seeks, and when it changes the rate.
-/

import WatchTogether.Lib.History
import WatchTogether.Lib.LabelledRun
import WatchTogether.Web.DriftCorrector
import Mathlib.Tactic.Linarith
import Mathlib.Tactic.Positivity
import Mathlib.Tactic.Ring
import Mathlib.Tactic.GCongr
import Mathlib.Tactic.NormNum

namespace WatchTogether.Web.DriftCorrector

open LabelledRun

-- ============================================================================
-- What a call can do
-- ============================================================================

/-- The sign of a drift that is not zero. -/
def direction (driftMs : ℚ) : Int := if driftMs < 0 then -1 else 1

/-- The controller after a hard seek. -/
def seeked (nowMs : ℚ) (d : DriftCorrector) : DriftCorrector :=
  { d with
    lastHardSeekAt := some nowMs, holdUntil := nowMs + postSeekSettleMs, correcting := false
    }.clearHardCandidate

/-- What `correct` answers, and the controller it leaves. -/
inductive Corrects (expectedMs actualMs roomRate nowMs : ℚ) (d : DriftCorrector) :
    Correction → DriftCorrector → Prop
  | held (h : nowMs < d.holdUntil) :
      Corrects expectedMs actualMs roomRate nowMs d ⟨.noop, roomRate, actualMs - expectedMs, none⟩ d
  | released (h : d.holdUntil ≤ nowMs) (hsmall : |actualMs - expectedMs| ≤ driftReleaseMs) :
      Corrects expectedMs actualMs roomRate nowMs d ⟨.noop, roomRate, actualMs - expectedMs, none⟩
        { d with correcting := false }.clearHardCandidate
  | tolerated (h : d.holdUntil ≤ nowMs) (hlarge : driftReleaseMs < |actualMs - expectedMs|)
      (hidle : d.correcting = false) (hsmall : |actualMs - expectedMs| < softCorrectionThresholdMs) :
      Corrects expectedMs actualMs roomRate nowMs d ⟨.noop, roomRate, actualMs - expectedMs, none⟩
        d.clearHardCandidate
  | softened (h : d.holdUntil ≤ nowMs) (hlarge : driftReleaseMs < |actualMs - expectedMs|)
      (hactive : d.correcting = true ∨ softCorrectionThresholdMs ≤ |actualMs - expectedMs|)
      (hsmall : |actualMs - expectedMs| < hardSeekThresholdMs) :
      Corrects expectedMs actualMs roomRate nowMs d (soften (actualMs - expectedMs) roomRate)
        { d with correcting := true }.clearHardCandidate
  | waited (h : d.holdUntil ≤ nowMs) (hlarge : hardSeekThresholdMs ≤ |actualMs - expectedMs|)
      (hdue : (d.candidate (direction (actualMs - expectedMs)) nowMs).seekDue nowMs = false) :
      Corrects expectedMs actualMs roomRate nowMs d (soften (actualMs - expectedMs) roomRate)
        { d.candidate (direction (actualMs - expectedMs)) nowMs with correcting := true }
  | seeked (h : d.holdUntil ≤ nowMs) (hlarge : hardSeekThresholdMs ≤ |actualMs - expectedMs|)
      (hdue : (d.candidate (direction (actualMs - expectedMs)) nowMs).seekDue nowMs = true) :
      Corrects expectedMs actualMs roomRate nowMs d
        ⟨.hardSeek, roomRate, actualMs - expectedMs, some expectedMs⟩
        (d.candidate (direction (actualMs - expectedMs)) nowMs |>.seeked nowMs)

theorem candidate_correcting (direction : Int) (nowMs : ℚ) (d : DriftCorrector) :
    ({ d with correcting := true } : DriftCorrector).candidate direction nowMs
      = { d.candidate direction nowMs with correcting := true } := by
  unfold candidate
  split <;> rfl

theorem corrects (expectedMs actualMs roomRate nowMs : ℚ) (d : DriftCorrector) :
    Corrects expectedMs actualMs roomRate nowMs d
      (d.correct expectedMs actualMs roomRate nowMs).1
      (d.correct expectedMs actualMs roomRate nowMs).2 := by
  have hdir : (if actualMs - expectedMs < 0 then (-1 : Int) else 1)
      = direction (actualMs - expectedMs) := rfl
  unfold correct
  dsimp only
  rw [hdir]
  simp only [candidate_correcting]
  split_ifs with hheld hrelease htolerate hhard hdue
  · exact .held hheld
  · exact .released (not_lt.mp hheld) hrelease
  · exact .tolerated (not_lt.mp hheld) (not_le.mp hrelease) htolerate.1 htolerate.2
  · exact .seeked (not_lt.mp hheld) hhard hdue
  · exact .waited (not_lt.mp hheld) hhard (Bool.not_eq_true _ ▸ hdue)
  · refine .softened (not_lt.mp hheld) (not_le.mp hrelease) ?_ (not_le.mp hhard)
    by_contra hidle
    rw [not_or] at hidle
    exact htolerate ⟨Bool.not_eq_true _ ▸ hidle.1, not_le.mp hidle.2⟩

-- ============================================================================
-- Calls
-- ============================================================================

/-- A call of the corrector. -/
inductive Call where
  | correct (expectedMs actualMs roomRate nowMs : ℚ)
  | reset (nowMs settleMs : ℚ)

/-- The time of the call. -/
def Call.nowMs : Call → ℚ
  | correct _ _ _ nowMs => nowMs
  | reset nowMs _ => nowMs

/-- What the call returns. -/
def answer (d : DriftCorrector) : Call → Option Correction
  | .correct expectedMs actualMs roomRate nowMs =>
      some (d.correct expectedMs actualMs roomRate nowMs).1
  | .reset _ _ => none

/-- The corrector after the call. -/
def step (d : DriftCorrector) : Call → DriftCorrector
  | .correct expectedMs actualMs roomRate nowMs =>
      (d.correct expectedMs actualMs roomRate nowMs).2
  | .reset nowMs settleMs => d.reset nowMs settleMs

/-- A call, with the controller it finds. -/
structure Event where
  before : DriftCorrector
  call : Call

/-- The calls, each with the corrector it finds. -/
def trace (d : DriftCorrector) : List Call → List Event
  | [] => []
  | c :: cs => ⟨d, c⟩ :: trace (d.step c) cs

theorem trace_append (d : DriftCorrector) (cs cs' : List Call) :
    trace d (cs ++ cs') = trace d cs ++ trace (run step d cs) cs' := by
  induction cs generalizing d with
  | nil => rfl
  | cons c cs ih => exact congrArg (_ :: ·) (ih _)

theorem trace_snoc (d : DriftCorrector) (cs : List Call) (c : Call) :
    trace d (cs ++ [c]) = trace d cs ++ [⟨run step d cs, c⟩] :=
  trace_append d cs [c]

/-- The calls of a trace are its own. -/
theorem trace_calls (d : DriftCorrector) (cs : List Call) :
    (trace d cs).map (fun e => e.call) = cs := by
  induction cs generalizing d with
  | nil => rfl
  | cons c cs ih => exact congrArg (c :: ·) (ih _)

/-- A prefix of a trace is the trace of a prefix. -/
theorem trace_split {d : DriftCorrector} {cs : List Call} {pre post : List Event} {e : Event}
    (h : trace d cs = pre ++ e :: post) :
    ∃ cs₁ cs₂, cs = cs₁ ++ e.call :: cs₂ ∧ pre = trace d cs₁ ∧ e.before = run step d cs₁ := by
  induction pre generalizing d cs with
  | nil =>
      cases cs with
      | nil => cases h
      | cons c cs =>
          obtain ⟨rfl, -⟩ := List.cons.inj h
          exact ⟨[], cs, rfl, rfl, rfl⟩
  | cons x pre ih =>
      cases cs with
      | nil => cases h
      | cons c cs =>
          obtain ⟨rfl, hrest⟩ := List.cons.inj h
          obtain ⟨cs₁, cs₂, rfl, rfl, hbefore⟩ := ih hrest
          exact ⟨c :: cs₁, cs₂, rfl, rfl, hbefore⟩

namespace Event

/-- What the call returns. -/
def result (e : Event) : Option Correction := e.before.answer e.call

/-- The call finds the controller in a hold window. -/
def held (e : Event) : Prop := e.call.nowMs < e.before.holdUntil

/-- The call answers with a seek. -/
def seeks (e : Event) : Prop := ∃ c, e.result = some c ∧ c.type = .hardSeek

/-- A `correct` call with a drift that has `p`. -/
def Drifts (p : ℚ → Prop) (e : Event) : Prop :=
  ∃ expectedMs actualMs roomRate nowMs,
    e.call = .correct expectedMs actualMs roomRate nowMs ∧ p (actualMs - expectedMs)

/-- A `correct` call with a drift large enough for a seek, in the given direction. -/
def Large (dir : Int) (e : Event) : Prop :=
  e.Drifts (fun drift => hardSeekThresholdMs ≤ |drift| ∧ direction drift = dir)

/-- A `correct` call is answered with the room's rate. -/
def Idle (e : Event) : Prop :=
  ∀ expectedMs actualMs roomRate nowMs, e.call = .correct expectedMs actualMs roomRate nowMs →
    ∃ c, e.result = some c ∧ c.type = .noop ∧ c.rate = roomRate

end Event

-- ============================================================================
-- The hold window
-- ============================================================================

/-- The time is before the hold window's end: the first window ends at zero, and each seek
    and each reset opens one. -/
def Held (h : List Event) (t : ℚ) : Prop :=
  t < 0 ∨ ∃ e ∈ h, (e.seeks ∧ t < e.call.nowMs + postSeekSettleMs) ∨
    ∃ nowMs settleMs, e.call = .reset nowMs settleMs ∧ t < nowMs + settleMs

theorem held_snoc {h : List Event} {e : Event} {t : ℚ} :
    Held (h ++ [e]) t ↔ Held h t ∨ (e.seeks ∧ t < e.call.nowMs + postSeekSettleMs) ∨
      ∃ nowMs settleMs, e.call = .reset nowMs settleMs ∧ t < nowMs + settleMs := by
  constructor
  · rintro (hzero | ⟨x, hx, hwindow⟩)
    · exact .inl (.inl hzero)
    · rcases List.mem_append.mp hx with hx | hx
      · exact .inl (.inr ⟨x, hx, hwindow⟩)
      · obtain rfl := List.mem_singleton.mp hx
        exact .inr hwindow
  · rintro ((hzero | ⟨x, hx, hwindow⟩) | hwindow)
    · exact .inl hzero
    · exact .inr ⟨x, List.mem_append_left _ hx, hwindow⟩
    · exact .inr ⟨e, List.mem_append_right _ (List.mem_singleton_self e), hwindow⟩

@[simp] theorem candidate_holdUntil (dir : Int) (nowMs : ℚ) (d : DriftCorrector) :
    (d.candidate dir nowMs).holdUntil = d.holdUntil := by
  unfold candidate
  split <;> rfl

@[simp] theorem candidate_lastHardSeekAt (dir : Int) (nowMs : ℚ) (d : DriftCorrector) :
    (d.candidate dir nowMs).lastHardSeekAt = d.lastHardSeekAt := by
  unfold candidate
  split <;> rfl

theorem soften_type_ne (driftMs roomRate : ℚ) : (soften driftMs roomRate).type ≠ .hardSeek := by
  unfold soften
  dsimp only
  split <;> simp

/-- The event of a `correct` call seeks exactly if the answer does. -/
theorem seeks_iff (expectedMs actualMs roomRate nowMs : ℚ) (d : DriftCorrector) :
    (⟨d, .correct expectedMs actualMs roomRate nowMs⟩ : Event).seeks
      ↔ (d.correct expectedMs actualMs roomRate nowMs).1.type = .hardSeek := by
  constructor
  · rintro ⟨c, hc, htype⟩
    obtain rfl := Option.some.inj hc
    exact htype
  · intro htype
    exact ⟨_, rfl, htype⟩

theorem not_seeks_reset (d : DriftCorrector) (nowMs settleMs : ℚ) :
    ¬(⟨d, .reset nowMs settleMs⟩ : Event).seeks := by
  rintro ⟨c, hc, -⟩
  cases hc

/-- A `correct` call that is no seek leaves the hold window; a seek finds none and opens
    one. -/
theorem correct_holdUntil (expectedMs actualMs roomRate nowMs : ℚ) (d : DriftCorrector) :
    ((d.correct expectedMs actualMs roomRate nowMs).1.type ≠ .hardSeek ∧
      (d.correct expectedMs actualMs roomRate nowMs).2.holdUntil = d.holdUntil) ∨
    ((d.correct expectedMs actualMs roomRate nowMs).1.type = .hardSeek ∧
      d.holdUntil ≤ nowMs ∧
      (d.correct expectedMs actualMs roomRate nowMs).2.holdUntil = nowMs + postSeekSettleMs) := by
  have hturn := corrects expectedMs actualMs roomRate nowMs d
  generalize (d.correct expectedMs actualMs roomRate nowMs).1 = c at hturn ⊢
  generalize (d.correct expectedMs actualMs roomRate nowMs).2 = d' at hturn ⊢
  cases hturn with
  | held h => exact .inl ⟨by simp, rfl⟩
  | released h hsmall => exact .inl ⟨by simp, rfl⟩
  | tolerated h hlarge hidle hsmall => exact .inl ⟨by simp, rfl⟩
  | softened h hlarge hactive hsmall => exact .inl ⟨soften_type_ne _ _, rfl⟩
  | waited h hlarge hdue => exact .inl ⟨soften_type_ne _ _, candidate_holdUntil ..⟩
  | seeked h hlarge hdue => exact .inr ⟨rfl, h, rfl⟩

/-- **Hold window.**  `holdUntil` is the latest end of all windows. -/
theorem lt_holdUntil_iff (cs : List Call) (t : ℚ) :
    t < (run step initial cs).holdUntil ↔ Held (trace initial cs) t := by
  induction cs using List.reverseRecOn with
  | nil => simp [Held, trace, initial]
  | append_singleton cs c ih =>
      rw [trace_snoc, held_snoc, ← ih, run_append, run_cons, run_nil]
      generalize run step initial cs = d
      cases c with
      | reset nowMs settleMs =>
          have hreset : (d.step (.reset nowMs settleMs)).holdUntil
              = max d.holdUntil (nowMs + settleMs) := rfl
          rw [hreset, lt_max_iff]
          constructor
          · rintro (hold | hnew)
            · exact .inl hold
            · exact .inr (.inr ⟨nowMs, settleMs, rfl, hnew⟩)
          · rintro (hold | ⟨hseek, -⟩ | ⟨_, _, heq, hnew⟩)
            · exact .inl hold
            · exact absurd hseek (not_seeks_reset _ _ _)
            · obtain ⟨rfl, rfl⟩ := Call.reset.inj heq
              exact .inr hnew
      | correct expectedMs actualMs roomRate nowMs =>
          have hseeks := seeks_iff expectedMs actualMs roomRate nowMs d
          rcases correct_holdUntil expectedMs actualMs roomRate nowMs d with
            ⟨htype, hhold⟩ | ⟨htype, hopen, hhold⟩
          · rw [show (d.step (.correct expectedMs actualMs roomRate nowMs)).holdUntil = _ from hhold]
            constructor
            · exact .inl
            · rintro (hold | ⟨hseek, -⟩ | ⟨_, _, heq, -⟩)
              · exact hold
              · exact absurd (hseeks.mp hseek) htype
              · cases heq
          · rw [show (d.step (.correct expectedMs actualMs roomRate nowMs)).holdUntil = _ from hhold]
            constructor
            · exact fun hnew => .inr (.inl ⟨hseeks.mpr htype, hnew⟩)
            · rintro (hold | ⟨-, hnew⟩ | ⟨_, _, heq, -⟩)
              · have hsettle : (0 : ℚ) < postSeekSettleMs := by norm_num [postSeekSettleMs]
                linarith
              · exact hnew
              · cases heq

theorem held_iff {cs : List Call} {pre post : List Event} {e : Event}
    (h : trace initial cs = pre ++ e :: post) : e.held ↔ Held pre e.call.nowMs := by
  obtain ⟨cs₁, cs₂, -, rfl, hbefore⟩ := trace_split h
  rw [Event.held, hbefore]
  exact lt_holdUntil_iff cs₁ _

-- ============================================================================
-- The latch of the soft correction
-- ============================================================================

/-- What switches the correction on. -/
def Starts (e : Event) : Prop :=
  ¬e.held ∧ e.Drifts (fun drift => softCorrectionThresholdMs ≤ |drift|) ∧ ¬e.seeks

/-- What does not switch it off. -/
def Keeps (e : Event) : Prop :=
  ¬(¬e.held ∧ e.Drifts (fun drift => |drift| ≤ driftReleaseMs)) ∧
    (∀ nowMs settleMs, e.call ≠ .reset nowMs settleMs) ∧ ¬e.seeks

theorem drifts_iff {p : ℚ → Prop} {d : DriftCorrector} {expectedMs actualMs roomRate nowMs : ℚ} :
    (⟨d, .correct expectedMs actualMs roomRate nowMs⟩ : Event).Drifts p
      ↔ p (actualMs - expectedMs) := by
  constructor
  · rintro ⟨_, _, _, _, heq, hp⟩
    obtain ⟨rfl, rfl, rfl, rfl⟩ := Call.correct.inj heq
    exact hp
  · intro hp
    exact ⟨_, _, _, _, rfl, hp⟩

/-- The correction changes the rate. -/
def Soft (c : Correction) : Prop := c.type = .softSpeedUp ∨ c.type = .softSlowDown

theorem soft_soften (driftMs roomRate : ℚ) : Soft (soften driftMs roomRate) := by
  unfold soften
  dsimp only
  split
  · exact .inl rfl
  · exact .inr rfl

theorem not_soft_of_noop {c : Correction} (h : c.type = .noop) : ¬Soft c := by
  rintro (hup | hdown)
  · exact absurd (h.symm.trans hup) (by decide)
  · exact absurd (h.symm.trans hdown) (by decide)

/-- The latch after a `correct` call. -/
theorem correct_correcting (expectedMs actualMs roomRate nowMs : ℚ) (d : DriftCorrector) :
    (d.correct expectedMs actualMs roomRate nowMs).2.correcting = true ↔
      Starts ⟨d, .correct expectedMs actualMs roomRate nowMs⟩ ∨
        (d.correcting = true ∧ Keeps ⟨d, .correct expectedMs actualMs roomRate nowMs⟩) := by
  have hturn := corrects expectedMs actualMs roomRate nowMs d
  have hseeks := seeks_iff expectedMs actualMs roomRate nowMs d
  have hreset : ∀ t settle, (⟨d, .correct expectedMs actualMs roomRate nowMs⟩ : Event).call
      ≠ .reset t settle := fun _ _ => Call.noConfusion
  have hheld : (⟨d, .correct expectedMs actualMs roomRate nowMs⟩ : Event).held
      ↔ nowMs < d.holdUntil := Iff.rfl
  simp only [Starts, Keeps, drifts_iff, hheld, hseeks]
  generalize (d.correct expectedMs actualMs roomRate nowMs).1 = c at hturn ⊢
  generalize (d.correct expectedMs actualMs roomRate nowMs).2 = d' at hturn ⊢
  have hgap : driftReleaseMs < softCorrectionThresholdMs := by
    norm_num [driftReleaseMs, softCorrectionThresholdMs]
  cases hturn with
  | held h =>
      constructor
      · exact fun hon => .inr ⟨hon, fun hout => hout.1 h, hreset, by simp⟩
      · rintro (⟨hout, -⟩ | ⟨hon, -⟩)
        · exact absurd h hout
        · exact hon
  | released h hsmall =>
      constructor
      · exact fun hon => Bool.noConfusion hon
      · rintro (⟨-, hlarge, -⟩ | ⟨-, hkeep, -⟩)
        · exact absurd (hlarge.trans hsmall) (not_le.mpr hgap)
        · exact absurd ⟨not_lt.mpr h, hsmall⟩ hkeep
  | tolerated h hlarge hidle hsmall =>
      constructor
      · exact fun hon => absurd (hidle.symm.trans hon) (by decide)
      · rintro (⟨-, hon, -⟩ | ⟨hon, -⟩)
        · exact absurd hon (not_le.mpr hsmall)
        · exact absurd (hidle.symm.trans hon) (by decide)
  | softened h hlarge hactive hsmall =>
      refine ⟨fun _ => ?_, fun _ => rfl⟩
      rcases hactive with hon | hon
      · exact .inr ⟨hon, fun hout => absurd hout.2 (not_le.mpr hlarge), hreset,
          soften_type_ne _ _⟩
      · exact .inl ⟨not_lt.mpr h, hon, soften_type_ne _ _⟩
  | waited h hlarge hdue =>
      have hhard : softCorrectionThresholdMs ≤ hardSeekThresholdMs := by
        norm_num [softCorrectionThresholdMs, hardSeekThresholdMs]
      exact ⟨fun _ => .inl ⟨not_lt.mpr h, hhard.trans hlarge, soften_type_ne _ _⟩, fun _ => rfl⟩
  | seeked h hlarge hdue =>
      constructor
      · exact fun hon => Bool.noConfusion hon
      · rintro (⟨-, -, hno⟩ | ⟨-, -, -, hno⟩)
        · exact absurd rfl hno
        · exact absurd rfl hno

/-- **Latch.**  The controller corrects exactly if something has switched it on since. -/
theorem correcting_iff (cs : List Call) :
    (run step initial cs).correcting = true ↔ History.Since Keeps Starts (trace initial cs) := by
  induction cs using List.reverseRecOn with
  | nil => simp [trace, initial]
  | append_singleton cs c ih =>
      rw [trace_snoc, History.since_snoc, ← ih, run_append, run_cons, run_nil]
      generalize run step initial cs = d
      cases c with
      | correct expectedMs actualMs roomRate nowMs =>
          exact correct_correcting expectedMs actualMs roomRate nowMs d
      | reset nowMs settleMs =>
          constructor
          · exact fun hon => Bool.noConfusion hon
          · rintro (⟨-, ⟨_, _, _, _, heq, -⟩, -⟩ | ⟨-, -, hkeep, -⟩)
            · cases heq
            · exact absurd rfl (hkeep nowMs settleMs)

/-- Outside the hold window, a call that does not seek changes the rate exactly if the latch
    is on after it. -/
theorem correct_soft_iff {expectedMs actualMs roomRate nowMs : ℚ} {d : DriftCorrector}
    (hopen : d.holdUntil ≤ nowMs)
    (htype : (d.correct expectedMs actualMs roomRate nowMs).1.type ≠ .hardSeek) :
    (Soft (d.correct expectedMs actualMs roomRate nowMs).1 ↔
      (d.correct expectedMs actualMs roomRate nowMs).2.correcting = true) ∧
    (¬Soft (d.correct expectedMs actualMs roomRate nowMs).1 →
      (d.correct expectedMs actualMs roomRate nowMs).1.type = .noop ∧
      (d.correct expectedMs actualMs roomRate nowMs).1.rate = roomRate) := by
  have hturn := corrects expectedMs actualMs roomRate nowMs d
  generalize (d.correct expectedMs actualMs roomRate nowMs).1 = c at hturn htype ⊢
  generalize (d.correct expectedMs actualMs roomRate nowMs).2 = d' at hturn ⊢
  cases hturn with
  | held h => exact absurd h (not_lt.mpr hopen)
  | released h hsmall =>
      exact ⟨iff_of_false (not_soft_of_noop rfl) (by simp [clearHardCandidate]),
        fun _ => ⟨rfl, rfl⟩⟩
  | tolerated h hlarge hidle hsmall =>
      refine ⟨iff_of_false (not_soft_of_noop rfl) ?_, fun _ => ⟨rfl, rfl⟩⟩
      exact fun hon => absurd (hidle.symm.trans hon) (by decide)
  | softened h hlarge hactive hsmall =>
      exact ⟨iff_of_true (soft_soften ..) rfl, fun hno => absurd (soft_soften ..) hno⟩
  | waited h hlarge hdue =>
      exact ⟨iff_of_true (soft_soften ..) rfl, fun hno => absurd (soft_soften ..) hno⟩
  | seeked h hlarge hdue => exact absurd rfl htype

-- ============================================================================
-- The rate of a soft correction
-- ============================================================================

/-- How far a drift is between the release and the seek threshold. -/
def scale (driftMs : ℚ) : ℚ :=
  min 1 (max 0 ((|driftMs| - driftReleaseMs) / (hardSeekThresholdMs - driftReleaseMs)))

theorem scale_nonneg (driftMs : ℚ) : 0 ≤ scale driftMs :=
  le_min zero_le_one (le_max_left ..)

theorem scale_le_one (driftMs : ℚ) : scale driftMs ≤ 1 := min_le_left ..

theorem scale_mono {driftMs driftMs' : ℚ} (h : |driftMs| ≤ |driftMs'|) :
    scale driftMs ≤ scale driftMs' := by
  unfold scale
  have hwidth : (0 : ℚ) ≤ hardSeekThresholdMs - driftReleaseMs := by
    norm_num [hardSeekThresholdMs, driftReleaseMs]
  gcongr

theorem soften_of_neg {driftMs : ℚ} (h : driftMs < 0) (roomRate : ℚ) :
    soften driftMs roomRate
      = ⟨.softSpeedUp, roomRate * (1 + (8 / 1000 + scale driftMs * (42 / 1000))), driftMs, none⟩ :=
  if_pos h

theorem soften_of_nonneg {driftMs : ℚ} (h : 0 ≤ driftMs) (roomRate : ℚ) :
    soften driftMs roomRate
      = ⟨.softSlowDown, roomRate * (1 - (6 / 1000 + scale driftMs * (24 / 1000))), driftMs, none⟩ :=
  if_neg (not_lt.mpr h)

/-- A client behind the room plays faster, by 0.8 to 5 per cent. -/
theorem soften_fast {driftMs roomRate : ℚ} (h : driftMs < 0) (hrate : 0 < roomRate) :
    roomRate * (1 + 8 / 1000) ≤ (soften driftMs roomRate).rate ∧
      (soften driftMs roomRate).rate ≤ roomRate * (105 / 100) := by
  have hlow := scale_nonneg driftMs
  have hhigh := scale_le_one driftMs
  rw [soften_of_neg h]
  constructor
  · exact mul_le_mul_of_nonneg_left (by linarith) hrate.le
  · exact mul_le_mul_of_nonneg_left (by linarith) hrate.le

/-- A client ahead of the room plays slower, by 0.6 to 3 per cent. -/
theorem soften_slow {driftMs roomRate : ℚ} (h : 0 ≤ driftMs) (hrate : 0 < roomRate) :
    roomRate * (97 / 100) ≤ (soften driftMs roomRate).rate ∧
      (soften driftMs roomRate).rate ≤ roomRate * (1 - 6 / 1000) := by
  have hlow := scale_nonneg driftMs
  have hhigh := scale_le_one driftMs
  rw [soften_of_nonneg h]
  constructor
  · exact mul_le_mul_of_nonneg_left (by linarith) hrate.le
  · exact mul_le_mul_of_nonneg_left (by linarith) hrate.le

/-- The farther the client is off, the farther its rate is from the room's. -/
theorem soften_gain {driftMs driftMs' roomRate : ℚ} (hrate : 0 < roomRate)
    (htype : (soften driftMs roomRate).type = (soften driftMs' roomRate).type)
    (h : |driftMs| ≤ |driftMs'|) :
    |(soften driftMs roomRate).rate - roomRate| ≤ |(soften driftMs' roomRate).rate - roomRate| := by
  have hscale := scale_mono h
  have hlow := scale_nonneg driftMs
  have hlow' := scale_nonneg driftMs'
  rcases lt_or_ge driftMs 0 with hneg | hpos
  · rcases lt_or_ge driftMs' 0 with hneg' | hpos'
    · have heq : ∀ x : ℚ, roomRate * (1 + (8 / 1000 + x * (42 / 1000))) - roomRate
          = roomRate * (8 / 1000 + x * (42 / 1000)) := fun x => by ring
      rw [soften_of_neg hneg, soften_of_neg hneg', heq, heq, abs_of_nonneg (by positivity),
        abs_of_nonneg (by positivity)]
      gcongr
    · rw [soften_of_neg hneg, soften_of_nonneg hpos'] at htype
      cases htype
  · rcases lt_or_ge driftMs' 0 with hneg' | hpos'
    · rw [soften_of_nonneg hpos, soften_of_neg hneg'] at htype
      cases htype
    · have heq : ∀ x : ℚ, roomRate * (1 - (6 / 1000 + x * (24 / 1000))) - roomRate
          = -(roomRate * (6 / 1000 + x * (24 / 1000))) := fun x => by ring
      rw [soften_of_nonneg hpos, soften_of_nonneg hpos', heq, heq, abs_neg, abs_neg,
        abs_of_nonneg (by positivity), abs_of_nonneg (by positivity)]
      gcongr

/-- Every answer is the room's rate, or that of a soft correction. -/
theorem correct_rate (expectedMs actualMs roomRate nowMs : ℚ) (d : DriftCorrector) :
    (¬Soft (d.correct expectedMs actualMs roomRate nowMs).1 ∧
      (d.correct expectedMs actualMs roomRate nowMs).1.rate = roomRate) ∨
    (driftReleaseMs < |actualMs - expectedMs| ∧
      (d.correct expectedMs actualMs roomRate nowMs).1 = soften (actualMs - expectedMs) roomRate) := by
  have hturn := corrects expectedMs actualMs roomRate nowMs d
  generalize (d.correct expectedMs actualMs roomRate nowMs).1 = c at hturn ⊢
  generalize (d.correct expectedMs actualMs roomRate nowMs).2 = d' at hturn
  cases hturn with
  | held h => exact .inl ⟨not_soft_of_noop rfl, rfl⟩
  | released h hsmall => exact .inl ⟨not_soft_of_noop rfl, rfl⟩
  | tolerated h hlarge hidle hsmall => exact .inl ⟨not_soft_of_noop rfl, rfl⟩
  | softened h hlarge hactive hsmall => exact .inr ⟨hlarge, rfl⟩
  | waited h hlarge hdue =>
      refine .inr ⟨lt_of_lt_of_le ?_ hlarge, rfl⟩
      norm_num [driftReleaseMs, hardSeekThresholdMs]
  | seeked h hlarge hdue => exact .inl ⟨by simp [Soft], rfl⟩

-- ============================================================================
-- Hysteresis
-- ============================================================================

/-- The rate that an answer to a drift may have. -/
structure Bounded (roomRate driftMs : ℚ) (c : Correction) : Prop where
  low : 97 / 100 * roomRate ≤ c.rate
  high : c.rate ≤ 105 / 100 * roomRate
  above : roomRate < c.rate ↔ c.type = .softSpeedUp
  below : c.rate < roomRate ↔ c.type = .softSlowDown
  behind : c.type = .softSpeedUp → driftMs < 0
  ahead : c.type = .softSlowDown → 0 < driftMs

theorem bounded_correct (expectedMs actualMs nowMs : ℚ) {roomRate : ℚ} (hrate : 0 < roomRate)
    (d : DriftCorrector) :
    Bounded roomRate (actualMs - expectedMs) (d.correct expectedMs actualMs roomRate nowMs).1 := by
  rcases correct_rate expectedMs actualMs roomRate nowMs d with ⟨hsoft, heq⟩ | ⟨hlarge, heq⟩
  · have hup := fun h => hsoft (.inl h)
    have hdown := fun h => hsoft (.inr h)
    exact ⟨by linarith, by linarith, iff_of_false (by linarith) hup,
      iff_of_false (by linarith) hdown, fun h => absurd h hup, fun h => absurd h hdown⟩
  · rw [heq]
    generalize actualMs - expectedMs = driftMs at hlarge ⊢
    rcases lt_or_ge driftMs 0 with hneg | hpos
    · obtain ⟨hlow, hhigh⟩ := soften_fast hneg hrate
      have hup : (soften driftMs roomRate).type = .softSpeedUp := by rw [soften_of_neg hneg]
      have hdown : (soften driftMs roomRate).type ≠ .softSlowDown := by
        rw [hup]
        decide
      exact ⟨by linarith, by linarith, iff_of_true (by linarith) hup,
        iff_of_false (by linarith) hdown, fun _ => hneg, fun h => absurd h hdown⟩
    · obtain ⟨hlow, hhigh⟩ := soften_slow hpos hrate
      have hdown : (soften driftMs roomRate).type = .softSlowDown := by rw [soften_of_nonneg hpos]
      have hup : (soften driftMs roomRate).type ≠ .softSpeedUp := by
        rw [hdown]
        decide
      refine ⟨by linarith, by linarith, iff_of_false (by linarith) hup,
        iff_of_true (by linarith) hdown, fun h => absurd h hup, fun _ => ?_⟩
      rw [abs_of_nonneg hpos] at hlarge
      exact lt_trans (by norm_num [driftReleaseMs]) hlarge

/-- The law of the soft correction over a history of calls. -/
structure HysteresisLaw (es : List Event) : Prop where
  /-- What the hold window is. -/
  window : ∀ pre e post, es = pre ++ e :: post → (e.held ↔ Held pre e.call.nowMs)
  hysteresis : ∀ pre e post, es = pre ++ e :: post → ∀ c, e.result = some c → ¬e.held → ¬e.seeks →
    (Soft c ↔ History.Since Keeps Starts (pre ++ [e])) ∧ (¬Soft c → e.Idle)
  bounds : ∀ e ∈ es, ∀ expectedMs actualMs roomRate nowMs,
    e.call = .correct expectedMs actualMs roomRate nowMs → 0 < roomRate →
      ∀ c, e.result = some c → Bounded roomRate (actualMs - expectedMs) c
  gain : ∀ e ∈ es, ∀ e' ∈ es, ∀ expectedMs actualMs nowMs expectedMs' actualMs' nowMs' roomRate,
    e.call = .correct expectedMs actualMs roomRate nowMs →
    e'.call = .correct expectedMs' actualMs' roomRate nowMs' → 0 < roomRate →
    ∀ c c', e.result = some c → e'.result = some c' → Soft c → c.type = c'.type →
      |actualMs - expectedMs| ≤ |actualMs' - expectedMs'| →
        |c.rate - roomRate| ≤ |c'.rate - roomRate|

/-- **Hysteresis.**  The law of the soft correction, for every sequence of calls. -/
theorem hysteresis_law (cs : List Call) : HysteresisLaw (trace initial cs) := by
  constructor
  · intro pre e post h
    exact held_iff h
  · intro pre e post h c hc hheld hseeks
    obtain ⟨cs₁, cs₂, -, rfl, hbefore⟩ := trace_split h
    obtain ⟨d, call⟩ := e
    cases call with
    | reset nowMs settleMs => cases hc
    | correct expectedMs actualMs roomRate nowMs =>
        obtain rfl := Option.some.inj hc
        have hopen : d.holdUntil ≤ nowMs := not_lt.mp hheld
        have htype := fun htype => hseeks ((seeks_iff expectedMs actualMs roomRate nowMs d).mpr htype)
        obtain ⟨hsoft, hnoop⟩ := correct_soft_iff hopen htype
        have hlatch := correcting_iff (cs₁ ++ [.correct expectedMs actualMs roomRate nowMs])
        rw [trace_snoc, run_append, run_cons, run_nil, ← hbefore] at hlatch
        refine ⟨hsoft.trans hlatch, ?_⟩
        intro hno _ _ _ _ heq
        obtain ⟨rfl, rfl, rfl, rfl⟩ := Call.correct.inj heq
        exact ⟨_, rfl, hnoop hno⟩
  · rintro ⟨d, call⟩ - expectedMs actualMs roomRate nowMs rfl hrate c hc
    obtain rfl := Option.some.inj hc
    exact bounded_correct expectedMs actualMs nowMs hrate d
  · rintro ⟨d, call⟩ - ⟨d', call'⟩ - expectedMs actualMs nowMs expectedMs' actualMs' nowMs' roomRate
      rfl rfl hrate c c' hc hc' hsoft htype hle
    obtain rfl := Option.some.inj hc
    obtain rfl := Option.some.inj hc'
    rcases correct_rate expectedMs actualMs roomRate nowMs d with ⟨hno, -⟩ | ⟨-, heq⟩
    · exact absurd hsoft hno
    rcases correct_rate expectedMs' actualMs' roomRate nowMs' d' with ⟨hno, -⟩ | ⟨-, heq'⟩
    · refine absurd ?_ hno
      rcases hsoft with hup | hdown
      · exact .inl (htype.symm.trans hup)
      · exact .inr (htype.symm.trans hdown)
    rw [heq, heq'] at htype ⊢
    exact soften_gain hrate htype hle

-- ============================================================================
-- The evidence for a hard seek
-- ============================================================================

theorem direction_ne_zero (driftMs : ℚ) : direction driftMs ≠ 0 := by
  unfold direction
  split <;> decide

/-- What the candidate and the last seek stand for. -/
structure Evidence (h : List Event) (d : DriftCorrector) : Prop where
  /-- All calls since the candidate's start had a large drift in its direction. -/
  candidate : ∀ since, d.hardCandidateSince = some since → d.holdUntil ≤ since ∧
    History.Since (Event.Large d.hardCandidateDirection)
      (fun e => e.Large d.hardCandidateDirection ∧ e.call.nowMs = since) h
  none : d.hardCandidateSince = none → d.hardCandidateDirection = 0
  seeks : ∀ e ∈ h, e.seeks → ∃ last, d.lastHardSeekAt = some last ∧ e.call.nowMs ≤ last

/-- The candidate is gone, and the last seek is as before. -/
theorem Evidence.cleared {h : List Event} {d d' : DriftCorrector} {e : Event}
    (hd : Evidence h d) (hsince : d'.hardCandidateSince = Option.none)
    (hdir : d'.hardCandidateDirection = 0) (hlast : d'.lastHardSeekAt = d.lastHardSeekAt)
    (he : ¬e.seeks) : Evidence (h ++ [e]) d' := by
  refine ⟨?_, fun _ => hdir, ?_⟩
  · intro since hs
    exact absurd (hsince.symm.trans hs) (by simp)
  · intro x hx hseek
    rcases List.mem_append.mp hx with hx | hx
    · rw [hlast]
      exact hd.seeks x hx hseek
    · obtain rfl := List.mem_singleton.mp hx
      exact absurd hseek he

theorem large_iff {dir : Int} {d : DriftCorrector} {expectedMs actualMs roomRate nowMs : ℚ} :
    (⟨d, .correct expectedMs actualMs roomRate nowMs⟩ : Event).Large dir ↔
      hardSeekThresholdMs ≤ |actualMs - expectedMs| ∧ direction (actualMs - expectedMs) = dir :=
  drifts_iff

/-- A large drift in a new direction starts over, one in the candidate's direction adds to
    it. -/
theorem Evidence.grown {h : List Event} {d : DriftCorrector} {drift nowMs : ℚ} {e : Event}
    (hd : Evidence h d) (hopen : d.holdUntil ≤ nowMs) (he : e.Large (direction drift))
    (hnow : e.call.nowMs = nowMs) :
    ∃ since, (d.candidate (direction drift) nowMs).hardCandidateSince = some since ∧
      d.holdUntil ≤ since ∧ (d.candidate (direction drift) nowMs).hardCandidateDirection
        = direction drift ∧
      History.Since (Event.Large (direction drift))
        (fun e => e.Large (direction drift) ∧ e.call.nowMs = since) (h ++ [e]) ∧
      (since = nowMs ∨ (d.hardCandidateSince = some since ∧
        d.hardCandidateDirection = direction drift)) := by
  unfold DriftCorrector.candidate
  split_ifs with hdir
  · refine ⟨nowMs, rfl, hopen, rfl, ?_, .inl rfl⟩
    exact History.since_snoc.mpr (.inl ⟨he, hnow⟩)
  · have hsame := not_not.mp hdir
    cases hsince : d.hardCandidateSince with
    | none =>
        rw [hd.none hsince] at hsame
        exact absurd hsame (direction_ne_zero drift)
    | some since =>
        obtain ⟨hhold, hkept⟩ := hd.candidate since hsince
        rw [← hsame] at hkept
        exact ⟨since, rfl, hhold, hsame.symm, History.since_snoc.mpr (.inr ⟨hkept, he⟩),
          .inr ⟨rfl, hsame.symm⟩⟩

theorem evidence_correct {h : List Event} {d : DriftCorrector}
    {expectedMs actualMs roomRate nowMs : ℚ} (hd : Evidence h d)
    (hlater : ∀ e ∈ h, e.call.nowMs ≤ nowMs) :
    Evidence (h ++ [⟨d, .correct expectedMs actualMs roomRate nowMs⟩])
      (d.correct expectedMs actualMs roomRate nowMs).2 := by
  have hturn := corrects expectedMs actualMs roomRate nowMs d
  have hseeks := seeks_iff expectedMs actualMs roomRate nowMs d
  generalize (d.correct expectedMs actualMs roomRate nowMs).1 = c at hturn hseeks
  generalize (d.correct expectedMs actualMs roomRate nowMs).2 = d' at hturn ⊢
  cases hturn with
  | held hheld =>
      have hno : ¬(⟨d, .correct expectedMs actualMs roomRate nowMs⟩ : Event).seeks :=
        fun hseek => absurd (hseeks.mp hseek) (by simp)
      -- a candidate has been started outside the window, so there is none
      have hnone : d.hardCandidateSince = none := by
        cases hsince : d.hardCandidateSince with
        | none => rfl
        | some since =>
            obtain ⟨hhold, pre, e, post, rfl, ⟨-, he⟩, -⟩ := hd.candidate since hsince
            have hle := hlater e (by simp)
            linarith
      exact hd.cleared hnone (hd.none hnone) rfl hno
  | released hopen hsmall =>
      exact hd.cleared rfl rfl rfl (fun hseek => absurd (hseeks.mp hseek) (by simp))
  | tolerated hopen hlarge hidle hsmall =>
      exact hd.cleared rfl rfl rfl (fun hseek => absurd (hseeks.mp hseek) (by simp))
  | softened hopen hlarge hactive hsmall =>
      exact hd.cleared rfl rfl rfl (fun hseek => soften_type_ne _ _ (hseeks.mp hseek))
  | waited hopen hlarge hdue =>
      obtain ⟨since, hsince, hhold, hdir, hgrown, -⟩ :=
        hd.grown hopen (large_iff.mpr ⟨hlarge, rfl⟩) rfl
      refine ⟨?_, ?_, ?_⟩
      · intro since' hs
        obtain rfl := Option.some.inj (hsince.symm.trans hs)
        rw [hdir]
        exact ⟨by simpa using hhold, hgrown⟩
      · intro hs
        exact absurd (hsince.symm.trans hs) (by simp)
      · intro x hx hseek
        rcases List.mem_append.mp hx with hx | hx
        · simpa using hd.seeks x hx hseek
        · obtain rfl := List.mem_singleton.mp hx
          exact absurd (hseeks.mp hseek) (soften_type_ne _ _)
  | seeked hopen hlarge hdue =>
      refine ⟨fun _ hs => absurd hs (by simp [DriftCorrector.seeked, clearHardCandidate]),
        fun _ => rfl, ?_⟩
      intro x hx _
      refine ⟨nowMs, rfl, ?_⟩
      rcases List.mem_append.mp hx with hx | hx
      · exact hlater x hx
      · obtain rfl := List.mem_singleton.mp hx
        exact le_rfl

/-- The times of the calls do not decrease. -/
def Chronological (cs : List Call) : Prop := (cs.map Call.nowMs).Pairwise (· ≤ ·)

theorem Chronological.left {cs₁ cs₂ : List Call} (h : Chronological (cs₁ ++ cs₂)) :
    Chronological cs₁ := by
  unfold Chronological at h ⊢
  rw [List.map_append, List.pairwise_append] at h
  exact h.1

theorem Chronological.before {cs₁ cs₂ : List Call} {c : Call}
    (h : Chronological (cs₁ ++ c :: cs₂)) (d : DriftCorrector) :
    ∀ e ∈ trace d cs₁, e.call.nowMs ≤ c.nowMs := by
  intro e he
  unfold Chronological at h
  rw [List.map_append, List.pairwise_append] at h
  refine h.2.2 e.call.nowMs ?_ c.nowMs (by simp)
  have hmem := List.mem_map_of_mem (f := fun e : Event => e.call) he
  rw [trace_calls] at hmem
  exact List.mem_map_of_mem hmem

theorem evidence_run {cs : List Call} (h : Chronological cs) :
    Evidence (trace initial cs) (run step initial cs) := by
  induction cs using List.reverseRecOn with
  | nil =>
      exact ⟨fun _ hs => absurd hs (by simp [initial]), fun _ => rfl,
        fun e he => absurd he List.not_mem_nil⟩
  | append_singleton cs c ih =>
      have hd := ih h.left
      have hlater := h.before initial
      rw [trace_snoc, run_append, run_cons, run_nil]
      generalize run step initial cs = d at hd ⊢
      cases c with
      | correct expectedMs actualMs roomRate nowMs => exact evidence_correct hd hlater
      | reset nowMs settleMs => exact hd.cleared rfl rfl rfl (not_seeks_reset _ _ _)

-- ============================================================================
-- Hard seeks
-- ============================================================================

/-- When the controller seeks, and what it does after that. -/
structure SeeksSafely (es : List Event) : Prop where
  /-- All calls of the last 1800 ms, and one from before them, had a large drift in one
      direction. -/
  sustained : ∀ pre e post, es = pre ++ e :: post → e.seeks →
    ∃ dir, e.Large dir ∧ History.Since (Event.Large dir)
      (fun x => x.Large dir ∧ x.call.nowMs ≤ e.call.nowMs - hardSeekConfirmMs) pre
  apart : ∀ pre e post, es = pre ++ e :: post → e.seeks → ∀ x ∈ pre, x.seeks →
    x.call.nowMs + hardSeekCooldownMs ≤ e.call.nowMs
  settles : ∀ pre e post, es = pre ++ e :: post → ∀ x ∈ pre, x.seeks →
    e.call.nowMs < x.call.nowMs + postSeekSettleMs → e.Idle
  reset : ∀ pre e post, es = pre ++ e :: post → ∀ x ∈ pre, ∀ nowMs settleMs,
    x.call = .reset nowMs settleMs → e.call.nowMs < nowMs + settleMs → e.Idle
  target : ∀ e ∈ es, e.seeks → ∃ expectedMs actualMs roomRate nowMs c,
    e.call = .correct expectedMs actualMs roomRate nowMs ∧ e.result = some c ∧
      c.targetMs = some expectedMs

/-- A call in the hold window is answered with the room's rate. -/
theorem idle_of_held {e : Event} (h : e.held) : e.Idle := by
  obtain ⟨d, call⟩ := e
  rintro expectedMs actualMs roomRate nowMs rfl
  refine ⟨_, rfl, ?_⟩
  rw [show d.correct expectedMs actualMs roomRate nowMs = _ from if_pos h]
  exact ⟨rfl, rfl⟩

/-- A seek, with the candidate that it has confirmed. -/
theorem seek_cases {d : DriftCorrector} {call : Call} (h : (⟨d, call⟩ : Event).seeks) :
    ∃ expectedMs actualMs roomRate nowMs,
      call = .correct expectedMs actualMs roomRate nowMs ∧ d.holdUntil ≤ nowMs ∧
      hardSeekThresholdMs ≤ |actualMs - expectedMs| ∧
      (d.candidate (direction (actualMs - expectedMs)) nowMs).seekDue nowMs = true ∧
      (⟨d, call⟩ : Event).result
        = some ⟨.hardSeek, roomRate, actualMs - expectedMs, some expectedMs⟩ := by
  obtain ⟨c, hc, htype⟩ := h
  cases call with
  | reset nowMs settleMs => cases hc
  | correct expectedMs actualMs roomRate nowMs =>
      have hturn := corrects expectedMs actualMs roomRate nowMs d
      have hresult : (⟨d, .correct expectedMs actualMs roomRate nowMs⟩ : Event).result
          = some (d.correct expectedMs actualMs roomRate nowMs).1 := rfl
      rw [hresult] at hc ⊢
      obtain rfl := Option.some.inj hc
      generalize (d.correct expectedMs actualMs roomRate nowMs).1 = c at hturn htype ⊢
      generalize (d.correct expectedMs actualMs roomRate nowMs).2 = d' at hturn
      cases hturn with
      | seeked hopen hlarge hdue => exact ⟨_, _, _, _, rfl, hopen, hlarge, hdue, rfl⟩
      | held hheld => cases htype
      | released hopen hsmall => cases htype
      | tolerated hopen hlarge hidle hsmall => cases htype
      | softened hopen hlarge hactive hsmall => exact absurd htype (soften_type_ne _ _)
      | waited hopen hlarge hdue => exact absurd htype (soften_type_ne _ _)

/-- **Hard seeks.**  For every sequence of calls at times that do not decrease, the controller
    seeks only after a large drift that has lasted, and rests after it. -/
theorem seeks_safely (cs : List Call) (h : Chronological cs) : SeeksSafely (trace initial cs) := by
  constructor
  · intro pre e post hsplit hseek
    obtain ⟨cs₁, cs₂, rfl, rfl, hbefore⟩ := trace_split hsplit
    obtain ⟨d, call⟩ := e
    obtain ⟨expectedMs, actualMs, roomRate, nowMs, rfl, hopen, hlarge, hdue, -⟩ := seek_cases hseek
    have hd := evidence_run h.left
    rw [← hbefore] at hd
    have he : (⟨d, .correct expectedMs actualMs roomRate nowMs⟩ : Event).Large
        (direction (actualMs - expectedMs)) := large_iff.mpr ⟨hlarge, rfl⟩
    refine ⟨_, he, ?_⟩
    obtain ⟨since, hsince, -, -, -, hold⟩ := hd.grown hopen he rfl
    have hlong : hardSeekConfirmMs ≤ nowMs - since := by
      unfold seekDue at hdue
      rw [hsince] at hdue
      simpa using (Bool.and_eq_true_iff.mp hdue).1
    rcases hold with rfl | ⟨hcand, hdir⟩
    · rw [sub_self] at hlong
      exact absurd hlong (by norm_num [hardSeekConfirmMs])
    · obtain ⟨-, pre, x, mid, hpre, ⟨hx, hstart⟩, hkeep⟩ := hd.candidate since hcand
      rw [hdir] at hx hkeep
      refine ⟨pre, x, mid, hpre, ⟨hx, ?_⟩, hkeep⟩
      rw [hstart]
      exact le_sub_comm.mp hlong
  · intro pre e post hsplit hseek x hx hxseek
    obtain ⟨cs₁, cs₂, rfl, rfl, hbefore⟩ := trace_split hsplit
    obtain ⟨d, call⟩ := e
    obtain ⟨expectedMs, actualMs, roomRate, nowMs, rfl, hopen, hlarge, hdue, -⟩ := seek_cases hseek
    obtain ⟨last, hlast, hle⟩ := (evidence_run h.left).seeks x hx hxseek
    rw [← hbefore] at hlast
    unfold seekDue at hdue
    rw [candidate_lastHardSeekAt, hlast] at hdue
    have hcool : hardSeekCooldownMs ≤ nowMs - last := by
      simpa using (Bool.and_eq_true_iff.mp hdue).2
    change x.call.nowMs + hardSeekCooldownMs ≤ nowMs
    linarith
  · intro pre e post hsplit x hx hseek hlt
    exact idle_of_held ((held_iff hsplit).mpr (.inr ⟨x, hx, .inl ⟨hseek, hlt⟩⟩))
  · intro pre e post hsplit x hx nowMs settleMs hcall hlt
    exact idle_of_held ((held_iff hsplit).mpr (.inr ⟨x, hx, .inr ⟨nowMs, settleMs, hcall, hlt⟩⟩))
  · rintro ⟨d, call⟩ - hseek
    obtain ⟨expectedMs, actualMs, roomRate, nowMs, rfl, -, -, -, hresult⟩ := seek_cases hseek
    exact ⟨_, _, _, _, _, rfl, hresult, rfl⟩

/-- A client that stays 3000 ms ahead is moved back after 1800 ms. -/
theorem seeks_safely_ahead :
    Chronological [.correct 0 3000 1 0, .correct 1000 4000 1 1000, .correct 1800 4800 1 1800] ∧
    (⟨run step initial [.correct 0 3000 1 0, .correct 1000 4000 1 1000],
      .correct 1800 4800 1 1800⟩ : Event).seeks ∧
    SeeksSafely (trace initial
      [.correct 0 3000 1 0, .correct 1000 4000 1 1000, .correct 1800 4800 1 1800]) := by
  have htimes : Chronological
      [.correct 0 3000 1 0, .correct 1000 4000 1 1000, .correct 1800 4800 1 1800] := by
    unfold Chronological
    decide +kernel
  refine ⟨htimes, ⟨_, rfl, ?_⟩, seeks_safely _ htimes⟩
  decide +kernel

end WatchTogether.Web.DriftCorrector

/-
  WatchTogether.Web.ClockEstimate

  What `ClockSynchronizer.acceptPong` makes of one pong: the sample it accepts, the samples
  it keeps, and how far the offset moves.
-/

import WatchTogether.Web.ClockSynchronizer
import Mathlib.Tactic.Linarith
import Mathlib.Tactic.NormNum
import Mathlib.Tactic.Ring

namespace WatchTogether.Web.ClockSynchronizer

-- ============================================================================
-- The sample of a pong
-- ============================================================================

/-- The round trip without the server's own time. -/
def roundTrip (clientSend serverRecv serverSend clientReceive : ℚ) : ℚ :=
  clientReceive - clientSend - (serverSend - serverRecv)

/-- The midpoint formula. -/
def midpoint (clientSend serverRecv serverSend clientReceive : ℚ) : ℚ :=
  ((serverRecv - clientSend) + (serverSend - clientReceive)) / 2

/-- The sample that `acceptPong` accepts, if any. -/
def sampleOf (payload : Pong) (clientReceive : ℚ) (s : ClockSynchronizer) : Option Sample :=
  match payload with
  | ⟨some clientSend, some serverRecv, some serverSend⟩ =>
      let rtt := roundTrip clientSend serverRecv serverSend clientReceive
      if clientSend ∈ s.pending ∧ 0 ≤ rtt ∧ rtt ≤ maxValidRttMs then
        some ⟨rtt, midpoint clientSend serverRecv serverSend clientReceive⟩
      else none
  | _ => none

theorem sampleOf_eq_some {payload : Pong} {clientReceive : ℚ} {s : ClockSynchronizer} {x : Sample}
    (h : s.sampleOf payload clientReceive = some x) :
    ∃ clientSend serverRecv serverSend,
      payload = ⟨some clientSend, some serverRecv, some serverSend⟩ ∧ clientSend ∈ s.pending ∧
      x = ⟨roundTrip clientSend serverRecv serverSend clientReceive,
        midpoint clientSend serverRecv serverSend clientReceive⟩ ∧
      0 ≤ x.rtt ∧ x.rtt ≤ maxValidRttMs := by
  unfold sampleOf at h
  split at h
  · rename_i clientSend serverRecv serverSend
    dsimp only at h
    split_ifs at h with hvalid
    obtain rfl := Option.some.inj h
    exact ⟨clientSend, serverRecv, serverSend, rfl, hvalid.1, rfl, hvalid.2⟩
  · cases h

/-- What a pong does. -/
inductive Receives (payload : Pong) (clientReceive : ℚ) (s : ClockSynchronizer) :
    ClockSynchronizer → Prop
  | unknown (hsample : s.sampleOf payload clientReceive = none) :
      Receives payload clientReceive s s
  | invalid (clientSend : ℚ) (hsample : s.sampleOf payload clientReceive = none)
      (hsend : payload.clientMonoMs = some clientSend) (hwaits : clientSend ∈ s.pending) :
      Receives payload clientReceive s { s with pending := s.pending.erase clientSend }
  | valid (clientSend : ℚ) (x : Sample) (hsample : s.sampleOf payload clientReceive = some x)
      (hsend : payload.clientMonoMs = some clientSend) (hwaits : clientSend ∈ s.pending) :
      Receives payload clientReceive s
        ({ s with pending := s.pending.erase clientSend }.accept x)

theorem acceptPong_known {clientSend serverRecv serverSend clientReceive : ℚ}
    {s : ClockSynchronizer} (hwaits : clientSend ∈ s.pending) :
    s.acceptPong ⟨some clientSend, some serverRecv, some serverSend⟩ clientReceive =
      if 0 ≤ roundTrip clientSend serverRecv serverSend clientReceive ∧
          roundTrip clientSend serverRecv serverSend clientReceive ≤ maxValidRttMs then
        { s with pending := s.pending.erase clientSend }.accept
          ⟨roundTrip clientSend serverRecv serverSend clientReceive,
            midpoint clientSend serverRecv serverSend clientReceive⟩
      else { s with pending := s.pending.erase clientSend } := by
  have hrtt : clientReceive - clientSend - (serverSend - serverRecv)
      = roundTrip clientSend serverRecv serverSend clientReceive := rfl
  unfold acceptPong
  dsimp only
  rw [if_pos hwaits, hrtt]
  split_ifs with hout hin hin
  · rcases hout with hneg | hslow
    · exact absurd hin.1 (not_le.mpr hneg)
    · exact absurd hin.2 (not_le.mpr hslow)
  · rfl
  · rfl
  · rw [not_or, not_lt, not_lt] at hout
    exact absurd hout hin

theorem receives (payload : Pong) (clientReceive : ℚ) (s : ClockSynchronizer) :
    Receives payload clientReceive s (s.acceptPong payload clientReceive) := by
  obtain ⟨clientMono, recv, send⟩ := payload
  cases clientMono with
  | none => exact .unknown rfl
  | some clientSend =>
      by_cases hwaits : clientSend ∈ s.pending
      · rcases recv with _ | serverRecv
        · have heq : s.acceptPong ⟨some clientSend, none, send⟩ clientReceive
              = { s with pending := s.pending.erase clientSend } := if_pos hwaits
          rw [heq]
          exact .invalid clientSend rfl rfl hwaits
        rcases send with _ | serverSend
        · have heq : s.acceptPong ⟨some clientSend, some serverRecv, none⟩ clientReceive
              = { s with pending := s.pending.erase clientSend } := if_pos hwaits
          rw [heq]
          exact .invalid clientSend rfl rfl hwaits
        rw [acceptPong_known hwaits]
        split_ifs with hvalid
        · exact .valid clientSend _ (if_pos ⟨hwaits, hvalid⟩) rfl hwaits
        · exact .invalid clientSend (if_neg fun h => hvalid h.2) rfl hwaits
      · rw [acceptPong_unknown (fun x hx => Option.some.inj hx ▸ hwaits) clientReceive]
        rcases recv with _ | serverRecv
        · exact .unknown rfl
        rcases send with _ | serverSend
        · exact .unknown rfl
        exact .unknown (if_neg fun h => hwaits h.1)

-- ============================================================================
-- The kept samples
-- ============================================================================

theorem sortSamples_perm (l : List Sample) : (sortSamples l).Perm l :=
  List.perm_insertionSort _ _

theorem sortSamples_sorted (l : List Sample) :
    (sortSamples l).Pairwise (fun a b => a.rtt ≤ b.rtt) := by
  have : Std.Total (fun a b : Sample => a.rtt ≤ b.rtt) := ⟨fun a b => le_total a.rtt b.rtt⟩
  have : IsTrans Sample (fun a b => a.rtt ≤ b.rtt) := ⟨fun _ _ _ => le_trans⟩
  exact List.pairwise_insertionSort _ l

@[simp] theorem accept_pending (x : Sample) (s : ClockSynchronizer) :
    (s.accept x).pending = s.pending := by
  unfold accept
  dsimp only
  split_ifs <;> rfl

theorem accept_samples (x : Sample) (s : ClockSynchronizer) :
    (s.accept x).samples = (sortSamples (s.samples ++ [x])).take maxSamples := by
  unfold accept
  dsimp only
  split_ifs <;> rfl

/-- The `k` of lowest round trip among the accepted ones are kept. -/
def Retained (accepted kept : List Sample) : Prop :=
  ∃ dropped, (kept ++ dropped).Perm accepted ∧ kept.length = min maxSamples accepted.length ∧
    ∀ x ∈ kept, ∀ y ∈ dropped, x.rtt ≤ y.rtt

theorem Retained.insert {accepted kept : List Sample} (h : Retained accepted kept) (x : Sample) :
    Retained (accepted ++ [x]) ((sortSamples (kept ++ [x])).take maxSamples) := by
  obtain ⟨dropped, hperm, hlen, hle⟩ := h
  have hsorted := sortSamples_sorted (kept ++ [x])
  have hsame := sortSamples_perm (kept ++ [x])
  generalize sortSamples (kept ++ [x]) = sorted at hsorted hsame ⊢
  have hcount : sorted.length = kept.length + 1 := by simpa using hsame.length_eq
  have htotal : kept.length + dropped.length = accepted.length := by
    simpa using hperm.length_eq
  rw [← List.take_append_drop maxSamples sorted, List.pairwise_append] at hsorted
  obtain ⟨-, -, hcut⟩ := hsorted
  refine ⟨sorted.drop maxSamples ++ dropped, ?_, ?_, ?_⟩
  · rw [← List.append_assoc, List.take_append_drop]
    calc (sorted ++ dropped).Perm ((kept ++ [x]) ++ dropped) := hsame.append_right dropped
      _ = kept ++ ([x] ++ dropped) := List.append_assoc ..
      List.Perm _ (kept ++ (dropped ++ [x])) := List.perm_append_comm.append_left kept
      _ = (kept ++ dropped) ++ [x] := (List.append_assoc ..).symm
      List.Perm _ (accepted ++ [x]) := hperm.append_right [x]
  · rw [List.length_take, List.length_append, List.length_singleton]
    omega
  · intro a ha b hb
    rcases List.mem_append.mp hb with hb | hb
    · exact hcut a ha b hb
    -- something has been dropped before, so the list was full and one more goes now
    have hfull : kept.length = maxSamples := by
      have hsome := List.length_pos_of_mem hb
      omega
    obtain ⟨m, hm⟩ : ∃ m, sorted.drop maxSamples = [m] := by
      apply List.length_eq_one_iff.mp
      rw [List.length_drop]
      omega
    have hmem : m ∈ kept ++ [x] := by
      refine hsame.mem_iff.mp (List.mem_of_mem_drop ?_ (i := maxSamples))
      rw [hm]
      exact List.mem_singleton_self m
    rcases List.mem_append.mp hmem with hkept | hnew
    · have ham : a.rtt ≤ m.rtt := hcut a ha m (hm ▸ List.mem_singleton_self m)
      exact ham.trans (hle m hkept b hb)
    · obtain rfl := List.mem_singleton.mp hnew
      rw [← List.take_append_drop maxSamples sorted, hm] at hsame
      have hrest : (sorted.take maxSamples).Perm kept :=
        (List.perm_append_right_iff [m]).mp hsame
      exact hle a (hrest.mem_iff.mp ha) b hb

theorem retained_nil : Retained [] [] :=
  ⟨[], .nil, rfl, fun _ h => absurd h List.not_mem_nil⟩

theorem Retained.mem {accepted kept : List Sample} (h : Retained accepted kept) {x : Sample}
    (hx : x ∈ kept) : x ∈ accepted := by
  obtain ⟨dropped, hperm, -⟩ := h
  exact hperm.mem_iff.mp (List.mem_append_left _ hx)

theorem Retained.nil_iff {accepted kept : List Sample} (h : Retained accepted kept) :
    kept = [] ↔ accepted = [] := by
  obtain ⟨dropped, -, hlen, -⟩ := h
  rw [← List.length_eq_zero_iff, ← List.length_eq_zero_iff, hlen]
  unfold maxSamples
  omega

-- ============================================================================
-- The offset
-- ============================================================================

/-- The candidate is the offset of a kept sample. -/
theorem candidate_mem {samples : List Sample} (h : samples ≠ []) :
    ∃ x ∈ samples, candidate samples = x.offset := by
  unfold candidate
  dsimp only
  generalize hbest : ((samples.take (min 5 samples.length)).map (fun x => x.offset)).insertionSort
    (· ≤ ·) = best
  have hpos : 0 < samples.length := List.length_pos_of_ne_nil h
  have hcount : best.length = min 5 samples.length := by
    rw [← hbest, List.length_insertionSort, List.length_map, List.length_take]
    omega
  have hmid : best.length / 2 < best.length := by omega
  rw [List.getD_eq_getElem?_getD, List.getElem?_eq_getElem hmid, Option.getD_some]
  have hmem : best[best.length / 2] ∈ best := List.getElem_mem hmid
  generalize best[best.length / 2] = c at hmem ⊢
  rw [← hbest, List.mem_insertionSort] at hmem
  obtain ⟨x, hx, rfl⟩ := List.mem_map.mp hmem
  exact ⟨x, List.mem_of_mem_take hx, rfl⟩

/-- The offset moves by at most `maxOffsetStepMs`, and not past the candidate. -/
def Slews (s s' : ClockSynchronizer) : Prop :=
  |s'.offset - s.offset| ≤ maxOffsetStepMs ∧
    min s.offset (candidate s'.samples) ≤ s'.offset ∧
    s'.offset ≤ max s.offset (candidate s'.samples)

theorem slews_of_offset {s s' : ClockSynchronizer} (h : s'.offset = s.offset) : Slews s s' := by
  unfold Slews
  rw [h, sub_self, abs_zero]
  exact ⟨by norm_num [maxOffsetStepMs], min_le_left .., le_max_left ..⟩

/-- A fifth of the way to the candidate, cut to `maxOffsetStepMs`. -/
theorem step_bounds (delta : ℚ) :
    |max (-maxOffsetStepMs) (min maxOffsetStepMs (delta * offsetSmoothing))| ≤ maxOffsetStepMs ∧
    min 0 delta ≤ max (-maxOffsetStepMs) (min maxOffsetStepMs (delta * offsetSmoothing)) ∧
    max (-maxOffsetStepMs) (min maxOffsetStepMs (delta * offsetSmoothing)) ≤ max 0 delta := by
  have hstep : (0 : ℚ) ≤ maxOffsetStepMs := by norm_num [maxOffsetStepMs]
  have hsmooth : delta * offsetSmoothing = delta / 5 := by
    unfold offsetSmoothing
    ring
  rw [hsmooth]
  refine ⟨?_, ?_, ?_⟩
  · refine abs_le.mpr ⟨le_max_left .., max_le (by linarith) (min_le_left ..)⟩
  · rcases le_or_gt 0 delta with hpos | hneg
    · rw [min_eq_left hpos]
      exact le_max_of_le_right (le_min hstep (by linarith))
    · rw [min_eq_right hneg.le]
      exact le_max_of_le_right (le_min (by linarith) (by linarith))
  · rcases le_or_gt 0 delta with hpos | hneg
    · rw [max_eq_right hpos]
      exact max_le (by linarith) (min_le_of_right_le (by linarith))
    · rw [max_eq_left hneg.le]
      exact max_le (by linarith) (min_le_of_right_le (by linarith))

theorem accept_first {s : ClockSynchronizer} (h : s.samples = []) (x : Sample) :
    (s.accept x).offset = x.offset := by
  have hone : (sortSamples (s.samples ++ [x])).take maxSamples = [x] := by
    rw [h]
    rfl
  have hcandidate : candidate [x] = x.offset := by
    obtain ⟨y, hy, heq⟩ := candidate_mem (List.cons_ne_nil x [])
    rw [heq, List.mem_singleton.mp hy]
  unfold accept
  dsimp only
  rw [hone, if_pos List.length_singleton, hcandidate]

theorem accept_slews {s : ClockSynchronizer} (h : s.samples ≠ []) (x : Sample) :
    Slews s (s.accept x) := by
  have hsamples := accept_samples x s
  have hpos : 0 < s.samples.length := List.length_pos_of_ne_nil h
  have hmany : ((sortSamples (s.samples ++ [x])).take maxSamples).length ≠ 1 := by
    rw [List.length_take, (sortSamples_perm _).length_eq, List.length_append,
      List.length_singleton]
    unfold maxSamples
    omega
  unfold accept at hsamples ⊢
  dsimp only at hsamples ⊢
  rw [if_neg hmany] at hsamples ⊢
  generalize (sortSamples (s.samples ++ [x])).take maxSamples = samples at hsamples ⊢
  split_ifs with hnoise
  · exact slews_of_offset rfl
  · obtain ⟨hsize, hlow, hhigh⟩ := step_bounds (candidate samples - s.offset)
    refine ⟨?_, ?_, ?_⟩
    · change |(s.offset + _) - s.offset| ≤ maxOffsetStepMs
      rw [add_sub_cancel_left]
      exact hsize
    · change min s.offset (candidate samples) ≤ s.offset + _
      have heq : min s.offset (candidate samples)
          = s.offset + min 0 (candidate samples - s.offset) := by
        rw [← min_add_add_left, add_zero, add_sub_cancel]
      rw [heq]
      exact add_le_add_right hlow _
    · change s.offset + _ ≤ max s.offset (candidate samples)
      have heq : max s.offset (candidate samples)
          = s.offset + max 0 (candidate samples - s.offset) := by
        rw [← max_add_add_left, add_zero, add_sub_cancel]
      rw [heq]
      exact add_le_add_right hhigh _

end WatchTogether.Web.ClockSynchronizer

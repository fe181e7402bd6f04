/-
  WatchTogether.Realtime.ClockPing

  `clock.ping` and `clock.pong` between the read loop of `Handler.ServeHTTP`
  (`internal/realtime/handler.go`) and a client's `ClockSynchronizer`.

  The server's clock is the client's plus `θ`, and both are exact.  What has been sent stays
  in the network: it may arrive late, twice, in any order, or never.
-/

import WatchTogether.Lib.LabelledRun
import WatchTogether.Web.ClockEstimate

namespace WatchTogether.Realtime

open LabelledRun Web ClockSynchronizer

/-- Where the read loop of a connection stands. -/
inductive Serving where
  /-- Before `recvAt := time.Now().UnixMilli()`. -/
  | looping
  /-- In `wsjson.Read`, which blocks until a message comes. -/
  | reading (recvAt : ℚ)
  /-- At the `clock.ping` that has been read. -/
  | handling (recvAt clientMonoMs : ℚ)
deriving DecidableEq

/-- A client's clock, its handler, and the network between them. -/
structure ClockLink where
  /-- `performance.now()` of the client. -/
  now : ℚ
  client : ClockSynchronizer
  serving : Serving
  pings : List ℚ
  pongs : List Pong
  /-- The pings since the last reset, those whose pong has been accepted, and the samples of
      these: a record that no code reads. -/
  sent : List ℚ
  answered : List ℚ
  accepted : List Sample
deriving DecidableEq

namespace ClockLink

/-- What may happen on the link. -/
inductive Label where
  | tick (t : ℚ)
  /-- The read loop comes round. -/
  | record
  | readPing (clientMonoMs : ℚ)
  /-- Any other message, and a ping that is refused. -/
  | readOther
  | answer
  /-- The handler of a new connection starts. -/
  | connect
  | ping
  | pong (payload : Pong)
  | reset (dateNow : ℚ)
deriving DecidableEq

/-- A new client, before its handler runs. -/
def start (now dateNow : ℚ) : ClockLink :=
  ⟨now, .new dateNow now, .looping, [], [], [], [], []⟩

/-- The client waits for the pong. -/
def waits (s : ClockLink) (payload : Pong) : Bool :=
  payload.clientMonoMs.any (fun clientSend => decide (clientSend ∈ s.client.pending))

/-- A pong arrives. -/
def receive (s : ClockLink) (payload : Pong) : ClockLink :=
  let x := s.client.sampleOf payload s.now
  { s with
    client := s.client.acceptPong payload s.now
    answered := if x.isSome then s.answered ++ payload.clientMonoMs.toList else s.answered
    accepted := s.accepted ++ x.toList }

/-- One step.  A pong has been sent by the handler, or is one that nobody waits for. -/
def step (θ : ℚ) (s : ClockLink) : Label → ClockLink
  | .tick t => { s with now := max s.now t }
  | .record =>
      match s.serving with
      | .looping => { s with serving := .reading (s.now + θ) }
      | _ => s
  | .readPing clientMonoMs =>
      match s.serving with
      | .reading recvAt =>
          if clientMonoMs ∈ s.pings then { s with serving := .handling recvAt clientMonoMs } else s
      | _ => s
  | .readOther =>
      match s.serving with
      | .reading _ => { s with serving := .looping }
      | _ => s
  | .answer =>
      match s.serving with
      | .handling recvAt clientMonoMs =>
          { s with
            serving := .looping
            pongs := s.pongs ++ [⟨some clientMonoMs, some recvAt, some (s.now + θ)⟩] }
      | _ => s
  | .connect => { s with serving := .looping }
  | .ping =>
      { s with
        client := (s.client.pingPayload s.now).1
        pings := s.pings ++ [s.now]
        sent := s.sent ++ [s.now] }
  | .pong payload => if payload ∈ s.pongs ∨ s.waits payload = false then s.receive payload else s
  | .reset dateNow =>
      { s with
        client := s.client.reset dateNow s.now
        sent := []
        answered := []
        accepted := [] }

-- ============================================================================
-- What must hold
-- ============================================================================

/-- The estimate of the server's clock. -/
structure Estimate (θ : ℚ) (s : ClockLink) : Prop where
  once : ∀ t, s.answered.count t ≤ s.sent.count t
  retained : Retained s.accepted s.client.samples
  within : s.accepted ≠ [] → ∃ lo ∈ s.accepted, ∃ hi ∈ s.accepted,
    lo.offset ≤ s.client.offset ∧ s.client.offset ≤ hi.offset
  error : s.accepted ≠ [] → ∃ x ∈ s.accepted,
    |s.client.serverNow s.now - (s.now + θ)| ≤ x.rtt / 2
  bound : s.accepted ≠ [] → |s.client.serverNow s.now - (s.now + θ)| ≤ 2500

/-- Behind the first sample, every pong slews the offset. -/
def Steady (θ : ℚ) (s : ClockLink) (l : Label) : Prop :=
  ∀ payload, l = .pong payload → s.accepted ≠ [] → Slews s.client (s.step θ l).client

/-- The handler has not begun to read before the ping was sent, if the client waits for the
    pong and finds its round trip valid. -/
def Fresh (θ : ℚ) (s : ClockLink) : Label → Prop
  | .pong ⟨some clientSend, some serverRecv, some serverSend⟩ =>
      ⟨some clientSend, some serverRecv, some serverSend⟩ ∈ s.pongs →
      clientSend ∈ s.client.pending →
      0 ≤ roundTrip clientSend serverRecv serverSend s.now →
      roundTrip clientSend serverRecv serverSend s.now ≤ maxValidRttMs →
        clientSend + θ ≤ serverRecv
  | _ => True

instance (θ : ℚ) (s : ClockLink) : (l : Label) → Decidable (Fresh θ s l)
  | .pong ⟨some _, some _, some _⟩ => inferInstanceAs (Decidable (_ → _ → _ → _ → _))
  | .pong ⟨none, _, _⟩ | .pong ⟨some _, none, _⟩ | .pong ⟨some _, some _, none⟩ | .tick _
  | .record | .readPing _ | .readOther | .answer | .connect | .ping | .reset _ =>
      inferInstanceAs (Decidable True)

-- ============================================================================
-- One sample
-- ============================================================================

/-- The offset of the sample is off by at most half of its round trip. -/
def Accurate (θ : ℚ) (x : Sample) : Prop := |x.offset - θ| ≤ x.rtt / 2

/-- **One sample.**  A pong that has not come before it was sent is accurate exactly if its first
    stamp is not from before the ping. -/
theorem accurate_iff {θ clientSend serverRecv serverSend clientReceive : ℚ}
    (hback : serverSend ≤ clientReceive + θ) :
    Accurate θ ⟨roundTrip clientSend serverRecv serverSend clientReceive,
      midpoint clientSend serverRecv serverSend clientReceive⟩ ↔
      clientSend + θ ≤ serverRecv := by
  have hoffset : midpoint clientSend serverRecv serverSend clientReceive - θ
      = ((serverRecv - (clientSend + θ)) - (clientReceive + θ - serverSend)) / 2 := by
    unfold ClockSynchronizer.midpoint
    ring
  have hrtt : roundTrip clientSend serverRecv serverSend clientReceive
      = (serverRecv - (clientSend + θ)) + (clientReceive + θ - serverSend) := by
    unfold roundTrip
    ring
  unfold Accurate
  dsimp only
  rw [hoffset, hrtt, abs_le]
  constructor
  · rintro ⟨hlow, -⟩
    linarith
  · intro hforth
    exact ⟨by linarith, by linarith⟩

-- ============================================================================
-- The invariant
-- ============================================================================

/-- The invariant of all runs. -/
structure Inv (θ : ℚ) (s : ClockLink) : Prop where
  pongs : ∀ p ∈ s.pongs, ∃ clientSend serverRecv serverSend,
    p = ⟨some clientSend, some serverRecv, some serverSend⟩ ∧ serverSend ≤ s.now + θ
  once : ∀ t, s.answered.count t + s.client.pending.count t ≤ s.sent.count t
  retained : Retained s.accepted s.client.samples
  within : s.accepted ≠ [] → ∃ lo ∈ s.accepted, ∃ hi ∈ s.accepted,
    lo.offset ≤ s.client.offset ∧ s.client.offset ≤ hi.offset
  valid : ∀ x ∈ s.accepted, 0 ≤ x.rtt ∧ x.rtt ≤ maxValidRttMs

theorem inv_start (θ now dateNow : ℚ) : Inv θ (start now dateNow) where
  pongs _ h := absurd h List.not_mem_nil
  once _ := le_rfl
  retained := retained_nil
  within h := absurd rfl h
  valid _ h := absurd h List.not_mem_nil

/-- The pong answers one more ping, or changes no more than that it is no longer waited for. -/
theorem receive_cases (s : ClockLink) (payload : Pong) :
    ((s.receive payload).accepted = s.accepted ∧ (s.receive payload).answered = s.answered ∧
      (s.receive payload).client.samples = s.client.samples ∧
      (s.receive payload).client.offset = s.client.offset ∧
      (s.receive payload).client.pending.Sublist s.client.pending) ∨
    ∃ clientSend x, s.client.sampleOf payload s.now = some x ∧
      payload.clientMonoMs = some clientSend ∧ clientSend ∈ s.client.pending ∧
      (s.receive payload).accepted = s.accepted ++ [x] ∧
      (s.receive payload).answered = s.answered ++ [clientSend] ∧
      (s.receive payload).client
        = { s.client with pending := s.client.pending.erase clientSend }.accept x := by
  have hturn := receives payload s.now s.client
  unfold receive
  dsimp only
  generalize s.client.acceptPong payload s.now = client at hturn ⊢
  cases hturn with
  | unknown hsample =>
      rw [hsample]
      exact .inl ⟨List.append_nil _, rfl, rfl, rfl, .refl _⟩
  | invalid clientSend hsample hsend hwaits =>
      rw [hsample]
      exact .inl ⟨List.append_nil _, rfl, rfl, rfl, List.erase_sublist⟩
  | valid clientSend x hsample hsend hwaits =>
      rw [hsample, hsend]
      exact .inr ⟨clientSend, x, rfl, rfl, hwaits, rfl, rfl, rfl⟩

/-- The offset stays among those of the accepted samples. -/
theorem Inv.within_accept {θ : ℚ} {s : ClockLink} (hs : Inv θ s) {client : ClockSynchronizer}
    (hsamples : client.samples = s.client.samples) (hoffset : client.offset = s.client.offset)
    (x : Sample) :
    ∃ lo ∈ s.accepted ++ [x], ∃ hi ∈ s.accepted ++ [x],
      lo.offset ≤ (client.accept x).offset ∧ (client.accept x).offset ≤ hi.offset := by
  by_cases hfirst : s.client.samples = []
  · have hnew : x ∈ s.accepted ++ [x] := by simp
    have hset := accept_first (hsamples.trans hfirst) x
    exact ⟨x, hnew, x, hnew, hset.ge, hset.le⟩
  · have hsome : s.accepted ≠ [] := fun h => hfirst (hs.retained.nil_iff.mpr h)
    obtain ⟨lo, hlo, hi, hhi, hlow, hhigh⟩ := hs.within hsome
    obtain ⟨-, hdown, hup⟩ := accept_slews (hsamples ▸ hfirst) x
    -- the candidate is the offset of a sample that has been kept
    have hkept := hs.retained.insert x
    rw [← hsamples, ← accept_samples x client] at hkept
    have hkeeps : (client.accept x).samples ≠ [] := by
      intro hnil
      exact absurd (hkept.nil_iff.mp hnil) (by simp)
    obtain ⟨c, hc, hcand⟩ := candidate_mem hkeeps
    have hc' := hkept.mem hc
    rw [hcand, hoffset] at hdown hup
    have hlo' := List.mem_append_left [x] hlo
    have hhi' := List.mem_append_left [x] hhi
    rcases le_total s.client.offset c.offset with hle | hle
    · rw [min_eq_left hle] at hdown
      rw [max_eq_right hle] at hup
      exact ⟨lo, hlo', c, hc', hlow.trans hdown, hup⟩
    · rw [min_eq_right hle] at hdown
      rw [max_eq_left hle] at hup
      exact ⟨c, hc', hi, hhi', hdown, hup.trans hhigh⟩

theorem Inv.receive {θ : ℚ} {s : ClockLink} (hs : Inv θ s) (payload : Pong) :
    Inv θ (s.receive payload) := by
  rcases s.receive_cases payload with
    ⟨haccepted, hanswered, hsamples, hoffset, hpending⟩ |
      ⟨clientSend, x, hsample, -, hwaits, haccepted, hanswered, hclient⟩
  · refine ⟨hs.pongs, ?_, ?_, ?_, ?_⟩
    · intro t
      rw [hanswered]
      have hcount := hpending.count_le t
      have honce := hs.once t
      exact (Nat.add_le_add_left hcount _).trans honce
    · rw [haccepted, hsamples]
      exact hs.retained
    · rw [haccepted, hoffset]
      exact hs.within
    · rw [haccepted]
      exact hs.valid
  · refine ⟨hs.pongs, ?_, ?_, ?_, ?_⟩
    · intro t
      have honce := hs.once t
      rw [hanswered, hclient, accept_pending, List.count_append]
      change _ ≤ s.sent.count t
      dsimp only
      by_cases ht : t = clientSend
      · -- the ping that has been answered is no longer pending
        subst ht
        have hpos := List.count_pos_iff.mpr hwaits
        rw [List.count_singleton_self, List.count_erase_self]
        omega
      · have hother : [clientSend].count t = 0 :=
          List.count_eq_zero_of_not_mem fun h => ht (List.mem_singleton.mp h)
        rw [List.count_erase_of_ne ht, hother]
        exact honce
    · rw [haccepted, hclient, accept_samples]
      exact hs.retained.insert x
    · rw [haccepted, hclient]
      intro _
      generalize hcut : ({ s.client with pending := s.client.pending.erase clientSend }
        : ClockSynchronizer) = client
      exact hs.within_accept (by rw [← hcut]) (by rw [← hcut]) x
    · rw [haccepted]
      intro y hy
      rcases List.mem_append.mp hy with hy | hy
      · exact hs.valid y hy
      · obtain rfl := List.mem_singleton.mp hy
        obtain ⟨_, _, _, -, -, -, hvalid⟩ := sampleOf_eq_some hsample
        exact hvalid

/-- Only the handler writes a pong, at its own time. -/
theorem Inv.sent {θ : ℚ} {s : ClockLink} (hs : Inv θ s) (clientMonoMs recvAt : ℚ) :
    Inv θ { s with
      serving := .looping
      pongs := s.pongs ++ [⟨some clientMonoMs, some recvAt, some (s.now + θ)⟩] } := by
  refine ⟨?_, hs.once, hs.retained, hs.within, hs.valid⟩
  intro p hp
  rcases List.mem_append.mp hp with hp | hp
  · exact hs.pongs p hp
  · obtain rfl := List.mem_singleton.mp hp
    exact ⟨_, _, _, rfl, le_rfl⟩

theorem Inv.pinged {θ : ℚ} {s : ClockLink} (hs : Inv θ s) :
    Inv θ { s with
      client := (s.client.pingPayload s.now).1
      pings := s.pings ++ [s.now]
      sent := s.sent ++ [s.now] } := by
  refine ⟨hs.pongs, ?_, hs.retained, hs.within, hs.valid⟩
  intro t
  have honce := hs.once t
  have hpending : (s.client.pingPayload s.now).1.pending.count t
      ≤ s.client.pending.count t + [s.now].count t := by
    unfold pingPayload
    dsimp only
    split_ifs
    · exact Nat.le_add_right ..
    · rw [List.count_append]
  dsimp only
  rw [List.count_append]
  omega

theorem inv_step {θ : ℚ} {s : ClockLink} (l : Label) (hs : Inv θ s) : Inv θ (s.step θ l) := by
  cases l with
  | tick t =>
      refine ⟨?_, hs.once, hs.retained, hs.within, hs.valid⟩
      intro p hp
      obtain ⟨clientSend, serverRecv, serverSend, rfl, hback⟩ := hs.pongs p hp
      exact ⟨_, _, _, rfl, hback.trans (add_le_add_left (le_max_left ..) θ)⟩
  | record =>
      rw [step]
      split
      · exact ⟨hs.pongs, hs.once, hs.retained, hs.within, hs.valid⟩
      · exact hs
  | readPing clientMonoMs =>
      rw [step]
      split
      · split_ifs
        · exact ⟨hs.pongs, hs.once, hs.retained, hs.within, hs.valid⟩
        · exact hs
      · exact hs
  | readOther =>
      rw [step]
      split
      · exact ⟨hs.pongs, hs.once, hs.retained, hs.within, hs.valid⟩
      · exact hs
  | answer =>
      rw [step]
      split
      · exact hs.sent _ _
      · exact hs
  | connect => exact ⟨hs.pongs, hs.once, hs.retained, hs.within, hs.valid⟩
  | ping => exact hs.pinged
  | pong payload =>
      rw [step]
      split_ifs
      · exact hs.receive payload
      · exact hs
  | reset dateNow =>
      exact ⟨hs.pongs, fun _ => le_rfl, retained_nil, fun h => absurd rfl h,
        fun _ h => absurd h List.not_mem_nil⟩

-- ============================================================================
-- Accuracy
-- ============================================================================

/-- The samples are accurate, and the invariant holds. -/
structure Sound (θ : ℚ) (s : ClockLink) : Prop where
  inv : Inv θ s
  accurate : ∀ x ∈ s.accepted, Accurate θ x

/-- A step that accepts no sample keeps those it has, or drops them all. -/
theorem accepted_step (θ : ℚ) (s : ClockLink) (l : Label) :
    (s.step θ l).accepted = s.accepted ∨ (s.step θ l).accepted = [] ∨
      ∃ payload x, l = .pong payload ∧ (payload ∈ s.pongs ∨ s.waits payload = false) ∧
        s.client.sampleOf payload s.now = some x ∧
        (s.step θ l).accepted = s.accepted ++ [x] := by
  cases l with
  | pong payload =>
      rw [step]
      split_ifs with hin
      · rcases s.receive_cases payload with
          ⟨haccepted, -⟩ | ⟨clientSend, x, hsample, -, -, haccepted, -⟩
        · exact .inl haccepted
        · exact .inr (.inr ⟨payload, x, rfl, hin, hsample, haccepted⟩)
      · exact .inl rfl
  | reset dateNow => exact .inr (.inl rfl)
  | tick t => exact .inl rfl
  | connect => exact .inl rfl
  | ping => exact .inl rfl
  | record =>
      rw [step]
      split <;> exact .inl rfl
  | readPing clientMonoMs =>
      rw [step]
      split
      · split_ifs <;> exact .inl rfl
      · exact .inl rfl
  | readOther =>
      rw [step]
      split <;> exact .inl rfl
  | answer =>
      rw [step]
      split <;> exact .inl rfl

/-- The accepted sample is accurate exactly if the handler has read in time. -/
theorem Inv.accurate_iff_fresh {θ : ℚ} {s : ClockLink} (hs : Inv θ s) {payload : Pong} {x : Sample}
    (hin : payload ∈ s.pongs ∨ s.waits payload = false)
    (hsample : s.client.sampleOf payload s.now = some x) :
    Accurate θ x ↔ Fresh θ s (.pong payload) := by
  obtain ⟨clientSend, serverRecv, serverSend, rfl, hwaits, rfl, hlow, hhigh⟩ :=
    sampleOf_eq_some hsample
  have hpong : (⟨some clientSend, some serverRecv, some serverSend⟩ : Pong) ∈ s.pongs := by
    rcases hin with hpong | hno
    · exact hpong
    · have hyes : s.waits ⟨some clientSend, some serverRecv, some serverSend⟩ = true :=
        decide_eq_true hwaits
      exact absurd (hyes.symm.trans hno) (by decide)
  obtain ⟨_, _, _, heq, hback⟩ := hs.pongs _ hpong
  obtain ⟨-, -, rfl⟩ : some clientSend = some _ ∧ some serverRecv = some _ ∧
      serverSend = _ := by
    simpa using heq
  rw [accurate_iff hback]
  constructor
  · exact fun hforth _ _ _ _ => hforth
  · exact fun hfresh => hfresh hpong hwaits hlow hhigh

/-- What is not fresh is a sample. -/
theorem sample_of_not_fresh {θ : ℚ} {s : ClockLink} {l : Label} (h : ¬Fresh θ s l) :
    ∃ payload x, l = .pong payload ∧ payload ∈ s.pongs ∧
      s.client.sampleOf payload s.now = some x := by
  cases l with
  | pong payload =>
      obtain ⟨clientMono, recv, send⟩ := payload
      rcases clientMono with _ | clientSend
      · exact absurd trivial h
      rcases recv with _ | serverRecv
      · exact absurd trivial h
      rcases send with _ | serverSend
      · exact absurd trivial h
      by_contra hno
      refine h fun hpong hwaits hlow hhigh => ?_
      exact absurd ⟨_, _, rfl, hpong, if_pos ⟨hwaits, hlow, hhigh⟩⟩ hno
  | _ => exact absurd trivial h

theorem accepted_pong {θ : ℚ} {s : ClockLink} {payload : Pong} {x : Sample}
    (hpong : payload ∈ s.pongs) (hsample : s.client.sampleOf payload s.now = some x) :
    (s.step θ (.pong payload)).accepted = s.accepted ++ [x] := by
  rw [step, if_pos (.inl hpong), receive]
  dsimp only
  rw [hsample]
  rfl

theorem sound_step {θ : ℚ} {s : ClockLink} {l : Label} (hs : Sound θ s) (hl : Fresh θ s l) :
    Sound θ (s.step θ l) := by
  refine ⟨inv_step l hs.inv, ?_⟩
  rcases accepted_step θ s l with hsame | hnone | ⟨payload, x, rfl, hin, hsample, hmore⟩
  · rw [hsame]
    exact hs.accurate
  · rw [hnone]
    exact fun x h => absurd h List.not_mem_nil
  · rw [hmore]
    intro y hy
    rcases List.mem_append.mp hy with hy | hy
    · exact hs.accurate y hy
    · obtain rfl := List.mem_singleton.mp hy
      exact (hs.inv.accurate_iff_fresh hin hsample).mpr hl

/-- In every run, all accepted samples are accurate at all times exactly if the handler has read
    in time for each of them. -/
theorem samples_accurate_iff (θ now dateNow : ℚ) (ls : List Label) :
    (∀ pre post, ls = pre ++ post →
      ∀ x ∈ (run (step θ) (start now dateNow) pre).accepted, Accurate θ x) ↔
    EachStep (step θ) (Fresh θ) (start now dateNow) ls := by
  refine run_breaks_iff (I := Sound θ) (fun s l hs hl => sound_step hs hl) ?_
    (fun s hs => hs.accurate) ⟨inv_start θ now dateNow, fun x h => absurd h List.not_mem_nil⟩
  intro s l hs hl hall
  obtain ⟨payload, x, rfl, hpong, hsample⟩ := sample_of_not_fresh hl
  have hx : x ∈ (s.step θ (.pong payload)).accepted := by
    rw [accepted_pong hpong hsample]
    exact List.mem_append_right _ (List.mem_singleton_self x)
  exact hl ((hs.inv.accurate_iff_fresh (.inl hpong) hsample).mp (hall x hx))

-- ============================================================================
-- The estimate
-- ============================================================================

theorem Sound.estimate {θ : ℚ} {s : ClockLink} (hs : Sound θ s) : Estimate θ s := by
  have herror : s.accepted ≠ [] → ∃ x ∈ s.accepted,
      |s.client.serverNow s.now - (s.now + θ)| ≤ x.rtt / 2 := by
    intro hsome
    obtain ⟨lo, hlo, hi, hhi, hlow, hhigh⟩ := hs.inv.within hsome
    have hoff : s.client.serverNow s.now - (s.now + θ) = s.client.offset - θ :=
      add_sub_add_left_eq_sub ..
    obtain ⟨hlo', -⟩ := abs_le.mp (hs.accurate lo hlo)
    obtain ⟨-, hhi'⟩ := abs_le.mp (hs.accurate hi hhi)
    rw [hoff]
    rcases le_total θ s.client.offset with hlate | hearly
    · refine ⟨hi, hhi, ?_⟩
      rw [abs_of_nonneg (sub_nonneg.mpr hlate)]
      linarith
    · refine ⟨lo, hlo, ?_⟩
      rw [abs_of_nonpos (sub_nonpos.mpr hearly)]
      linarith
  refine ⟨?_, hs.inv.retained, hs.inv.within, herror, ?_⟩
  · intro t
    exact (Nat.le_add_right ..).trans (hs.inv.once t)
  · intro hsome
    obtain ⟨x, hx, hle⟩ := herror hsome
    obtain ⟨-, hvalid⟩ := hs.inv.valid x hx
    unfold maxValidRttMs at hvalid
    linarith

theorem Inv.steady {θ : ℚ} {s : ClockLink} (hs : Inv θ s) (l : Label) : Steady θ s l := by
  rintro payload rfl hsome
  rw [step]
  split_ifs
  · rcases s.receive_cases payload with
      ⟨-, -, -, hoffset, -⟩ | ⟨clientSend, x, -, -, -, -, -, hclient⟩
    · exact slews_of_offset hoffset
    · have hmany : s.client.samples ≠ [] := fun h => hsome (hs.retained.nil_iff.mp h)
      rw [hclient]
      exact accept_slews (s := { s.client with pending := s.client.pending.erase clientSend })
        hmany x
  · exact slews_of_offset rfl

/-- **Clock estimate.**  If the handler has read in time for every sample, the estimate holds in
    every state of the run, and every pong behind the first sample slews the offset. -/
theorem clock_estimate (θ now dateNow : ℚ) (ls : List Label)
    (h : EachStep (step θ) (Fresh θ) (start now dateNow) ls) :
    (∀ pre post, ls = pre ++ post → Estimate θ (run (step θ) (start now dateNow) pre)) ∧
      EachStep (step θ) (Steady θ) (start now dateNow) ls := by
  have hinit : Sound θ (start now dateNow) :=
    ⟨inv_start θ now dateNow, fun x h => absurd h List.not_mem_nil⟩
  constructor
  · rintro pre post rfl
    exact (run_invariant_before (fun s l hs hl => sound_step hs hl) hinit h).estimate
  · exact eachStep_of_invariant (fun s l hs hl => sound_step hs hl)
      (fun s l hs _ => hs.inv.steady l) hinit h

/-- Three pings, each of which reaches a handler that comes round with it; the ways there and
    back are not equally long. -/
def prompt : List Label :=
  [.tick 100, .ping, .tick 150, .record, .readPing 100, .answer, .tick 200,
    .pong ⟨some 100, some 1150, some 1150⟩,
    .ping, .tick 210, .record, .readPing 200, .answer, .tick 300,
    .pong ⟨some 200, some 1210, some 1210⟩,
    .ping, .tick 320, .record, .readPing 300, .answer, .tick 420,
    .pong ⟨some 300, some 1320, some 1320⟩]

/-- The third pong moves the offset towards the median of the samples. -/
theorem clock_estimate_prompt :
    (run (step 1000) (start 0 0) prompt).accepted = [⟨100, 1000⟩, ⟨100, 960⟩, ⟨120, 960⟩] ∧
      (run (step 1000) (start 0 0) prompt).client.offset = 992 ∧
      Estimate 1000 (run (step 1000) (start 0 0) prompt) ∧
      EachStep (step 1000) (Steady 1000) (start 0 0) prompt := by
  obtain ⟨hestimate, hsteady⟩ := clock_estimate 1000 0 0 prompt (by decide +kernel)
  exact ⟨by decide +kernel, by decide +kernel, hestimate prompt [] rfl, hsteady⟩

/-- The handler has joined the client and reads.  Its handshake, the ping and the pong take three
    seconds each, and the round trip shows as zero. -/
def distant : List Label :=
  [.record, .tick 3000, .reset 0, .ping, .tick 6000, .readPing 3000, .answer, .tick 9000,
    .pong ⟨some 3000, some 0, some 6000⟩]

theorem clock_estimate_fails :
    (run (step 0) (start 0 0) distant).accepted = [⟨0, -3000⟩] ∧
      (run (step 0) (start 0 0) distant).client.serverNow 9000 = 6000 ∧
      ¬Estimate 0 (run (step 0) (start 0 0) distant) := by
  have haccepted : (run (step 0) (start 0 0) distant).accepted = [⟨0, -3000⟩] := by decide +kernel
  have hnow : (run (step 0) (start 0 0) distant).now = 9000 := by decide +kernel
  have hclock : (run (step 0) (start 0 0) distant).client.serverNow 9000 = 6000 := by
    decide +kernel
  refine ⟨haccepted, hclock, fun h => ?_⟩
  have hbound := h.bound (by rw [haccepted]; exact List.cons_ne_nil _ _)
  rw [hnow, hclock] at hbound
  norm_num at hbound

end ClockLink

end WatchTogether.Realtime

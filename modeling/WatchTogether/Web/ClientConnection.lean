/-
  WatchTogether.Web.ClientConnection

  The connection of a `WebSocketClient`: the current socket, the stop flag and the timers
  that reconnect, resynchronise the clock and declare a connection stable.

  `Aside` says that a piece of code leaves all of these alone; what `send`, the
  acknowledgements and the clock do is of this kind.  `Linked` relates the socket to the
  timers that are armed, and `Holding` the timers to the fields that name them.
-/

import WatchTogether.Web.WebSocketClient

namespace WatchTogether.Web

/-- The timers held in fields of the client. -/
def Callback.held : Callback → Bool
  | .reconnect | .stable _ | .resync => true
  | .sample | .ack _ _ => false

namespace Page

variable {uuid : Nat ↪ String} {s s' s'' : Page}

-- ============================================================================
-- Aside from the connection
-- ============================================================================

/-- `s'` differs from `s` in its commands, its clock and timers of these alone. -/
structure Aside (s s' : Page) : Prop where
  socket : s'.client.socket = s.client.socket
  stopped : s'.client.stopped = s.client.stopped
  attempts : s'.client.attempts = s.client.attempts
  reconnectTimer : s'.client.reconnectTimer = s.client.reconnectTimer
  stableTimer : s'.client.stableTimer = s.client.stableTimer
  resyncTimer : s'.client.resyncTimer = s.client.resyncTimer
  sockets : s'.sockets = s.sockets
  statuses : s'.statuses = s.statuses
  now : s'.now = s.now
  next : s.timers.next ≤ s'.timers.next
  /-- An armed timer was armed before, or is a new one that no field holds; only an
      interval may have moved. -/
  timers : ∀ t due c, s'.timers.live t = some (due, c) →
    (∃ d, s.timers.live t = some (d, c) ∧ (c ≠ .resync → d = due)) ∨
      (s.timers.next ≤ t ∧ c.held = false)

theorem Aside.refl (s : Page) : Aside s s := by
  refine ⟨rfl, rfl, rfl, rfl, rfl, rfl, rfl, rfl, rfl, Nat.le_refl _, ?_⟩
  intro t due c h
  exact Or.inl ⟨due, h, fun _ => rfl⟩

theorem Aside.trans (h : Aside s s') (h' : Aside s' s'') : Aside s s'' := by
  refine ⟨h'.socket.trans h.socket, h'.stopped.trans h.stopped, h'.attempts.trans h.attempts,
    h'.reconnectTimer.trans h.reconnectTimer, h'.stableTimer.trans h.stableTimer,
    h'.resyncTimer.trans h.resyncTimer, h'.sockets.trans h.sockets,
    h'.statuses.trans h.statuses, h'.now.trans h.now, h.next.trans h'.next, ?_⟩
  intro t due c hlive
  rcases h'.timers t due c hlive with ⟨d, hd, hdue⟩ | ⟨hnew, hc⟩
  · rcases h.timers t d c hd with ⟨d', hd', hdue'⟩ | ⟨hnew, hc⟩
    · exact Or.inl ⟨d', hd', fun hne => (hdue' hne).trans (hdue hne)⟩
    · exact Or.inr ⟨hnew, hc⟩
  · exact Or.inr ⟨h.next.trans hnew, hc⟩

/-- Clearing timers, settling promises, and forgetting commands. -/
theorem aside_rejectPending (message : String) (s : Page) : Aside s (s.rejectPending message) := by
  refine ⟨rfl, rfl, rfl, rfl, rfl, rfl, rfl, rfl, rfl, ?_, ?_⟩
  · exact Nat.le_of_eq Timers.next_clearAll.symm
  · intro t due c hlive
    have hold := (Timers.live_clearAll_iff.mp hlive).2
    exact Or.inl ⟨due, hold, fun _ => rfl⟩

theorem aside_sampleClock (s : Page) : Aside s s.sampleClock := by
  refine ⟨rfl, rfl, rfl, rfl, rfl, rfl, rfl, rfl, rfl, Timers.next_le_setAll _, ?_⟩
  intro t due c hlive
  rcases Timers.live_of_setAll hlive with hold | ⟨hnew, hmem⟩
  · exact Or.inl ⟨due, hold, fun _ => rfl⟩
  · obtain ⟨i, -, hi⟩ := List.mem_map.mp hmem
    obtain ⟨-, rfl⟩ := Prod.mk.inj hi
    exact Or.inr ⟨hnew, rfl⟩

theorem aside_send (type : String) (payload : Json) (ack : Bool) (s : Page) :
    Aside s (s.send uuid type payload ack) := by
  unfold send
  split
  · exact ⟨rfl, rfl, rfl, rfl, rfl, rfl, rfl, rfl, rfl, Nat.le_refl _,
      fun t due c h => Or.inl ⟨due, h, fun _ => rfl⟩⟩
  · cases ack with
    | false =>
        exact ⟨rfl, rfl, rfl, rfl, rfl, rfl, rfl, rfl, rfl, Nat.le_refl _,
          fun t due c h => Or.inl ⟨due, h, fun _ => rfl⟩⟩
    | true =>
        refine ⟨rfl, rfl, rfl, rfl, rfl, rfl, rfl, rfl, rfl, ?_, ?_⟩
        · exact Nat.le_succ _
        · intro t due c hlive
          rcases Timers.live_set_iff.mp hlive with ⟨ht, -, rfl⟩ | hold
          · exact Or.inr ⟨Nat.le_of_eq ht.symm, rfl⟩
          · exact Or.inl ⟨due, hold, fun _ => rfl⟩

/-- What an acknowledgement or an error does to the command it names. -/
def settleOne (id : String) (p : Pending) (result : Settlement) (s : Page) : Page :=
  { s with
    timers := s.timers.clear p.timeout
    settled := s.settled ++ [(p.promise, result)]
    client := { s.client with pending := s.client.pending.erase id } }

/-- A message settles nothing, or the outstanding command whose id it carries, and
    resolves it only as an `ack`. -/
theorem settle_cases (message : Envelope) (s : Page) :
    s.settle message = s ∨ ∃ id p result, message.requestId = some (.str id) ∧
      s.client.pending.lookup id = some p ∧ (result = .resolved → message.type = "ack") ∧
      s.settle message = s.settleOne id p result := by
  unfold settle
  split
  · rename_i id hid
    by_cases hack : id ≠ "" ∧ (message.type = "ack" ∨ message.type = "error")
    · rw [if_pos hack]
      cases hp : s.client.pending.lookup id with
      | none => exact Or.inl rfl
      | some p =>
          refine Or.inr ⟨id, p, _, hid, hp, ?_, rfl⟩
          intro hresolved
          by_contra hne
          rw [if_neg hne] at hresolved
          cases hresolved
    · rw [if_neg hack]
      exact Or.inl rfl
  · exact Or.inl rfl

theorem aside_settleOne (id : String) (p : Pending) (result : Settlement) (s : Page) :
    Aside s (s.settleOne id p result) := by
  refine ⟨rfl, rfl, rfl, rfl, rfl, rfl, rfl, rfl, rfl, Nat.le_refl _, ?_⟩
  intro t due c hlive
  exact Or.inl ⟨due, (Timers.live_clear_iff.mp hlive).2, fun _ => rfl⟩

theorem aside_settle (message : Envelope) (s : Page) : Aside s (s.settle message) := by
  rcases settle_cases message s with h | ⟨id, p, result, -, -, -, h⟩
  · rw [h]
    exact Aside.refl s
  · rw [h]
    exact aside_settleOne id p result s

theorem aside_clock (clock : ClockSynchronizer) (s : Page) :
    Aside s { s with client := { s.client with clock := clock } } :=
  ⟨rfl, rfl, rfl, rfl, rfl, rfl, rfl, rfl, rfl, Nat.le_refl _,
    fun _ due _ h => Or.inl ⟨due, h, fun _ => rfl⟩⟩

theorem aside_pong {message : Envelope} (h : s.pong message = some s') : Aside s s' := by
  unfold pong at h
  split_ifs at h with htype
  · obtain ⟨payload, -, rfl⟩ := Option.map_eq_some_iff.mp h
    exact aside_clock _ s
  · obtain rfl := Option.some.inj h
    exact Aside.refl s

-- ============================================================================
-- The connection
-- ============================================================================

/-- The current socket, the stop flag and the timers of the connection. -/
structure Linked (s : Page) : Prop where
  current : ∀ k, s.client.socket = some k →
    s.client.stopped = false ∧ ∃ r, s.sockets[k]? = some r ∧ r ≠ .closed
  reconnect : ∀ t due, s.timers.live t = some (due, .reconnect) →
    s.client.reconnectTimer = some t ∧ s.client.socket = none ∧ s.client.stopped = false
  stable : ∀ t due k, s.timers.live t = some (due, .stable k) →
    s.client.stableTimer = some t ∧ s.client.socket = some k ∧
      s.sockets[k]? ≠ some .connecting

/-- A field that names a timer names one of its own kind, or one that is gone. -/
structure Holding (s : Page) : Prop where
  reconnect : s.timers.Owns s.client.reconnectTimer (fun c => c = .reconnect)
  stable : s.timers.Owns s.client.stableTimer (fun c => ∃ k, c = .stable k)
  resync : s.timers.Owns s.client.resyncTimer (fun c => c = .resync)

theorem Linked.aside (h : Linked s) (ha : Aside s s') : Linked s' := by
  have hold : ∀ t due c, c.held = true → c ≠ .resync → s'.timers.live t = some (due, c) →
      s.timers.live t = some (due, c) := by
    intro t due c hheld hne hlive
    rcases ha.timers t due c hlive with ⟨d, hd, hdue⟩ | ⟨-, hfree⟩
    · rw [← hdue hne]
      exact hd
    · rw [hheld] at hfree
      cases hfree
  constructor
  · intro k hk
    rw [ha.socket] at hk
    rw [ha.stopped, ha.sockets]
    exact h.current k hk
  · intro t due hlive
    rw [ha.reconnectTimer, ha.socket, ha.stopped]
    exact h.reconnect t due (hold t due _ rfl (by simp) hlive)
  · intro t due k hlive
    rw [ha.stableTimer, ha.socket, ha.sockets]
    exact h.stable t due k (hold t due _ rfl (by simp) hlive)

theorem Owns.aside {held : Option Nat} {P : Callback → Prop} (h : s.timers.Owns held P)
    (ha : Aside s s') : s'.timers.Owns held P := by
  refine h.mono ha.next ?_
  intro t ht due c hlive
  rcases ha.timers t due c hlive with ⟨d, hd, -⟩ | ⟨hnew, -⟩
  · exact ⟨d, hd⟩
  · omega

theorem Holding.aside (h : Holding s) (ha : Aside s s') : Holding s' := by
  constructor
  · rw [ha.reconnectTimer]
    exact Owns.aside h.reconnect ha
  · rw [ha.stableTimer]
    exact Owns.aside h.stable ha
  · rw [ha.resyncTimer]
    exact Owns.aside h.resync ha

/-- Nothing of a connection is left: no socket, and no timer that would touch one. -/
structure Unlinked (s : Page) : Prop where
  socket : s.client.socket = none
  reconnect : ∀ t due, s.timers.live t ≠ some (due, .reconnect)
  stable : ∀ t due k, s.timers.live t ≠ some (due, .stable k)

theorem Unlinked.linked (h : Unlinked s) : Linked s := by
  constructor
  · intro k hk
    rw [h.socket] at hk
    cases hk
  · intro t due hlive
    exact absurd hlive (h.reconnect t due)
  · intro t due k hlive
    exact absurd hlive (h.stable t due k)

/-- A stopped client has nothing of a connection. -/
theorem Linked.unlinked_of_stopped (h : Linked s) (hstop : s.client.stopped = true) :
    Unlinked s := by
  have hsocket : s.client.socket = none := by
    cases hk : s.client.socket with
    | none => rfl
    | some k =>
        have hrun := (h.current k hk).1
        rw [hstop] at hrun
        cases hrun
  refine ⟨hsocket, ?_, ?_⟩
  · intro t due hlive
    have hrun := (h.reconnect t due hlive).2.2
    rw [hstop] at hrun
    cases hrun
  · intro t due k hlive
    have hk := (h.stable t due k hlive).2.1
    rw [hsocket] at hk
    cases hk

/-- Opening a socket where there is none. -/
theorem Linked.openSocket (h : Linked s) (hsocket : s.client.socket = none) :
    Linked s.openSocket := by
  unfold Page.openSocket
  by_cases hstop : s.client.stopped = true
  · rw [if_pos hstop]
    exact h
  · rw [if_neg hstop]
    constructor
    · rintro k ⟨rfl⟩
      refine ⟨Bool.eq_false_iff.mpr hstop, .connecting, ?_, by simp⟩
      exact List.getElem?_concat_length
    · intro t due hlive
      obtain ⟨hne, hold⟩ := Timers.live_clearHeld_iff.mp hlive
      exact absurd (h.reconnect t due hold).1 hne
    · intro t due k hlive
      have hk := (h.stable t due k (Timers.live_clearHeld_iff.mp hlive).2).2.1
      rw [hsocket] at hk
      cases hk

theorem Linked.connect (h : Linked s) : Linked s.connect := by
  unfold Page.connect
  by_cases hstop : s.client.stopped = true
  · rw [if_pos hstop]
    have hnone := h.unlinked_of_stopped hstop
    have hfree : Unlinked { s with client := { s.client with stopped := false } } :=
      ⟨hnone.socket, hnone.reconnect, hnone.stable⟩
    exact hfree.linked.openSocket hfree.socket
  · rw [if_neg hstop]
    exact h

/-- Clearing the timers of a connection disarms them all. -/
theorem Linked.clearTimers (h : Linked s) :
    (∀ t due, s.clearTimers.timers.live t ≠ some (due, .reconnect)) ∧
      ∀ t due k, s.clearTimers.timers.live t ≠ some (due, .stable k) := by
  constructor
  · intro t due hlive
    have hlive' := (Timers.live_clearHeld_iff.mp (Timers.live_clearHeld_iff.mp hlive).2).2
    obtain ⟨hne, hold⟩ := Timers.live_clearHeld_iff.mp hlive'
    exact hne (h.reconnect t due hold).1
  · intro t due k hlive
    obtain ⟨hne, hlive'⟩ := Timers.live_clearHeld_iff.mp hlive
    have hold := (Timers.live_clearHeld_iff.mp (Timers.live_clearHeld_iff.mp hlive').2).2
    exact hne (h.stable t due k hold).1

theorem Unlinked.aside (h : Unlinked s) (ha : Aside s s') : Unlinked s' := by
  refine ⟨ha.socket.trans h.socket, ?_, ?_⟩
  · intro t due hlive
    rcases ha.timers t due _ hlive with ⟨d, hd, -⟩ | ⟨-, hfree⟩
    · exact h.reconnect t d hd
    · cases hfree
  · intro t due k hlive
    rcases ha.timers t due _ hlive with ⟨d, hd, -⟩ | ⟨-, hfree⟩
    · exact h.stable t d k hd
    · cases hfree

/-- Whatever the sockets become, as long as the current one is neither closed nor back at
    the handshake. -/
theorem Linked.setSockets (h : Linked s) {sockets : List ReadyState}
    (hcurrent : ∀ k r, s.client.socket = some k → s.sockets[k]? = some r → r ≠ .closed →
      ∃ r', sockets[k]? = some r' ∧ r' ≠ .closed ∧ (r' = .connecting → r = .connecting)) :
    Linked { s with sockets := sockets } := by
  constructor
  · intro k hk
    obtain ⟨hrun, r, hr, hne⟩ := h.current k hk
    obtain ⟨r', hr', hne', -⟩ := hcurrent k r hk hr hne
    exact ⟨hrun, r', hr', hne'⟩
  · exact h.reconnect
  · intro t due k hlive
    obtain ⟨htimer, hk, hconnecting⟩ := h.stable t due k hlive
    obtain ⟨-, r, hr, hne⟩ := h.current k hk
    obtain ⟨r', hr', -, hback⟩ := hcurrent k r hk hr hne
    refine ⟨htimer, hk, ?_⟩
    intro hr''
    have hr'' : sockets[k]? = some .connecting := hr''
    rw [hr'] at hr''
    rw [hback (Option.some.inj hr'')] at hr
    exact hconnecting hr

theorem close_ne {r : ReadyState} (h : r ≠ .closed) :
    r.close ≠ .closed ∧ r.close ≠ .connecting := by
  cases r <;> simp_all [ReadyState.close]

theorem Linked.closeSocket (h : Linked s) (socket : Option Nat) : Linked (s.closeSocket socket) := by
  cases socket with
  | none => exact h
  | some k =>
      refine h.setSockets ?_
      intro j r _ hr hne
      obtain ⟨hclosed, hconnecting⟩ := close_ne hne
      rw [List.getElem?_modify, hr]
      by_cases hj : k = j
      · refine ⟨r.close, by simp [hj], hclosed, ?_⟩
        intro hback
        exact absurd hback hconnecting
      · exact ⟨r, by simp [hj], hne, fun hr => hr⟩

@[simp] theorem client_closeSocket (socket : Option Nat) (s : Page) :
    (s.closeSocket socket).client = s.client := by
  cases socket <;> rfl

@[simp] theorem timers_closeSocket (socket : Option Nat) (s : Page) :
    (s.closeSocket socket).timers = s.timers := by
  cases socket <;> rfl

theorem Linked.disconnect (h : Linked s) : Unlinked s.disconnect := by
  refine Unlinked.aside ?_ (aside_rejectPending _ _)
  constructor
  · rw [client_closeSocket]
  · intro t due
    rw [timers_closeSocket]
    exact h.clearTimers.1 t due
  · intro t due k
    rw [timers_closeSocket]
    exact h.clearTimers.2 t due k

/-- `onclose` of the current socket, up to the call of `lost`. -/
def dropped (k : Nat) (s : Page) : Page :=
  { s with
    sockets := s.sockets.set k .closed
    client := { s.client with socket := none } }

/-- The current socket is gone, and so are the timers once they are cleared. -/
theorem Linked.dropped (h : Linked s) {k : Nat} (hk : s.client.socket = some k) :
    Unlinked (s.dropped k).clearConnectionTimers := by
  refine ⟨rfl, ?_, ?_⟩
  · intro t due hlive
    have hold := (Timers.live_clearHeld_iff.mp (Timers.live_clearHeld_iff.mp hlive).2).2
    have hnone := (h.reconnect t due hold).2.1
    rw [hk] at hnone
    cases hnone
  · intro t due k' hlive
    obtain ⟨hne, hlive'⟩ := Timers.live_clearHeld_iff.mp hlive
    have hold := (Timers.live_clearHeld_iff.mp hlive').2
    exact hne (h.stable t due k' hold).1

theorem Unlinked.retry (h : Unlinked s) (hrun : s.client.stopped = false) (random : ℚ) :
    Linked (s.retry random) := by
  constructor
  · intro k hk
    have hk : s.client.socket = some k := hk
    rw [h.socket] at hk
    cases hk
  · intro t due hlive
    rcases Timers.live_set_iff.mp hlive with ⟨rfl, -, -⟩ | hold
    · exact ⟨rfl, h.socket, hrun⟩
    · exact absurd hold (h.reconnect t due)
  · intro t due k hlive
    rcases Timers.live_set_iff.mp hlive with ⟨-, -, hc⟩ | hold
    · cases hc
    · exact absurd hold (h.stable t due k)

/-- What `lost` does for the socket that was current. -/
theorem lost_eq (hrun : s.client.stopped = false) (code : Nat) (reason : String) (random : ℚ) :
    s.lost code reason random =
      match terminal code reason with
      | some status =>
          let s := s.clearConnectionTimers.rejectPending "Connection lost"
          { s with
            client := { s.client with stopped := true }
            statuses := s.statuses ++ [status] }
      | none => (s.clearConnectionTimers.rejectPending "Connection lost").retry random := by
  have hnot : ¬s.client.stopped = true := by
    rw [hrun]
    exact Bool.false_ne_true
  exact if_neg hnot

theorem Linked.lost (h : Linked s) {k : Nat} (hk : s.client.socket = some k)
    (code : Nat) (reason : String) (random : ℚ) :
    Linked ((s.dropped k).lost code reason random) := by
  have hrun : (s.dropped k).client.stopped = false := (h.current k hk).1
  rw [lost_eq hrun]
  have hnone := (h.dropped hk).aside (aside_rejectPending "Connection lost" _)
  cases terminal code reason with
  | none => exact hnone.retry hrun random
  | some status =>
      exact Unlinked.linked ⟨hnone.socket, hnone.reconnect, hnone.stable⟩

/-- The timers that `onopen` arms, beside those that were armed before. -/
theorem timers_onopen {k : Nat} (dateNow : ℚ) (hk : s.client.socket = some k)
    (hrun : s.client.stopped = false) :
    ∃ q : Timers ℚ Callback, Aside s { s with timers := q } ∧
      (s.onopen k dateNow).timers =
        (q.set (s.now + resyncMs) .resync).set (s.now + stableConnectionMs) (.stable k) ∧
      (s.onopen k dateNow).client.resyncTimer = some q.next ∧
      (s.onopen k dateNow).client.stableTimer = some (q.next + 1) := by
  have hguard : ¬(s.client.socket ≠ some k ∨ s.client.stopped = true) := by
    rw [hk, hrun]
    simp
  refine ⟨s.sampleClock.timers.clearHeld s.client.resyncTimer, ?_, ?_, ?_, ?_⟩
  · refine (aside_sampleClock s).trans
      ⟨rfl, rfl, rfl, rfl, rfl, rfl, rfl, rfl, rfl, Nat.le_of_eq Timers.next_clearHeld.symm, ?_⟩
    intro t due c hlive
    exact Or.inl ⟨due, (Timers.live_clearHeld_iff.mp hlive).2, fun _ => rfl⟩
  all_goals
    rw [onopen, if_neg hguard]
    rfl

theorem Linked.onopen (h : Linked s) {k : Nat} (hready : s.sockets[k]? = some .connecting)
    (dateNow : ℚ) : Linked ((s.setReady k .open).onopen k dateNow) := by
  have hset : Linked (s.setReady k .open) := by
    refine h.setSockets ?_
    intro j r _ hr hne
    by_cases hj : j = k
    · subst hj
      have hlt := (List.getElem?_eq_some_iff.mp hr).1
      exact ⟨.open, List.getElem?_set_self hlt, by simp, by simp⟩
    · exact ⟨r, by rw [List.getElem?_set_ne (Ne.symm hj), hr], hne, fun hr => hr⟩
  by_cases hk : s.client.socket = some k
  · have hrun := (h.current k hk).1
    obtain ⟨q, hq, htimers, -, hstable⟩ :=
      timers_onopen (s := s.setReady k .open) dateNow hk hrun
    -- a stable timer would mean that the socket had been opened before
    have hnone : ∀ t due k', q.live t ≠ some (due, .stable k') := by
      intro t due k' hlive
      rcases hq.timers t due _ hlive with ⟨d, hd, -⟩ | ⟨-, hfree⟩
      · obtain ⟨-, hk', hne⟩ := h.stable t d k' hd
        rw [hk] at hk'
        obtain rfl := Option.some.inj hk'
        exact hne hready
      · cases hfree
    have hframe : ((s.setReady k .open).onopen k dateNow).client.socket = some k ∧
        ((s.setReady k .open).onopen k dateNow).client.stopped = false ∧
        ((s.setReady k .open).onopen k dateNow).sockets = (s.setReady k .open).sockets := by
      have hguard : ¬((s.setReady k .open).client.socket ≠ some k ∨
          (s.setReady k .open).client.stopped = true) := by
        simp [setReady, hk, hrun]
      rw [Page.onopen, if_neg hguard]
      exact ⟨hk, hrun, rfl⟩
    obtain ⟨hsocket, hstopped, hsockets⟩ := hframe
    have hopen : (s.setReady k .open).sockets[k]? = some .open :=
      List.getElem?_set_self (List.getElem?_eq_some_iff.mp hready).1
    constructor
    · intro j hj
      rw [hsocket] at hj
      obtain rfl := Option.some.inj hj
      refine ⟨hstopped, .open, ?_, by simp⟩
      rw [hsockets]
      exact hopen
    · intro t due hlive
      rw [htimers] at hlive
      rcases Timers.live_set_iff.mp hlive with ⟨-, -, hc⟩ | hlive
      · cases hc
      · rcases Timers.live_set_iff.mp hlive with ⟨-, -, hc⟩ | hlive
        · cases hc
        · have hnone := ((hset.aside hq).reconnect t due hlive).2.1
          have hnone : s.client.socket = none := hnone
          rw [hk] at hnone
          cases hnone
    · intro t due k' hlive
      rw [htimers] at hlive
      rcases Timers.live_set_iff.mp hlive with ⟨ht, -, hc⟩ | hlive
      · obtain rfl := Callback.stable.inj hc
        refine ⟨?_, hsocket, ?_⟩
        · rw [hstable, ht, Timers.next_set]
        · rw [hsockets, hopen]
          simp
      · rcases Timers.live_set_iff.mp hlive with ⟨-, -, hc⟩ | hlive
        · cases hc
        · exact absurd hlive (hnone t due k')
  · have hguard : (s.setReady k .open).client.socket ≠ some k ∨
        (s.setReady k .open).client.stopped = true := Or.inl hk
    rw [Page.onopen, if_pos hguard]
    exact hset

theorem Linked.call (h : Linked s) (c : Call) : Linked (s.call uuid c) := by
  cases c with
  | connect => exact h.connect
  | disconnect => exact h.disconnect.linked
  | send type payload ack => exact h.aside (aside_send type payload ack s)

theorem aside_handling (handling : Option Envelope) (s : Page) :
    Aside s { s with handling := handling } :=
  ⟨rfl, rfl, rfl, rfl, rfl, rfl, rfl, rfl, rfl, Nat.le_refl _,
    fun _ due _ h => Or.inl ⟨due, h, fun _ => rfl⟩⟩

theorem aside_receive (value : Option Json) (s : Page) : Aside s (s.receive value) := by
  unfold receive
  split
  · exact Aside.refl s
  · split
    · exact Aside.refl s
    · rename_i hpong
      exact (aside_pong hpong).trans (aside_handling _ _)

theorem aside_finish (throws : Bool) (s : Page) : Aside s (s.finish throws) := by
  unfold finish
  split
  · exact Aside.refl s
  · dsimp only
    split_ifs
    · exact aside_handling none s
    · exact (aside_handling none s).trans (aside_settle _ _)

/-- The state in which the callback of a timer runs. -/
theorem aside_clear (t : Nat) (s : Page) : Aside s { s with timers := s.timers.clear t } := by
  refine ⟨rfl, rfl, rfl, rfl, rfl, rfl, rfl, rfl, rfl, Nat.le_refl _, ?_⟩
  intro t' due c hlive
  exact Or.inl ⟨due, (Timers.live_clear_iff.mp hlive).2, fun _ => rfl⟩

theorem aside_rearm {t : Nat} {due : ℚ} (h : s.timers.live t = some (due, .resync)) (due' : ℚ) :
    Aside s { s with timers := s.timers.rearm t due' } := by
  refine ⟨rfl, rfl, rfl, rfl, rfl, rfl, rfl, rfl, rfl, Nat.le_refl _, ?_⟩
  intro t' d c hlive
  rcases Timers.live_rearm_iff.mp hlive with ⟨rfl, -, d', hd'⟩ | ⟨-, hold⟩
  · refine Or.inl ⟨d', hd', ?_⟩
    intro hne
    rw [h] at hd'
    exact absurd (Prod.mk.inj (Option.some.inj hd')).2.symm hne
  · exact Or.inl ⟨d, hold, fun _ => rfl⟩

/-- The callbacks that leave the connection alone. -/
theorem aside_run {c : Callback} (h : c = .resync ∨ c.held = false) (s : Page) :
    Aside s (s.run uuid c) := by
  cases c with
  | resync => exact aside_sampleClock s
  | sample => exact (aside_clock _ s).trans (aside_send _ _ _ _)
  | ack requestId promise =>
      exact ⟨rfl, rfl, rfl, rfl, rfl, rfl, rfl, rfl, rfl, Nat.le_refl _,
        fun t due c h => Or.inl ⟨due, h, fun _ => rfl⟩⟩
  | reconnect => simp [Callback.held] at h
  | stable k => simp [Callback.held] at h

/-- What a timer that fires does: its callback runs after the timer is gone, or, for the
    interval, after it was armed again. -/
theorem fire_cases (t : Nat) (s : Page) :
    s.fire uuid t = s ∨ ∃ due c, s.timers.live t = some (due, c) ∧ due ≤ s.now ∧
      ((c = .resync ∨ c.held = false) ∧ Aside s (s.fire uuid t) ∨
        (c = .reconnect ∨ ∃ k, c = .stable k) ∧
          s.fire uuid t = ({ s with timers := s.timers.clear t } : Page).run uuid c) := by
  unfold fire
  cases hlive : s.timers.live t with
  | none => exact Or.inl rfl
  | some x =>
      obtain ⟨due, c⟩ := x
      by_cases hearly : s.now < due
      · exact Or.inl (if_pos hearly)
      · refine Or.inr ⟨due, c, rfl, not_lt.mp hearly, ?_⟩
        simp only [if_neg hearly]
        cases c with
        | resync =>
            refine Or.inl ⟨Or.inl rfl, ?_⟩
            exact (aside_rearm hlive _).trans (aside_run (Or.inl rfl) _)
        | sample =>
            refine Or.inl ⟨Or.inr rfl, ?_⟩
            exact (aside_clear t s).trans (aside_run (Or.inr rfl) _)
        | ack requestId promise =>
            refine Or.inl ⟨Or.inr rfl, ?_⟩
            exact (aside_clear t s).trans (aside_run (Or.inr rfl) _)
        | reconnect => exact Or.inr ⟨Or.inl rfl, rfl⟩
        | stable k => exact Or.inr ⟨Or.inr ⟨k, rfl⟩, rfl⟩

/-- The only thing a stable timer may do. -/
theorem run_stable (uuid : Nat ↪ String) (k : Nat) (s : Page) :
    s.run uuid (.stable k) = s ∨ s.openNow = some k ∧
      s.run uuid (.stable k) = { s with client := { s.client with attempts := 0 } } := by
  by_cases h : s.openNow = some k
  · exact Or.inr ⟨h, if_pos h⟩
  · exact Or.inl (if_neg h)

theorem Linked.fire (h : Linked s) (t : Nat) : Linked (s.fire uuid t) := by
  rcases fire_cases t s with heq | ⟨due, c, hlive, -, ⟨-, ha⟩ | ⟨hc, heq⟩⟩
  · rw [heq]
    exact h
  · exact h.aside ha
  · rw [heq]
    have hclear := h.aside (aside_clear t s)
    rcases hc with rfl | ⟨k, rfl⟩
    · exact hclear.openSocket (h.reconnect t due hlive).2.1
    · rcases run_stable uuid k { s with timers := s.timers.clear t } with hrun | ⟨-, hrun⟩
      · rw [hrun]
        exact hclear
      · rw [hrun]
        exact ⟨hclear.current, hclear.reconnect, hclear.stable⟩

/-- The close of a socket that is not the current one. -/
theorem closed_of_ne (uuid : Nat ↪ String) {k : Nat} (h : s.client.socket ≠ some k) (code : Nat)
    (reason : String) (random : ℚ) :
    ∃ sockets, s.task uuid (.closed k code reason random) = { s with sockets := sockets } ∧
      sockets.length = s.sockets.length ∧ ∀ j, j ≠ k → sockets[j]? = s.sockets[j]? := by
  unfold task
  by_cases hclosed : s.sockets[k]? = some .closed
  · exact ⟨s.sockets, if_pos hclosed, rfl, fun _ _ => rfl⟩
  · refine ⟨s.sockets.set k .closed, ?_, List.length_set, ?_⟩
    · simp only [if_neg hclosed]
      rw [if_neg (show ¬(s.setReady k .closed).client.socket = some k from h)]
      rfl
    · exact fun j hj => List.getElem?_set_ne (Ne.symm hj)

/-- The current socket has not been closed yet. -/
theorem Linked.ready (h : Linked s) {k : Nat} (hk : s.client.socket = some k) :
    s.sockets[k]? ≠ some .closed := by
  obtain ⟨-, r, hr, hne⟩ := h.current k hk
  rw [hr]
  exact fun heq => hne (Option.some.inj heq)

theorem closed_of_current {k : Nat} (h : s.client.socket = some k)
    (hready : s.sockets[k]? ≠ some .closed) (code : Nat) (reason : String) (random : ℚ) :
    s.task uuid (.closed k code reason random) = (s.dropped k).lost code reason random := by
  rw [task, if_neg hready]
  exact if_pos h

theorem Linked.task (h : Linked s) (e : Event) : Linked (s.task uuid e) := by
  cases e with
  | call c => exact h.call c
  | heard throws => exact h.aside (aside_finish throws s)
  | opened k dateNow =>
      rw [Page.task]
      split_ifs with hready
      · exact h.onopen hready dateNow
      · exact h
  | message k value =>
      rw [Page.task]
      split_ifs
      · exact h.aside (aside_receive value s)
      · exact h
  | closing k => exact h.closeSocket (some k)
  | closed k code reason random =>
      by_cases hk : s.client.socket = some k
      · rw [closed_of_current hk (h.ready hk)]
        exact h.lost hk code reason random
      · obtain ⟨sockets, heq, -, hsame⟩ := closed_of_ne uuid hk code reason random
        rw [heq]
        refine h.setSockets ?_
        intro j r hj hr hne
        have hjk : j ≠ k := fun hjk => hk (hjk ▸ hj)
        exact ⟨r, (hsame j hjk).trans hr, hne, fun hr => hr⟩
  | errored k =>
      rw [Page.task]
      split_ifs
      · exact h.closeSocket (some k)
      · exact h
  | fired t => exact h.fire t
  | elapsed time => exact ⟨h.current, h.reconnect, h.stable⟩

-- ============================================================================
-- Which timers the fields name
-- ============================================================================

/-- Timers are removed, and fields forget what they name. -/
theorem Holding.forget (h : Holding s) (hnext : s.timers.next ≤ s'.timers.next)
    (htimers : ∀ t due c, s'.timers.live t = some (due, c) →
      s.timers.live t = some (due, c) ∨ s.timers.next ≤ t)
    (hreconnect : s'.client.reconnectTimer = s.client.reconnectTimer ∨
      s'.client.reconnectTimer = none)
    (hstable : s'.client.stableTimer = s.client.stableTimer ∨ s'.client.stableTimer = none)
    (hresync : s'.client.resyncTimer = s.client.resyncTimer ∨ s'.client.resyncTimer = none) :
    Holding s' := by
  have hfield : ∀ {held held' : Option Nat} {P : Callback → Prop}, s.timers.Owns held P →
      held' = held ∨ held' = none → s'.timers.Owns held' P := by
    intro held held' P howns hor
    rcases hor with rfl | rfl
    · refine howns.mono hnext ?_
      intro t ht due c hlive
      rcases htimers t due c hlive with hold | hnew
      · exact ⟨due, hold⟩
      · omega
    · exact Timers.owns_none P
  exact ⟨hfield h.reconnect hreconnect, hfield h.stable hstable, hfield h.resync hresync⟩

theorem Holding.openSocket (h : Holding s) : Holding s.openSocket := by
  unfold Page.openSocket
  split_ifs
  · exact h
  · refine h.forget (Nat.le_of_eq Timers.next_clearHeld.symm) ?_ (Or.inr rfl) (Or.inl rfl)
      (Or.inl rfl)
    intro t due c hlive
    exact Or.inl (Timers.live_clearHeld_iff.mp hlive).2

theorem Holding.connect (h : Holding s) : Holding s.connect := by
  unfold Page.connect
  split_ifs
  · exact Holding.openSocket ⟨h.reconnect, h.stable, h.resync⟩
  · exact h

theorem Holding.clearConnectionTimers (h : Holding s) : Holding s.clearConnectionTimers := by
  refine h.forget ?_ ?_ (Or.inl rfl) (Or.inr rfl) (Or.inr rfl)
  · exact Nat.le_of_eq (Timers.next_clearHeld.trans Timers.next_clearHeld).symm
  · intro t due c hlive
    exact Or.inl (Timers.live_clearHeld_iff.mp (Timers.live_clearHeld_iff.mp hlive).2).2

/-- The first half of `clearTimers`. -/
def clearReconnect (s : Page) : Page :=
  { s with
    timers := s.timers.clearHeld s.client.reconnectTimer
    client := { s.client with reconnectTimer := none } }

theorem clearTimers_eq (s : Page) :
    s.clearTimers = s.clearReconnect.clearConnectionTimers := rfl

theorem Holding.clearReconnect (h : Holding s) : Holding s.clearReconnect := by
  refine h.forget (Nat.le_of_eq Timers.next_clearHeld.symm) ?_ (Or.inr rfl) (Or.inl rfl)
    (Or.inl rfl)
  intro t due c hlive
  exact Or.inl (Timers.live_clearHeld_iff.mp hlive).2

theorem Holding.clearTimers (h : Holding s) : Holding s.clearTimers := by
  rw [clearTimers_eq]
  exact h.clearReconnect.clearConnectionTimers

theorem Holding.closeSocket (h : Holding s) (socket : Option Nat) :
    Holding (s.closeSocket socket) := by
  cases socket with
  | none => exact h
  | some k => exact ⟨h.reconnect, h.stable, h.resync⟩

theorem Holding.disconnect (h : Holding s) : Holding s.disconnect := by
  refine Holding.aside ?_ (aside_rejectPending _ _)
  refine Holding.closeSocket ?_ _
  have hstopped : Holding { s with client := { s.client with stopped := true } } :=
    ⟨h.reconnect, h.stable, h.resync⟩
  have hcleared := hstopped.clearTimers
  exact ⟨hcleared.reconnect, hcleared.stable, hcleared.resync⟩

theorem Holding.call (h : Holding s) (c : Call) : Holding (s.call uuid c) := by
  cases c with
  | connect => exact h.connect
  | disconnect => exact h.disconnect
  | send type payload ack => exact h.aside (aside_send type payload ack s)

theorem Holding.retry (h : Holding s) (random : ℚ) : Holding (s.retry random) :=
  ⟨Timers.owns_set rfl, h.stable.set, h.resync.set⟩

theorem Holding.lost (h : Holding s) (code : Nat) (reason : String) (random : ℚ) :
    Holding (s.lost code reason random) := by
  by_cases hstop : s.client.stopped = true
  · rw [Page.lost, if_pos hstop]
    exact h
  · have hcleared := h.clearConnectionTimers.aside (aside_rejectPending "Connection lost" _)
    rw [lost_eq (Bool.eq_false_iff.mpr hstop)]
    cases terminal code reason with
    | none => exact hcleared.retry random
    | some status => exact ⟨hcleared.reconnect, hcleared.stable, hcleared.resync⟩

theorem Holding.onopen (h : Holding s) (k : Nat) (dateNow : ℚ) : Holding (s.onopen k dateNow) := by
  by_cases hguard : s.client.socket ≠ some k ∨ s.client.stopped = true
  · rw [Page.onopen, if_pos hguard]
    exact h
  · have hk : s.client.socket = some k := by
      by_contra hne
      exact hguard (Or.inl hne)
    have hrun : s.client.stopped = false := by
      by_contra hne
      exact hguard (Or.inr (by simpa using hne))
    obtain ⟨q, hq, htimers, hresync, hstable⟩ := timers_onopen dateNow hk hrun
    have hheld := h.aside hq
    constructor
    · rw [htimers, Page.onopen, if_neg hguard]
      exact hheld.reconnect.set.set
    · rw [htimers, hstable]
      exact Timers.owns_set ⟨k, rfl⟩
    · rw [htimers, hresync]
      refine Timers.Owns.set ?_
      exact Timers.owns_set rfl

theorem Holding.fire (h : Holding s) (t : Nat) : Holding (s.fire uuid t) := by
  rcases fire_cases t s with heq | ⟨due, c, -, -, ⟨-, ha⟩ | ⟨hc, heq⟩⟩
  · rw [heq]
    exact h
  · exact h.aside ha
  · rw [heq]
    have hclear := h.aside (aside_clear t s)
    rcases hc with rfl | ⟨k, rfl⟩
    · exact hclear.openSocket
    · rcases run_stable uuid k { s with timers := s.timers.clear t } with hrun | ⟨-, hrun⟩
      · rw [hrun]
        exact hclear
      · rw [hrun]
        exact ⟨hclear.reconnect, hclear.stable, hclear.resync⟩

theorem Holding.task (h : Holding s) (e : Event) : Holding (s.task uuid e) := by
  have hsockets : ∀ sockets, Holding { s with sockets := sockets } :=
    fun sockets => ⟨h.reconnect, h.stable, h.resync⟩
  cases e with
  | call c => exact h.call c
  | heard throws => exact h.aside (aside_finish throws s)
  | opened k dateNow =>
      rw [Page.task]
      split_ifs
      · exact Holding.onopen (hsockets _) k dateNow
      · exact h
  | message k value =>
      rw [Page.task]
      split_ifs
      · exact h.aside (aside_receive value s)
      · exact h
  | closing k => exact h.closeSocket (some k)
  | closed k code reason random =>
      rw [Page.task]
      dsimp only
      split_ifs
      · exact h
      · have hdropped : Holding (s.dropped k) := ⟨h.reconnect, h.stable, h.resync⟩
        exact hdropped.lost code reason random
      · exact hsockets _
  | errored k =>
      rw [Page.task]
      split_ifs
      · exact h.closeSocket (some k)
      · exact h
  | fired t => exact h.fire t
  | elapsed time => exact ⟨h.reconnect, h.stable, h.resync⟩

end Page

end WatchTogether.Web

/-
  WatchTogether.Web.ClientLifecycle

  The state machine of `WebSocketClient` over every order of its calls, the events of
  all its sockets and its timers.
-/

import WatchTogether.Lib.History
import WatchTogether.Web.ClientCommands

namespace WatchTogether.Web

/-- The socket an event belongs to. -/
def Event.socket : Event → Option Nat
  | .opened k _ | .message k _ | .closing k | .closed k _ _ _ | .errored k => some k
  | .call _ | .heard _ | .fired _ | .elapsed _ => none

/-- Was the promise made for a command whose acknowledgement is wanted? -/
def Sent.wantsAck : Sent → Bool
  | .refused ack => ack
  | .posted _ _ => false
  | .awaiting _ _ _ => true

namespace Page

variable {uuid : Nat ↪ String} {s s' s'' : Page}

-- ============================================================================
-- The invariant
-- ============================================================================

/-- What holds in every state. -/
structure Inv (uuid : Nat ↪ String) (s : Page) : Prop where
  linked : Linked s
  holding : Holding s
  ledger : Ledger uuid s
  onSocket : OnSocket s

theorem inv_start (dateNow : ℚ) : Inv uuid (start dateNow) := by
  have hlive : ∀ t due c, (start dateNow).timers.live t ≠ some (due, c) := by
    intro t due c h
    cases h
  have hpending : ∀ r, (start dateNow).client.pending.lookup r = none :=
    fun r => AList.lookup_empty r
  refine ⟨Unlinked.linked ⟨rfl, fun t due => hlive t due _, fun t due k => hlive t due _⟩,
    ⟨Timers.owns_none _, Timers.owns_none _, Timers.owns_none _⟩, ?_, ?_⟩
  · constructor
    · intro r p hlookup
      rw [hpending] at hlookup
      cases hlookup
    · intro i r k t hpromise
      cases hpromise
    · intro t due r i h
      exact absurd h (hlive t due _)
    · intro i r k t hpromise
      cases hpromise
    · exact List.nodup_nil
    · intro i hi
      cases hi
    · intro i x hx
      cases hx
  · intro r p k hlookup
    rw [hpending] at hlookup
    cases hlookup

/-- What neither touches the commands nor changes the socket. -/
theorem Inv.quiet (h : Inv uuid s) (hl : Linked s') (hh : Holding s') (hs : Silent s s')
    (hsocket : s'.client.socket = s.client.socket) : Inv uuid s' :=
  ⟨hl, hh, h.ledger.silent hs, h.onSocket.silent hs hsocket⟩

theorem Inv.openSocket (h : Inv uuid s) (hsocket : s.client.socket = none) :
    Inv uuid s.openSocket := by
  have hs := silent_openSocket h.holding
  refine ⟨h.linked.openSocket hsocket, h.holding.openSocket, h.ledger.silent hs, ?_⟩
  intro r p k hlookup
  rw [hs.pending, h.ledger.pending_empty h.onSocket hsocket] at hlookup
  cases hlookup

theorem Inv.connect (h : Inv uuid s) : Inv uuid s.connect := by
  unfold Page.connect
  by_cases hstop : s.client.stopped = true
  · rw [if_pos hstop]
    have hnone := h.linked.unlinked_of_stopped hstop
    have hfree : Unlinked { s with client := { s.client with stopped := false } } :=
      ⟨hnone.socket, hnone.reconnect, hnone.stable⟩
    refine Inv.openSocket ?_ hfree.socket
    exact h.quiet hfree.linked ⟨h.holding.reconnect, h.holding.stable, h.holding.resync⟩
      ⟨rfl, rfl, rfl, rfl, fun _ _ _ _ => Iff.rfl⟩ rfl
  · rw [if_neg hstop]
    exact h

theorem Ledger.disconnect (h : Ledger uuid s) (hh : Holding s) : Ledger uuid s.disconnect := by
  refine Ledger.rejectPending ?_ _
  refine Ledger.silent ?_ (silent_closeSocket _ _)
  have hstopped : Holding { s with client := { s.client with stopped := true } } :=
    ⟨hh.reconnect, hh.stable, hh.resync⟩
  have hs := silent_clearTimers hstopped
  exact h.silent ⟨hs.pending, hs.promises, hs.settled, hs.uuids, hs.acks⟩

theorem Inv.disconnect (h : Inv uuid s) : Inv uuid s.disconnect :=
  ⟨h.linked.disconnect.linked, h.holding.disconnect, h.ledger.disconnect h.holding,
    onSocket_rejectPending _ _⟩

theorem Inv.send (h : Inv uuid s) (type : String) (payload : Json) (ack : Bool) :
    Inv uuid (s.send uuid type payload ack) :=
  ⟨h.linked.aside (aside_send ..), h.holding.aside (aside_send ..), h.ledger.send ..,
    h.onSocket.send h.ledger _ _ _⟩

theorem Inv.call (h : Inv uuid s) (c : Call) : Inv uuid (s.call uuid c) := by
  cases c with
  | connect => exact h.connect
  | disconnect => exact h.disconnect
  | send type payload ack => exact h.send type payload ack

theorem Inv.settleOne (h : Inv uuid s) {id : String} {p : Pending}
    (hp : s.client.pending.lookup id = some p) (result : Settlement) :
    Inv uuid (s.settleOne id p result) :=
  ⟨h.linked.aside (aside_settleOne ..), h.holding.aside (aside_settleOne ..),
    h.ledger.settleOne hp result, h.onSocket.settleOne _ _ _⟩

theorem Inv.settle (h : Inv uuid s) (message : Envelope) : Inv uuid (s.settle message) := by
  rcases settle_cases message s with heq | ⟨id, p, result, -, hp, -, heq⟩
  · rw [heq]
    exact h
  · rw [heq]
    exact h.settleOne hp result

theorem Inv.clock (h : Inv uuid s) (clock : ClockSynchronizer) :
    Inv uuid { s with client := { s.client with clock := clock } } :=
  h.quiet (h.linked.aside (aside_clock clock s)) (h.holding.aside (aside_clock clock s))
    ⟨rfl, rfl, rfl, rfl, fun _ _ _ _ => Iff.rfl⟩ rfl

theorem Inv.pong (h : Inv uuid s) {message : Envelope} (hpong : s.pong message = some s') :
    Inv uuid s' := by
  unfold Page.pong at hpong
  split_ifs at hpong
  · obtain ⟨payload, -, rfl⟩ := Option.map_eq_some_iff.mp hpong
    exact h.clock _
  · obtain rfl := Option.some.inj hpong
    exact h

theorem Inv.handling (h : Inv uuid s) (handling : Option Envelope) :
    Inv uuid { s with handling := handling } :=
  h.quiet (h.linked.aside (aside_handling handling s)) (h.holding.aside (aside_handling handling s))
    ⟨rfl, rfl, rfl, rfl, fun _ _ _ _ => Iff.rfl⟩ rfl

theorem Inv.receive (h : Inv uuid s) (value : Option Json) : Inv uuid (s.receive value) := by
  unfold Page.receive
  split
  · exact h
  · split
    · exact h
    · rename_i hpong
      exact (h.pong hpong).handling _

theorem Inv.finish (h : Inv uuid s) (throws : Bool) : Inv uuid (s.finish throws) := by
  unfold Page.finish
  split
  · exact h
  · dsimp only
    split_ifs
    · exact h.handling none
    · exact (h.handling none).settle _

/-- A due timer that is no interval. -/
theorem fire_of_due {t : Nat} {due : ℚ} {c : Callback} (hlive : s.timers.live t = some (due, c))
    (hdue : due ≤ s.now) (hc : c ≠ .resync) :
    s.fire uuid t = ({ s with timers := s.timers.clear t } : Page).run uuid c := by
  rw [Page.fire, hlive]
  simp only [if_neg (not_lt.mpr hdue)]

theorem fire_resync {t : Nat} {due : ℚ} (hlive : s.timers.live t = some (due, .resync))
    (hdue : due ≤ s.now) : s.fire uuid t =
      ({ s with timers := s.timers.rearm t (due + resyncMs) } : Page).sampleClock := by
  rw [Page.fire, hlive]
  simp only [if_neg (not_lt.mpr hdue)]
  rfl

theorem fire_early {t : Nat} (h : ∀ due c, s.timers.live t = some (due, c) → s.now < due) :
    s.fire uuid t = s := by
  unfold Page.fire
  split
  · rfl
  · rename_i due c hlive
    exact if_pos (h due c hlive)

/-- The timeout of a command rejects it. -/
theorem Ledger.fire_ack (h : Ledger uuid s) {t : Nat} {due : ℚ} {r : String} {i : Nat}
    (hlive : s.timers.live t = some (due, .ack r i)) (hdue : due ≤ s.now) :
    s.client.pending.lookup r = some ⟨i, t⟩ ∧ s.fire uuid t =
      s.settleOne r ⟨i, t⟩ (.rejected (.str "Command acknowledgement timed out")) := by
  refine ⟨h.timed t due r i hlive, ?_⟩
  rw [fire_of_due hlive hdue (by simp)]
  rfl

theorem Inv.fire (h : Inv uuid s) (t : Nat) : Inv uuid (s.fire uuid t) := by
  by_cases hearly : ∀ due c, s.timers.live t = some (due, c) → s.now < due
  · rw [fire_early hearly]
    exact h
  · push Not at hearly
    obtain ⟨due, c, hlive, hdue⟩ := hearly
    have hlinked : Linked (s.fire uuid t) := h.linked.fire t
    have hholding : Holding (s.fire uuid t) := h.holding.fire t
    have hclear : (∀ r i, c ≠ .ack r i) → Inv uuid { s with timers := s.timers.clear t } :=
      fun hc => h.quiet (h.linked.aside (aside_clear t s)) (h.holding.aside (aside_clear t s))
        (silent_clear hlive hc) rfl
    cases c with
    | reconnect =>
        rw [fire_of_due hlive hdue (by simp)]
        exact (hclear (by simp)).openSocket (h.linked.reconnect t due hlive).2.1
    | stable k =>
        rw [fire_of_due hlive hdue (by simp)] at hlinked hholding ⊢
        rcases run_stable uuid k { s with timers := s.timers.clear t } with heq | ⟨-, heq⟩
        · rw [heq]
          exact hclear (by simp)
        · rw [heq] at hlinked hholding ⊢
          exact (hclear (by simp)).quiet hlinked hholding
            ⟨rfl, rfl, rfl, rfl, fun _ _ _ _ => Iff.rfl⟩ rfl
    | resync =>
        rw [fire_resync hlive hdue] at hlinked hholding ⊢
        exact h.quiet hlinked hholding
          ((silent_rearm hlive _).trans (silent_sampleClock _)) rfl
    | sample =>
        rw [fire_of_due hlive hdue (by simp)]
        exact ((hclear (by simp)).clock _).send _ _ _
    | ack r i =>
        obtain ⟨hp, heq⟩ := h.ledger.fire_ack hlive hdue
        rw [heq]
        exact h.settleOne hp _

theorem Inv.lost (h : Inv uuid s) {k : Nat} (hk : s.client.socket = some k) (code : Nat)
    (reason : String) (random : ℚ) : Inv uuid ((s.dropped k).lost code reason random) := by
  have hdropped : Holding (s.dropped k) := ⟨h.holding.reconnect, h.holding.stable, h.holding.resync⟩
  have hledger : Ledger uuid (s.dropped k) :=
    h.ledger.silent ⟨rfl, rfl, rfl, rfl, fun _ _ _ _ => Iff.rfl⟩
  have hreject := (hledger.silent (silent_clearConnectionTimers hdropped)).rejectPending
    "Connection lost"
  have hempty := onSocket_rejectPending "Connection lost" (s.dropped k).clearConnectionTimers
  have hrun : (s.dropped k).client.stopped = false := (h.linked.current k hk).1
  refine ⟨h.linked.lost hk code reason random, hdropped.lost code reason random, ?_, ?_⟩
  · rw [lost_eq hrun]
    cases terminal code reason with
    | none => exact hreject.silent (silent_retry random _)
    | some status => exact hreject.silent ⟨rfl, rfl, rfl, rfl, fun _ _ _ _ => Iff.rfl⟩
  · rw [lost_eq hrun]
    cases terminal code reason with
    | none => exact hempty.silent (silent_retry random _) rfl
    | some status => exact hempty.silent ⟨rfl, rfl, rfl, rfl, fun _ _ _ _ => Iff.rfl⟩ rfl

theorem socket_onopen (k : Nat) (dateNow : ℚ) (s : Page) :
    (s.onopen k dateNow).client.socket = s.client.socket := by
  unfold Page.onopen
  split_ifs <;> rfl

theorem Inv.task (h : Inv uuid s) (e : Event) : Inv uuid (s.task uuid e) := by
  have hlinked : Linked (s.task uuid e) := h.linked.task e
  have hholding : Holding (s.task uuid e) := h.holding.task e
  have hsilent : ∀ sockets, Silent s { s with sockets := sockets } :=
    fun _ => ⟨rfl, rfl, rfl, rfl, fun _ _ _ _ => Iff.rfl⟩
  cases e with
  | call c => exact h.call c
  | heard throws => exact h.finish throws
  | opened k dateNow =>
      by_cases hready : s.sockets[k]? = some .connecting
      · rw [Page.task, if_pos hready] at hlinked hholding ⊢
        have hset : Holding (s.setReady k .open) :=
          ⟨h.holding.reconnect, h.holding.stable, h.holding.resync⟩
        refine h.quiet hlinked hholding ?_ (socket_onopen k dateNow _)
        exact (hsilent _).trans (silent_onopen hset k dateNow)
      · rw [Page.task, if_neg hready]
        exact h
  | message k value =>
      rw [Page.task]
      split_ifs
      · exact h.receive value
      · exact h
  | closing k => exact h.quiet hlinked hholding (silent_closeSocket (some k) s) rfl
  | closed k code reason random =>
      by_cases hk : s.client.socket = some k
      · rw [closed_of_current hk (h.linked.ready hk)]
        exact h.lost hk code reason random
      · obtain ⟨sockets, heq, -, -⟩ := closed_of_ne uuid hk code reason random
        rw [heq] at hlinked hholding ⊢
        exact h.quiet hlinked hholding (hsilent sockets) rfl
  | errored k =>
      by_cases hk : s.client.socket = some k
      · rw [Page.task, if_pos hk] at hlinked hholding ⊢
        exact h.quiet hlinked hholding (silent_closeSocket (some k) s) rfl
      · rw [Page.task, if_neg hk]
        exact h
  | fired t => exact h.fire t
  | elapsed time =>
      exact h.quiet hlinked hholding ⟨rfl, rfl, rfl, rfl, fun _ _ _ _ => Iff.rfl⟩ rfl

theorem Inv.step (h : Inv uuid s) (e : Event) : Inv uuid (s.step uuid e) := by
  unfold Page.step
  split_ifs
  · exact h
  · exact h.task e

/-- The invariant holds at the end of every run. -/
theorem inv_run (dateNow : ℚ) (es : List Event) :
    Inv uuid (LabelledRun.run (Page.step uuid) (start dateNow) es) := by
  have hstep : ∀ (s : Page) (e : Event), Inv uuid s → True → Inv uuid (s.step uuid e) :=
    fun _ e h _ => h.step e
  exact LabelledRun.run_invariant hstep (inv_start dateNow) (fun _ _ _ _ => trivial)

-- ============================================================================
-- A stopped client
-- ============================================================================

/-- The client is stopped, created no socket and reported no status. -/
structure Still (s s' : Page) : Prop where
  stopped : s'.client.stopped = true
  sockets : s'.sockets.length = s.sockets.length
  statuses : s'.statuses = s.statuses

theorem Still.aside (ha : Aside s s') (hstop : s.client.stopped = true) : Still s s' :=
  ⟨ha.stopped.trans hstop, congrArg _ ha.sockets, ha.statuses⟩

theorem length_closeSocket (socket : Option Nat) (s : Page) :
    (s.closeSocket socket).sockets.length = s.sockets.length := by
  cases socket with
  | none => rfl
  | some k => exact List.length_modify ..

theorem statuses_closeSocket (socket : Option Nat) (s : Page) :
    (s.closeSocket socket).statuses = s.statuses := by
  cases socket <;> rfl

theorem still_closeSocket (socket : Option Nat) (hstop : s.client.stopped = true) :
    Still s (s.closeSocket socket) := by
  refine ⟨?_, length_closeSocket socket s, statuses_closeSocket socket s⟩
  rw [client_closeSocket]
  exact hstop

theorem still_disconnect (s : Page) : Still s s.disconnect := by
  refine ⟨?_, length_closeSocket _ _, statuses_closeSocket _ _⟩
  exact congrArg WebSocketClient.stopped (client_closeSocket _ _)

theorem openSocket_of_stopped (hstop : s.client.stopped = true) : s.openSocket = s := by
  rw [openSocket, if_pos hstop]

theorem still_fire (t : Nat) (hstop : s.client.stopped = true) : Still s (s.fire uuid t) := by
  rcases fire_cases t s with heq | ⟨due, c, -, -, ⟨-, ha⟩ | ⟨hc, heq⟩⟩
  · rw [heq]
    exact Still.aside (Aside.refl s) hstop
  · exact Still.aside ha hstop
  · rw [heq]
    have hclear := Still.aside (aside_clear t s) hstop
    rcases hc with rfl | ⟨k, rfl⟩
    · rw [run, openSocket_of_stopped hclear.stopped]
      exact hclear
    · rcases run_stable uuid k { s with timers := s.timers.clear t } with hrun | ⟨-, hrun⟩
      · rw [hrun]
        exact hclear
      · rw [hrun]
        exact ⟨hclear.stopped, hclear.sockets, hclear.statuses⟩

/-- Whatever happens to a stopped client short of `connect`, it stays as it is. -/
theorem Inv.still (h : Inv uuid s) (hstop : s.client.stopped = true) {e : Event}
    (he : e ≠ .call .connect) : Still s (s.step uuid e) := by
  have hnone := (h.linked.unlinked_of_stopped hstop).socket
  have hrefl := Still.aside (Aside.refl s) hstop
  unfold Page.step
  split_ifs
  · exact hrefl
  cases e with
  | call c =>
      cases c with
      | connect => exact absurd rfl he
      | disconnect => exact still_disconnect s
      | send type payload ack => exact Still.aside (aside_send type payload ack s) hstop
  | heard throws => exact Still.aside (aside_finish throws s) hstop
  | opened k dateNow =>
      rw [Page.task]
      split_ifs
      · have hguard : (s.setReady k .open).client.socket ≠ some k ∨
            (s.setReady k .open).client.stopped = true := Or.inr hstop
        rw [onopen, if_pos hguard]
        exact ⟨hstop, List.length_set, rfl⟩
      · exact hrefl
  | message k value =>
      rw [Page.task]
      split_ifs
      · exact Still.aside (aside_receive value s) hstop
      · exact hrefl
  | closing k => exact still_closeSocket (some k) hstop
  | closed k code reason random =>
      have hk : s.client.socket ≠ some k := by simp [hnone]
      obtain ⟨sockets, heq, hlength, -⟩ := closed_of_ne uuid hk code reason random
      rw [heq]
      exact ⟨hstop, hlength, rfl⟩
  | errored k =>
      rw [Page.task]
      split_ifs
      · exact still_closeSocket (some k) hstop
      · exact hrefl
  | fired t => exact still_fire t hstop
  | elapsed time => exact ⟨hstop, rfl, rfl⟩

theorem Inv.still_run (h : Inv uuid s) (hstop : s.client.stopped = true) {es : List Event}
    (hes : .call .connect ∉ es) : Still s (LabelledRun.run (Page.step uuid) s es) := by
  have hstep : ∀ (x : Page) (e : Event), Inv uuid x ∧ Still s x → e ≠ .call .connect →
      Inv uuid (x.step uuid e) ∧ Still s (x.step uuid e) := by
    rintro x e ⟨hx, hstill⟩ he
    have hnext := hx.still hstill.stopped he
    exact ⟨hx.step e, hnext.stopped, hnext.sockets.trans hstill.sockets,
      hnext.statuses.trans hstill.statuses⟩
  refine (LabelledRun.run_invariant hstep ⟨h, Still.aside (Aside.refl s) hstop⟩ ?_).2
  refine LabelledRun.eachStep_of_forall (fun e he hconnect => ?_)
  rw [hconnect] at he
  exact hes he

/-- `disconnect`, or the close of the current socket for a reason that ends reconnecting. -/
def Ends (s : Page) : Event → Prop
  | .call .disconnect => True
  | .closed k code reason _ =>
      s.client.socket = some k ∧ s.handling = none ∧ (terminal code reason).isSome
  | _ => False

theorem Inv.stopped_of_ends (h : Inv uuid s) {e : Event} (he : s.Ends e) :
    (s.step uuid e).client.stopped = true := by
  cases e with
  | call c =>
      cases c with
      | disconnect =>
          have hstep : s.step uuid (.call .disconnect) = s.disconnect := by
            simp [Page.step, Page.task, Page.call, Event.inListener]
          rw [hstep]
          exact (still_disconnect s).stopped
      | connect => exact absurd he (by simp [Ends])
      | send type payload ack => exact absurd he (by simp [Ends])
  | closed k code reason random =>
      obtain ⟨hk, hidle, hterminal⟩ := he
      obtain ⟨status, hstatus⟩ := Option.isSome_iff_exists.mp hterminal
      have hdropped : (s.dropped k).client.stopped = false := (h.linked.current k hk).1
      have hstep : s.step uuid (.closed k code reason random) =
          s.task uuid (.closed k code reason random) := by
        simp [Page.step, hidle]
      rw [hstep, closed_of_current hk (h.linked.ready hk), lost_eq hdropped, hstatus]
  | _ => exact absurd he (by simp [Ends])

-- ============================================================================
-- Events of abandoned sockets
-- ============================================================================

/-- An event of a socket that is not current moves the `readyState` of that socket alone. -/
theorem step_abandoned (uuid : Nat ↪ String) {e : Event} {k : Nat} (he : e.socket = some k)
    (hk : s.client.socket ≠ some k) :
    ∃ sockets, s.step uuid e = { s with sockets := sockets } ∧
      ∀ j, j ≠ k → sockets[j]? = s.sockets[j]? := by
  have hset : ∀ r j, j ≠ k → (s.sockets.set k r)[j]? = s.sockets[j]? :=
    fun r j hj => List.getElem?_set_ne (Ne.symm hj)
  unfold Page.step
  split_ifs
  · exact ⟨s.sockets, rfl, fun _ _ => rfl⟩
  cases e with
  | opened k' dateNow =>
      obtain rfl := Option.some.inj he
      rw [Page.task]
      split_ifs
      · have hguard : (s.setReady k' .open).client.socket ≠ some k' ∨
            (s.setReady k' .open).client.stopped = true := Or.inl hk
        rw [onopen, if_pos hguard]
        exact ⟨_, rfl, hset _⟩
      · exact ⟨s.sockets, rfl, fun _ _ => rfl⟩
  | message k' value =>
      obtain rfl := Option.some.inj he
      rw [Page.task, if_neg (fun hboth => hk hboth.1)]
      exact ⟨s.sockets, rfl, fun _ _ => rfl⟩
  | closing k' =>
      obtain rfl := Option.some.inj he
      refine ⟨_, rfl, fun j hj => ?_⟩
      rw [List.getElem?_modify]
      simp [Ne.symm hj]
  | closed k' code reason random =>
      obtain rfl := Option.some.inj he
      obtain ⟨sockets, heq, -, hsame⟩ := closed_of_ne uuid hk code reason random
      exact ⟨sockets, heq, hsame⟩
  | errored k' =>
      obtain rfl := Option.some.inj he
      rw [Page.task, if_neg hk]
      exact ⟨s.sockets, rfl, fun _ _ => rfl⟩
  | call c => cases he
  | heard throws => cases he
  | fired t => cases he
  | elapsed time => cases he

-- ============================================================================
-- Settling
-- ============================================================================

/-- Nothing is unsettled again, and what is resolved wanted no acknowledgement. -/
def Settles (s s' : Page) : Prop :=
  ∃ new, s'.settled = s.settled ++ new ∧
    ∀ i, (i, .resolved) ∈ new → ∀ x, s'.promises[i]? = some x → x.wantsAck = false

theorem Settles.of_eq (h : s'.settled = s.settled) : Settles s s' :=
  ⟨[], h.trans (List.append_nil _).symm, by simp⟩

theorem Settles.of_rejected {new : List (Nat × Settlement)} (h : s'.settled = s.settled ++ new)
    (hnew : ∀ i, (i, .resolved) ∉ new) : Settles s s' :=
  ⟨new, h, fun i hi => absurd hi (hnew i)⟩

theorem Settles.mem (h : Settles s s') {i : Nat} (hi : i ∈ s.settledIds) : i ∈ s'.settledIds := by
  obtain ⟨new, hnew, -⟩ := h
  rw [settledIds, hnew, List.map_append]
  exact List.mem_append_left _ hi

theorem settles_openSocket (s : Page) : Settles s s.openSocket := by
  refine Settles.of_eq ?_
  unfold openSocket
  split_ifs <;> rfl

theorem settles_connect (s : Page) : Settles s s.connect := by
  unfold connect
  split_ifs
  · exact settles_openSocket { s with client := { s.client with stopped := false } }
  · exact Settles.of_eq rfl

theorem settles_rejectPending (message : String) (s : Page) :
    Settles s (s.rejectPending message) := by
  refine Settles.of_rejected rfl ?_
  intro i hi
  obtain ⟨p, -, hp⟩ := List.mem_map.mp hi
  cases (Prod.mk.inj hp).2

theorem settled_closeSocket (socket : Option Nat) (s : Page) :
    (s.closeSocket socket).settled = s.settled := by
  cases socket <;> rfl

theorem promises_closeSocket (socket : Option Nat) (s : Page) :
    (s.closeSocket socket).promises = s.promises := by
  cases socket <;> rfl

theorem settles_disconnect (s : Page) : Settles s s.disconnect := by
  obtain ⟨new, hnew, hresolved⟩ := settles_rejectPending "Disconnected"
    ((({ s.clearTimers with client := { s.clearTimers.client with
        stopped := true, socket := none } } : Page)).closeSocket s.client.socket)
  refine ⟨new, ?_, hresolved⟩
  rw [settled_closeSocket] at hnew
  exact hnew

theorem settles_send (type : String) (payload : Json) (ack : Bool) (s : Page) :
    Settles s (s.send uuid type payload ack) := by
  unfold send
  split
  · refine Settles.of_rejected rfl ?_
    simp
  · rename_i k hopen
    cases ack with
    | true => exact Settles.of_eq rfl
    | false =>
        refine ⟨_, rfl, ?_⟩
        intro i hi x hx
        obtain rfl : i = s.promises.length := by simpa using hi
        obtain rfl : .posted (uuid s.uuids) k = x := by simpa using hx
        rfl

theorem settles_lost (hrun : s.client.stopped = false) (code : Nat) (reason : String)
    (random : ℚ) : Settles s (s.lost code reason random) := by
  obtain ⟨new, hnew, hresolved⟩ := settles_rejectPending "Connection lost" s.clearConnectionTimers
  rw [lost_eq hrun]
  cases terminal code reason with
  | none => exact ⟨new, hnew, hresolved⟩
  | some status => exact ⟨new, hnew, hresolved⟩

theorem Ledger.settles_fire (h : Ledger uuid s) (t : Nat) : Settles s (s.fire uuid t) := by
  by_cases hearly : ∀ due c, s.timers.live t = some (due, c) → s.now < due
  · rw [fire_early hearly]
    exact Settles.of_eq rfl
  · push Not at hearly
    obtain ⟨due, c, hlive, hdue⟩ := hearly
    cases c with
    | reconnect =>
        rw [fire_of_due hlive hdue (by simp)]
        exact settles_openSocket { s with timers := s.timers.clear t }
    | stable k =>
        rw [fire_of_due hlive hdue (by simp)]
        rcases run_stable uuid k { s with timers := s.timers.clear t } with heq | ⟨-, heq⟩
        · rw [heq]
          exact Settles.of_eq rfl
        · rw [heq]
          exact Settles.of_eq rfl
    | resync =>
        rw [fire_resync hlive hdue]
        exact Settles.of_eq rfl
    | sample =>
        rw [fire_of_due hlive hdue (by simp)]
        exact settles_send (s := { s with
          timers := s.timers.clear t
          client := { s.client with clock := (s.client.clock.pingPayload s.now).1 } }) _ _ _
    | ack r i =>
        rw [(h.fire_ack hlive hdue).2]
        exact Settles.of_rejected rfl (by simp)

theorem settled_onopen (k : Nat) (dateNow : ℚ) (s : Page) :
    (s.onopen k dateNow).settled = s.settled := by
  unfold onopen
  split_ifs <;> rfl

theorem settled_receive (value : Option Json) (s : Page) :
    (s.receive value).settled = s.settled := by
  unfold receive
  split
  · rfl
  · split
    · rfl
    · rename_i hpong
      unfold pong at hpong
      split_ifs at hpong
      · obtain ⟨payload, -, rfl⟩ := Option.map_eq_some_iff.mp hpong
        rfl
      · rw [← Option.some.inj hpong]

/-- Of all events only the end of a message resolves a command that waits for an
    acknowledgement. -/
theorem Inv.settles_task (h : Inv uuid s) {e : Event} (he : ∀ throws, e ≠ .heard throws) :
    Settles s (s.task uuid e) := by
  cases e with
  | call c =>
      cases c with
      | connect => exact settles_connect s
      | disconnect => exact settles_disconnect s
      | send type payload ack => exact settles_send type payload ack s
  | heard throws => exact absurd rfl (he throws)
  | opened k dateNow =>
      rw [Page.task]
      split_ifs
      · exact Settles.of_eq (settled_onopen k dateNow _)
      · exact Settles.of_eq rfl
  | message k value =>
      rw [Page.task]
      split_ifs
      · exact Settles.of_eq (settled_receive value s)
      · exact Settles.of_eq rfl
  | closing k => exact Settles.of_eq rfl
  | closed k code reason random =>
      by_cases hk : s.client.socket = some k
      · have hdropped : (s.dropped k).client.stopped = false := (h.linked.current k hk).1
        rw [closed_of_current hk (h.linked.ready hk)]
        exact settles_lost hdropped code reason random
      · obtain ⟨sockets, heq, -, -⟩ := closed_of_ne uuid hk code reason random
        rw [heq]
        exact Settles.of_eq rfl
  | errored k =>
      rw [Page.task]
      split_ifs
      · exact Settles.of_eq rfl
      · exact Settles.of_eq rfl
  | fired t => exact h.ledger.settles_fire t
  | elapsed time => exact Settles.of_eq rfl

/-- The end of a message settles nothing, or the outstanding command whose id it carries. -/
theorem finish_cases (throws : Bool) (s : Page) :
    (s.finish throws).settled = s.settled ∨ ∃ message id p result, throws = false ∧
      s.handling = some message ∧ message.requestId = some (.str id) ∧
      s.client.pending.lookup id = some p ∧ (result = .resolved → message.type = "ack") ∧
      s.finish throws = ({ s with handling := none } : Page).settleOne id p result := by
  unfold finish
  split
  · exact Or.inl rfl
  · rename_i message hmessage
    cases throws with
    | true => exact Or.inl rfl
    | false =>
        rcases settle_cases message { s with handling := none } with
          heq | ⟨id, p, result, hid, hp, hack, heq⟩
        · have hsettled : (Page.settle message { s with handling := none }).settled = s.settled := by
            rw [heq]
          exact Or.inl hsettled
        · exact Or.inr ⟨message, id, p, result, rfl, hmessage, hid, hp, hack, heq⟩

/-- A promise whose command wants an acknowledgement is resolved by an `ack` of its id. -/
theorem Inv.resolved_by_ack (h : Inv uuid s) {e : Event} {i : Nat} {x : Sent}
    (hx : (s.step uuid e).promises[i]? = some x) (hwants : x.wantsAck = true)
    (hnew : (i, .resolved) ∈ (s.step uuid e).settled) (hold : (i, .resolved) ∉ s.settled) :
    ∃ r k t message, x = .awaiting r k t ∧ e = .heard false ∧ s.handling = some message ∧
      message.type = "ack" ∧ message.requestId = some (.str r) := by
  unfold Page.step at hx hnew
  split_ifs at hx hnew with hbusy
  · exact absurd hnew hold
  by_cases he : ∀ throws, e ≠ .heard throws
  · obtain ⟨new, heq, hresolved⟩ := h.settles_task he
    rw [heq, List.mem_append] at hnew
    rcases hnew with hnew | hnew
    · exact absurd hnew hold
    · rw [hresolved i hnew x hx] at hwants
      cases hwants
  · push Not at he
    obtain ⟨throws, rfl⟩ := he
    rw [Page.task] at hx hnew
    rcases finish_cases throws s with heq | ⟨message, id, p, result, rfl, hmessage, hid, hp, hack, heq⟩
    · rw [heq] at hnew
      exact absurd hnew hold
    · rw [heq] at hx hnew
      have hx : s.promises[i]? = some x := hx
      rcases List.mem_append.mp hnew with hnew | hnew
      · exact absurd hnew hold
      · obtain ⟨rfl, hresult⟩ : i = p.promise ∧ Settlement.resolved = result := by
          simpa using hnew
        obtain ⟨⟨k, hk⟩, -, -⟩ := h.ledger.held id p hp
        rw [hx] at hk
        exact ⟨id, k, p.timeout, message, Option.some.inj hk, rfl, hmessage, hack hresult.symm, hid⟩

theorem settles_finish (throws : Bool) (s : Page) {i : Nat} (hi : i ∈ s.settledIds) :
    i ∈ (s.finish throws).settledIds := by
  rcases finish_cases throws s with heq | ⟨_, id, p, result, -, -, -, -, -, heq⟩
  · rw [settledIds, heq]
    exact hi
  · rw [heq, settledIds, settleOne, List.map_append]
    exact List.mem_append_left _ hi

theorem Inv.settled_mono (h : Inv uuid s) (e : Event) {i : Nat} (hi : i ∈ s.settledIds) :
    i ∈ (s.step uuid e).settledIds := by
  unfold Page.step
  split_ifs
  · exact hi
  by_cases he : ∀ throws, e ≠ .heard throws
  · exact (h.settles_task he).mem hi
  · push Not at he
    obtain ⟨throws, rfl⟩ := he
    exact settles_finish throws s hi

-- ============================================================================
-- What settles a command
-- ============================================================================

/-- A command that is outstanding has its timeout armed, and its socket is the current one. -/
theorem Inv.open_command (h : Inv uuid s) {i : Nat} {r : String} {k t : Nat}
    (hi : s.promises[i]? = some (.awaiting r k t)) (hopen : i ∉ s.settledIds) :
    s.client.pending.lookup r = some ⟨i, t⟩ ∧
      (∃ due, s.timers.live t = some (due, .ack r i)) ∧ s.client.socket = some k := by
  have hp := h.ledger.kept i r k t hi hopen
  exact ⟨hp, (h.ledger.held r _ hp).2.1, h.onSocket r _ k hp hi⟩

/-- Nothing outstanding is left where the map is empty. -/
theorem Ledger.settled_of_empty (h : Ledger uuid s) (hempty : s.client.pending = ∅) {i : Nat}
    {r : String} {k t : Nat} (hi : s.promises[i]? = some (.awaiting r k t)) :
    i ∈ s.settledIds := by
  by_contra hopen
  have hp := h.kept i r k t hi hopen
  rw [hempty, AList.lookup_empty] at hp
  cases hp

/-- The timeout of a command settles it. -/
theorem Inv.settled_of_timeout (h : Inv uuid s) {i : Nat} {r : String} {k t : Nat}
    (hi : s.promises[i]? = some (.awaiting r k t)) (hidle : s.handling = none) {due : ℚ}
    {c : Callback} (hlive : s.timers.live t = some (due, c)) (hdue : due ≤ s.now) :
    i ∈ (s.step uuid (.fired t)).settledIds := by
  by_cases hopen : i ∈ s.settledIds
  · exact h.settled_mono _ hopen
  · obtain ⟨-, ⟨due', hack⟩, -⟩ := h.open_command hi hopen
    rw [hack] at hlive
    obtain ⟨rfl, rfl⟩ := Prod.mk.inj (Option.some.inj hlive)
    have hstep : s.step uuid (.fired t) = s.fire uuid t := by
      simp [Page.step, Page.task, hidle]
    rw [hstep, (h.ledger.fire_ack hack hdue).2]
    simp [settledIds, Page.settleOne]

/-- `disconnect` settles every command. -/
theorem Inv.settled_of_disconnect (h : Inv uuid s) {i : Nat} {r : String} {k t : Nat}
    (hi : s.promises[i]? = some (.awaiting r k t)) :
    i ∈ (s.step uuid (.call .disconnect)).settledIds := by
  have hstep : s.step uuid (.call .disconnect) = s.disconnect := by
    simp [Page.step, Page.task, Page.call, Event.inListener]
  rw [hstep]
  refine h.disconnect.ledger.settled_of_empty rfl (i := i) (r := r) (k := k) (t := t) ?_
  rw [← hi]
  exact congrArg (fun l => l[i]?) (promises_closeSocket _ _)

/-- The close of its socket settles a command. -/
theorem Inv.settled_of_closed (h : Inv uuid s) {i : Nat} {r : String} {k t : Nat}
    (hi : s.promises[i]? = some (.awaiting r k t)) (hidle : s.handling = none) (code : Nat)
    (reason : String) (random : ℚ) :
    i ∈ (s.step uuid (.closed k code reason random)).settledIds := by
  by_cases hopen : i ∈ s.settledIds
  · exact h.settled_mono _ hopen
  · obtain ⟨-, -, hk⟩ := h.open_command hi hopen
    have hdropped : (s.dropped k).client.stopped = false := (h.linked.current k hk).1
    have hstep : s.step uuid (.closed k code reason random) =
        (s.dropped k).lost code reason random := by
      simp only [Page.step, hidle, Option.isSome_none, Bool.false_eq_true, false_and, if_false]
      exact closed_of_current hk (h.linked.ready hk) code reason random
    rw [hstep]
    refine (h.lost hk code reason random).ledger.settled_of_empty ?_ (i := i) (r := r) (k := k)
      (t := t) ?_
    · rw [lost_eq hdropped]
      cases terminal code reason <;> rfl
    · rw [lost_eq hdropped, ← hi]
      cases terminal code reason <;> rfl

-- ============================================================================
-- The attempt counter
-- ============================================================================

theorem attempts_openSocket (s : Page) : s.openSocket.client.attempts = s.client.attempts := by
  unfold openSocket
  split_ifs <;> rfl

theorem attempts_connect (s : Page) : s.connect.client.attempts = s.client.attempts := by
  unfold connect
  split_ifs
  · exact attempts_openSocket { s with client := { s.client with stopped := false } }
  · rfl

theorem attempts_closeSocket (socket : Option Nat) (s : Page) :
    (s.closeSocket socket).client.attempts = s.client.attempts := by
  rw [client_closeSocket]

theorem attempts_disconnect (s : Page) : s.disconnect.client.attempts = s.client.attempts :=
  attempts_closeSocket _ _

theorem attempts_onopen (k : Nat) (dateNow : ℚ) (s : Page) :
    (s.onopen k dateNow).client.attempts = s.client.attempts := by
  unfold onopen
  split_ifs <;> rfl

/-- A lost connection counts as an attempt or ends them. -/
theorem attempts_lost (code : Nat) (reason : String) (random : ℚ) (s : Page) :
    s.client.attempts ≤ (s.lost code reason random).client.attempts := by
  by_cases hstop : s.client.stopped = true
  · rw [lost, if_pos hstop]
  · rw [lost_eq (Bool.eq_false_iff.mpr hstop)]
    cases terminal code reason with
    | none => exact Nat.le_succ _
    | some status => exact Nat.le_refl _

/-- Only the stable timer of the current, open socket takes the counter back to zero. -/
theorem attempts_task {e : Event} (hzero : (s.task uuid e).client.attempts = 0)
    (hpos : s.client.attempts ≠ 0) : ∃ t due k, e = .fired t ∧
      s.timers.live t = some (due, .stable k) ∧ due ≤ s.now ∧ s.openNow = some k := by
  have hsame : ∀ {n : Nat}, n = 0 → ¬n = s.client.attempts := by
    rintro n rfl heq
    exact hpos heq.symm
  cases e with
  | call c =>
      cases c with
      | connect => exact absurd (attempts_connect s) (hsame hzero)
      | disconnect => exact absurd (attempts_disconnect s) (hsame hzero)
      | send type payload ack => exact absurd (aside_send type payload ack s).attempts (hsame hzero)
  | heard throws => exact absurd (aside_finish throws s).attempts (hsame hzero)
  | opened k dateNow =>
      rw [Page.task] at hzero
      split_ifs at hzero
      · exact absurd (attempts_onopen k dateNow (s.setReady k .open)) (hsame hzero)
      · exact absurd hzero hpos
  | message k value =>
      rw [Page.task] at hzero
      split_ifs at hzero
      · exact absurd (aside_receive value s).attempts (hsame hzero)
      · exact absurd hzero hpos
  | closing k => exact absurd hzero hpos
  | closed k code reason random =>
      rw [Page.task] at hzero
      dsimp only at hzero
      split_ifs at hzero
      · exact absurd hzero hpos
      · have hle := attempts_lost code reason random (s.dropped k)
        have hle : s.client.attempts ≤ 0 := hle.trans (Nat.le_of_eq hzero)
        exact absurd (Nat.le_zero.mp hle) hpos
      · exact absurd hzero hpos
  | errored k =>
      rw [Page.task] at hzero
      split_ifs at hzero
      · exact absurd hzero hpos
      · exact absurd hzero hpos
  | fired t =>
      rw [Page.task] at hzero
      rcases fire_cases t s with heq | ⟨due, c, hlive, hdue, ⟨-, ha⟩ | ⟨hc, heq⟩⟩
      · rw [heq] at hzero
        exact absurd hzero hpos
      · exact absurd ha.attempts (hsame hzero)
      · rw [heq] at hzero
        rcases hc with rfl | ⟨k, rfl⟩
        · exact absurd (attempts_openSocket { s with timers := s.timers.clear t }) (hsame hzero)
        · rcases run_stable uuid k { s with timers := s.timers.clear t } with hrun | ⟨hopen, -⟩
          · rw [hrun] at hzero
            exact absurd hzero hpos
          · exact ⟨t, due, k, rfl, hlive, hdue, hopen⟩
  | elapsed time => exact absurd hzero hpos

theorem attempts_step {e : Event} (hzero : (s.step uuid e).client.attempts = 0)
    (hpos : s.client.attempts ≠ 0) : ∃ t due k, e = .fired t ∧
      s.timers.live t = some (due, .stable k) ∧ due ≤ s.now ∧ s.openNow = some k := by
  unfold Page.step at hzero
  split_ifs at hzero
  · exact absurd hzero hpos
  · exact attempts_task hzero hpos

-- ============================================================================
-- A stable connection
-- ============================================================================

/-- `k` is the current socket, and it is open. -/
def OnAir (k : Nat) (s : Page) : Prop :=
  s.client.socket = some k ∧ s.sockets[k]? = some .open

theorem not_onAir_of_socket (h : s.client.socket = none) (k : Nat) : ¬s.OnAir k := by
  rintro ⟨hk, -⟩
  rw [h] at hk
  cases hk

theorem not_onAir_openSocket (hrun : s.client.stopped = false) (k : Nat) :
    ¬s.openSocket.OnAir k := by
  rw [openSocket, if_neg (by simp [hrun])]
  rintro ⟨hk, hopen⟩
  obtain rfl := Option.some.inj hk
  have hlast : (s.sockets ++ [ReadyState.connecting])[s.sockets.length]? = some .connecting :=
    List.getElem?_concat_length
  have hopen : (s.sockets ++ [ReadyState.connecting])[s.sockets.length]? = some .open := hopen
  rw [hlast] at hopen
  cases hopen

/-- A stable timer of an open connection was armed before, while the connection was open,
    or is armed just now. -/
def Steady (s s' : Page) : Prop :=
  ∀ t due k, s'.timers.live t = some (due, .stable k) → s'.OnAir k →
    (s.timers.live t = some (due, .stable k) ∧ s.OnAir k) ∨ s'.now + stableConnectionMs ≤ due

theorem Steady.of_dark (h : ∀ k, ¬s'.OnAir k) : Steady s s' :=
  fun _ _ k _ hair => absurd hair (h k)

theorem Steady.aside (ha : Aside s s') : Steady s s' := by
  intro t due k hlive hair
  rcases ha.timers t due _ hlive with ⟨d, hd, hdue⟩ | ⟨-, hfree⟩
  · obtain rfl := hdue (by simp)
    refine Or.inl ⟨hd, ?_⟩
    rw [OnAir, ← ha.socket, ← ha.sockets]
    exact hair
  · cases hfree

/-- No socket is opened, and timers are only removed. -/
theorem Steady.of_sub (hsocket : s'.client.socket = s.client.socket)
    (hsockets : ∀ k : Nat, s'.sockets[k]? = some .open → s.sockets[k]? = some .open)
    (htimers : ∀ t due c, s'.timers.live t = some (due, c) → s.timers.live t = some (due, c)) :
    Steady s s' := by
  intro t due k hlive hair
  exact Or.inl ⟨htimers t due _ hlive, hsocket ▸ hair.1, hsockets k hair.2⟩

theorem close_eq_open {r : ReadyState} : r.close ≠ .open := by
  cases r <;> simp [ReadyState.close]

theorem steady_closeSocket (k : Nat) (s : Page) : Steady s (s.closeSocket (some k)) := by
  refine Steady.of_sub rfl ?_ (fun _ _ _ h => h)
  intro j hopen
  have hopen : (s.sockets.modify k ReadyState.close)[j]? = some .open := hopen
  rw [List.getElem?_modify] at hopen
  obtain ⟨r, hr, heq⟩ := Option.map_eq_some_iff.mp hopen
  by_cases hj : k = j
  · rw [if_pos hj] at heq
    exact absurd heq close_eq_open
  · rw [if_neg hj] at heq
    rw [hr]
    exact congrArg some heq

/-- A socket that opens is only now declared a candidate for a stable connection. -/
theorem Linked.steady_opened (h : Linked s) {k : Nat} (hready : s.sockets[k]? = some .connecting)
    (dateNow : ℚ) : Steady s ((s.setReady k .open).onopen k dateNow) := by
  by_cases hk : s.client.socket = some k
  · have hrun := (h.current k hk).1
    obtain ⟨q, hq, htimers, -, -⟩ :=
      timers_onopen (s := s.setReady k .open) dateNow hk hrun
    have hnow : ((s.setReady k .open).onopen k dateNow).now = s.now := by
      have hguard : ¬((s.setReady k .open).client.socket ≠ some k ∨
          (s.setReady k .open).client.stopped = true) := by
        simp [setReady, hk, hrun]
      rw [Page.onopen, if_neg hguard]
      rfl
    intro t due j hlive hair
    rw [htimers] at hlive
    rcases Timers.live_set_iff.mp hlive with ⟨-, hdue, -⟩ | hlive
    · rw [hdue, hnow]
      exact Or.inr (le_refl _)
    · rcases Timers.live_set_iff.mp hlive with ⟨-, -, hc⟩ | hlive
      · cases hc
      · rcases hq.timers t due _ hlive with ⟨d, hd, -⟩ | ⟨-, hfree⟩
        · obtain ⟨-, hj, hne⟩ := h.stable t d j hd
          rw [hk] at hj
          obtain rfl := Option.some.inj hj
          exact absurd hready hne
        · cases hfree
  · have hguard : (s.setReady k .open).client.socket ≠ some k ∨
        (s.setReady k .open).client.stopped = true := Or.inl hk
    rw [Page.onopen, if_pos hguard]
    intro t due j hlive hair
    have hne : k ≠ j := by
      rintro rfl
      exact hk hair.1
    refine Or.inl ⟨hlive, hair.1, ?_⟩
    rw [← hair.2]
    exact (List.getElem?_set_ne hne).symm

theorem socket_lost (code : Nat) (reason : String) (random : ℚ) (s : Page) :
    (s.lost code reason random).client.socket = s.client.socket := by
  by_cases hstop : s.client.stopped = true
  · rw [lost, if_pos hstop]
  · rw [lost_eq (Bool.eq_false_iff.mpr hstop)]
    cases terminal code reason <;> rfl

theorem steady_fire (t : Nat) (s : Page) : Steady s (s.fire uuid t) := by
  rcases fire_cases t s with heq | ⟨due, c, -, -, ⟨-, ha⟩ | ⟨hc, heq⟩⟩
  · rw [heq]
    exact Steady.aside (Aside.refl s)
  · exact Steady.aside ha
  · rw [heq]
    have hclear : ∀ t' due c, (s.timers.clear t).live t' = some (due, c) →
        s.timers.live t' = some (due, c) := fun _ _ _ h => (Timers.live_clear_iff.mp h).2
    rcases hc with rfl | ⟨k, rfl⟩
    · by_cases hstop : s.client.stopped = true
      · have hsame : Page.openSocket { s with timers := s.timers.clear t }
            = { s with timers := s.timers.clear t } := openSocket_of_stopped hstop
        rw [run, hsame]
        exact Steady.of_sub rfl (fun _ h => h) hclear
      · exact Steady.of_dark (not_onAir_openSocket (Bool.eq_false_iff.mpr hstop))
    · rcases run_stable uuid k { s with timers := s.timers.clear t } with hrun | ⟨-, hrun⟩
      · rw [hrun]
        exact Steady.of_sub rfl (fun _ h => h) hclear
      · rw [hrun]
        exact Steady.of_sub rfl (fun _ h => h) hclear

theorem Inv.steady (h : Inv uuid s) (e : Event) : Steady s (s.step uuid e) := by
  have hrefl := Steady.aside (Aside.refl s)
  unfold Page.step
  split_ifs
  · exact hrefl
  cases e with
  | call c =>
      cases c with
      | connect =>
          rw [Page.task, Page.call, Page.connect]
          split_ifs
          · exact Steady.of_dark (not_onAir_openSocket rfl)
          · exact hrefl
      | disconnect => exact Steady.of_dark (not_onAir_of_socket h.linked.disconnect.socket)
      | send type payload ack => exact Steady.aside (aside_send type payload ack s)
  | heard throws => exact Steady.aside (aside_finish throws s)
  | opened k dateNow =>
      rw [Page.task]
      split_ifs with hready
      · exact h.linked.steady_opened hready dateNow
      · exact hrefl
  | message k value =>
      rw [Page.task]
      split_ifs
      · exact Steady.aside (aside_receive value s)
      · exact hrefl
  | closing k => exact steady_closeSocket k s
  | closed k code reason random =>
      by_cases hk : s.client.socket = some k
      · rw [closed_of_current hk (h.linked.ready hk)]
        exact Steady.of_dark (not_onAir_of_socket (socket_lost code reason random (s.dropped k)))
      · obtain ⟨sockets, heq, -, hsame⟩ := closed_of_ne uuid hk code reason random
        rw [heq]
        intro t due j hlive hair
        have hj : j ≠ k := by
          rintro rfl
          exact hk hair.1
        exact Or.inl ⟨hlive, hair.1, (hsame j hj).symm.trans hair.2⟩
  | errored k =>
      rw [Page.task]
      split_ifs
      · exact steady_closeSocket k s
      · exact hrefl
  | fired t => exact steady_fire t s
  | elapsed time => exact Steady.of_sub rfl (fun _ h => h) (fun _ _ _ h => h)

/-- The states that a run passes, without the first. -/
def visited (uuid : Nat ↪ String) (s : Page) (es : List Event) : List Page :=
  LabelledRun.history (Page.step uuid) (fun s e => [s.step uuid e]) s es

/-- In the states of `h`, `k` has been on the air since `since` or longer. -/
def OnAirSince (k : Nat) (since : ℚ) (h : List Page) : Prop :=
  History.Since (OnAir k) (fun p => p.OnAir k ∧ p.now ≤ since) h

/-- A stable timer has waited since its connection was opened. -/
def Waiting (h : List Page) (s : Page) : Prop :=
  ∀ t due k, s.timers.live t = some (due, .stable k) → s.OnAir k →
    OnAirSince k (due - stableConnectionMs) h

theorem Waiting.step {h : List Page} (hinv : Inv uuid s) (hwait : Waiting h s) (e : Event) :
    Waiting (h ++ [s.step uuid e]) (s.step uuid e) := by
  intro t due k hlive hair
  refine History.since_snoc.mpr ?_
  rcases hinv.steady e t due k hlive hair with ⟨hold, hair'⟩ | hnew
  · exact Or.inr ⟨hwait t due k hold hair', hair⟩
  · refine Or.inl ⟨hair, ?_⟩
    linarith

theorem waiting_run (dateNow : ℚ) (es : List Event) :
    Waiting (visited uuid (start dateNow) es)
      (LabelledRun.run (Page.step uuid) (start dateNow) es) := by
  have hstep : ∀ (h : List Page) (s : Page) (e : Event), Inv uuid s ∧ Waiting h s →
      Inv uuid (s.step uuid e) ∧ Waiting (h ++ [s.step uuid e]) (s.step uuid e) :=
    fun h s e hboth => ⟨hboth.1.step e, hboth.2.step hboth.1 e⟩
  have hinit : Inv uuid (start dateNow) ∧ Waiting [] (start dateNow) := by
    refine ⟨inv_start dateNow, ?_⟩
    intro t due k hlive
    cases hlive
  exact (LabelledRun.run_history_invariant
    (I := fun h s => Inv uuid s ∧ Waiting h s) hstep hinit es).2

/-- The counter goes back to zero when a connection has been open for the whole of
    `STABLE_CONNECTION_MS`. -/
theorem attempts_reset {dateNow : ℚ} {es : List Event} {e : Event}
    (hpos : (LabelledRun.run (Page.step uuid) (start dateNow) es).client.attempts ≠ 0)
    (hzero : ((LabelledRun.run (Page.step uuid) (start dateNow) es).step uuid e).client.attempts
      = 0) :
    ∃ k, OnAirSince k
      ((LabelledRun.run (Page.step uuid) (start dateNow) es).now - stableConnectionMs)
      (visited uuid (start dateNow) es) := by
  obtain ⟨t, due, k, rfl, hlive, hdue, hopen⟩ := attempts_step hzero hpos
  obtain ⟨pre, p, post, hsplit, ⟨hair, hnow⟩, hkeep⟩ :=
    waiting_run dateNow es t due k hlive (openNow_eq_some.mp hopen)
  refine ⟨k, pre, p, post, hsplit, ⟨hair, ?_⟩, hkeep⟩
  linarith

-- ============================================================================
-- The message being handled
-- ============================================================================

theorem handling_openSocket (s : Page) : s.openSocket.handling = s.handling := by
  unfold openSocket
  split_ifs <;> rfl

theorem handling_connect (s : Page) : s.connect.handling = s.handling := by
  unfold connect
  split_ifs
  · exact handling_openSocket _
  · rfl

theorem handling_closeSocket (socket : Option Nat) (s : Page) :
    (s.closeSocket socket).handling = s.handling := by
  cases socket <;> rfl

theorem handling_disconnect (s : Page) : s.disconnect.handling = s.handling :=
  handling_closeSocket _ _

theorem handling_send (type : String) (payload : Json) (ack : Bool) (s : Page) :
    (s.send uuid type payload ack).handling = s.handling := by
  unfold send
  split
  · rfl
  · cases ack <;> rfl

theorem handling_lost (code : Nat) (reason : String) (random : ℚ) (s : Page) :
    (s.lost code reason random).handling = s.handling := by
  by_cases hstop : s.client.stopped = true
  · rw [lost, if_pos hstop]
  · rw [lost_eq (Bool.eq_false_iff.mpr hstop)]
    cases terminal code reason <;> rfl

theorem handling_run (c : Callback) (s : Page) : (s.run uuid c).handling = s.handling := by
  cases c with
  | reconnect => exact handling_openSocket s
  | stable k =>
      rcases run_stable uuid k s with heq | ⟨-, heq⟩
      · rw [heq]
      · rw [heq]
  | resync => rfl
  | sample => exact handling_send ..
  | ack requestId promise => rfl

theorem handling_fire (t : Nat) (s : Page) : (s.fire uuid t).handling = s.handling := by
  by_cases hearly : ∀ due c, s.timers.live t = some (due, c) → s.now < due
  · rw [fire_early hearly]
  · push Not at hearly
    obtain ⟨due, c, hlive, hdue⟩ := hearly
    by_cases hc : c = .resync
    · rw [fire_resync (hc ▸ hlive) hdue]
      rfl
    · rw [fire_of_due hlive hdue hc]
      exact handling_run c _

/-- Listeners are called for a message of the current socket. -/
theorem handling_step {e : Event} {message : Envelope}
    (h : (s.step uuid e).handling = some message) : s.handling = some message ∨
      ∃ k value, e = .message k value ∧ s.client.socket = some k ∧
        parseEnvelope value = some message := by
  unfold Page.step at h
  split_ifs at h
  · exact Or.inl h
  cases e with
  | call c =>
      cases c with
      | connect => exact Or.inl ((handling_connect s).symm.trans h)
      | disconnect => exact Or.inl ((handling_disconnect s).symm.trans h)
      | send type payload ack => exact Or.inl ((handling_send type payload ack s).symm.trans h)
  | heard throws =>
      rw [Page.task, Page.finish] at h
      split at h
      · exact Or.inl h
      · rename_i m hm
        dsimp only at h
        split_ifs at h
        rcases settle_cases m { s with handling := none } with heq | ⟨id, p, result, -, -, -, heq⟩
        · rw [heq] at h
          cases h
        · rw [heq] at h
          cases h
  | opened k dateNow =>
      have honopen : ∀ s : Page, (s.onopen k dateNow).handling = s.handling := by
        intro s
        unfold Page.onopen
        split_ifs <;> rfl
      rw [Page.task] at h
      split_ifs at h
      · have hold := (honopen (s.setReady k .open)).symm.trans h
        exact Or.inl hold
      · exact Or.inl h
  | message k value =>
      rw [Page.task] at h
      split_ifs at h with hcurrent
      · unfold receive at h
        split at h
        · exact Or.inl h
        · rename_i m hm
          split at h
          · exact Or.inl h
          · obtain rfl := Option.some.inj h
            exact Or.inr ⟨k, value, rfl, hcurrent.1, hm⟩
      · exact Or.inl h
  | closing k => exact Or.inl h
  | closed k code reason random =>
      rw [Page.task] at h
      dsimp only at h
      split_ifs at h
      · exact Or.inl h
      · exact Or.inl ((handling_lost code reason random (s.dropped k)).symm.trans h)
      · exact Or.inl h
  | errored k =>
      rw [Page.task] at h
      split_ifs at h
      · exact Or.inl h
      · exact Or.inl h
  | fired t => exact Or.inl ((handling_fire t s).symm.trans h)
  | elapsed time => exact Or.inl h

-- ============================================================================
-- The state machine
-- ============================================================================

/-- A reconnect timer is pending. -/
def Reconnects (s : Page) (t : Nat) : Prop := ∃ due, s.timers.live t = some (due, .reconnect)

/-- The command behind the promise `i` is in the pending map. -/
def InPending (s : Page) (i : Nat) : Prop :=
  ∃ (r : String) (p : Pending), s.client.pending.lookup r = some p ∧ p.promise = i

/-- What holds of the page in a state, and of every event that may follow. -/
structure Contract (uuid : Nat ↪ String) (s : Page) : Prop where
  /-- At most one of a current socket and a pending reconnect timer. -/
  oneLink : ∀ t, s.Reconnects t → s.client.socket = none ∧ ∀ t', s.Reconnects t' → t' = t
  /-- After `disconnect` or a terminal close, nothing until the next `connect`. -/
  quiet : ∀ e, s.Ends e → ∀ es, .call .connect ∉ es →
    (LabelledRun.run (Page.step uuid) (s.step uuid e) es).sockets.length
        = (s.step uuid e).sockets.length ∧
      (LabelledRun.run (Page.step uuid) (s.step uuid e) es).statuses
        = (s.step uuid e).statuses
  /-- The events of a socket that is not current move its own `readyState` alone. -/
  abandoned : ∀ e k, e.socket = some k → s.client.socket ≠ some k →
    ∃ sockets, s.step uuid e = { s with sockets := sockets } ∧
      ∀ j, j ≠ k → sockets[j]? = s.sockets[j]?
  once : ∀ i, s.settledIds.count i ≤ 1
  /-- In the pending map exactly while unsettled. -/
  pending : ∀ (i : Nat) x, s.promises[i]? = some x → x.wantsAck = true →
    (s.InPending i ↔ i ∉ s.settledIds)
  /-- Resolved only by an `ack` with the id of the command. -/
  resolved : ∀ e (i : Nat) x, (s.step uuid e).promises[i]? = some x → x.wantsAck = true →
    (i, .resolved) ∈ (s.step uuid e).settled → (i, .resolved) ∉ s.settled →
    ∃ r k t message, x = .awaiting r k t ∧ e = .heard false ∧ s.handling = some message ∧
      message.type = "ack" ∧ message.requestId = some (.str r)
  /-- The message was received on the socket that was current. -/
  received : ∀ e message, (s.step uuid e).handling = some message → s.handling = some message ∨
    ∃ k value, e = .message k value ∧ s.client.socket = some k ∧
      parseEnvelope value = some message
  /-- Settled once its timer has fired. -/
  timedOut : ∀ (i : Nat) r k t, s.promises[i]? = some (.awaiting r k t) → s.handling = none →
    ∀ due c, s.timers.live t = some (due, c) → due ≤ s.now →
      i ∈ (s.step uuid (.fired t)).settledIds
  /-- Settled once its connection is lost. -/
  lost : ∀ (i : Nat) r k t, s.promises[i]? = some (.awaiting r k t) → s.handling = none →
    ∀ code reason random, i ∈ (s.step uuid (.closed k code reason random)).settledIds
  /-- Settled once `disconnect` was called. -/
  disconnected : ∀ (i : Nat) r k t, s.promises[i]? = some (.awaiting r k t) →
    i ∈ (s.step uuid (.call .disconnect)).settledIds

theorem Inv.inPending_iff (h : Inv uuid s) {i : Nat} {x : Sent} (hx : s.promises[i]? = some x)
    (hwants : x.wantsAck = true) : s.InPending i ↔ i ∉ s.settledIds := by
  constructor
  · rintro ⟨r, p, hp, rfl⟩
    exact (h.ledger.held r p hp).2.2
  · intro hopen
    cases x with
    | refused ack => exact absurd (h.ledger.direct i _ hx (by simp)) hopen
    | posted r k => cases hwants
    | awaiting r k t => exact ⟨r, ⟨i, t⟩, h.ledger.kept i r k t hx hopen, rfl⟩

theorem Inv.contract (h : Inv uuid s) : Contract uuid s := by
  constructor
  · rintro t ⟨due, hlive⟩
    obtain ⟨htimer, hsocket, -⟩ := h.linked.reconnect t due hlive
    refine ⟨hsocket, ?_⟩
    rintro t' ⟨due', hlive'⟩
    have htimer' := (h.linked.reconnect t' due' hlive').1
    rw [htimer] at htimer'
    exact (Option.some.inj htimer').symm
  · intro e he es hes
    have hstill := (h.step e).still_run (h.stopped_of_ends he) hes
    exact ⟨hstill.sockets, hstill.statuses⟩
  · intro e k he hk
    exact step_abandoned uuid he hk
  · exact fun i => List.nodup_iff_count_le_one.mp h.ledger.once i
  · intro i x hx hwants
    exact h.inPending_iff hx hwants
  · intro e i x hx hwants hnew hold
    exact h.resolved_by_ack hx hwants hnew hold
  · intro e message hhandling
    exact handling_step hhandling
  · intro i r k t hi hidle due c hlive hdue
    exact h.settled_of_timeout hi hidle hlive hdue
  · intro i r k t hi hidle code reason random
    exact h.settled_of_closed hi hidle code reason random
  · intro i r k t hi
    exact h.settled_of_disconnect hi

/-- In every order of calls, events of all sockets and timers, the client keeps its
    contract in every state, and its attempt counter goes back to zero only when one
    connection has been open for `STABLE_CONNECTION_MS`. -/
theorem client_state_machine (uuid : Nat ↪ String) (dateNow : ℚ) (es : List Event) :
    Contract uuid (LabelledRun.run (Page.step uuid) (start dateNow) es) ∧
      ∀ e, (LabelledRun.run (Page.step uuid) (start dateNow) es).client.attempts ≠ 0 →
        ((LabelledRun.run (Page.step uuid) (start dateNow) es).step uuid e).client.attempts = 0 →
        ∃ k, OnAirSince k
          ((LabelledRun.run (Page.step uuid) (start dateNow) es).now - stableConnectionMs)
          (visited uuid (start dateNow) es) := by
  refine ⟨(inv_run dateNow es).contract, ?_⟩
  intro e hpos hzero
  exact attempts_reset hpos hzero

/-- Two attempts are lost, the third connection is stable. -/
example :
    let uuid : Nat ↪ String := ⟨fun n => String.ofList (List.replicate n 'a'), by
      intro m n h
      simpa using congrArg String.length h⟩
    let es : List Event :=
      [.call .connect, .opened 0 0, .closed 0 1006 "" 0, .elapsed 800, .fired 7,
        .closed 1 1006 "" 0, .elapsed 2400, .fired 8, .opened 2 0]
    let s := LabelledRun.run (Page.step uuid) (start 0) es
    s.client.attempts = 2 ∧ s.client.stableTimer = some 15 ∧
      ((s.step uuid (.elapsed 12400)).step uuid (.fired 15)).client.attempts = 0 := by
  decide +kernel

end Page

end WatchTogether.Web

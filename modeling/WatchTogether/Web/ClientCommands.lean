/-
  WatchTogether.Web.ClientCommands

  The commands of a `WebSocketClient` that wait for an acknowledgement: the promises of
  `send`, the pending map and the timeouts.

  `Ledger` says that the three agree.  `Silent` says that a piece of code leaves all of
  them alone, as opening a socket and the timers of a connection do.
-/

import WatchTogether.Web.ClientConnection

namespace WatchTogether.Web

namespace Page

variable {uuid : Nat ↪ String} {s s' s'' : Page}

-- ============================================================================
-- The outstanding commands
-- ============================================================================

/-- The promises that were resolved or rejected, once for each time. -/
def settledIds (s : Page) : List Nat := s.settled.map (fun x => x.1)

/-- Every promise of `send`, the pending map and the acknowledgement timeouts agree. -/
structure Ledger (uuid : Nat ↪ String) (s : Page) : Prop where
  held : ∀ (r : String) (p : Pending), s.client.pending.lookup r = some p →
    (∃ k, s.promises[p.promise]? = some (.awaiting r k p.timeout)) ∧
      (∃ due, s.timers.live p.timeout = some (due, .ack r p.promise)) ∧
      p.promise ∉ s.settledIds
  kept : ∀ (i : Nat) r k t, s.promises[i]? = some (.awaiting r k t) → i ∉ s.settledIds →
    s.client.pending.lookup r = some ⟨i, t⟩
  timed : ∀ t due r i, s.timers.live t = some (due, .ack r i) →
    s.client.pending.lookup r = some ⟨i, t⟩
  named : ∀ (i : Nat) r k t, s.promises[i]? = some (.awaiting r k t) →
    ∃ n, n < s.uuids ∧ uuid n = r
  once : s.settledIds.Nodup
  made : ∀ i ∈ s.settledIds, i < s.promises.length
  /-- A promise that waits for nothing is settled. -/
  direct : ∀ (i : Nat) x, s.promises[i]? = some x → (∀ r k t, x ≠ Sent.awaiting r k t) →
    i ∈ s.settledIds

/-- The outstanding commands were sent on the current socket. -/
def OnSocket (s : Page) : Prop :=
  ∀ (r : String) (p : Pending) k, s.client.pending.lookup r = some p →
    s.promises[p.promise]? = some (.awaiting r k p.timeout) → s.client.socket = some k

/-- `s'` has the same commands as `s`, with the same timeouts. -/
structure Silent (s s' : Page) : Prop where
  pending : s'.client.pending = s.client.pending
  promises : s'.promises = s.promises
  settled : s'.settled = s.settled
  uuids : s'.uuids = s.uuids
  acks : ∀ t due r i, s'.timers.live t = some (due, .ack r i) ↔
    s.timers.live t = some (due, .ack r i)

theorem Silent.trans (h : Silent s s') (h' : Silent s' s'') : Silent s s'' :=
  ⟨h'.pending.trans h.pending, h'.promises.trans h.promises, h'.settled.trans h.settled,
    h'.uuids.trans h.uuids, fun t due r i => (h'.acks t due r i).trans (h.acks t due r i)⟩

theorem Ledger.silent (h : Ledger uuid s) (hs : Silent s s') : Ledger uuid s' := by
  have hids : s'.settledIds = s.settledIds := by
    rw [settledIds, hs.settled, settledIds]
  constructor
  · intro r p hlookup
    rw [hs.pending] at hlookup
    obtain ⟨hpromise, ⟨due, hdue⟩, hsettled⟩ := h.held r p hlookup
    rw [hs.promises, hids]
    exact ⟨hpromise, ⟨due, (hs.acks _ _ _ _).mpr hdue⟩, hsettled⟩
  · rw [hs.promises, hs.pending, hids]
    exact h.kept
  · intro t due r i hlive
    rw [hs.pending]
    exact h.timed t due r i ((hs.acks t due r i).mp hlive)
  · rw [hs.promises, hs.uuids]
    exact h.named
  · rw [hids]
    exact h.once
  · rw [hids, hs.promises]
    exact h.made
  · rw [hids, hs.promises]
    exact h.direct

theorem OnSocket.silent (h : OnSocket s) (hs : Silent s s')
    (hsocket : s'.client.socket = s.client.socket) : OnSocket s' := by
  intro r p k hlookup hpromise
  rw [hs.pending] at hlookup
  rw [hs.promises] at hpromise
  rw [hsocket]
  exact h r p k hlookup hpromise

/-- With no socket there is nothing outstanding. -/
theorem Ledger.pending_empty (h : Ledger uuid s) (hon : OnSocket s)
    (hsocket : s.client.socket = none) (r : String) : s.client.pending.lookup r = none := by
  cases hlookup : s.client.pending.lookup r with
  | none => rfl
  | some p =>
      obtain ⟨⟨k, hk⟩, -, -⟩ := h.held r p hlookup
      have hcurrent := hon r p k hlookup hk
      rw [hsocket] at hcurrent
      cases hcurrent

/-- Two commands with the same promise have the same id. -/
theorem Ledger.id_unique (h : Ledger uuid s) {r r' : String} {p p' : Pending}
    (hr : s.client.pending.lookup r = some p) (hr' : s.client.pending.lookup r' = some p')
    (heq : p.promise = p'.promise) : r = r' := by
  obtain ⟨⟨k, hk⟩, -, -⟩ := h.held r p hr
  obtain ⟨⟨k', hk'⟩, -, -⟩ := h.held r' p' hr'
  rw [heq, hk'] at hk
  exact (Sent.awaiting.inj (Option.some.inj hk)).1.symm

/-- Settling one outstanding command. -/
theorem Ledger.settleOne (h : Ledger uuid s) {id : String} {p : Pending}
    (hp : s.client.pending.lookup id = some p) (result : Settlement) :
    Ledger uuid (s.settleOne id p result) := by
  have hids : (s.settleOne id p result).settledIds = s.settledIds ++ [p.promise] := by
    simp [settledIds, Page.settleOne]
  obtain ⟨⟨k, hk⟩, ⟨due, hdue⟩, hopen⟩ := h.held id p hp
  constructor
  · intro r p' hlookup
    obtain ⟨hne, hlookup⟩ := AList.lookup_erase_iff.mp hlookup
    obtain ⟨hpromise, ⟨due', hdue'⟩, hsettled⟩ := h.held r p' hlookup
    refine ⟨hpromise, ⟨due', Timers.live_clear_iff.mpr ⟨?_, hdue'⟩⟩, ?_⟩
    · intro htimeout
      rw [htimeout, hdue] at hdue'
      exact hne (Callback.ack.inj (Prod.mk.inj (Option.some.inj hdue')).2).1.symm
    · rw [hids, List.mem_append, List.mem_singleton, not_or]
      exact ⟨hsettled, fun heq => hne (h.id_unique hlookup hp heq)⟩
  · intro i r k' t hpromise hsettled
    rw [hids, List.mem_append, List.mem_singleton, not_or] at hsettled
    have hlookup := h.kept i r k' t hpromise hsettled.1
    refine AList.lookup_erase_iff.mpr ⟨?_, hlookup⟩
    rintro rfl
    rw [hp] at hlookup
    exact hsettled.2 (congrArg Pending.promise (Option.some.inj hlookup)).symm
  · intro t due' r i hlive
    obtain ⟨hne, hlive⟩ := Timers.live_clear_iff.mp hlive
    have hlookup := h.timed t due' r i hlive
    refine AList.lookup_erase_iff.mpr ⟨?_, hlookup⟩
    rintro rfl
    rw [hp] at hlookup
    exact hne (congrArg Pending.timeout (Option.some.inj hlookup)).symm
  · exact h.named
  · rw [hids]
    exact h.once.append (List.nodup_singleton _) (by simpa using hopen)
  · intro i hi
    rw [hids, List.mem_append, List.mem_singleton] at hi
    rcases hi with hi | rfl
    · exact h.made i hi
    · exact (List.getElem?_eq_some_iff.mp hk).1
  · intro i x hx hdirect
    rw [hids]
    exact List.mem_append_left _ (h.direct i x hx hdirect)

theorem OnSocket.settleOne (h : OnSocket s) (id : String) (p : Pending) (result : Settlement) :
    OnSocket (s.settleOne id p result) := by
  intro r p' k hlookup hpromise
  exact h r p' k (AList.lookup_erase_iff.mp hlookup).2 hpromise

theorem mem_outstanding {p : Pending} :
    p ∈ s.outstanding ↔ ∃ r, s.client.pending.lookup r = some p := by
  rw [outstanding, List.mem_reverse, AList.mem_rows]

/-- No two outstanding commands share their promise. -/
theorem Ledger.nodup_outstanding (h : Ledger uuid s) :
    (s.outstanding.map (fun p => p.promise)).Nodup := by
  rw [outstanding, List.map_reverse, List.nodup_reverse, AList.rows, List.map_map]
  refine List.Nodup.map_on ?_ s.client.pending.nodupKeys.nodup
  rintro ⟨r, p⟩ hr ⟨r', p'⟩ hr' heq
  have hlookup := AList.mem_entries_iff.mp hr
  have hlookup' := AList.mem_entries_iff.mp hr'
  obtain rfl := h.id_unique hlookup hlookup' heq
  rw [hlookup] at hlookup'
  rw [Option.some.inj hlookup']

theorem settledIds_rejectPending (message : String) (s : Page) :
    (s.rejectPending message).settledIds =
      s.settledIds ++ s.outstanding.map (fun p => p.promise) := by
  simp [settledIds, rejectPending, Function.comp_def]

theorem Ledger.rejectPending (h : Ledger uuid s) (message : String) :
    Ledger uuid (s.rejectPending message) := by
  have hids := settledIds_rejectPending message s
  have hpending : ∀ r, (s.rejectPending message).client.pending.lookup r = none :=
    fun r => AList.lookup_empty r
  constructor
  · intro r p hlookup
    rw [hpending] at hlookup
    cases hlookup
  · intro i r k t hpromise hsettled
    rw [hids, List.mem_append, not_or] at hsettled
    have hlookup := h.kept i r k t hpromise hsettled.1
    exact absurd (List.mem_map.mpr ⟨_, mem_outstanding.mpr ⟨r, hlookup⟩, rfl⟩) hsettled.2
  · intro t due r i hlive
    obtain ⟨hne, hlive⟩ := Timers.live_clearAll_iff.mp hlive
    have hlookup := h.timed t due r i hlive
    exact absurd (List.mem_map.mpr ⟨_, mem_outstanding.mpr ⟨r, hlookup⟩, rfl⟩) hne
  · exact h.named
  · rw [hids]
    refine h.once.append h.nodup_outstanding ?_
    intro i hi hout
    obtain ⟨p, hp, rfl⟩ := List.mem_map.mp hout
    obtain ⟨r, hlookup⟩ := mem_outstanding.mp hp
    exact (h.held r p hlookup).2.2 hi
  · intro i hi
    rw [hids, List.mem_append] at hi
    rcases hi with hi | hi
    · exact h.made i hi
    · obtain ⟨p, hp, rfl⟩ := List.mem_map.mp hi
      obtain ⟨r, hlookup⟩ := mem_outstanding.mp hp
      obtain ⟨⟨k, hk⟩, -, -⟩ := h.held r p hlookup
      exact (List.getElem?_eq_some_iff.mp hk).1
  · intro i x hx hdirect
    rw [hids]
    exact List.mem_append_left _ (h.direct i x hx hdirect)

theorem onSocket_rejectPending (message : String) (s : Page) :
    OnSocket (s.rejectPending message) := by
  intro r p k hlookup
  have hnone : (s.rejectPending message).client.pending.lookup r = none := AList.lookup_empty r
  rw [hnone] at hlookup
  cases hlookup

theorem getElem?_snoc {α : Type*} {l : List α} {a x : α} {i : Nat} :
    (l ++ [a])[i]? = some x ↔ l[i]? = some x ∨ (i = l.length ∧ a = x) := by
  rcases Nat.lt_trichotomy i l.length with hlt | rfl | hgt
  · rw [List.getElem?_append_left hlt]
    simp [Nat.ne_of_lt hlt]
  · simp
  · rw [List.getElem?_append_right (Nat.le_of_lt hgt)]
    have hpos : i - l.length ≠ 0 := by omega
    simp [hpos, Nat.ne_of_gt hgt, Nat.le_of_lt hgt]

/-- A promise that is settled as it is made. -/
theorem Ledger.immediate (h : Ledger uuid s) {x : Sent} (hx : ∀ r k t, x ≠ .awaiting r k t)
    (result : Settlement) {uuids : Nat} (huuids : s.uuids ≤ uuids)
    (frames : List (Nat × Frame)) :
    Ledger uuid { s with
      uuids := uuids
      frames := frames
      promises := s.promises ++ [x]
      settled := s.settled ++ [(s.promises.length, result)] } := by
  have hold : ∀ {i : Nat} {r k t}, (s.promises ++ [x])[i]? = some (Sent.awaiting r k t) →
      s.promises[i]? = some (.awaiting r k t) := by
    intro i r k t hi
    rcases getElem?_snoc.mp hi with hi | ⟨-, hnew⟩
    · exact hi
    · exact absurd hnew (hx r k t)
  have hfresh : s.promises.length ∉ s.settledIds := fun hi => absurd (h.made _ hi) (by omega)
  constructor
  · intro r p hlookup
    obtain ⟨⟨k, hk⟩, hlive, hopen⟩ := h.held r p hlookup
    have hlt := (List.getElem?_eq_some_iff.mp hk).1
    refine ⟨⟨k, getElem?_snoc.mpr (Or.inl hk)⟩, hlive, ?_⟩
    simp only [settledIds, List.map_append, List.map_cons, List.map_nil, List.mem_append,
      List.mem_singleton, not_or]
    exact ⟨hopen, by omega⟩
  · intro i r k t hpromise hsettled
    refine h.kept i r k t (hold hpromise) ?_
    intro hi
    refine hsettled ?_
    simp only [settledIds, List.map_append]
    exact List.mem_append_left _ hi
  · exact h.timed
  · intro i r k t hpromise
    obtain ⟨n, hn, hr⟩ := h.named i r k t (hold hpromise)
    exact ⟨n, Nat.lt_of_lt_of_le hn huuids, hr⟩
  · simp only [settledIds, List.map_append, List.map_cons, List.map_nil]
    exact h.once.append (List.nodup_singleton _) (by simpa using hfresh)
  · intro i hi
    simp only [settledIds, List.map_append, List.map_cons, List.map_nil, List.mem_append,
      List.mem_singleton] at hi
    simp only [List.length_append, List.length_cons, List.length_nil]
    rcases hi with hi | rfl
    · exact Nat.lt_succ_of_lt (h.made i hi)
    · omega
  · intro i y hy hdirect
    simp only [settledIds, List.map_append, List.map_cons, List.map_nil, List.mem_append,
      List.mem_singleton]
    rcases getElem?_snoc.mp hy with hy | ⟨hi, -⟩
    · exact Or.inl (h.direct i y hy hdirect)
    · exact Or.inr hi

/-- A request id that `crypto.randomUUID` has not given out yet names no command. -/
theorem Ledger.lookup_fresh (h : Ledger uuid s) :
    s.client.pending.lookup (uuid s.uuids) = none := by
  cases hlookup : s.client.pending.lookup (uuid s.uuids) with
  | none => rfl
  | some p =>
      obtain ⟨⟨k, hk⟩, -, -⟩ := h.held _ p hlookup
      obtain ⟨n, hn, heq⟩ := h.named _ _ _ _ hk
      have hn' := uuid.injective heq
      omega

/-- A command that waits for its acknowledgement. -/
theorem Ledger.awaiting (h : Ledger uuid s) (k : Nat) (due : ℚ) (frames : List (Nat × Frame)) :
    Ledger uuid { s with
      uuids := s.uuids + 1
      frames := frames
      timers := s.timers.set due (.ack (uuid s.uuids) s.promises.length)
      promises := s.promises ++ [.awaiting (uuid s.uuids) k s.timers.next]
      client := { s.client with
        pending := s.client.pending.insert (uuid s.uuids)
          ⟨s.promises.length, s.timers.next⟩ } } := by
  have hfresh := h.lookup_fresh
  have hne : ∀ {r : String} {p : Pending}, s.client.pending.lookup r = some p →
      r ≠ uuid s.uuids := by
    rintro r p hlookup rfl
    rw [hfresh] at hlookup
    cases hlookup
  constructor
  · intro r p hlookup
    rcases AList.lookup_insert_iff.mp hlookup with ⟨rfl, rfl⟩ | ⟨-, hlookup⟩
    · refine ⟨⟨k, getElem?_snoc.mpr (Or.inr ⟨rfl, rfl⟩)⟩, ⟨due, Timers.live_set_self⟩, ?_⟩
      intro hi
      exact absurd (h.made _ hi) (by dsimp only; omega)
    · obtain ⟨⟨k', hk'⟩, ⟨due', hdue'⟩, hopen⟩ := h.held r p hlookup
      exact ⟨⟨k', getElem?_snoc.mpr (Or.inl hk')⟩, ⟨due', Timers.live_set_of_live hdue'⟩, hopen⟩
  · intro i r k' t hpromise hsettled
    refine AList.lookup_insert_iff.mpr ?_
    rcases getElem?_snoc.mp hpromise with hpromise | ⟨rfl, hnew⟩
    · have hlookup := h.kept i r k' t hpromise hsettled
      exact Or.inr ⟨hne hlookup, hlookup⟩
    · obtain ⟨rfl, -, rfl⟩ := Sent.awaiting.inj hnew
      exact Or.inl ⟨rfl, rfl⟩
  · intro t due' r i hlive
    refine AList.lookup_insert_iff.mpr ?_
    rcases Timers.live_set_iff.mp hlive with ⟨rfl, -, hc⟩ | hlive
    · obtain ⟨rfl, rfl⟩ := Callback.ack.inj hc
      exact Or.inl ⟨rfl, rfl⟩
    · have hlookup := h.timed t due' r i hlive
      exact Or.inr ⟨hne hlookup, hlookup⟩
  · intro i r k' t hpromise
    rcases getElem?_snoc.mp hpromise with hpromise | ⟨-, hnew⟩
    · obtain ⟨n, hn, hr⟩ := h.named i r k' t hpromise
      exact ⟨n, Nat.lt_succ_of_lt hn, hr⟩
    · exact ⟨s.uuids, Nat.lt_succ_self _, (Sent.awaiting.inj hnew).1⟩
  · exact h.once
  · intro i hi
    have hlt := h.made i hi
    simp only [List.length_append, List.length_cons, List.length_nil]
    omega
  · intro i x hx hdirect
    rcases getElem?_snoc.mp hx with hx | ⟨-, rfl⟩
    · exact h.direct i x hx hdirect
    · exact absurd rfl (hdirect _ _ _)

theorem openNow_eq_some {k : Nat} : s.openNow = some k ↔
    s.client.socket = some k ∧ s.sockets[k]? = some .open := by
  simp [openNow, Option.filter_eq_some_iff]

theorem Ledger.send (h : Ledger uuid s) (type : String) (payload : Json) (ack : Bool) :
    Ledger uuid (s.send uuid type payload ack) := by
  unfold Page.send
  split
  · exact h.immediate (by simp) _ (Nat.le_refl _) _
  · cases ack with
    | false => exact h.immediate (by simp) _ (Nat.le_succ _) _
    | true => exact h.awaiting _ _ _

theorem OnSocket.send (h : OnSocket s) (hl : Ledger uuid s) (type : String) (payload : Json)
    (ack : Bool) : OnSocket (s.send uuid type payload ack) := by
  have hold : ∀ {x : Sent} {r : String} {p : Pending} {k : Nat},
      s.client.pending.lookup r = some p →
      (s.promises ++ [x])[p.promise]? = some (.awaiting r k p.timeout) →
      s.client.socket = some k := by
    intro x r p k hlookup hpromise
    obtain ⟨⟨k', hk'⟩, -, -⟩ := hl.held r p hlookup
    have hlt := (List.getElem?_eq_some_iff.mp hk').1
    rcases getElem?_snoc.mp hpromise with hpromise | ⟨heq, -⟩
    · exact h r p k hlookup hpromise
    · omega
  unfold Page.send
  split
  · intro r p k hlookup hpromise
    exact hold hlookup hpromise
  · rename_i k hopen
    cases ack with
    | false =>
        intro r p k' hlookup hpromise
        exact hold hlookup hpromise
    | true =>
        intro r p k' hlookup hpromise
        rcases AList.lookup_insert_iff.mp hlookup with ⟨-, rfl⟩ | ⟨-, hlookup⟩
        · rcases getElem?_snoc.mp hpromise with hpromise | ⟨-, hnew⟩
          · have hlt := (List.getElem?_eq_some_iff.mp hpromise).1
            exact absurd hlt (by dsimp only; omega)
          · rw [← (Sent.awaiting.inj hnew).2.1]
            exact (openNow_eq_some.mp hopen).1
        · exact hold hlookup hpromise

-- ============================================================================
-- What leaves the commands alone
-- ============================================================================

theorem Silent.refl (s : Page) : Silent s s := ⟨rfl, rfl, rfl, rfl, fun _ _ _ _ => Iff.rfl⟩

theorem silent_openSocket (h : Holding s) : Silent s s.openSocket := by
  unfold openSocket
  split_ifs
  · exact Silent.refl s
  · refine ⟨rfl, rfl, rfl, rfl, ?_⟩
    intro t due r i
    exact Timers.live_clearHeld_of_owns h.reconnect (by simp)

theorem silent_clearConnectionTimers (h : Holding s) : Silent s s.clearConnectionTimers := by
  refine ⟨rfl, rfl, rfl, rfl, ?_⟩
  intro t due r i
  have hstable : (s.timers.clearHeld s.client.resyncTimer).Owns s.client.stableTimer
      (fun c => ∃ k, c = .stable k) := by
    refine h.stable.mono (Nat.le_of_eq Timers.next_clearHeld.symm) ?_
    intro t _ due c hlive
    exact ⟨due, (Timers.live_clearHeld_iff.mp hlive).2⟩
  exact (Timers.live_clearHeld_of_owns hstable (by simp)).trans
    (Timers.live_clearHeld_of_owns h.resync (by simp))

theorem silent_clearTimers (h : Holding s) : Silent s s.clearTimers := by
  have hreconnect : Silent s s.clearReconnect := by
    refine ⟨rfl, rfl, rfl, rfl, ?_⟩
    intro t due r i
    exact Timers.live_clearHeld_of_owns h.reconnect (by simp)
  rw [clearTimers_eq]
  exact hreconnect.trans (silent_clearConnectionTimers h.clearReconnect)

theorem silent_closeSocket (socket : Option Nat) (s : Page) : Silent s (s.closeSocket socket) := by
  cases socket with
  | none => exact Silent.refl s
  | some k => exact ⟨rfl, rfl, rfl, rfl, fun _ _ _ _ => Iff.rfl⟩

theorem live_set_ack {q : Timers ℚ Callback} {c : Callback} (hc : ∀ r i, c ≠ .ack r i)
    {due due' : ℚ} {t : Nat} {r : String} {i : Nat} :
    (q.set due' c).live t = some (due, .ack r i) ↔ q.live t = some (due, .ack r i) := by
  rw [Timers.live_set_iff]
  constructor
  · rintro (⟨-, -, hack⟩ | hlive)
    · exact absurd hack.symm (hc r i)
    · exact hlive
  · exact Or.inr

theorem silent_sampleClock (s : Page) : Silent s s.sampleClock := by
  refine ⟨rfl, rfl, rfl, rfl, ?_⟩
  intro t due r i
  constructor
  · intro hlive
    rcases Timers.live_of_setAll hlive with hold | ⟨-, hmem⟩
    · exact hold
    · obtain ⟨j, -, hj⟩ := List.mem_map.mp hmem
      cases (Prod.mk.inj hj).2
  · exact Timers.live_setAll_of_live

theorem silent_onopen (h : Holding s) (k : Nat) (dateNow : ℚ) : Silent s (s.onopen k dateNow) := by
  unfold onopen
  split_ifs
  · exact Silent.refl s
  · refine Silent.trans (silent_sampleClock s) ⟨rfl, rfl, rfl, rfl, ?_⟩
    intro t due r i
    rw [live_set_ack (by simp), live_set_ack (by simp)]
    exact Timers.live_clearHeld_of_owns (h.aside (aside_sampleClock s)).resync (by simp)

theorem silent_retry (random : ℚ) (s : Page) : Silent s (s.retry random) :=
  ⟨rfl, rfl, rfl, rfl, fun _ _ _ _ => live_set_ack (by simp)⟩

/-- The timer that fires is not the timeout of a command. -/
theorem silent_clear {t : Nat} {due : ℚ} {c : Callback} (h : s.timers.live t = some (due, c))
    (hc : ∀ r i, c ≠ .ack r i) : Silent s { s with timers := s.timers.clear t } := by
  refine ⟨rfl, rfl, rfl, rfl, ?_⟩
  intro t' due' r i
  rw [Timers.live_clear_iff]
  constructor
  · exact fun h' => h'.2
  · intro hlive
    refine ⟨?_, hlive⟩
    rintro rfl
    rw [h] at hlive
    exact hc r i (Prod.mk.inj (Option.some.inj hlive)).2

theorem silent_rearm {t : Nat} {due : ℚ} (h : s.timers.live t = some (due, .resync)) (due' : ℚ) :
    Silent s { s with timers := s.timers.rearm t due' } := by
  refine ⟨rfl, rfl, rfl, rfl, ?_⟩
  intro t' d r i
  rw [Timers.live_rearm_iff]
  constructor
  · rintro (⟨-, -, d', hd'⟩ | ⟨-, hlive⟩)
    · rw [h] at hd'
      cases (Prod.mk.inj (Option.some.inj hd')).2
    · exact hlive
  · intro hlive
    refine Or.inr ⟨?_, hlive⟩
    rintro rfl
    rw [h] at hlive
    cases (Prod.mk.inj (Option.some.inj hlive)).2

end Page

end WatchTogether.Web

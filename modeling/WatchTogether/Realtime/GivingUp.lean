/-
  WatchTogether.Realtime.GivingUp

  When a client enters the status `closed` and stops reconnecting.  The close event it was told
  is followed back to the `Close` of its connection, the `Close` to the step of the server that
  chose its reason, and that step to the row of the room.
-/

import WatchTogether.Realtime.Wiring
import WatchTogether.Web.ClientLifecycle

namespace WatchTogether.Web.Page

-- ============================================================================
-- The status `closed`
-- ============================================================================

/-- The step sets no status `closed`. -/
def Unclosed (s s' : Page) : Prop :=
  ∃ statuses, s'.statuses = s.statuses ++ statuses ∧ .closed ∉ statuses

variable {uuid : Nat ↪ String} {s s' : Page}

theorem Unclosed.of_eq (h : s'.statuses = s.statuses) : Unclosed s s' :=
  ⟨[], by rw [h, List.append_nil], List.not_mem_nil⟩

theorem Unclosed.aside (h : Aside s s') : Unclosed s s' := .of_eq h.statuses

theorem Unclosed.count_eq (h : Unclosed s s') :
    s'.statuses.count .closed = s.statuses.count .closed := by
  obtain ⟨statuses, heq, hclosed⟩ := h
  rw [heq, List.count_append, List.count_eq_zero_of_not_mem hclosed, Nat.add_zero]

theorem unclosed_openSocket (s : Page) : Unclosed s s.openSocket := by
  unfold openSocket
  split_ifs
  · exact .of_eq rfl
  · exact ⟨[.connecting], rfl, by simp⟩

theorem unclosed_connect (s : Page) : Unclosed s s.connect := by
  unfold connect
  split_ifs
  · exact unclosed_openSocket { s with client := { s.client with stopped := false } }
  · exact .of_eq rfl

theorem unclosed_disconnect (s : Page) : Unclosed s s.disconnect :=
  .of_eq (statuses_closeSocket _ _)

theorem unclosed_onopen (k : Nat) (dateNow : ℚ) (s : Page) : Unclosed s (s.onopen k dateNow) := by
  unfold onopen
  split_ifs
  · exact .of_eq rfl
  · exact ⟨[.connected], rfl, by simp⟩

theorem unclosed_fire (t : Nat) (s : Page) : Unclosed s (s.fire uuid t) := by
  rcases fire_cases t s with heq | ⟨due, c, -, -, ⟨-, ha⟩ | ⟨hc, heq⟩⟩
  · rw [heq]
    exact .of_eq rfl
  · exact .aside ha
  · rw [heq]
    rcases hc with rfl | ⟨k, rfl⟩
    · exact unclosed_openSocket { s with timers := s.timers.clear t }
    · rcases run_stable uuid k { s with timers := s.timers.clear t } with hrun | ⟨-, hrun⟩
      · rw [hrun]
        exact .of_eq rfl
      · rw [hrun]
        exact .of_eq rfl

/-- `lost` enters `closed` for the two reasons of a closed room. -/
theorem unclosed_lost {code : Nat} {reason : String} (h : terminal code reason ≠ some .closed)
    (random : ℚ) (s : Page) : Unclosed s (s.lost code reason random) := by
  by_cases hstop : s.client.stopped = true
  · rw [lost, if_pos hstop]
    exact .of_eq rfl
  · rw [lost_eq (Bool.eq_false_iff.mpr hstop)]
    cases hterminal : terminal code reason with
    | none => exact ⟨[.disconnected], rfl, by simp⟩
    | some status =>
        refine ⟨[status], rfl, ?_⟩
        rw [List.mem_singleton]
        rintro rfl
        exact h hterminal

theorem reason_of_terminal {code : Nat} {reason : String}
    (h : terminal code reason = some .closed) :
    reason = "ROOM_CLOSED" ∨ reason = "room closed" := by
  by_contra hne
  unfold terminal at h
  rw [if_neg hne] at h
  split_ifs at h
  all_goals cases h

/-- Only a close event with one of these reasons makes the client enter `closed`. -/
theorem unclosed_task {e : Event} (he : ∀ k code reason random,
    e = .closed k code reason random → terminal code reason ≠ some .closed) (s : Page) :
    Unclosed s (s.task uuid e) := by
  cases e with
  | call c =>
      cases c with
      | connect => exact unclosed_connect s
      | disconnect => exact unclosed_disconnect s
      | send type payload ack => exact .aside (aside_send type payload ack s)
  | heard throws => exact .aside (aside_finish throws s)
  | opened k dateNow =>
      rw [Page.task]
      split_ifs
      · exact unclosed_onopen k dateNow (s.setReady k .open)
      · exact .of_eq rfl
  | message k value =>
      rw [Page.task]
      split_ifs
      · exact .aside (aside_receive value s)
      · exact .of_eq rfl
  | closing k => exact .of_eq rfl
  | closed k code reason random =>
      by_cases hk : s.client.socket = some k
      · by_cases hready : s.sockets[k]? = some .closed
        · rw [Page.task, if_pos hready]
          exact .of_eq rfl
        · rw [closed_of_current hk hready]
          exact unclosed_lost (he k code reason random rfl) random (s.dropped k)
      · obtain ⟨sockets, heq, -⟩ := closed_of_ne uuid hk code reason random
        rw [heq]
        exact .of_eq rfl
  | errored k =>
      rw [Page.task]
      split_ifs <;> exact .of_eq rfl
  | fired t => exact unclosed_fire t s
  | elapsed time => exact .of_eq rfl

/-- The client enters `closed`. -/
def GivesUp (s s' : Page) : Prop := s.statuses.count .closed < s'.statuses.count .closed

instance (s s' : Page) : Decidable (GivesUp s s') :=
  inferInstanceAs (Decidable (s.statuses.count .closed < s'.statuses.count .closed))

theorem reason_of_givesUp {e : Event} (h : GivesUp s (s.step uuid e)) :
    ∃ k code reason random, e = .closed k code reason random ∧
      (reason = "ROOM_CLOSED" ∨ reason = "room closed") := by
  by_contra hnone
  have hunclosed : Unclosed s (s.step uuid e) := by
    unfold Page.step
    split_ifs
    · exact .of_eq rfl
    · refine unclosed_task ?_ s
      intro k code reason random he hterminal
      exact hnone ⟨k, code, reason, random, he, reason_of_terminal hterminal⟩
  exact absurd h (Nat.not_lt.mpr hunclosed.count_eq.le)

end WatchTogether.Web.Page

namespace WatchTogether.Realtime.Endings

open LabelledRun Repository Rooms Rooms.Registry World

-- ============================================================================
-- The condition
-- ============================================================================

/-- The step that may make a client give up on a room that is open: a `Join` takes the `a.done`
    case while the room is open, a `CloseRoom` fails while the actor closes the room in its
    memory, or a `Get` starts an actor after a `Shutdown` has taken the map. -/
def World.misleads (s : World) : Label → Bool
  | .giveUp n true =>
      s.conns[n]?.any (fun c => c.phase.joins.any (fun h => s.registry.stopped h) &&
        !decide (Over c.roomID s.registry.db.rooms))
  | .other l => startsLate s.registry l
  | .turn h _ fates => failsToClose s.registry h fates
  | _ => false

/-- What the server knows of its rooms and connections. -/
structure Sound (s : World) : Prop where
  inv : Inv s.registry
  informed : Informed s.registry
  wired : Wired s

variable {s s' : World} {grace : Nat}

/-- The registry after a step of the goroutine of a connection. -/
theorem ConnTurn.registry {n : Nat} {c : Conn} {l : Label} (h : ConnTurn grace s n c l s') :
    s'.registry = s.registry ∨
      (∃ i call, s'.registry = Registry.step grace s.registry (.call i call)) ∨
      ∃ k m, s'.registry = s.registry.push k m := by
  cases h with
  | asked i => exact .inr (.inl ⟨i, _, rfl⟩)
  | submitted k => exact .inr (.inr ⟨k, _, rfl⟩)
  | left k => exact .inr (.inr ⟨k, _, rfl⟩)
  | _ => exact .inl rfl

theorem Sound.mover (hs : Sound s) {n : Nat} {c : Conn} {l : Label}
    (hturn : ConnTurn grace s n c l s') : Inv s'.registry ∧ Informed s'.registry := by
  rcases hturn.registry with heq | ⟨i, call, heq⟩ | ⟨k, m, heq⟩
  · rw [heq]
    exact ⟨hs.inv, hs.informed⟩
  · rw [heq]
    exact ⟨inv_step grace s.registry _ hs.inv rfl, informed_step grace hs.informed hs.inv rfl rfl⟩
  · rw [heq]
    exact ⟨hs.inv.push k m, hs.informed.push k m⟩

/-- The step lemma of the server. -/
theorem sound_step (uuid : Nat → Nat ↪ String) (lost : String → Bool) (hs : Sound s) {l : Label}
    (hok : s.misleads l = false) : Sound (World.step grace uuid lost s l) := by
  have hwired := wired_step grace uuid lost hs.wired hs.inv l
  have hstep := stepped grace uuid lost s l
  generalize World.step grace uuid lost s l = s' at hstep hwired ⊢
  suffices hboth : Inv s'.registry ∧ Informed s'.registry from ⟨hboth.1, hboth.2, hwired⟩
  cases hstep with
  | moved _ n c _ hl hc hturn => exact hs.mover hturn
  | outside l hout =>
      have hpersisted : unpersisted s.registry l = false := by
        cases l with
        | turn => cases hout
        | _ => rfl
      exact ⟨inv_step grace s.registry l hs.inv hok,
        informed_step grace hs.informed hs.inv hok hpersisted⟩
  | turned h env fates m a r hdeliver =>
      exact ⟨hs.inv.takeTurn h env fates, hs.informed.takeTurn hs.inv hok⟩
  | restarted => exact ⟨inv_boot _ _, informed_boot _ hs.informed.used⟩
  | _ => exact ⟨hs.inv, hs.informed⟩

theorem sound_start (d : Database) (dates : Nat → ℚ) : Sound (World.start d dates) := by
  refine ⟨inv_boot d _, informed_boot d ?_, wired_start d dates⟩
  intro k hk
  exact hk

-- ============================================================================
-- Chosen reasons
-- ============================================================================

/-- An actor that takes its room for closed after a turn is right. -/
theorem Sound.over_turn (hs : Sound s) {h : Nat} {env : Env} {fates : List Registry.Fate}
    {m : Msg} {a : Actor Backend} {r : Reply} {c : Cell} {rest : List Msg}
    (hok : failsToClose s.registry h fates = false) (hc : s.registry.cells[h]? = some c)
    (hq : c.queue = m :: rest) (hlive : c.core.stopped = false)
    (hturn : Turn Backend.persistence env ⟨c.core, ⟨s.registry.db, fates⟩, []⟩ m a r)
    (hclosed : a.room.status = .CLOSED) : Over c.core.room.id a.store.db.rooms := by
  have hknows := (hs.informed.known h c hc hlive).2
  have hcloses : closeFails c.core ⟨s.registry.db, fates⟩ m = false := by
    simpa [failsToClose, hc, hq] using hok
  have hroom : a.room.id = c.core.room.id := Realtime.turn_roomID hturn
  rw [← hroom]
  exact (knows_turn hknows hturn hcloses hclosed).2

/-- The room of every connection that a turn tells of a closed room is over. -/
theorem Sound.over_told (hs : Sound s) {h : Nat} {env : Env} {fates : List Registry.Fate}
    {m : Msg} {a : Actor Backend} {r : Reply}
    (hok : failsToClose s.registry h fates = false)
    (hdeliver : s.registry.deliver h env fates = some (m, a, r)) {x : Nat × String}
    (hx : x ∈ refusal m r ++ closings a.out) (hmeans : meansClosed x.2 = true) :
    ∃ id, s.roomOf x.1 = some id ∧ Over id a.store.db.rooms := by
  obtain ⟨c, rest, hc, hq, hlive, hprocess⟩ := deliver_eq_some hdeliver
  have hturn := Rooms.turn Backend.persistence env ⟨c.core, ⟨s.registry.db, fates⟩, []⟩ m
  rw [hprocess] at hturn
  have hover := hs.over_turn hok hc hq hlive hturn
  rcases List.mem_append.mp hx with hrefused | htold
  · obtain ⟨hclosed, cl, rfl, hconn⟩ := closed_of_refusal hlive hprocess hrefused hmeans
    refine ⟨c.core.room.id, ?_, hover hclosed⟩
    rw [← hconn]
    refine hs.wired.queued h c cl hc ?_
    rw [hq]
    exact List.mem_cons_self
  · rcases mild_turn hturn with hmild | hcloses
    · exact absurd ((hmild x htold).symm.trans hmeans) (by decide)
    · obtain ⟨id, e, he, hconn⟩ := hcloses.told x htold hmeans
      refine ⟨c.core.room.id, ?_, hover hcloses.status⟩
      rw [← hconn]
      exact hs.wired.inside h c id e hc he

theorem db_takeTurn {h : Nat} {env : Env} {fates : List Registry.Fate} {m : Msg}
    {a : Actor Backend} {r : Reply} {g : Registry}
    (hdeliver : g.deliver h env fates = some (m, a, r)) :
    (g.takeTurn h env fates).db = a.store.db := by
  rw [takeTurn, hdeliver]

theorem mem_chooses_turn {h : Nat} {env : Env} {fates : List Registry.Fate} {n : Nat} :
    n ∈ s.chooses (.turn h env fates) ↔ ∃ m a r, s.registry.deliver h env fates = some (m, a, r) ∧
      ∃ x ∈ refusal m r ++ closings a.out, meansClosed x.2 = true ∧ x.1 = n := by
  cases hdeliver : s.registry.deliver h env fates with
  | none => simp [World.chooses, hdeliver]
  | some t =>
      obtain ⟨m, a, r⟩ := t
      simp only [World.chooses, hdeliver, List.mem_map, List.mem_filter]
      constructor
      · rintro ⟨x, ⟨hx, hmeans⟩, hn⟩
        exact ⟨m, a, r, rfl, x, hx, hmeans, hn⟩
      · rintro ⟨m', a', r', heq, x, hx, hmeans, hn⟩
        obtain ⟨rfl, rfl, rfl⟩ := Prod.mk.inj (Option.some.inj heq) |>.imp_right Prod.mk.inj
        exact ⟨x, ⟨hx, hmeans⟩, hn⟩

theorem roomOf_of_get {n : Nat} {c : Conn} (hc : s.conns[n]? = some c) :
    s.roomOf n = some c.roomID := by
  rw [World.roomOf, hc]
  rfl

/-- **Chosen rightly.**  Whenever the server chooses a reason that means a closed room, the room
    is over. -/
theorem over_of_chooses (uuid : Nat → Nat ↪ String) (lost : String → Bool) (hs : Sound s)
    {l : Label} (hok : s.misleads l = false) {n : Nat} (hn : n ∈ s.chooses l) :
    ∃ id, s.roomOf n = some id ∧
      Over id (World.step grace uuid lost s l).registry.db.rooms := by
  cases l with
  | turn h env fates =>
      obtain ⟨m, a, r, hdeliver, x, hx, hmeans, rfl⟩ := mem_chooses_turn.mp hn
      have hdb : (World.step grace uuid lost s (.turn h env fates)).registry.db = a.store.db := by
        simp only [World.step, hdeliver]
        exact db_takeTurn hdeliver
      rw [hdb]
      exact hs.over_told hok hdeliver hx hmeans
  | giveUp k done =>
      cases done with
      | false => exact absurd hn List.not_mem_nil
      | true =>
          have hsame : (World.step grace uuid lost s (.giveUp k true)).registry = s.registry := by
            rcases step_mover grace uuid lost s (l := .giveUp k true) rfl with heq | ⟨c, hc, -⟩
            · rw [heq]
            · simp only [World.step, mover, hc, stepConn]
              split
              · rw [if_pos trivial]
                split_ifs <;> rfl
              · rfl
          rw [hsame]
          cases hc : s.conns[k]? with
          | none => simp [World.chooses, hc] at hn
          | some c =>
              simp only [World.chooses, hc, Option.any_some] at hn
              split_ifs at hn with hstopped
              · obtain rfl := List.mem_singleton.mp hn
                refine ⟨c.roomID, roomOf_of_get hc, ?_⟩
                simpa [World.misleads, hc, hstopped] using hok
              · exact absurd hn List.not_mem_nil
  | _ => exact absurd hn List.not_mem_nil

-- ============================================================================
-- From the close event back to the choice
-- ============================================================================

/-- What a step may add to the connection `n`: a reply or a reason that means a closed room is
    one that the server chooses in the step, or the reason is the reply. -/
structure Grounded (s : World) (n : Nat) (l : Label) (c c' : Conn) : Prop where
  reply : ∀ e, c'.reply = some (.error e) → meansClosed e.text = true →
    c.reply = some (.error e) ∨ n ∈ s.chooses l
  closing : ∀ x, c'.closing = some x → meansClosed x.2 = true →
    c.closing = some x ∨ (∃ e, c.reply = some (.error e) ∧ x.2 = e.text) ∨ n ∈ s.chooses l

theorem Grounded.of_eq {n : Nat} {l : Label} {c c' : Conn} (hreply : c'.reply = c.reply)
    (hclosing : c'.closing = c.closing) : Grounded s n l c c' :=
  ⟨fun _ he _ => .inl (hreply ▸ he), fun _ hx _ => .inl (hclosing ▸ hx)⟩

theorem Grounded.close {n : Nat} {l : Label} {c : Conn} {code : Nat} {reason : String}
    (hreason : Reason s n c l reason) (phase : Phase) :
    Grounded s n l c ((c.close code reason).goto phase) := by
  refine ⟨?_, ?_⟩
  · intro e he _
    have he' : (c.close code reason).reply = some (.error e) := he
    rw [Conn.reply_close] at he'
    exact .inl he'
  · intro x hx hmeans
    have hx' : (c.close code reason).closing = some x := hx
    rcases Conn.closing_close hx' with hold | rfl
    · exact .inl hold
    · rcases hreason with hmild | hreply | hchosen
      · exact absurd (hmild.symm.trans hmeans) (by decide)
      · exact .inr (.inl hreply)
      · exact .inr (.inr hchosen)

/-- Where the connections of the next state come from. -/
def GroundedStep (s : World) (l : Label) (s' : World) : Prop :=
  ∀ (n : Nat) (c' : Conn), s'.conns[n]? = some c' →
    (∃ c, s.conns[n]? = some c ∧ Grounded s n l c c') ∨ (c'.reply = none ∧ c'.closing = none)

theorem GroundedStep.of_conns {l : Label} (h : s'.conns = s.conns) : GroundedStep s l s' := by
  intro n c' hc'
  exact .inl ⟨c', h ▸ hc', .of_eq rfl rfl⟩

theorem GroundedStep.setConn {l : Label} {n : Nat} {c : Conn} (hc : s.conns[n]? = some c)
    (r : Registry) {f : Conn → Conn} (hf : Grounded s n l c (f c)) :
    GroundedStep s l ((s.setRegistry r).setConn n f) := by
  intro n' c' hc'
  by_cases hn : n' = n
  · subst hn
    rw [setConn_get (s := s.setRegistry r) hc f] at hc'
    obtain rfl := Option.some.inj hc'
    exact .inl ⟨c, hc, hf⟩
  · rw [setConn_get_ne hn] at hc'
    exact .inl ⟨c', hc', .of_eq rfl rfl⟩

theorem ConnTurn.grounded {n : Nat} {c : Conn} {l : Label} (hc : s.conns[n]? = some c)
    (h : ConnTurn grace s n c l s') : GroundedStep s l s' := by
  have halone : ∀ {f : Conn → Conn}, Grounded s n l c (f c) → GroundedStep s l (s.setConn n f) :=
    fun hf => GroundedStep.setConn hc s.registry hf
  cases h with
  | idle => exact .of_conns rfl
  | closed code reason phase hreason => exact halone (.close hreason phase)
  | revoked =>
      have hrevoked : Reason s n c l "session revoked" := .inl (by decide)
      exact halone (Grounded.close hrevoked (c.close 1008 "session revoked").phase)
  | asked i => exact .setConn hc _ (.of_eq rfl rfl)
  | got i h => exact halone (.of_eq rfl rfl)
  | cancelled => exact halone (.of_eq rfl rfl)
  | submitted h =>
      refine .setConn hc _ ⟨?_, fun x hx _ => .inl hx⟩
      intro e he _
      cases he
  | moved phase => exact halone (.of_eq rfl rfl)
  | left h => exact .setConn hc _ (.of_eq rfl rfl)

theorem Stepped.grounded {uuid : Nat → Nat ↪ String} {lost : String → Bool} {l : Label}
    (h : Stepped grace uuid lost s l s') : GroundedStep s l s' := by
  cases h with
  | moved _ n c _ hl hc hturn => exact hturn.grounded hc
  | accepted k socket roomID identity =>
      intro n c' hc'
      rw [List.getElem?_append] at hc'
      split_ifs at hc' with hlt
      · exact .inl ⟨c', hc', .of_eq rfl rfl⟩
      · obtain rfl := List.mem_singleton.mp (List.mem_of_getElem? hc')
        exact .inr ⟨rfl, rfl⟩
  | turned h env fates m a r hdeliver =>
      intro n c' hc'
      obtain ⟨g, hg, hprops⟩ := turn_get a.out m r s.conns n
      have hc'' : (perform a.out (answer m r s.conns))[n]? = some c' := hc'
      rw [hg] at hc''
      obtain ⟨c, hc, rfl⟩ := Option.map_eq_some_iff.mp hc''
      obtain ⟨-, -, hreply, hclosing⟩ := hprops c
      refine .inl ⟨c, hc, ?_, ?_⟩
      · intro e he hmeans
        refine (hreply e he).imp id ?_
        intro hmem
        exact mem_chooses_turn.mpr
          ⟨m, a, r, hdeliver, _, List.mem_append_left _ hmem, hmeans, rfl⟩
      · intro x hx hmeans
        refine (hclosing x hx).imp id ?_
        intro hmem
        exact .inr (mem_chooses_turn.mpr
          ⟨m, a, r, hdeliver, _, List.mem_append_right _ hmem, hmeans, rfl⟩)
  | restarted =>
      intro n c' hc'
      have hmap : (s.conns.map (Conn.goto .returned))[n]? = some c' := hc'
      rw [List.getElem?_map] at hmap
      obtain ⟨c, hc, rfl⟩ := Option.map_eq_some_iff.mp hmap
      exact .inl ⟨c, hc, .of_eq rfl rfl⟩
  | _ => exact .of_conns rfl

/-- Every reply and every close reason that means a closed room has been chosen. -/
structure Traced (h : List Nat) (s : World) : Prop where
  reply : ∀ (n : Nat) (c : Conn) (e : ActorError), s.conns[n]? = some c →
    c.reply = some (.error e) → meansClosed e.text = true → n ∈ h
  closing : ∀ (n : Nat) (c : Conn) (x : Nat × String), s.conns[n]? = some c →
    c.closing = some x → meansClosed x.2 = true → n ∈ h

/-- The step lemma of the trace. -/
theorem traced_step (grace : Nat) (uuid : Nat → Nat ↪ String) (lost : String → Bool)
    {h : List Nat} (ht : Traced h s) (l : Label) :
    Traced (h ++ s.chooses l) (World.step grace uuid lost s l) := by
  have hgrounded := (stepped grace uuid lost s l).grounded
  refine ⟨?_, ?_⟩
  · intro n c' e hc' he hmeans
    rcases hgrounded n c' hc' with ⟨c, hc, hg⟩ | ⟨hnone, -⟩
    · rcases hg.reply e he hmeans with hold | hchosen
      · exact List.mem_append_left _ (ht.reply n c e hc hold hmeans)
      · exact List.mem_append_right _ hchosen
    · rw [hnone] at he
      cases he
  · intro n c' x hc' hx hmeans
    rcases hgrounded n c' hc' with ⟨c, hc, hg⟩ | ⟨-, hnone⟩
    · rcases hg.closing x hx hmeans with hold | ⟨e, he, htext⟩ | hchosen
      · exact List.mem_append_left _ (ht.closing n c x hc hold hmeans)
      · rw [htext] at hmeans
        exact List.mem_append_left _ (ht.reply n c e hc he hmeans)
      · exact List.mem_append_right _ hchosen
    · rw [hnone] at hx
      cases hx

theorem traced_run (grace : Nat) (uuid : Nat → Nat ↪ String) (lost : String → Bool) (d : Database)
    (dates : Nat → ℚ) (ls : List Label) :
    Traced (history (World.step grace uuid lost) World.chooses (World.start d dates) ls)
      (run (World.step grace uuid lost) (World.start d dates) ls) := by
  have hstart : Traced [] (World.start d dates) := by
    refine ⟨?_, ?_⟩
    · intro n c e hc
      cases hc
    · intro n c x hc
      cases hc
  have hstep : ∀ (h : List Nat) (s : World) (l : Label), Traced h s →
      Traced (h ++ s.chooses l) (World.step grace uuid lost s l) :=
    fun h s l ht => traced_step grace uuid lost ht l
  exact run_history_invariant (I := Traced) hstep hstart ls

/-- A client that gives up was told so by the `Close` of a connection of its own. -/
theorem Stepped.told {uuid : Nat → Nat ↪ String} {lost : String → Bool} {l : Label}
    (hstep : Stepped grace uuid lost s l s')
    (hlost : ∀ reason, meansClosed reason = true → lost reason = false) {k : Nat}
    (h : (s.pages k).GivesUp (s'.pages k)) :
    ∃ (n : Nat) (c : Conn) (x : Nat × String), s.conns[n]? = some c ∧ c.client = k ∧
      c.closing = some x ∧ meansClosed x.2 = true := by
  cases hstep with
  | paged k' e hreports =>
      by_cases hk : k = k'
      · subst hk
        have h : (s.pages k).GivesUp (Function.update s.pages k
            ((s.pages k).step (uuid k) e) k) := h
        rw [Function.update_self] at h
        obtain ⟨socket, code, reason, random, rfl, hreason⟩ := Web.Page.reason_of_givesUp h
        have hmeans : meansClosed reason = true := decide_eq_true hreason
        rw [World.reports, hlost reason hmeans, Bool.false_or] at hreports
        obtain ⟨c, hmem, hc⟩ := List.any_eq_true.mp hreports
        simp only [Bool.and_eq_true, decide_eq_true_eq] at hc
        obtain ⟨n, hn⟩ := List.mem_iff_getElem?.mp hmem
        exact ⟨n, c, (code, reason), hn, hc.1.1, hc.2, hmeans⟩
      · have h : (s.pages k).GivesUp (Function.update s.pages k'
            ((s.pages k').step (uuid k') e) k) := h
        rw [Function.update_of_ne hk] at h
        exact absurd h (Nat.lt_irrefl _)
  | moved _ n c _ hl hc hturn =>
      have hpages : s'.pages = s.pages := by cases hturn <;> rfl
      rw [hpages] at h
      exact absurd h (Nat.lt_irrefl _)
  | _ => exact absurd h (Nat.lt_irrefl _)

-- ============================================================================
-- Giving up
-- ============================================================================

/-- The close event that made the client `k` give up came from a `Close` of the server.  At every
    step at which the server chose a reason of this kind for the connection, and there was one,
    the room was closed, or its row deleted. -/
def GaveUpRightly (grace : Nat) (uuid : Nat → Nat ↪ String) (lost : String → Bool) (s : World)
    (ls : List Label) (k : Nat) : Prop :=
  ∃ (n : Nat) (c : Conn) (x : Nat × String),
    (run (World.step grace uuid lost) s ls).conns[n]? = some c ∧ c.client = k ∧
      c.closing = some x ∧ meansClosed x.2 = true ∧
      n ∈ history (World.step grace uuid lost) World.chooses s ls ∧
      EachStep (World.step grace uuid lost) (fun s l => n ∈ s.chooses l →
        Over c.roomID (World.step grace uuid lost s l).registry.db.rooms) s ls

theorem roomOf_run (grace : Nat) (uuid : Nat → Nat ↪ String) (lost : String → Bool) {n : Nat}
    {id : String} (hn : s.roomOf n = some id) (ls : List Label) :
    (run (World.step grace uuid lost) s ls).roomOf n = some id := by
  induction ls generalizing s with
  | nil => exact hn
  | cons l ls ih => exact ih (roomOf_mono (conns_step grace uuid lost s l) hn)

/-- **The client gives up only for good reasons.**  In a run in which no step misleads, a client
    enters `closed` only when it has been told so by the server, which knew that the room was
    closed, or its row deleted, when it chose the reason. -/
theorem client_gives_up_rightly (grace : Nat) (uuid : Nat → Nat ↪ String) (lost : String → Bool)
    (hlost : ∀ reason, meansClosed reason = true → lost reason = false) (d : Database)
    (dates : Nat → ℚ) {ls : List Label}
    (hok : EachStep (World.step grace uuid lost) (fun s l => s.misleads l = false)
      (World.start d dates) ls) {before after : List Label} {l : Label}
    (hls : ls = before ++ l :: after) {k : Nat}
    (hgives : ((run (World.step grace uuid lost) (World.start d dates) before).pages k).GivesUp
      ((run (World.step grace uuid lost) (World.start d dates) (before ++ [l])).pages k)) :
    GaveUpRightly grace uuid lost (World.start d dates) before k := by
  subst hls
  rw [run_append] at hgives
  obtain ⟨n, c, x, hc, hk, hx, hmeans⟩ := (stepped grace uuid lost _ l).told hlost hgives
  have htraced := traced_run grace uuid lost d dates before
  refine ⟨n, c, x, hc, hk, hx, hmeans, htraced.closing n c x hc hx hmeans, ?_⟩
  rintro pre l' post rfl hchooses
  have hoks := hok.before
  have hstep : ∀ (s : World) (l : Label), Sound s → s.misleads l = false →
      Sound (World.step grace uuid lost s l) := fun s l hs hl => sound_step uuid lost hs hl
  have hsound := run_invariant hstep (sound_start d dates) hoks.before
  obtain ⟨id, hroom, hover⟩ := over_of_chooses uuid lost hsound hoks.at hchooses
  -- the room of the connection is the one it had then
  have hlater : (run (World.step grace uuid lost) (World.start d dates)
      (pre ++ l' :: post)).roomOf n = some id := by
    rw [run_append]
    exact roomOf_run grace uuid lost hroom (l' :: post)
  have hid : c.roomID = id := Option.some.inj ((roomOf_of_get hc).symm.trans hlater)
  rw [hid]
  exact hover

/-- UUIDs for concrete runs: a client's `n`-th has the length `n`. -/
def countedUUID : Nat → Nat ↪ String := fun _ =>
  ⟨fun n => String.ofList (List.replicate n 'u'), fun m n h => by
    simpa using congrArg String.length h⟩

/-- A connection that is lost without a close frame has an empty reason. -/
def lostBare (reason : String) : Bool := decide (reason = "")

theorem lostBare_of_means {reason : String} (h : meansClosed reason = true) :
    lostBare reason = false := by
  rcases of_decide_eq_true h with rfl | rfl <;> rfl

/-- A goroutine takes its next `n` steps. -/
def advancing (i n : Nat) : List Label :=
  List.replicate n (.other (.advance i ⟨none, true, 0⟩))

/-- The host of the room connects, and gets the actor. -/
def hostConnects : List Label :=
  [.page 0 (.call .connect), .accept 0 0 "r" (user "h"), .page 0 (.opened 0 0), .get 0 0] ++
    advancing 0 7 ++ [.got 0]

/-- The host joins, and closes the room. -/
def hostCloses : List Label :=
  hostConnects ++ [.submit 0, .turn 0 (Env.at 1) [], .receive 0,
    .other (.post 0 (.command (user "h") (hostCommand .roomClose "" 0 ""))),
    .turn 0 (Env.at 2) []]

theorem client_gives_up_hostCloses :
    GaveUpRightly 60 countedUUID lostBare (World.start oneRoom (fun _ => 0)) hostCloses 0 := by
  have hok : EachStep (World.step 60 countedUUID lostBare) (fun s l => s.misleads l = false)
      (World.start oneRoom (fun _ => 0))
      (hostCloses ++ [.page 0 (.closed 0 1000 "room closed" 0)]) := by
    decide +kernel
  exact client_gives_up_rightly 60 countedUUID lostBare (fun _ h => lostBare_of_means h) oneRoom
    (fun _ => 0) hok rfl (by decide +kernel)

/-- A `Shutdown` stops the actor before the host's `Join` has sent its request. -/
def shutdownFirst : List Label :=
  hostConnects ++ [.other (.call 1 .shutdown)] ++ advancing 1 4 ++
    [.turn 0 (Env.at 1) [], .giveUp 0 true]

/-- The room is open, and the host's client never comes back. -/
theorem shutdown_looks_closed :
    ((run (World.step 60 countedUUID lostBare) (World.start oneRoom (fun _ => 0))
        shutdownFirst).pages 0).GivesUp
      ((run (World.step 60 countedUUID lostBare) (World.start oneRoom (fun _ => 0))
        (shutdownFirst ++ [.page 0 (.closed 0 1008 "ROOM_CLOSED" 0)])).pages 0) ∧
      ¬GaveUpRightly 60 countedUUID lostBare (World.start oneRoom (fun _ => 0)) shutdownFirst 0 := by
  refine ⟨by decide +kernel, ?_⟩
  rintro ⟨n, c, x, hc, -, -, -, hmem, heach⟩
  have hhistory : history (World.step 60 countedUUID lostBare) World.chooses
      (World.start oneRoom (fun _ => 0)) shutdownFirst = [0] := by
    decide +kernel
  rw [hhistory] at hmem
  obtain rfl := List.mem_singleton.mp hmem
  have hroom : (run (World.step 60 countedUUID lostBare) (World.start oneRoom (fun _ => 0))
      shutdownFirst).roomOf 0 = some "r" := by
    decide +kernel
  have hid : c.roomID = "r" := Option.some.inj ((roomOf_of_get hc).symm.trans hroom)
  rw [hid] at heach
  have hopen : ¬EachStep (World.step 60 countedUUID lostBare) (fun s l => 0 ∈ s.chooses l →
      Over "r" (World.step 60 countedUUID lostBare s l).registry.db.rooms)
      (World.start oneRoom (fun _ => 0)) shutdownFirst := by
    decide +kernel
  exact hopen heach

end WatchTogether.Realtime.Endings

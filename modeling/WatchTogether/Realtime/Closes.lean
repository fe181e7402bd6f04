/-
  WatchTogether.Realtime.Closes

  The calls of `Close`: the reasons that an actor gives in a turn, and what a step does to the
  connections.  An actor gives a reason that means a closed room only when it has taken the
  room for closed in its memory.
-/

import WatchTogether.Realtime.Endings

namespace WatchTogether.Realtime.Endings

open LabelledRun Repository Rooms Rooms.Registry World

-- ============================================================================
-- The closes of a turn
-- ============================================================================

/-- No call of `Close` among the effects means a closed room. -/
def Mild (out : List Effect) : Prop := ∀ x ∈ closings out, meansClosed x.2 = false

section Effects

variable {c : Client} {out out' : List Effect}

@[simp] theorem mild_nil : Mild [] := by
  intro x hx
  exact absurd hx List.not_mem_nil

@[simp] theorem mild_append : Mild (out ++ out') ↔ Mild out ∧ Mild out' := by
  simp only [Mild, closings, List.filterMap_append, List.mem_append]
  constructor
  · intro h
    exact ⟨fun x hx => h x (.inl hx), fun x hx => h x (.inr hx)⟩
  · rintro ⟨h, h'⟩ x (hx | hx)
    · exact h x hx
    · exact h' x hx

@[simp] theorem mild_send (e : Envelope) (ok : Bool) : Mild (.send c e ok :: out) ↔ Mild out :=
  Iff.rfl

@[simp] theorem mild_saveCheckpoint (cp : Checkpoint) :
    Mild (.saveCheckpoint cp :: out) ↔ Mild out := Iff.rfl

@[simp] theorem mild_close (code : Nat) (reason : String) :
    Mild (.close c code reason :: out) ↔ meansClosed reason = false ∧ Mild out := by
  simp [Mild, closings]

theorem mild_flatMap {α : Type} {f : α → List Effect} {xs : List α} (h : ∀ x ∈ xs, Mild (f x)) :
    Mild (xs.flatMap f) := by
  induction xs with
  | nil => exact mild_nil
  | cons x xs ih =>
      rw [List.flatMap_cons, mild_append]
      exact ⟨h x List.mem_cons_self, ih (fun y hy => h y (List.mem_cons_of_mem _ hy))⟩

/-- A slow consumer is told to come back. -/
@[simp] theorem mild_notify (env : Env) (k : Nat) (event : Rooms.Event) (revision : Nat)
    (core : Core) : Mild (core.notify env k event revision) := by
  refine mild_flatMap ?_
  intro m _
  unfold Actor.deliver
  split
  · simp
  · have hslow : meansClosed "slow consumer" = false := by decide
    simp [hslow]

@[simp] theorem mild_announce (env : Env) (k : Nat) (core : Core) :
    Mild (core.announce env k) := mild_notify env k _ _ core

@[simp] theorem mild_welcome (env : Env) (c : Client) (core : Core) :
    Mild (core.welcome env c) := by
  simp [Core.welcome]

@[simp] theorem mild_supersede (c : Client) (core : Core) : Mild (core.supersede c) := by
  have hreplaced : meansClosed "replaced by reconnect" = false := by decide
  unfold Core.supersede
  split
  · simp [hreplaced]
  · exact mild_nil

end Effects

variable {σ : Type} {P : Persistence σ} {env : Env} {core : Core} {b : σ} {a : Actor σ}

/-- The closes of a turn that closes the room, told to those who are in it. -/
structure ClosesRoom (core : Core) (a : Actor σ) : Prop where
  status : a.room.status = .CLOSED
  told : ∀ x ∈ closings a.out, meansClosed x.2 = true →
    ∃ id m, core.members.lookup id = some m ∧ m.client.conn = x.1

theorem mild_hostTurn {type : CommandType} {p : CommandPayload}
    {r : Except ActorError (Option PlaybackState)}
    (hturn : HostTurn P env ⟨core, b, []⟩ type p a r) : Mild a.out ∨ ClosesRoom core a := by
  cases hturn with
  | kicked m =>
      have hremoved : meansClosed "removed from room" = false := by decide
      exact .inl (by simp [hremoved])
  | closed store =>
      refine .inr ⟨rfl, ?_⟩
      intro x hx hmeans
      simp only [List.nil_append, closings, List.filterMap_append, List.mem_append] at hx
      rcases hx with hx | hx
      · have hmild := mild_notify env 1 .roomClosed 0 (core.setStatus .CLOSED) x hx
        exact absurd (hmild.symm.trans hmeans) (by decide)
      · obtain ⟨e, he, hsome⟩ := List.mem_filterMap.mp hx
        obtain ⟨m, hm, rfl⟩ := List.mem_map.mp he
        obtain ⟨id, hid⟩ := AList.mem_rows.mp hm
        obtain rfl := Option.some.inj hsome
        exact ⟨id, m, hid, rfl⟩
  | playbackChanged t s _ hs => exact .inl (by simp)
  | _ => exact .inl (by simp)

theorem mild_turn {m : Msg} {r : Reply} (hturn : Turn P env ⟨core, b, []⟩ m a r) :
    Mild a.out ∨ ClosesRoom core a := by
  cases hturn with
  | command i c a r _ hturn =>
      cases hturn with
      | host p a r _ hturn => exact mild_hostTurn hturn
      | _ => exact .inl (by simp)
  | halted =>
      have hshutdown : meansClosed "server shutdown" = false := by decide
      refine .inl ?_
      rw [List.nil_append, mild_append]
      refine ⟨mild_flatMap ?_, by simp⟩
      intro x _
      simp [hshutdown]
  | _ => exact .inl (by simp)

/-- `ROOM_CLOSED` is the answer of an actor whose room is closed. -/
theorem handleJoin_error {a a' : Actor σ} {c : Client} {e : ActorError}
    (h : a.handleJoin P env c = (a', .error e)) (hmeans : meansClosed e.text = true) :
    a'.room.status = .CLOSED := by
  unfold Actor.handleJoin at h
  split_ifs at h with hclosed hfull
  · obtain ⟨rfl, -⟩ := Prod.mk.inj h
    exact hclosed
  · obtain ⟨-, he⟩ := Prod.mk.inj h
    obtain rfl := Except.error.inj he
    exact absurd hmeans (by decide)
  · cases h

theorem closed_of_refusal {m : Msg} {r : Reply} {a' : Actor σ} (hlive : a.stopped = false)
    (h : a.process P env m = (a', r)) {x : Nat × String} (hx : x ∈ refusal m r)
    (hmeans : meansClosed x.2 = true) :
    a'.room.status = .CLOSED ∧ ∃ c, m = .join c ∧ c.conn = x.1 := by
  cases m with
  | join c =>
      rw [Actor.process, if_neg (by rw [hlive]; decide)] at h
      obtain ⟨ha, rfl⟩ := Prod.mk.inj h
      cases hres : (a.handleJoin P env c).2 with
      | ok u =>
          rw [hres] at hx
          exact absurd hx List.not_mem_nil
      | error e =>
          rw [hres] at hx
          obtain rfl := List.mem_singleton.mp hx
          exact ⟨handleJoin_error (Prod.ext ha hres) hmeans, c, rfl, rfl⟩
  | _ => exact absurd hx List.not_mem_nil

-- ============================================================================
-- Connections over a step
-- ============================================================================

/-- The connection is the one it was, and its first `Close` is still the first. -/
structure Conn.Leads (c c' : Conn) : Prop where
  client : c'.client = c.client
  roomID : c'.roomID = c.roomID
  closing : ∀ x, c.closing = some x → c'.closing = some x

theorem Conn.Leads.refl (c : Conn) : c.Leads c := ⟨rfl, rfl, fun _ h => h⟩

theorem Conn.Leads.trans {c c' c'' : Conn} (h : c.Leads c') (h' : c'.Leads c'') : c.Leads c'' :=
  ⟨h'.client.trans h.client, h'.roomID.trans h.roomID, fun x hx => h'.closing x (h.closing x hx)⟩

theorem Conn.leads_close (code : Nat) (reason : String) (c : Conn) :
    c.Leads (c.close code reason) := by
  unfold Conn.close
  split
  · exact .refl c
  · rename_i hnone
    refine ⟨rfl, rfl, ?_⟩
    intro x hx
    rw [hx] at hnone
    exact absurd rfl hnone

theorem Conn.closing_close {code : Nat} {reason : String} {c : Conn} {x : Nat × String}
    (h : (c.close code reason).closing = some x) : c.closing = some x ∨ x = (code, reason) := by
  unfold Conn.close at h
  split at h
  · exact .inl h
  · exact .inr (Option.some.inj h).symm

@[simp] theorem Conn.phase_close (code : Nat) (reason : String) (c : Conn) :
    (c.close code reason).phase = c.phase := by
  unfold Conn.close
  split <;> rfl

@[simp] theorem Conn.reply_close (code : Nat) (reason : String) (c : Conn) :
    (c.close code reason).reply = c.reply := by
  unfold Conn.close
  split <;> rfl

/-- What a turn may do to the connection `n`: the closes `xs` reach it, and nothing else. -/
structure Conn.Told (xs : List (Nat × String)) (n : Nat) (c c' : Conn) : Prop where
  leads : c.Leads c'
  phase : c'.phase = c.phase
  reply : c'.reply = c.reply
  closing : ∀ x, c'.closing = some x → c.closing = some x ∨ (n, x.2) ∈ xs

theorem perform_get (out : List Effect) (conns : List Conn) (n : Nat) :
    ∃ g : Conn → Conn, (perform out conns)[n]? = conns[n]?.map g ∧
      ∀ c : Conn, c.Told (closings out) n (g c) := by
  induction out generalizing conns with
  | nil =>
      refine ⟨fun c => c, by simp [perform], ?_⟩
      intro c
      exact ⟨.refl c, rfl, rfl, fun _ h => .inl h⟩
  | cons e out ih =>
      cases e with
      | close cl code reason =>
          obtain ⟨g, hg, htold⟩ := ih (conns.modify cl.conn (Conn.close code reason))
          by_cases hn : cl.conn = n
          · refine ⟨fun c => g (c.close code reason), ?_, ?_⟩
            · show (perform out (conns.modify cl.conn (Conn.close code reason)))[n]? = _
              rw [hg, hn, List.getElem?_modify_eq]
              cases conns[n]? <;> rfl
            · intro c
              have h := htold (c.close code reason)
              refine ⟨(c.leads_close code reason).trans h.leads, by simp [h.phase], by simp [h.reply],
                ?_⟩
              intro x hx
              rcases h.closing x hx with hold | hmem
              · rcases Conn.closing_close hold with hc | rfl
                · exact .inl hc
                · exact .inr (by simp [closings, hn])
              · exact .inr (List.mem_cons_of_mem _ hmem)
          · refine ⟨g, ?_, ?_⟩
            · show (perform out (conns.modify cl.conn (Conn.close code reason)))[n]? = _
              rw [hg, List.getElem?_modify_ne _ _ hn]
            · intro c
              have h := htold c
              refine ⟨h.leads, h.phase, h.reply, ?_⟩
              intro x hx
              exact (h.closing x hx).imp id (List.mem_cons_of_mem _)
      | send cl e ok => exact ih conns
      | saveCheckpoint cp => exact ih conns

/-- The reply reaches the connection that asked to join. -/
theorem answer_get (m : Msg) (r : Reply) (conns : List Conn) (n : Nat) :
    ∃ g : Conn → Conn, (answer m r conns)[n]? = conns[n]?.map g ∧
      ∀ c, c.Leads (g c) ∧ (g c).phase = c.phase ∧ (g c).closing = c.closing ∧
        ∀ e, (g c).reply = some (.error e) →
          c.reply = some (.error e) ∨ (n, e.text) ∈ refusal m r := by
  have hsame : ∃ g : Conn → Conn, conns[n]? = conns[n]?.map g ∧
      ∀ c, c.Leads (g c) ∧ (g c).phase = c.phase ∧ (g c).closing = c.closing ∧
        ∀ e, (g c).reply = some (.error e) →
          c.reply = some (.error e) ∨ (n, e.text) ∈ refusal m r :=
    ⟨fun c => c, by simp, fun c => ⟨.refl c, rfl, rfl, fun _ h => .inl h⟩⟩
  cases m with
  | join c =>
      cases r with
      | join e =>
          by_cases hn : c.conn = n
          · refine ⟨fun x => { x with reply := some e }, ?_, ?_⟩
            · show (conns.modify c.conn _)[n]? = _
              rw [hn, List.getElem?_modify_eq]
              cases conns[n]? <;> rfl
            · intro x
              refine ⟨⟨rfl, rfl, fun _ h => h⟩, rfl, rfl, ?_⟩
              intro e' he
              obtain rfl := Option.some.inj he
              exact .inr (by simp [refusal, hn])
          · refine ⟨fun x => x, ?_, ?_⟩
            · show (conns.modify c.conn _)[n]? = _
              rw [List.getElem?_modify_ne _ _ hn]
              simp
            · intro x
              exact ⟨.refl x, rfl, rfl, fun _ h => .inl h⟩
      | _ => exact hsame
  | _ => exact hsame

theorem setConn_get {s : World} {n : Nat} {c : Conn} (hc : s.conns[n]? = some c) (f : Conn → Conn) :
    (s.setConn n f).conns[n]? = some (f c) := by
  show (s.conns.modify n f)[n]? = _
  rw [List.getElem?_modify_eq, hc]
  rfl

theorem setConn_get_ne {n n' : Nat} (hn : n' ≠ n) (f : Conn → Conn) (s : World) :
    (s.setConn n f).conns[n']? = s.conns[n']? := by
  show (s.conns.modify n f)[n']? = _
  exact List.getElem?_modify_ne _ _ hn.symm

/-- Where the reason of a `Close` of a connection's own goroutine comes from. -/
def Reason (s : World) (n : Nat) (c : Conn) (l : Label) (reason : String) : Prop :=
  meansClosed reason = false ∨ (∃ e, c.reply = some (.error e) ∧ reason = e.text) ∨
    n ∈ s.chooses l

/-- What a step of the goroutine of the connection `n` can do. -/
inductive ConnTurn (grace : Nat) (s : World) (n : Nat) (c : Conn) (l : Label) : World → Prop
  | idle : ConnTurn grace s n c l s
  | closed (code : Nat) (reason : String) (phase : Phase) (hreason : Reason s n c l reason)
      (hphase : phase.actor = none ∨ phase.actor = c.phase.actor) :
      ConnTurn grace s n c l (s.setConn n (fun c => (c.close code reason).goto phase))
  | revoked : ConnTurn grace s n c l (s.setConn n (Conn.close 1008 "session revoked"))
  | asked (i : Nat) :
      ConnTurn grace s n c l
        ((s.setRegistry (Registry.step grace s.registry (.call i (.get c.roomID)))).setConn n
          (Conn.goto (.getting i)))
  | got (i h : Nat) (hcall : s.registry.calls i = .returned (.get c.roomID) (.actor h)) :
      ConnTurn grace s n c l (s.setConn n (Conn.goto (.joining h)))
  | cancelled : ConnTurn grace s n c l (s.setConn n (fun c => { c with cancelled := true }))
  | submitted (h : Nat) (hphase : c.phase = .joining h) :
      ConnTurn grace s n c l
        ((s.setRegistry (s.registry.push h (.join (asClient n c)))).setConn n
          (fun c => { c with phase := .waiting h, reply := none }))
  | moved (phase : Phase) (hphase : phase.actor = none ∨ phase.actor = c.phase.actor) :
      ConnTurn grace s n c l (s.setConn n (Conn.goto phase))
  | left (h : Nat) :
      ConnTurn grace s n c l
        ((s.setRegistry (s.registry.push h (.leave c.identity.id (some (asClient n c))))).setConn n
          (Conn.goto .returned))

theorem connTurn (grace : Nat) {s : World} {n : Nat} {c : Conn} (hc : s.conns[n]? = some c)
    {l : Label} (hl : mover l = some n) : ConnTurn grace s n c l (s.stepConn grace c l) := by
  cases l with
  | recheck k =>
      obtain rfl := Option.some.inj hl
      simp only [stepConn]
      split_ifs
      · exact .closed _ _ _ (.inl (by decide)) (.inl rfl)
      · exact .idle
  | get k i =>
      obtain rfl := Option.some.inj hl
      simp only [stepConn]
      split_ifs
      · exact .asked i
      · exact .idle
  | got k =>
      obtain rfl := Option.some.inj hl
      simp only [stepConn]
      split
      · rename_i i _
        split
        · rename_i id h hcall
          split_ifs with hid
          · subst hid
            exact .got i h hcall
          · exact .idle
        · exact .closed _ _ _ (.inl (by decide)) (.inl rfl)
        · exact .idle
      · exact .idle
  | cancel k =>
      obtain rfl := Option.some.inj hl
      simp only [stepConn]
      split_ifs
      · exact .cancelled
      · exact .idle
  | submit k =>
      obtain rfl := Option.some.inj hl
      simp only [stepConn]
      split
      · rename_i h hphase
        split_ifs
        · exact .submitted h hphase
        · exact .idle
      · exact .idle
  | giveUp k done =>
      obtain rfl := Option.some.inj hl
      simp only [stepConn]
      split
      · rename_i h hjoins
        cases done with
        | true =>
            rw [if_pos rfl]
            split_ifs with hstopped
            · refine .closed _ _ _ (.inr (.inr ?_)) (.inl rfl)
              simp [chooses, hc, hjoins, hstopped]
            · exact .idle
        | false =>
            rw [if_neg (by decide)]
            split_ifs
            · exact .closed _ _ _ (.inl (by decide)) (.inl rfl)
            · exact .idle
      · exact .idle
  | receive k =>
      obtain rfl := Option.some.inj hl
      simp only [stepConn]
      split
      · rename_i hphase _
        exact .moved _ (.inr (by rw [hphase]; rfl))
      · rename_i hreply
        exact .closed _ _ _ (.inr (.inl ⟨_, hreply, rfl⟩)) (.inl rfl)
      · exact .idle
  | expire k =>
      obtain rfl := Option.some.inj hl
      simp only [stepConn]
      split
      · rename_i hphase
        exact .closed _ _ _ (.inl (by decide)) (.inr (by rw [hphase]; rfl))
      · exact .idle
  | hangUp k =>
      obtain rfl := Option.some.inj hl
      simp only [stepConn]
      split
      · rename_i hphase
        exact .closed _ _ _ (.inl (by decide)) (.inr (by rw [hphase]; rfl))
      · exact .idle
  | leave k sends =>
      obtain rfl := Option.some.inj hl
      simp only [stepConn]
      split
      · rename_i h _
        split_ifs
        · exact .left h
        · exact .idle
        · exact .moved _ (.inl rfl)
        · exact .idle
      · exact .idle
  | revoke k =>
      obtain rfl := Option.some.inj hl
      exact .revoked
  | _ => exact absurd hl (by simp [mover])

/-- Every connection is still there. -/
def ConnsLead (s s' : World) : Prop :=
  ∀ (n : Nat) (c : Conn), s.conns[n]? = some c → ∃ c', s'.conns[n]? = some c' ∧ c.Leads c'

theorem ConnsLead.of_conns {s s' : World} (h : s'.conns = s.conns) : ConnsLead s s' := by
  intro n c hc
  exact ⟨c, by rw [h]; exact hc, .refl c⟩

theorem connsLead_setConn (n : Nat) {f : Conn → Conn} (hf : ∀ c : Conn, c.Leads (f c)) (s : World) :
    ConnsLead s (s.setConn n f) := by
  intro n' c hc
  by_cases hn : n' = n
  · subst hn
    exact ⟨f c, setConn_get hc f, hf c⟩
  · exact ⟨c, by rw [setConn_get_ne hn]; exact hc, .refl c⟩

theorem ConnTurn.leads {grace : Nat} {s s' : World} {n : Nat} {c : Conn} {l : Label}
    (h : ConnTurn grace s n c l s') : ConnsLead s s' := by
  have hgoto : ∀ (phase : Phase) (c : Conn), c.Leads (c.goto phase) :=
    fun phase c => ⟨rfl, rfl, fun _ hx => hx⟩
  cases h with
  | idle => exact .of_conns rfl
  | closed code reason phase =>
      exact connsLead_setConn n (fun c => (c.leads_close code reason).trans (hgoto phase _)) s
  | revoked => exact connsLead_setConn n (fun c => c.leads_close _ _) s
  | asked i => exact connsLead_setConn n (hgoto _) (s.setRegistry _)
  | got i h => exact connsLead_setConn n (hgoto _) s
  | cancelled =>
      refine connsLead_setConn n (f := fun c => { c with cancelled := true }) ?_ s
      intro c
      exact ⟨rfl, rfl, fun _ hx => hx⟩
  | submitted h =>
      refine connsLead_setConn n (f := fun c => { c with phase := .waiting h, reply := none }) ?_
        (s.setRegistry _)
      intro c
      exact ⟨rfl, rfl, fun _ hx => hx⟩
  | moved phase => exact connsLead_setConn n (hgoto phase) s
  | left h => exact connsLead_setConn n (hgoto _) (s.setRegistry _)

variable {s s' : World}

/-- A step of the goroutine of a connection that is there. -/
theorem step_mover (grace : Nat) (uuid : Nat → Nat ↪ String) (lost : String → Bool) (s : World)
    {l : Label} {n : Nat} (hl : mover l = some n) :
    World.step grace uuid lost s l = s ∨
      ∃ c, s.conns[n]? = some c ∧ ConnTurn grace s n c l (World.step grace uuid lost s l) := by
  cases hc : s.conns[n]? with
  | none =>
      left
      cases l with
      | accept | other | turn | restart | page => exact absurd hl (by simp [mover])
      | _ =>
          obtain rfl := Option.some.inj hl
          simp only [World.step, mover, hc]
  | some c =>
      have hstep : World.step grace uuid lost s l = s.stepConn grace c l := by
        cases l with
        | accept | other | turn | restart | page => exact absurd hl (by simp [mover])
        | _ =>
            obtain rfl := Option.some.inj hl
            simp only [World.step, mover, hc]
      refine .inr ⟨c, rfl, ?_⟩
      rw [hstep]
      exact connTurn grace hc hl

/-- The connections after a turn. -/
theorem turn_get (out : List Effect) (m : Msg) (r : Reply) (conns : List Conn) (n : Nat) :
    ∃ g : Conn → Conn, (perform out (answer m r conns))[n]? = conns[n]?.map g ∧
      ∀ c : Conn, c.Leads (g c) ∧ (g c).phase = c.phase ∧
        (∀ e, (g c).reply = some (.error e) →
          c.reply = some (.error e) ∨ (n, e.text) ∈ refusal m r) ∧
        ∀ x, (g c).closing = some x → c.closing = some x ∨ (n, x.2) ∈ closings out := by
  obtain ⟨f, hf, hanswer⟩ := answer_get m r conns n
  obtain ⟨g, hg, htold⟩ := perform_get out (answer m r conns) n
  refine ⟨fun c => g (f c), ?_, ?_⟩
  · rw [hg, hf]
    cases conns[n]? <;> rfl
  · intro c
    obtain ⟨hleads, hphase, hclosing, hreply⟩ := hanswer c
    have h := htold (f c)
    refine ⟨hleads.trans h.leads, h.phase.trans hphase, ?_, ?_⟩
    · intro e he
      exact hreply e (h.reply ▸ he)
    · intro x hx
      rcases h.closing x hx with hold | hmem
      · exact .inl (hclosing ▸ hold)
      · exact .inr hmem

/-- What a step can do. -/
inductive Stepped (grace : Nat) (uuid : Nat → Nat ↪ String) (lost : String → Bool) (s : World) :
    Label → World → Prop
  | idle (l : Label) : Stepped grace uuid lost s l s
  | moved (l : Label) (n : Nat) (c : Conn) (s' : World) (hl : mover l = some n)
      (hc : s.conns[n]? = some c) (hturn : ConnTurn grace s n c l s') :
      Stepped grace uuid lost s l s'
  | accepted (k socket : Nat) (roomID : String) (identity : Identity) :
      Stepped grace uuid lost s (.accept k socket roomID identity)
        { s with
          conns := s.conns ++ [⟨k, socket, roomID, identity, .tracked, false, none, none⟩] }
  | outside (l : Registry.Label) (hout : outside l = true) :
      Stepped grace uuid lost s (.other l) (s.setRegistry (Registry.step grace s.registry l))
  | turned (h : Nat) (env : Env) (fates : List Registry.Fate) (m : Msg) (a : Actor Backend)
      (r : Reply) (hdeliver : s.registry.deliver h env fates = some (m, a, r)) :
      Stepped grace uuid lost s (.turn h env fates)
        { s with
          registry := s.registry.takeTurn h env fates
          conns := perform a.out (answer m r s.conns) }
  | restarted :
      Stepped grace uuid lost s .restart
        { s with
          registry := Registry.boot s.registry.db s.registry.used
          conns := s.conns.map (Conn.goto .returned) }
  | paged (k : Nat) (e : Web.Event) (hreports : s.reports lost k e = true) :
      Stepped grace uuid lost s (.page k e)
        { s with pages := Function.update s.pages k ((s.pages k).step (uuid k) e) }

theorem stepped (grace : Nat) (uuid : Nat → Nat ↪ String) (lost : String → Bool) (s : World)
    (l : Label) : Stepped grace uuid lost s l (World.step grace uuid lost s l) := by
  by_cases hmover : ∃ n, mover l = some n
  · obtain ⟨n, hl⟩ := hmover
    rcases step_mover grace uuid lost s hl with heq | ⟨c, hc, hturn⟩
    · rw [heq]
      exact .idle l
    · exact .moved l n c _ hl hc hturn
  cases l with
  | accept k socket roomID identity =>
      simp only [World.step]
      split_ifs
      · exact .accepted k socket roomID identity
      · exact .idle _
  | other l =>
      simp only [World.step]
      split_ifs with hout
      · exact .outside l hout
      · exact .idle _
  | turn h env fates =>
      simp only [World.step]
      split
      · exact .idle _
      · rename_i m a r hdeliver
        exact .turned h env fates m a r hdeliver
  | restart => exact .restarted
  | page k e =>
      simp only [World.step]
      split_ifs with hreports
      · exact .paged k e hreports
      · exact .idle _
  | _ => exact absurd ⟨_, rfl⟩ hmover

theorem Stepped.leads {grace : Nat} {uuid : Nat → Nat ↪ String} {lost : String → Bool} {l : Label}
    (h : Stepped grace uuid lost s l s') : ConnsLead s s' := by
  cases h with
  | moved _ n c _ hl hc hturn => exact hturn.leads
  | accepted k socket roomID identity =>
      intro n c hc
      have hlt : n < s.conns.length := (List.getElem?_eq_some_iff.mp hc).1
      exact ⟨c, (List.getElem?_append_left hlt).trans hc, .refl c⟩
  | turned h env fates m a r hdeliver =>
      intro n c hc
      obtain ⟨g, hg, hprops⟩ := turn_get a.out m r s.conns n
      refine ⟨g c, ?_, (hprops c).1⟩
      show (perform a.out (answer m r s.conns))[n]? = _
      rw [hg, hc]
      rfl
  | restarted =>
      intro n c hc
      refine ⟨c.goto .returned, ?_, ⟨rfl, rfl, fun _ hx => hx⟩⟩
      show (s.conns.map (Conn.goto .returned))[n]? = _
      rw [List.getElem?_map, hc]
      rfl
  | _ => exact .of_conns rfl

/-- **Connections.**  No step takes a connection away. -/
theorem conns_step (grace : Nat) (uuid : Nat → Nat ↪ String) (lost : String → Bool) (s : World)
    (l : Label) : ConnsLead s (World.step grace uuid lost s l) :=
  (stepped grace uuid lost s l).leads

theorem roomOf_mono (h : ConnsLead s s') {n : Nat} {id : String} (hn : s.roomOf n = some id) :
    s'.roomOf n = some id := by
  obtain ⟨c, hc, rfl⟩ := Option.map_eq_some_iff.mp hn
  obtain ⟨c', hc', hleads⟩ := h n c hc
  exact Option.map_eq_some_iff.mpr ⟨c', hc', hleads.roomID⟩

end WatchTogether.Realtime.Endings

/-
  WatchTogether.Rooms.Expiry

  The takeover of a room by expiry, among the timers of the runtime.

  The actor is put next to a clock and the timers that have fired: time passes, a due
  timer fires, and the `expireHost` message it enqueues is handled at any later point,
  in any order with the other messages.  The message carries the id of a host and no
  generation, so a timer that fired before its host came back still counts once the
  host has left again.  Runs in which no such message passes the guard take over only
  from hosts that stayed away.
-/

import WatchTogether.Rooms.Turn

namespace WatchTogether.Rooms

open LabelledRun

variable {σ : Type}

-- ============================================================================
-- The actor and its timers
-- ============================================================================

/-- The actor, the monotonic clock, and the timers that fired and whose message is not
    handled yet. -/
structure Timed (σ : Type) where
  actor : Actor σ
  clock : Nat
  fired : List HostTimer
  /-- Ghost: the timers whose host was let in again after they were armed. -/
  outlived : List Nat

/-- What may happen in the system. -/
inductive TimedLabel where
  /-- Time passes. -/
  | elapse (d : Nat)
  /-- A pending timer fires, not before it is due. -/
  | fire (t : HostTimer)
  /-- The actor handles the message of a fired timer. -/
  | expire (t : HostTimer) (env : Env)
  /-- The actor handles any other message. -/
  | handle (env : Env) (m : Msg)

namespace Timed

/-- The runtime's clock reads `clock`. -/
def at' (clock : Nat) (env : Env) : Env := { env with mono := clock }

/-- The timers, pending and fired, that an accepted join outlives. -/
def outlivedBy (s : Timed σ) (m : Msg) (r : Reply) : List Nat :=
  match m, r with
  | .join c, .join (.ok _) =>
      ((s.actor.timers ++ s.fired).filter (fun t => t.hostID = c.id)).map (fun t => t.id)
  | _, _ => []

/-- A timer that is due sends its message. -/
def fireTimer (s : Timed σ) (t : HostTimer) : Timed σ :=
  if t ∈ s.actor.timers ∧ t.armedAt + s.actor.grace ≤ s.clock then
    { s with
      actor := { s.actor with timers := s.actor.timers.erase t }
      fired := s.fired ++ [t] }
  else s

/-- The actor handles the message of a timer. -/
def expireTimer (P : Persistence σ) (s : Timed σ) (t : HostTimer) (env : Env) : Timed σ :=
  if t ∈ s.fired then
    { s with
      actor := (s.actor.process P (at' s.clock env) (.expireHost t.hostID)).1
      fired := s.fired.erase t }
  else s

/-- Only fired timers send `expireHost`. -/
def handle (P : Persistence σ) (s : Timed σ) (env : Env) (m : Msg) : Timed σ :=
  match m with
  | .expireHost _ => s
  | m =>
      let r := s.actor.process P (at' s.clock env) m
      { s with actor := r.1, outlived := s.outlived ++ s.outlivedBy m r.2 }

/-- One step of the system. -/
def step (P : Persistence σ) (s : Timed σ) : TimedLabel → Timed σ
  | .elapse d => { s with clock := s.clock + d }
  | .fire t => s.fireTimer t
  | .expire t env => s.expireTimer P t env
  | .handle env m => s.handle P env m

/-- A fresh actor, with no timers about. -/
def start (room : Room) (checkpoint : Option Checkpoint) (store : σ) (grace clock : Nat) :
    Timed σ :=
  ⟨newActor room checkpoint store grace, clock, [], []⟩

end Timed

/-- What the member map was, and until when. -/
structure Spell where
  members : KeyedTable String RuntimeMember
  ends : Nat

/-- A step ends the spell of the state it starts from, at the time it leads to. -/
def seeSpell (P : Persistence σ) (s : Timed σ) (l : TimedLabel) : List Spell :=
  [⟨s.actor.members, (Timed.step P s l).clock⟩]

-- ============================================================================
-- Timers and one turn
-- ============================================================================

/-- What a turn does to the timers and, with them, to who is in the room. -/
structure TimerTurn (env : Env) (m : Msg) (s s' : Core) (r : Reply) : Prop where
  /-- A timer is an old one, or is armed now for a host that is out. -/
  timers : ∀ t ∈ s'.timers, t ∈ s.timers ∨
    (t.id = s.timerSeq ∧ t.armedAt = env.mono ∧ t.hostID ∉ s'.members ∧
      s.timerSeq < s'.timerSeq)
  timerSeq : s.timerSeq ≤ s'.timerSeq
  grace : s'.grace = s.grace
  /-- Nobody is in the room who was not there and has not joined now. -/
  members : ∀ id ∈ s'.members, id ∈ s.members ∨
    ∃ c, m = .join c ∧ c.id = id ∧ r = .join (.ok ())

/-- A turn that arms no timer and lets nobody in. -/
theorem TimerTurn.of_le {env : Env} {m : Msg} {s s' : Core} {r : Reply}
    (htimers : ∀ t ∈ s'.timers, t ∈ s.timers) (hseq : s'.timerSeq = s.timerSeq)
    (hgrace : s'.grace = s.grace) (hmembers : ∀ id ∈ s'.members, id ∈ s.members) :
    TimerTurn env m s s' r :=
  ⟨fun t ht => Or.inl (htimers t ht), le_of_eq hseq.symm, hgrace,
    fun id hid => Or.inl (hmembers id hid)⟩

theorem TimerTurn.refl (env : Env) (m : Msg) (s : Core) (r : Reply) : TimerTurn env m s s r :=
  .of_le (fun _ h => h) rfl rfl (fun _ h => h)

theorem mem_stopHostTimer {s : Core} {t : HostTimer} (h : t ∈ s.stopHostTimer.timers) :
    t ∈ s.timers := by
  rw [Core.stopHostTimer] at h
  split at h
  · exact h
  · exact (List.mem_filter.mp h).1

theorem timerTurn_hostTurn {P : Persistence σ} {env : Env} {a a' : Actor σ} {m : Msg}
    {type : CommandType} {p : CommandPayload} {r : Except ActorError (Option PlaybackState)}
    (hturn : HostTurn P env a type p a' r) :
    TimerTurn env m a.toCore a'.toCore (.command r) := by
  cases hturn with
  | refused e => exact .refl ..
  | transferRefused m e store htype hm hguest hP => exact .refl ..
  | transferred m store htype hm hguest hP =>
      exact .of_le (fun _ h => h) rfl rfl (fun _ h => h)
  | kicked m htype hm hhost =>
      exact .of_le (fun _ h => h) rfl rfl (fun _ h => (Core.mem_remove.mp h).2)
  | closeFailed e store htype hP => exact .of_le (fun _ h => h) rfl rfl (fun _ h => h)
  | closed store htype hP =>
      exact .of_le (fun _ h => h) rfl rfl (fun id h => absurd h (AList.notMem_empty id))
  | mediaRefused e store htype hid hP => exact .refl ..
  | mediaSet store htype hid hP => exact .of_le (fun _ h => h) rfl rfl (fun _ h => h)
  | playbackRefused t e hswitch => exact .of_le (fun _ h => h) rfl rfl (fun _ h => h)
  | playbackKept t hswitch => exact .of_le (fun _ h => h) rfl rfl (fun _ h => h)
  | playbackChanged t s hswitch hs =>
      subst hs
      exact .of_le (fun _ h => h) rfl rfl (fun _ h => h)

theorem timerTurn_commandTurn {P : Persistence σ} {env : Env} {a a' : Actor σ} {m : Msg}
    {i : Identity} {c : Command} {r : Except ActorError (Option PlaybackState)}
    (hturn : CommandTurn P env a i c a' r) :
    TimerTurn env m a.toCore a'.toCore (.command r) := by
  cases hturn with
  | refused e => exact .refl ..
  | ignored hm htype => exact .refl ..
  | readied p hm htype =>
      exact .of_le (fun _ h => h) rfl rfl (fun _ h => Core.mem_withReady.mp h)
  | measured p s hm htype hhost hs =>
      subst hs
      exact .of_le (fun _ h => h) rfl rfl (fun _ h => Core.mem_withReady.mp h)
  | host p a' r hp hturn => exact timerTurn_hostTurn hturn

theorem timerTurn (P : Persistence σ) (env : Env) (a : Actor σ) (m : Msg) :
    TimerTurn env m a.toCore (a.process P env m).1.toCore (a.process P env m).2 := by
  have hturn := turn P env a m
  generalize (a.process P env m).1 = a' at hturn ⊢
  generalize (a.process P env m).2 = r at hturn ⊢
  cases hturn with
  | stopped m h => exact .refl ..
  | joinRefused c e h => exact .refl ..
  | joined c s hlive hstatus hroom hback hs =>
      subst hs
      refine ⟨fun _ h => Or.inl h, le_rfl, rfl, ?_⟩
      intro id hid
      rcases Core.mem_enter.mp hid with h | h
      · exact Or.inr ⟨c, rfl, h.symm, rfl⟩
      · exact Or.inl h
  | hostReturned c s hlive hroom hhost hstatus hs =>
      subst hs
      refine ⟨?_, ?_, ?_, ?_⟩
      · intro t ht
        have hold : t ∈ (a.toCore.enter c (env.now 0)).timers := mem_stopHostTimer ht
        exact Or.inl hold
      · show a.timerSeq ≤ (a.toCore.enter c (env.now 0)).stopHostTimer.timerSeq
        rw [Core.stopHostTimer_timerSeq]
        exact le_rfl
      · show (a.toCore.enter c (env.now 0)).stopHostTimer.grace = a.grace
        rw [Core.stopHostTimer_grace]
        rfl
      · intro id hid
        rw [Core.hostBack_members] at hid
        rcases Core.mem_enter.mp hid with h | h
        · exact Or.inr ⟨c, rfl, h.symm, rfl⟩
        · exact Or.inl h
  | leaveIgnored id client h => exact .refl ..
  | left id client m hlive hm hclient hhost =>
      exact .of_le (fun _ h => h) rfl rfl (fun _ h => (Core.mem_remove.mp h).2)
  | hostLeft id client m s hlive hm hclient hhost hstatus hs =>
      subst hs
      refine ⟨?_, Nat.le_succ _, rfl, fun _ h => Or.inl (Core.mem_remove.mp h).2⟩
      intro t ht
      rcases List.mem_append.mp ht with h | h
      · exact Or.inl h
      · rw [List.mem_singleton] at h
        subst h
        refine Or.inr ⟨rfl, rfl, ?_, Nat.lt_succ_self _⟩
        intro hin
        exact (Core.mem_remove.mp hin).1 rfl
  | expireIgnored hostID store h => exact .refl ..
  | tookOver hostID next m candidate s hlive hstatus hhost hchosen hsome hnext
      hcand hid hm hguest hs =>
      subst hs
      exact .of_le (fun _ h => h) rfl rfl (fun _ h => h)
  | command i c a' r hlive hturn => exact timerTurn_commandTurn hturn
  | snapshot => exact .refl ..
  | readied id ready =>
      exact .of_le (fun _ h => h) rfl rfl (fun _ h => Core.mem_withReady.mp h)
  | relayed e => exact .refl ..
  | checkpointSkipped h => exact .refl ..
  | checkpointed h => exact .refl ..
  | reopenIgnored h => exact .refl ..
  | reopenFailed e store h hP => exact .refl ..
  | reopened store h hP => exact .of_le (fun _ h => h) rfl rfl (fun _ h => h)
  | renameFailed title e store hP => exact .refl ..
  | renamed title store hP => exact .of_le (fun _ h => h) rfl rfl (fun _ h => h)
  | halted hlive =>
      refine .of_le (fun t ht => mem_stopHostTimer ht) ?_ ?_ (fun id hid => by simpa using hid)
      · simp [Core.halt]
      · simp [Core.halt]

-- ============================================================================
-- The invariant
-- ============================================================================

/-- The timer is pending or fired. -/
def Timed.Live (s : Timed σ) (t : HostTimer) : Prop := t ∈ s.actor.timers ∨ t ∈ s.fired

/-- Along the history `h`: a live timer that no join of its host has outlived belongs to a
    host that has been out ever since it was armed. -/
structure TimerInvariant (h : List Spell) (s : Timed σ) : Prop where
  out : ∀ t, s.Live t → t.id ∉ s.outlived → t.hostID ∉ s.actor.members
  away : ∀ t, s.Live t → t.id ∉ s.outlived → ∀ x ∈ h, t.armedAt < x.ends → t.hostID ∉ x.members
  due : ∀ t ∈ s.fired, t.armedAt + s.actor.grace ≤ s.clock
  fresh : ∀ t, s.Live t → t.id < s.actor.timerSeq
  outlivedFresh : ∀ id ∈ s.outlived, id < s.actor.timerSeq
  ended : ∀ x ∈ h, x.ends ≤ s.clock

/-- A step that brings no timer and nobody into the room, at a time no earlier. -/
theorem TimerInvariant.shrink {h : List Spell} {s s' : Timed σ} (hs : TimerInvariant h s)
    (hlive : ∀ t, s'.Live t → s.Live t) (hout : s'.outlived = s.outlived)
    (hfired : ∀ t ∈ s'.fired, t.armedAt + s.actor.grace ≤ s'.clock)
    (hseq : s'.actor.timerSeq = s.actor.timerSeq) (hgrace : s'.actor.grace = s.actor.grace)
    (hmembers : ∀ id ∈ s'.actor.members, id ∈ s.actor.members) (hclock : s.clock ≤ s'.clock) :
    TimerInvariant (h ++ [⟨s.actor.members, s'.clock⟩]) s' := by
  refine ⟨?_, ?_, ?_, ?_, ?_, ?_⟩
  · intro t ht hid hin
    rw [hout] at hid
    exact hs.out t (hlive t ht) hid (hmembers _ hin)
  · intro t ht hid x hx harmed
    rw [hout] at hid
    rcases List.mem_append.mp hx with hx | hx
    · exact hs.away t (hlive t ht) hid x hx harmed
    · rw [List.mem_singleton] at hx
      subst hx
      exact hs.out t (hlive t ht) hid
  · intro t ht
    rw [hgrace]
    exact hfired t ht
  · intro t ht
    rw [hseq]
    exact hs.fresh t (hlive t ht)
  · rw [hout, hseq]
    exact hs.outlivedFresh
  · intro x hx
    rcases List.mem_append.mp hx with hx | hx
    · exact le_trans (hs.ended x hx) hclock
    · rw [List.mem_singleton] at hx
      subst hx
      exact le_rfl

theorem mem_outlivedBy {s : Timed σ} {c : Client} {t : HostTimer} (hlive : s.Live t)
    (hid : c.id = t.hostID) : t.id ∈ s.outlivedBy (.join c) (.join (.ok ())) := by
  refine List.mem_map.mpr ⟨t, List.mem_filter.mpr ⟨List.mem_append.mpr hlive, ?_⟩, rfl⟩
  rw [hid]
  exact decide_eq_true rfl

theorem outlivedBy_live {s : Timed σ} {m : Msg} {r : Reply} {id : Nat}
    (h : id ∈ s.outlivedBy m r) : ∃ t, s.Live t ∧ t.id = id := by
  unfold Timed.outlivedBy at h
  split at h
  · obtain ⟨t, ht, hid⟩ := List.mem_map.mp h
    exact ⟨t, List.mem_append.mp (List.mem_filter.mp ht).1, hid⟩
  · exact absurd h (by simp)

/-- The actor handles a message. -/
theorem TimerInvariant.handle {h : List Spell} {s : Timed σ} (hs : TimerInvariant h s)
    {env : Env} {m : Msg} {a' : Actor σ} {r : Reply}
    (hturn : TimerTurn (Timed.at' s.clock env) m s.actor.toCore a'.toCore r) :
    TimerInvariant (h ++ [⟨s.actor.members, s.clock⟩])
      { s with actor := a', outlived := s.outlived ++ s.outlivedBy m r } := by
  -- a live timer of the new state is one of the old state or the one armed now
  have hcases : ∀ t, (t ∈ a'.timers ∨ t ∈ s.fired) → s.Live t ∨
      (t.id = s.actor.timerSeq ∧ t.armedAt = s.clock ∧ t.hostID ∉ a'.members ∧
        s.actor.timerSeq < a'.timerSeq) := by
    rintro t (ht | ht)
    · rcases hturn.timers t ht with hold | hnew
      · exact Or.inl (Or.inl hold)
      · exact Or.inr hnew
    · exact Or.inl (Or.inr ht)
  refine ⟨?_, ?_, ?_, ?_, ?_, ?_⟩
  · intro t ht hid hin
    have hkept : t.id ∉ s.outlived := fun h => hid (List.mem_append_left _ h)
    rcases hcases t ht with hold | ⟨-, -, hgone, -⟩
    · rcases hturn.members _ hin with hthere | ⟨c, rfl, hc, rfl⟩
      · exact hs.out t hold hkept hthere
      · exact hid (List.mem_append_right _ (mem_outlivedBy hold hc))
    · exact hgone hin
  · intro t ht hid x hx harmed
    have hkept : t.id ∉ s.outlived := fun h => hid (List.mem_append_left _ h)
    rcases hcases t ht with hold | ⟨-, harmedAt, -, -⟩
    · rcases List.mem_append.mp hx with hx | hx
      · exact hs.away t hold hkept x hx harmed
      · rw [List.mem_singleton] at hx
        subst hx
        exact hs.out t hold hkept
    · -- every spell so far has ended by the time the new timer is armed
      have hend : x.ends ≤ s.clock := by
        rcases List.mem_append.mp hx with hx | hx
        · exact hs.ended x hx
        · rw [List.mem_singleton] at hx
          subst hx
          exact le_rfl
      omega
  · intro t ht
    show t.armedAt + a'.grace ≤ s.clock
    rw [hturn.grace]
    exact hs.due t ht
  · intro t ht
    show t.id < a'.timerSeq
    have hseq := hturn.timerSeq
    rcases hcases t ht with hold | ⟨hid, -, -, hlt⟩
    · have hold' := hs.fresh t hold
      omega
    · omega
  · intro id hid
    show id < a'.timerSeq
    have hseq := hturn.timerSeq
    rcases List.mem_append.mp hid with hid | hid
    · have hold := hs.outlivedFresh id hid
      omega
    · obtain ⟨t, ht, rfl⟩ := outlivedBy_live hid
      have hold := hs.fresh t ht
      omega
  · intro x hx
    rcases List.mem_append.mp hx with hx | hx
    · exact hs.ended x hx
    · rw [List.mem_singleton] at hx
      subst hx
      exact le_rfl

/-- An `expireHost` message touches no timer and lets nobody in. -/
theorem expireHost_frame (P : Persistence σ) (env : Env) (a : Actor σ) (hostID : String) :
    (a.process P env (.expireHost hostID)).1.timers = a.timers ∧
    (a.process P env (.expireHost hostID)).1.timerSeq = a.timerSeq ∧
    (a.process P env (.expireHost hostID)).1.grace = a.grace ∧
    (a.process P env (.expireHost hostID)).1.members = a.members := by
  have hturn := turn P env a (.expireHost hostID)
  generalize (a.process P env (.expireHost hostID)).1 = a' at hturn ⊢
  generalize (a.process P env (.expireHost hostID)).2 = r at hturn
  cases hturn with
  | stopped m h => exact ⟨rfl, rfl, rfl, rfl⟩
  | expireIgnored hostID store h => exact ⟨rfl, rfl, rfl, rfl⟩
  | tookOver hostID next m candidate s hlive hstatus hhost hchosen hsome hnext
      hcand hid hm hguest hs =>
      subst hs
      exact ⟨rfl, rfl, rfl, rfl⟩

/-- **Step lemma.**  The invariant goes along with the history. -/
theorem timerInvariant_step (P : Persistence σ) (h : List Spell) (s : Timed σ) (l : TimedLabel)
    (hs : TimerInvariant h s) :
    TimerInvariant (h ++ seeSpell P s l) (Timed.step P s l) := by
  have hsame : TimerInvariant (h ++ [⟨s.actor.members, s.clock⟩]) s :=
    hs.shrink (fun _ h => h) rfl hs.due rfl rfl (fun _ h => h) le_rfl
  cases l with
  | elapse d =>
      have hlater : s.clock ≤ s.clock + d := Nat.le_add_right _ _
      exact hs.shrink (fun _ h => h) rfl (fun t ht => le_trans (hs.due t ht) hlater) rfl rfl
        (fun _ h => h) hlater
  | fire t =>
      show TimerInvariant (h ++ [⟨s.actor.members, (s.fireTimer t).clock⟩]) (s.fireTimer t)
      rw [Timed.fireTimer]
      split
      · rename_i hfire
        refine hs.shrink ?_ rfl ?_ rfl rfl (fun _ h => h) le_rfl
        · rintro t' (ht | ht)
          · exact Or.inl (List.mem_of_mem_erase ht)
          · rcases List.mem_append.mp ht with ht | ht
            · exact Or.inr ht
            · rw [List.mem_singleton] at ht
              subst ht
              exact Or.inl hfire.1
        · intro t' ht
          rcases List.mem_append.mp ht with ht | ht
          · exact hs.due t' ht
          · rw [List.mem_singleton] at ht
            subst ht
            exact hfire.2
      · exact hsame
  | expire t env =>
      show TimerInvariant (h ++ [⟨s.actor.members, (s.expireTimer P t env).clock⟩])
        (s.expireTimer P t env)
      rw [Timed.expireTimer]
      split
      · obtain ⟨htimers, hseq, hgrace, hmembers⟩ :=
          expireHost_frame P (Timed.at' s.clock env) s.actor t.hostID
        refine hs.shrink ?_ rfl ?_ hseq hgrace ?_ le_rfl
        · rintro t' (ht | ht)
          · exact Or.inl (htimers ▸ ht)
          · exact Or.inr (List.mem_of_mem_erase ht)
        · intro t' ht
          exact hs.due t' (List.mem_of_mem_erase ht)
        · intro id hid
          exact hmembers ▸ hid
      · exact hsame
  | handle env m =>
      cases m with
      | expireHost hostID => exact hsame
      | _ => exact hs.handle (timerTurn P (Timed.at' s.clock env) s.actor _)

theorem timerInvariant_start (room : Room) (checkpoint : Option Checkpoint) (store : σ)
    (grace clock : Nat) :
    TimerInvariant [] (Timed.start room checkpoint store grace clock) := by
  have hdead : ∀ t, ¬ (Timed.start room checkpoint store grace clock).Live t := by
    rintro t (ht | ht) <;> exact absurd ht (by simp [Timed.start, newActor])
  refine ⟨?_, ?_, ?_, ?_, ?_, ?_⟩
  · intro t ht
    exact absurd ht (hdead t)
  · intro t ht
    exact absurd ht (hdead t)
  · intro t ht
    exact absurd (Or.inr ht) (hdead t)
  · intro t ht
    exact absurd ht (hdead t)
  · intro id hid
    exact absurd hid (by simp [Timed.start])
  · intro x hx
    exact absurd hx (by simp)

-- ============================================================================
-- Every run
-- ============================================================================

/-- The message of an outlived timer is handled and passes the guard of `expireHost`. -/
def StaleExpiry (s : Timed σ) (l : TimedLabel) : Prop :=
  ∃ t env, l = .expire t env ∧ t ∈ s.fired ∧ t.id ∈ s.outlived ∧ s.actor.stopped = false ∧
    s.actor.room.status = .HOST_DISCONNECTED ∧ s.actor.room.hostUserID = t.hostID

/-- An expiry that changes the host, after the history `h`: the old host is out, was out at
    every moment of the grace period before, and the new host is another member, online
    and no guest. -/
def ExpiresRightly (P : Persistence σ) (h : List Spell) (s : Timed σ) (t : HostTimer)
    (env : Env) : Prop :=
  let s' := Timed.step P s (.expire t env)
  let host := s.actor.room.hostUserID
  s'.actor.room.hostUserID ≠ host →
    host ∉ s.actor.members ∧
    (∀ x ∈ h, s.clock < x.ends + s.actor.grace → host ∉ x.members) ∧
    ∃ m, s'.actor.members.lookup s'.actor.room.hostUserID = some m ∧
      m.identity.guest = false ∧ s'.actor.room.hostUserID ≠ host

theorem expiresRightly_step {P : Persistence σ} {h : List Spell} {s : Timed σ} {t : HostTimer}
    {env : Env} (hs : TimerInvariant h s) (hok : ¬ StaleExpiry s (.expire t env)) :
    ExpiresRightly P h s t env := by
  unfold ExpiresRightly
  intro s' host hchanged
  have hfired : t ∈ s.fired := by
    by_contra hnot
    have hsame : s' = s := by
      show s.expireTimer P t env = s
      rw [Timed.expireTimer]
      rw [if_neg hnot]
    rw [hsame] at hchanged
    exact hchanged rfl
  have hactor : s'.actor
      = (s.actor.process P (Timed.at' s.clock env) (.expireHost t.hostID)).1 := by
    show (s.expireTimer P t env).actor = _
    rw [Timed.expireTimer]
    rw [if_pos hfired]
  rw [hactor] at hchanged ⊢
  have hturn := turn P (Timed.at' s.clock env) s.actor (.expireHost t.hostID)
  generalize (s.actor.process P (Timed.at' s.clock env) (.expireHost t.hostID)).1 = a'
    at hturn hchanged ⊢
  generalize (s.actor.process P (Timed.at' s.clock env) (.expireHost t.hostID)).2 = r at hturn
  generalize hid : t.hostID = hostID at hturn
  cases hturn with
  | stopped m h => exact absurd rfl hchanged
  | expireIgnored hostID store h => exact absurd rfl hchanged
  | tookOver hostID next m candidate u hlive hstatus hhost hchosen hsome hnext
      hcand hcid hm hguest hu =>
      subst hu
      have hhostID : host = t.hostID := hhost.trans hid.symm
      have hyoung : t.id ∉ s.outlived := by
        intro hold
        exact hok ⟨t, env, rfl, hfired, hold, hlive, hstatus, hhostID⟩
      have hdue := hs.due t hfired
      rw [hhostID]
      refine ⟨hs.out t (Or.inr hfired) hyoung, ?_, m, hm, hguest, ?_⟩
      · intro x hx hlate
        exact hs.away t (Or.inr hfired) hyoung x hx (by omega)
      · exact fun h => hnext (h.trans hid)

/-- **Takeover by expiry.**  In every run in which no message of an outlived timer passes
    the guard, whoever loses a room by expiry has been out of it for the whole grace
    period, and an online registered member gets it. -/
theorem expiry_run (P : Persistence σ) (room : Room) (checkpoint : Option Checkpoint) (store : σ)
    (grace clock : Nat) (ls : List TimedLabel)
    (hok : EachStep (Timed.step P) (fun s l => ¬ StaleExpiry s l)
      (Timed.start room checkpoint store grace clock) ls) :
    ∀ pre t env post, ls = pre ++ .expire t env :: post →
      ExpiresRightly P
        (history (Timed.step P) (seeSpell P) (Timed.start room checkpoint store grace clock) pre)
        (run (Timed.step P) (Timed.start room checkpoint store grace clock) pre) t env := by
  intro pre t env post hls
  have hinv : TimerInvariant
      (history (Timed.step P) (seeSpell P) (Timed.start room checkpoint store grace clock) pre)
      (run (Timed.step P) (Timed.start room checkpoint store grace clock) pre) :=
    run_history_invariant (timerInvariant_step P)
      (timerInvariant_start room checkpoint store grace clock) pre
  exact expiresRightly_step hinv (hok pre (.expire t env) post hls)

/-- A store that lists the member `u`. -/
def listingU : Persistence Unit := .answering (.ok ()) [⟨"u", "u", .MEMBER, 0⟩]

/-- The host `h` leaves `u` alone in the room, and its timer fires after the grace
    period of 60. -/
def graceOverRun : List TimedLabel :=
  [.handle (Env.at 0) (.join (userClient 1 "h")),
   .handle (Env.at 0) (.join (userClient 2 "u")),
   .handle (Env.at 0) (.leave "h" (some (userClient 1 "h"))),
   .elapse 60,
   .fire ⟨0, "h", 0⟩]

/-- The state in which that message waits. -/
def graceOver : Timed Unit :=
  run (Timed.step listingU) (.start (smallRoom "h") none () 60 0) graceOverRun

/-- `expiry_run` where the host stayed away: the takeover is right. -/
theorem expiry_run_graceOver :
    (Timed.step listingU graceOver (.expire ⟨0, "h", 0⟩ (Env.at 60))).actor.room.hostUserID = "u" ∧
    "h" ∉ graceOver.actor.members := by
  have hmessages : ∀ (s : Timed Unit) (l : TimedLabel), (∀ t env, l ≠ .expire t env) →
      ¬ StaleExpiry s l := by
    rintro s l hl ⟨t, env, heq, -⟩
    exact hl t env heq
  have hlast : ¬ StaleExpiry graceOver (.expire ⟨0, "h", 0⟩ (Env.at 60)) := by
    rintro ⟨t, env, heq, -, hold, -⟩
    exact absurd hold (by rw [show graceOver.outlived = [] by decide]; simp)
  have hok : EachStep (Timed.step listingU) (fun s l => ¬ StaleExpiry s l)
      (.start (smallRoom "h") none () 60 0)
      (graceOverRun ++ [.expire ⟨0, "h", 0⟩ (Env.at 60)]) := by
    refine eachStep_append.mpr ⟨?_, eachStep_cons.mpr ⟨hlast, eachStep_nil _ _⟩⟩
    intro pre l post hls
    refine hmessages _ _ ?_
    rintro t env rfl
    have hmem : TimedLabel.expire t env ∈ graceOverRun := by
      rw [hls]
      simp
    simp [graceOverRun] at hmem
  have hrun := expiry_run listingU (smallRoom "h") none () 60 0 _ hok graceOverRun ⟨0, "h", 0⟩
    (Env.at 60) [] rfl
  exact ⟨by decide, (hrun (by decide)).1⟩

/-- The host comes back while the message waits, and leaves again at once. -/
def graceRestartedRun : List TimedLabel :=
  graceOverRun ++
    [.handle (Env.at 60) (.join (userClient 3 "h")),
     .handle (Env.at 60) (.leave "h" (some (userClient 3 "h")))]

/-- The old message takes the room from a host that left this very moment. -/
theorem expiry_takes_from_returned_host :
    ¬ ExpiresRightly listingU
      (history (Timed.step listingU) (seeSpell listingU) (.start (smallRoom "h") none () 60 0)
        graceRestartedRun)
      (run (Timed.step listingU) (.start (smallRoom "h") none () 60 0) graceRestartedRun)
      ⟨0, "h", 0⟩ (Env.at 60) := by
  rw [ExpiresRightly]
  intro hright
  obtain ⟨-, haway, -⟩ := hright (by decide)
  have hspell : ∃ x ∈ history (Timed.step listingU) (seeSpell listingU)
      (.start (smallRoom "h") none () 60 0) graceRestartedRun, 60 < x.ends + 60 ∧
        "h" ∈ x.members := by
    decide
  obtain ⟨x, hx, hlate, hin⟩ := hspell
  exact haway x hx hlate hin

end WatchTogether.Rooms

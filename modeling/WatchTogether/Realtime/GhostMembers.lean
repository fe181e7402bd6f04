/-
  WatchTogether.Realtime.GhostMembers

  Members whose connection is gone.

  A connection that is in the room has a way out as long as its goroutine is still in
  `ServeHTTP` past an accepted join, or its `LeaveClient` is on the channel.  The way
  out is lost where `Join` gives up waiting although its request is accepted, before or
  after: `ServeHTTP` then returns without `LeaveClient`.
-/

import WatchTogether.Lib.LabelledRun
import WatchTogether.Realtime.Handler

namespace WatchTogether.Realtime

open Rooms LabelledRun

variable {σ : Type}

/-- `ServeHTTP` of `c` has returned and the channel is drained, so `c` is out of the
    room.  An actor that was stopped has no member map any more. -/
def NoGhosts (s : System σ) : Prop :=
  s.actor.stopped = false → s.queue = [] → ∀ c, (s.conns c).stage = .returned →
    ∀ id m, s.actor.members.lookup id = some m → m.client ≠ c

/-- The steps that lose a way out: the `select` of `Join` takes `ctx.Done()` while the
    reply to an accepted join waits in the channel, or the actor lets a connection in
    whose `ServeHTTP` has returned. -/
def LosesWayOut (s : System σ) : Label → Prop
  | .giveUp c => s.actor.stopped = false ∧ (s.conns c).cancelled = true ∧
      (s.conns c).stage = .waiting ∧ (s.conns c).reply = some (.ok ())
  | .turn _ => ∃ c rest, s.queue = .join c :: rest ∧ (s.conns c).stage = .returned ∧
      s.actor.toCore.Admits c
  | _ => False

-- ============================================================================
-- The invariant
-- ============================================================================

/-- `ServeHTTP` will still send the `LeaveClient` of an accepted connection. -/
def WillLeave (x : Conn) : Prop :=
  (x.stage = .waiting ∧ x.reply = some (.ok ())) ∨ x.stage = .reading ∨ x.stage = .leaving

/-- The invariant: whoever is in the room will be taken out. -/
structure Tracked (s : System σ) : Prop where
  owned : Owned s.actor.toCore
  /-- A connection asks to join once. -/
  once : ∀ c, s.queue.count (.join c) ≤ 1
  asked : ∀ c, .join c ∈ s.queue →
    ((s.conns c).stage = .waiting ∧ (s.conns c).reply = none) ∨ (s.conns c).stage = .returned
  /-- Who is in the room has a way out. -/
  wayOut : s.actor.stopped = false → ∀ id c, Holds s.actor.toCore id c →
    WillLeave (s.conns c) ∨ .leave c.id (some c) ∈ s.queue

/-- One connection moves on. -/
theorem Tracked.setConn {s : System σ} (hs : Tracked s) {c : Client} {x : Conn}
    (hasked : .join c ∈ s.queue → (x.stage = .waiting ∧ x.reply = none) ∨ x.stage = .returned)
    (hout : s.actor.stopped = false → WillLeave (s.conns c) →
      WillLeave x ∨ .leave c.id (some c) ∈ s.queue) :
    Tracked (s.setConn c x) := by
  refine ⟨hs.owned, hs.once, ?_, ?_⟩
  · intro c' hin
    by_cases h : c' = c
    · subst h
      rw [System.setConn_conns_self]
      exact hasked hin
    · rw [System.setConn_conns_ne h]
      exact hs.asked c' hin
  · intro hlive id c' hold
    by_cases h : c' = c
    · subst h
      rw [System.setConn_conns_self]
      rcases hs.wayOut hlive id c' hold with hwill | hleave
      · exact hout hlive hwill
      · exact Or.inr hleave
    · rw [System.setConn_conns_ne h]
      exact hs.wayOut hlive id c' hold

/-- A message that is no join goes onto the channel. -/
theorem Tracked.enqueue {s : System σ} (hs : Tracked s) {m : Msg} (hm : ∀ c, m ≠ .join c) :
    Tracked (s.enqueue m) := by
  refine ⟨hs.owned, ?_, ?_, ?_⟩
  · intro c
    have hcount := hs.once c
    rw [System.enqueue_queue, List.count_append, List.count_singleton]
    have hne : (m == Msg.join c) = false := beq_eq_false_iff_ne.mpr (hm c)
    rw [hne]
    simpa using hcount
  · intro c hin
    rcases List.mem_append.mp hin with hin | hin
    · exact hs.asked c hin
    · exact absurd (List.mem_singleton.mp hin).symm (hm c)
  · intro hlive id c hold
    rcases hs.wayOut hlive id c hold with hwill | hleave
    · exact Or.inl hwill
    · exact Or.inr (List.mem_append_left _ hleave)

/-- A connection asks to join. -/
theorem Tracked.submit {s : System σ} (hs : Tracked s) {c : Client}
    (hstage : (s.conns c).stage = .joining) :
    Tracked ((s.enqueue (.join c)).setConn c
      { s.conns c with stage := .waiting, reply := none }) := by
  have hnew : .join c ∉ s.queue := fun hin => by simpa [hstage] using hs.asked c hin
  have hidle : ¬ WillLeave (s.conns c) := by simp [WillLeave, hstage]
  refine ⟨hs.owned, ?_, ?_, ?_⟩
  · intro c'
    have hcount := hs.once c'
    show (s.queue ++ [Msg.join c]).count (Msg.join c') ≤ 1
    rw [List.count_append, List.count_singleton]
    by_cases h : c' = c
    · subst h
      rw [List.count_eq_zero_of_not_mem hnew]
      simp
    · have hne : (Msg.join c == Msg.join c') = false :=
        beq_eq_false_iff_ne.mpr (fun heq => h (Msg.join.inj heq).symm)
      rw [hne]
      simpa using hcount
  · intro c' hin
    by_cases h : c' = c
    · subst h
      rw [System.setConn_conns_self]
      exact Or.inl ⟨rfl, rfl⟩
    · rw [System.setConn_conns_ne h]
      rcases List.mem_append.mp hin with hin | hin
      · exact hs.asked c' hin
      · exact absurd (Msg.join.inj (List.mem_singleton.mp hin)) h
  · intro hlive id c' hold
    rcases hs.wayOut hlive id c' hold with hwill | hleave
    · have h : c' ≠ c := fun heq => hidle (heq ▸ hwill)
      rw [System.setConn_conns_ne h]
      exact Or.inl hwill
    · exact Or.inr (List.mem_append_left _ hleave)

/-- A connection whose join is handled waits for the reply, or is gone. -/
theorem Tracked.asker {s : System σ} (hs : Tracked s) {m : Msg} {rest : List Msg}
    (hqueue : s.queue = m :: rest) {c : Client} (hm : m = .join c) :
    ((s.conns c).stage = .waiting ∧ (s.conns c).reply = none) ∨
      (s.conns c).stage = .returned := by
  refine hs.asked c ?_
  rw [hqueue, hm]
  exact List.mem_cons_self ..

/-- After the actor handled `m`, whoever is in the room has a way out. -/
theorem Tracked.wayOut_answer {s : System σ} (hs : Tracked s) {P : Persistence σ} {env : Env}
    {m : Msg} {rest : List Msg} (hqueue : s.queue = m :: rest)
    (hlive : s.actor.stopped = false) {a' : Actor σ} {r : Reply}
    (hturn : Turn P env s.actor m a' r) (hok : ¬ LosesWayOut s (.turn env)) {id : String}
    {c : Client} (hold : Holds a'.toCore id c) :
    WillLeave ((System.answer m r { s with actor := a', queue := rest }).conns c) ∨
      .leave c.id (some c) ∈ rest := by
  obtain ⟨e, he, hclient⟩ := hold
  cases entryOrigin hlive hturn he with
  | joined c' hm hr hid hc' hidentity =>
      obtain rfl : c' = c := hc'.symm.trans hclient
      have hasker := hs.asker hqueue hm
      subst hm
      subst hr
      rcases hasker with ⟨hwaiting, -⟩ | hreturned
      · refine Or.inl (Or.inl ⟨?_, ?_⟩)
        · show ((s.setConn c' _).conns c').stage = .waiting
          rw [System.setConn_conns_self]
          exact hwaiting
        · show ((s.setConn c' _).conns c').reply = some (.ok ())
          rw [System.setConn_conns_self]
      · exact absurd ⟨c', rest, hqueue, hreturned, admits_of_joined hturn⟩ hok
  | kept e₀ hold hsame hidentity hstay =>
      have he₀ : e₀.client = c := hsame.symm.trans hclient
      have hid : c.id = id := he₀ ▸ (hs.owned id e₀ hold).1
      rcases hs.wayOut hlive id c ⟨e₀, hold, he₀⟩ with hwill | hleave
      · left
        rcases System.answer_conns m r { s with actor := a', queue := rest } c with
          hconn | ⟨r', hm, -, -⟩
        · rw [hconn]
          exact hwill
        · -- the join of a connection in the room is not on the channel
          exfalso
          rcases hs.asker hqueue hm with ⟨hstage, hreply⟩ | hstage
          · simp [WillLeave, hstage, hreply] at hwill
          · simp [WillLeave, hstage] at hwill
      · right
        rw [hqueue] at hleave
        rcases List.mem_cons.mp hleave with hm | hin
        · rw [hid] at hm
          exact absurd (congrArg some he₀.symm) (hstay (some c) hm.symm).2
        · exact hin

/-- The actor handles a message. -/
theorem Tracked.takeTurn {s : System σ} (hs : Tracked s) (P : Persistence σ) (env : Env)
    (hok : ¬ LosesWayOut s (.turn env)) : Tracked (s.takeTurn P env) := by
  rw [System.takeTurn]
  split
  · exact hs
  rename_i m rest hqueue
  split
  · exact hs
  rename_i hlive
  have hlive : s.actor.stopped = false := Bool.not_eq_true _ ▸ hlive
  have hturn := turn P env s.actor m
  dsimp only
  generalize (s.actor.process P env m).1 = a' at hturn ⊢
  generalize (s.actor.process P env m).2 = r at hturn ⊢
  refine ⟨?_, ?_, ?_, ?_⟩
  · rw [System.answer_actor]
    exact owned_turn hlive hturn hs.owned
  · intro c
    have hcount := hs.once c
    rw [System.answer_queue]
    rw [hqueue, List.count_cons] at hcount
    exact le_trans (Nat.le_add_right _ _) hcount
  · intro c hin
    rw [System.answer_queue] at hin
    have hcount := hs.once c
    have hpos : 0 < rest.count (.join c) := List.count_pos_iff.mpr hin
    rw [hqueue, List.count_cons] at hcount
    have hother : m ≠ .join c := by
      intro hm
      rw [hm, beq_self_eq_true, if_pos rfl] at hcount
      omega
    rcases System.answer_conns m r { s with actor := a', queue := rest } c with hsame | ⟨r', hm, -⟩
    · rw [hsame]
      exact hs.asked c (by rw [hqueue]; exact List.mem_cons_of_mem _ hin)
    · exact absurd hm hother
  · intro _ id c hold
    rw [System.answer_actor] at hold
    rw [System.answer_queue]
    exact hs.wayOut_answer hqueue hlive hturn hok hold

/-- **Step lemma.** -/
theorem tracked_step (P : Persistence σ) (access : σ → Identity → Bool) (s : System σ)
    (l : Label) (hs : Tracked s) (hok : ¬ LosesWayOut s l) :
    Tracked (System.step P access s l) := by
  cases l with
  | check c =>
      show Tracked (if _ then _ else _)
      split
      · rename_i h
        exact hs.setConn (fun hin => by simpa [h.1] using hs.asked c hin)
          (fun _ hwill => by simp [WillLeave, h.1] at hwill)
      · exact hs
  | reject c =>
      show Tracked (if _ then _ else _)
      split
      · rename_i h
        refine hs.setConn (fun _ => Or.inr rfl) (fun _ hwill => ?_)
        rcases h with h | h <;> simp [WillLeave, h] at hwill
      · exact hs
  | start c =>
      show Tracked (if _ then _ else _)
      split
      · rename_i h
        exact hs.setConn (fun hin => by simpa [h] using hs.asked c hin)
          (fun _ hwill => by simp [WillLeave, h] at hwill)
      · exact hs
  | cancel c =>
      show Tracked (if _ then _ else _)
      split
      · exact hs.setConn (hs.asked c) (fun _ hwill => Or.inl hwill)
      · exact hs
  | submit c =>
      show Tracked (if _ then _ else _)
      split
      · rename_i h
        exact hs.submit h.1
      · exact hs
  | giveUp c =>
      show Tracked (if _ then _ else _)
      split
      · rename_i h
        refine hs.setConn (fun _ => Or.inr rfl) (fun hlive hwill => ?_)
        rcases h with ⟨hselect, hcancelled⟩ | ⟨hstopped, -⟩
        · rcases hwill with ⟨hstage, hreply⟩ | hstage | hstage
          · exact absurd ⟨hlive, hcancelled, hstage, hreply⟩ hok
          · simp [System.joinSelect, hstage] at hselect
          · simp [System.joinSelect, hstage] at hselect
        · rw [hlive] at hstopped
          exact Bool.noConfusion hstopped
      · exact hs
  | receive c =>
      unfold System.step
      dsimp only
      split
      · rename_i hstage hreply
        exact hs.setConn (fun hin => by simpa [hstage, hreply] using hs.asked c hin)
          (fun _ _ => Or.inl (Or.inr (Or.inl rfl)))
      · rename_i hstage hreply
        exact hs.setConn (fun _ => Or.inr rfl)
          (fun _ hwill => by simp [WillLeave, hstage, hreply] at hwill)
      · exact hs
  | hangUp c =>
      show Tracked (if _ then _ else _)
      split
      · rename_i h
        exact hs.setConn (fun hin => by simpa [h] using hs.asked c hin)
          (fun _ _ => Or.inl (Or.inr (Or.inr rfl)))
      · exact hs
  | leave c =>
      show Tracked (if _ then _ else _)
      split
      · rename_i h
        have hqueued : Tracked (s.enqueue (.leave c.id (some c))) :=
          hs.enqueue (fun c' heq => Msg.noConfusion heq)
        exact hqueued.setConn (fun _ => Or.inr rfl)
          (fun _ _ => Or.inr (List.mem_append_right _ (List.mem_singleton.mpr rfl)))
      · exact hs
  | post m =>
      show Tracked (if _ then _ else _)
      split
      · rename_i h
        refine hs.enqueue (fun c heq => ?_)
        rw [heq] at h
        exact Bool.noConfusion h.1
      · exact hs
  | turn env => exact hs.takeTurn P env hok

-- ============================================================================
-- Every run
-- ============================================================================

theorem tracked_start {a : Actor σ} (hempty : a.members = ∅) : Tracked (System.start a) := by
  have hnobody := AList.lookup_ne_of_empty hempty
  refine ⟨?_, ?_, ?_, ?_⟩
  · intro id m hm
    exact absurd hm (hnobody id m)
  · intro c
    exact Nat.zero_le _
  · intro c hin
    exact absurd hin (List.not_mem_nil)
  · rintro _ id c ⟨m, hm, -⟩
    exact absurd hm (hnobody id m)

/-- **No ghost members.**  In every run in which no step loses a way out, whoever has
    returned from `ServeHTTP` is out of the room once the channel is drained. -/
theorem no_ghost_members (P : Persistence σ) (access : σ → Identity → Bool) (a : Actor σ)
    (hempty : a.members = ∅) (ls : List Label)
    (hok : EachStep (System.step P access) (fun s l => ¬ LosesWayOut s l) (System.start a) ls) :
    NoGhosts (run (System.step P access) (System.start a) ls) := by
  have htracked := run_invariant (tracked_step P access) (tracked_start hempty) hok
  intro hlive hdrained c hreturned id m hm hclient
  rcases htracked.wayOut hlive id c ⟨m, hm, hclient⟩ with hwill | hleave
  · simp [WillLeave, hreturned] at hwill
  · rw [hdrained] at hleave
    exact absurd hleave (List.not_mem_nil)

/-- A store that accepts everything, and a room of `h` that anybody may enter. -/
def openDoor : System Unit := System.start (newActor (smallRoom "h") none () 60)

/-- A step over a store that answers everything, where everybody has access. -/
def openDoorStep : System Unit → Label → System Unit :=
  System.step (.answering (.ok ()) []) (fun _ _ => true)

/-- A connection of `u` comes and goes. -/
def visitRun : List Label :=
  let c := userClient 1 "u"
  [.check c, .start c, .submit c, .turn (Env.at 1), .receive c, .hangUp c, .leave c,
   .turn (Env.at 2)]

theorem no_ghost_members_visit :
    (run openDoorStep openDoor visitRun).queue = [] ∧
    ((run openDoorStep openDoor visitRun).conns (userClient 1 "u")).stage = .returned ∧
    NoGhosts (run openDoorStep openDoor visitRun) := by
  refine ⟨by decide, by decide, ?_⟩
  refine no_ghost_members (.answering (.ok ()) []) (fun _ _ => true)
    (newActor (smallRoom "h") none () 60) rfl visitRun ?_
  rw [visitRun]
  simp only [eachStep_cons]
  refine ⟨id, id, id, ?_, id, id, id, ?_, eachStep_nil _ _⟩
  · -- its handler is waiting for the reply
    rintro ⟨c, rest, hqueue, hreturned, -⟩
    have hjoin : (run openDoorStep openDoor (visitRun.take 3)).queue
        = [.join (userClient 1 "u")] := by decide
    obtain ⟨hc, -⟩ := List.cons.inj (hjoin.symm.trans hqueue)
    obtain rfl := Msg.join.inj hc
    exact absurd hreturned (by decide)
  · rintro ⟨c, rest, hqueue, -⟩
    have hleave : (run openDoorStep openDoor (visitRun.take 7)).queue
        = [.leave "u" (some (userClient 1 "u"))] := by decide
    obtain ⟨hc, -⟩ := List.cons.inj (hleave.symm.trans hqueue)
    exact Msg.noConfusion hc

/-- The actor lets `u` in, the write loop fails, and `Join` returns the context's error:
    `ServeHTTP` returns without `LeaveClient`. -/
def ghostRun : List Label :=
  let c := userClient 1 "u"
  [.check c, .start c, .submit c, .turn (Env.at 1), .cancel c, .giveUp c]

theorem ghost_member :
    ¬ NoGhosts (run openDoorStep openDoor ghostRun) := by
  intro h
  have hin : ∃ m, (run openDoorStep openDoor ghostRun).actor.members.lookup "u" = some m ∧
      m.client = userClient 1 "u" :=
    ⟨⟨user "u", userClient 1 "u", 1, false⟩, by decide, rfl⟩
  obtain ⟨m, hm, hclient⟩ := hin
  exact h (by decide) (by decide) (userClient 1 "u") (by decide) "u" m hm hclient

end WatchTogether.Realtime

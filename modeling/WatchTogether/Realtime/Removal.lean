/-
  WatchTogether.Realtime.Removal

  Removed people and the room they were removed from.

  `ServeHTTP` checks a membership once, before it asks the actor to let the connection
  in.  `Service.Leave` and a kick end the membership from two sides: `Service.Leave`
  asks the actor first and writes the database on its own, a kick does both in the
  actor.  The system here is the one of `Realtime.Handler` over the database, with any
  number of `Service.Leave` calls and of invitations beside it.  A handler makes one
  write to the memberships at most, so its turn stands for the moment of that write.
-/

import WatchTogether.Lib.LabelledRun
import WatchTogether.Realtime.Handler
import WatchTogether.Rooms.Persisted

namespace WatchTogether.Realtime

open Rooms Repository LabelledRun

-- ============================================================================
-- `Service.Leave`
-- ============================================================================

/-- `GetFor`, for a reference that resolves to the room `roomID`. -/
def getFor (roomID : String) (i : Identity) (db : DB) : Option Room :=
  match Store.roomByID roomID db with
  | .error _ => none
  | .ok r =>
      if Store.isMember r.id i.id i.guest db = false ∨ (i.guest = true ∧ i.roomID ≠ r.id) then none
      else some r

/-- A call of `Service.Leave`. -/
inductive LeaveCall where
  | idle
  /-- The room's row has been read: its host. -/
  | found (i : Identity) (hostUserID : String)
  | checked (i : Identity)
  /-- `a.Leave(i.ID)` has sent its request. -/
  | posted (i : Identity)
  | done
deriving DecidableEq

/-- The system of a room, with the calls of `Service.Leave` beside it. -/
structure Site where
  sys : System DB
  leaves : Nat → LeaveCall

/-- What may happen in the system. -/
inductive SiteLabel where
  /-- A step of the actor or of a connection, or a message of others. -/
  | inner (l : Label)
  | leaveFind (op : Nat) (i : Identity)
  | leaveCheck (op : Nat)
  | leavePost (op : Nat)
  | leaveWrite (op : Nat) (now : Int64)
  /-- `AddMember` of a join or an invitation. -/
  | addMember (userID : String) (now : Int64)
  /-- `CreateGuestSession` of an invitation. -/
  | addGuest (id : String) (g : GuestRow)

namespace Site

/-- The room. -/
def roomID (s : Site) : String := s.sys.actor.room.id

/-- The database. -/
def db (s : Site) : DB := s.sys.actor.store

/-- One call of `Service.Leave` goes on. -/
def setLeave (op : Nat) (x : LeaveCall) (s : Site) : Site :=
  { s with leaves := Function.update s.leaves op x }

/-- The database changes. -/
def setDB (db : DB) (s : Site) : Site :=
  { s with sys := { s.sys with actor := { s.sys.actor with store := db } } }

/-- One step of the system. -/
def step (s : Site) : SiteLabel → Site
  | .inner l =>
      { s with
        sys := System.step Store.persistence (fun db i => (getFor s.roomID i db).isSome) s.sys l }
  | .leaveFind op i =>
      match s.leaves op, Store.roomByID s.roomID s.db with
      | .idle, .ok r => s.setLeave op (.found i r.hostUserID)
      | _, _ => s
  | .leaveCheck op =>
      match s.leaves op with
      | .found i hostUserID =>
          if (getFor s.roomID i s.db).isSome ∧ hostUserID ≠ i.id then s.setLeave op (.checked i)
          else s.setLeave op .done
      | _ => s
  | .leavePost op =>
      match s.leaves op with
      | .checked i =>
          if s.sys.actor.stopped then s.setLeave op (.posted i)
          else if s.sys.queue.length < capacity then
            { s with sys := s.sys.enqueue (.leave i.id none) }.setLeave op (.posted i)
          else s
      | _ => s
  | .leaveWrite op now =>
      match s.leaves op with
      | .posted i =>
          (s.setDB (Store.endMembership s.roomID i.id i.guest now s.db)).setLeave op .done
      | _ => s
  | .addMember userID now => s.setDB (Store.addMember s.roomID userID now s.db).2
  | .addGuest id g => s.setDB (Store.createGuestSession id g s.db).2

/-- The actor is open and nobody is in yet. -/
def start (a : Actor DB) : Site := ⟨System.start a, fun _ => .idle⟩

end Site

-- ============================================================================
-- The claim on a state, and the steps that break it
-- ============================================================================

/-- The identity has an active membership. -/
def Site.Active (s : Site) (i : Identity) : Prop :=
  Store.isMember s.roomID i.id i.guest s.db = true

instance (s : Site) (i : Identity) : Decidable (s.Active i) :=
  inferInstanceAs (Decidable (_ = true))

/-- A `Service.Leave` of the identity has asked the actor and not written the database
    yet. -/
def Site.Removing (s : Site) (i : Identity) : Prop :=
  ∃ op i', s.leaves op = .posted i' ∧ i'.id = i.id ∧ i'.guest = i.guest

/-- With nothing on the channel, everybody in the room is an active member. -/
def MembersActive (s : Site) : Prop :=
  s.sys.actor.stopped = false → s.sys.queue = [] →
    ∀ id m, s.sys.actor.members.lookup id = some m → s.Active m.identity

/-- The actor lets in a connection whose membership has ended, or is being ended by a
    `Service.Leave` whose request it has handled already. -/
def AdmitsRemoved (s : Site) : SiteLabel → Prop
  | .inner (.turn _) => ∃ c rest, s.sys.queue = .join c :: rest ∧ s.sys.actor.toCore.Admits c ∧
      .leave c.id none ∉ rest ∧ (¬ s.Active c.identity ∨ s.Removing c.identity)
  | _ => False

/-- Whoever is in the room is about to be taken out by a `Leave` on the channel, or is an
    active member that no pending `Service.Leave` will remove. -/
structure Sheltered (s : Site) : Prop where
  owned : Owned s.sys.actor.toCore
  active : s.sys.actor.stopped = false → ∀ id m, s.sys.actor.members.lookup id = some m →
    .leave id none ∈ s.sys.queue ∨ (s.Active m.identity ∧ ¬ s.Removing m.identity)

-- ============================================================================
-- One turn of the actor
-- ============================================================================

/-- No message renames the room. -/
theorem turn_roomID {σ : Type} {P : Persistence σ} {env : Env} {a a' : Actor σ} {m : Msg}
    {r : Reply} (hturn : Turn P env a m a' r) : a'.room.id = a.room.id := by
  cases hturn with
  | joined c s hlive hstatus hroom hback hs =>
      subst hs
      rfl
  | hostReturned c s hlive hroom hhost hstatus hs =>
      subst hs
      simp [Core.enter]
  | hostLeft id client m s hlive hm hclient hhost hstatus hs =>
      subst hs
      rfl
  | tookOver hostID next m candidate s hlive hstatus hhost hchosen hsome hnext hcand hid hm hguest
      hs =>
      subst hs
      rfl
  | command i c a' r hlive hturn =>
      cases hturn with
      | measured p s hm htype hhost hs =>
          subst hs
          rfl
      | host p a' r hp hturn =>
          cases hturn with
          | playbackChanged t s hswitch hs =>
              subst hs
              rfl
          | _ => rfl
      | _ => rfl
  | halted hlive => exact congrArg Room.id (Core.halt_room _)
  | _ => rfl

theorem hostTurn_keepsMembership {env : Env} {a a' : Actor DB} {type : CommandType}
    {p : CommandPayload} {r : Except ActorError (Option PlaybackState)}
    (hturn : HostTurn Store.persistence env a type p a' r) {id : String}
    (hin : id ∈ a'.members) {guest : Bool}
    (h : Store.isMember a.room.id id guest a.store = true) :
    Store.isMember a.room.id id guest a'.store = true := by
  cases hturn with
  | refused e => exact h
  | transferRefused m e store htype hm hguest hP =>
      obtain rfl : (Store.transferHost _ _ _ _ a.store).2 = store := congrArg Prod.snd hP
      exact Store.isMember_transferHost _ _ _ _ h
  | transferred m store htype hm hguest hP =>
      obtain rfl : (Store.transferHost _ _ _ _ a.store).2 = store := congrArg Prod.snd hP
      exact Store.isMember_transferHost _ _ _ _ h
  | kicked m htype hm hhost =>
      have hid : id ≠ p.targetUserID := (Core.mem_remove.mp hin).1
      exact Store.isMember_endMembership (fun hsame => hid hsame.1) h
  | closeFailed e store htype hP =>
      have hfailed : (Except.ok () : Except StoreError Unit) = .error e := congrArg Prod.fst hP
      exact absurd hfailed (by simp)
  | closed store htype hP => exact absurd hin (AList.notMem_empty id)
  | mediaRefused e store htype hid hP =>
      obtain rfl : (Store.setRoomMedia _ _ _ a.store).2 = store := congrArg Prod.snd hP
      exact ((Store.setRoomMedia_sameMembers _ _ _ a.store).isMember ..).trans h
  | mediaSet store htype hid hP =>
      obtain rfl : (Store.setRoomMedia _ _ _ a.store).2 = store := congrArg Prod.snd hP
      have hset := (Store.setRoomMedia_sameMembers a.room.id p.mediaID (env.now 0) a.store).isMember
        a.room.id id guest
      exact ((Store.saveCheckpoint_sameMembers _ _).isMember ..).trans (hset.trans h)
  | playbackRefused t e hswitch => exact h
  | playbackKept t hswitch => exact h
  | playbackChanged t s hswitch hs =>
      exact ((Store.saveCheckpoint_sameMembers _ a.store).isMember ..).trans h

/-- Who is still in the room after a turn keeps the membership it had. -/
theorem turn_keepsMembership {env : Env} {a a' : Actor DB} {m : Msg} {r : Reply}
    (hturn : Turn Store.persistence env a m a' r) {id : String} (hin : id ∈ a'.members)
    {guest : Bool} (h : Store.isMember a.room.id id guest a.store = true) :
    Store.isMember a.room.id id guest a'.store = true := by
  cases hturn with
  | hostReturned c s hlive hroom hhost hstatus hs => exact h
  | hostLeft k client m s hlive hm hclient hhost hstatus hs =>
      exact ((Store.saveCheckpoint_sameMembers _ _).isMember ..).trans h
  | expireIgnored hostID store hstore =>
      rcases hstore with rfl | rfl
      · exact h
      · exact h
  | tookOver hostID next m candidate s hlive hstatus hhost hchosen hsome hnext hcand hid hm hguest
      hs =>
      exact Store.isMember_transferHost _ _ _ _ h
  | command i c a' r hlive hturn =>
      cases hturn with
      | host p a' r hp hturn => exact hostTurn_keepsMembership hturn hin h
      | _ => exact h
  | checkpointed hphase => exact ((Store.saveCheckpoint_sameMembers _ _).isMember ..).trans h
  | reopenFailed e store hstatus hP =>
      obtain rfl : (Store.reopenRoom _ _ a.store).2 = store := congrArg Prod.snd hP
      exact ((Store.reopenRoom_sameMembers _ _ a.store).isMember ..).trans h
  | reopened store hstatus hP =>
      obtain rfl : (Store.reopenRoom _ _ a.store).2 = store := congrArg Prod.snd hP
      exact ((Store.reopenRoom_sameMembers _ _ a.store).isMember ..).trans h
  | renameFailed title e store hP =>
      have hfailed : (Except.ok () : Except StoreError Unit) = .error e := congrArg Prod.fst hP
      exact absurd hfailed (by simp)
  | renamed title store hP =>
      obtain rfl : (Store.updateRoomTitle _ _ _ a.store).2 = store := congrArg Prod.snd hP
      exact h
  | halted hlive => exact ((Store.saveCheckpoint_sameMembers _ _).isMember ..).trans h
  | _ => exact h

-- ============================================================================
-- The invariant
-- ============================================================================

/-- A `Service.Leave` that moves to another stage than `posted` removes nobody new. -/
theorem removing_of_setLeave {s : Site} {op : Nat} {x : LeaveCall} (hx : ∀ i, x ≠ .posted i)
    {i : Identity} (h : (s.setLeave op x).Removing i) : s.Removing i := by
  obtain ⟨op', i', hop, hsame⟩ := h
  refine ⟨op', i', ?_, hsame⟩
  by_cases heq : op' = op
  · subst heq
    have hself : (s.setLeave op' x).leaves op' = x := Function.update_self ..
    exact absurd (hself.symm.trans hop) (hx i')
  · have hother : (s.setLeave op x).leaves op' = s.leaves op' := Function.update_of_ne heq ..
    exact hother.symm.trans hop

theorem Sheltered.setLeave {s : Site} (hs : Sheltered s) (op : Nat) {x : LeaveCall}
    (hx : ∀ i, x ≠ .posted i) : Sheltered (s.setLeave op x) := by
  refine ⟨hs.owned, ?_⟩
  intro hlive id m hm
  rcases hs.active hlive id m hm with hleave | ⟨hactive, hsafe⟩
  · exact Or.inl hleave
  · exact Or.inr ⟨hactive, fun h => hsafe (removing_of_setLeave hx h)⟩

/-- The database changes, for the members that are safe from `Service.Leave` not for the
    worse. -/
theorem Sheltered.setDB {s : Site} (hs : Sheltered s) {db : DB}
    (hdb : ∀ i : Identity, ¬ s.Removing i → Store.isMember s.roomID i.id i.guest s.db = true →
      Store.isMember s.roomID i.id i.guest db = true) : Sheltered (s.setDB db) := by
  refine ⟨hs.owned, ?_⟩
  intro hlive id m hm
  rcases hs.active hlive id m hm with hleave | ⟨hactive, hsafe⟩
  · exact Or.inl hleave
  · exact Or.inr ⟨hdb m.identity hsafe hactive, hsafe⟩

/-- A step of the inner system that is no turn. -/
theorem Sheltered.inner {s : Site} (hs : Sheltered s) {sys : System DB}
    (hactor : sys.actor = s.sys.actor) (hqueue : ∀ m ∈ s.sys.queue, m ∈ sys.queue) :
    Sheltered { s with sys := sys } := by
  obtain ⟨actor, queue, conns⟩ := sys
  obtain rfl : actor = s.sys.actor := hactor
  refine ⟨hs.owned, ?_⟩
  intro hlive id m hm
  rcases hs.active hlive id m hm with hleave | hsafe
  · exact Or.inl (hqueue _ hleave)
  · exact Or.inr hsafe

/-- `Service.Leave` asks the actor. -/
theorem Sheltered.post {s : Site} (hs : Sheltered s) (op : Nat) (i : Identity) :
    Sheltered ({ s with sys := s.sys.enqueue (.leave i.id none) }.setLeave op (.posted i)) := by
  refine ⟨hs.owned, ?_⟩
  intro hlive id m hm
  by_cases hid : i.id = id
  · subst hid
    exact Or.inl (List.mem_append_right _ (List.mem_singleton.mpr rfl))
  rcases hs.active hlive id m hm with hleave | ⟨hactive, hsafe⟩
  · exact Or.inl (List.mem_append_left _ hleave)
  · refine Or.inr ⟨hactive, ?_⟩
    rintro ⟨op', i', hop, hsame, hguest⟩
    by_cases heq : op' = op
    · subst heq
      have hself : Function.update s.leaves op' (.posted i) op' = .posted i :=
        Function.update_self ..
      obtain rfl := LeaveCall.posted.inj (hself.symm.trans hop)
      obtain ⟨hown, hidentity⟩ := hs.owned id m hm
      rw [hidentity] at hsame
      exact hid (hsame.trans hown)
    · have hother : Function.update s.leaves op (.posted i) op' = s.leaves op' :=
        Function.update_of_ne heq ..
      exact hsafe ⟨op', i', hother.symm.trans hop, hsame, hguest⟩

/-- The actor handles a message. -/
theorem Sheltered.takeTurn {s : Site} (hs : Sheltered s) (env : Env)
    (hok : ¬ AdmitsRemoved s (.inner (.turn env))) :
    Sheltered { s with sys := s.sys.takeTurn Store.persistence env } := by
  rw [System.takeTurn]
  split
  · exact hs
  rename_i m rest hqueue
  split
  · exact hs
  rename_i hlive
  have hlive : s.sys.actor.stopped = false := Bool.not_eq_true _ ▸ hlive
  have hturn := turn Store.persistence env s.sys.actor m
  dsimp only
  generalize (s.sys.actor.process Store.persistence env m).1 = a' at hturn ⊢
  generalize (s.sys.actor.process Store.persistence env m).2 = r at hturn ⊢
  refine ⟨?_, ?_⟩
  · show Owned (System.answer _ _ _).actor.toCore
    rw [System.answer_actor]
    exact owned_turn hlive hturn hs.owned
  · intro _ id e he
    dsimp only at he ⊢
    rw [System.answer_actor] at he
    rw [System.answer_queue]
    -- an identity under `id` keeps its membership, since `id` is still in the room
    have hkeep : ∀ i : Identity, i.id = id → s.Active i →
        Site.Active { s with sys := System.answer m r ⟨a', rest, s.sys.conns⟩ } i := by
      intro i hi hactive
      rw [Site.Active, Site.roomID, Site.db]
      dsimp only
      rw [System.answer_actor]
      dsimp only
      rw [turn_roomID hturn]
      subst hi
      exact turn_keepsMembership hturn (AList.mem_of_lookup he) hactive
    cases entryOrigin hlive hturn he with
    | joined c hm hr hid hclient hidentity =>
        subst hm
        subst hr
        by_cases hleave : .leave c.id none ∈ rest
        · exact Or.inl (hid ▸ hleave)
        · have hclean : ¬(¬ s.Active c.identity ∨ s.Removing c.identity) := fun hbad =>
            hok ⟨c, rest, hqueue, admits_of_joined hturn, hleave, hbad⟩
          have hactive : s.Active c.identity := not_not.mp (fun h => hclean (Or.inl h))
          rw [hidentity]
          exact Or.inr ⟨hkeep c.identity hid hactive, fun h => hclean (Or.inr h)⟩
    | kept e₀ hold hclient hidentity hstay =>
        rcases hs.active hlive id e₀ hold with hleave | ⟨hactive, hsafe⟩
        · rw [hqueue] at hleave
          rcases List.mem_cons.mp hleave with hm | hin
          · exact absurd rfl (hstay none hm.symm).1
          · exact Or.inl hin
        · obtain ⟨hown, howner⟩ := hs.owned id e₀ hold
          have hid : e₀.identity.id = id := by
            rw [howner]
            exact hown
          rw [hidentity]
          exact Or.inr ⟨hkeep e₀.identity hid hactive, hsafe⟩

/-- **Step lemma.** -/
theorem sheltered_step (s : Site) (l : SiteLabel) (hs : Sheltered s)
    (hok : ¬ AdmitsRemoved s l) : Sheltered (s.step l) := by
  cases l with
  | inner l =>
      by_cases hl : ∃ env, l = .turn env
      · obtain ⟨env, rfl⟩ := hl
        exact hs.takeTurn env hok
      · obtain ⟨hactor, hqueue⟩ := System.step_frame Store.persistence
          (fun db i => (getFor s.roomID i db).isSome) s.sys l (fun env heq => hl ⟨env, heq⟩)
        exact hs.inner hactor hqueue
  | leaveFind op i =>
      unfold Site.step
      dsimp only
      split
      · exact hs.setLeave op (fun i heq => LeaveCall.noConfusion heq)
      · exact hs
  | leaveCheck op =>
      unfold Site.step
      dsimp only
      split
      · split
        · exact hs.setLeave op (fun i heq => LeaveCall.noConfusion heq)
        · exact hs.setLeave op (fun i heq => LeaveCall.noConfusion heq)
      · exact hs
  | leavePost op =>
      unfold Site.step
      dsimp only
      split
      · rename_i i hop
        split
        · rename_i hstopped
          refine ⟨hs.owned, fun hlive => ?_⟩
          have hlive' : s.sys.actor.stopped = false := hlive
          rw [hlive'] at hstopped
          exact Bool.noConfusion hstopped
        · split
          · exact hs.post op i
          · exact hs
      · exact hs
  | leaveWrite op now =>
      unfold Site.step
      dsimp only
      split
      · rename_i i hop
        have hwritten : Sheltered (s.setDB
            (Store.endMembership s.roomID i.id i.guest now s.db)) := by
          refine hs.setDB (fun i' hsafe hactive => ?_)
          refine Store.isMember_endMembership ?_ hactive
          rintro ⟨hid, hguest⟩
          exact hsafe ⟨op, i, hop, hid.symm, hguest.symm⟩
        exact hwritten.setLeave op (fun i heq => LeaveCall.noConfusion heq)
      · exact hs
  | addMember userID now => exact hs.setDB (fun _ _ hactive => Store.isMember_addMember hactive)
  | addGuest id g => exact hs.setDB (fun _ _ hactive => Store.isMember_createGuestSession hactive)

-- ============================================================================
-- Every run
-- ============================================================================

theorem sheltered_start {a : Actor DB} (hempty : a.members = ∅) : Sheltered (Site.start a) := by
  have hnobody := AList.lookup_ne_of_empty hempty
  exact ⟨fun id m hm => absurd hm (hnobody id m), fun _ id m hm => absurd hm (hnobody id m)⟩

/-- **Removed people stay out.**  In every run in which the actor lets no removed
    connection in, everybody in the room is an active member whenever the channel is
    empty. -/
theorem members_active (a : Actor DB) (hempty : a.members = ∅) (ls : List SiteLabel)
    (hok : EachStep Site.step (fun s l => ¬ AdmitsRemoved s l) (Site.start a) ls) :
    MembersActive (run Site.step (Site.start a) ls) := by
  have hsheltered := run_invariant sheltered_step (sheltered_start hempty) hok
  intro hlive hdrained id m hm
  rcases hsheltered.active hlive id m hm with hleave | ⟨hactive, -⟩
  · rw [hdrained] at hleave
    exact absurd hleave (List.not_mem_nil)
  · exact hactive

/-- The connection that asks to be let in. -/
def joining : Msg → Option Client
  | .join c => some c
  | _ => none

/-- The room of `h` and `u`, before anybody has connected. -/
def smallSite : Site := Site.start (newActor (smallRoom "h") none smallDB 60)

/-- The steps by which the connection `c` enters the room after its check. -/
def enterSteps (c : Client) : List SiteLabel :=
  [.inner (.start c), .inner (.submit c), .inner (.turn (Env.at 1)), .inner (.receive c)]

/-- The steps by which it goes. -/
def hangUpSteps (c : Client) : List SiteLabel :=
  [.inner (.hangUp c), .inner (.leave c), .inner (.turn (Env.at 2))]

/-- The connection of the first tab of `u`. -/
def firstTab : Client := userClient 1 "u"

/-- The connection of the second tab of `u`. -/
def secondTab : Client := userClient 2 "u"

/-- The actor's next message lets in nobody without an active membership, and no `Service.Leave`
    begins. -/
def Orderly (s : Site) : SiteLabel → Prop
  | .leaveFind .. => False
  | _ => ∀ c ∈ s.sys.queue.head?.bind joining, s.Active c.identity

instance (s : Site) : (l : SiteLabel) → Decidable (Orderly s l)
  | .leaveFind .. => isFalse id
  | .inner _ | .leaveCheck _ | .leavePost _ | .leaveWrite .. | .addMember .. | .addGuest .. =>
      inferInstanceAs (Decidable (∀ c ∈ _, _))

theorem idle_step (s : Site) (l : SiteLabel) (h : ∀ op, s.leaves op = .idle) (hl : Orderly s l) :
    ∀ op, (s.step l).leaves op = .idle := by
  cases l with
  | leaveFind op i => exact hl.elim
  | leaveCheck op | leavePost op | leaveWrite op now =>
      rw [Site.step, h op]
      exact h
  | inner l | addMember userID now | addGuest id g => exact h

theorem not_admitsRemoved_of_orderly (s : Site) (l : SiteLabel) (h : ∀ op, s.leaves op = .idle)
    (hl : Orderly s l) : ¬AdmitsRemoved s l := by
  intro hbad
  cases l with
  | inner l =>
      cases l with
      | turn env =>
          obtain ⟨c, rest, hqueue, -, -, hgone | ⟨op, i', hop, -⟩⟩ := hbad
          · refine hgone (hl c ?_)
            rw [hqueue]
            rfl
          · exact LeaveCall.noConfusion ((h op).symm.trans hop)
      | _ => exact hbad
  | _ => exact hbad

/-- `u` enters the room and is kicked, is invited again, and comes back in another tab. -/
def returnRun : List SiteLabel :=
  .inner (.check firstTab) :: enterSteps firstTab ++
  [.inner (.post (.command (user "h") (hostCommand .roomKick "u" 0 ""))),
   .inner (.turn (Env.at 3))] ++
  hangUpSteps firstTab ++
  [.addMember "u" 4, .inner (.check secondTab)] ++ enterSteps secondTab

theorem members_active_visit :
    ¬(run Site.step smallSite (returnRun.take 7)).Active (user "u") ∧
      (run Site.step smallSite returnRun).Active (user "u") := by
  refine ⟨by decide, ?_⟩
  have horderly : EachStep Site.step Orderly smallSite returnRun := by decide
  exact members_active (newActor (smallRoom "h") none smallDB 60) rfl returnRun
    (eachStep_of_invariant idle_step not_admitsRemoved_of_orderly (fun _ => rfl) horderly)
    (by decide) (by decide) "u" ⟨user "u", secondTab, 1, false⟩ (by decide)

/-- The second tab of `u` passes its check, `u` is kicked, and the second tab joins. -/
def kickRun : List SiteLabel :=
  .inner (.check firstTab) :: enterSteps firstTab ++
  [.inner (.check secondTab),
   .inner (.post (.command (user "h") (hostCommand .roomKick "u" 0 ""))),
   .inner (.turn (Env.at 3))] ++
  enterSteps secondTab ++ hangUpSteps firstTab

/-- `Service.Leave` takes `u` out of the actor, the second tab passes its check and joins,
    and `Service.Leave` writes the database. -/
def leaveRun : List SiteLabel :=
  .inner (.check firstTab) :: enterSteps firstTab ++
  [.leaveFind 0 (user "u"), .leaveCheck 0, .leavePost 0, .inner (.turn (Env.at 3)),
   .inner (.check secondTab)] ++
  enterSteps secondTab ++ [.leaveWrite 0 5] ++ hangUpSteps firstTab

/-- Both leave `u` in the room without a membership, with nothing in flight. -/
theorem removed_come_back :
    ¬ MembersActive (run Site.step smallSite kickRun) ∧
    ¬ MembersActive (run Site.step smallSite leaveRun) := by
  refine ⟨fun h => ?_, fun h => ?_⟩
  · have hactive := h (by decide) (by decide) "u" ⟨user "u", secondTab, 1, false⟩ (by decide)
    exact absurd hactive (by decide)
  · have hactive := h (by decide) (by decide) "u" ⟨user "u", secondTab, 1, false⟩ (by decide)
    exact absurd hactive (by decide)

end WatchTogether.Realtime

/-
  WatchTogether.Rooms.Persisted

  The actor's memory against the row of its room.

  The actor runs over the database of `Repository.Store`, which it shares with the
  goroutines of the other requests.  Each store call of a handler lets the next batch
  of their writes in first, so a handler's calls are interleaved with them in every
  way.  None of these writes is to `rooms`; they matter because `TransferHost` asks
  for an active membership of the new host.
-/

import WatchTogether.Repository.Store
import WatchTogether.Rooms.Turn

namespace WatchTogether.Rooms

open LabelledRun Repository

-- ============================================================================
-- The shared database
-- ============================================================================

/-- What other goroutines write while an actor of a room is running. -/
inductive StoreWrite where
  | addMember (roomID userID : String) (now : Int64)
  | leaveMember (roomID userID : String) (now : Int64)
  | createGuestSession (id : String) (g : GuestRow)
  | deleteGuestSession (roomID id : String)
  | softDeleteMedia (id owner : String) (now : Int64)
  | setMediaDeleteStatus (id : String) (status : MediaStatus) (now : Int64)

/-- The tables after the write. -/
def StoreWrite.perform (db : DB) : StoreWrite → DB
  | .addMember roomID userID now => (Store.addMember roomID userID now db).2
  | .leaveMember roomID userID now => (Store.leaveMember roomID userID now db).2
  | .createGuestSession id g => (Store.createGuestSession id g db).2
  | .deleteGuestSession roomID id => (Store.deleteGuestSession roomID id db).2
  | .softDeleteMedia id owner now => (Store.softDeleteMedia id owner now db).2
  | .setMediaDeleteStatus id status now => (Store.setMediaDeleteStatus id status now db).2

/-- The database, and for each coming call of the actor the writes that get in
    before it. -/
structure Shared where
  db : DB
  pending : List (List StoreWrite)

namespace Shared

/-- Other goroutines write before the next call. -/
def yield (s : Shared) : Shared :=
  match s.pending with
  | [] => s
  | ws :: rest => ⟨ws.foldl StoreWrite.perform s.db, rest⟩

/-- The handler is done, and so are the writes it did not wait for. -/
def flush (s : Shared) : Shared := ⟨s.pending.flatten.foldl StoreWrite.perform s.db, []⟩

/-- One store call of the actor. -/
def call {ρ : Type} (f : DB → ρ × DB) (s : Shared) : ρ × Shared :=
  ((f s.yield.db).1, { s.yield with db := (f s.yield.db).2 })

/-- The store calls of the actor over the shared tables. -/
def persistence : Persistence Shared where
  saveCheckpoint cp := call (Store.saveCheckpoint cp)
  members roomID := call (Store.persistence.members roomID)
  transferHost roomID old new now := call (Store.transferHost roomID old new now)
  closeRoom roomID now := call (Store.closeRoom roomID now)
  reopenRoom roomID now := call (Store.reopenRoom roomID now)
  leaveMember roomID id now := call (Store.leaveMember roomID id now)
  setRoomMedia roomID id now := call (Store.setRoomMedia roomID id now)
  updateMediaMetadata id d w h now := call (Store.updateMediaMetadata id d w h now)
  deleteGuestSession roomID id := call (Store.deleteGuestSession roomID id)
  updateRoomStatus roomID status now := call (Store.updateRoomStatus roomID status now)
  updateRoomTitle roomID title now := call (Store.updateRoomTitle roomID title now)

/-! ## Nobody else writes to `rooms` -/

theorem perform_rooms (db : DB) (w : StoreWrite) : (w.perform db).rooms = db.rooms := by
  cases w with
  | addMember roomID userID now =>
      show (Store.addMember roomID userID now db).2.rooms = db.rooms
      rw [Store.addMember]
      split <;> rfl
  | leaveMember roomID userID now => rfl
  | createGuestSession id g =>
      show (Store.createGuestSession id g db).2.rooms = db.rooms
      rw [Store.createGuestSession]
      split
      · rfl
      · split <;> rfl
  | deleteGuestSession roomID id => rfl
  | softDeleteMedia id owner now =>
      show (Store.softDeleteMedia id owner now db).2.rooms = db.rooms
      unfold Store.softDeleteMedia
      dsimp only
      split <;> rfl
  | setMediaDeleteStatus id status now => rfl

theorem foldl_perform_rooms (db : DB) (ws : List StoreWrite) :
    (ws.foldl StoreWrite.perform db).rooms = db.rooms := by
  induction ws generalizing db with
  | nil => rfl
  | cons w ws ih => rw [List.foldl_cons, ih, perform_rooms]

@[simp] theorem yield_rooms (s : Shared) : s.yield.db.rooms = s.db.rooms := by
  rw [yield]
  split
  · rfl
  · exact foldl_perform_rooms _ _

@[simp] theorem flush_rooms (s : Shared) : s.flush.db.rooms = s.db.rooms :=
  foldl_perform_rooms _ _

end Shared

-- ============================================================================
-- Agreement
-- ============================================================================

/-- The columns of a room that the actor keeps in memory. -/
structure RoomColumns where
  hostUserID : String
  status : RoomStatus
  title : String
  mediaID : Option String
deriving DecidableEq

/-- These columns of a room. -/
def roomColumns (r : Room) : RoomColumns := ⟨r.hostUserID, r.status, r.title, r.mediaID⟩

/-- The room's row holds what the actor believes. -/
def Agrees (room : Room) (db : DB) : Prop :=
  (db.rooms.lookup room.id).map roomColumns = some (roomColumns room)

instance (room : Room) (db : DB) : Decidable (Agrees room db) :=
  inferInstanceAs (Decidable (_ = _))

theorem agrees_iff {room : Room} {db : DB} :
    Agrees room db ↔ ∃ r, db.rooms.lookup room.id = some r ∧ r.hostUserID = room.hostUserID ∧
      r.status = room.status ∧ r.title = room.title ∧ r.mediaID = room.mediaID := by
  rw [Agrees]
  rw [Option.map_eq_some_iff]
  simp [roomColumns]

theorem Agrees.congr {room : Room} {db db' : DB} (h : Agrees room db)
    (hrooms : db'.rooms = db.rooms) : Agrees room db' := by
  rw [Agrees] at h ⊢
  rw [hrooms]
  exact h

/-- A statement and a branch that write the same columns. -/
theorem Agrees.update {room room' : Room} {db db' : DB} (g : Room → Room) (h : Agrees room db)
    (hid : room'.id = room.id) (hrooms : db'.rooms = db.rooms.update room.id g)
    (hcolumns : ∀ r, r.hostUserID = room.hostUserID → r.status = room.status →
      r.title = room.title → r.mediaID = room.mediaID →
      roomColumns (g r) = roomColumns room') :
    Agrees room' db' := by
  obtain ⟨r, hr, hhost, hstatus, htitle, hmedia⟩ := agrees_iff.mp h
  rw [Agrees]
  rw [hid, hrooms, AList.lookup_update_self, hr]
  exact congrArg some (hcolumns r hhost hstatus htitle hmedia)

-- ============================================================================
-- Runs over the shared database
-- ============================================================================

/-- `Registry.Get` of a room that has no actor yet. -/
def openRoom (db : DB) (id : String) (grace : Nat) : Except StoreError (Actor Shared) :=
  match Store.roomByID id db with
  | .error e => .error e
  | .ok room => .ok (newActor room (db.checkpoints.lookup id) ⟨db, []⟩ grace)

/-- A message, the answers of the outside, and the writes that get in between the store
    calls of its handler. -/
structure Served where
  env : Env
  msg : Msg
  writes : List (List StoreWrite)

namespace Actor

/-- The writes of other goroutines before the coming calls. -/
def load (writes : List (List StoreWrite)) (a : Actor Shared) : Actor Shared :=
  { a with store := { a.store with pending := writes } }

/-- A message is processed, and the other goroutines have caught up. -/
def serve (a : Actor Shared) (l : Served) : Actor Shared :=
  let a := ((a.load l.writes).process Shared.persistence l.env l.msg).1
  { a with store := a.store.flush }

end Actor

/-- The handler of `m` asks `TransferHost` for a host who is an active member, while the
    room is not open. -/
def TransfersUnopened (a : Actor Shared) (m : Msg) : Prop :=
  ∃ i c p target, m = .command i c ∧ a.toCore.authorised i c = some p ∧
    c.type = .roomTransferHost ∧ a.members.lookup p.targetUserID = some target ∧
    target.identity.guest = false ∧ a.room.status ≠ .OPEN ∧
    a.store.yield.db.activeMember a.room.id p.targetUserID = true

/-- The takeover falls to a member who has left by the time of `TransferHost`. -/
def TakeoverRefused (a : Actor Shared) (m : Msg) : Prop :=
  ∃ hostID next, m = .expireHost hostID ∧ a.room.status = .HOST_DISCONNECTED ∧
    a.room.hostUserID = hostID ∧
    next = Actor.nextHost a.members hostID (Store.members a.room.id a.store.yield.db) ∧
    next ≠ "" ∧ a.store.yield.yield.db.activeMember a.room.id next = false

/-- The steps after which memory and row part. -/
def Diverges (a : Actor Shared) (l : Served) : Prop :=
  a.stopped = false ∧
    (TransfersUnopened (a.load l.writes) l.msg ∨ TakeoverRefused (a.load l.writes) l.msg)

/-! ## One turn -/

theorem Shared.call_eq {ρ : Type} {f : DB → ρ × DB} {s s' : Shared} {x : ρ}
    (h : Shared.call f s = (x, s')) : f s.yield.db = (x, s'.db) := by
  obtain ⟨hres, rfl⟩ := Prod.mk.inj h
  exact Prod.ext hres rfl

/-- A call that leaves `rooms` alone, or rewrites the row as it would without the other
    goroutines. -/
theorem Shared.call_rooms {ρ : Type} {f : DB → ρ × DB} (s : Shared)
    (g : KeyedTable String Room → KeyedTable String Room)
    (hf : ∀ db, (f db).2.rooms = g db.rooms) : (Shared.call f s).2.db.rooms = g s.db.rooms := by
  show (f s.yield.db).2.rooms = g s.db.rooms
  rw [hf, Shared.yield_rooms]

theorem saveCheckpoint_rooms (cp : Checkpoint) (s : Shared) :
    (Shared.persistence.saveCheckpoint cp s).2.db.rooms = s.db.rooms :=
  s.call_rooms id (Store.saveCheckpoint_rooms cp)

theorem updateRoomStatus_rooms (roomID : String) (status : RoomStatus) (now : Int64) (s : Shared) :
    (Shared.persistence.updateRoomStatus roomID status now s).2.db.rooms
      = s.db.rooms.update roomID (fun r => { r with status := status, updatedAtMs := now }) :=
  s.call_rooms _ (fun _ => rfl)

theorem agrees_hostTurn {env : Env} {a a' : Actor Shared} {type : CommandType}
    {p : CommandPayload} {r : Except ActorError (Option PlaybackState)}
    (hturn : HostTurn Shared.persistence env a type p a' r) (h : Agrees a.room a.store.db)
    (hopen : ∀ target, type = .roomTransferHost → a.members.lookup p.targetUserID = some target →
      target.identity.guest = false →
      a.store.yield.db.activeMember a.room.id p.targetUserID = true → a.room.status = .OPEN) :
    Agrees a'.room a'.store.db := by
  cases hturn with
  | refused e => exact h
  | transferRefused m e store htype hm hguest hP =>
      have hdb := Store.transferHost_error (Shared.call_eq hP)
      exact h.congr (by rw [hdb, Shared.yield_rooms])
  | transferred m store htype hm hguest hP =>
      have hcall := Shared.call_eq hP
      have hactive := Store.transferHost_ok hcall
      have hrooms := Store.transferHost_rooms hactive a.room.hostUserID (env.now 0)
      rw [hcall, Shared.yield_rooms] at hrooms
      have hstatus : a.room.status = .OPEN := hopen m htype hm hguest hactive
      refine h.update _ rfl hrooms ?_
      intro row hhost _ htitle hmedia
      rw [if_pos hhost]
      simp [roomColumns, Core.setHost, hstatus, htitle, hmedia]
  | kicked m htype hm hhost =>
      refine h.congr ?_
      dsimp only
      split
      · exact a.store.call_rooms id (fun db => rfl)
      · exact a.store.call_rooms id (fun db => rfl)
  | closeFailed e store htype hP =>
      have hcall : Store.closeRoom a.room.id (env.now 0) a.store.yield.db = (.error e, store.db) :=
        Shared.call_eq hP
      exact absurd (congrArg Prod.fst hcall) (by simp [Store.closeRoom])
  | closed store htype hP =>
      have hcall : Store.closeRoom a.room.id (env.now 0) a.store.yield.db = (.ok (), store.db) :=
        Shared.call_eq hP
      obtain ⟨-, hdb⟩ := Prod.mk.inj hcall
      refine h.update _ rfl (by rw [← a.store.yield_rooms, ← hdb]) ?_
      intro row hhost _ htitle hmedia
      simp [roomColumns, Core.setStatus, Core.empty, hhost, htitle, hmedia]
  | mediaRefused e store htype hid hP =>
      have hdb := Store.setRoomMedia_error (Shared.call_eq hP)
      exact h.congr (by rw [hdb, Shared.yield_rooms])
  | mediaSet store htype hid hP =>
      have hrooms := Store.setRoomMedia_ok (Shared.call_eq hP)
      rw [Shared.yield_rooms] at hrooms
      refine h.update _ rfl ((saveCheckpoint_rooms _ _).trans hrooms) ?_
      intro row hhost hstatus htitle _
      simp [roomColumns, Core.withMedia, hhost, hstatus, htitle]
  | playbackRefused t e hswitch => exact h
  | playbackKept t hswitch => exact h
  | playbackChanged t s hswitch hs =>
      subst hs
      exact h.congr (saveCheckpoint_rooms _ _)

theorem agrees_commandTurn {env : Env} {a a' : Actor Shared} {i : Identity} {c : Command}
    {r : Except ActorError (Option PlaybackState)}
    (hturn : CommandTurn Shared.persistence env a i c a' r) (h : Agrees a.room a.store.db)
    (hopen : ¬ TransfersUnopened a (.command i c)) : Agrees a'.room a'.store.db := by
  cases hturn with
  | refused e => exact h
  | ignored hm htype => exact h
  | readied p hm htype => exact h
  | measured p s hm htype hhost hs =>
      subst hs
      exact h.congr (a.store.call_rooms id (fun db => rfl))
  | host p a' r hp hturn =>
      refine agrees_hostTurn hturn h ?_
      intro target htype hm hguest hactive
      by_contra hstatus
      exact hopen ⟨i, c, p, target, rfl, hp, htype, hm, hguest, hstatus, hactive⟩

/-- A turn that does not diverge takes the row along. -/
theorem agrees_turn {env : Env} {a a' : Actor Shared} {m : Msg} {r : Reply}
    (hturn : Turn Shared.persistence env a m a' r) (h : Agrees a.room a.store.db)
    (hok : ¬(a.stopped = false ∧ (TransfersUnopened a m ∨ TakeoverRefused a m))) :
    Agrees a'.room a'.store.db := by
  cases hturn with
  | stopped m hstopped => exact h
  | joinRefused c e href => exact h
  | joined c s hlive hstatus hroom hback hs =>
      subst hs
      exact h
  | hostReturned c s hlive hroom hhost hstatus hs =>
      subst hs
      refine h.update _ (by simp [Core.enter]) (updateRoomStatus_rooms ..) ?_
      intro row hhost _ htitle hmedia
      simp [roomColumns, Core.enter, hhost, htitle, hmedia]
  | leaveIgnored id client hign => exact h
  | left id client m hlive hm hclient hhost => exact h
  | hostLeft id client m s hlive hm hclient hhost hstatus hs =>
      subst hs
      refine h.update _ rfl ((saveCheckpoint_rooms ..).trans (updateRoomStatus_rooms ..)) ?_
      intro row hhost _ htitle hmedia
      simp [roomColumns, Core.remove, Core.hostAway, Core.armHostTimer, hhost, htitle, hmedia]
  | expireIgnored hostID store hstore =>
      rcases hstore with rfl | rfl
      · exact h
      · exact h.congr (a.store.call_rooms id (fun db => rfl))
  | tookOver hostID next m candidate s hlive hstatus hhost hchosen hsome hnext
      hcand hid hm hguest hs =>
      subst hs
      have hactive : a.store.yield.yield.db.activeMember a.room.id next = true := by
        by_contra hleft
        exact hok ⟨hlive, Or.inr ⟨hostID, next, rfl, hstatus, hhost, hchosen, hsome,
          Bool.not_eq_true _ ▸ hleft⟩⟩
      have hrooms := Store.transferHost_rooms hactive a.room.hostUserID (env.now 0)
      rw [Shared.yield_rooms, Shared.yield_rooms] at hrooms
      refine h.update _ rfl hrooms ?_
      intro row hrow _ htitle hmedia
      rw [if_pos hrow]
      simp [roomColumns, Core.setHost, Core.setStatus, htitle, hmedia]
  | command i c a' r hlive hturn =>
      exact agrees_commandTurn hturn h (fun hbad => hok ⟨hlive, Or.inl hbad⟩)
  | snapshot => exact h
  | readied id ready => exact h
  | relayed e => exact h
  | checkpointSkipped hphase => exact h
  | checkpointed hphase => exact h.congr (saveCheckpoint_rooms _ _)
  | reopenIgnored hstatus => exact h
  | reopenFailed e store hstatus hP =>
      have hdb := Store.reopenRoom_error (Shared.call_eq hP)
      exact h.congr (by rw [hdb, Shared.yield_rooms])
  | reopened store hstatus hP =>
      have hrooms := Store.reopenRoom_ok (Shared.call_eq hP)
      rw [Shared.yield_rooms] at hrooms
      refine h.update _ rfl hrooms ?_
      intro row hhost _ htitle hmedia
      simp [roomColumns, Core.reopened, hhost, htitle, hmedia]
  | renameFailed title e store hP =>
      have hcall : Store.updateRoomTitle a.room.id title (env.now 0) a.store.yield.db
          = (.error e, store.db) := Shared.call_eq hP
      exact absurd (congrArg Prod.fst hcall) (by simp [Store.updateRoomTitle])
  | renamed title store hP =>
      have hcall : Store.updateRoomTitle a.room.id title (env.now 0) a.store.yield.db
          = (.ok (), store.db) := Shared.call_eq hP
      obtain ⟨-, hdb⟩ := Prod.mk.inj hcall
      refine h.update _ rfl (by rw [← a.store.yield_rooms, ← hdb]) ?_
      intro row hhost hstatus _ hmedia
      simp [roomColumns, Core.withTitle, hhost, hstatus, hmedia]
  | halted hlive =>
      have hroom : a.halt.room = a.room := Core.halt_room _
      show Agrees a.halt.room _
      rw [hroom]
      exact h.congr (saveCheckpoint_rooms _ _)

/-- The row is open after the transfer and the memory is not. -/
theorem not_agrees_of_transfersUnopened {env : Env} {a : Actor Shared} {m : Msg}
    (hlive : a.stopped = false) (h : Agrees a.room a.store.db) (hbad : TransfersUnopened a m) :
    ¬ Agrees (a.process Shared.persistence env m).1.room
        (a.process Shared.persistence env m).1.store.db := by
  obtain ⟨i, c, p, target, rfl, hp, htype, htarget, hguest, hstatus, hactive⟩ := hbad
  have hcall : Shared.persistence.transferHost a.room.id a.room.hostUserID p.targetUserID
      (env.now 0) a.store = (.ok (), _) :=
    Prod.ext (Store.transferHost_accepts hactive a.room.hostUserID (env.now 0)) rfl
  obtain ⟨hcore, hstore⟩ := process_transferHost hlive hp htype htarget hguest hcall
  have hrooms := Store.transferHost_rooms hactive a.room.hostUserID (env.now 0)
  rw [Shared.yield_rooms] at hrooms
  obtain ⟨row, hrow, hhost, -⟩ := agrees_iff.mp h
  rw [hcore, hstore]
  intro hafter
  obtain ⟨row', hrow', -, hstatus', -⟩ := agrees_iff.mp hafter
  have hlook : (a.store.db.rooms.update a.room.id (fun r =>
      if r.hostUserID = a.room.hostUserID then
        { r with hostUserID := p.targetUserID, status := .OPEN, updatedAtMs := env.now 0 }
      else r)).lookup a.room.id = some row' := hrooms ▸ hrow'
  rw [AList.lookup_update_self, hrow, Option.map_some, if_pos hhost] at hlook
  have hopen : row'.status = .OPEN := by rw [← Option.some.inj hlook]
  exact hstatus (hstatus'.symm.trans hopen)

/-- The memory has the next host and the row the old one. -/
theorem not_agrees_of_takeoverRefused {env : Env} {a : Actor Shared} {m : Msg}
    (hlive : a.stopped = false) (h : Agrees a.room a.store.db) (hbad : TakeoverRefused a m) :
    ¬ Agrees (a.process Shared.persistence env m).1.room
        (a.process Shared.persistence env m).1.store.db := by
  obtain ⟨hostID, next, rfl, hstatus, hhost, hchosen, hsome, hleft⟩ := hbad
  have hnext : next ≠ hostID := by
    obtain ⟨-, -, -, -, hne, -⟩ := nextHost_spec (hchosen ▸ hsome)
    rw [hchosen]
    exact hne
  have hstep : (a.process Shared.persistence env (.expireHost hostID)).1.room
        = { a.room with hostUserID := next, status := .OPEN } ∧
      (a.process Shared.persistence env (.expireHost hostID)).1.store
        = (Shared.persistence.transferHost a.room.id a.room.hostUserID next (env.now 0)
            a.store.yield).2 := by
    rw [Actor.process]
    rw [if_neg (by simp [hlive])]
    dsimp only
    rw [Actor.handleExpireHost]
    rw [if_neg (by simp [hstatus, hhost])]
    have hmembers : (Shared.persistence.members a.room.id a.store)
        = ((Store.members a.room.id a.store.yield.db, none), a.store.yield) := rfl
    rw [hmembers]
    dsimp only
    rw [← hchosen, if_neg hsome]
    exact ⟨rfl, rfl⟩
  have hrooms : (Shared.persistence.transferHost a.room.id a.room.hostUserID next (env.now 0)
      a.store.yield).2.db.rooms = a.store.db.rooms := by
    show (Store.transferHost a.room.id a.room.hostUserID next (env.now 0)
      a.store.yield.yield.db).2.rooms = a.store.db.rooms
    rw [Store.transferHost_refuses hleft, Shared.yield_rooms, Shared.yield_rooms]
  obtain ⟨row, hrow, hrowHost, -⟩ := agrees_iff.mp h
  rw [hstep.1, hstep.2]
  intro hafter
  obtain ⟨row', hrow', hhost', -⟩ := agrees_iff.mp hafter
  rw [hrooms] at hrow'
  have hsame : row = row' := Option.some.inj (hrow.symm.trans hrow')
  have hbacked : next = hostID := by
    rw [← hhost, ← hrowHost, hsame]
    exact hhost'.symm
  exact hnext hbacked

/-- **Step lemma.**  A step from agreement keeps it exactly if it does not diverge. -/
theorem agrees_serve (a : Actor Shared) (l : Served) (h : Agrees a.room a.store.db) :
    Agrees (a.serve l).room (a.serve l).store.db ↔ ¬ Diverges a l := by
  have hloaded : Agrees (a.load l.writes).room (a.load l.writes).store.db := h
  have hflush : Agrees (a.serve l).room (a.serve l).store.db ↔
      Agrees ((a.load l.writes).process Shared.persistence l.env l.msg).1.room
        ((a.load l.writes).process Shared.persistence l.env l.msg).1.store.db := by
    unfold Agrees Actor.serve
    dsimp only
    rw [Shared.flush_rooms]
  rw [hflush]
  constructor
  · rintro hafter ⟨hlive, hbad | hbad⟩
    · exact not_agrees_of_transfersUnopened (a := a.load l.writes) hlive hloaded hbad hafter
    · exact not_agrees_of_takeoverRefused (a := a.load l.writes) hlive hloaded hbad hafter
  · intro hok
    exact agrees_turn (turn Shared.persistence l.env (a.load l.writes) l.msg) hloaded hok

-- ============================================================================
-- Every run
-- ============================================================================

theorem agrees_openRoom {db : DB} {id : String} {grace : Nat} {a : Actor Shared}
    (h : openRoom db id grace = .ok a) : Agrees a.room a.store.db := by
  rw [openRoom, Store.roomByID] at h
  cases hrow : db.rooms.lookup id with
  | none =>
      rw [hrow] at h
      exact absurd h (by simp)
  | some row =>
      rw [hrow] at h
      obtain rfl := Except.ok.inj h
      show (db.rooms.lookup id).map roomColumns = some (roomColumns { row with id := id })
      rw [hrow]
      rfl

/-- **Memory and row.**  In a run of an actor that the registry has opened, memory and row
    agree after every message exactly if no step diverges. -/
theorem memory_agrees_iff {db : DB} {id : String} {grace : Nat} {a : Actor Shared}
    (h : openRoom db id grace = .ok a) (ls : List Served) :
    (∀ pre post, ls = pre ++ post →
      Agrees (run Actor.serve a pre).room (run Actor.serve a pre).store.db) ↔
    EachStep Actor.serve (fun a l => ¬ Diverges a l) a ls :=
  run_invariant_iff (I := fun a : Actor Shared => Agrees a.room a.store.db) agrees_serve
    (agrees_openRoom h)

/-- The room `r` of `h`, with the member `u`. -/
def smallDB : DB where
  users := (∅ : KeyedTable String UserRow).insert "h" ⟨"h"⟩ |>.insert "u" ⟨"u"⟩
  rooms := (∅ : KeyedTable String Room).insert "r" (smallRoom "h")
  roomMembers := (∅ : KeyedTable (String × String) MemberRow).insert ("r", "h") ⟨.HOST, 0, none⟩
    |>.insert ("r", "u") ⟨.MEMBER, 1, none⟩
  guestSessions := ∅
  media := ∅
  checkpoints := ∅

/-- The actor the registry opens for it. -/
def smallActor : Actor Shared := newActor (smallRoom "h") none ⟨smallDB, []⟩ 60

/-- Host and member join, and the host's connection leaves. -/
def hostAwayRun : List Served :=
  [⟨Env.at 1, .join (userClient 1 "h"), []⟩,
   ⟨Env.at 2, .join (userClient 2 "u"), []⟩,
   ⟨Env.at 3, .leave "h" (some (userClient 1 "h")), [[.leaveMember "r" "u" 3]]⟩]

theorem memory_agrees_hostAway :
    Agrees (run Actor.serve smallActor hostAwayRun).room
      (run Actor.serve smallActor hostAwayRun).store.db := by
  have hopen : openRoom smallDB "r" 60 = .ok smallActor := by rfl
  refine (memory_agrees_iff hopen hostAwayRun).mpr ?_ hostAwayRun [] rfl
  have hnot : ∀ (a : Actor Shared) (l : Served), (∀ i c, l.msg ≠ .command i c) →
      (∀ hostID, l.msg ≠ .expireHost hostID) → ¬ Diverges a l := by
    rintro a l hcommand hexpire ⟨-, ⟨i, c, -, -, heq, -⟩ | ⟨hostID, -, heq, -⟩⟩
    · exact hcommand i c heq
    · exact hexpire hostID heq
  rw [hostAwayRun]
  simp only [eachStep_cons]
  refine ⟨hnot _ _ ?_ ?_, hnot _ _ ?_ ?_, hnot _ _ ?_ ?_, eachStep_nil _ _⟩ <;> intros <;>
    simp

/-- The absent host hands the room over: the row is `OPEN`, the memory is not.  And the
    member who is to take over leaves between `Members` and `TransferHost`: the row keeps
    the old host, the memory has the new one. -/
theorem memory_diverges :
    openRoom smallDB "r" 60 = .ok smallActor ∧
    (let a := run Actor.serve smallActor (hostAwayRun.take 2 ++
      [⟨Env.at 3, .leave "h" (some (userClient 1 "h")), []⟩,
       ⟨Env.at 4, .command (user "h") (hostCommand .roomTransferHost "u" 0 ""), []⟩])
     ¬ Agrees a.room a.store.db ∧ a.room.status = .HOST_DISCONNECTED ∧
      (a.store.db.rooms.lookup "r").map (fun r => r.status) = some .OPEN) ∧
    (let a := run Actor.serve smallActor (hostAwayRun.take 2 ++
      [⟨Env.at 3, .leave "h" (some (userClient 1 "h")), []⟩,
       ⟨Env.at 63, .expireHost "h", [[], [.leaveMember "r" "u" 63]]⟩])
     ¬ Agrees a.room a.store.db ∧ a.room.hostUserID = "u" ∧
      (a.store.db.rooms.lookup "r").map (fun r => r.hostUserID) = some "h") :=
  ⟨by rfl, by decide, by decide⟩

end WatchTogether.Rooms

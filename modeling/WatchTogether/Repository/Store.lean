/-
  WatchTogether.Repository.Store

  The tables of the database and the statements that `internal/repository/store.go`
  runs on them for a room.

  The database has one connection (`SetMaxOpenConns(1)`), so a store call, transaction
  or single statement, is one function on the tables: its result and the tables it
  leaves.  A call that fails leaves them as they were.  The errors of a call are the
  ones the statement has by itself, `ErrNotFound` and violated constraints.
-/

import Mathlib.Data.List.Sort
import WatchTogether.Rooms.Actor

namespace WatchTogether.Repository

open Rooms

-- ============================================================================
-- Tables
-- ============================================================================

/-- A row of `users`, under its `id`. -/
structure UserRow where
  nickname : String
deriving DecidableEq

/-- A row of `room_members`, under `(room_id, user_id)`. -/
structure MemberRow where
  role : MemberRole
  joinedAtMs : Int64
  leftAtMs : Option Int64
deriving DecidableEq

/-- A row of `guest_sessions`, under its `id`. -/
structure GuestRow where
  roomID : String
  nickname : String
  tokenHash : String
  csrfHash : String
  expiresAtMs : Int64
  createdAtMs : Int64
deriving DecidableEq

/-- `media.status`. -/
inductive MediaStatus where
  | UPLOADING
  | READY
  | FAILED
  | DELETING
  | DELETE_FAILED
  | DELETED
deriving DecidableEq, Repr

/-- A row of `media`, under its `id`. -/
structure MediaRow where
  ownerUserID : String
  durationMs : Option Int64
  videoWidth : Option Int
  videoHeight : Option Int
  status : MediaStatus
  updatedAtMs : Int64
  deletedAtMs : Option Int64
deriving DecidableEq

/-- The tables that the rooms read and write. -/
structure DB where
  users : KeyedTable String UserRow
  rooms : KeyedTable String Room
  roomMembers : KeyedTable (String × String) MemberRow
  guestSessions : KeyedTable String GuestRow
  media : KeyedTable String MediaRow
  checkpoints : KeyedTable String Checkpoint
deriving DecidableEq

/-- A row refers to one that is not there. -/
def foreignKeyFailed : StoreError := .failed "FOREIGN KEY constraint failed"

/-- A row with this key is there. -/
def uniqueFailed : StoreError := .failed "UNIQUE constraint failed"

/-- The user has a `room_members` row with `left_at_ms IS NULL`. -/
def DB.activeMember (db : DB) (roomID userID : String) : Bool :=
  (db.roomMembers.lookup (roomID, userID)).any (fun m => m.leftAtMs.isNone)

/-- The guest has a `guest_sessions` row of the room. -/
def DB.guestOf (db : DB) (roomID id : String) : Bool :=
  (db.guestSessions.lookup id).any (fun g => decide (g.roomID = roomID))

namespace Store

-- ============================================================================
-- Rooms
-- ============================================================================

/-- `RoomByID`. -/
def roomByID (id : String) (db : DB) : Except StoreError Room :=
  match db.rooms.lookup id with
  | some r => .ok { r with id := id }
  | none => .error .notFound

/-- `TransferHost`.  The update of `rooms` asks for the old host, and finding no such
    row is no error. -/
def transferHost (roomID oldID newID : String) (now : Int64) (db : DB) :
    Except StoreError Unit × DB :=
  if db.activeMember roomID newID then
    let members := db.roomMembers.update (roomID, newID) (fun m => { m with role := .HOST })
    let members := members.update (roomID, oldID) (fun m => { m with role := .MEMBER })
    let rooms := db.rooms.update roomID (fun r =>
      if r.hostUserID = oldID then
        { r with hostUserID := newID, status := .OPEN, updatedAtMs := now }
      else r)
    (.ok (), { db with roomMembers := members, rooms := rooms })
  else (.error .notFound, db)

/-- `CloseRoom`. -/
def closeRoom (roomID : String) (now : Int64) (db : DB) : Except StoreError Unit × DB :=
  (.ok (),
    { db with
      rooms := db.rooms.update roomID (fun r =>
        { r with status := .CLOSED, closedAtMs := some now, updatedAtMs := now })
      guestSessions := db.guestSessions.restrict (fun _ g => decide (g.roomID ≠ roomID)) })

/-- `ReopenRoom`. -/
def reopenRoom (roomID : String) (now : Int64) (db : DB) : Except StoreError Unit × DB :=
  if (db.rooms.lookup roomID).any (fun r => decide (r.status = .CLOSED)) then
    (.ok (),
      { db with
        rooms := db.rooms.update roomID (fun r =>
          { r with status := .HOST_DISCONNECTED, closedAtMs := none, updatedAtMs := now }) })
  else (.error .notFound, db)

/-- `SetRoomMedia`. -/
def setRoomMedia (roomID mediaID : String) (now : Int64) (db : DB) :
    Except StoreError Unit × DB :=
  if roomID ∈ db.rooms ∧
      (db.media.lookup mediaID).any
        (fun m => decide (m.status = .READY) && m.deletedAtMs.isNone) = true then
    (.ok (),
      { db with
        rooms := db.rooms.update roomID (fun r =>
          { r with mediaID := some mediaID, updatedAtMs := now }) })
  else (.error .notFound, db)

/-- `UpdateRoomTitle`. -/
def updateRoomTitle (roomID title : String) (now : Int64) (db : DB) :
    Except StoreError Unit × DB :=
  (.ok (),
    { db with
      rooms := db.rooms.update roomID (fun r => { r with title := title, updatedAtMs := now }) })

/-- `UpdateRoomStatus`. -/
def updateRoomStatus (roomID : String) (status : RoomStatus) (now : Int64) (db : DB) :
    Except StoreError Unit × DB :=
  (.ok (),
    { db with
      rooms := db.rooms.update roomID (fun r =>
        { r with status := status, updatedAtMs := now }) })

-- ============================================================================
-- Members and guests
-- ============================================================================

/-- `IsMember`. -/
def isMember (roomID id : String) (guest : Bool) (db : DB) : Bool :=
  if guest then db.guestOf roomID id else db.activeMember roomID id

/-- `AddMember`. -/
def addMember (roomID userID : String) (now : Int64) (db : DB) : Except StoreError Unit × DB :=
  if roomID ∈ db.rooms ∧ userID ∈ db.users then
    (.ok (),
      { db with roomMembers := db.roomMembers.insert (roomID, userID) ⟨.MEMBER, now, none⟩ })
  else (.error foreignKeyFailed, db)

/-- `LeaveMember`. -/
def leaveMember (roomID userID : String) (now : Int64) (db : DB) : Except StoreError Unit × DB :=
  (.ok (),
    { db with
      roomMembers := db.roomMembers.update (roomID, userID)
        (fun m => { m with leftAtMs := some now }) })

/-- `Members`: the active members, by the time they joined. -/
def members (roomID : String) (db : DB) : List Member :=
  let rows := db.roomMembers.entries.filterMap (fun e =>
    if e.1.1 = roomID ∧ e.2.leftAtMs = none then
      (db.users.lookup e.1.2).map (fun u =>
        { id := e.1.2, nickname := u.nickname, role := e.2.role, joinedAtMs := e.2.joinedAtMs })
    else none)
  rows.insertionSort (fun x y => x.joinedAtMs ≤ y.joinedAtMs)

/-- `CreateGuestSession`. -/
def createGuestSession (id : String) (g : GuestRow) (db : DB) : Except StoreError Unit × DB :=
  if id ∈ db.guestSessions ∨ db.guestSessions.rows.any (fun x => x.tokenHash = g.tokenHash) then
    (.error uniqueFailed, db)
  else if g.roomID ∈ db.rooms then
    (.ok (), { db with guestSessions := db.guestSessions.insert id g })
  else (.error foreignKeyFailed, db)

/-- `DeleteGuestSession`. -/
def deleteGuestSession (roomID id : String) (db : DB) : Except StoreError Unit × DB :=
  (.ok (),
    { db with
      guestSessions := db.guestSessions.restrict
        (fun k g => !(decide (g.roomID = roomID) && decide (k = id))) })

-- ============================================================================
-- Media and checkpoints
-- ============================================================================

/-- `UpdateMediaMetadata`. -/
def updateMediaMetadata (id : String) (durationMs : Int64) (width height : Int) (now : Int64)
    (db : DB) : Except StoreError Unit × DB :=
  (.ok (),
    { db with
      media := db.media.update id (fun m =>
        if m.status = .READY then
          { m with
            durationMs := some durationMs, videoWidth := some width, videoHeight := some height,
            updatedAtMs := now }
        else m) })

/-- `SoftDeleteMedia`: the owner's finished media that no open room shows. -/
def softDeleteMedia (id owner : String) (now : Int64) (db : DB) : Except StoreError Unit × DB :=
  let deletable (m : MediaRow) : Bool :=
    decide (m.ownerUserID = owner) && m.deletedAtMs.isNone && decide (m.status ≠ .UPLOADING) &&
      !db.rooms.rows.any (fun r => decide (r.mediaID = some id) && decide (r.status ≠ .CLOSED))
  if (db.media.lookup id).any deletable then
    (.ok (),
      { db with
        media := db.media.update id (fun m =>
          { m with status := .DELETING, deletedAtMs := some now, updatedAtMs := now }) })
  else (.error .notFound, db)

/-- `SetMediaDeleteStatus`. -/
def setMediaDeleteStatus (id : String) (status : MediaStatus) (now : Int64) (db : DB) :
    Except StoreError Unit × DB :=
  (.ok (),
    { db with
      media := db.media.update id (fun m => { m with status := status, updatedAtMs := now }) })

/-- `SaveCheckpoint`. -/
def saveCheckpoint (c : Checkpoint) (db : DB) : Except StoreError Unit × DB :=
  if c.roomID ∈ db.rooms then
    (.ok (), { db with checkpoints := db.checkpoints.insert c.roomID c })
  else (.error foreignKeyFailed, db)

-- ============================================================================
-- What the calls write to `rooms`
-- ============================================================================

theorem saveCheckpoint_rooms (c : Checkpoint) (db : DB) :
    (saveCheckpoint c db).2.rooms = db.rooms := by
  rw [saveCheckpoint]
  split <;> rfl

theorem transferHost_accepts {roomID newID : String} {db : DB}
    (hactive : db.activeMember roomID newID = true) (oldID : String) (now : Int64) :
    (transferHost roomID oldID newID now db).1 = .ok () := by
  rw [transferHost]
  rw [if_pos hactive]

theorem transferHost_refuses {roomID oldID newID : String} {now : Int64} {db : DB}
    (hleft : db.activeMember roomID newID = false) :
    transferHost roomID oldID newID now db = (.error .notFound, db) := by
  rw [transferHost]
  rw [if_neg (by simp [hleft])]

/-- What an accepted `TransferHost` writes. -/
theorem transferHost_rooms {roomID newID : String} {db : DB}
    (hactive : db.activeMember roomID newID = true) (oldID : String) (now : Int64) :
    (transferHost roomID oldID newID now db).2.rooms = db.rooms.update roomID (fun r =>
      if r.hostUserID = oldID then
        { r with hostUserID := newID, status := .OPEN, updatedAtMs := now }
      else r) := by
  rw [transferHost]
  rw [if_pos hactive]

/-- `TransferHost` is carried out only for an active member. -/
theorem transferHost_ok {roomID oldID newID : String} {now : Int64} {db db' : DB}
    (h : transferHost roomID oldID newID now db = (.ok (), db')) :
    db.activeMember roomID newID = true := by
  by_contra hinactive
  rw [transferHost_refuses (Bool.not_eq_true _ ▸ hinactive)] at h
  exact absurd (congrArg Prod.fst h) (by simp)

theorem transferHost_error {roomID oldID newID : String} {now : Int64} {db db' : DB}
    {e : StoreError} (h : transferHost roomID oldID newID now db = (.error e, db')) :
    db' = db := by
  cases hactive : db.activeMember roomID newID with
  | true =>
      have hok := transferHost_accepts hactive oldID now
      rw [h] at hok
      exact absurd hok (by simp)
  | false =>
      rw [transferHost_refuses hactive] at h
      exact (Prod.mk.inj h).2.symm

theorem setRoomMedia_ok {roomID mediaID : String} {now : Int64} {db db' : DB}
    (h : setRoomMedia roomID mediaID now db = (.ok (), db')) :
    db'.rooms = db.rooms.update roomID (fun r =>
      { r with mediaID := some mediaID, updatedAtMs := now }) := by
  rw [setRoomMedia] at h
  split at h
  · obtain ⟨-, rfl⟩ := Prod.mk.inj h
    rfl
  · obtain ⟨hres, -⟩ := Prod.mk.inj h
    exact absurd hres (by simp)

theorem setRoomMedia_error {roomID mediaID : String} {now : Int64} {db db' : DB}
    {e : StoreError} (h : setRoomMedia roomID mediaID now db = (.error e, db')) : db' = db := by
  rw [setRoomMedia] at h
  split at h
  · obtain ⟨hres, -⟩ := Prod.mk.inj h
    exact absurd hres (by simp)
  · obtain ⟨-, rfl⟩ := Prod.mk.inj h
    rfl

theorem reopenRoom_ok {roomID : String} {now : Int64} {db db' : DB}
    (h : reopenRoom roomID now db = (.ok (), db')) :
    db'.rooms = db.rooms.update roomID (fun r =>
      { r with status := .HOST_DISCONNECTED, closedAtMs := none, updatedAtMs := now }) := by
  rw [reopenRoom] at h
  split at h
  · obtain ⟨-, rfl⟩ := Prod.mk.inj h
    rfl
  · obtain ⟨hres, -⟩ := Prod.mk.inj h
    exact absurd hres (by simp)

theorem reopenRoom_error {roomID : String} {now : Int64} {db db' : DB} {e : StoreError}
    (h : reopenRoom roomID now db = (.error e, db')) : db' = db := by
  rw [reopenRoom] at h
  split at h
  · obtain ⟨hres, -⟩ := Prod.mk.inj h
    exact absurd hres (by simp)
  · obtain ⟨-, rfl⟩ := Prod.mk.inj h
    rfl

-- ============================================================================
-- What the calls write to the memberships
-- ============================================================================

/-- The statement that ends a membership: a guest's session is deleted, a user's row
    gets its `left_at_ms`. -/
def endMembership (roomID id : String) (guest : Bool) (now : Int64) (db : DB) : DB :=
  if guest then (deleteGuestSession roomID id db).2 else (leaveMember roomID id now db).2

theorem activeMember_iff {db : DB} {roomID userID : String} :
    db.activeMember roomID userID = true ↔
      ∃ m, db.roomMembers.lookup (roomID, userID) = some m ∧ m.leftAtMs = none := by
  simp [DB.activeMember, Option.any_eq_true]

theorem guestOf_iff {db : DB} {roomID id : String} :
    db.guestOf roomID id = true ↔
      ∃ g, db.guestSessions.lookup id = some g ∧ g.roomID = roomID := by
  simp [DB.guestOf, Option.any_eq_true]

/-- A call that touches neither table of memberships. -/
def SameMembers (db db' : DB) : Prop :=
  db'.roomMembers = db.roomMembers ∧ db'.guestSessions = db.guestSessions

theorem SameMembers.isMember {db db' : DB} (h : SameMembers db db') (roomID id : String)
    (guest : Bool) : isMember roomID id guest db' = isMember roomID id guest db := by
  unfold Store.isMember DB.guestOf DB.activeMember
  rw [h.1, h.2]

theorem saveCheckpoint_sameMembers (c : Checkpoint) (db : DB) :
    SameMembers db (saveCheckpoint c db).2 := by
  rw [saveCheckpoint]
  split <;> exact ⟨rfl, rfl⟩

theorem setRoomMedia_sameMembers (roomID mediaID : String) (now : Int64) (db : DB) :
    SameMembers db (setRoomMedia roomID mediaID now db).2 := by
  rw [setRoomMedia]
  split <;> exact ⟨rfl, rfl⟩

theorem reopenRoom_sameMembers (roomID : String) (now : Int64) (db : DB) :
    SameMembers db (reopenRoom roomID now db).2 := by
  rw [reopenRoom]
  split <;> exact ⟨rfl, rfl⟩

/-- A statement that rewrites rows but no `left_at_ms` keeps the active members. -/
theorem activeMember_update {db db' : DB} {k : String × String} {g : MemberRow → MemberRow}
    (hdb : db'.roomMembers = db.roomMembers.update k g) (hg : ∀ m, (g m).leftAtMs = m.leftAtMs)
    {roomID userID : String} (h : db.activeMember roomID userID = true) :
    db'.activeMember roomID userID = true := by
  obtain ⟨m, hm, hactive⟩ := activeMember_iff.mp h
  rw [activeMember_iff, hdb, AList.lookup_update]
  by_cases heq : (roomID, userID) = k
  · rw [if_pos heq, ← heq, hm]
    exact ⟨g m, rfl, (hg m).trans hactive⟩
  · rw [if_neg heq]
    exact ⟨m, hm, hactive⟩

theorem isMember_transferHost (room old new : String) (now : Int64) {db : DB}
    {roomID id : String} {guest : Bool} (h : isMember roomID id guest db = true) :
    isMember roomID id guest (transferHost room old new now db).2 = true := by
  rw [transferHost]
  split
  · cases guest with
    | true => exact h
    | false =>
        let promoted : DB := { db with
          roomMembers := db.roomMembers.update (room, new) (fun m => { m with role := .HOST }) }
        have hpromoted : promoted.activeMember roomID id = true :=
          activeMember_update (g := fun m => { m with role := .HOST }) rfl (fun _ => rfl) h
        exact activeMember_update (g := fun m => { m with role := .MEMBER }) rfl (fun _ => rfl)
          hpromoted
  · exact h

/-- Ending one membership leaves the others. -/
theorem isMember_endMembership {room k : String} {guest' : Bool} {now : Int64} {db : DB}
    {roomID id : String} {guest : Bool} (hother : ¬(id = k ∧ guest = guest'))
    (h : isMember roomID id guest db = true) :
    isMember roomID id guest (endMembership room k guest' now db) = true := by
  cases guest with
  | true =>
      cases guest' with
      | true =>
          have hne : id ≠ k := fun heq => hother ⟨heq, rfl⟩
          obtain ⟨g, hg, hroom⟩ := guestOf_iff.mp h
          refine guestOf_iff.mpr ⟨g, ?_, hroom⟩
          show (db.guestSessions.restrict _).lookup id = some g
          rw [AList.lookup_restrict, hg, Option.filter_some, if_pos (by simp [hne])]
      | false => exact h
  | false =>
      cases guest' with
      | true => exact h
      | false =>
          have hne : (roomID, id) ≠ (room, k) := fun heq => hother ⟨(Prod.mk.inj heq).2, rfl⟩
          obtain ⟨m, hm, hactive⟩ := activeMember_iff.mp h
          refine activeMember_iff.mpr ⟨m, ?_, hactive⟩
          exact (AList.lookup_update_ne hne _ _).trans hm

/-- A new member takes no membership away. -/
theorem isMember_addMember {room user : String} {now : Int64} {db : DB} {roomID id : String}
    {guest : Bool} (h : isMember roomID id guest db = true) :
    isMember roomID id guest (addMember room user now db).2 = true := by
  rw [addMember]
  split
  · cases guest with
    | true => exact h
    | false =>
        rw [isMember, if_neg (by decide), activeMember_iff]
        by_cases heq : (roomID, id) = (room, user)
        · exact ⟨⟨.MEMBER, now, none⟩, by rw [heq]; exact AList.lookup_insert _, rfl⟩
        · obtain ⟨m, hm, hactive⟩ := activeMember_iff.mp h
          exact ⟨m, (AList.lookup_insert_ne heq).trans hm, hactive⟩
  · exact h

theorem isMember_createGuestSession {k : String} {g : GuestRow} {db : DB} {roomID id : String}
    {guest : Bool} (h : isMember roomID id guest db = true) :
    isMember roomID id guest (createGuestSession k g db).2 = true := by
  rw [createGuestSession]
  split
  · exact h
  rename_i hfresh
  split
  · cases guest with
    | false => exact h
    | true =>
        obtain ⟨g', hg', hroom⟩ := guestOf_iff.mp h
        have hne : id ≠ k := by
          rintro rfl
          exact hfresh (Or.inl (AList.mem_of_lookup hg'))
        rw [isMember, if_pos rfl, guestOf_iff]
        exact ⟨g', (AList.lookup_insert_ne hne).trans hg', hroom⟩
  · exact h

/-- `*repository.Store` as the actors' `Persistence`. -/
def persistence : Persistence DB where
  saveCheckpoint := saveCheckpoint
  members roomID db := ((members roomID db, none), db)
  transferHost := transferHost
  closeRoom := closeRoom
  reopenRoom := reopenRoom
  leaveMember := leaveMember
  setRoomMedia := setRoomMedia
  updateMediaMetadata := updateMediaMetadata
  deleteGuestSession := deleteGuestSession
  updateRoomStatus := updateRoomStatus
  updateRoomTitle := updateRoomTitle

end Store

end WatchTogether.Repository

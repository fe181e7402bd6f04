/-
  WatchTogether.Repository.Database

  All tables that the statements of `internal/repository` write, with the constraints of
  the migrations: keys, UNIQUE columns, foreign keys, the partial index `one_super_admin`
  and the two triggers that protect the super administrator.

  `Store` has the statements on the tables of a room.  Here they act on the whole database
  (`Database.lift`), beside those on accounts, sessions, invites and uploads.  Chat
  messages and audit events are only inserted and are left out.
-/

import WatchTogether.Repository.Store

namespace WatchTogether.Repository

open Rooms

-- ============================================================================
-- Tables
-- ============================================================================

/-- `model.User`. -/
structure User where
  id : String
  username : String
  nickname : String
  role : Role
  disabled : Bool
  createdAtMs : Int64
deriving DecidableEq

/-- A row of `users` with all its columns, under its `id`. -/
structure AccountRow where
  username : String
  passwordHash : String
  nickname : String
  createdAtMs : Int64
  updatedAtMs : Int64
  role : Role
  disabled : Bool
deriving DecidableEq

/-- The user of a row. -/
def AccountRow.toUser (id : String) (u : AccountRow) : User :=
  ⟨id, u.username, u.nickname, u.role, u.disabled, u.createdAtMs⟩

/-- A row of `sessions`, under its `id`. -/
structure SessionRow where
  userID : String
  tokenHash : String
  csrfHash : String
  expiresAtMs : Int64
  createdAtMs : Int64
  lastSeenAtMs : Int64
  ipAddress : String
  userAgent : String
deriving DecidableEq

/-- A row of `room_invites`, under its `id`. -/
structure InviteRow where
  roomID : String
  tokenHash : String
  createdBy : String
  expiresAtMs : Option Int64
  maxUses : Option Int
  usedCount : Int
  createdAtMs : Int64
deriving DecidableEq

/-- `used_count<max_uses`, where there is a limit. -/
def InviteRow.hasUses (i : InviteRow) : Bool := i.maxUses.all (fun m => decide (i.usedCount < m))

/-- The database; of `media_uploads` only the `media_id` is kept. -/
structure Database where
  users : KeyedTable String AccountRow
  sessions : KeyedTable String SessionRow
  rooms : KeyedTable String Room
  roomMembers : KeyedTable (String × String) MemberRow
  invites : KeyedTable String InviteRow
  guestSessions : KeyedTable String GuestRow
  media : KeyedTable String MediaRow
  uploads : KeyedTable String String
  checkpoints : KeyedTable String Checkpoint
deriving DecidableEq

/-- A migrated database without rows. -/
def Database.empty : Database := ⟨∅, ∅, ∅, ∅, ∅, ∅, ∅, ∅, ∅⟩

/-- `ErrConflict`. -/
def errConflict : StoreError := .failed "resource has dependent records"

/-- `ErrProtected`. -/
def errProtected : StoreError := .failed "super administrator is protected"

/-- A trigger raises `ABORT`. -/
def protectDelete : StoreError := .failed "super administrator cannot be deleted"

/-- The error of the trigger on updates of the super administrator. -/
def protectUpdate : StoreError := .failed "super administrator cannot be disabled or demoted"

/-- The result of a statement, and the database it leaves. -/
abbrev Outcome : Type := Except StoreError Unit × Database

namespace Database

/-- The tables of the rooms. -/
def toDB (d : Database) : DB where
  users := d.users.mapRows (fun u => ⟨u.nickname⟩)
  rooms := d.rooms
  roomMembers := d.roomMembers
  guestSessions := d.guestSessions
  media := d.media
  checkpoints := d.checkpoints

/-- The database with other tables of the rooms; no statement on them writes `users`. -/
def withDB (d : Database) (db : DB) : Database :=
  { d with
    rooms := db.rooms, roomMembers := db.roomMembers, guestSessions := db.guestSessions,
    media := db.media, checkpoints := db.checkpoints }

/-- A statement on the tables of the rooms. -/
def lift {α : Type} (f : DB → α × DB) (d : Database) : α × Database :=
  ((f d.toDB).1, d.withDB (f d.toDB).2)

-- ============================================================================
-- Rows of `users`
-- ============================================================================

/-- The UNIQUE column and the partial index admit the row under `id`. -/
def admits (id : String) (u : AccountRow) (d : Database) : Bool :=
  d.users.entries.all (fun e => decide (e.1 = id) ||
    (decide (e.2.username ≠ u.username) &&
      !(decide (e.2.role = .SUPER_ADMIN) && decide (u.role = .SUPER_ADMIN))))

/-- `INSERT INTO users`. -/
def insertUser (id : String) (u : AccountRow) (d : Database) : Outcome :=
  if id ∈ d.users ∨ d.admits id u = false then (.error uniqueFailed, d)
  else (.ok (), { d with users := d.users.insert id u })

/-- `UPDATE users ... WHERE id=?`, with the trigger `protect_super_admin_update`. -/
def updateUserRow (id : String) (g : AccountRow → AccountRow) (d : Database) : Outcome :=
  match d.users.lookup id with
  | none => (.ok (), d)
  | some u =>
      if u.role = .SUPER_ADMIN ∧ ((g u).role ≠ .SUPER_ADMIN ∨ (g u).disabled = true) then
        (.error protectUpdate, d)
      else if d.admits id (g u) = false then (.error uniqueFailed, d)
      else (.ok (), { d with users := d.users.update id g })

/-- `DELETE FROM users WHERE id=?`, with the trigger `protect_super_admin_delete`, the
    foreign keys of rooms and media, and the rows that go with the user. -/
def deleteUserRow (id : String) (d : Database) : Outcome :=
  match d.users.lookup id with
  | none => (.ok (), d)
  | some u =>
      if u.role = .SUPER_ADMIN then (.error protectDelete, d)
      else if d.rooms.rows.any (fun r => r.hostUserID = id) ∨
          d.media.rows.any (fun m => m.ownerUserID = id) then
        (.error foreignKeyFailed, d)
      else
        (.ok (),
          { d with
            users := d.users.erase id
            sessions := d.sessions.restrict (fun _ s => decide (s.userID ≠ id))
            roomMembers := d.roomMembers.restrict (fun k _ => decide (k.2 ≠ id)) })

-- ============================================================================
-- Accounts
-- ============================================================================

/-- `CreateUser`. -/
def createUser (u : User) (hash : String) (now : Int64) (d : Database) : Outcome :=
  insertUser u.id
    { username := u.username, passwordHash := hash, nickname := u.nickname
      createdAtMs := now, updatedAtMs := now
      role := if u.role = .unset then .USER else u.role, disabled := u.disabled } d

/-- `UserByUsername`. -/
def userByUsername (username : String) (d : Database) : Except StoreError (User × String) :=
  match d.users.entries.find? (fun e => e.2.username = username) with
  | some e => .ok (AccountRow.toUser e.1 e.2, e.2.passwordHash)
  | none => .error .notFound

/-- `UserByID`. -/
def userByID (id : String) (d : Database) : Except StoreError User :=
  match d.users.lookup id with
  | some u => .ok (AccountRow.toUser id u)
  | none => .error .notFound

/-- What `UpdateUser` writes into the row. -/
def editRow (username nickname hash : String) (disabled : Bool) (now : Int64)
    (u : AccountRow) : AccountRow :=
  { u with
    username := username, nickname := nickname, disabled := disabled
    passwordHash := if hash = "" then u.passwordHash else hash, updatedAtMs := now }

/-- `UpdateUser`: the edit and the end of the user's sessions are one transaction. -/
def updateUser (id username nickname hash : String) (disabled : Bool) (now : Int64)
    (d : Database) : Outcome :=
  match d.users.lookup id with
  | none => (.error .notFound, d)
  | some u =>
      if u.role = .SUPER_ADMIN ∧ disabled = true then (.error errProtected, d)
      else
        match updateUserRow id (editRow username nickname hash disabled now) d with
        | (.error e, _) => (.error e, d)
        | (.ok _, d') =>
            (.ok (),
              { d' with sessions := d'.sessions.restrict (fun _ s => decide (s.userID ≠ id)) })

/-- `DeleteUser`.  The media of the user, all of them deleted, go to the administrator. -/
def deleteUser (id adminID : String) (d : Database) : Outcome :=
  match d.users.lookup id with
  | none => (.error .notFound, d)
  | some u =>
      if u.role = .SUPER_ADMIN then (.error errProtected, d)
      else if d.rooms.rows.any (fun r => r.hostUserID = id) ∨
          d.media.rows.any (fun m => m.ownerUserID = id && m.deletedAtMs.isNone) then
        (.error errConflict, d)
      else if d.media.rows.any (fun m => m.ownerUserID = id) ∧ adminID ∉ d.users then
        (.error foreignKeyFailed, d)
      else
        let media := d.media.modify (fun _ m =>
          if m.ownerUserID = id then { m with ownerUserID := adminID } else m)
        match deleteUserRow id { d with media := media } with
        | (.error e, _) => (.error e, d)
        | (.ok _, d') => (.ok (), d')

-- ============================================================================
-- Sessions
-- ============================================================================

/-- `INSERT INTO sessions`. -/
def createSession (id : String) (s : SessionRow) (d : Database) : Outcome :=
  if id ∈ d.sessions ∨ d.sessions.rows.any (fun x => x.tokenHash = s.tokenHash) then
    (.error uniqueFailed, d)
  else if s.userID ∈ d.users then (.ok (), { d with sessions := d.sessions.insert id s })
  else (.error foreignKeyFailed, d)

/-- `CreateSessionForPassword`: the row is inserted while the user is enabled and has the
    hash. -/
def createSessionForPassword (id userID passwordHash tokenHash csrfHash : String)
    (expires now : Int64) (ip ua : String) (d : Database) : Outcome :=
  if (d.users.lookup userID).any
      (fun u => decide (u.passwordHash = passwordHash) && !u.disabled) then
    createSession id ⟨userID, tokenHash, csrfHash, expires, now, now, ip, ua⟩ d
  else (.error .notFound, d)

/-- The identity of a session that has not expired, of a user that is not disabled. -/
def sessionOwner (d : Database) (tokenHash : String) (now : Int64) (s : SessionRow) :
    Option (Identity × String) :=
  if s.tokenHash = tokenHash ∧ now < s.expiresAtMs then
    match d.users.lookup s.userID with
    | some u =>
        if u.disabled then none
        else some (⟨u.role, u.username, s.userID, u.nickname, "", false⟩, s.csrfHash)
    | none => none
  else none

/-- `SessionIdentity`, with the hash of the CSRF token. -/
def sessionIdentity (tokenHash : String) (now : Int64) (d : Database) :
    Option (Identity × String) :=
  d.sessions.rows.findSome? (d.sessionOwner tokenHash now)

/-- `TouchSession`. -/
def touchSession (tokenHash : String) (now : Int64) (d : Database) : Database :=
  { d with
    sessions := d.sessions.modify (fun _ s =>
      if s.tokenHash = tokenHash then { s with lastSeenAtMs := now } else s) }

/-- `DeleteSession`. -/
def deleteSession (tokenHash : String) (d : Database) : Database :=
  { d with sessions := d.sessions.restrict (fun _ s => decide (s.tokenHash ≠ tokenHash)) }

/-- `GuestIdentity`, with the hash of the CSRF token. -/
def guestIdentity (tokenHash : String) (now : Int64) (d : Database) :
    Option (Identity × String) :=
  (d.guestSessions.entries.find? (fun e =>
    decide (e.2.tokenHash = tokenHash) && decide (now < e.2.expiresAtMs))).map
    (fun e => (⟨.unset, "", e.1, e.2.nickname, e.2.roomID, true⟩, e.2.csrfHash))

-- ============================================================================
-- Rooms, invites and uploads
-- ============================================================================

/-- `CreateRoom`: the room and its host's membership. -/
def createRoom (r : Room) (now : Int64) (d : Database) : Outcome :=
  if r.id ∈ d.rooms ∨ d.rooms.rows.any (fun x => x.code = r.code) ∨
      (r.id, r.hostUserID) ∈ d.roomMembers then
    (.error uniqueFailed, d)
  else if r.hostUserID ∈ d.users ∧ r.mediaID.all (fun m => decide (m ∈ d.media)) = true then
    (.ok (),
      { d with
        rooms := d.rooms.insert r.id
          { r with createdAtMs := now, updatedAtMs := now, closedAtMs := none }
        roomMembers := d.roomMembers.insert (r.id, r.hostUserID) ⟨.HOST, now, none⟩ })
  else (.error foreignKeyFailed, d)

/-- `DeleteRoom`: a closed room, with the rows that go with it. -/
def deleteRoom (id : String) (d : Database) : Outcome :=
  if (d.rooms.lookup id).any (fun r => decide (r.status = .CLOSED)) then
    (.ok (),
      { d with
        rooms := d.rooms.erase id
        roomMembers := d.roomMembers.restrict (fun k _ => decide (k.1 ≠ id))
        invites := d.invites.restrict (fun _ i => decide (i.roomID ≠ id))
        guestSessions := d.guestSessions.restrict (fun _ g => decide (g.roomID ≠ id))
        checkpoints := d.checkpoints.erase id })
  else (.error errConflict, d)

/-- `CreateInvite`. -/
def createInvite (id : String) (i : InviteRow) (d : Database) : Outcome :=
  if id ∈ d.invites ∨ d.invites.rows.any (fun x => x.tokenHash = i.tokenHash) then
    (.error uniqueFailed, d)
  else if i.roomID ∈ d.rooms then (.ok (), { d with invites := d.invites.insert id i })
  else (.error foreignKeyFailed, d)

/-- `InviteByHash`: an invite that has not expired and has uses left. -/
def inviteByHash (hash : String) (now : Int64) (d : Database) :
    Except StoreError (String × InviteRow) :=
  match d.invites.entries.find? (fun e => decide (e.2.tokenHash = hash) &&
      e.2.expiresAtMs.all (fun t => decide (now < t)) && InviteRow.hasUses e.2) with
  | some e => .ok (e.1, e.2)
  | none => .error .notFound

/-- `ConsumeInvite`. -/
def consumeInvite (id : String) (d : Database) : Outcome :=
  if (d.invites.lookup id).any InviteRow.hasUses then
    (.ok (),
      { d with
        invites := d.invites.update id (fun i => { i with usedCount := i.usedCount + 1 }) })
  else (.error .notFound, d)

/-- `CreateMediaUpload`. -/
def createMediaUpload (mediaID : String) (m : MediaRow) (uploadID : String) (d : Database) :
    Outcome :=
  if mediaID ∈ d.media ∨ uploadID ∈ d.uploads then (.error uniqueFailed, d)
  else if m.ownerUserID ∈ d.users then
    (.ok (),
      { d with
        media := d.media.insert mediaID m, uploads := d.uploads.insert uploadID mediaID })
  else (.error foreignKeyFailed, d)

/-- The end of an upload writes the status of its media. -/
def settleUpload (id : String) (status : MediaStatus) (now : Int64) (d : Database) : Outcome :=
  match d.uploads.lookup id with
  | none => (.error (.failed "sql: no rows in result set"), d)
  | some mediaID =>
      (.ok (),
        { d with
          media := d.media.update mediaID (fun m =>
            { m with status := status, updatedAtMs := now }) })

/-- `CompleteUpload`. -/
def completeUpload (id : String) (now : Int64) (d : Database) : Outcome :=
  settleUpload id .READY now d

/-- `FailUpload`. -/
def failUpload (id : String) (now : Int64) (d : Database) : Outcome :=
  settleUpload id .FAILED now d

/-- `Cleanup`. -/
def cleanup (now : Int64) (d : Database) : Database :=
  { d with
    sessions := d.sessions.restrict (fun _ s => decide (now < s.expiresAtMs))
    guestSessions := d.guestSessions.restrict (fun _ g => decide (now < g.expiresAtMs))
    invites := d.invites.restrict (fun _ i => i.expiresAtMs.all (fun t => decide (now < t))) }

end Database

-- ============================================================================
-- Statements
-- ============================================================================

/-- The store calls that write. -/
inductive Statement where
  | createUser (u : User) (hash : String) (now : Int64)
  | updateUser (id username nickname hash : String) (disabled : Bool) (now : Int64)
  | deleteUser (id adminID : String)
  | createSession (id : String) (s : SessionRow)
  | createSessionForPassword (id userID passwordHash tokenHash csrfHash : String)
      (expires now : Int64) (ip ua : String)
  | touchSession (tokenHash : String) (now : Int64)
  | deleteSession (tokenHash : String)
  | createGuestSession (id : String) (g : GuestRow)
  | deleteGuestSession (roomID id : String)
  | createRoom (r : Room) (now : Int64)
  | deleteRoom (id : String)
  | addMember (roomID userID : String) (now : Int64)
  | leaveMember (roomID userID : String) (now : Int64)
  | transferHost (roomID oldID newID : String) (now : Int64)
  | closeRoom (roomID : String) (now : Int64)
  | reopenRoom (roomID : String) (now : Int64)
  | setRoomMedia (roomID mediaID : String) (now : Int64)
  | updateRoomTitle (roomID title : String) (now : Int64)
  | updateRoomStatus (roomID : String) (status : RoomStatus) (now : Int64)
  | createInvite (id : String) (i : InviteRow)
  | consumeInvite (id : String)
  | createMediaUpload (mediaID : String) (m : MediaRow) (uploadID : String)
  | completeUpload (id : String) (now : Int64)
  | failUpload (id : String) (now : Int64)
  | deleteUpload (id : String)
  | softDeleteMedia (id owner : String) (now : Int64)
  | setMediaDeleteStatus (id : String) (status : MediaStatus) (now : Int64)
  | updateMediaMetadata (id : String) (durationMs : Int64) (width height : Int) (now : Int64)
  | saveCheckpoint (c : Checkpoint)
  | cleanup (now : Int64)
deriving DecidableEq

/-- A statement is carried out. -/
def Statement.perform : Statement → Database → Outcome
  | createUser u hash now => Database.createUser u hash now
  | updateUser id username nickname hash disabled now =>
      Database.updateUser id username nickname hash disabled now
  | deleteUser id adminID => Database.deleteUser id adminID
  | createSession id s => Database.createSession id s
  | createSessionForPassword id userID passwordHash tokenHash csrfHash expires now ip ua =>
      Database.createSessionForPassword id userID passwordHash tokenHash csrfHash expires now ip ua
  | touchSession tokenHash now => fun d => (.ok (), d.touchSession tokenHash now)
  | deleteSession tokenHash => fun d => (.ok (), d.deleteSession tokenHash)
  | createGuestSession id g => Database.lift (Store.createGuestSession id g)
  | deleteGuestSession roomID id => Database.lift (Store.deleteGuestSession roomID id)
  | createRoom r now => Database.createRoom r now
  | deleteRoom id => Database.deleteRoom id
  | addMember roomID userID now => Database.lift (Store.addMember roomID userID now)
  | leaveMember roomID userID now => Database.lift (Store.leaveMember roomID userID now)
  | transferHost roomID oldID newID now =>
      Database.lift (Store.transferHost roomID oldID newID now)
  | closeRoom roomID now => Database.lift (Store.closeRoom roomID now)
  | reopenRoom roomID now => Database.lift (Store.reopenRoom roomID now)
  | setRoomMedia roomID mediaID now => Database.lift (Store.setRoomMedia roomID mediaID now)
  | updateRoomTitle roomID title now => Database.lift (Store.updateRoomTitle roomID title now)
  | updateRoomStatus roomID status now =>
      Database.lift (Store.updateRoomStatus roomID status now)
  | createInvite id i => Database.createInvite id i
  | consumeInvite id => Database.consumeInvite id
  | createMediaUpload mediaID m uploadID => Database.createMediaUpload mediaID m uploadID
  | completeUpload id now => Database.completeUpload id now
  | failUpload id now => Database.failUpload id now
  | deleteUpload id => fun d => (.ok (), { d with uploads := d.uploads.erase id })
  | softDeleteMedia id owner now => Database.lift (Store.softDeleteMedia id owner now)
  | setMediaDeleteStatus id status now =>
      Database.lift (Store.setMediaDeleteStatus id status now)
  | updateMediaMetadata id durationMs width height now =>
      Database.lift (Store.updateMediaMetadata id durationMs width height now)
  | saveCheckpoint c => Database.lift (Store.saveCheckpoint c)
  | cleanup now => fun d => (.ok (), d.cleanup now)

-- ============================================================================
-- What the statements write
-- ============================================================================

namespace Database

@[simp] theorem lift_users {α : Type} (f : DB → α × DB) (d : Database) :
    (lift f d).2.users = d.users := rfl

@[simp] theorem lift_sessions {α : Type} (f : DB → α × DB) (d : Database) :
    (lift f d).2.sessions = d.sessions := rfl

@[simp] theorem lift_invites {α : Type} (f : DB → α × DB) (d : Database) :
    (lift f d).2.invites = d.invites := rfl

theorem admits_iff {id : String} {u : AccountRow} {d : Database} :
    d.admits id u = true ↔ ∀ k v, d.users.lookup k = some v → k ≠ id →
      v.username ≠ u.username ∧ ¬(v.role = .SUPER_ADMIN ∧ u.role = .SUPER_ADMIN) := by
  rw [admits, List.all_eq_true]
  constructor
  · intro h k v hv hk
    have hrow := h ⟨k, v⟩ (AList.mem_entries_iff.mpr hv)
    simpa [hk, ← not_and_or] using hrow
  · rintro h ⟨k, v⟩ hmem
    by_cases hk : k = id
    · simp [hk]
    · obtain ⟨hname, hadmin⟩ := h k v (AList.mem_entries_iff.mp hmem) hk
      rw [Bool.or_eq_true, Bool.and_eq_true, decide_eq_true_eq, decide_eq_true_eq]
      exact .inr ⟨hname, by simpa using not_and_or.mp hadmin⟩

theorem insertUser_cases (id : String) (u : AccountRow) (d : Database) :
    (id ∉ d.users ∧ d.admits id u = true ∧
      insertUser id u d = (.ok (), { d with users := d.users.insert id u })) ∨
    ∃ e, insertUser id u d = (.error e, d) := by
  rw [insertUser]
  split
  · exact .inr ⟨_, rfl⟩
  · rename_i hfree
    rw [not_or, Bool.not_eq_false] at hfree
    exact .inl ⟨hfree.1, hfree.2, rfl⟩

theorem updateUserRow_cases (id : String) (g : AccountRow → AccountRow) {d : Database}
    {u : AccountRow} (hu : d.users.lookup id = some u) :
    ((u.role = .SUPER_ADMIN → (g u).role = .SUPER_ADMIN ∧ (g u).disabled = false) ∧
      d.admits id (g u) = true ∧
      updateUserRow id g d = (.ok (), { d with users := d.users.update id g })) ∨
    ∃ e, updateUserRow id g d = (.error e, d) := by
  rw [updateUserRow]
  simp only [hu]
  split
  · exact .inr ⟨_, rfl⟩
  rename_i htrigger
  split
  · exact .inr ⟨_, rfl⟩
  rename_i hunique
  refine .inl ⟨?_, by rwa [Bool.not_eq_false] at hunique, rfl⟩
  intro hadmin
  refine ⟨?_, ?_⟩
  · by_contra hrole
    exact htrigger ⟨hadmin, .inl hrole⟩
  · by_contra hdisabled
    exact htrigger ⟨hadmin, .inr (by rwa [Bool.not_eq_false] at hdisabled)⟩

theorem deleteUserRow_cases (id : String) {d : Database} {u : AccountRow}
    (hu : d.users.lookup id = some u) :
    (u.role ≠ .SUPER_ADMIN ∧
      deleteUserRow id d = (.ok (),
        { d with
          users := d.users.erase id
          sessions := d.sessions.restrict (fun _ s => decide (s.userID ≠ id))
          roomMembers := d.roomMembers.restrict (fun k _ => decide (k.2 ≠ id)) })) ∨
    ∃ e, deleteUserRow id d = (.error e, d) := by
  rw [deleteUserRow]
  simp only [hu]
  split
  · exact .inr ⟨_, rfl⟩
  rename_i hrole
  split
  · exact .inr ⟨_, rfl⟩
  · exact .inl ⟨hrole, rfl⟩

/-- `UpdateUser` rewrites the row of an existing user and ends the user's sessions, or does
    nothing. -/
theorem updateUser_cases (id username nickname hash : String) (disabled : Bool) (now : Int64)
    (d : Database) :
    (∃ u, d.users.lookup id = some u ∧ (u.role = .SUPER_ADMIN → disabled = false) ∧
      d.admits id (editRow username nickname hash disabled now u) = true ∧
      updateUser id username nickname hash disabled now d = (.ok (),
        { d with
          users := d.users.update id (editRow username nickname hash disabled now)
          sessions := d.sessions.restrict (fun _ s => decide (s.userID ≠ id)) })) ∨
    ∃ e, updateUser id username nickname hash disabled now d = (.error e, d) := by
  rw [updateUser]
  cases hu : d.users.lookup id with
  | none => exact .inr ⟨_, rfl⟩
  | some u =>
      simp only
      split
      · exact .inr ⟨_, rfl⟩
      · obtain ⟨hadmin, hunique, hrow⟩ | ⟨e, hrow⟩ :=
          updateUserRow_cases id (editRow username nickname hash disabled now) hu
        · rw [hrow]
          exact .inl ⟨u, rfl, fun h => (hadmin h).2, hunique, rfl⟩
        · rw [hrow]
          exact .inr ⟨e, rfl⟩

/-- `UpdateUser` reads and writes `users` apart from the other tables. -/
theorem updateUser_congr (id username nickname hash : String) (disabled : Bool) (now : Int64)
    {d d' : Database} (h : d'.users = d.users) :
    (updateUser id username nickname hash disabled now d').1
      = (updateUser id username nickname hash disabled now d).1 ∧
    (updateUser id username nickname hash disabled now d').2.users
      = (updateUser id username nickname hash disabled now d).2.users := by
  have hadmits : ∀ u, d'.admits id u = d.admits id u := by
    intro u
    rw [admits, admits, h]
  simp only [updateUser, updateUserRow, hadmits, h]
  cases d.users.lookup id with
  | none => exact ⟨rfl, h⟩
  | some u =>
      let new := editRow username nickname hash disabled now u
      simp only
      by_cases hadmin : u.role = .SUPER_ADMIN ∧ disabled = true
      · simp only [if_pos hadmin]
        exact ⟨trivial, h⟩
      simp only [if_neg hadmin]
      by_cases htrigger : u.role = .SUPER_ADMIN ∧ (new.role ≠ .SUPER_ADMIN ∨ new.disabled = true)
      · simp only [new, if_pos htrigger]
        exact ⟨trivial, h⟩
      simp only [new, if_neg htrigger]
      by_cases hunique : d.admits id new = false
      · simp only [new, if_pos hunique]
        exact ⟨trivial, h⟩
      simp only [new, if_neg hunique]
      exact ⟨trivial, trivial⟩

/-- `DeleteUser` deletes an existing user, who is not the super administrator, with the
    user's sessions, or does nothing. -/
theorem deleteUser_cases (id adminID : String) (d : Database) :
    (∃ u media, d.users.lookup id = some u ∧ u.role ≠ .SUPER_ADMIN ∧
      deleteUser id adminID d = (.ok (),
        { d with
          users := d.users.erase id
          sessions := d.sessions.restrict (fun _ s => decide (s.userID ≠ id))
          roomMembers := d.roomMembers.restrict (fun k _ => decide (k.2 ≠ id))
          media := media })) ∨
    ∃ e, deleteUser id adminID d = (.error e, d) := by
  rw [deleteUser]
  cases hu : d.users.lookup id with
  | none => exact .inr ⟨_, rfl⟩
  | some u =>
      simp only
      split
      · exact .inr ⟨_, rfl⟩
      split
      · exact .inr ⟨_, rfl⟩
      split
      · exact .inr ⟨_, rfl⟩
      · let media := d.media.modify (fun _ m =>
          if m.ownerUserID = id then { m with ownerUserID := adminID } else m)
        obtain ⟨hrole, hrow⟩ | ⟨e, hrow⟩ :=
          deleteUserRow_cases id (d := { d with media := media }) hu
        · rw [hrow]
          exact .inl ⟨u, media, rfl, hrole, rfl⟩
        · rw [hrow]
          exact .inr ⟨e, rfl⟩

theorem createSession_cases (id : String) (s : SessionRow) (d : Database) :
    (id ∉ d.sessions ∧ (∀ x ∈ d.sessions.rows, x.tokenHash ≠ s.tokenHash) ∧ s.userID ∈ d.users ∧
      createSession id s d = (.ok (), { d with sessions := d.sessions.insert id s })) ∨
    ∃ e, createSession id s d = (.error e, d) := by
  rw [createSession]
  split
  · exact .inr ⟨_, rfl⟩
  rename_i hfree
  rw [not_or, List.any_eq_true] at hfree
  split
  · rename_i huser
    exact .inl ⟨hfree.1, fun x hx heq => hfree.2 ⟨x, hx, by simp [heq]⟩, huser, rfl⟩
  · exact .inr ⟨_, rfl⟩

/-- A session is created for a user who is enabled and has the hash. -/
theorem createSessionForPassword_cases (id userID passwordHash tokenHash csrfHash : String)
    (expires now : Int64) (ip ua : String) (d : Database) :
    (∃ u, d.users.lookup userID = some u ∧ u.passwordHash = passwordHash ∧ u.disabled = false ∧
      id ∉ d.sessions ∧ (∀ x ∈ d.sessions.rows, x.tokenHash ≠ tokenHash) ∧
      createSessionForPassword id userID passwordHash tokenHash csrfHash expires now ip ua d
        = (.ok (), { d with
            sessions := d.sessions.insert id
              ⟨userID, tokenHash, csrfHash, expires, now, now, ip, ua⟩ })) ∨
    ∃ e, createSessionForPassword id userID passwordHash tokenHash csrfHash expires now ip ua d
      = (.error e, d) := by
  rw [createSessionForPassword]
  split
  · rename_i hany
    obtain ⟨u, hu, hguard⟩ := Option.any_eq_true _ _ |>.mp hany
    rw [Bool.and_eq_true, decide_eq_true_eq, Bool.not_eq_true'] at hguard
    obtain ⟨hid, htoken, -, hrow⟩ | ⟨e, hrow⟩ := createSession_cases id
      ⟨userID, tokenHash, csrfHash, expires, now, now, ip, ua⟩ d
    · exact .inl ⟨u, hu, hguard.1, hguard.2, hid, htoken, hrow⟩
    · exact .inr ⟨e, hrow⟩
  · exact .inr ⟨_, rfl⟩

end Database

-- ============================================================================
-- Sessions over a statement
-- ============================================================================

/-- The session that the statement inserts, if it succeeds. -/
def Statement.newSession : Statement → Option (String × SessionRow)
  | createSession id s => some (id, s)
  | createSessionForPassword id userID _ tokenHash csrfHash expires now ip ua =>
      some (id, ⟨userID, tokenHash, csrfHash, expires, now, now, ip, ua⟩)
  | _ => none

/-- The guest session that the statement inserts, if it succeeds. -/
def Statement.newGuestSession : Statement → Option (String × GuestRow)
  | createGuestSession id g => some (id, g)
  | _ => none

/-- The session was there before the statement, which wrote at most its `last_seen_at_ms`
    and left its user alone. -/
def SessionKept (d d' : Database) (k : String) (s' : SessionRow) : Prop :=
  ∃ s, d.sessions.lookup k = some s ∧ s' = { s with lastSeenAtMs := s'.lastSeenAtMs } ∧
    ∀ u, d.users.lookup s.userID = some u → d'.users.lookup s.userID = some u

/-- The statement has inserted the session: its user was there, and no session had its
    token. -/
structure SessionMade (d d' : Database) (s : SessionRow) : Prop where
  users : d'.users = d.users
  user : s.userID ∈ d.users
  token : ∀ x ∈ d.sessions.rows, x.tokenHash ≠ s.tokenHash

theorem SessionKept.of_lookup {d d' : Database} {k : String} {s : SessionRow}
    (hsession : d.sessions.lookup k = some s)
    (husers : ∀ u, d.users.lookup s.userID = some u → d'.users.lookup s.userID = some u) :
    SessionKept d d' k s := ⟨s, hsession, rfl, husers⟩

/-- The sessions that are left when those of one user are deleted with a change of that
    user's row. -/
theorem SessionKept.of_restrict {d d' : Database} {id k : String} {s' : SessionRow}
    (husers : ∀ i, i ≠ id → d'.users.lookup i = d.users.lookup i)
    (h : (d.sessions.restrict (fun _ s => decide (s.userID ≠ id))).lookup k = some s') :
    SessionKept d d' k s' := by
  rw [AList.lookup_restrict, Option.filter_eq_some_iff, decide_eq_true_eq] at h
  exact .of_lookup h.1 (fun u hu => (husers _ h.2).trans hu)

theorem sessionKept_updateUser {id username nickname hash : String} {disabled : Bool}
    {now : Int64} {d : Database} {k : String} {s' : SessionRow}
    (h : (Database.updateUser id username nickname hash disabled now d).2.sessions.lookup k
      = some s') :
    SessionKept d (Database.updateUser id username nickname hash disabled now d).2 k s' := by
  obtain ⟨u, -, -, -, hrow⟩ | ⟨e, hrow⟩ :=
    Database.updateUser_cases id username nickname hash disabled now d
  · rw [hrow] at h ⊢
    exact .of_restrict (fun i hi => AList.lookup_update_ne hi _ _) h
  · rw [hrow] at h ⊢
    exact .of_lookup h (fun u hu => hu)

theorem sessionKept_deleteUser {id adminID : String} {d : Database} {k : String}
    {s' : SessionRow} (h : (Database.deleteUser id adminID d).2.sessions.lookup k = some s') :
    SessionKept d (Database.deleteUser id adminID d).2 k s' := by
  obtain ⟨u, media, -, -, hrow⟩ | ⟨e, hrow⟩ := Database.deleteUser_cases id adminID d
  · rw [hrow] at h ⊢
    exact .of_restrict (fun i hi => AList.lookup_erase_ne hi) h
  · rw [hrow] at h ⊢
    exact .of_lookup h (fun u hu => hu)

theorem sessionKept_createUser {u : User} {hash : String} {now : Int64} {d : Database}
    {k : String} {s' : SessionRow}
    (h : (Database.createUser u hash now d).2.sessions.lookup k = some s') :
    SessionKept d (Database.createUser u hash now d).2 k s' := by
  rw [Database.createUser] at h ⊢
  obtain ⟨hfree, -, hrow⟩ | ⟨e, hrow⟩ := Database.insertUser_cases u.id _ d
  · rw [hrow] at h ⊢
    refine .of_lookup h (fun v hv => ?_)
    have hne : s'.userID ≠ u.id := fun heq => hfree (heq ▸ AList.mem_of_lookup hv)
    exact (AList.lookup_insert_ne hne).trans hv
  · rw [hrow] at h ⊢
    exact .of_lookup h (fun u hu => hu)

theorem session_createSession {id : String} {s : SessionRow} {d : Database} {k : String}
    {s' : SessionRow} (h : (Database.createSession id s d).2.sessions.lookup k = some s') :
    (k = id ∧ s' = s ∧ SessionMade d (Database.createSession id s d).2 s) ∨
      SessionKept d (Database.createSession id s d).2 k s' := by
  obtain ⟨-, htoken, huser, hrow⟩ | ⟨e, hrow⟩ := Database.createSession_cases id s d
  · rw [hrow] at h ⊢
    obtain ⟨hk, hs⟩ | ⟨-, hold⟩ := AList.lookup_insert_iff.mp h
    · exact .inl ⟨hk, hs, rfl, huser, htoken⟩
    · exact .inr (.of_lookup hold (fun u hu => hu))
  · rw [hrow] at h ⊢
    exact .inr (.of_lookup h (fun u hu => hu))

/-- The statement writes `users` or `sessions`. -/
def Statement.onAccounts : Statement → Bool
  | createUser .. | updateUser .. | deleteUser .. | createSession .. | createSessionForPassword ..
  | touchSession .. | deleteSession .. | cleanup .. => true
  | _ => false

theorem accounts_perform {st : Statement} {d : Database} (hst : st.onAccounts = false) :
    (st.perform d).2.users = d.users ∧ (st.perform d).2.sessions = d.sessions := by
  cases st with
  | createRoom r now =>
      simp only [Statement.perform, Database.createRoom]
      repeat' split
      all_goals exact ⟨rfl, rfl⟩
  | deleteRoom id =>
      simp only [Statement.perform, Database.deleteRoom]
      split <;> exact ⟨rfl, rfl⟩
  | createInvite id i =>
      simp only [Statement.perform, Database.createInvite]
      repeat' split
      all_goals exact ⟨rfl, rfl⟩
  | consumeInvite id =>
      simp only [Statement.perform, Database.consumeInvite]
      split <;> exact ⟨rfl, rfl⟩
  | createMediaUpload mediaID m uploadID =>
      simp only [Statement.perform, Database.createMediaUpload]
      repeat' split
      all_goals exact ⟨rfl, rfl⟩
  | completeUpload id now =>
      simp only [Statement.perform, Database.completeUpload, Database.settleUpload]
      split <;> exact ⟨rfl, rfl⟩
  | failUpload id now =>
      simp only [Statement.perform, Database.failUpload, Database.settleUpload]
      split <;> exact ⟨rfl, rfl⟩
  | createUser | updateUser | deleteUser | createSession | createSessionForPassword
  | touchSession | deleteSession | cleanup => exact absurd (show true = false from hst) (by decide)
  | _ => exact ⟨rfl, rfl⟩

/-- **Sessions over a statement.**  Every session after a statement is the one it inserts,
    or was there before, and then its user's row is the same. -/
theorem session_perform {st : Statement} {d : Database} {k : String} {s' : SessionRow}
    (h : (st.perform d).2.sessions.lookup k = some s') :
    (st.newSession = some (k, s') ∧ SessionMade d (st.perform d).2 s') ∨
      SessionKept d (st.perform d).2 k s' := by
  by_cases hst : st.onAccounts = false
  · obtain ⟨husers, hsessions⟩ := accounts_perform (d := d) hst
    rw [hsessions] at h
    exact .inr (.of_lookup h (fun u hu => by rw [husers]; exact hu))
  cases st with
  | createUser u hash now => exact .inr (sessionKept_createUser h)
  | updateUser id username nickname hash disabled now => exact .inr (sessionKept_updateUser h)
  | deleteUser id adminID => exact .inr (sessionKept_deleteUser h)
  | createSession id s =>
      obtain ⟨rfl, rfl, hmade⟩ | hkept := session_createSession h
      · exact .inl ⟨rfl, hmade⟩
      · exact .inr hkept
  | createSessionForPassword id userID passwordHash tokenHash csrfHash expires now ip ua =>
      simp only [Statement.perform, Database.createSessionForPassword] at h ⊢
      split at h
      · rename_i hguard
        rw [if_pos hguard]
        obtain ⟨rfl, rfl, hmade⟩ | hkept := session_createSession h
        · exact .inl ⟨rfl, hmade⟩
        · exact .inr hkept
      · rename_i hguard
        rw [if_neg hguard]
        exact .inr (.of_lookup h (fun u hu => hu))
  | touchSession tokenHash now =>
      obtain ⟨s, hs, rfl⟩ := Option.map_eq_some_iff.mp ((AList.lookup_modify _ _ k).symm.trans h)
      refine .inr ⟨s, hs, ?_, fun u hu => hu⟩
      split <;> rfl
  | deleteSession tokenHash =>
      have hold := (AList.lookup_restrict _ _ k).symm.trans h
      exact .inr (.of_lookup (Option.filter_eq_some_iff.mp hold).1 (fun u hu => hu))
  | cleanup now =>
      have hold := (AList.lookup_restrict _ _ k).symm.trans h
      exact .inr (.of_lookup (Option.filter_eq_some_iff.mp hold).1 (fun u hu => hu))
  | _ => exact absurd rfl hst

/-- The statement is on accounts and their sessions. -/
def Statement.ofAccounts : Statement → Bool
  | createUser .. | updateUser .. | deleteUser .. | createSession .. | createSessionForPassword ..
  | touchSession .. | deleteSession .. => true
  | _ => false

/-- Such a statement writes only `users` and `sessions`, and what goes with a user: the
    memberships, which are deleted, and the media, which are handed over. -/
theorem accounts_frame {st : Statement} (hst : st.ofAccounts = true) (d : Database) :
    ∃ users sessions roomMembers media, (st.perform d).2 =
      { d with
        users := users, sessions := sessions, roomMembers := roomMembers, media := media } := by
  cases st with
  | createUser u hash now =>
      rw [Statement.perform, Database.createUser]
      obtain ⟨-, -, hrow⟩ | ⟨e, hrow⟩ := Database.insertUser_cases u.id _ d
      all_goals
        rw [hrow]
        exact ⟨_, _, _, _, rfl⟩
  | updateUser id username nickname hash disabled now =>
      rw [Statement.perform]
      obtain ⟨u, -, -, -, hrow⟩ | ⟨e, hrow⟩ :=
        Database.updateUser_cases id username nickname hash disabled now d
      all_goals
        rw [hrow]
        exact ⟨_, _, _, _, rfl⟩
  | deleteUser id adminID =>
      rw [Statement.perform]
      obtain ⟨u, media, -, -, hrow⟩ | ⟨e, hrow⟩ := Database.deleteUser_cases id adminID d
      all_goals
        rw [hrow]
        exact ⟨_, _, _, _, rfl⟩
  | createSession id s =>
      rw [Statement.perform]
      obtain ⟨-, -, -, hrow⟩ | ⟨e, hrow⟩ := Database.createSession_cases id s d
      all_goals
        rw [hrow]
        exact ⟨_, _, _, _, rfl⟩
  | createSessionForPassword id userID passwordHash tokenHash csrfHash expires now ip ua =>
      rw [Statement.perform]
      obtain ⟨u, -, -, -, -, -, hrow⟩ | ⟨e, hrow⟩ := Database.createSessionForPassword_cases
        id userID passwordHash tokenHash csrfHash expires now ip ua d
      all_goals
        rw [hrow]
        exact ⟨_, _, _, _, rfl⟩
  | touchSession | deleteSession => exact ⟨_, _, _, _, rfl⟩
  | _ => exact absurd (show false = true from hst) (by decide)

/-- The statement writes `guest_sessions`. -/
def Statement.onGuests : Statement → Bool
  | createGuestSession .. | deleteGuestSession .. | closeRoom .. | deleteRoom .. | cleanup .. => true
  | _ => false

theorem guests_perform {st : Statement} {d : Database} (hst : st.onGuests = false) :
    (st.perform d).2.guestSessions = d.guestSessions := by
  by_cases hacc : st.ofAccounts = true
  · obtain ⟨users, sessions, roomMembers, media, hrow⟩ := accounts_frame hacc d
    rw [hrow]
  cases st with
  | createUser | updateUser | deleteUser | createSession | createSessionForPassword
  | touchSession | deleteSession => exact absurd rfl hacc
  | createRoom r now =>
      simp only [Statement.perform, Database.createRoom]
      repeat' split
      all_goals rfl
  | addMember roomID userID now =>
      simp only [Statement.perform, Database.lift, Store.addMember]
      split <;> rfl
  | transferHost roomID oldID newID now =>
      simp only [Statement.perform, Database.lift, Store.transferHost]
      split <;> rfl
  | reopenRoom roomID now =>
      simp only [Statement.perform, Database.lift, Store.reopenRoom]
      split <;> rfl
  | setRoomMedia roomID mediaID now =>
      simp only [Statement.perform, Database.lift, Store.setRoomMedia]
      split <;> rfl
  | createInvite id i =>
      simp only [Statement.perform, Database.createInvite]
      repeat' split
      all_goals rfl
  | consumeInvite id =>
      simp only [Statement.perform, Database.consumeInvite]
      split <;> rfl
  | createMediaUpload mediaID m uploadID =>
      simp only [Statement.perform, Database.createMediaUpload]
      repeat' split
      all_goals rfl
  | completeUpload id now =>
      simp only [Statement.perform, Database.completeUpload, Database.settleUpload]
      split <;> rfl
  | failUpload id now =>
      simp only [Statement.perform, Database.failUpload, Database.settleUpload]
      split <;> rfl
  | softDeleteMedia id owner now =>
      simp only [Statement.perform, Database.lift, Store.softDeleteMedia]
      split <;> rfl
  | saveCheckpoint c =>
      simp only [Statement.perform, Database.lift, Store.saveCheckpoint]
      split <;> rfl
  | createGuestSession | deleteGuestSession | closeRoom | deleteRoom | cleanup =>
      exact absurd (show true = false from hst) (by decide)
  | _ => rfl

/-- Guest sessions are inserted, with a new token, and deleted and never written. -/
theorem guest_perform {st : Statement} {d : Database} {k : String} {g : GuestRow}
    (h : (st.perform d).2.guestSessions.lookup k = some g) :
    (st.newGuestSession = some (k, g) ∧ ∀ x ∈ d.guestSessions.rows, x.tokenHash ≠ g.tokenHash) ∨
      d.guestSessions.lookup k = some g := by
  by_cases hst : st.onGuests = false
  · rw [guests_perform hst] at h
    exact .inr h
  cases st with
  | createGuestSession id g' =>
      simp only [Statement.perform, Database.lift, Store.createGuestSession] at h
      split at h
      · exact .inr h
      rename_i hfree
      rw [not_or, List.any_eq_true] at hfree
      split at h
      · obtain ⟨rfl, rfl⟩ | ⟨-, hold⟩ := AList.lookup_insert_iff.mp h
        · exact .inl ⟨rfl, fun x hx heq => hfree.2 ⟨x, hx, by simp [heq]⟩⟩
        · exact .inr hold
      · exact .inr h
  | deleteGuestSession roomID id =>
      have hold := (AList.lookup_restrict _ _ k).symm.trans h
      exact .inr (Option.filter_eq_some_iff.mp hold).1
  | closeRoom roomID now =>
      have hold := (AList.lookup_restrict _ _ k).symm.trans h
      exact .inr (Option.filter_eq_some_iff.mp hold).1
  | cleanup now =>
      have hold := (AList.lookup_restrict _ _ k).symm.trans h
      exact .inr (Option.filter_eq_some_iff.mp hold).1
  | deleteRoom id =>
      simp only [Statement.perform, Database.deleteRoom] at h
      split at h
      · have hold := (AList.lookup_restrict _ _ k).symm.trans h
        exact .inr (Option.filter_eq_some_iff.mp hold).1
      · exact .inr h
  | _ => exact absurd rfl hst

-- ============================================================================
-- Invites over a statement
-- ============================================================================

/-- The invite that the statement inserts, if it succeeds. -/
def Statement.newInvite : Statement → Option (String × InviteRow)
  | createInvite id i => some (id, i)
  | _ => none

/-- The statement writes `room_invites`. -/
def Statement.onInvites : Statement → Bool
  | createInvite .. | consumeInvite .. | deleteRoom .. | cleanup .. => true
  | _ => false

theorem invites_perform {st : Statement} {d : Database} (hst : st.onInvites = false) :
    (st.perform d).2.invites = d.invites := by
  by_cases hacc : st.ofAccounts = true
  · obtain ⟨users, sessions, roomMembers, media, hrow⟩ := accounts_frame hacc d
    rw [hrow]
  cases st with
  | createUser | updateUser | deleteUser | createSession | createSessionForPassword
  | touchSession | deleteSession => exact absurd rfl hacc
  | createRoom r now =>
      simp only [Statement.perform, Database.createRoom]
      repeat' split
      all_goals rfl
  | createMediaUpload mediaID m uploadID =>
      simp only [Statement.perform, Database.createMediaUpload]
      repeat' split
      all_goals rfl
  | completeUpload id now =>
      simp only [Statement.perform, Database.completeUpload, Database.settleUpload]
      split <;> rfl
  | failUpload id now =>
      simp only [Statement.perform, Database.failUpload, Database.settleUpload]
      split <;> rfl
  | createInvite | consumeInvite | deleteRoom | cleanup =>
      exact absurd (show true = false from hst) (by decide)
  | _ => rfl

/-- Invites are inserted and deleted, and `ConsumeInvite` counts one use. -/
theorem invite_perform {st : Statement} {d : Database} {k : String} {i' : InviteRow}
    (h : (st.perform d).2.invites.lookup k = some i') :
    st.newInvite = some (k, i') ∨ ∃ i, d.invites.lookup k = some i ∧
      (i' = i ∨ st = .consumeInvite k ∧ i.hasUses = true ∧
        i' = { i with usedCount := i.usedCount + 1 }) := by
  by_cases hst : st.onInvites = false
  · rw [invites_perform hst] at h
    exact .inr ⟨i', h, .inl rfl⟩
  cases st with
  | createInvite id i =>
      simp only [Statement.perform, Database.createInvite] at h
      split at h
      · exact .inr ⟨i', h, .inl rfl⟩
      split at h
      · obtain ⟨rfl, rfl⟩ | ⟨-, hold⟩ := AList.lookup_insert_iff.mp h
        · exact .inl rfl
        · exact .inr ⟨i', hold, .inl rfl⟩
      · exact .inr ⟨i', h, .inl rfl⟩
  | consumeInvite id =>
      simp only [Statement.perform, Database.consumeInvite] at h
      split at h
      · rename_i huses
        refine .inr ?_
        by_cases hk : k = id
        · subst hk
          obtain ⟨i, hi, rfl⟩ := Option.map_eq_some_iff.mp
            ((AList.lookup_update_self _ _ _).symm.trans h)
          rw [hi, Option.any_some] at huses
          exact ⟨i, hi, .inr ⟨rfl, huses, rfl⟩⟩
        · exact ⟨i', (AList.lookup_update_ne hk _ _).symm.trans h, .inl rfl⟩
      · exact .inr ⟨i', h, .inl rfl⟩
  | deleteRoom id =>
      simp only [Statement.perform, Database.deleteRoom] at h
      split at h
      · have hold := (AList.lookup_restrict _ _ k).symm.trans h
        exact .inr ⟨i', (Option.filter_eq_some_iff.mp hold).1, .inl rfl⟩
      · exact .inr ⟨i', h, .inl rfl⟩
  | cleanup now =>
      have hold := (AList.lookup_restrict _ _ k).symm.trans h
      exact .inr ⟨i', (Option.filter_eq_some_iff.mp hold).1, .inl rfl⟩
  | _ => exact absurd rfl hst

-- ============================================================================
-- Rooms over a statement
-- ============================================================================

/-- The statement writes `rooms`. -/
def Statement.onRooms : Statement → Bool
  | createRoom .. | deleteRoom .. | transferHost .. | closeRoom .. | reopenRoom ..
  | setRoomMedia .. | updateRoomTitle .. | updateRoomStatus .. => true
  | _ => false

theorem rooms_perform {st : Statement} {d : Database} (hst : st.onRooms = false) :
    (st.perform d).2.rooms = d.rooms := by
  by_cases hacc : st.ofAccounts = true
  · obtain ⟨users, sessions, roomMembers, media, hrow⟩ := accounts_frame hacc d
    rw [hrow]
  cases st with
  | createUser | updateUser | deleteUser | createSession | createSessionForPassword
  | touchSession | deleteSession => exact absurd rfl hacc
  | createGuestSession id g =>
      simp only [Statement.perform, Database.lift, Store.createGuestSession]
      repeat' split
      all_goals rfl
  | addMember roomID userID now =>
      simp only [Statement.perform, Database.lift, Store.addMember]
      split <;> rfl
  | createInvite id i =>
      simp only [Statement.perform, Database.createInvite]
      repeat' split
      all_goals rfl
  | consumeInvite id =>
      simp only [Statement.perform, Database.consumeInvite]
      split <;> rfl
  | createMediaUpload mediaID m uploadID =>
      simp only [Statement.perform, Database.createMediaUpload]
      repeat' split
      all_goals rfl
  | completeUpload id now =>
      simp only [Statement.perform, Database.completeUpload, Database.settleUpload]
      split <;> rfl
  | failUpload id now =>
      simp only [Statement.perform, Database.failUpload, Database.settleUpload]
      split <;> rfl
  | softDeleteMedia id owner now =>
      simp only [Statement.perform, Database.lift, Store.softDeleteMedia]
      split <;> rfl
  | saveCheckpoint c =>
      simp only [Statement.perform, Database.lift, Store.saveCheckpoint]
      split <;> rfl
  | createRoom | deleteRoom | transferHost | closeRoom | reopenRoom | setRoomMedia
  | updateRoomTitle | updateRoomStatus => exact absurd (show true = false from hst) (by decide)
  | _ => rfl

end WatchTogether.Repository

/-
  WatchTogether.Rooms.HostRow

  The host of a room is recorded twice: in `rooms.host_user_id` and as the role of a row
  of `room_members`.  Four statements write them, `CreateRoom`, `AddMember`, `LeaveMember`
  and `TransferHost`; this module says which of their steps keep the two in step.

  `AddMember` is an upsert and writes the role of the row it finds.  `TransferHost` writes
  the two roles whatever the guard on the old host does, and the old host is the one that
  the actor has in memory.
-/

import WatchTogether.Lib.LabelledRun
import WatchTogether.Repository.Database

namespace WatchTogether.Rooms.HostRow

open LabelledRun Repository

-- ============================================================================
-- The steps
-- ============================================================================

/-- The database, and the `HostUserID` that the actor of each room has. -/
structure System where
  db : Database
  host : String → String

/-- The statements on rooms and memberships. -/
inductive Label where
  | createRoom (r : Room) (now : Int64)
  /-- `AddMember`, through an open join or an invite. -/
  | addMember (roomID userID : String) (now : Int64)
  /-- `LeaveMember` of a user who is not the host. -/
  | leaveMember (roomID userID : String) (now : Int64)
  /-- `cmd.room.transfer_host`; `fault`: the error of a call that is not carried out. -/
  | transferHost (roomID target : String) (now : Int64) (fault : Option StoreError)
  /-- The host has been away for too long. -/
  | hostTimeout (roomID next : String) (now : Int64) (fault : Option StoreError)
  /-- A new actor of the room reads it. -/
  | load (roomID : String)

/-- The user is the host of the room, by the column. -/
def isHost (d : Database) (roomID userID : String) : Bool :=
  (d.rooms.lookup roomID).any (fun r => decide (r.hostUserID = userID))

/-- The `TransferHost` of an actor. -/
def transfer (x : System) (roomID target : String) (now : Int64) (fault : Option StoreError) :
    Outcome :=
  match fault with
  | some e => (.error e, x.db)
  | none => Database.lift (Store.transferHost roomID (x.host roomID) target now) x.db

namespace System

/-- The actor of the room has another host. -/
def setHost (x : System) (roomID host : String) : System :=
  { x with host := fun id => if id = roomID then host else x.host id }

/-- One step. -/
def step (x : System) : Label → System
  | .createRoom r now => { x with db := (x.db.createRoom r now).2 }
  | .addMember roomID userID now =>
      { x with db := (Database.lift (Store.addMember roomID userID now) x.db).2 }
  | .leaveMember roomID userID now =>
      if isHost x.db roomID userID then x
      else { x with db := (Database.lift (Store.leaveMember roomID userID now) x.db).2 }
  | .transferHost roomID target now fault =>
      match transfer x roomID target now fault with
      | (.error _, d) => { x with db := d }
      | (.ok _, d) => { x with db := d }.setHost roomID target
  | .hostTimeout roomID next now fault =>
      -- The error is dropped.
      { x with db := (transfer x roomID next now fault).2 }.setHost roomID next
  | .load roomID =>
      match x.db.rooms.lookup roomID with
      | some r => x.setHost roomID r.hostUserID
      | none => x

end System

-- ============================================================================
-- What must hold
-- ============================================================================

/-- The user has an active row of the room with the role HOST. -/
def ActiveHost (d : Database) (roomID userID : String) : Prop :=
  ∃ m, d.roomMembers.lookup (roomID, userID) = some m ∧ m.leftAtMs = none ∧ m.role = .HOST

/-- The active HOST rows of a room are exactly that of its host. -/
def HostRows (d : Database) : Prop :=
  ∀ roomID r, d.rooms.lookup roomID = some r → ∀ u, ActiveHost d roomID u ↔ u = r.hostUserID

/-- The foreign key of `room_members`. -/
def MembersInRooms (d : Database) : Prop := ∀ k ∈ d.roomMembers, k.1 ∈ d.rooms

/-- A `TransferHost` that is carried out: where the actor's host is the room's, the target
    is another user; where it is not, the target is one of the two. -/
def TransferKeeps (x : System) (roomID target : String) (fault : Option StoreError) : Prop :=
  fault = none → x.db.toDB.activeMember roomID target = true →
    ∀ r, x.db.rooms.lookup roomID = some r →
      if r.hostUserID = x.host roomID then target ≠ r.hostUserID
      else target = r.hostUserID ∨ target = x.host roomID

/-- The steps that keep the host's row. -/
def Keeps (x : System) : Label → Prop
  | .addMember roomID userID _ => userID ∈ x.db.users → isHost x.db roomID userID = false
  | .transferHost roomID target _ fault => TransferKeeps x roomID target fault
  | .hostTimeout roomID next _ fault => TransferKeeps x roomID next fault
  | _ => True

-- ============================================================================
-- One lemma a statement
-- ============================================================================

theorem isHost_iff {d : Database} {roomID userID : String} :
    isHost d roomID userID = true ↔
      ∃ r, d.rooms.lookup roomID = some r ∧ r.hostUserID = userID := by
  simp [isHost, Option.any_eq_true]

theorem isHost_false {d : Database} {roomID userID : String} :
    isHost d roomID userID = false ↔
      ∀ r, d.rooms.lookup roomID = some r → r.hostUserID ≠ userID := by
  rw [← Bool.not_eq_true, isHost_iff]
  simp

/-- The row of a user who is no HOST now is written. -/
theorem activeHost_of_write {d d' : Database} {roomID userID : String}
    (hother : ∀ k, k ≠ (roomID, userID) → d'.roomMembers.lookup k = d.roomMembers.lookup k)
    (hself : ¬ActiveHost d' roomID userID) (room u : String) :
    ActiveHost d' room u ↔ (room, u) ≠ (roomID, userID) ∧ ActiveHost d room u := by
  by_cases hk : (room, u) = (roomID, userID)
  · obtain ⟨rfl, rfl⟩ := Prod.mk.inj hk
    exact ⟨fun h => absurd h hself, fun h => absurd rfl h.1⟩
  · rw [ActiveHost, hother _ hk]
    exact ⟨fun h => ⟨hk, h⟩, fun h => h.2⟩

/-- A statement that ends the HOST row of a user, if there is one, keeps the rows of the
    hosts exactly if the user is no host. -/
theorem hostRows_of_write {d d' : Database} (hd : HostRows d) {roomID userID : String}
    (hrooms : d'.rooms = d.rooms)
    (hwrite : ∀ room u, ActiveHost d' room u ↔ (room, u) ≠ (roomID, userID) ∧ ActiveHost d room u) :
    HostRows d' ↔ isHost d roomID userID = false := by
  rw [isHost_false]
  constructor
  · rintro h r hr rfl
    have hactive := (h roomID r (hrooms ▸ hr) r.hostUserID).mpr rfl
    exact ((hwrite roomID r.hostUserID).mp hactive).1 rfl
  · intro hhost room r hr u
    rw [hrooms] at hr
    rw [hwrite, hd room r hr u]
    constructor
    · exact fun h => h.2
    · rintro rfl
      refine ⟨?_, rfl⟩
      intro heq
      obtain ⟨rfl, hu⟩ := Prod.mk.inj heq
      exact hhost r hr hu

/-- `AddMember`. -/
theorem hostRows_addMember {d : Database} (hd : HostRows d) (roomID userID : String)
    (now : Int64) :
    HostRows (Database.lift (Store.addMember roomID userID now) d).2 ↔
      (userID ∈ d.users → isHost d roomID userID = false) := by
  by_cases hfk : roomID ∈ d.toDB.rooms ∧ userID ∈ d.toDB.users
  · have hrun : (Database.lift (Store.addMember roomID userID now) d).2
        = { d with roomMembers := d.roomMembers.insert (roomID, userID) ⟨.MEMBER, now, none⟩ } := by
      rw [Database.lift, Store.addMember, if_pos hfk]
      rfl
    have huser : userID ∈ d.users := AList.mem_mapRows.mp hfk.2
    have hiff : HostRows (Database.lift (Store.addMember roomID userID now) d).2 ↔
        isHost d roomID userID = false := by
      rw [hrun]
      refine hostRows_of_write hd rfl (activeHost_of_write ?_ ?_)
      · intro k hk
        exact AList.lookup_insert_ne hk
      · rintro ⟨m, hm, -, hrole⟩
        rw [AList.lookup_insert] at hm
        obtain rfl := Option.some.inj hm
        exact absurd hrole (by simp)
    exact hiff.trans ⟨fun h _ => h, fun h => h huser⟩
  · have hrun : (Database.lift (Store.addMember roomID userID now) d).2 = d := by
      rw [Database.lift, Store.addMember, if_neg hfk]
      rfl
    rw [hrun]
    refine ⟨fun _ huser => ?_, fun _ => hd⟩
    rw [isHost_false]
    intro r hr
    exact absurd ⟨AList.mem_of_lookup hr, AList.mem_mapRows.mpr huser⟩ hfk

/-- `LeaveMember` of a user who is not the host. -/
theorem hostRows_leaveMember {d : Database} (hd : HostRows d) {roomID userID : String}
    (hhost : isHost d roomID userID = false) (now : Int64) :
    HostRows (Database.lift (Store.leaveMember roomID userID now) d).2 := by
  have hrooms : (Database.lift (Store.leaveMember roomID userID now) d).2.rooms = d.rooms := rfl
  refine (hostRows_of_write hd hrooms ?_).mpr hhost
  apply activeHost_of_write
  · intro k hk
    exact AList.lookup_update_ne hk _ _
  · rintro ⟨m, hm, hleft, -⟩
    have hrow : (d.roomMembers.lookup (roomID, userID)).map
        (fun m => { m with leftAtMs := some now }) = some m :=
      (AList.lookup_update_self _ _ _).symm.trans hm
    obtain ⟨m', -, rfl⟩ := Option.map_eq_some_iff.mp hrow
    exact absurd hleft (by simp)

/-- The roles after a `TransferHost` that is carried out. -/
theorem activeHost_transferHost {d : Database} {roomID old new : String}
    (hactive : d.toDB.activeMember roomID new = true) (now : Int64) (room u : String) :
    ActiveHost (Database.lift (Store.transferHost roomID old new now) d).2 room u ↔
      if room = roomID then u ≠ old ∧ (u = new ∨ ActiveHost d room u) else ActiveHost d room u := by
  have hrun : (Database.lift (Store.transferHost roomID old new now) d).2.roomMembers
      = (d.roomMembers.update (roomID, new) (fun m => { m with role := .HOST })).update
          (roomID, old) (fun m => { m with role := .MEMBER }) := by
    rw [Database.lift, Store.transferHost, if_pos hactive]
    rfl
  rw [ActiveHost, hrun]
  obtain ⟨n, hn, hleft⟩ := Store.activeMember_iff.mp hactive
  by_cases hroom : room = roomID
  · subst hroom
    rw [if_pos rfl]
    by_cases hold : u = old
    · -- The row of the old host is a member's now.
      subst hold
      rw [AList.lookup_update_self]
      constructor
      · rintro ⟨m, hm, -, hrole⟩
        obtain ⟨m', -, rfl⟩ := Option.map_eq_some_iff.mp hm
        exact absurd hrole (by simp)
      · rintro ⟨hne, -⟩
        exact absurd rfl hne
    · have hk : (room, u) ≠ (room, old) := by simpa using hold
      rw [AList.lookup_update_ne hk]
      by_cases hnew : u = new
      · subst hnew
        have hrow : d.roomMembers.lookup (room, u) = some n := hn
        rw [AList.lookup_update_self, hrow, Option.map_some]
        exact ⟨fun _ => ⟨hold, .inl rfl⟩, fun _ => ⟨_, rfl, hleft, rfl⟩⟩
      · have hk' : (room, u) ≠ (room, new) := by simpa using hnew
        rw [AList.lookup_update_ne hk']
        exact ⟨fun h => ⟨hold, .inr h⟩, fun h => h.2.resolve_left hnew⟩
  · rw [if_neg hroom]
    have hk : ∀ v, (room, u) ≠ (roomID, v) := by
      intro v heq
      exact hroom (Prod.mk.inj heq).1
    rw [AList.lookup_update_ne (hk old), AList.lookup_update_ne (hk new)]
    rfl

/-- The rooms after a `TransferHost` that is carried out. -/
theorem rooms_transferHost {d : Database} {roomID old new : String}
    (hactive : d.toDB.activeMember roomID new = true) (now : Int64) :
    (Database.lift (Store.transferHost roomID old new now) d).2.rooms
      = d.rooms.update roomID (fun r =>
          if r.hostUserID = old then
            { r with hostUserID := new, status := .OPEN, updatedAtMs := now }
          else r) :=
  Store.transferHost_rooms hactive old now

/-- `TransferHost`. -/
theorem hostRows_transferHost {d : Database} (hd : HostRows d) {roomID old new : String}
    (hactive : d.toDB.activeMember roomID new = true) (now : Int64) :
    HostRows (Database.lift (Store.transferHost roomID old new now) d).2 ↔
      ∀ r, d.rooms.lookup roomID = some r →
        if r.hostUserID = old then new ≠ r.hostUserID else new = r.hostUserID ∨ new = old := by
  -- The roles of the room, and its host, after the transfer.
  have hself : ∀ r, d.rooms.lookup roomID = some r →
      ((∀ u, (u ≠ old ∧ (u = new ∨ ActiveHost d roomID u)) ↔
        u = (if r.hostUserID = old then new else r.hostUserID)) ↔
      if r.hostUserID = old then new ≠ r.hostUserID else new = r.hostUserID ∨ new = old) := by
    intro r hr
    have hroles := hd roomID r hr
    split
    · rename_i hold
      constructor
      · intro h heq
        exact ((h new).mpr rfl).1 (heq.trans hold)
      · intro hne u
        rw [hroles]
        constructor
        · rintro ⟨hu, rfl | rfl⟩
          · rfl
          · exact absurd hold hu
        · rintro rfl
          exact ⟨fun heq => hne (heq.trans hold.symm), .inl rfl⟩
    · rename_i hold
      constructor
      · intro h
        by_cases hnew : new = old
        · exact .inr hnew
        · exact .inl ((h new).mp ⟨hnew, .inl rfl⟩)
      · intro hor u
        rw [hroles]
        constructor
        · rintro ⟨hu, rfl | rfl⟩
          · exact hor.resolve_right hu
          · rfl
        · rintro rfl
          exact ⟨hold, .inr rfl⟩
  constructor
  · intro h r hr
    apply (hself r hr).mp
    intro u
    have hroom : (Database.lift (Store.transferHost roomID old new now) d).2.rooms.lookup roomID
        = some (if r.hostUserID = old then
            { r with hostUserID := new, status := .OPEN, updatedAtMs := now } else r) := by
      rw [rooms_transferHost hactive, AList.lookup_update_self, hr, Option.map_some]
    have hafter := h roomID _ hroom u
    rw [activeHost_transferHost hactive, if_pos rfl] at hafter
    rw [hafter]
    split <;> rfl
  · intro hcond room r' hr' u
    rw [activeHost_transferHost hactive]
    rw [rooms_transferHost hactive] at hr'
    by_cases hroom : room = roomID
    · subst hroom
      rw [AList.lookup_update_self] at hr'
      obtain ⟨r, hr, rfl⟩ := Option.map_eq_some_iff.mp hr'
      rw [if_pos rfl]
      refine ((hself r hr).mpr (hcond r hr) u).trans ?_
      split <;> rfl
    · rw [AList.lookup_update_ne hroom] at hr'
      rw [if_neg hroom]
      exact hd room r' hr' u

/-- `CreateRoom`: no row of the room is there before. -/
theorem hostRows_createRoom {d : Database} (hd : HostRows d) (hfk : MembersInRooms d) (r : Room)
    (now : Int64) : HostRows (d.createRoom r now).2 := by
  rw [Database.createRoom]
  split
  · exact hd
  rename_i hfree
  rw [not_or, not_or] at hfree
  split
  · intro room r' hr' u
    obtain ⟨rfl, rfl⟩ | ⟨hne, hold⟩ := AList.lookup_insert_iff.mp hr'
    · constructor
      · rintro ⟨m, hm, -, -⟩
        obtain ⟨hk, -⟩ | ⟨-, hstale⟩ := AList.lookup_insert_iff.mp hm
        · exact (Prod.mk.inj hk).2
        · exact absurd (hfk _ (AList.mem_of_lookup hstale)) hfree.1
      · rintro rfl
        exact ⟨⟨.HOST, now, none⟩, AList.lookup_insert _, rfl, rfl⟩
    · have hk : (room, u) ≠ (r.id, r.hostUserID) := fun heq => hne (Prod.mk.inj heq).1
      rw [ActiveHost, AList.lookup_insert_ne hk]
      exact hd room r' hold u
  · exact hd

-- ============================================================================
-- Runs
-- ============================================================================

theorem membersInRooms_lift {d : Database} (h : MembersInRooms d) {α : Type}
    {f : DB → α × DB} (hmembers : ∀ k ∈ (f d.toDB).2.roomMembers, k ∈ d.roomMembers ∨ k.1 ∈ d.rooms)
    (hrooms : ∀ k ∈ d.rooms, k ∈ (f d.toDB).2.rooms) : MembersInRooms (Database.lift f d).2 := by
  intro k hk
  obtain hold | hroom := hmembers k hk
  · exact hrooms _ (h k hold)
  · exact hrooms _ hroom

theorem membersInRooms_createRoom {d : Database} (h : MembersInRooms d) (r : Room) (now : Int64) :
    MembersInRooms (d.createRoom r now).2 := by
  rw [Database.createRoom]
  split
  · exact h
  split
  · intro k hk
    obtain rfl | hold := AList.mem_insert _ |>.mp hk
    · exact AList.mem_insert _ |>.mpr (.inl rfl)
    · exact AList.mem_insert _ |>.mpr (.inr (h k hold))
  · exact h

theorem membersInRooms_addMember {d : Database} (h : MembersInRooms d) (roomID userID : String)
    (now : Int64) : MembersInRooms (Database.lift (Store.addMember roomID userID now) d).2 := by
  apply membersInRooms_lift h
  · rw [Store.addMember]
    split
    · rename_i hfk
      intro k hk
      obtain rfl | hold := AList.mem_insert _ |>.mp hk
      · exact .inr hfk.1
      · exact .inl hold
    · exact fun k hk => .inl hk
  · rw [Store.addMember]
    split <;> exact fun k hk => hk

theorem membersInRooms_leaveMember {d : Database} (h : MembersInRooms d) (roomID userID : String)
    (now : Int64) : MembersInRooms (Database.lift (Store.leaveMember roomID userID now) d).2 :=
  membersInRooms_lift h (fun _ hk => .inl (AList.mem_modify.mp hk)) (fun _ hk => hk)

theorem membersInRooms_transferHost {d : Database} (h : MembersInRooms d)
    (roomID old new : String) (now : Int64) :
    MembersInRooms (Database.lift (Store.transferHost roomID old new now) d).2 := by
  apply membersInRooms_lift h
  · rw [Store.transferHost]
    split
    · exact fun k hk => .inl (AList.mem_modify.mp (AList.mem_modify.mp hk))
    · exact fun k hk => .inl hk
  · rw [Store.transferHost]
    split
    · exact fun k hk => AList.mem_modify.mpr hk
    · exact fun k hk => hk

/-- The foreign key, and the property. -/
def Inv (x : System) : Prop := MembersInRooms x.db ∧ HostRows x.db

theorem membersInRooms_transfer {x : System} (h : MembersInRooms x.db) (roomID target : String)
    (now : Int64) (fault : Option StoreError) :
    MembersInRooms (transfer x roomID target now fault).2 := by
  cases fault with
  | some e => exact h
  | none => exact membersInRooms_transferHost h _ _ _ _

theorem hostRows_transfer {x : System} (h : HostRows x.db) (roomID target : String) (now : Int64)
    (fault : Option StoreError) :
    HostRows (transfer x roomID target now fault).2 ↔ TransferKeeps x roomID target fault := by
  cases fault with
  | some e => exact ⟨fun _ hnone => absurd hnone (by simp), fun _ => h⟩
  | none =>
      cases hactive : x.db.toDB.activeMember roomID target with
      | true =>
          refine (hostRows_transferHost h hactive now).trans ?_
          exact ⟨fun hcond _ _ => hcond, fun hcond => hcond rfl hactive⟩
      | false =>
          have hrun : (transfer x roomID target now none).2 = x.db := by
            rw [transfer, Database.lift, Store.transferHost_refuses hactive]
            rfl
          rw [hrun]
          refine ⟨fun _ _ htrue => ?_, fun _ => h⟩
          exact absurd (hactive.symm.trans htrue) (by simp)

theorem db_transferHost (x : System) (roomID target : String) (now : Int64)
    (fault : Option StoreError) :
    (x.step (.transferHost roomID target now fault)).db = (transfer x roomID target now fault).2 := by
  rw [System.step]
  split
  · rename_i heq
    rw [heq]
  · rename_i heq
    rw [heq]
    rfl

theorem db_load (x : System) (roomID : String) : (x.step (.load roomID)).db = x.db := by
  rw [System.step]
  split <;> rfl

/-- Every step keeps the foreign key. -/
theorem membersInRooms_step {x : System} (h : MembersInRooms x.db) (l : Label) :
    MembersInRooms (x.step l).db := by
  cases l with
  | createRoom r now => exact membersInRooms_createRoom h r now
  | addMember roomID userID now => exact membersInRooms_addMember h roomID userID now
  | leaveMember roomID userID now =>
      rw [System.step]
      split
      · exact h
      · exact membersInRooms_leaveMember h roomID userID now
  | transferHost roomID target now fault =>
      rw [db_transferHost]
      exact membersInRooms_transfer h roomID target now fault
  | hostTimeout roomID next now fault => exact membersInRooms_transfer h roomID next now fault
  | load roomID =>
      rw [db_load]
      exact h

/-- **Step.**  A step keeps the rows of the hosts exactly if it is one of `Keeps`. -/
theorem hostRows_step {x : System} (h : Inv x) (l : Label) :
    HostRows (x.step l).db ↔ Keeps x l := by
  cases l with
  | createRoom r now => exact ⟨fun _ => trivial, fun _ => hostRows_createRoom h.2 h.1 r now⟩
  | addMember roomID userID now => exact hostRows_addMember h.2 roomID userID now
  | leaveMember roomID userID now =>
      refine ⟨fun _ => trivial, fun _ => ?_⟩
      rw [System.step]
      split
      · exact h.2
      · rename_i hhost
        exact hostRows_leaveMember h.2 (by simpa using hhost) now
  | transferHost roomID target now fault =>
      rw [db_transferHost]
      exact hostRows_transfer h.2 roomID target now fault
  | hostTimeout roomID next now fault => exact hostRows_transfer h.2 roomID next now fault
  | load roomID =>
      rw [db_load]
      exact ⟨fun _ => trivial, fun _ => h.2⟩

/-- **One host row.**  The active HOST rows of every room are exactly its host's in every
    state of a run if and only if no host is added as a member, and every transfer that is
    carried out goes to another user, from the host that the room has. -/
theorem one_host_iff (x : System) (hfk : MembersInRooms x.db) (hinit : HostRows x.db)
    (ls : List Label) :
    (∀ pre post, ls = pre ++ post → HostRows (run System.step x pre).db) ↔
      EachStep System.step Keeps x ls :=
  run_breaks_iff (I := Inv) (J := fun x => HostRows x.db)
    (fun _ l h hl => ⟨membersInRooms_step h.1 l, (hostRows_step h l).mpr hl⟩)
    (fun _ l h hl hrows => hl ((hostRows_step h l).mp hrows)) (fun _ h => h.2) ⟨hfk, hinit⟩

-- ============================================================================
-- Four runs
-- ============================================================================

/-- Three users, and no room. -/
def threeUsers : System where
  db :=
    { Database.empty with
      users := (((∅ : KeyedTable String AccountRow).insert "h"
        ⟨"host", "", "Host", 0, 0, .USER, false⟩).insert "g"
        ⟨"guest", "", "Guest", 0, 0, .USER, false⟩).insert "k"
        ⟨"third", "", "Third", 0, 0, .USER, false⟩ }
  host _ := ""

/-- A room that nobody has left yet. -/
def openRoom : Room :=
  { id := "r", code := "CODE2345", title := "Room", hostUserID := "h", status := .OPEN
    joinPolicy := .OPEN, mediaID := none, maxMembers := 20
    createdAtMs := 1, updatedAtMs := 1, closedAtMs := none }

theorem membersInRooms_threeUsers : MembersInRooms threeUsers.db :=
  fun _ hk => absurd hk (AList.notMem_empty _)

theorem hostRows_threeUsers : HostRows threeUsers.db :=
  fun _ _ hr => absurd hr (AList.lookup_ne_of_empty rfl _ _)

/-- A member joins and is made the host. -/
def handOver : List Label :=
  [ .createRoom openRoom 1, .addMember "r" "g" 2, .load "r", .transferHost "r" "g" 3 none]

theorem one_host_handOver : HostRows (run System.step threeUsers handOver).db := by
  refine (one_host_iff threeUsers membersInRooms_threeUsers hostRows_threeUsers handOver).mpr ?_
    _ [] (List.append_nil _).symm
  refine eachStep_cons.mpr ⟨trivial, eachStep_cons.mpr ⟨fun _ => by decide,
    eachStep_cons.mpr ⟨trivial, eachStep_cons.mpr ⟨?_, eachStep_nil _ _⟩⟩⟩⟩
  intro _ _ r hr
  obtain rfl : openRoom = r := Option.some.inj (Eq.trans (by decide) hr)
  decide

theorem activeHost_iff {d : Database} {roomID userID : String} :
    ActiveHost d roomID userID ↔
      (d.roomMembers.lookup (roomID, userID)).any
        (fun m => m.leftAtMs.isNone && decide (m.role = .HOST)) = true := by
  simp [ActiveHost, Option.any_eq_true]

instance (d : Database) (roomID userID : String) : Decidable (ActiveHost d roomID userID) :=
  decidable_of_iff _ activeHost_iff.symm

/-- The host joins his own room; the host is made the host; and the room's actor, whose
    `TransferHost` to one member has failed, hands it over to another. -/
theorem host_rows_lost :
    ¬HostRows (run System.step threeUsers [.createRoom openRoom 1, .addMember "r" "h" 2]).db ∧
    ¬HostRows (run System.step threeUsers
      [.createRoom openRoom 1, .load "r", .transferHost "r" "h" 2 none]).db ∧
    ¬HostRows (run System.step threeUsers
      [.createRoom openRoom 1, .addMember "r" "g" 2, .addMember "r" "k" 3, .load "r",
        .hostTimeout "r" "g" 4 (some (.failed "database is locked")),
        .transferHost "r" "k" 5 none]).db := by
  refine ⟨?_, ?_, ?_⟩
  · intro h
    have hhost := (h "r" openRoom (by decide) "h").mpr rfl
    exact absurd hhost (by decide)
  · intro h
    have hhost := (h "r" { openRoom with updatedAtMs := 2 } (by decide) "h").mpr rfl
    exact absurd hhost (by decide)
  · intro h
    have hother := (h "r" openRoom (by decide) "k").mp (by decide)
    exact absurd hother (by decide)

end WatchTogether.Rooms.HostRow

/-
  WatchTogether.Rooms.OpenMedia

  The film of an open room.  `SetRoomMedia` asks for a media that is READY and not deleted,
  and `SoftDeleteMedia` for a media that no open room shows; each in one statement.  What a
  closed room shows may be deleted, and `ReopenRoom` asks only for the room's status.

  One room is followed through every message of its actor, over a database that all other
  code writes between any two of the actor's store calls.
-/

import WatchTogether.Repository.Database
import WatchTogether.Rooms.Turn

namespace WatchTogether.Rooms.OpenMedia

open LabelledRun Repository

-- ============================================================================
-- Films
-- ============================================================================

/-- The media is READY and not deleted. -/
def Playable (d : Database) (mediaID : String) : Prop :=
  ∃ m, d.media.lookup mediaID = some m ∧ m.status = .READY ∧ m.deletedAtMs = none

/-- The room, unless it is closed, shows nothing or a playable media. -/
def SafeRow (d : Database) (r : Room) : Prop :=
  r.status ≠ .CLOSED → ∀ m, r.mediaID = some m → Playable d m

/-- The row of the room, if there is one, is safe. -/
def SafeRoom (roomID : String) (d : Database) : Prop :=
  ∀ r, d.rooms.lookup roomID = some r → SafeRow d r

-- ============================================================================
-- All other code
-- ============================================================================

/-- The statements that other code than the room's actor issues on rooms, members and
    media; `Create` gives a room no media. -/
def elsewhere (roomID : String) : Statement → Bool
  | .createRoom r _ => r.mediaID.isNone
  | .addMember .. | .leaveMember .. => true
  | .transferHost k _ _ _ | .closeRoom k _ | .reopenRoom k _ | .setRoomMedia k _ _
  | .updateRoomTitle k _ _ | .updateRoomStatus k _ _ => decide (k ≠ roomID)
  | .createMediaUpload .. | .completeUpload .. | .softDeleteMedia .. | .setMediaDeleteStatus ..
  | .updateMediaMetadata .. => true
  | _ => false

/-- A statement of other code. -/
abbrev Traffic (roomID : String) : Type := { st : Statement // elsewhere roomID st = true }

/-- The status of a deletion is written for a media that has been deleted. -/
def due (d : Database) : Statement → Bool
  | .setMediaDeleteStatus id _ _ => (d.media.lookup id).any (fun m => m.deletedAtMs.isSome)
  | _ => true

/-- The tables after a statement of other code. -/
def write {roomID : String} (d : Database) (t : Traffic roomID) : Database :=
  if due d t.1 then (t.1.perform d).2 else d

-- ============================================================================
-- The database between the calls of an actor
-- ============================================================================

/-- What comes of a store call: what other code writes before it, and whether it fails. -/
structure Fate (roomID : String) where
  writes : List (Traffic roomID)
  fails : Bool

/-- The database, the fates of the coming calls, and every state so far. -/
structure Ledger (roomID : String) where
  db : Database
  fates : List (Fate roomID)
  states : List Database

namespace Ledger

variable {roomID : String}

/-- The database has a new state. -/
def commit (s : Ledger roomID) (d : Database) : Ledger roomID :=
  { s with db := d, states := s.states ++ [d] }

/-- Other code writes before the next call. -/
def absorb (s : Ledger roomID) (ts : List (Traffic roomID)) : Ledger roomID :=
  ts.foldl (fun s t => s.commit (write s.db t)) s

/-- The ledger that the next call finds. -/
def found (s : Ledger roomID) : Ledger roomID :=
  match s.fates with
  | [] => s
  | fate :: rest => ({ s with fates := rest } : Ledger roomID).absorb fate.writes

/-- The next call fails. -/
def failing (s : Ledger roomID) : Bool := s.fates.head?.any (fun fate => fate.fails)

/-- One store call of the actor.  A call that fails leaves the tables alone. -/
def call {ρ : Type} (failed : ρ) (f : DB → ρ × DB) (s : Ledger roomID) : ρ × Ledger roomID :=
  if s.failing then (failed, s.found)
  else ((f s.found.db.toDB).1, s.found.commit (Database.lift f s.found.db).2)

/-- The error of a call that fails. -/
def ioError : StoreError := .failed "disk I/O error"

/-- The store calls of the actor over the ledger. -/
def persistence (roomID : String) : Persistence (Ledger roomID) where
  saveCheckpoint cp := call (.error ioError) (Store.saveCheckpoint cp)
  members k := call ([], some ioError) (Store.persistence.members k)
  transferHost k old new now := call (.error ioError) (Store.transferHost k old new now)
  closeRoom k now := call (.error ioError) (Store.closeRoom k now)
  reopenRoom k now := call (.error ioError) (Store.reopenRoom k now)
  leaveMember k id now := call (.error ioError) (Store.leaveMember k id now)
  setRoomMedia k id now := call (.error ioError) (Store.setRoomMedia k id now)
  updateMediaMetadata id d w h now := call (.error ioError) (Store.updateMediaMetadata id d w h now)
  deleteGuestSession k id := call (.error ioError) (Store.deleteGuestSession k id)
  updateRoomStatus k status now := call (.error ioError) (Store.updateRoomStatus k status now)
  updateRoomTitle k title now := call (.error ioError) (Store.updateRoomTitle k title now)

/-- The handler is done, and so are the writes it did not wait for. -/
def flush (s : Ledger roomID) : Ledger roomID :=
  ({ s with fates := [] } : Ledger roomID).absorb (s.fates.flatMap (fun fate => fate.writes))

end Ledger

-- ============================================================================
-- Runs
-- ============================================================================

/-- What may happen to the actor of the room. -/
inductive Life (roomID : String) where
  /-- A message, with the answers of the outside and the fates of the calls. -/
  | serve (env : Env) (msg : Msg) (fates : List (Fate roomID))
  /-- The process ends, and an actor of the room is started from its rows. -/
  | restart (grace : Nat)

/-- `NewActor` over the row of the room, if there is one. -/
def reload {roomID : String} (s : Ledger roomID) (grace : Nat) : Option (Actor (Ledger roomID)) :=
  (s.db.rooms.lookup roomID).map (fun r =>
    newActor { r with id := roomID } (s.db.checkpoints.lookup roomID) s grace)

/-- The fates of the coming calls are drawn. -/
def withFates {roomID : String} (a : Actor (Ledger roomID)) (fates : List (Fate roomID)) :
    Actor (Ledger roomID) :=
  { a with store := { a.store with fates := fates } }

/-- One step in the life of the actor. -/
def step {roomID : String} (a : Actor (Ledger roomID)) : Life roomID → Actor (Ledger roomID)
  | .serve env msg fates =>
      let a := ((withFates a fates).process (Ledger.persistence roomID) env msg).1
      { a with store := a.store.flush }
  | .restart grace => (reload a.store grace).getD a

/-- `ReopenRoom` is carried out on the closed room, whose media is not playable. -/
def Revives {roomID : String} (a : Actor (Ledger roomID)) : Life roomID → Prop
  | .serve _ msg fates =>
      msg = .reopen ∧ a.stopped = false ∧ a.room.status = .CLOSED ∧
        (withFates a fates).store.failing = false ∧
        ∃ r m, (withFates a fates).store.found.db.rooms.lookup roomID = some r ∧
          r.status = .CLOSED ∧ r.mediaID = some m ∧
          ¬Playable (withFates a fates).store.found.db m
  | .restart _ => False

-- ============================================================================
-- One lemma a statement of other code
-- ============================================================================

/-- The row stays as it is, and so does its film, if the room is open. -/
def Leaves (roomID : String) (r : Room) (d' : Database) : Prop :=
  d'.rooms.lookup roomID = some r ∧ SafeRow d' r

theorem Leaves.of_media {roomID : String} {d d' : Database} {r : Room} (hsafe : SafeRow d r)
    (hroom : d'.rooms.lookup roomID = some r) (hmedia : d'.media = d.media) :
    Leaves roomID r d' := by
  refine ⟨hroom, ?_⟩
  intro hopen m hm
  obtain ⟨row, hrow, hready⟩ := hsafe hopen m hm
  exact ⟨row, by rw [hmedia]; exact hrow, hready⟩

/-- A write to one media that keeps it playable, if it is the film of the open room. -/
theorem Leaves.of_update {roomID : String} {d d' : Database} {r : Room} (hsafe : SafeRow d r)
    (hroom : d'.rooms.lookup roomID = some r) {id : String}
    (hother : ∀ m, m ≠ id → d'.media.lookup m = d.media.lookup m)
    (hself : r.status ≠ .CLOSED → r.mediaID = some id → ∀ row, d.media.lookup id = some row →
      row.status = .READY → row.deletedAtMs = none → Playable d' id) : Leaves roomID r d' := by
  refine ⟨hroom, ?_⟩
  intro hopen m hm
  obtain ⟨row, hrow, hready, hkept⟩ := hsafe hopen m hm
  by_cases hid : m = id
  · subst hid
    exact hself hopen hm row hrow hready hkept
  · exact ⟨row, (hother m hid).trans hrow, hready, hkept⟩

variable {roomID : String} {d : Database} {r : Room}

theorem leaves_createRoom (hr : d.rooms.lookup roomID = some r) (hsafe : SafeRow d r) (r' : Room)
    (now : Int64) : Leaves roomID r (d.createRoom r' now).2 := by
  rw [Database.createRoom]
  split
  · exact .of_media hsafe hr rfl
  rename_i hfree
  rw [not_or] at hfree
  split
  · have hne : roomID ≠ r'.id := fun heq => hfree.1 (heq ▸ AList.mem_of_lookup hr)
    exact .of_media hsafe ((AList.lookup_insert_ne hne).trans hr) rfl
  · exact .of_media hsafe hr rfl

theorem leaves_softDeleteMedia (hr : d.rooms.lookup roomID = some r) (hsafe : SafeRow d r)
    (id owner : String) (now : Int64) :
    Leaves roomID r (Database.lift (Store.softDeleteMedia id owner now) d).2 := by
  simp only [Database.lift, Store.softDeleteMedia]
  split
  · rename_i hdeletable
    obtain ⟨row, -, hguard⟩ := Option.any_eq_true _ _ |>.mp hdeletable
    rw [Bool.and_eq_true, Bool.not_eq_true', List.any_eq_false] at hguard
    refine .of_update hsafe hr (fun m hm => AList.lookup_update_ne hm _ _) ?_
    intro hopen hid
    -- The open room would have stopped the deletion.
    have hunused := hguard.2 r (AList.mem_rows.mpr ⟨roomID, hr⟩)
    rw [Bool.and_eq_true, decide_eq_true_eq, decide_eq_true_eq] at hunused
    exact absurd ⟨hid, hopen⟩ hunused
  · exact .of_media hsafe hr rfl

theorem leaves_completeUpload (hr : d.rooms.lookup roomID = some r) (hsafe : SafeRow d r)
    (id : String) (now : Int64) : Leaves roomID r (d.completeUpload id now).2 := by
  rw [Database.completeUpload, Database.settleUpload]
  split
  · exact .of_media hsafe hr rfl
  · refine .of_update hsafe hr (fun m hm => AList.lookup_update_ne hm _ _) ?_
    intro _ _ row hrow _ hkept
    refine ⟨{ row with status := .READY, updatedAtMs := now }, ?_, rfl, hkept⟩
    exact (AList.lookup_update_self _ _ _).trans (congrArg (Option.map _) hrow)

theorem leaves_createMediaUpload (hr : d.rooms.lookup roomID = some r) (hsafe : SafeRow d r)
    (mediaID uploadID : String) (m : MediaRow) :
    Leaves roomID r (d.createMediaUpload mediaID m uploadID).2 := by
  rw [Database.createMediaUpload]
  split
  · exact .of_media hsafe hr rfl
  rename_i hfree
  rw [not_or] at hfree
  split
  · refine ⟨hr, ?_⟩
    intro hopen id hid
    obtain ⟨row, hrow, hready⟩ := hsafe hopen id hid
    have hne : id ≠ mediaID := fun heq => hfree.1 (heq ▸ AList.mem_of_lookup hrow)
    exact ⟨row, (AList.lookup_insert_ne hne).trans hrow, hready⟩
  · exact .of_media hsafe hr rfl

theorem leaves_setMediaDeleteStatus (hr : d.rooms.lookup roomID = some r) (hsafe : SafeRow d r)
    (id : String) (status : MediaStatus) (now : Int64)
    (hdue : due d (.setMediaDeleteStatus id status now) = true) :
    Leaves roomID r (Database.lift (Store.setMediaDeleteStatus id status now) d).2 := by
  refine .of_update hsafe hr (fun m hm => AList.lookup_update_ne hm _ _) ?_
  intro _ _ row hrow _ hkept
  obtain ⟨row', hrow', hdeleted⟩ := Option.any_eq_true _ _ |>.mp hdue
  obtain rfl := Option.some.inj (hrow.symm.trans hrow')
  rw [hkept] at hdeleted
  exact absurd hdeleted (by simp)

theorem leaves_updateMediaMetadata (hr : d.rooms.lookup roomID = some r) (hsafe : SafeRow d r)
    (id : String) (durationMs : Int64) (width height : Int) (now : Int64) :
    Leaves roomID r
      (Database.lift (Store.updateMediaMetadata id durationMs width height now) d).2 := by
  refine .of_update hsafe hr (fun m hm => AList.lookup_update_ne hm _ _) ?_
  intro _ _ row hrow hready hkept
  have hafter : ((Database.lift (Store.updateMediaMetadata id durationMs width height now) d).2.media
      ).lookup id = some { row with
        durationMs := some durationMs, videoWidth := some width, videoHeight := some height,
        updatedAtMs := now } := by
    refine (AList.lookup_update_self _ _ _).trans ?_
    rw [show d.toDB.media.lookup id = some row from hrow, Option.map_some, if_pos hready]
  exact ⟨_, hafter, hready, hkept⟩

/-- **Traffic.**  All other code leaves the room's row, and the film of an open room. -/
theorem leaves_write (hr : d.rooms.lookup roomID = some r) (hsafe : SafeRow d r)
    (t : Traffic roomID) : Leaves roomID r (write d t) := by
  obtain ⟨st, hst⟩ := t
  rw [write]
  split
  swap
  · exact ⟨hr, hsafe⟩
  rename_i hdue
  cases st with
  | createRoom r' now => exact leaves_createRoom hr hsafe r' now
  | addMember k u now =>
      refine .of_media hsafe ?_ ?_
      · simp only [Statement.perform, Database.lift, Store.addMember]
        split <;> exact hr
      · simp only [Statement.perform, Database.lift, Store.addMember]
        split <;> rfl
  | leaveMember k u now => exact .of_media hsafe hr rfl
  | transferHost k old new now =>
      have hk : roomID ≠ k := Ne.symm (of_decide_eq_true hst)
      simp only [Statement.perform, Database.lift, Store.transferHost]
      split
      · exact .of_media hsafe ((AList.lookup_update_ne hk _ _).trans hr) rfl
      · exact .of_media hsafe hr rfl
  | closeRoom k now =>
      have hk : roomID ≠ k := Ne.symm (of_decide_eq_true hst)
      exact .of_media hsafe ((AList.lookup_update_ne hk _ _).trans hr) rfl
  | reopenRoom k now =>
      have hk : roomID ≠ k := Ne.symm (of_decide_eq_true hst)
      simp only [Statement.perform, Database.lift, Store.reopenRoom]
      split
      · exact .of_media hsafe ((AList.lookup_update_ne hk _ _).trans hr) rfl
      · exact .of_media hsafe hr rfl
  | setRoomMedia k m now =>
      have hk : roomID ≠ k := Ne.symm (of_decide_eq_true hst)
      simp only [Statement.perform, Database.lift, Store.setRoomMedia]
      split
      · exact .of_media hsafe ((AList.lookup_update_ne hk _ _).trans hr) rfl
      · exact .of_media hsafe hr rfl
  | updateRoomTitle k title now =>
      have hk : roomID ≠ k := Ne.symm (of_decide_eq_true hst)
      exact .of_media hsafe ((AList.lookup_update_ne hk _ _).trans hr) rfl
  | updateRoomStatus k status now =>
      have hk : roomID ≠ k := Ne.symm (of_decide_eq_true hst)
      exact .of_media hsafe ((AList.lookup_update_ne hk _ _).trans hr) rfl
  | createMediaUpload mediaID m uploadID =>
      exact leaves_createMediaUpload hr hsafe mediaID uploadID m
  | completeUpload id now => exact leaves_completeUpload hr hsafe id now
  | softDeleteMedia id owner now => exact leaves_softDeleteMedia hr hsafe id owner now
  | setMediaDeleteStatus id status now =>
      exact leaves_setMediaDeleteStatus hr hsafe id status now hdue
  | updateMediaMetadata id durationMs width height now =>
      exact leaves_updateMediaMetadata hr hsafe id durationMs width height now
  | _ => exact absurd (show false = true from hst) (by decide)

-- ============================================================================
-- What a call of the actor leaves
-- ============================================================================

/-- Where the room's row is safe and its status has `K`, the write leaves a safe row whose
    status has `K'`. -/
def Takes (roomID : String) (K K' : RoomStatus → Prop) (d d' : Database) : Prop :=
  ∀ r, d.rooms.lookup roomID = some r → SafeRow d r → K r.status →
    ∃ r', d'.rooms.lookup roomID = some r' ∧ SafeRow d' r' ∧ K' r'.status

theorem Leaves.takes {K : RoomStatus → Prop} {d' : Database}
    (h : ∀ r, d.rooms.lookup roomID = some r → SafeRow d r → Leaves roomID r d') :
    Takes roomID K K d d' := by
  intro r hr hsafe hK
  obtain ⟨hr', hsafe'⟩ := h r hr hsafe
  exact ⟨r, hr', hsafe', hK⟩

/-- The row of the room is rewritten, the media are not. -/
theorem Takes.of_update {K K' : RoomStatus → Prop} {d d' : Database} (g : Room → Room)
    (hrooms : d'.rooms = d.rooms.update roomID g) (hmedia : d'.media = d.media)
    (hfilm : ∀ r, (g r).mediaID = r.mediaID)
    (hK : ∀ r, SafeRow d r → K r.status →
      K' (g r).status ∧ ((g r).status ≠ .CLOSED → r.status ≠ .CLOSED)) :
    Takes roomID K K' d d' := by
  intro r hr hsafe hr'
  obtain ⟨hstatus, hopen⟩ := hK r hsafe hr'
  refine ⟨g r, ?_, ?_, hstatus⟩
  · rw [hrooms, AList.lookup_update_self, hr]
    rfl
  · intro hne m hm
    rw [hfilm] at hm
    obtain ⟨row, hrow, hready⟩ := hsafe (hopen hne) m hm
    exact ⟨row, by rw [hmedia]; exact hrow, hready⟩

theorem takes_saveCheckpoint (K : RoomStatus → Prop) (cp : Checkpoint) (d : Database) :
    Takes roomID K K d (Database.lift (Store.saveCheckpoint cp) d).2 := by
  refine Leaves.takes (fun r hr hsafe => .of_media hsafe ?_ ?_)
  · show (Store.saveCheckpoint cp d.toDB).2.rooms.lookup roomID = some r
    rw [Store.saveCheckpoint_rooms]
    exact hr
  · show (Store.saveCheckpoint cp d.toDB).2.media = d.media
    rw [Store.saveCheckpoint]
    split <;> rfl

theorem takes_updateMediaMetadata (K : RoomStatus → Prop) (id : String) (durationMs : Int64)
    (width height : Int) (now : Int64) (d : Database) :
    Takes roomID K K d
      (Database.lift (Store.updateMediaMetadata id durationMs width height now) d).2 :=
  Leaves.takes (fun _ hr hsafe => leaves_updateMediaMetadata hr hsafe id durationMs width height now)

theorem takes_leaveMember (K : RoomStatus → Prop) (k id : String) (now : Int64) (d : Database) :
    Takes roomID K K d (Database.lift (Store.leaveMember k id now) d).2 :=
  Leaves.takes (fun _ hr hsafe => .of_media hsafe hr rfl)

theorem takes_deleteGuestSession (K : RoomStatus → Prop) (k id : String) (d : Database) :
    Takes roomID K K d (Database.lift (Store.deleteGuestSession k id) d).2 :=
  Leaves.takes (fun _ hr hsafe => .of_media hsafe hr rfl)

theorem takes_updateRoomTitle (K : RoomStatus → Prop) (title : String) (now : Int64)
    (d : Database) :
    Takes roomID K K d (Database.lift (Store.updateRoomTitle roomID title now) d).2 :=
  .of_update (fun r => { r with title := title, updatedAtMs := now }) rfl rfl (fun _ => rfl)
    (fun _ _ hK => ⟨hK, fun hne => hne⟩)

/-- An open room gets another status than CLOSED. -/
theorem takes_updateRoomStatus {status : RoomStatus} (hstatus : status ≠ .CLOSED) (now : Int64)
    (d : Database) :
    Takes roomID (fun st => st ≠ .CLOSED) (fun st => st ≠ .CLOSED) d
      (Database.lift (Store.updateRoomStatus roomID status now) d).2 :=
  .of_update (fun r => { r with status := status, updatedAtMs := now }) rfl rfl (fun _ => rfl)
    (fun _ _ hopen => ⟨hstatus, fun _ => hopen⟩)

theorem takes_closeRoom (K : RoomStatus → Prop) (now : Int64) (d : Database) :
    Takes roomID K (fun st => st = .CLOSED) d
      (Database.lift (Store.closeRoom roomID now) d).2 :=
  .of_update (fun r => { r with status := .CLOSED, closedAtMs := some now, updatedAtMs := now })
    rfl rfl (fun _ => rfl) (fun _ _ _ => ⟨rfl, fun hne => absurd rfl hne⟩)

theorem takes_transferHost (old new : String) (now : Int64) (d : Database) :
    Takes roomID (fun st => st ≠ .CLOSED) (fun st => st ≠ .CLOSED) d
      (Database.lift (Store.transferHost roomID old new now) d).2 := by
  cases hactive : d.toDB.activeMember roomID new with
  | false =>
      refine Leaves.takes (fun r hr hsafe => ?_)
      simp only [Database.lift, Store.transferHost_refuses hactive]
      exact .of_media hsafe hr rfl
  | true =>
      refine .of_update _ (Store.transferHost_rooms hactive old now) ?_ ?_ ?_
      · simp only [Database.lift, Store.transferHost]
        split <;> rfl
      · intro r
        split <;> rfl
      · intro r _ hopen
        refine ⟨?_, fun _ => hopen⟩
        split
        · exact RoomStatus.noConfusion
        · exact hopen

/-- `SetRoomMedia` gives the room a playable media, whatever its status. -/
theorem takes_setRoomMedia (K : RoomStatus → Prop) (mediaID : String) (now : Int64)
    (d : Database) :
    Takes roomID K K d (Database.lift (Store.setRoomMedia roomID mediaID now) d).2 := by
  intro r hr hsafe hK
  simp only [Database.lift, Store.setRoomMedia]
  split
  · rename_i hguard
    refine ⟨{ r with mediaID := some mediaID, updatedAtMs := now }, ?_, ?_, hK⟩
    · exact (AList.lookup_update_self _ _ _).trans (congrArg (Option.map _) hr)
    · intro _ m hm
      obtain rfl := Option.some.inj hm
      obtain ⟨row, hrow, hready⟩ := Option.any_eq_true _ _ |>.mp hguard.2
      rw [Bool.and_eq_true, decide_eq_true_eq, Option.isNone_iff_eq_none] at hready
      exact ⟨row, hrow, hready⟩
  · exact ⟨r, hr, hsafe, hK⟩

/-- `ReopenRoom` asks for the status alone, so what it opens has to be playable. -/
theorem takes_reopenRoom {K K' : RoomStatus → Prop} {d : Database} (now : Int64)
    (hplay : ∀ r m, d.rooms.lookup roomID = some r → r.status = .CLOSED →
      r.mediaID = some m → Playable d m)
    (hopened : K' .HOST_DISCONNECTED) (hkept : ∀ st, st ≠ .CLOSED → K st → K' st) :
    Takes roomID K K' d (Database.lift (Store.reopenRoom roomID now) d).2 := by
  intro r hr hsafe hK
  simp only [Database.lift, Store.reopenRoom]
  split
  · rename_i hguard
    have hclosed : r.status = .CLOSED := by
      rw [show d.toDB.rooms.lookup roomID = some r from hr] at hguard
      exact of_decide_eq_true hguard
    refine ⟨_, (AList.lookup_update_self _ _ _).trans (congrArg (Option.map _) hr), ?_, hopened⟩
    intro _ m hm
    exact hplay r m hr hclosed hm
  · rename_i hguard
    have hne : r.status ≠ .CLOSED := by
      rw [show d.toDB.rooms.lookup roomID = some r from hr] at hguard
      exact fun hclosed => hguard (decide_eq_true hclosed)
    exact ⟨r, hr, hsafe, hkept _ hne hK⟩

-- ============================================================================
-- The ledger of a run
-- ============================================================================

/-- The row of the room is there and safe, its status has `K`, and the room has been safe in
    every state so far. -/
def Holds (K : RoomStatus → Prop) (s : Ledger roomID) : Prop :=
  (∃ r, s.db.rooms.lookup roomID = some r ∧ SafeRow s.db r ∧ K r.status) ∧
    ∀ d ∈ s.states, SafeRoom roomID d

namespace Holds

variable {s : Ledger roomID} {K K' : RoomStatus → Prop}

theorem mono (h : Holds K s) (hK : ∀ st, K st → K' st) : Holds K' s := by
  obtain ⟨⟨r, hr, hsafe, hstatus⟩, hstates⟩ := h
  exact ⟨⟨r, hr, hsafe, hK _ hstatus⟩, hstates⟩

/-- A new state of the database. -/
theorem commit {d' : Database} (h : Holds K s) (ht : Takes roomID K K' s.db d') :
    Holds K' (s.commit d') := by
  obtain ⟨⟨r, hr, hsafe, hstatus⟩, hstates⟩ := h
  obtain ⟨r', hr', hsafe', hstatus'⟩ := ht r hr hsafe hstatus
  refine ⟨⟨r', hr', hsafe', hstatus'⟩, ?_⟩
  intro d hd
  rcases List.mem_append.mp hd with hd | hd
  · exact hstates d hd
  · obtain rfl := List.mem_singleton.mp hd
    intro r'' hr''
    obtain rfl := Option.some.inj (hr'.symm.trans hr'')
    exact hsafe'

/-- Other code writes; the induction is on its statements. -/
theorem absorb (h : Holds K s) (ts : List (Traffic roomID)) : Holds K (s.absorb ts) := by
  induction ts generalizing s with
  | nil => exact h
  | cons t ts ih =>
      have hwrite : Takes roomID K K s.db (write s.db t) :=
        Leaves.takes (fun _ hr hsafe => leaves_write hr hsafe t)
      exact ih (h.commit hwrite)

theorem found (h : Holds K s) : Holds K s.found := by
  rw [Ledger.found]
  cases s.fates with
  | nil => exact h
  | cons fate rest =>
      have hrest : Holds K ({ s with fates := rest } : Ledger roomID) := h
      exact hrest.absorb fate.writes

theorem flush (h : Holds K s) : Holds K s.flush := by
  have hnone : Holds K ({ s with fates := [] } : Ledger roomID) := h
  exact hnone.absorb _

/-- **Store calls.**  A call that fails leaves the status, one that is carried out takes it. -/
theorem call {ρ : Type} {failed : ρ} {f : DB → ρ × DB} (h : Holds K s)
    (hfails : s.failing = true → ∀ st, K st → K' st)
    (hdone : s.failing = false →
      Takes roomID K K' s.found.db (Database.lift f s.found.db).2) :
    Holds K' (Ledger.call failed f s).2 := by
  rw [Ledger.call]
  cases hfailing : s.failing with
  | true => exact h.found.mono (hfails hfailing)
  | false => exact h.found.commit (hdone hfailing)

/-- A call that leaves the status. -/
theorem call_keeps {ρ : Type} {failed : ρ} {f : DB → ρ × DB} (h : Holds K s)
    (hf : ∀ d, Takes roomID K K d (Database.lift f d).2) :
    Holds K (Ledger.call failed f s).2 :=
  h.call (fun _ _ hK => hK) (fun _ => hf _)

theorem saveCheckpoint (h : Holds K s) (cp : Checkpoint) :
    Holds K ((Ledger.persistence roomID).saveCheckpoint cp s).2 :=
  h.call_keeps (takes_saveCheckpoint K cp)

theorem members (h : Holds K s) (k : String) :
    Holds K ((Ledger.persistence roomID).members k s).2 :=
  h.call_keeps (fun _ => Leaves.takes (fun _ hr hsafe => .of_media hsafe hr rfl))

theorem leaveMember (h : Holds K s) (k id : String) (now : Int64) :
    Holds K ((Ledger.persistence roomID).leaveMember k id now s).2 :=
  h.call_keeps (takes_leaveMember K k id now)

theorem deleteGuestSession (h : Holds K s) (k id : String) :
    Holds K ((Ledger.persistence roomID).deleteGuestSession k id s).2 :=
  h.call_keeps (takes_deleteGuestSession K k id)

theorem updateMediaMetadata (h : Holds K s) (id : String) (durationMs : Int64)
    (width height : Int) (now : Int64) :
    Holds K
      ((Ledger.persistence roomID).updateMediaMetadata id durationMs width height now s).2 :=
  h.call_keeps (takes_updateMediaMetadata K id durationMs width height now)

theorem setRoomMedia (h : Holds K s) (mediaID : String) (now : Int64) :
    Holds K ((Ledger.persistence roomID).setRoomMedia roomID mediaID now s).2 :=
  h.call_keeps (takes_setRoomMedia K mediaID now)

theorem updateRoomTitle (h : Holds K s) (title : String) (now : Int64) :
    Holds K ((Ledger.persistence roomID).updateRoomTitle roomID title now s).2 :=
  h.call_keeps (takes_updateRoomTitle K title now)

theorem transferHost (h : Holds (fun st => st ≠ .CLOSED) s) (old new : String) (now : Int64) :
    Holds (fun st => st ≠ .CLOSED)
      ((Ledger.persistence roomID).transferHost roomID old new now s).2 :=
  h.call_keeps (takes_transferHost old new now)

theorem updateRoomStatus (h : Holds (fun st => st ≠ .CLOSED) s) {status : RoomStatus}
    (hstatus : status ≠ .CLOSED) (now : Int64) :
    Holds (fun st => st ≠ .CLOSED)
      ((Ledger.persistence roomID).updateRoomStatus roomID status now s).2 :=
  h.call_keeps (takes_updateRoomStatus hstatus now)

end Holds

/-- `CloseRoom` is carried out, or the call fails. -/
theorem holds_closeRoom {s s' : Ledger roomID} {K : RoomStatus → Prop} {now : Int64}
    {res : Except StoreError Unit} (h : Holds K s)
    (hP : (Ledger.persistence roomID).closeRoom roomID now s = (res, s')) :
    (res = .ok () ∧ Holds (fun st => st = .CLOSED) s') ∨ Holds K s' := by
  rw [show s' = _ from (congrArg Prod.snd hP).symm]
  cases hfailing : s.failing with
  | true =>
      refine .inr (h.call (fun _ _ hK => hK) ?_)
      intro hdone
      exact absurd (hdone.symm.trans hfailing) (by decide)
  | false =>
      refine .inl ⟨?_, h.call ?_ (fun _ => takes_closeRoom K now _)⟩
      · refine (congrArg Prod.fst hP).symm.trans ?_
        simp [Ledger.persistence, Ledger.call, hfailing, Store.closeRoom]
      · intro hfails
        exact absurd (hfails.symm.trans hfailing) (by decide)

/-- `ReopenRoom`, where what it finds closed is playable; an `ok` says that the room is
    open. -/
theorem holds_reopenRoom {s s' : Ledger roomID} {K : RoomStatus → Prop} {now : Int64}
    {res : Except StoreError Unit} (h : Holds K s) (hK : K .HOST_DISCONNECTED)
    (hplay : s.failing = false → ∀ r m, s.found.db.rooms.lookup roomID = some r →
      r.status = .CLOSED → r.mediaID = some m → Playable s.found.db m)
    (hP : (Ledger.persistence roomID).reopenRoom roomID now s = (res, s')) :
    Holds K s' ∧ (res = .ok () → Holds (fun st => st ≠ .CLOSED) s') := by
  have hs : s' = _ := (congrArg Prod.snd hP).symm
  have hres : res = _ := (congrArg Prod.fst hP).symm
  constructor
  · rw [hs]
    exact h.call (fun _ _ hst => hst)
      (fun hdone => takes_reopenRoom now (hplay hdone) hK (fun _ _ hst => hst))
  · intro hok
    have hdone : s.failing = false := by
      by_contra hfailing
      rw [hres] at hok
      simp [Ledger.persistence, Ledger.call, hfailing] at hok
    have hopened : Takes roomID K (fun st => st ≠ .CLOSED) s.found.db
        (Database.lift (Store.reopenRoom roomID now) s.found.db).2 :=
      takes_reopenRoom now (hplay hdone) (by decide) (fun _ hne _ => hne)
    rw [hs]
    refine h.call ?_ (fun _ => hopened)
    intro hfails
    exact absurd (hfails.symm.trans hdone) (by decide)

-- ============================================================================
-- One turn of the actor
-- ============================================================================

/-- A room that is closed in the database is closed for the actor, with nobody in it. -/
def Agrees (c : Core) (st : RoomStatus) : Prop :=
  st = .CLOSED → c.room.status = .CLOSED ∧ ∀ k, k ∉ c.members

/-- What holds of the actor and its tables. -/
def Inv (a : Actor (Ledger roomID)) : Prop :=
  a.room.id = roomID ∧ Holds (Agrees a.toCore) a.store

section Turns

variable {s : Ledger roomID} {c c' : Core}

/-- The memory changes, but a closed room stays closed and nobody enters. -/
theorem Holds.kept (h : Holds (Agrees c) s) (hstatus : c.room.status = .CLOSED →
    c'.room.status = .CLOSED) (hmembers : ∀ k, k ∈ c'.members → k ∈ c.members) :
    Holds (Agrees c') s := by
  refine h.mono ?_
  intro st hst hclosed
  obtain ⟨hroom, hnobody⟩ := hst hclosed
  exact ⟨hstatus hroom, fun k hk => hnobody k (hmembers k hk)⟩

/-- Not closed for the actor, so not in the database either. -/
theorem Holds.open_of_status (h : Holds (Agrees c) s) (hstatus : c.room.status ≠ .CLOSED) :
    Holds (fun st => st ≠ .CLOSED) s :=
  h.mono (fun _ hst hclosed => hstatus (hst hclosed).1)

theorem Holds.open_of_member (h : Holds (Agrees c) s) {k : String} {m : RuntimeMember}
    (hm : c.members.lookup k = some m) : Holds (fun st => st ≠ .CLOSED) s :=
  h.mono (fun _ hst hclosed => (hst hclosed).2 k (AList.mem_of_lookup hm))

/-- While the database has the room open, the actor may hold anything. -/
theorem Holds.agrees (h : Holds (fun st => st ≠ .CLOSED) s) (c : Core) : Holds (Agrees c) s :=
  h.mono (fun _ hopen hclosed => absurd hclosed hopen)

variable {env : Env} {a a' : Actor (Ledger roomID)}

theorem inv_hostTurn (hinv : Inv a) {type : CommandType} {p : CommandPayload}
    {r : Except ActorError (Option PlaybackState)}
    (hturn : HostTurn (Ledger.persistence roomID) env a type p a' r) : Inv a' := by
  obtain ⟨hid, hholds⟩ := hinv
  cases hturn with
  | refused e => exact ⟨hid, hholds⟩
  | transferRefused m e store htype hm hguest hP =>
      rw [hid] at hP
      have hopen := (hholds.open_of_member hm).transferHost a.room.hostUserID p.targetUserID
        (env.now 0)
      rw [hP] at hopen
      exact ⟨hid, hopen.agrees _⟩
  | transferred m store htype hm hguest hP =>
      rw [hid] at hP
      have hopen := (hholds.open_of_member hm).transferHost a.room.hostUserID p.targetUserID
        (env.now 0)
      rw [hP] at hopen
      exact ⟨hid, hopen.agrees _⟩
  | kicked m htype hm hhost =>
      refine ⟨hid, Holds.agrees ?_ _⟩
      have hopen := hholds.open_of_member hm
      dsimp only
      split
      · exact hopen.deleteGuestSession _ _
      · exact hopen.leaveMember _ _ _
  | closeFailed e store htype hP =>
      rw [hid] at hP
      rcases holds_closeRoom hholds hP with ⟨hres, -⟩ | hkept
      · exact absurd hres (by simp)
      · exact ⟨hid, hkept.kept (fun _ => rfl) (fun _ hk => hk)⟩
  | closed store htype hP =>
      rw [hid] at hP
      have hnobody : ∀ k, k ∉ ((a.toCore.setStatus .CLOSED).empty).members :=
        fun _ => AList.notMem_empty _
      rcases holds_closeRoom hholds hP with ⟨-, hclosed⟩ | hkept
      · exact ⟨hid, hclosed.mono (fun _ _ _ => ⟨rfl, hnobody⟩)⟩
      · exact ⟨hid, hkept.mono (fun _ _ _ => ⟨rfl, hnobody⟩)⟩
  | mediaRefused e store htype hmedia hP =>
      rw [hid] at hP
      have hkept := hholds.setRoomMedia p.mediaID (env.now 0)
      rw [hP] at hkept
      exact ⟨hid, hkept⟩
  | mediaSet store htype hmedia hP =>
      rw [hid] at hP
      have hkept := hholds.setRoomMedia p.mediaID (env.now 0)
      rw [hP] at hkept
      exact ⟨hid, (hkept.saveCheckpoint _).kept (fun hstatus => hstatus) (fun _ hk => hk)⟩
  | playbackRefused t e hswitch =>
      exact ⟨hid, hholds.kept (fun hstatus => hstatus) (fun _ hk => hk)⟩
  | playbackKept t hswitch =>
      exact ⟨hid, hholds.kept (fun hstatus => hstatus) (fun _ hk => hk)⟩
  | playbackChanged t s hswitch hs =>
      subst hs
      exact ⟨hid, (hholds.saveCheckpoint _).kept (fun hstatus => hstatus) (fun _ hk => hk)⟩

theorem inv_commandTurn (hinv : Inv a) {i : Identity} {c : Command}
    {r : Except ActorError (Option PlaybackState)}
    (hturn : CommandTurn (Ledger.persistence roomID) env a i c a' r) : Inv a' := by
  obtain ⟨hid, hholds⟩ := hinv
  cases hturn with
  | refused e => exact ⟨hid, hholds⟩
  | ignored hm htype => exact ⟨hid, hholds⟩
  | readied p hm htype =>
      exact ⟨hid, hholds.kept (fun hstatus => hstatus) (fun _ hk => Core.mem_withReady.mp hk)⟩
  | measured p s hm htype hhost hs =>
      subst hs
      have hready : Holds (Agrees (a.toCore.withReady i.id p.ready)) a.store :=
        hholds.kept (fun hstatus => hstatus) (fun _ hk => Core.mem_withReady.mp hk)
      exact ⟨hid, (hready.updateMediaMetadata _ _ _ _ _).kept (fun hstatus => hstatus)
        (fun _ hk => hk)⟩
  | host p a' r hp hturn => exact inv_hostTurn ⟨hid, hholds⟩ hturn

/-- **Turns.**  A turn keeps the invariant; what `ReopenRoom` finds has to be playable. -/
theorem inv_turn (hinv : Inv a) {msg : Msg} {r : Reply}
    (hplay : msg = .reopen → a.room.status = .CLOSED →
      a.store.failing = false → ∀ row m, a.store.found.db.rooms.lookup roomID = some row →
        row.status = .CLOSED → row.mediaID = some m → Playable a.store.found.db m)
    (hturn : Turn (Ledger.persistence roomID) env a msg a' r) : Inv a' := by
  obtain ⟨hid, hholds⟩ := hinv
  cases hturn with
  | stopped _ hstopped => exact ⟨hid, hholds⟩
  | joinRefused client e hrefused => exact ⟨hid, hholds⟩
  | joined client s hlive hstatus hroom hback hs =>
      subst hs
      exact ⟨hid, (hholds.open_of_status hstatus).agrees _⟩
  | hostReturned client s hlive hroom hhost hstatus hs =>
      subst hs
      have hopen := hholds.open_of_status (by rw [hstatus]; decide)
      rw [hid]
      exact ⟨by simpa [Core.enter] using hid,
        (hopen.updateRoomStatus (by decide) (env.now 1)).agrees _⟩
  | leaveIgnored id client hm => exact ⟨hid, hholds⟩
  | left id client m hlive hm hclient hhost =>
      exact ⟨hid, (hholds.open_of_member hm).agrees _⟩
  | hostLeft id client m s hlive hm hclient hhost hstatus hs =>
      subst hs
      have hopen := hholds.open_of_member hm
      rw [hid]
      exact ⟨hid, ((hopen.updateRoomStatus (by decide) (env.now 1)).saveCheckpoint _).agrees _⟩
  | expireIgnored hostID store hstore =>
      rcases hstore with rfl | rfl
      · exact ⟨hid, hholds⟩
      · exact ⟨hid, hholds.members _⟩
  | tookOver hostID next m candidate s hlive hstatus hhost hchosen hsome hnext hcand hc hm hguest
      hs =>
      subst hs
      have hopen := (hholds.open_of_member hm).members a.room.id
      rw [hid] at hopen ⊢
      exact ⟨hid, (hopen.transferHost _ _ (env.now 0)).agrees _⟩
  | command i c a' r hlive hturn => exact inv_commandTurn ⟨hid, hholds⟩ hturn
  | snapshot => exact ⟨hid, hholds⟩
  | readied id ready =>
      exact ⟨hid, hholds.kept (fun hstatus => hstatus) (fun _ hk => Core.mem_withReady.mp hk)⟩
  | relayed e => exact ⟨hid, hholds⟩
  | checkpointSkipped hphase => exact ⟨hid, hholds⟩
  | checkpointed hphase => exact ⟨hid, hholds.saveCheckpoint _⟩
  | reopenIgnored hstatus => exact ⟨hid, hholds⟩
  | reopenFailed e store hstatus hP =>
      rw [hid] at hP
      have hK : Agrees a.toCore .HOST_DISCONNECTED := fun h => RoomStatus.noConfusion h
      exact ⟨hid, (holds_reopenRoom hholds hK (hplay rfl hstatus) hP).1⟩
  | reopened store hstatus hP =>
      rw [hid] at hP
      have hK : Agrees a.toCore .HOST_DISCONNECTED := fun h => RoomStatus.noConfusion h
      have hopen := (holds_reopenRoom hholds hK (hplay rfl hstatus) hP).2 rfl
      exact ⟨hid, hopen.agrees _⟩
  | renameFailed title e store hP =>
      rw [hid] at hP
      have hkept := hholds.updateRoomTitle title (env.now 0)
      rw [hP] at hkept
      exact ⟨hid, hkept⟩
  | renamed title store hP =>
      rw [hid] at hP
      have hkept := hholds.updateRoomTitle title (env.now 0)
      rw [hP] at hkept
      exact ⟨hid, hkept.kept (fun hstatus => hstatus) (fun _ hk => hk)⟩
  | halted hlive =>
      refine ⟨by simpa using hid, (hholds.saveCheckpoint _).kept ?_ ?_⟩
      · simp
      · simp

end Turns

-- ============================================================================
-- One step of a run
-- ============================================================================

theorem inv_serve {a : Actor (Ledger roomID)} (hinv : Inv a) (env : Env) (msg : Msg)
    (fates : List (Fate roomID)) (hok : ¬Revives a (.serve env msg fates)) :
    Inv ((withFates a fates).process (Ledger.persistence roomID) env msg).1 := by
  have hfated : Inv (withFates a fates) := hinv
  by_cases hstopped : a.stopped = true
  · have hsame : ((withFates a fates).process (Ledger.persistence roomID) env msg).1
        = withFates a fates := by
      unfold Actor.process
      rw [if_pos (show (withFates a fates).stopped = true from hstopped)]
    rw [hsame]
    exact hfated
  · refine inv_turn hfated ?_ (turn (Ledger.persistence roomID) env (withFates a fates) msg)
    intro hmsg hclosed hdone row m hrow hstatus hm
    by_contra hplay
    exact hok ⟨hmsg, Bool.not_eq_true _ ▸ hstopped, hclosed, hdone, row, m, hrow, hstatus, hm,
      hplay⟩

theorem inv_newActor {s : Ledger roomID} {r : Room} (hr : s.db.rooms.lookup roomID = some r)
    (h : Holds (fun _ => True) s) (checkpoint : Option Checkpoint) (grace : Nat) :
    Inv (newActor { r with id := roomID } checkpoint s grace) := by
  obtain ⟨⟨r', hr', hsafe, -⟩, hstates⟩ := h
  obtain rfl := Option.some.inj (hr.symm.trans hr')
  refine ⟨rfl, ⟨r, hr, hsafe, ?_⟩, hstates⟩
  intro hclosed
  exact ⟨hclosed, fun _ => AList.notMem_empty _⟩

/-- **Steps.**  Unless a closed room is opened with a film that cannot be played, a step
    keeps the invariant. -/
theorem inv_step {a : Actor (Ledger roomID)} (l : Life roomID) (hinv : Inv a)
    (hok : ¬Revives a l) : Inv (step a l) := by
  cases l with
  | serve env msg fates =>
      obtain ⟨hid, hholds⟩ := inv_serve hinv env msg fates hok
      exact ⟨hid, hholds.flush⟩
  | restart grace =>
      obtain ⟨r, hr, -, -⟩ := hinv.2.1
      have hreload : reload a.store grace = some _ := congrArg (Option.map _) hr
      rw [step, hreload, Option.getD_some]
      exact inv_newActor hr (hinv.2.mono (fun _ _ => trivial)) _ grace

namespace Ledger

theorem mem_absorb {s : Ledger roomID} (ts : List (Traffic roomID)) {d : Database}
    (hd : d ∈ s.states) : d ∈ (s.absorb ts).states := by
  induction ts generalizing s with
  | nil => exact hd
  | cons t ts ih => exact ih (List.mem_append_left _ hd)

/-- A call that does not fail is in the ledger. -/
theorem mem_call {ρ : Type} {failed : ρ} {f : DB → ρ × DB} {s : Ledger roomID}
    (hdone : s.failing = false) :
    (Database.lift f s.found.db).2 ∈ (call failed f s).2.states := by
  rw [call, if_neg (by simp [hdone])]
  exact List.mem_append_right _ (List.mem_singleton_self _)

end Ledger

/-- Reopening a closed room is the one store call. -/
theorem store_reopen {σ : Type} (P : Persistence σ) (env : Env) {a : Actor σ}
    (hlive : a.stopped = false) (hclosed : a.room.status = .CLOSED) :
    (a.process P env .reopen).1.store = (P.reopenRoom a.room.id (env.now 0) a.store).2 := by
  unfold Actor.process
  rw [if_neg (by simp [hlive])]
  dsimp only
  rw [Actor.handleReopen, if_neg (not_not.mpr hclosed)]
  rcases P.reopenRoom a.room.id (env.now 0) a.store with ⟨_ | u, store⟩ <;> rfl

/-- What `ReopenRoom` writes for a closed room. -/
theorem reopenRoom_closed (hr : d.rooms.lookup roomID = some r) (hstatus : r.status = .CLOSED)
    (now : Int64) :
    (Database.lift (Store.reopenRoom roomID now) d).2 =
      { d with rooms := d.rooms.update roomID (fun r =>
          { r with status := .HOST_DISCONNECTED, closedAtMs := none, updatedAtMs := now }) } := by
  have hguard : (d.toDB.rooms.lookup roomID).any (fun r => decide (r.status = .CLOSED)) = true := by
    rw [show d.toDB.rooms.lookup roomID = some r from hr]
    exact decide_eq_true hstatus
  simp only [Database.lift, Store.reopenRoom]
  rw [if_pos hguard]
  rfl

/-- Such a step leaves a state in which the open room shows a film that cannot be played. -/
theorem unsafe_of_revives {a : Actor (Ledger roomID)} {l : Life roomID} (hinv : Inv a)
    (h : Revives a l) : ¬∀ d ∈ (step a l).store.states, SafeRoom roomID d := by
  cases l with
  | restart grace => exact h.elim
  | serve env msg fates =>
      obtain ⟨rfl, hlive, hclosed, hdone, r, m, hr, hstatus, hm, hplay⟩ := h
      let s : Ledger roomID := (withFates a fates).store
      let d : Database := (Database.lift (Store.reopenRoom roomID (env.now 0)) s.found.db).2
      have hstore := store_reopen (Ledger.persistence roomID) env
        (show (withFates a fates).stopped = false from hlive) hclosed
      rw [show (withFates a fates).room.id = roomID from hinv.1] at hstore
      have hd : d ∈ (step a (.serve env .reopen fates)).store.states := by
        refine Ledger.mem_absorb _ ?_
        show d ∈ ((withFates a fates).process _ env .reopen).1.store.states
        rw [hstore]
        exact Ledger.mem_call hdone
      have hd' : d = _ := reopenRoom_closed hr hstatus (env.now 0)
      have hrow : d.rooms.lookup roomID = some
          { r with status := .HOST_DISCONNECTED, closedAtMs := none, updatedAtMs := env.now 0 } := by
        rw [hd']
        exact (AList.lookup_update_self _ _ _).trans (congrArg (Option.map _) hr)
      intro hsafe
      obtain ⟨row, hrow', hready⟩ := hsafe d hd _ hrow RoomStatus.noConfusion m hm
      rw [hd'] at hrow'
      exact hplay ⟨row, hrow', hready⟩

-- ============================================================================
-- Every run
-- ============================================================================

/-- The actor of the room is started from its row. -/
def start (roomID : String) (d : Database) (r : Room) (grace : Nat) : Actor (Ledger roomID) :=
  newActor { r with id := roomID } (d.checkpoints.lookup roomID) ⟨d, [], [d]⟩ grace

theorem inv_start {roomID : String} {d : Database} {r : Room}
    (hr : d.rooms.lookup roomID = some r) (hsafe : SafeRow d r) (grace : Nat) :
    Inv (start roomID d r grace) := by
  refine inv_newActor hr ⟨⟨r, hr, hsafe, trivial⟩, ?_⟩ _ grace
  intro d' hd'
  obtain rfl := List.mem_singleton.mp hd'
  intro r' hr'
  obtain rfl := Option.some.inj (hr.symm.trans hr')
  exact hsafe

/-- The room has been safe in every state of the database. -/
def Safe {roomID : String} (a : Actor (Ledger roomID)) : Prop :=
  ∀ d ∈ a.store.states, SafeRoom roomID d

/-- The host's room and his film. -/
def filmHouse : Database where
  users := (∅ : KeyedTable String AccountRow).insert "h" ⟨"host", "", "Host", 0, 0, .USER, false⟩
  sessions := ∅
  rooms := (∅ : KeyedTable String Room).insert "r" (smallRoom "h")
  roomMembers := (∅ : KeyedTable (String × String) MemberRow).insert ("r", "h") ⟨.HOST, 0, none⟩
  invites := ∅
  guestSessions := ∅
  media := (∅ : KeyedTable String MediaRow).insert "film" ⟨"h", none, none, none, .READY, 0, none⟩
  uploads := ∅
  checkpoints := ∅

/-- The host shows his film and closes the room. -/
def evening : List (Life "r") :=
  [ .serve (Env.at 1) (.join (userClient 1 "h")) [],
    .serve (Env.at 2) (.command (user "h") (hostCommand .roomMedia "" 0 "film")) [],
    .serve (Env.at 3) (.command (user "h") (hostCommand .roomClose "" 0 "")) []]

/-- The host reopens the room. -/
def reopening : Life "r" := .serve (Env.at 5) .reopen []

/-- He deletes the film, which the closed room still names. -/
def deletion : Life "r" :=
  .serve (Env.at 4) .snapshot [⟨[⟨.softDeleteMedia "film" "h" 4, rfl⟩], false⟩]

end WatchTogether.Rooms.OpenMedia

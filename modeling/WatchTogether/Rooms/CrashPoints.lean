/-
  WatchTogether.Rooms.CrashPoints

  A room's film is kept in two rows: `rooms.media_id` and the media of the checkpoint.
  The process may stop after any store call, and any call may fail; the next actor is
  then built from the two rows as they are.  This module follows both through every
  prefix of the calls of every message.
-/

import WatchTogether.Rooms.Persisted

namespace WatchTogether.Rooms

open LabelledRun Repository

-- ============================================================================
-- A store with crash points
-- ============================================================================

/-- What comes of the next store call: what other goroutines write before it, and
    whether it fails. -/
structure Fate where
  writes : List StoreWrite
  fails : Bool

/-- The database, the fates of the coming calls, and the tables as they were before each
    call so far. -/
structure Journal where
  db : DB
  fates : List Fate
  trail : List DB

/-- The error of a call that fails. -/
def ioError : StoreError := .failed "disk I/O error"

namespace Journal

/-- The tables the next call finds. -/
def found (s : Journal) : DB :=
  match s.fates with
  | [] => s.db
  | fate :: _ => fate.writes.foldl StoreWrite.perform s.db

/-- The next call fails. -/
def failing (s : Journal) : Bool := s.fates.head?.any (fun fate => fate.fails)

/-- One store call of the actor.  A call that fails leaves the tables alone. -/
def call {ρ : Type} (failed : ρ) (f : DB → ρ × DB) (s : Journal) : ρ × Journal :=
  if s.failing then (failed, ⟨s.found, s.fates.tail, s.trail ++ [s.found]⟩)
  else ((f s.found).1, ⟨(f s.found).2, s.fates.tail, s.trail ++ [s.found]⟩)

/-- The store calls of the actor over the journal. -/
def persistence : Persistence Journal where
  saveCheckpoint cp := call (.error ioError) (Store.saveCheckpoint cp)
  members roomID := call ([], some ioError) (Store.persistence.members roomID)
  transferHost roomID old new now := call (.error ioError) (Store.transferHost roomID old new now)
  closeRoom roomID now := call (.error ioError) (Store.closeRoom roomID now)
  reopenRoom roomID now := call (.error ioError) (Store.reopenRoom roomID now)
  leaveMember roomID id now := call (.error ioError) (Store.leaveMember roomID id now)
  setRoomMedia roomID id now := call (.error ioError) (Store.setRoomMedia roomID id now)
  updateMediaMetadata id d w h now := call (.error ioError) (Store.updateMediaMetadata id d w h now)
  deleteGuestSession roomID id := call (.error ioError) (Store.deleteGuestSession roomID id)
  updateRoomStatus roomID status now := call (.error ioError) (Store.updateRoomStatus roomID status now)
  updateRoomTitle roomID title now := call (.error ioError) (Store.updateRoomTitle roomID title now)

/-- The tables at every point at which the process may stop. -/
def points (s : Journal) : List DB := s.trail ++ [s.db]

end Journal

-- ============================================================================
-- The two rows
-- ============================================================================

/-- Both have the same film, or neither has one. -/
def SameMedia (room : Room) (playback : PlaybackState) : Prop :=
  (room.mediaID = none ∧ playback.mediaID = "") ∨ room.mediaID = some playback.mediaID

/-- The actor that `NewActor` builds from the rows of the room `id` has one film. -/
def Restarts (id : String) (db : DB) : Prop :=
  ∀ room grace, Store.roomByID id db = .ok room →
    SameMedia room (newActor room (db.checkpoints.lookup id) db grace).playback

/-- The film of the room's row and of its checkpoint, where there are such rows. -/
structure MediaRows where
  room : Option (Option String)
  checkpoint : Option (Option String)

/-- The two columns in the tables. -/
def mediaRows (id : String) (db : DB) : MediaRows :=
  ⟨(db.rooms.lookup id).map (fun r => r.mediaID),
    (db.checkpoints.lookup id).map (fun cp => cp.mediaID)⟩

theorem sameMedia_iff {room : Room} {playback : PlaybackState} :
    SameMedia room playback ↔ playback.mediaID = room.mediaID.getD "" := by
  rw [SameMedia]
  cases room.mediaID with
  | none => simp
  | some m =>
      constructor
      · rintro (⟨h, -⟩ | h)
        · exact absurd h (by simp)
        · exact (Option.some.inj h).symm
      · intro h
        exact Or.inr (congrArg some h.symm)

/-- Whether a restart works is a matter of the two columns. -/
theorem restarts_iff {id : String} {db : DB} :
    Restarts id db ↔ ∀ m c, (mediaRows id db).room = some m →
      (mediaRows id db).checkpoint = some c → c.getD "" = m.getD "" := by
  rw [Restarts, mediaRows]
  dsimp only
  cases hroom : db.rooms.lookup id with
  | none => simp [Store.roomByID, hroom]
  | some row =>
      have hread : Store.roomByID id db = .ok { row with id := id } := by
        rw [Store.roomByID, hroom]
      cases hcp : db.checkpoints.lookup id with
      | none =>
          simp only [hread, Option.map_none, Option.map_some]
          constructor
          · intro _ m c _ hc
            exact absurd hc (by simp)
          · intro _ room grace h
            rw [sameMedia_iff]
            rfl
      | some cp =>
          simp only [hread, Option.map_some]
          constructor
          · intro h m c hm hc
            have hsame := sameMedia_iff.mp (h _ 0 rfl)
            rw [← Option.some.inj hm, ← Option.some.inj hc]
            exact hsame
          · intro h room grace hok
            rw [← Except.ok.inj hok, sameMedia_iff]
            exact h _ _ rfl rfl

theorem restarts_congr {id : String} {db db' : DB} (h : mediaRows id db' = mediaRows id db) :
    Restarts id db' ↔ Restarts id db := by
  rw [restarts_iff, restarts_iff, h]

-- ============================================================================
-- Calls and the two rows
-- ============================================================================

/-- The two columns are as before, and were so at every point in between. -/
structure SameRows (id : String) (s s' : Journal) : Prop where
  rows : mediaRows id s'.db = mediaRows id s.db
  between : ∀ db ∈ s'.trail, db ∈ s.trail ∨ mediaRows id db = mediaRows id s.db

theorem sameRows_refl (id : String) (s : Journal) : SameRows id s s :=
  ⟨rfl, fun _ hdb => Or.inl hdb⟩

theorem SameRows.trans {id : String} {s s' s'' : Journal} (h : SameRows id s s')
    (h' : SameRows id s' s'') : SameRows id s s'' := by
  refine ⟨h'.rows.trans h.rows, ?_⟩
  intro db hdb
  rcases h'.between db hdb with hdb | hdb
  · exact h.between db hdb
  · exact Or.inr (hdb.trans h.rows)

theorem perform_checkpoints (db : DB) (w : StoreWrite) :
    (w.perform db).checkpoints = db.checkpoints := by
  cases w with
  | addMember roomID userID now =>
      show (Store.addMember roomID userID now db).2.checkpoints = db.checkpoints
      rw [Store.addMember]
      split <;> rfl
  | leaveMember roomID userID now => rfl
  | createGuestSession id g =>
      show (Store.createGuestSession id g db).2.checkpoints = db.checkpoints
      rw [Store.createGuestSession]
      split
      · rfl
      · split <;> rfl
  | deleteGuestSession roomID id => rfl
  | softDeleteMedia id owner now =>
      show (Store.softDeleteMedia id owner now db).2.checkpoints = db.checkpoints
      unfold Store.softDeleteMedia
      dsimp only
      split <;> rfl
  | setMediaDeleteStatus id status now => rfl

/-- Nobody else writes to the two rows. -/
theorem foldl_perform_mediaRows (id : String) (db : DB) (ws : List StoreWrite) :
    mediaRows id (ws.foldl StoreWrite.perform db) = mediaRows id db := by
  induction ws generalizing db with
  | nil => rfl
  | cons w ws ih =>
      rw [List.foldl_cons, ih, mediaRows, mediaRows, Shared.perform_rooms, perform_checkpoints]

theorem Journal.mediaRows_found (id : String) (s : Journal) :
    mediaRows id s.found = mediaRows id s.db := by
  rw [Journal.found]
  split
  · rfl
  · exact foldl_perform_mediaRows id _ _

theorem Journal.call_db {ρ : Type} (failed : ρ) (f : DB → ρ × DB) (s : Journal) :
    ((Journal.call failed f s).2.db = s.found ∨ (Journal.call failed f s).2.db = (f s.found).2) ∧
      (Journal.call failed f s).2.trail = s.trail ++ [s.found] := by
  rw [Journal.call]
  split
  · exact ⟨Or.inl rfl, rfl⟩
  · exact ⟨Or.inr rfl, rfl⟩

theorem between_append {id : String} {s : Journal} {db : DB}
    (h : db ∈ s.trail ++ [s.found]) : db ∈ s.trail ∨ mediaRows id db = mediaRows id s.db := by
  rcases List.mem_append.mp h with h | h
  · exact Or.inl h
  · rw [List.mem_singleton.mp h]
    exact Or.inr (s.mediaRows_found id)

/-- A call whose statement leaves the two columns alone. -/
theorem sameRows_call {ρ : Type} {failed : ρ} {f : DB → ρ × DB} {id : String}
    (hf : ∀ db, mediaRows id (f db).2 = mediaRows id db) (s : Journal) :
    SameRows id s (Journal.call failed f s).2 := by
  obtain ⟨hdb, htrail⟩ := Journal.call_db failed f s
  refine ⟨?_, ?_⟩
  · rcases hdb with hdb | hdb
    · rw [hdb, s.mediaRows_found]
    · rw [hdb, hf, s.mediaRows_found]
  · intro db hin
    rw [htrail] at hin
    exact between_append hin

/-- An update of `rooms` that keeps every `media_id`. -/
theorem mediaRows_update {id k : String} {db db' : DB} {g : Room → Room}
    (hrooms : db'.rooms = db.rooms.update k g) (hcps : db'.checkpoints = db.checkpoints)
    (hg : ∀ r, (g r).mediaID = r.mediaID) : mediaRows id db' = mediaRows id db := by
  have hlook : ((db.rooms.update k g).lookup id).map (fun r => r.mediaID)
      = (db.rooms.lookup id).map (fun r => r.mediaID) := by
    rw [AList.lookup_update]
    split
    · rename_i heq
      rw [heq, Option.map_map]
      exact congrArg (fun h => Option.map h (db.rooms.lookup k)) (funext hg)
    · rfl
  rw [mediaRows, mediaRows, hrooms, hcps, hlook]

theorem mediaRows_transferHost (id room old new : String) (now : Int64) (db : DB) :
    mediaRows id (Store.transferHost room old new now db).2 = mediaRows id db := by
  cases hactive : db.activeMember room new with
  | true =>
      have hcps : (Store.transferHost room old new now db).2.checkpoints = db.checkpoints := by
        rw [Store.transferHost]
        split <;> rfl
      refine mediaRows_update (Store.transferHost_rooms hactive old now) hcps ?_
      intro r
      split <;> rfl
  | false => rw [Store.transferHost_refuses hactive]

theorem mediaRows_closeRoom (id room : String) (now : Int64) (db : DB) :
    mediaRows id (Store.closeRoom room now db).2 = mediaRows id db := by
  have hrooms : (Store.closeRoom room now db).2.rooms = db.rooms.update room (fun r =>
      { r with status := .CLOSED, closedAtMs := some now, updatedAtMs := now }) := rfl
  exact mediaRows_update hrooms rfl (fun _ => rfl)

theorem mediaRows_reopenRoom (id room : String) (now : Int64) (db : DB) :
    mediaRows id (Store.reopenRoom room now db).2 = mediaRows id db := by
  rcases hcall : Store.reopenRoom room now db with ⟨_ | _, db'⟩
  · rw [Store.reopenRoom_error hcall]
  · have hcps : db'.checkpoints = db.checkpoints := by
      have hdb : db' = (Store.reopenRoom room now db).2 := by rw [hcall]
      rw [hdb, Store.reopenRoom]
      split <;> rfl
    exact mediaRows_update (Store.reopenRoom_ok hcall) hcps (fun _ => rfl)

theorem mediaRows_updateRoomStatus (id room : String) (status : RoomStatus) (now : Int64)
    (db : DB) : mediaRows id (Store.updateRoomStatus room status now db).2 = mediaRows id db := by
  have hrooms : (Store.updateRoomStatus room status now db).2.rooms = db.rooms.update room
      (fun r => { r with status := status, updatedAtMs := now }) := rfl
  exact mediaRows_update hrooms rfl (fun _ => rfl)

theorem mediaRows_updateRoomTitle (id room title : String) (now : Int64) (db : DB) :
    mediaRows id (Store.updateRoomTitle room title now db).2 = mediaRows id db := by
  have hrooms : (Store.updateRoomTitle room title now db).2.rooms = db.rooms.update room
      (fun r => { r with title := title, updatedAtMs := now }) := rfl
  exact mediaRows_update hrooms rfl (fun _ => rfl)

/-- A checkpoint of the room is written, or the call fails. -/
theorem mediaRows_saveCheckpoint (cp : Checkpoint) (db : DB) :
    mediaRows cp.roomID (Store.saveCheckpoint cp db).2 = mediaRows cp.roomID db ∨
      mediaRows cp.roomID (Store.saveCheckpoint cp db).2
        = ⟨(mediaRows cp.roomID db).room, some cp.mediaID⟩ := by
  rw [Store.saveCheckpoint]
  split
  · refine Or.inr ?_
    rw [mediaRows, mediaRows]
    simp
  · exact Or.inl rfl

theorem mediaRows_setRoomMedia {id mediaID : String} {now : Int64} {db db' : DB}
    (h : Store.setRoomMedia id mediaID now db = (.ok (), db')) :
    mediaRows id db' = ⟨some (some mediaID), (mediaRows id db).checkpoint⟩ := by
  rw [Store.setRoomMedia] at h
  split at h
  · rename_i hfound
    obtain ⟨row, hrow⟩ := AList.mem_iff_lookup.mp hfound.1
    obtain ⟨-, rfl⟩ := Prod.mk.inj h
    rw [mediaRows, mediaRows]
    simp [AList.lookup_update_self, hrow]
  · exact absurd (congrArg Prod.fst h) (by simp)

-- ============================================================================
-- The invariant
-- ============================================================================

/-- Memory and row agree on the film, and the process may stop, or have stopped, at any
    point so far. -/
structure CrashSafe (a : Actor Journal) : Prop where
  memory : SameMedia a.room a.playback
  row : (mediaRows a.room.id a.store.db).room = some a.room.mediaID
  points : ∀ db ∈ a.store.points, Restarts a.room.id db

/-- What holds of a safe state for those who cannot look into the tables: one film in
    memory, and one after a restart at any point so far. -/
def OneFilm (a : Actor Journal) : Prop :=
  SameMedia a.room a.playback ∧ ∀ db ∈ a.store.points, Restarts a.room.id db

/-- A turn that keeps the film and leaves the two rows alone. -/
theorem CrashSafe.frame {a a' : Actor Journal} (h : CrashSafe a) (hid : a'.room.id = a.room.id)
    (hroom : a'.room.mediaID = a.room.mediaID)
    (hplayback : a'.playback.mediaID = a.playback.mediaID)
    (hstore : SameRows a.room.id a.store a'.store) : CrashSafe a' := by
  refine ⟨?_, ?_, ?_⟩
  · rw [sameMedia_iff, hroom, hplayback]
    exact sameMedia_iff.mp h.memory
  · rw [hid, hstore.rows, hroom]
    exact h.row
  · intro db hdb
    rw [hid]
    have hnow : Restarts a.room.id a.store.db :=
      h.points _ (List.mem_append_right _ (List.mem_singleton_self _))
    rcases List.mem_append.mp hdb with hdb | hdb
    · rcases hstore.between db hdb with hdb | hdb
      · exact h.points db (List.mem_append_left _ hdb)
      · exact (restarts_congr hdb).mpr hnow
    · rw [List.mem_singleton.mp hdb]
      exact (restarts_congr hstore.rows).mpr hnow

/-- The checkpoint of an actor that is safe keeps it so, written or not. -/
theorem CrashSafe.checkpointed {a : Actor Journal} (h : CrashSafe a) {cp : Checkpoint}
    (hid : cp.roomID = a.room.id) (hmedia : cp.mediaID = a.room.mediaID) (out : List Effect) :
    CrashSafe ⟨a.toCore, (Journal.persistence.saveCheckpoint cp a.store).2, out⟩ := by
  obtain ⟨hdb, htrail⟩ := Journal.call_db (Except.error ioError) (Store.saveCheckpoint cp) a.store
  have hnow : Restarts a.room.id a.store.db :=
    h.points _ (List.mem_append_right _ (List.mem_singleton_self _))
  have hsaved : mediaRows a.room.id (Journal.persistence.saveCheckpoint cp a.store).2.db
        = mediaRows a.room.id a.store.db ∨
      mediaRows a.room.id (Journal.persistence.saveCheckpoint cp a.store).2.db
        = ⟨some a.room.mediaID, some a.room.mediaID⟩ := by
    rw [← hid]
    rcases hdb with hdb | hdb
    · left
      exact (congrArg (mediaRows cp.roomID) hdb).trans (a.store.mediaRows_found cp.roomID)
    · have hcp := mediaRows_saveCheckpoint cp a.store.found
      rw [← hdb, a.store.mediaRows_found, hid, h.row, hmedia] at hcp
      rw [hid]
      exact hcp
  refine ⟨h.memory, ?_, ?_⟩
  · rcases hsaved with hsaved | hsaved
    · exact (congrArg MediaRows.room hsaved).trans h.row
    · exact congrArg MediaRows.room hsaved
  · intro db hin
    rcases List.mem_append.mp hin with hin | hin
    · have hin : db ∈ a.store.trail ++ [a.store.found] := htrail ▸ hin
      rcases between_append hin with hin | hin
      · exact h.points db (List.mem_append_left _ hin)
      · exact (restarts_congr hin).mpr hnow
    · rw [List.mem_singleton.mp hin]
      rcases hsaved with hsaved | hsaved
      · exact (restarts_congr hsaved).mpr hnow
      · refine restarts_iff.mpr ?_
        intro m c hm hc
        rw [hsaved] at hm hc
        rw [← Option.some.inj hm, ← Option.some.inj hc]

theorem sameRows_of_call {ρ : Type} {failed : ρ} {f : DB → ρ × DB} {id : String} {s s' : Journal}
    {r : ρ} (h : Journal.call failed f s = (r, s'))
    (hf : ∀ db, mediaRows id (f db).2 = mediaRows id db) : SameRows id s s' := by
  have hs' : s' = (Journal.call failed f s).2 := by rw [h]
  rw [hs']
  exact sameRows_call hf s

/-- An accepted `SetRoomMedia`. -/
theorem setRoomMedia_call {id mediaID : String} {now : Int64} {s s' : Journal}
    (h : Journal.persistence.setRoomMedia id mediaID now s = (.ok (), s')) :
    mediaRows id s'.db = ⟨some (some mediaID), (mediaRows id s.db).checkpoint⟩ ∧
      s'.trail = s.trail ++ [s.found] := by
  have hcall : Journal.call (.error ioError) (Store.setRoomMedia id mediaID now) s = (.ok (), s') := h
  rw [Journal.call] at hcall
  split at hcall
  · exact absurd (congrArg Prod.fst hcall) (by simp)
  · obtain ⟨hres, rfl⟩ := Prod.mk.inj hcall
    refine ⟨?_, rfl⟩
    have hwrite : Store.setRoomMedia id mediaID now s.found
        = (.ok (), (Store.setRoomMedia id mediaID now s.found).2) := Prod.ext hres rfl
    have hset := mediaRows_setRoomMedia hwrite
    rw [s.mediaRows_found] at hset
    exact hset

/-- The message sets another film than the one the room's checkpoint has. -/
def OvertakesCheckpoint (a : Actor Journal) (l : Env × Msg) : Prop :=
  ∃ i c p, l.2 = .command i c ∧ a.toCore.authorised i c = some p ∧ c.type = .roomMedia ∧
    p.mediaID ≠ "" ∧ ¬p.durationMs < 0 ∧
    (Journal.persistence.setRoomMedia a.room.id p.mediaID (l.1.now 0) a.store).1 = .ok () ∧
    ∃ m, (mediaRows a.room.id a.store.db).checkpoint = some m ∧ m.getD "" ≠ p.mediaID

/-- The room's row has the film `mediaID` and its checkpoint no other. -/
theorem crashSafe_mediaSet {a : Actor Journal} (h : CrashSafe a) {env : Env} {p : CommandPayload}
    {store : Journal}
    (hP : Journal.persistence.setRoomMedia a.room.id p.mediaID (env.now 0) a.store = (.ok (), store))
    (hcp : ∀ m, (mediaRows a.room.id a.store.db).checkpoint = some m → m.getD "" = p.mediaID)
    (out : List Effect) : CrashSafe ⟨a.toCore.withMedia env p, store, out⟩ := by
  obtain ⟨hrows, htrail⟩ := setRoomMedia_call hP
  have hnow : Restarts a.room.id a.store.db :=
    h.points _ (List.mem_append_right _ (List.mem_singleton_self _))
  refine ⟨Or.inr rfl, congrArg MediaRows.room hrows, ?_⟩
  intro db hin
  rcases List.mem_append.mp hin with hin | hin
  · have hin : db ∈ a.store.trail ++ [a.store.found] := htrail ▸ hin
    rcases between_append hin with hin | hin
    · exact h.points db (List.mem_append_left _ hin)
    · exact (restarts_congr hin).mpr hnow
  · rw [List.mem_singleton.mp hin]
    refine restarts_iff.mpr ?_
    intro m c hm hc
    have hrows : mediaRows a.room.id store.db = _ := hrows
    have hm : (mediaRows a.room.id store.db).room = some m := hm
    have hc : (mediaRows a.room.id store.db).checkpoint = some c := hc
    rw [hrows] at hm hc
    rw [← Option.some.inj hm]
    exact hcp c hc

theorem crashSafe_hostTurn {env : Env} {a a' : Actor Journal} {type : CommandType}
    {p : CommandPayload} {r : Except ActorError (Option PlaybackState)} (h : CrashSafe a)
    (hcp : type = .roomMedia → p.mediaID ≠ "" →
      (Journal.persistence.setRoomMedia a.room.id p.mediaID (env.now 0) a.store).1 = .ok () →
      ∀ m, (mediaRows a.room.id a.store.db).checkpoint = some m → m.getD "" = p.mediaID)
    (hturn : HostTurn Journal.persistence env a type p a' r) : CrashSafe a' := by
  have hsame := sameRows_refl a.room.id a.store
  cases hturn with
  | refused e => exact h
  | transferRefused m e store htype hm hguest hP =>
      exact h.frame rfl rfl rfl (sameRows_of_call hP (mediaRows_transferHost _ _ _ _ _))
  | transferred m store htype hm hguest hP =>
      exact h.frame rfl rfl rfl (sameRows_of_call hP (mediaRows_transferHost _ _ _ _ _))
  | kicked m htype hm hhost =>
      refine h.frame rfl rfl rfl ?_
      dsimp only
      split
      · exact sameRows_call (fun _ => rfl) a.store
      · exact sameRows_call (fun _ => rfl) a.store
  | closeFailed e store htype hP =>
      exact h.frame rfl rfl rfl (sameRows_of_call hP (mediaRows_closeRoom _ _ _))
  | closed store htype hP =>
      exact h.frame rfl rfl rfl (sameRows_of_call hP (mediaRows_closeRoom _ _ _))
  | mediaRefused e store htype hid hP =>
      have hcall : Journal.call (.error ioError)
          (Store.setRoomMedia a.room.id p.mediaID (env.now 0)) a.store = (.error e, store) := hP
      have hkept : SameRows a.room.id a.store store := by
        rw [Journal.call] at hcall
        split at hcall
        · obtain ⟨-, rfl⟩ := Prod.mk.inj hcall
          exact ⟨a.store.mediaRows_found _, fun db hin => between_append hin⟩
        · obtain ⟨hres, rfl⟩ := Prod.mk.inj hcall
          have hdb : (Store.setRoomMedia a.room.id p.mediaID (env.now 0) a.store.found).2
              = a.store.found := Store.setRoomMedia_error (Prod.ext hres rfl)
          refine ⟨?_, fun db hin => between_append hin⟩
          exact (congrArg (mediaRows a.room.id) hdb).trans (a.store.mediaRows_found _)
      exact h.frame rfl rfl rfl hkept
  | mediaSet store htype hid hP =>
      have hset := crashSafe_mediaSet h hP (hcp htype hid (congrArg Prod.fst hP)) a.out
      exact hset.checkpointed rfl rfl _
  | playbackRefused t e hswitch =>
      have hkept := Timeline.playbackSwitch_kept hswitch (by simp)
      exact h.frame rfl rfl (congrArg PlaybackState.mediaID hkept) hsame
  | playbackKept t hswitch =>
      have hkept := Timeline.playbackSwitch_kept hswitch (by simp)
      exact h.frame rfl rfl (congrArg PlaybackState.mediaID hkept) hsame
  | playbackChanged t s hswitch hs =>
      subst hs
      have hmedia : t.playback.mediaID = a.playback.mediaID := by
        have hspec := a.toTimeline.playbackSwitch_mediaID (env.now 0) type p
        rw [hswitch] at hspec
        exact hspec
      have hchanged : CrashSafe
          ⟨a.toCore.withTimeline { t with playback := t.playback.bump }, a.store, a.out⟩ :=
        h.frame rfl rfl hmedia hsame
      exact hchanged.checkpointed rfl rfl _

theorem crashSafe_commandTurn {env : Env} {a a' : Actor Journal} {i : Identity} {c : Command}
    {r : Except ActorError (Option PlaybackState)} (h : CrashSafe a)
    (hcp : ∀ p, a.toCore.authorised i c = some p → c.type = .roomMedia → p.mediaID ≠ "" →
      (Journal.persistence.setRoomMedia a.room.id p.mediaID (env.now 0) a.store).1 = .ok () →
      ∀ m, (mediaRows a.room.id a.store.db).checkpoint = some m → m.getD "" = p.mediaID)
    (hturn : CommandTurn Journal.persistence env a i c a' r) : CrashSafe a' := by
  have hsame := sameRows_refl a.room.id a.store
  cases hturn with
  | refused e => exact h
  | ignored hm htype => exact h
  | readied p hm htype => exact h.frame rfl rfl rfl hsame
  | measured p s hm htype hhost hs =>
      subst hs
      exact h.frame rfl rfl rfl (sameRows_call (fun _ => rfl) a.store)
  | host p a' r hp hturn => exact crashSafe_hostTurn h (hcp p hp) hturn

/-- A turn that does not overtake the checkpoint. -/
theorem crashSafe_turn {env : Env} {a a' : Actor Journal} {m : Msg} {r : Reply} (h : CrashSafe a)
    (hcp : ∀ i c p, m = .command i c → a.stopped = false → a.toCore.authorised i c = some p →
      c.type = .roomMedia → p.mediaID ≠ "" →
      (Journal.persistence.setRoomMedia a.room.id p.mediaID (env.now 0) a.store).1 = .ok () →
      ∀ m, (mediaRows a.room.id a.store.db).checkpoint = some m → m.getD "" = p.mediaID)
    (hturn : Turn Journal.persistence env a m a' r) : CrashSafe a' := by
  have hsame := sameRows_refl a.room.id a.store
  have hstatus : ∀ (status : RoomStatus) now, SameRows a.room.id a.store
      (Journal.persistence.updateRoomStatus a.room.id status now a.store).2 := fun status now =>
    sameRows_call (mediaRows_updateRoomStatus _ _ status now) a.store
  cases hturn with
  | stopped m hstopped => exact h
  | joinRefused c e href => exact h
  | joined c s hlive hstatus' hroom hback hs =>
      subst hs
      exact h.frame rfl rfl rfl hsame
  | hostReturned c s hlive hroom hhost hstatus' hs =>
      subst hs
      refine h.frame ?_ ?_ ?_ (hstatus .OPEN (env.now 1))
      · simp [Core.enter]
      · simp [Core.enter]
      · simp [Core.enter]
  | leaveIgnored id client hign => exact h
  | left id client m hlive hm hclient hhost => exact h.frame rfl rfl rfl hsame
  | hostLeft id client m s hlive hm hclient hhost hstatus' hs =>
      subst hs
      have hleft : CrashSafe ⟨((a.toCore.remove id).hostAway (env.now 1)).armHostTimer id env.mono,
          (Journal.persistence.updateRoomStatus a.room.id .HOST_DISCONNECTED (env.now 1)
            a.store).2, a.out⟩ :=
        h.frame rfl rfl rfl (hstatus .HOST_DISCONNECTED (env.now 1))
      exact hleft.checkpointed rfl rfl _
  | expireIgnored hostID store hstore =>
      rcases hstore with rfl | rfl
      · exact h
      · exact h.frame rfl rfl rfl (sameRows_call (fun _ => rfl) a.store)
  | tookOver hostID next m candidate s hlive hstatus' hhost hchosen hsome hnext
      hcand hid hm hguest hs =>
      subst hs
      have hlisted : SameRows a.room.id a.store
          (Journal.persistence.members a.room.id a.store).2 :=
        sameRows_call (fun _ => rfl) a.store
      exact h.frame rfl rfl rfl
        (hlisted.trans (sameRows_call (mediaRows_transferHost _ _ _ _ _) _))
  | command i c a' r hlive hturn =>
      exact crashSafe_commandTurn h (fun p => hcp i c p rfl hlive) hturn
  | snapshot => exact h
  | readied id ready => exact h.frame rfl rfl rfl hsame
  | relayed e => exact h.frame rfl rfl rfl hsame
  | checkpointSkipped hphase => exact h
  | checkpointed hphase => exact h.checkpointed rfl rfl _
  | reopenIgnored hstatus' => exact h
  | reopenFailed e store hstatus' hP =>
      exact h.frame rfl rfl rfl (sameRows_of_call hP (mediaRows_reopenRoom _ _ _))
  | reopened store hstatus' hP =>
      exact h.frame rfl rfl rfl (sameRows_of_call hP (mediaRows_reopenRoom _ _ _))
  | renameFailed title e store hP =>
      exact h.frame rfl rfl rfl (sameRows_of_call hP (mediaRows_updateRoomTitle _ _ _ _))
  | renamed title store hP =>
      exact h.frame rfl rfl rfl (sameRows_of_call hP (mediaRows_updateRoomTitle _ _ _ _))
  | halted hlive =>
      have hhalted : CrashSafe ⟨a.toCore.halt, a.store, a.out⟩ := by
        refine h.frame ?_ ?_ ?_ hsame
        · simp
        · simp
        · simp
      refine hhalted.checkpointed ?_ ?_ _
      · simp [Core.checkpoint]
      · simp [Core.checkpoint]

-- ============================================================================
-- The command that breaks it
-- ============================================================================

/-- `cmd.room.media` with a payload that is checked and refused. -/
theorem process_roomMedia_invalid {σ : Type} {P : Persistence σ} {env : Env} {a : Actor σ}
    {i : Identity} {c : Command} {p : CommandPayload} (hp : a.toCore.authorised i c = some p)
    (htype : c.type = .roomMedia) (hduration : p.durationMs < 0) :
    (a.process P env (.command i c)).1 = a := by
  rw [Actor.process]
  split
  · rfl
  · dsimp only
    rw [apply_authorised P env hp, htype, Actor.applyHost, Actor.applyMedia,
      if_pos (Or.inr hduration)]

/-- `cmd.room.media` that `SetRoomMedia` accepts: the second call writes the checkpoint. -/
theorem process_roomMedia {σ : Type} {P : Persistence σ} {env : Env} {a : Actor σ}
    {i : Identity} {c : Command} {p : CommandPayload} {store : σ} (hlive : a.stopped = false)
    (hp : a.toCore.authorised i c = some p) (htype : c.type = .roomMedia) (hid : p.mediaID ≠ "")
    (hduration : ¬p.durationMs < 0)
    (hP : P.setRoomMedia a.room.id p.mediaID (env.now 0) a.store = (.ok (), store)) :
    (a.process P env (.command i c)).1.toCore = a.toCore.withMedia env p ∧
    (a.process P env (.command i c)).1.store
      = (P.saveCheckpoint ((a.toCore.withMedia env p).checkpoint env 2) store).2 := by
  rw [Actor.process, if_neg (by simp [hlive])]
  dsimp only
  rw [apply_authorised P env hp, htype, Actor.applyHost, Actor.applyMedia,
    if_neg (by simp [hid, hduration]), hP]
  exact ⟨rfl, rfl⟩

/-- Between the two calls the room's row has the new film and the checkpoint the old. -/
theorem not_oneFilm_of_overtakes {env : Env} {a : Actor Journal} {m : Msg}
    (hlive : a.stopped = false) (hbad : OvertakesCheckpoint a (env, m)) :
    ¬OneFilm (a.process Journal.persistence env m).1 := by
  obtain ⟨i, c, p, rfl, hp, htype, hid, hduration, hok, old, hcp, hne⟩ := hbad
  rcases hcall : Journal.persistence.setRoomMedia a.room.id p.mediaID (env.now 0) a.store
    with ⟨r, store⟩
  rw [hcall] at hok
  obtain rfl : r = .ok () := hok
  obtain ⟨hcore, hstore⟩ := process_roomMedia hlive hp htype hid hduration hcall
  obtain ⟨hrows, -⟩ := setRoomMedia_call hcall
  rintro ⟨-, hpoints⟩
  -- the point at which the checkpoint is still to be written
  have hpoint : store.found ∈ (a.process Journal.persistence env (.command i c)).1.store.points := by
    obtain ⟨-, htrail⟩ := Journal.call_db (Except.error ioError)
      (Store.saveCheckpoint ((a.toCore.withMedia env p).checkpoint env 2)) store
    rw [hstore, Journal.points]
    refine List.mem_append_left _ ?_
    exact htrail ▸ List.mem_append_right _ (List.mem_singleton_self _)
  have hid' : (a.process Journal.persistence env (.command i c)).1.room.id = a.room.id :=
    (congrArg (fun s : Core => s.room.id) hcore).trans rfl
  have hrestarts := hpoints _ hpoint
  rw [hid', restarts_congr (store.mediaRows_found a.room.id), restarts_iff, hrows] at hrestarts
  exact hne (hrestarts (some p.mediaID) old rfl hcp)

-- ============================================================================
-- Every run
-- ============================================================================

/-- A message, the answers of the outside, and the fates of its handler's store calls. -/
structure Attempt where
  env : Env
  msg : Msg
  fates : List Fate

namespace Actor

/-- The fates of the coming calls are drawn. -/
def equip (fates : List Fate) (a : Actor Journal) : Actor Journal :=
  { a with store := { a.store with fates := fates } }

/-- One message, whose handler may stop or fail at every call. -/
def attempt (a : Actor Journal) (l : Attempt) : Actor Journal :=
  ((a.equip l.fates).process Journal.persistence l.env l.msg).1

end Actor

/-- The step is a `cmd.room.media` that is carried out while the room has a checkpoint
    with another film, or with none. -/
def Overtakes (a : Actor Journal) (l : Attempt) : Prop :=
  a.stopped = false ∧ OvertakesCheckpoint (a.equip l.fates) (l.env, l.msg)

theorem crashSafe_equip {fates : List Fate} {a : Actor Journal} (h : CrashSafe a) :
    CrashSafe (a.equip fates) :=
  ⟨h.memory, h.row, h.points⟩

/-- **Step lemma.**  A step that does not overtake the checkpoint is safe. -/
theorem crashSafe_attempt (a : Actor Journal) (l : Attempt) (h : CrashSafe a)
    (hok : ¬Overtakes a l) : CrashSafe (a.attempt l) := by
  by_cases hinvalid : ∃ i c p, l.msg = .command i c ∧
      (a.equip l.fates).toCore.authorised i c = some p ∧ c.type = .roomMedia ∧ p.durationMs < 0
  · obtain ⟨i, c, p, hmsg, hp, htype, hduration⟩ := hinvalid
    rw [Actor.attempt, hmsg, process_roomMedia_invalid hp htype hduration]
    exact crashSafe_equip h
  · refine crashSafe_turn (crashSafe_equip h) ?_
      (turn Journal.persistence l.env (a.equip l.fates) l.msg)
    intro i c p hmsg hlive hp htype hid hset m hm
    by_contra hne
    have hduration : ¬p.durationMs < 0 := fun hlt => hinvalid ⟨i, c, p, hmsg, hp, htype, hlt⟩
    exact hok ⟨hlive, i, c, p, hmsg, hp, htype, hid, hduration, hset, m, hm, hne⟩

/-- The registry opens the room `id`: `Registry.Get` without an actor for it. -/
def openJournaled (db : DB) (id : String) (grace : Nat) : Except StoreError (Actor Journal) :=
  match Store.roomByID id db with
  | .error e => .error e
  | .ok room => .ok (newActor room (db.checkpoints.lookup id) ⟨db, [], []⟩ grace)

theorem openJournaled_ok {db : DB} {id : String} {grace : Nat} {a : Actor Journal}
    (h : openJournaled db id grace = .ok a) :
    ∃ room, Store.roomByID id db = .ok room ∧ room.id = id ∧ a.room = room ∧
      a.playback = (newActor room (db.checkpoints.lookup id) db grace).playback ∧
      a.store = ⟨db, [], []⟩ := by
  rw [openJournaled] at h
  cases hread : Store.roomByID id db with
  | error e =>
      rw [hread] at h
      exact absurd h (by simp)
  | ok room =>
      rw [hread] at h
      obtain rfl := Except.ok.inj h
      refine ⟨room, rfl, ?_, rfl, rfl, rfl⟩
      rw [Store.roomByID] at hread
      split at hread
      · rw [← Except.ok.inj hread]
      · exact absurd hread (by simp)

theorem crashSafe_openJournaled {db : DB} {id : String} {grace : Nat} {a : Actor Journal}
    (h : openJournaled db id grace = .ok a) (hdb : Restarts id db) : CrashSafe a := by
  obtain ⟨room, hread, hid, hroom, hplayback, hstore⟩ := openJournaled_ok h
  refine ⟨?_, ?_, ?_⟩
  · rw [hroom, hplayback]
    exact hdb room grace hread
  · rw [hstore, hroom, hid, mediaRows]
    rw [Store.roomByID] at hread
    split at hread
    · rename_i row hrow
      rw [← Except.ok.inj hread]
      simp [hrow]
    · exact absurd hread (by simp)
  · intro db' hin
    rw [hstore] at hin
    have hin : db' ∈ [db] := hin
    rw [List.mem_singleton.mp hin, hroom, hid]
    exact hdb

/-- **Crash-consistent media.**  Along a run of an actor that the registry has opened,
    memory has one film after every message and a restart finds one film at every point,
    exactly if the actor was opened from rows that do and no step overtakes the
    checkpoint. -/
theorem oneFilm_iff {db : DB} {id : String} {grace : Nat} {a : Actor Journal}
    (h : openJournaled db id grace = .ok a) (ls : List Attempt) :
    (∀ pre post, ls = pre ++ post → OneFilm (run Actor.attempt a pre)) ↔
      Restarts id db ∧ EachStep Actor.attempt (fun a l => ¬Overtakes a l) a ls := by
  have hruns : CrashSafe a → ((∀ pre post, ls = pre ++ post → OneFilm (run Actor.attempt a pre)) ↔
      EachStep Actor.attempt (fun a l => ¬Overtakes a l) a ls) := fun hinit =>
    run_breaks_iff crashSafe_attempt
      (fun b l _ hbad =>
        have hover := not_not.mp hbad
        not_oneFilm_of_overtakes (a := b.equip l.fates) hover.1 hover.2)
      (fun b hb => ⟨hb.memory, hb.points⟩) hinit
  constructor
  · intro hall
    have hstart : Restarts id db := by
      obtain ⟨room, -, hid, hroom, -, hstore⟩ := openJournaled_ok h
      have hpoint := (hall [] ls rfl).2 db
      rw [run_nil, hroom, hid, hstore] at hpoint
      exact hpoint (List.mem_singleton_self _)
    exact ⟨hstart, (hruns (crashSafe_openJournaled h hstart)).mp hall⟩
  · rintro ⟨hstart, hok⟩
    exact (hruns (crashSafe_openJournaled h hstart)).mpr hok

/-! ## A crash between the two calls -/

/-- Two films are ready, and the room shows the first. -/
def filmDB : DB where
  users := (∅ : KeyedTable String UserRow).insert "h" ⟨"h"⟩
  rooms := (∅ : KeyedTable String Room).insert "r" { smallRoom "h" with mediaID := some "first" }
  roomMembers := (∅ : KeyedTable (String × String) MemberRow).insert ("r", "h") ⟨.HOST, 0, none⟩
  guestSessions := ∅
  media := (∅ : KeyedTable String MediaRow).insert "second"
    ⟨"h", none, none, none, .READY, 0, none⟩
  checkpoints := (∅ : KeyedTable String Checkpoint).insert "r"
    ⟨"r", some "first", 5000, 1, .paused, 0⟩

/-- The actor of the room. -/
def filmActor : Actor Journal :=
  newActor { smallRoom "h" with mediaID := some "first" }
    (some ⟨"r", some "first", 5000, 1, .paused, 0⟩) ⟨filmDB, [], []⟩ 60

/-- The host switches to the second film. -/
def filmChange : List Attempt :=
  [⟨Env.at 1, .join (userClient 1 "h"), []⟩,
   ⟨Env.at 2, .command (user "h") (hostCommand .roomMedia "" 0 "second"), []⟩]

theorem filmChange_crashes :
    openJournaled filmDB "r" 60 = .ok filmActor ∧
    ¬∀ pre post, filmChange = pre ++ post → OneFilm (run Actor.attempt filmActor pre) := by
  refine ⟨by rfl, ?_⟩
  intro hall
  obtain ⟨-, hpoints⟩ := hall filmChange [] (List.append_nil _).symm
  -- `SetRoomMedia` has returned, `SaveCheckpoint` has not
  have htrail : (run Actor.attempt filmActor filmChange).store.trail
      = [filmDB, (Store.setRoomMedia "r" "second" 2 filmDB).2] := by rfl
  have hbetween : (Store.setRoomMedia "r" "second" 2 filmDB).2 ∈
      (run Actor.attempt filmActor filmChange).store.points := by
    rw [Journal.points, htrail]
    simp
  have hrestarts := hpoints _ hbetween
  exact absurd (restarts_iff.mp hrestarts (some "second") (some "first") (by decide) (by decide))
    (by decide)

/-- The room has no film yet, and no checkpoint. -/
def newFilmDB : DB :=
  { filmDB with
    rooms := (∅ : KeyedTable String Room).insert "r" (smallRoom "h")
    checkpoints := ∅ }

/-- The actor of this room. -/
def newFilmActor : Actor Journal := newActor (smallRoom "h") none ⟨newFilmDB, [], []⟩ 60

/-- The host joins, chooses the first film of the room, and tries another one, which the
    database does not take. -/
def firstFilm : List Attempt :=
  [⟨Env.at 1, .join (userClient 1 "h"), []⟩,
   ⟨Env.at 2, .command (user "h") (hostCommand .roomMedia "" 0 "second"), []⟩,
   ⟨Env.at 3, .command (user "h") (hostCommand .roomMedia "" 0 "third"), [⟨[], true⟩]⟩]

theorem oneFilm_firstFilm :
    (run Actor.attempt newFilmActor firstFilm).room.mediaID = some "second" ∧
      OneFilm (run Actor.attempt newFilmActor firstFilm) := by
  have hopen : openJournaled newFilmDB "r" 60 = .ok newFilmActor := by rfl
  refine ⟨by rfl, (oneFilm_iff hopen firstFilm).mpr ⟨?_, ?_⟩ _ [] (List.append_nil _).symm⟩
  · have hrows : mediaRows "r" newFilmDB = ⟨some none, none⟩ := by rfl
    rw [restarts_iff, hrows]
    intro m c _ hc
    exact absurd hc (by simp)
  · rw [firstFilm]
    simp only [eachStep_cons]
    refine ⟨?_, ?_, ?_, eachStep_nil _ _⟩
    · rintro ⟨-, i, c, p, hmsg, -⟩
      exact absurd hmsg (by simp)
    · -- there is no checkpoint yet
      rintro ⟨-, i, c, p, -, -, -, -, -, -, m, hcp, -⟩
      have hnone : (mediaRows "r"
          (run Actor.attempt newFilmActor (firstFilm.take 1)).store.db).checkpoint = none := by rfl
      exact absurd (hnone.symm.trans hcp) (by simp)
    · -- the call fails
      rintro ⟨-, i, c, p, -, -, -, -, -, hok, -⟩
      exact absurd hok (by simp [Actor.equip, Journal.persistence, Journal.call, Journal.failing])

end WatchTogether.Rooms

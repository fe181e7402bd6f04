/-
  WatchTogether.Rooms.RoomRows

  The table `rooms` over the steps of a registry.  The calls of an actor rewrite at most the
  row of its own room; only `CreateRoom` adds a row and only `DeleteRoom` takes one away.
-/

import WatchTogether.Rooms.OneActor

namespace WatchTogether.Rooms

open Repository

-- ============================================================================
-- What a turn keeps of the store
-- ============================================================================

section Keeps

variable {σ : Type}

/-- Every call that the actor of the room makes of its store keeps `I`. -/
structure Persistence.Keeps (P : Persistence σ) (roomID : String) (I : σ → Prop) : Prop where
  saveCheckpoint : ∀ cp st, cp.roomID = roomID → I st → I (P.saveCheckpoint cp st).2
  members : ∀ st, I st → I (P.members roomID st).2
  transferHost : ∀ old new now st, I st → I (P.transferHost roomID old new now st).2
  closeRoom : ∀ now st, I st → I (P.closeRoom roomID now st).2
  reopenRoom : ∀ now st, I st → I (P.reopenRoom roomID now st).2
  leaveMember : ∀ id now st, I st → I (P.leaveMember roomID id now st).2
  setRoomMedia : ∀ id now st, I st → I (P.setRoomMedia roomID id now st).2
  updateMediaMetadata : ∀ id d w h now st, I st → I (P.updateMediaMetadata id d w h now st).2
  deleteGuestSession : ∀ id st, I st → I (P.deleteGuestSession roomID id st).2
  updateRoomStatus : ∀ status now st, I st → I (P.updateRoomStatus roomID status now st).2
  updateRoomTitle : ∀ title now st, I st → I (P.updateRoomTitle roomID title now st).2

variable {P : Persistence σ} {env : Env} {a a' : Actor σ} {I : σ → Prop}

theorem HostTurn.keeps (hP : P.Keeps a.room.id I) {type : CommandType} {p : CommandPayload}
    {r : Except ActorError (Option PlaybackState)} (h : HostTurn P env a type p a' r)
    (hi : I a.store) : I a'.store := by
  cases h with
  | refused | playbackRefused | playbackKept => exact hi
  | transferRefused m e store _ _ _ heq =>
      have hkept := hP.transferHost a.room.hostUserID p.targetUserID (env.now 0) _ hi
      rw [heq] at hkept
      exact hkept
  | transferred m store _ _ _ heq =>
      have hkept := hP.transferHost a.room.hostUserID p.targetUserID (env.now 0) _ hi
      rw [heq] at hkept
      exact hkept
  | kicked m =>
      dsimp only
      split
      · exact hP.deleteGuestSession _ _ hi
      · exact hP.leaveMember _ _ _ hi
  | closeFailed e store _ heq =>
      have hkept := hP.closeRoom (env.now 0) _ hi
      rw [heq] at hkept
      exact hkept
  | closed store _ heq =>
      have hkept := hP.closeRoom (env.now 0) _ hi
      rw [heq] at hkept
      exact hkept
  | mediaRefused e store _ _ heq =>
      have hkept := hP.setRoomMedia p.mediaID (env.now 0) _ hi
      rw [heq] at hkept
      exact hkept
  | mediaSet store _ _ heq =>
      have hkept := hP.setRoomMedia p.mediaID (env.now 0) _ hi
      rw [heq] at hkept
      exact hP.saveCheckpoint _ _ rfl hkept
  | playbackChanged t s _ hs =>
      subst hs
      exact hP.saveCheckpoint _ _ rfl hi

theorem CommandTurn.keeps (hP : P.Keeps a.room.id I) {i : Identity} {c : Command}
    {r : Except ActorError (Option PlaybackState)} (h : CommandTurn P env a i c a' r)
    (hi : I a.store) : I a'.store := by
  cases h with
  | refused | ignored | readied => exact hi
  | measured p s => exact hP.updateMediaMetadata _ _ _ _ _ _ hi
  | host p a' r _ hturn => exact hturn.keeps hP hi

/-- **The store over a turn.**  What every call of the actor keeps holds after its turn. -/
theorem Turn.keeps (hP : P.Keeps a.room.id I) {m : Msg} {r : Reply} (h : Turn P env a m a' r)
    (hi : I a.store) : I a'.store := by
  cases h with
  | hostReturned => exact hP.updateRoomStatus _ _ _ hi
  | hostLeft id client m s _ _ _ _ _ hs =>
      subst hs
      exact hP.saveCheckpoint _ _ rfl (hP.updateRoomStatus _ _ _ hi)
  | expireIgnored hostID store hstore =>
      rcases hstore with rfl | rfl
      · exact hi
      · exact hP.members _ hi
  | tookOver => exact hP.transferHost _ _ _ _ (hP.members _ hi)
  | command i c a' r _ hturn => exact hturn.keeps hP hi
  | checkpointed => exact hP.saveCheckpoint _ _ rfl hi
  | reopenFailed e store _ heq =>
      have hkept := hP.reopenRoom (env.now 0) _ hi
      rw [heq] at hkept
      exact hkept
  | reopened store _ heq =>
      have hkept := hP.reopenRoom (env.now 0) _ hi
      rw [heq] at hkept
      exact hkept
  | renameFailed title e store heq =>
      have hkept := hP.updateRoomTitle title (env.now 0) _ hi
      rw [heq] at hkept
      exact hkept
  | renamed title store heq =>
      have hkept := hP.updateRoomTitle title (env.now 0) _ hi
      rw [heq] at hkept
      exact hkept
  | halted => exact hP.saveCheckpoint _ _ (by simp [Core.checkpoint]) hi
  | _ => exact hi

end Keeps

namespace Registry

-- ============================================================================
-- The rows of the rooms
-- ============================================================================

/-- Between `t` and `t'` nobody has written to `rooms`, apart from the row of the room. -/
structure OwnRow (roomID : String) (t t' : KeyedTable String Room) : Prop where
  mem : ∀ k, k ∈ t' ↔ k ∈ t
  others : ∀ k, k ≠ roomID → t'.lookup k = t.lookup k

namespace OwnRow

variable {roomID : String} {t t' t'' : KeyedTable String Room}

theorem refl (roomID : String) (t : KeyedTable String Room) : OwnRow roomID t t :=
  ⟨fun _ => Iff.rfl, fun _ _ => rfl⟩

theorem update (roomID : String) (g : Room → Room) (t : KeyedTable String Room) :
    OwnRow roomID t (t.update roomID g) := by
  refine ⟨?_, ?_⟩
  · intro k
    exact AList.mem_modify
  · intro k hk
    exact AList.lookup_update_ne hk _ _

theorem trans (h : OwnRow roomID t t') (h' : OwnRow roomID t' t'') : OwnRow roomID t t'' := by
  refine ⟨?_, ?_⟩
  · intro k
    exact (h'.mem k).trans (h.mem k)
  · intro k hk
    exact (h'.others k hk).trans (h.others k hk)

end OwnRow

/-- What a statement that leaves the tables alone when it fails does to `rooms`. -/
theorem rooms_of_result {I : KeyedTable String Room → Prop} {d : Database} (hd : I d.rooms)
    {f : DB → Except StoreError Unit × DB}
    (herror : ∀ e db, f d.toDB = (.error e, db) → db = d.toDB)
    (hok : ∀ db, f d.toDB = (.ok (), db) → I db.rooms) : I (Database.lift f d).2.rooms := by
  show I (f d.toDB).2.rooms
  rcases hres : f d.toDB with ⟨e | _, db⟩
  · rw [herror e db hres]
    exact hd
  · exact hok db hres

theorem rooms_closeRoom (roomID : String) (now : Int64) (d : Database) :
    (Database.lift (Store.closeRoom roomID now) d).2.rooms = d.rooms.update roomID (fun r =>
      { r with status := .CLOSED, closedAtMs := some now, updatedAtMs := now }) := rfl

theorem rooms_updateRoomStatus (roomID : String) (status : RoomStatus) (now : Int64)
    (d : Database) :
    (Database.lift (Store.updateRoomStatus roomID status now) d).2.rooms
      = d.rooms.update roomID (fun r => { r with status := status, updatedAtMs := now }) := rfl

theorem rooms_updateRoomTitle (roomID title : String) (now : Int64) (d : Database) :
    (Database.lift (Store.updateRoomTitle roomID title now) d).2.rooms
      = d.rooms.update roomID (fun r => { r with title := title, updatedAtMs := now }) := rfl

/-- Other code leaves `rooms` alone. -/
theorem rooms_write (st : Aside) (d : Database) : (st.write d).rooms = d.rooms := by
  refine rooms_perform ?_
  obtain ⟨st, hst⟩ := st
  cases st <;> first | rfl | exact absurd (show false = true from hst) (by decide)

theorem rooms_writes (ws : List Aside) (d : Database) :
    (ws.foldl Aside.write d).rooms = d.rooms := by
  induction ws generalizing d with
  | nil => rfl
  | cons st ws ih =>
      rw [List.foldl_cons, ih]
      exact rooms_write st d

namespace Backend

theorem rooms_found (b : Backend) : b.found.db.rooms = b.db.rooms := by
  unfold found
  split
  · rfl
  · exact rooms_writes _ _

/-- A call writes what its statement does, or nothing. -/
theorem call_keeps {ρ : Type} {failed : ρ} {f : DB → ρ × DB} {I : KeyedTable String Room → Prop}
    (hf : ∀ d, I d.rooms → I (Database.lift f d).2.rooms) {b : Backend} (h : I b.db.rooms) :
    I (call failed f b).2.db.rooms := by
  have hfound : I b.found.db.rooms := by
    rw [rooms_found]
    exact h
  unfold call
  split
  · exact hfound
  · exact hf _ hfound

/-- Every call of an actor writes at most the row of its room. -/
theorem persistence_keeps (roomID : String) (t : KeyedTable String Room) :
    persistence.Keeps roomID (fun b => OwnRow roomID t b.db.rooms) := by
  constructor
  case saveCheckpoint =>
    intro cp b _ h
    refine call_keeps (fun d hd => ?_) h
    show OwnRow roomID t (Store.saveCheckpoint cp d.toDB).2.rooms
    rw [Store.saveCheckpoint_rooms]
    exact hd
  case members =>
    intro b h
    exact call_keeps (fun d hd => hd) h
  case transferHost =>
    intro old new now b h
    refine call_keeps (fun d hd => ?_) h
    refine rooms_of_result hd (fun e db => Store.transferHost_error) ?_
    intro db hok
    have hrooms := Store.transferHost_rooms (Store.transferHost_ok hok) old now
    rw [hok] at hrooms
    rw [hrooms]
    exact hd.trans (.update roomID _ _)
  case closeRoom =>
    intro now b h
    refine call_keeps (fun d hd => ?_) h
    rw [rooms_closeRoom]
    exact hd.trans (.update roomID _ _)
  case reopenRoom =>
    intro now b h
    refine call_keeps (fun d hd => ?_) h
    refine rooms_of_result hd (fun e db => Store.reopenRoom_error) ?_
    intro db hok
    rw [Store.reopenRoom_ok hok]
    exact hd.trans (.update roomID _ _)
  case leaveMember =>
    intro id now b h
    exact call_keeps (fun d hd => hd) h
  case setRoomMedia =>
    intro id now b h
    refine call_keeps (fun d hd => ?_) h
    refine rooms_of_result hd (fun e db => Store.setRoomMedia_error) ?_
    intro db hok
    rw [Store.setRoomMedia_ok hok]
    exact hd.trans (.update roomID _ _)
  case updateMediaMetadata =>
    intro id dur w hgt now b h
    exact call_keeps (fun d hd => hd) h
  case deleteGuestSession =>
    intro id b h
    exact call_keeps (fun d hd => hd) h
  case updateRoomStatus =>
    intro status now b h
    refine call_keeps (fun d hd => ?_) h
    rw [rooms_updateRoomStatus]
    exact hd.trans (.update roomID _ _)
  case updateRoomTitle =>
    intro title now b h
    refine call_keeps (fun d hd => ?_) h
    rw [rooms_updateRoomTitle]
    exact hd.trans (.update roomID _ _)

end Backend

-- ============================================================================
-- Steps of the registry
-- ============================================================================

variable {s s' : Registry} {i : Nat}

/-- An actor takes no turn, or one that is described by `Turn`, on the database it leaves. -/
theorem takeTurn_cases (h : Nat) (env : Env) (fates : List Fate) (s : Registry) :
    s.takeTurn h env fates = s ∨
      ∃ c m rest a r, s.cells[h]? = some c ∧ c.core.stopped = false ∧ c.queue = m :: rest ∧
        Turn Backend.persistence env ⟨c.core, ⟨s.db, fates⟩, []⟩ m a r ∧
        s.deliver h env fates = some (m, a, r) ∧
        s.takeTurn h env fates = { s with
          db := a.store.db, cells := s.cells.modify h (fun c => ⟨a.toCore, c.queue.tail⟩) } := by
  unfold takeTurn
  cases hturn : s.deliver h env fates with
  | none => exact .inl rfl
  | some t =>
      obtain ⟨m, a, r⟩ := t
      obtain ⟨c, rest, hc, hq, hlive, hprocess⟩ := deliver_eq_some hturn
      refine .inr ⟨c, m, rest, a, r, hc, hlive, hq, ?_, rfl, rfl⟩
      have hdone := turn Backend.persistence env ⟨c.core, ⟨s.db, fates⟩, []⟩ m
      rw [hprocess] at hdone
      exact hdone

/-- A turn writes at most the row of the actor's room. -/
theorem ownRow_takeTurn {h : Nat} {c : Cell} (hc : s.cells[h]? = some c) (env : Env)
    (fates : List Fate) :
    OwnRow c.core.room.id s.db.rooms (s.takeTurn h env fates).db.rooms := by
  rcases takeTurn_cases h env fates s with heq | ⟨c', m, rest, a, r, hc', -, -, hturn, -, heq⟩
  · rw [heq]
    exact .refl _ _
  · obtain rfl := Option.some.inj (hc.symm.trans hc')
    rw [heq]
    exact hturn.keeps (Backend.persistence_keeps c.core.room.id s.db.rooms) (.refl _ _)

theorem mem_rooms_takeTurn (h : Nat) (env : Env) (fates : List Fate) (s : Registry) (k : String) :
    k ∈ (s.takeTurn h env fates).db.rooms ↔ k ∈ s.db.rooms := by
  cases hc : s.cells[h]? with
  | none =>
      rcases takeTurn_cases h env fates s with heq | ⟨c', m, rest, a, r, hc', -⟩
      · rw [heq]
      · exact absurd (hc.symm.trans hc') (by simp)
  | some c => exact (ownRow_takeTurn hc env fates).mem k

/-- `DeleteRoom` takes the row away, or leaves the database alone. -/
theorem deleteRoom_cases (id : String) (fault : Option String) (s : Registry) :
    (∃ r, s.db.rooms.lookup id = some r ∧ r.status = .CLOSED ∧
      (s.deleteRoom id fault).1 = .ok () ∧
      (s.deleteRoom id fault).2.rooms = s.db.rooms.erase id) ∨
    ∃ e, s.deleteRoom id fault = (.error e, s.db) := by
  unfold deleteRoom
  cases fault with
  | some e => exact .inr ⟨_, rfl⟩
  | none =>
      simp only [Database.deleteRoom]
      split
      · rename_i hany
        obtain ⟨r, hr, hclosed⟩ := Option.any_eq_true _ _ |>.mp hany
        exact .inl ⟨r, hr, by simpa using hclosed, rfl, rfl⟩
      · exact .inr ⟨_, rfl⟩

end Registry

end WatchTogether.Rooms

/-
  WatchTogether.Rooms.ClosedMemory

  The status that an actor has in memory beside the row of its room.  An actor that takes its
  room for closed has no members, and the row is CLOSED or deleted, as long as no `CloseRoom`
  fails and no `Get` starts an actor after a `Shutdown` has taken the map.
-/

import WatchTogether.Rooms.DeletedRooms

namespace WatchTogether.Rooms

open Repository

namespace Registry

-- ============================================================================
-- Rooms that are over
-- ============================================================================

/-- The room is closed, or its row is not there. -/
def Over (id : String) (t : KeyedTable String Room) : Prop :=
  ∀ r, t.lookup id = some r → r.status = .CLOSED

instance (id : String) (t : KeyedTable String Room) : Decidable (Over id t) :=
  decidable_of_iff ((t.lookup id).all (fun r => decide (r.status = .CLOSED)) = true)
    (by simp [Over, Option.all_eq_true])

namespace Over

variable {id : String} {t t' : KeyedTable String Room}

theorem of_lookup (h : Over id t) (heq : t'.lookup id = t.lookup id) : Over id t' := by
  intro r hr
  rw [heq] at hr
  exact h r hr

/-- The row of a room is rewritten, and not its status. -/
theorem update (h : Over id t) {g : Room → Room} (hg : ∀ r, (g r).status = r.status) :
    Over id (t.update id g) := by
  intro r hr
  rw [AList.lookup_update_self] at hr
  obtain ⟨r₀, hr₀, rfl⟩ := Option.map_eq_some_iff.mp hr
  exact (hg r₀).trans (h r₀ hr₀)

theorem close {g : Room → Room} (hg : ∀ r, (g r).status = .CLOSED) : Over id (t.update id g) := by
  intro r hr
  rw [AList.lookup_update_self] at hr
  obtain ⟨r₀, -, rfl⟩ := Option.map_eq_some_iff.mp hr
  exact hg r₀

theorem erase (h : Over id t) (k : String) : Over id (t.erase k) := by
  intro r hr
  exact h r (AList.lookup_erase_iff.mp hr).2

end Over

-- ============================================================================
-- Store calls on the row of a room that is over
-- ============================================================================

section Calls

variable {roomID : String} {b : Backend}

theorem over_setRoomMedia (failed : Except StoreError Unit) (id : String) (now : Int64)
    (h : Over roomID b.db.rooms) :
    Over roomID (Backend.call failed (Store.setRoomMedia roomID id now) b).2.db.rooms := by
  refine Backend.call_keeps (fun d hd => ?_) h
  refine rooms_of_result hd (fun e db => Store.setRoomMedia_error) ?_
  intro db hok
  rw [Store.setRoomMedia_ok hok]
  exact Over.update hd (fun _ => rfl)

theorem over_updateRoomTitle (failed : Except StoreError Unit) (title : String) (now : Int64)
    (h : Over roomID b.db.rooms) :
    Over roomID (Backend.call failed (Store.updateRoomTitle roomID title now) b).2.db.rooms := by
  refine Backend.call_keeps (fun d hd => ?_) h
  rw [rooms_updateRoomTitle]
  exact hd.update (fun _ => rfl)

theorem over_saveCheckpoint {failed : Except StoreError Unit} (cp : Checkpoint)
    (h : Over roomID b.db.rooms) :
    Over roomID (Backend.call failed (Store.saveCheckpoint cp) b).2.db.rooms := by
  refine Backend.call_keeps (fun d hd => ?_) h
  show Over roomID (Store.saveCheckpoint cp d.toDB).2.rooms
  rw [Store.saveCheckpoint_rooms]
  exact hd

/-- A call that fails leaves the row alone. -/
theorem over_of_error {f : DB → Except StoreError Unit × DB} {io e : StoreError}
    {b' : Backend} (herror : ∀ d e db, f d = (.error e, db) → db = d)
    (hcall : Backend.call (.error io) f b = (.error e, b')) (h : Over roomID b.db.rooms) :
    Over roomID b'.db.rooms := by
  have hfound : Over roomID b.found.db.rooms := by
    rw [Backend.rooms_found]
    exact h
  unfold Backend.call at hcall
  split at hcall
  · obtain ⟨-, rfl⟩ := Prod.mk.inj hcall
    exact hfound
  · obtain ⟨hres, rfl⟩ := Prod.mk.inj hcall
    have hsame : (f b.found.db.toDB).2 = b.found.db.toDB :=
      herror _ e _ (Prod.ext hres rfl)
    show Over roomID (f b.found.db.toDB).2.rooms
    rw [hsame]
    exact hfound

/-- A `CloseRoom` that is carried out. -/
theorem over_closeRoom {now : Int64} {b' : Backend}
    (hcall : Backend.persistence.closeRoom roomID now b = (.ok (), b')) :
    Over roomID b'.db.rooms := by
  have hcall' : Backend.call (.error Backend.ioError) (Store.closeRoom roomID now) b
      = (.ok (), b') := hcall
  unfold Backend.call at hcall'
  split at hcall'
  · cases hcall'
  · obtain ⟨-, rfl⟩ := Prod.mk.inj hcall'
    show Over roomID (Database.lift (Store.closeRoom roomID now) b.found.db).2.rooms
    rw [rooms_closeRoom]
    exact Over.close (fun _ => rfl)

/-- `CloseRoom` fails only with its connection. -/
theorem failing_of_closeRoom {now : Int64} {e : StoreError} {b' : Backend}
    (hcall : Backend.persistence.closeRoom roomID now b = (.error e, b')) :
    b.failing = true := by
  have hcall' : Backend.call (.error Backend.ioError) (Store.closeRoom roomID now) b
      = (.error e, b') := hcall
  by_contra hok
  unfold Backend.call at hcall'
  rw [if_neg hok] at hcall'
  obtain ⟨hres, -⟩ := Prod.mk.inj hcall'
  cases hres

end Calls

-- ============================================================================
-- A turn of an actor
-- ============================================================================

/-- An actor that takes its room for closed has nobody in it, and is right. -/
def Knows (core : Core) (t : KeyedTable String Room) : Prop :=
  core.room.status = .CLOSED → core.members = ∅ ∧ Over core.room.id t

/-- The message closes the room, and the store call for it fails. -/
def closeFails (core : Core) (b : Backend) : Msg → Bool
  | .command i c => decide (c.type = .roomClose) && (core.authorised i c).isSome &&
      decide (core.room.status ≠ .CLOSED) && b.failing
  | _ => false

variable {env : Env} {core : Core} {b : Backend} {a : Actor Backend}

theorem knows_hostTurn (hk : Knows core b.db.rooms) {type : CommandType} {p : CommandPayload}
    {r : Except ActorError (Option PlaybackState)}
    (hturn : HostTurn Backend.persistence env ⟨core, b, []⟩ type p a r)
    (hok : type = .roomClose → core.room.status ≠ .CLOSED → b.failing = false) :
    Knows a.toCore a.store.db.rooms := by
  cases hturn with
  | refused | playbackRefused | playbackKept => exact hk
  | transferRefused m e store _ hm =>
      intro hclosed
      exact absurd hm (AList.lookup_ne_of_empty (hk hclosed).1 _ _)
  | transferred m store _ hm =>
      intro hclosed
      exact absurd hm (AList.lookup_ne_of_empty (hk hclosed).1 _ _)
  | kicked m _ hm =>
      intro hclosed
      exact absurd hm (AList.lookup_ne_of_empty (hk hclosed).1 _ _)
  | closeFailed e store htype hP =>
      intro _
      by_cases hclosed : core.room.status = .CLOSED
      · obtain ⟨hempty, hover⟩ := hk hclosed
        refine ⟨hempty, over_of_error ?_ hP hover⟩
        intro d e' db heq
        cases heq
      · have hfails := failing_of_closeRoom hP
        exact absurd ((hok htype hclosed).symm.trans hfails) (by decide)
  | closed store _ hP =>
      intro _
      exact ⟨rfl, over_closeRoom hP⟩
  | mediaRefused e store _ _ hP =>
      intro hclosed
      obtain ⟨hempty, hover⟩ := hk hclosed
      exact ⟨hempty, over_of_error (fun d e' db => Store.setRoomMedia_error) hP hover⟩
  | mediaSet store _ _ hP =>
      intro hclosed
      obtain ⟨hempty, hover⟩ := hk hclosed
      have hset := over_setRoomMedia (.error Backend.ioError) p.mediaID (env.now 0) hover
      have hstore : Backend.call (.error Backend.ioError)
          (Store.setRoomMedia core.room.id p.mediaID (env.now 0)) b = (.ok (), store) := hP
      rw [hstore] at hset
      exact ⟨hempty, over_saveCheckpoint _ hset⟩
  | playbackChanged t s _ hs =>
      subst hs
      intro hclosed
      obtain ⟨hempty, hover⟩ := hk hclosed
      exact ⟨hempty, over_saveCheckpoint _ hover⟩

theorem knows_commandTurn (hk : Knows core b.db.rooms) {i : Identity} {c : Command}
    {r : Except ActorError (Option PlaybackState)}
    (hturn : CommandTurn Backend.persistence env ⟨core, b, []⟩ i c a r)
    (hok : closeFails core b (.command i c) = false) : Knows a.toCore a.store.db.rooms := by
  cases hturn with
  | refused | ignored => exact hk
  | readied p hm =>
      intro hclosed
      rw [(hk hclosed).1] at hm
      exact absurd hm (AList.notMem_empty _)
  | measured p s hm _ _ hs =>
      subst hs
      intro hclosed
      rw [(hk hclosed).1] at hm
      exact absurd hm (AList.notMem_empty _)
  | host p a r hp hturn =>
      refine knows_hostTurn hk hturn ?_
      intro htype hopen
      have hauthorised : core.authorised i c = some p := hp
      simpa [closeFails, htype, hauthorised, hopen] using hok

/-- **The memory of an actor.**  A turn in which no `CloseRoom` fails leaves an actor that is
    right when it takes its room for closed. -/
theorem knows_turn (hk : Knows core b.db.rooms) {m : Msg} {r : Reply}
    (hturn : Turn Backend.persistence env ⟨core, b, []⟩ m a r)
    (hok : closeFails core b m = false) : Knows a.toCore a.store.db.rooms := by
  cases hturn with
  | joined c s _ hstatus _ _ hs =>
      subst hs
      intro hclosed
      exact absurd hclosed hstatus
  | hostReturned c s _ _ _ _ hs =>
      subst hs
      intro hclosed
      rw [Core.hostBack_room] at hclosed
      cases hclosed
  | left id client m _ hm =>
      intro hclosed
      exact absurd hm (AList.lookup_ne_of_empty (hk hclosed).1 _ _)
  | hostLeft id client m s _ _ _ _ _ hs =>
      subst hs
      intro hclosed
      cases hclosed
  | expireIgnored hostID store hstore =>
      intro hclosed
      obtain ⟨hempty, hover⟩ := hk hclosed
      rcases hstore with rfl | rfl
      · exact ⟨hempty, hover⟩
      · exact ⟨hempty, Backend.call_keeps (fun d hd => hd) hover⟩
  | tookOver hostID next m candidate s _ _ _ _ _ _ _ _ _ _ hs =>
      subst hs
      intro hclosed
      cases hclosed
  | command i c a r _ hturn => exact knows_commandTurn hk hturn hok
  | readied id ready =>
      intro hclosed
      obtain ⟨hempty, hover⟩ := hk hclosed
      refine ⟨?_, hover⟩
      show Actor.setReady id ready core.members = ∅
      rw [hempty]
      rfl
  | checkpointed =>
      intro hclosed
      obtain ⟨hempty, hover⟩ := hk hclosed
      exact ⟨hempty, over_saveCheckpoint _ hover⟩
  | reopenFailed e store _ hP =>
      intro hclosed
      obtain ⟨hempty, hover⟩ := hk hclosed
      exact ⟨hempty, over_of_error (fun d e' db => Store.reopenRoom_error) hP hover⟩
  | reopened =>
      intro hclosed
      cases hclosed
  | renameFailed title e store hP =>
      intro hclosed
      obtain ⟨hempty, hover⟩ := hk hclosed
      refine ⟨hempty, over_of_error ?_ hP hover⟩
      intro d e' db heq
      cases heq
  | renamed title store hP =>
      intro hclosed
      obtain ⟨hempty, hover⟩ := hk hclosed
      have hset := over_updateRoomTitle (.error Backend.ioError) title (env.now 0) hover
      have hstore : Backend.call (.error Backend.ioError)
          (Store.updateRoomTitle core.room.id title (env.now 0)) b = (.ok (), store) := hP
      rw [hstore] at hset
      exact ⟨hempty, hset⟩
  | halted =>
      intro hclosed
      have hclosed' : core.room.status = .CLOSED := by simpa using hclosed
      obtain ⟨hempty, hover⟩ := hk hclosed'
      refine ⟨by simpa using hempty, ?_⟩
      have hid : core.halt.room.id = core.room.id := by simp
      show Over core.halt.room.id _
      rw [hid]
      exact over_saveCheckpoint _ hover
  | _ => exact hk

-- ============================================================================
-- Steps of the registry
-- ============================================================================

variable {s s' : Registry} {i : Nat}

/-- The next message of the actor closes the room, and the store call for it fails. -/
def failsToClose (s : Registry) (h : Nat) (fates : List Fate) : Bool :=
  s.cells[h]?.any (fun c => c.queue.head?.any (closeFails c.core ⟨s.db, fates⟩))

/-- The `Get` has read this row, and started no actor yet. -/
def Stage.carries (id : String) (room : Room) : Stage → Prop
  | .loading k r | .starting k r _ => k = id ∧ r = room
  | _ => False

/-- Every actor knows the row of its room, and so does every `Get` under way. -/
structure Informed (s : Registry) : Prop where
  used : ∀ k, k ∈ s.db.rooms → k ∈ s.used
  known : ∀ (h : Nat) (c : Cell), s.cells[h]? = some c → c.core.stopped = false →
    c.core.room.id ∈ s.used ∧ Knows c.core s.db.rooms
  carried : ∀ i id room, (s.calls i).carries id room →
    id ∈ s.used ∧ (s.down = false → room.status = .CLOSED → Over id s.db.rooms)

theorem informed_boot (d : Database) {used : List String} (h : ∀ k, k ∈ d.rooms → k ∈ used) :
    Informed (boot d used) := by
  refine ⟨h, ?_, ?_⟩
  · intro h c hc
    cases hc
  · intro i id room hcarries
    exact hcarries.elim

/-- The database changes, and the rooms that are over stay so. -/
theorem Informed.setRooms (hi : Informed s) (hcells : s'.cells = s.cells)
    (hcalls : s'.calls = s.calls) (hdown : s'.down = s.down)
    (hused : ∀ k, k ∈ s'.db.rooms → k ∈ s'.used) (hmono : ∀ k, k ∈ s.used → k ∈ s'.used)
    (hover : ∀ k, k ∈ s.used → Over k s.db.rooms → Over k s'.db.rooms) : Informed s' := by
  refine ⟨hused, ?_, ?_⟩
  · intro h c hc hlive
    rw [hcells] at hc
    obtain ⟨hid, hknows⟩ := hi.known h c hc hlive
    refine ⟨hmono _ hid, ?_⟩
    intro hclosed
    obtain ⟨hempty, hrow⟩ := hknows hclosed
    exact ⟨hempty, hover _ hid hrow⟩
  · intro i id room hcarries
    rw [hcalls] at hcarries
    obtain ⟨hid, hread⟩ := hi.carried i id room hcarries
    refine ⟨hmono _ hid, ?_⟩
    intro hup hclosed
    exact hover _ hid (hread (hdown ▸ hup) hclosed)

theorem Informed.create (hi : Informed s) (grace : Nat) (r : Room) (now : Int64) :
    Informed (step grace s (.create r now)) := by
  have hused := fun k hk => used_step hi.used grace (.create r now) (k := k) hk
  simp only [step] at hused ⊢
  split_ifs at hused ⊢ with hold
  · exact hi
  · refine hi.setRooms rfl rfl rfl hused (fun k hk => List.mem_cons_of_mem _ hk) ?_
    intro k hk hover
    have hne : k ≠ r.id := by
      rintro rfl
      exact hold hk
    show Over k (s.db.createRoom r now).2.rooms
    unfold Database.createRoom
    split_ifs
    · exact hover
    · exact hover.of_lookup (AList.lookup_insert_ne hne)
    · exact hover

/-- An actor after a message was sent to `h`. -/
theorem push_cells {h k : Nat} {m : Msg} {c' : Cell} (hc : (s.push h m).cells[k]? = some c') :
    ∃ c, s.cells[k]? = some c ∧
      (c' = c ∨ (k = h ∧ c' = { c with queue := c.queue ++ [m] })) := by
  have hc' : (s.cells.modify h (fun c => { c with queue := c.queue ++ [m] }))[k]? = some c' := hc
  by_cases hk : h = k
  · subst hk
    rw [List.getElem?_modify_eq] at hc'
    obtain ⟨c, hold, rfl⟩ := Option.map_eq_some_iff.mp hc'
    exact ⟨c, hold, .inr ⟨rfl, rfl⟩⟩
  · rw [List.getElem?_modify_ne _ _ hk] at hc'
    exact ⟨c', hc', .inl rfl⟩

/-- An actor after a step of a goroutine: one that was there, perhaps with a stop request, or
    the one it has started. -/
theorem advance_cells (grace : Nat) (x : Answer) {h : Nat} {c' : Cell}
    (hc : (s.advance grace i x).cells[h]? = some c') :
    (∃ c, s.cells[h]? = some c ∧ c'.core = c.core ∧
        (c'.queue = c.queue ∨ c'.queue = c.queue ++ [.close])) ∨
      ∃ id room cp, s.calls i = .starting id room cp ∧
        c' = ⟨(newActor room cp () grace).toCore, []⟩ := by
  have hsame : s.cells[h]? = some c' → ∃ c, s.cells[h]? = some c ∧ c'.core = c.core ∧
      (c'.queue = c.queue ∨ c'.queue = c.queue ++ [.close]) := by
    intro hk
    exact ⟨c', hk, rfl, .inl rfl⟩
  have hstop : ∀ k sends sent done, (s.stop i k sends sent done).cells[h]? = some c' →
      ∃ c, s.cells[h]? = some c ∧ c'.core = c.core ∧
        (c'.queue = c.queue ∨ c'.queue = c.queue ++ [.close]) := by
    intro k sends sent done hk
    unfold Registry.stop at hk
    split_ifs at hk
    · obtain ⟨c, hold, heq | ⟨-, heq⟩⟩ := push_cells hk
      · rw [heq]
        exact ⟨c, hold, rfl, .inl rfl⟩
      · rw [heq]
        exact ⟨c, hold, rfl, .inr rfl⟩
    · exact hsame hk
    · exact hsame hk
    · exact hsame hk
  unfold advance stepGet stepDelete stepShutdown at hc
  cases hi : s.calls i with
  | starting id room cp =>
      rw [hi] at hc
      have hc' : (s.cells ++ [⟨(newActor room cp () grace).toCore, []⟩])[h]? = some c' := hc
      by_cases hlt : h < s.cells.length
      · rw [List.getElem?_append_left hlt] at hc'
        exact .inl (hsame hc')
      · rw [List.getElem?_append_right (by omega), List.getElem?_singleton] at hc'
        split_ifs at hc'
        exact .inr ⟨id, room, cp, rfl, (Option.some.inj hc').symm⟩
  | held c =>
      rw [hi] at hc
      cases c with
      | shutdown => exact .inl (hsame hc)
      | _ =>
          simp only at hc
          repeat' split at hc
          all_goals exact .inl (hsame hc)
  | stopping k h₀ =>
      rw [hi] at hc
      exact .inl (hstop h₀ _ _ _ hc)
  | halting hs =>
      rw [hi] at hc
      cases hs with
      | nil => exact .inl (hsame hc)
      | cons h₀ hs =>
          simp only at hc
          split_ifs at hc
          · exact .inl (hstop x.next _ _ _ hc)
          · exact .inl (hsame hc)
  | locking | reading | evicting | awaiting | draining =>
      rw [hi] at hc
      simp only at hc
      split at hc <;> exact .inl (hsame hc)
  | _ =>
      rw [hi] at hc
      exact .inl (hsame hc)

/-- The row that a `Get` carries after its step: it has carried it, or has just read it. -/
theorem advance_carries (grace : Nat) (x : Answer) {id : String} {room : Room}
    (hc : ((s.advance grace i x).calls i).carries id room) :
    (s.calls i).carries id room ∨
      (s.calls i = .reading id ∧ s.roomByID id x.fault = .ok room) := by
  cases hi : s.calls i with
  | reading k =>
      unfold advance stepGet at hc
      rw [hi] at hc
      simp only at hc
      split at hc
      · rw [goto_calls_self] at hc
        exact hc.elim
      · rename_i r hr
        rw [goto_calls_self] at hc
        obtain ⟨rfl, rfl⟩ := hc
        exact .inr ⟨rfl, hr⟩
  | loading k r =>
      unfold advance stepGet at hc
      rw [hi] at hc
      simp only at hc
      rw [goto_calls_self] at hc
      exact .inl hc
  | starting k r cp =>
      unfold advance stepGet at hc
      rw [hi] at hc
      simp only at hc
      rw [goto_calls_self] at hc
      exact hc.elim
  | _ =>
      exfalso
      rcases next_advance (i := i) grace x s with heq | hnext
      · rw [heq, hi] at hc
        exact hc
      · rw [hi] at hnext
        generalize (s.advance grace i x).calls i = y at hnext hc
        cases hnext <;> exact hc

/-- A room that is over when its row has been read as CLOSED. -/
theorem over_of_roomByID {id : String} {fault : Option String} {room : Room}
    (h : s.roomByID id fault = .ok room) (hclosed : room.status = .CLOSED) :
    Over id s.db.rooms := by
  unfold roomByID at h
  cases fault with
  | some e => cases h
  | none =>
      intro r hr
      have hr' : s.db.toDB.rooms.lookup id = some r := hr
      simp only [Store.roomByID, hr'] at h
      obtain rfl := Except.ok.inj h
      exact hclosed

theorem Informed.advance (hi : Informed s) (hinv : Inv s) (grace : Nat) (x : Answer)
    (hlate : ∀ id room cp, s.calls i = .starting id room cp → s.down = false) :
    Informed (s.advance grace i x) := by
  obtain ⟨hused, hdown, hdb⟩ := advance_frame (i := i) grace x s
  have hover : ∀ k, Over k s.db.rooms → Over k (s.advance grace i x).db.rooms := by
    intro k hk
    rcases hdb with hdb | ⟨k', -, hdb⟩
    · rw [hdb]
      exact hk
    · rw [hdb]
      rcases deleteRoom_cases k' x.fault s with ⟨r, -, -, -, hrooms⟩ | ⟨e, heq⟩
      · rw [hrooms]
        exact hk.erase k'
      · rw [heq]
        exact hk
  refine ⟨fun k hk => used_step hi.used grace (.advance i x) hk, ?_, ?_⟩
  · intro h c' hc' hlive
    rw [hused]
    rcases advance_cells grace x hc' with ⟨c, hc, hcore, -⟩ | ⟨id, room, cp, hi', rfl⟩
    · rw [hcore] at hlive ⊢
      obtain ⟨hid, hknows⟩ := hi.known h c hc hlive
      refine ⟨hid, ?_⟩
      intro hclosed
      obtain ⟨hempty, hrow⟩ := hknows hclosed
      exact ⟨hempty, hover _ hrow⟩
    · -- the new actor has the room that was read
      have hroom : (newActor room cp () grace).room = room := by cases cp <;> rfl
      have hfits := hinv.fits i
      rw [hi'] at hfits
      obtain ⟨hid, hread⟩ := hi.carried i id room (by rw [hi']; exact ⟨rfl, rfl⟩)
      have hnew : (newActor room cp () grace).toCore.room.id = id :=
        (congrArg Room.id hroom).trans hfits.2
      rw [hnew]
      refine ⟨hid, ?_⟩
      intro hclosed
      refine ⟨by cases cp <;> rfl, ?_⟩
      rw [hnew]
      exact hover _ (hread (hlate id room cp hi')
        ((congrArg Room.status hroom).symm.trans hclosed))
  · intro j id room hcarries
    rw [hused]
    have hup : (s.advance grace i x).down = false → s.down = false := by
      intro hnow
      rcases hdown with hsame | hheld
      · exact hsame ▸ hnow
      · unfold Registry.advance at hnow
        rw [hheld] at hnow
        cases hnow
    by_cases hj : j = i
    · subst hj
      rcases advance_carries grace x hcarries with hold | ⟨-, hroom⟩
      · obtain ⟨hid, hread⟩ := hi.carried j id room hold
        exact ⟨hid, fun hnow hclosed => hover _ (hread (hup hnow) hclosed)⟩
      · exact ⟨hi.used id (mem_of_roomByID hroom),
          fun _ hclosed => hover _ (over_of_roomByID hroom hclosed)⟩
    · rw [advance_calls_ne hj] at hcarries
      obtain ⟨hid, hread⟩ := hi.carried j id room hcarries
      exact ⟨hid, fun hnow hclosed => hover _ (hread (hup hnow) hclosed)⟩

/-- While a `Get` carries the row of a room, and no `Shutdown` has taken the map, no actor of
    the room is running. -/
theorem Inv.quiet_of_carries (hinv : Inv s) {id : String} {room : Room}
    (hcarries : (s.calls i).carries id room) (hup : s.down = false) (h : Nat) :
    ¬s.Runs h id := by
  intro hrun
  have hfits := hinv.fits i
  have hcrit : (s.calls i).critical = true ∧ s.actors.lookup id = none := by
    cases hi : s.calls i with
    | loading k r =>
        rw [hi] at hfits hcarries
        obtain ⟨rfl, -⟩ := hcarries
        exact ⟨rfl, hfits.1⟩
    | starting k r cp =>
        rw [hi] at hfits hcarries
        obtain ⟨rfl, -⟩ := hcarries
        exact ⟨rfl, hfits.1⟩
    | _ =>
        rw [hi] at hcarries
        exact hcarries.elim
  cases hinv.kept h id hrun with
  | mapped hmap => exact absurd (hcrit.2.symm.trans hmap) (by simp)
  | storing j hj =>
      obtain rfl : j = i := hinv.exclusive.unique hcrit.1 (by rw [hj]; rfl)
      rw [hj] at hcarries
      exact hcarries.elim
  | doomed j hj =>
      have hdown := hinv.past j (past_of_mem_doomed hj)
      exact absurd (hup.symm.trans hdown) (by decide)

theorem Informed.takeTurn (hi : Informed s) (hinv : Inv s) {h : Nat} {env : Env}
    {fates : List Fate} (hok : failsToClose s h fates = false) :
    Informed (s.takeTurn h env fates) := by
  have hused := fun k hk => used_step hi.used 0 (.turn h env fates) (k := k) hk
  rcases takeTurn_cases h env fates s with heq | ⟨c, m, rest, a, r, hc, hlive, hq, hturn, -, heq⟩
  · rw [heq]
    exact hi
  have hrow := ownRow_takeTurn hc env fates
  have hroom : a.room.id = c.core.room.id := Realtime.turn_roomID hturn
  obtain ⟨hid, hknows⟩ := hi.known h c hc hlive
  have hcloses : closeFails c.core ⟨s.db, fates⟩ m = false := by
    simpa [failsToClose, hc, hq] using hok
  change ∀ k, k ∈ (s.takeTurn h env fates).db.rooms → k ∈ (s.takeTurn h env fates).used at hused
  rw [heq] at hrow hused ⊢
  refine ⟨hused, ?_, ?_⟩
  · intro k c' hc' hlive'
    have hc'' : (s.cells.modify h (fun c => ⟨a.toCore, c.queue.tail⟩))[k]? = some c' := hc'
    by_cases hk : h = k
    · subst hk
      rw [List.getElem?_modify_eq, hc] at hc''
      obtain rfl := Option.some.inj hc''
      refine ⟨?_, knows_turn hknows hturn hcloses⟩
      show a.room.id ∈ s.used
      rw [hroom]
      exact hid
    · rw [List.getElem?_modify_ne _ _ hk] at hc''
      obtain ⟨hid', hknows'⟩ := hi.known k c' hc'' hlive'
      refine ⟨hid', ?_⟩
      intro hclosed
      obtain ⟨hempty, hover⟩ := hknows' hclosed
      -- another actor that is running is of another room
      have hne : c'.core.room.id ≠ c.core.room.id := by
        intro hsame
        exact hk (hinv.single _ h k ⟨c, hc, hlive, rfl⟩ ⟨c', hc'', hlive', hsame⟩)
      exact ⟨hempty, hover.of_lookup (hrow.others _ hne)⟩
  · intro j id room hcarries
    obtain ⟨hid', hread⟩ := hi.carried j id room hcarries
    refine ⟨hid', ?_⟩
    intro hup hclosed
    have hne : id ≠ c.core.room.id := by
      rintro rfl
      exact hinv.quiet_of_carries hcarries hup h ⟨c, hc, hlive, rfl⟩
    exact (hread hup hclosed).of_lookup (hrow.others _ hne)

theorem Informed.push (hi : Informed s) (h : Nat) (m : Msg) : Informed (s.push h m) := by
  refine ⟨hi.used, ?_, hi.carried⟩
  intro k c' hc' hlive
  obtain ⟨c, hc, heq | ⟨-, heq⟩⟩ := push_cells hc'
  · rw [heq] at hlive ⊢
    exact hi.known k c hc hlive
  · rw [heq] at hlive ⊢
    exact hi.known k c hc hlive

/-- The step is a turn in which a `CloseRoom` fails. -/
def unpersisted (s : Registry) : Label → Bool
  | .turn h _ fates => failsToClose s h fates
  | _ => false

/-- **Memory and row.**  An actor that takes its room for closed is right after every step in
    which no `CloseRoom` fails and no `Get` starts an actor late. -/
theorem informed_step (grace : Nat) (hi : Informed s) (hinv : Inv s) {l : Label}
    (hlate : startsLate s l = false) (hok : unpersisted s l = false) :
    Informed (step grace s l) := by
  cases l with
  | call i c =>
      simp only [step]
      split_ifs
      · refine ⟨hi.used, hi.known, ?_⟩
        refine forall_goto (Q := fun y => ∀ id room, y.carries id room → id ∈ s.used ∧
          (s.down = false → room.status = .CLOSED → Over id s.db.rooms)) ?_ ?_
        · intro id room hcarries
          exact hcarries.elim
        · intro j _
          exact hi.carried j
      · exact hi
  | advance i x =>
      refine hi.advance hinv grace x ?_
      intro id room cp hstart
      simpa only [startsLate, hstart] using hlate
  | post h m =>
      simp only [step]
      split_ifs
      · exact hi.push h m
      · exact hi
  | turn h env fates => exact hi.takeTurn hinv hok
  | create r now => exact hi.create grace r now
  | write st =>
      have hrooms : (st.write s.db).rooms = s.db.rooms := rooms_write st s.db
      refine hi.setRooms rfl rfl rfl (fun k hk => used_step hi.used grace (.write st) hk)
        (fun k hk => hk) ?_
      intro k _ hover
      show Over k (st.write s.db).rooms
      rw [hrooms]
      exact hover

end Registry

end WatchTogether.Rooms

/-
  WatchTogether.Rooms.DeletedRooms

  `Registry.Delete` among calls of `Get` and `Delete` and whatever the holders of an actor send
  to it.  A `Delete` that returns `nil` leaves the room `Gone`: there is no row, no actor runs,
  none is in the map, and no `Get` has got past its read of the row.  Every step keeps this,
  because an id is given to one room only and `Get` starts no actor without a row.
-/

import WatchTogether.Rooms.RoomRows

namespace WatchTogether.Rooms.Registry

open LabelledRun Repository

variable {s s' : Registry} {i : Nat} {id : String}

-- ============================================================================
-- What must hold
-- ============================================================================

/-- The step is the one with which the call of the goroutine returns. -/
def Returns (grace : Nat) (s : Registry) (l : Label) (i : Nat) (c : Call) (r : Result) : Prop :=
  s.calls i ≠ .returned c r ∧ (step grace s l).calls i = .returned c r

/-- An actor that has stopped is as it was, and what is in its queue stays there. -/
def Ended (s s' : Registry) : Prop :=
  ∀ (h : Nat) (c : Cell), s.cells[h]? = some c → c.core.stopped = true →
    ∃ c', s'.cells[h]? = some c' ∧ c'.core = c.core ∧ c.queue <+: c'.queue

/-- What a `Delete` that returned `nil` in the state `s` promises for the later state `s'`. -/
structure StaysDeleted (id : String) (s s' : Registry) : Prop where
  row : id ∉ s'.db.rooms
  quiet : ∀ h, ¬s'.Runs h id
  /-- A `Get` that has an actor of the room had it already. -/
  unobtainable : ∀ j h, s'.calls j = .returned (.get id) (.actor h) →
    s.calls j = .returned (.get id) (.actor h)
  unmapped : s'.actors.lookup id = none
  /-- An actor of the room changes nothing, and writes nothing to the database. -/
  idle : ∀ h, s'.Serves h id → ∀ env fates, s'.takeTurn h env fates = s'

/-- A `Delete` whose error is not "not found" leaves the row. -/
def KeepsRow (grace : Nat) (s : Registry) (l : Label) : Prop :=
  ∀ i id e, Returns grace s l i (.delete id) (.failed e) ∨
      (∃ found, Returns grace s l i (.delete id) (.unread e found)) →
    e ≠ .notFound → id ∈ (step grace s l).db.rooms

/-- A `Delete` that gets past its first read of the row leaves the row when it fails, and one
    that does not leaves it if it was there. -/
structure KeepsReadRow (grace : Nat) (s : Registry) (l : Label) : Prop where
  failed : ∀ i id e, Returns grace s l i (.delete id) (.failed e) →
    id ∈ (step grace s l).db.rooms
  unread : ∀ i id e, Returns grace s l i (.delete id) (.unread e true) →
    id ∈ (step grace s l).db.rooms

/-- A call of `Shutdown`. -/
def Label.shutsDown : Label → Bool
  | .call _ .shutdown => true
  | _ => false

-- ============================================================================
-- A room that is gone
-- ============================================================================

/-- A `Get` of the room that has read its row, and has not returned. -/
def Stage.obtains (id : String) : Stage → Prop
  | .loading k _ | .starting k _ _ | .storing k _ | .unlocking (.get k) (.actor _) => k = id
  | _ => False

/-- The room is deleted, and no `Get` will start an actor of it. -/
structure Gone (id : String) (s : Registry) : Prop where
  row : id ∉ s.db.rooms
  used : id ∈ s.used
  unmapped : s.actors.lookup id = none
  quiet : ∀ h, ¬s.Runs h id
  missed : ∀ j, ¬(s.calls j).obtains id

theorem critical_of_obtains {x : Stage} (h : x.obtains id) : x.critical = true := by
  cases x with
  | loading | starting | storing | unlocking => rfl
  | _ => exact h.elim

/-- Actors move, or the database is written. -/
theorem Gone.leads (hg : Gone id s) (hl : Leads s s') (hlen : s'.cells.length = s.cells.length)
    (hrow : id ∉ s'.db.rooms) (hused : id ∈ s'.used) (hactors : s'.actors = s.actors)
    (hcalls : s'.calls = s.calls) : Gone id s' := by
  refine ⟨hrow, hused, ?_, ?_, ?_⟩
  · rw [hactors]
    exact hg.unmapped
  · intro h hrun
    exact hg.quiet h (runs_of_leads hl hrun (hlen ▸ hrun.lt))
  · intro j
    rw [hcalls]
    exact hg.missed j

theorem Gone.push (hg : Gone id s) (h : Nat) (m : Msg) : Gone id (s.push h m) :=
  hg.leads (leads_push h m s) (List.length_modify ..) hg.row hg.used rfl rfl

theorem Gone.setLock (hg : Gone id s) (lock : Option Nat) : Gone id (s.setLock lock) :=
  hg.leads (.of_cells rfl) rfl hg.row hg.used rfl rfl

theorem Gone.goto (hg : Gone id s) {x : Stage} (hx : ¬x.obtains id) : Gone id (s.goto i x) := by
  refine ⟨hg.row, hg.used, hg.unmapped, hg.quiet, ?_⟩
  exact forall_goto (Q := fun y => ¬y.obtains id) hx (fun j _ => hg.missed j)

theorem Gone.setActors (hg : Gone id s) {actors : KeyedTable String Nat}
    (h : actors.lookup id = none) : Gone id (s.setActors actors) :=
  ⟨hg.row, hg.used, h, hg.quiet, hg.missed⟩

theorem Gone.stop (hg : Gone id s) {h : Nat} {sends : Bool} {sent done : Stage}
    (hsent : ¬sent.obtains id) (hdone : ¬done.obtains id) :
    Gone id (s.stop i h sends sent done) := by
  unfold Registry.stop
  split_ifs
  · exact (hg.push h .close).goto hsent
  · exact hg
  · exact hg.goto hdone
  · exact hg

/-- An actor of another room is started. -/
theorem Gone.spawn (hg : Gone id s) {core : Core} (hroom : core.room.id ≠ id) :
    Gone id (s.spawn core) := by
  refine ⟨hg.row, hg.used, hg.unmapped, ?_, hg.missed⟩
  intro h hrun
  by_cases hlt : h < s.cells.length
  · exact hg.quiet h (runs_of_leads (leads_spawn core s) hrun hlt)
  · have hlen := hrun.lt
    have heq : h = s.cells.length := by
      simp only [Registry.spawn, List.length_append, List.length_singleton] at hlen
      omega
    obtain ⟨c, hc, -, hid⟩ := hrun
    have hnew : (s.spawn core).cells[s.cells.length]? = some ⟨core, []⟩ :=
      List.getElem?_concat_length
    rw [heq, hnew] at hc
    obtain rfl := Option.some.inj hc
    exact hroom hid

/-- A room that has no row is not read. -/
theorem roomByID_absent {fault : Option String} (hrow : id ∉ s.db.rooms) (room : Room) :
    s.roomByID id fault ≠ .ok room := by
  intro h
  unfold roomByID at h
  cases fault with
  | some e => cases h
  | none =>
      have hnone : s.db.toDB.rooms.lookup id = none := AList.lookup_eq_none.mpr hrow
      simp only [Store.roomByID, hnone] at h
      cases h

theorem gone_stepGet (hinv : Inv s) (hg : Gone id s) (grace : Nat) (x : Answer) :
    Gone id (s.stepGet grace i x (s.calls i)) := by
  have hfits := hinv.fits i
  have hmissed := hg.missed i
  cases hi : s.calls i with
  | held c =>
      cases c with
      | get k =>
          simp only [stepGet]
          split
          · rename_i h hmap
            refine hg.goto ?_
            rintro rfl
            exact absurd (hg.unmapped.symm.trans hmap) (by simp)
          · exact hg.goto not_false
      | _ => exact hg
  | reading k =>
      simp only [stepGet]
      split
      · exact hg.goto not_false
      · rename_i room hroom
        refine hg.goto ?_
        rintro rfl
        exact roomByID_absent hg.row room hroom
  | loading k room =>
      rw [hi] at hmissed
      exact hg.goto hmissed
  | starting k room cp =>
      rw [hi] at hfits hmissed
      refine (hg.spawn ?_).goto hmissed
      -- the actor is of the room that has been read
      intro hroom
      have hid : (newActor room cp () grace).toCore.room.id = room.id := by cases cp <;> rfl
      exact hmissed ((hfits.2.symm.trans hid.symm).trans hroom)
  | storing k h =>
      rw [hi] at hmissed
      refine (hg.setActors ?_).goto hmissed
      exact (AList.lookup_insert_ne (fun heq => hmissed heq.symm)).trans hg.unmapped
  | _ => exact hg

theorem gone_stepDelete (hg : Gone id s) (x : Answer) :
    Gone id (s.stepDelete i x (s.calls i)) := by
  cases hi : s.calls i with
  | held c =>
      cases c with
      | delete k =>
          simp only [stepDelete]
          split
          · exact hg.goto not_false
          · split_ifs
            · exact hg.goto not_false
            · exact hg.goto not_false
      | _ => exact hg
  | evicting k =>
      simp only [stepDelete]
      split
      · exact hg.goto not_false
      · exact hg.goto not_false
  | stopping k h => exact hg.stop not_false not_false
  | awaiting k h =>
      simp only [stepDelete]
      split_ifs
      · exact hg.goto not_false
      · exact hg
  | dropping k =>
      refine (hg.setActors ?_).goto not_false
      exact AList.lookup_eq_none.mpr (fun hmem =>
        AList.lookup_eq_none.mp hg.unmapped (AList.mem_erase.mp hmem).2)
  | deleting k =>
      have hset : Gone id (s.setDB (s.deleteRoom k x.fault).2) := by
        refine hg.leads (.of_cells rfl) rfl ?_ hg.used rfl rfl
        show id ∉ (s.deleteRoom k x.fault).2.rooms
        rcases deleteRoom_cases k x.fault s with ⟨r, -, -, -, hrooms⟩ | ⟨e, heq⟩
        · rw [hrooms]
          exact fun hmem => hg.row (AList.mem_erase.mp hmem).2
        · rw [heq]
          exact hg.row
      exact hset.goto not_false
  | _ => exact hg

theorem gone_stepShutdown (hg : Gone id s) (x : Answer) :
    Gone id (s.stepShutdown i x (s.calls i)) := by
  cases hi : s.calls i with
  | held c =>
      cases c with
      | shutdown =>
          have htaken : Gone id s.takeMap :=
            ⟨hg.row, hg.used, AList.lookup_empty id, hg.quiet, hg.missed⟩
          exact htaken.goto not_false
      | _ => exact hg
  | taken hs => exact (hg.setLock none).goto not_false
  | halting hs =>
      cases hs with
      | nil => exact hg.goto not_false
      | cons h₀ hs =>
          simp only [stepShutdown]
          split_ifs
          · exact hg.stop not_false not_false
          · exact hg
  | draining h hs =>
      simp only [stepShutdown]
      split_ifs
      · exact hg.goto not_false
      · exact hg
  | _ => exact hg

theorem gone_advance (hinv : Inv s) (hg : Gone id s) (grace : Nat) (x : Answer) :
    Gone id (s.advance grace i x) := by
  have hget := gone_stepGet (i := i) hinv hg grace x
  have hdelete := gone_stepDelete (i := i) hg x
  have hshutdown := gone_stepShutdown (i := i) hg x
  unfold advance
  cases hi : s.calls i with
  | locking c =>
      simp only
      split_ifs
      · exact (hg.setLock (some i)).goto not_false
      · exact hg
  | unlocking c r => exact (hg.setLock none).goto not_false
  | held c =>
      rw [hi] at hget hdelete hshutdown
      cases c with
      | get k => exact hget
      | delete k => exact hdelete
      | shutdown => exact hshutdown
  | reading | loading | starting | storing =>
      rw [hi] at hget
      exact hget
  | evicting | stopping | awaiting | dropping | deleting =>
      rw [hi] at hdelete
      exact hdelete
  | taken | halting | draining =>
      rw [hi] at hshutdown
      exact hshutdown
  | idle | returned => exact hg

/-- **Gone for good.**  No step brings a deleted room back. -/
theorem gone_step (hinv : Inv s) (hg : Gone id s) (grace : Nat) (l : Label) :
    Gone id (step grace s l) := by
  cases l with
  | call i c =>
      simp only [step]
      split_ifs
      · exact hg.goto not_false
      · exact hg
  | advance i x => exact gone_advance hinv hg grace x
  | post h m =>
      simp only [step]
      split_ifs
      · exact hg.push h m
      · exact hg
  | turn h env fates =>
      have hrow : id ∉ (s.takeTurn h env fates).db.rooms :=
        fun hmem => hg.row ((mem_rooms_takeTurn h env fates s id).mp hmem)
      have hl := leads_takeTurn h env fates s
      show Gone id (s.takeTurn h env fates)
      rcases takeTurn_cases h env fates s with heq | ⟨c, m, rest, a, r, -, -, -, -, -, heq⟩
      · rw [heq]
        exact hg
      · rw [heq] at hrow hl ⊢
        exact hg.leads hl (List.length_modify ..) hrow hg.used rfl rfl
  | create r now =>
      simp only [step]
      split_ifs with hold
      · exact hg
      · refine hg.leads (.of_cells rfl) rfl ?_ (List.mem_cons_of_mem _ hg.used) rfl rfl
        have hne : id ≠ r.id := by
          rintro rfl
          exact hold hg.used
        show id ∉ (s.db.createRoom r now).2.rooms
        unfold Database.createRoom
        split_ifs
        · exact hg.row
        · exact fun hmem => hg.row ((AList.mem_insert _).mp hmem |>.resolve_left hne)
        · exact hg.row
  | write st =>
      refine hg.leads (.of_cells rfl) rfl ?_ hg.used rfl rfl
      show id ∉ (st.write s.db).rooms
      rw [rooms_write]
      exact hg.row

-- ============================================================================
-- Actors over a run
-- ============================================================================

theorem leads_stop (h : Nat) (sends : Bool) (sent done : Stage) (s : Registry) :
    Leads s (s.stop i h sends sent done) := by
  unfold Registry.stop
  split_ifs
  · exact leads_push h .close s
  · exact .of_cells rfl
  · exact .of_cells rfl
  · exact .of_cells rfl

theorem leads_advance (grace : Nat) (x : Answer) (s : Registry) :
    Leads s (s.advance grace i x) := by
  unfold advance stepGet stepDelete stepShutdown
  repeat' split
  all_goals
    first
    | exact .of_cells rfl
    | exact leads_spawn _ s
    | exact leads_stop _ _ _ _ s

theorem leads_step (grace : Nat) (s : Registry) (l : Label) : Leads s (step grace s l) := by
  cases l with
  | call i c =>
      simp only [step]
      split_ifs <;> exact .of_cells rfl
  | advance i x => exact leads_advance grace x s
  | post h m =>
      simp only [step]
      split_ifs
      · exact leads_push h m s
      · exact .of_cells rfl
  | turn h env fates => exact leads_takeTurn h env fates s
  | create r now =>
      simp only [step]
      split_ifs <;> exact .of_cells rfl
  | write st => exact .of_cells rfl

theorem leads_run (grace : Nat) (s : Registry) (ls : List Label) :
    Leads s (run (step grace) s ls) := by
  induction ls generalizing s with
  | nil => exact .of_cells rfl
  | cons l ls ih =>
      rw [run_cons]
      exact (leads_step grace s l).trans (ih _)

theorem Leads.ended (hl : Leads s s') : Ended s s' := by
  intro h c hc hstopped
  obtain ⟨c', hc', hlead⟩ := hl h c hc
  exact ⟨c', hc', hlead.halted hstopped⟩

/-- An actor of a room that is gone takes no turn. -/
theorem Gone.takeTurn_eq (hg : Gone id s) {h : Nat} (hserves : s.Serves h id) (env : Env)
    (fates : List Fate) : s.takeTurn h env fates = s := by
  rcases takeTurn_cases h env fates s with heq | ⟨c, m, rest, a, r, hc, hlive, -⟩
  · exact heq
  · obtain ⟨c', hc', hroom⟩ := hserves
    obtain rfl := Option.some.inj (hc.symm.trans hc')
    exact absurd ⟨c, hc, hlive, hroom⟩ (hg.quiet h)

-- ============================================================================
-- What a `Delete` knows of its room
-- ============================================================================

/-- From its read of the row on, the row is there; after `DeleteRoom` the room is gone. -/
def Reads (s : Registry) : Stage → Prop
  | .evicting k | .stopping k _ | .awaiting k _ | .dropping k | .deleting k
  | .unlocking (.delete k) (.failed _) | .unlocking (.delete k) (.unread _ true) =>
      k ∈ s.db.rooms
  | .unlocking (.delete k) .done => Gone k s
  | _ => True

theorem reads_of_not_critical {x : Stage} (hx : x.critical = false) : Reads s x := by
  cases x with
  | evicting | stopping | awaiting | dropping | deleting | unlocking => exact Bool.noConfusion hx
  | _ => trivial

theorem Reads.mono {x : Stage} (h : Reads s x) (hrooms : ∀ k, k ∈ s.db.rooms → k ∈ s'.db.rooms)
    (hgone : ∀ k, Gone k s → Gone k s') : Reads s' x := by
  cases x with
  | evicting k | stopping k h₀ | awaiting k h₀ | dropping k | deleting k => exact hrooms k h
  | unlocking c r =>
      cases c with
      | delete k =>
          cases r with
          | failed e => exact hrooms k h
          | unread e found =>
              cases found with
              | true => exact hrooms k h
              | false => trivial
          | done => exact hgone k h
          | actor h₀ => trivial
      | get | shutdown => trivial
  | _ => trivial

/-- The call of a `Shutdown` that has not taken the map. -/
def Stage.shutsDown : Stage → Bool
  | .locking .shutdown | .held .shutdown => true
  | _ => false

/-- No `Shutdown` has been called. -/
structure Ordered (s : Registry) : Prop where
  inv : Inv s
  up : s.down = false
  calm : ∀ i, (s.calls i).shutsDown = false
  used : ∀ k, k ∈ s.db.rooms → k ∈ s.used
  reads : ∀ i, Reads s (s.calls i)

theorem ordered_start (d : Database) : Ordered (start d) := by
  refine ⟨inv_boot d d.rooms.keys, rfl, ?_, ?_, ?_⟩
  · intro i
    rfl
  · intro k hk
    exact AList.mem_keys.mp hk
  · intro i
    exact trivial

theorem stop_frame (h : Nat) (sends : Bool) (sent done : Stage) (s : Registry) :
    (s.stop i h sends sent done).db = s.db ∧ (s.stop i h sends sent done).used = s.used ∧
      (s.stop i h sends sent done).down = s.down := by
  unfold Registry.stop
  split_ifs <;> exact ⟨rfl, rfl, rfl⟩

/-- What a step of a goroutine does to the database: `DeleteRoom`, or nothing. -/
theorem advance_frame (grace : Nat) (x : Answer) (s : Registry) :
    (s.advance grace i x).used = s.used ∧
      ((s.advance grace i x).down = s.down ∨ s.calls i = .held .shutdown) ∧
      ((s.advance grace i x).db = s.db ∨
        ∃ k, s.calls i = .deleting k ∧ (s.advance grace i x).db = (s.deleteRoom k x.fault).2) := by
  unfold advance stepGet stepDelete stepShutdown
  cases hi : s.calls i with
  | held c =>
      cases c with
      | shutdown => exact ⟨rfl, .inr rfl, .inl rfl⟩
      | get k =>
          simp only
          split <;> exact ⟨rfl, .inl rfl, .inl rfl⟩
      | delete k =>
          simp only
          repeat' split
          all_goals exact ⟨rfl, .inl rfl, .inl rfl⟩
  | stopping k h =>
      obtain ⟨hdb, hused, hdown⟩ := stop_frame (i := i) h x.sends (.awaiting k h) (.dropping k) s
      exact ⟨hused, .inl hdown, .inl hdb⟩
  | halting hs =>
      cases hs with
      | nil => exact ⟨rfl, .inl rfl, .inl rfl⟩
      | cons h₀ hs =>
          simp only
          split_ifs
          · obtain ⟨hdb, hused, hdown⟩ := stop_frame (i := i) x.next x.sends
              (.draining x.next ((h₀ :: hs).erase x.next)) (.halting ((h₀ :: hs).erase x.next)) s
            exact ⟨hused, .inl hdown, .inl hdb⟩
          · exact ⟨rfl, .inl rfl, .inl rfl⟩
  | deleting k => exact ⟨rfl, .inl rfl, .inr ⟨k, rfl, rfl⟩⟩
  | locking | reading | evicting | awaiting | draining =>
      simp only
      split <;> exact ⟨rfl, .inl rfl, .inl rfl⟩
  | _ => exact ⟨rfl, .inl rfl, .inl rfl⟩

theorem stop_calls (h : Nat) (sends : Bool) (sent done : Stage) (s : Registry) :
    (s.stop i h sends sent done).calls i = sent ∨ (s.stop i h sends sent done).calls i = done ∨
      (s.stop i h sends sent done).calls i = s.calls i := by
  unfold Registry.stop
  split_ifs
  · exact .inl (goto_calls_self ..)
  · exact .inr (.inr rfl)
  · exact .inr (.inl (goto_calls_self ..))
  · exact .inr (.inr rfl)

/-- The stages that may follow a stage. -/
inductive Stage.Next : Stage → Stage → Prop
  | lock (c : Call) : Next (.locking c) (.held c)
  | mapped (id : String) (h : Nat) : Next (.held (.get id)) (.unlocking (.get id) (.actor h))
  | read (id : String) : Next (.held (.get id)) (.reading id)
  | missing (id : String) (e : StoreError) :
      Next (.reading id) (.unlocking (.get id) (.failed e))
  | load (id : String) (room : Room) : Next (.reading id) (.loading id room)
  | start (id : String) (room : Room) (cp : Option Checkpoint) :
      Next (.loading id room) (.starting id room cp)
  | store (id : String) (room : Room) (cp : Option Checkpoint) (h : Nat) :
      Next (.starting id room cp) (.storing id h)
  | stored (id : String) (h : Nat) : Next (.storing id h) (.unlocking (.get id) (.actor h))
  | refused (id : String) (r : Result) : Next (.held (.delete id)) (.unlocking (.delete id) r)
  | evict (id : String) : Next (.held (.delete id)) (.evicting id)
  | stop (id : String) (h : Nat) : Next (.evicting id) (.stopping id h)
  | unmapped (id : String) : Next (.evicting id) (.deleting id)
  | await (id : String) (h : Nat) : Next (.stopping id h) (.awaiting id h)
  | stopped (id : String) (h : Nat) : Next (.stopping id h) (.dropping id)
  | drop (id : String) (h : Nat) : Next (.awaiting id h) (.dropping id)
  | delete (id : String) : Next (.dropping id) (.deleting id)
  | deleted (id : String) (r : Result) : Next (.deleting id) (.unlocking (.delete id) r)
  | unlock (c : Call) (r : Result) : Next (.unlocking c r) (.returned c r)
  | takeMap (hs : List Nat) : Next (.held .shutdown) (.taken hs)
  | halt (hs : List Nat) : Next (.taken hs) (.halting hs)
  | halted : Next (.halting []) (.returned .shutdown .done)
  | drain (hs : List Nat) (h : Nat) (hs' : List Nat) : Next (.halting hs) (.draining h hs')
  | skip (hs hs' : List Nat) : Next (.halting hs) (.halting hs')
  | drained (h : Nat) (hs : List Nat) : Next (.draining h hs) (.halting hs)

theorem next_stop {h : Nat} {sends : Bool} {sent done : Stage} {x : Stage}
    (hx : s.calls i = x) (hsent : x.Next sent) (hdone : x.Next done) :
    (s.stop i h sends sent done).calls i = x ∨ x.Next ((s.stop i h sends sent done).calls i) := by
  rcases stop_calls (i := i) h sends sent done s with heq | heq | heq
  · rw [heq]
    exact .inr hsent
  · rw [heq]
    exact .inr hdone
  · exact .inl (heq.trans hx)

/-- A goroutine stays where it is or goes to a stage that may follow. -/
theorem next_advance (grace : Nat) (x : Answer) (s : Registry) :
    (s.advance grace i x).calls i = s.calls i ∨
      (s.calls i).Next ((s.advance grace i x).calls i) := by
  unfold advance stepGet stepDelete stepShutdown
  cases hi : s.calls i with
  | idle | returned => exact .inl hi
  | locking c =>
      simp only
      split
      · exact .inr (by rw [goto_calls_self]; exact .lock c)
      · exact .inl hi
  | held c =>
      cases c with
      | get id =>
          simp only
          split
          · exact .inr (by rw [goto_calls_self]; exact .mapped id _)
          · exact .inr (by rw [goto_calls_self]; exact .read id)
      | delete id =>
          simp only
          split
          · exact .inr (by rw [goto_calls_self]; exact .refused id _)
          · split_ifs
            · exact .inr (by rw [goto_calls_self]; exact .refused id _)
            · exact .inr (by rw [goto_calls_self]; exact .evict id)
      | shutdown => exact .inr (by rw [goto_calls_self]; exact .takeMap _)
  | reading id =>
      simp only
      split
      · exact .inr (by rw [goto_calls_self]; exact .missing id _)
      · exact .inr (by rw [goto_calls_self]; exact .load id _)
  | loading id room => exact .inr (by rw [goto_calls_self]; exact .start id room _)
  | starting id room cp => exact .inr (by rw [goto_calls_self]; exact .store id room cp _)
  | storing id h => exact .inr (by rw [goto_calls_self]; exact .stored id h)
  | evicting id =>
      simp only
      split
      · exact .inr (by rw [goto_calls_self]; exact .stop id _)
      · exact .inr (by rw [goto_calls_self]; exact .unmapped id)
  | stopping id h => exact next_stop hi (.await id h) (.stopped id h)
  | awaiting id h =>
      simp only
      split
      · exact .inr (by rw [goto_calls_self]; exact .drop id h)
      · exact .inl hi
  | dropping id => exact .inr (by rw [goto_calls_self]; exact .delete id)
  | deleting id => exact .inr (by rw [goto_calls_self]; exact .deleted id _)
  | unlocking c r => exact .inr (by rw [goto_calls_self]; exact .unlock c r)
  | taken hs => exact .inr (by rw [goto_calls_self]; exact .halt hs)
  | halting hs =>
      cases hs with
      | nil => exact .inr (by rw [goto_calls_self]; exact .halted)
      | cons h hs =>
          simp only
          split
          · exact next_stop hi (.drain _ _ _) (.skip _ _)
          · exact .inl hi
  | draining h hs =>
      simp only
      split
      · exact .inr (by rw [goto_calls_self]; exact .drained h hs)
      · exact .inl hi

theorem calm_advance (grace : Nat) (x : Answer) (h : (s.calls i).shutsDown = false) :
    ((s.advance grace i x).calls i).shutsDown = false := by
  rcases next_advance (i := i) grace x s with heq | hnext
  · rw [heq]
    exact h
  · generalize s.calls i = y at h hnext
    generalize (s.advance grace i x).calls i = z at hnext
    cases hnext with
    | lock c => cases c <;> first | rfl | exact h
    | _ => rfl

theorem mem_of_roomByID {fault : Option String} {room : Room} (h : s.roomByID id fault = .ok room) :
    id ∈ s.db.rooms := by
  by_contra hrow
  exact roomByID_absent hrow room h

/-- `DeleteRoom`, with no actor of the room running. -/
theorem Ordered.gone_of_deleteRoom (ho : Ordered s) (hi : s.calls i = .deleting id)
    {fault : Option String} (hrooms : (s.deleteRoom id fault).2.rooms = s.db.rooms.erase id)
    {x : Stage} (hx : ¬x.obtains id) : Gone id ((s.setDB (s.deleteRoom id fault).2).goto i x) := by
  have hcrit : (s.calls i).critical = true := by rw [hi]; rfl
  have hfits := ho.inv.fits i
  have hreads := ho.reads i
  rw [hi] at hfits hreads
  have hquiet : ∀ h, ¬s.Runs h id := by
    intro h hrun
    cases ho.inv.kept h id hrun with
    | mapped hmap => exact absurd (hfits.symm.trans hmap) (by simp)
    | storing j hj =>
        obtain rfl : j = i := ho.inv.exclusive.unique hcrit (by rw [hj]; rfl)
        exact absurd (hi.symm.trans hj) (by simp)
    | doomed j hj =>
        have hdown := ho.inv.past j (past_of_mem_doomed hj)
        exact absurd (ho.up.symm.trans hdown) (by decide)
  refine ⟨?_, ho.used id hreads, hfits, hquiet, ?_⟩
  · show id ∉ (s.deleteRoom id fault).2.rooms
    rw [hrooms]
    exact fun hmem => (AList.mem_erase.mp hmem).1 rfl
  · refine forall_goto (Q := fun y => ¬y.obtains id) hx ?_
    intro j hj hobtains
    exact ho.inv.exclusive.others hcrit hj (critical_of_obtains hobtains)

/-- What a `Delete` knows after its own step. -/
theorem reads_stepDelete (ho : Ordered s) (x : Answer) :
    Reads (s.stepDelete i x (s.calls i)) ((s.stepDelete i x (s.calls i)).calls i) := by
  have hreads := ho.reads i
  cases hi : s.calls i with
  | held c =>
      cases c with
      | delete k =>
          simp only [stepDelete]
          split
          · rename_i e _
            rw [goto_calls_self]
            by_cases hmem : k ∈ s.db.rooms
            · rw [decide_eq_true hmem]
              exact hmem
            · rw [decide_eq_false hmem]
              trivial
          · rename_i room hroom
            have hmem := mem_of_roomByID hroom
            split_ifs
            · rw [goto_calls_self]
              exact hmem
            · rw [goto_calls_self]
              exact hmem
      | _ =>
          simp only [stepDelete]
          rw [hi]
          trivial
  | evicting k =>
      rw [hi] at hreads
      simp only [stepDelete]
      split
      · rw [goto_calls_self]
        exact hreads
      · rw [goto_calls_self]
        exact hreads
  | stopping k h =>
      rw [hi] at hreads
      have hdb := (stop_frame (i := i) h x.sends (.awaiting k h) (.dropping k) s).1
      simp only [stepDelete]
      rcases stop_calls (i := i) h x.sends (.awaiting k h) (.dropping k) s with hc | hc | hc
      · rw [hc, Reads, hdb]
        exact hreads
      · rw [hc, Reads, hdb]
        exact hreads
      · rw [hc, hi, Reads, hdb]
        exact hreads
  | awaiting k h =>
      rw [hi] at hreads
      simp only [stepDelete]
      split_ifs
      · rw [goto_calls_self]
        exact hreads
      · rw [hi]
        exact hreads
  | dropping k =>
      rw [hi] at hreads
      simp only [stepDelete]
      rw [goto_calls_self]
      exact hreads
  | deleting k =>
      rw [hi] at hreads
      simp only [stepDelete]
      rw [goto_calls_self]
      rcases deleteRoom_cases k x.fault s with ⟨r, -, -, hok, hrooms⟩ | ⟨e, heq⟩
      · rw [hok]
        exact ho.gone_of_deleteRoom hi hrooms not_false
      · rw [heq]
        exact hreads
  | _ =>
      rw [hi] at hreads
      simp only [stepDelete]
      rw [hi]
      exact hreads

/-- What any goroutine knows after its own step. -/
theorem reads_advance (ho : Ordered s) (grace : Nat) (x : Answer) :
    Reads (s.advance grace i x) ((s.advance grace i x).calls i) := by
  have hdelete := reads_stepDelete (i := i) ho x
  have hreads := ho.reads i
  have hcalm := ho.calm i
  unfold advance
  cases hi : s.calls i with
  | evicting | stopping | awaiting | dropping | deleting =>
      rw [hi] at hdelete
      exact hdelete
  | held c =>
      rw [hi] at hdelete hcalm
      cases c with
      | delete k => exact hdelete
      | shutdown => exact Bool.noConfusion hcalm
      | get k =>
          simp only [stepGet]
          split
          · rw [goto_calls_self]
            trivial
          · rw [goto_calls_self]
            trivial
  | reading k =>
      simp only [stepGet]
      split
      · rw [goto_calls_self]
        trivial
      · rw [goto_calls_self]
        trivial
  | locking c =>
      simp only
      split
      · rw [goto_calls_self]
        trivial
      · rw [hi]
        trivial
  | loading | starting | storing | unlocking =>
      simp only [stepGet]
      rw [goto_calls_self]
      trivial
  | idle | returned =>
      simp only
      rw [hi]
      trivial
  | taken | halting | draining =>
      -- a `Shutdown` that is on its way has taken the map
      have hdown := ho.inv.past i (by rw [hi]; rfl)
      exact absurd (ho.up.symm.trans hdown) (by decide)

-- ============================================================================
-- Every run without a `Shutdown`
-- ============================================================================

/-- The goroutine is about to run `DeleteRoom`. -/
def Deletes (s : Registry) (l : Label) : Prop :=
  ∃ i x k, l = .advance i x ∧ s.calls i = .deleting k

/-- Only `DeleteRoom` takes a row away. -/
theorem mem_rooms_step (grace : Nat) {l : Label} (hl : ¬Deletes s l) {k : String}
    (hk : k ∈ s.db.rooms) : k ∈ (step grace s l).db.rooms := by
  cases l with
  | call i c =>
      simp only [step]
      split_ifs <;> exact hk
  | advance i x =>
      obtain ⟨-, -, hdb | ⟨k', hi, -⟩⟩ := advance_frame (i := i) grace x s
      · show k ∈ (s.advance grace i x).db.rooms
        rw [hdb]
        exact hk
      · exact absurd ⟨i, x, k', rfl, hi⟩ hl
  | post h m =>
      simp only [step]
      split_ifs <;> exact hk
  | turn h env fates => exact (mem_rooms_takeTurn h env fates s k).mpr hk
  | create r now =>
      simp only [step]
      split_ifs
      · exact hk
      · show k ∈ (s.db.createRoom r now).2.rooms
        unfold Database.createRoom
        split_ifs
        · exact hk
        · exact (AList.mem_insert _).mpr (.inr hk)
        · exact hk
  | write st =>
      show k ∈ (st.write s.db).rooms
      rw [rooms_write]
      exact hk

/-- A room that has a row has had its id given. -/
theorem used_step (hold : ∀ k, k ∈ s.db.rooms → k ∈ s.used) (grace : Nat) (l : Label)
    {k : String} (hk : k ∈ (step grace s l).db.rooms) : k ∈ (step grace s l).used := by
  cases l with
  | call i c =>
      simp only [step] at hk ⊢
      split_ifs at hk ⊢ <;> exact hold k hk
  | advance i x =>
      obtain ⟨hused, -, hdb⟩ := advance_frame (i := i) grace x s
      show k ∈ (s.advance grace i x).used
      rw [hused]
      apply hold k
      rcases hdb with hdb | ⟨k', -, hdb⟩
      · exact hdb ▸ hk
      · have hk' : k ∈ (s.deleteRoom k' x.fault).2.rooms := hdb ▸ hk
        rcases deleteRoom_cases k' x.fault s with ⟨r, -, -, -, hrooms⟩ | ⟨e, heq⟩
        · rw [hrooms] at hk'
          exact (AList.mem_erase.mp hk').2
        · rw [heq] at hk'
          exact hk'
  | post h m =>
      simp only [step] at hk ⊢
      split_ifs at hk ⊢ <;> exact hold k hk
  | turn h env fates =>
      have hused := hold k ((mem_rooms_takeTurn h env fates s k).mp hk)
      show k ∈ (s.takeTurn h env fates).used
      rcases takeTurn_cases h env fates s with heq | ⟨c, m, rest, a, r, -, -, -, -, -, heq⟩
      · rw [heq]
        exact hused
      · rw [heq]
        exact hused
  | create r now =>
      simp only [step] at hk ⊢
      split_ifs at hk ⊢
      · exact hold k hk
      · have hk' : k ∈ (s.db.createRoom r now).2.rooms := hk
        unfold Database.createRoom at hk'
        split_ifs at hk'
        · exact List.mem_cons_of_mem _ (hold k hk')
        · rcases (AList.mem_insert _).mp hk' with heq | hmem
          · exact heq ▸ List.mem_cons_self
          · exact List.mem_cons_of_mem _ (hold k hmem)
        · exact List.mem_cons_of_mem _ (hold k hk')
  | write st =>
      have hk' : k ∈ (st.write s.db).rooms := hk
      rw [rooms_write] at hk'
      exact hold k hk'

theorem reads_step (ho : Ordered s) (grace : Nat) (l : Label) (j : Nat) :
    Reads (step grace s l) ((step grace s l).calls j) := by
  by_cases hj : l.goroutine = some j
  · cases l with
    | call i c =>
        obtain rfl := Option.some.inj hj
        simp only [step]
        split_ifs with hidle
        · rw [goto_calls_self]
          trivial
        · exact ho.reads i
    | advance i x =>
        obtain rfl := Option.some.inj hj
        exact reads_advance ho grace x
    | _ => exact absurd hj (by simp [Label.goroutine])
  · rw [step_calls_ne grace s hj]
    by_cases hdel : Deletes s l
    · -- the lock keeps the others out while a row is deleted
      obtain ⟨i, x, k, rfl, hi⟩ := hdel
      have hji : j ≠ i := by
        rintro rfl
        exact hj rfl
      exact reads_of_not_critical
        (Bool.not_eq_true _ ▸ ho.inv.exclusive.others (by rw [hi]; rfl) hji)
    · exact (ho.reads j).mono (fun k hk => mem_rooms_step grace hdel hk)
        (fun k hg => gone_step ho.inv hg grace l)

theorem ordered_step (grace : Nat) (s : Registry) (l : Label) (ho : Ordered s)
    (hl : l.shutsDown = false) : Ordered (step grace s l) := by
  have hlate : startsLate s l = false := by
    unfold startsLate
    split
    · split
      · exact ho.up
      · rfl
    · rfl
  refine ⟨inv_step grace s l ho.inv hlate, ?_, ?_, fun k => used_step ho.used grace l,
    reads_step ho grace l⟩
  · cases l with
    | advance i x =>
        obtain ⟨-, hdown | hi, -⟩ := advance_frame (i := i) grace x s
        · exact hdown.trans ho.up
        · have hcalm := ho.calm i
          rw [hi] at hcalm
          exact Bool.noConfusion hcalm
    | turn h env fates =>
        show (s.takeTurn h env fates).down = false
        rcases takeTurn_cases h env fates s with heq | ⟨c, m, rest, a, r, -, -, -, -, -, heq⟩
        · rw [heq]
          exact ho.up
        · rw [heq]
          exact ho.up
    | call | post | create =>
        simp only [step]
        split_ifs <;> exact ho.up
    | write st => exact ho.up
  · intro j
    by_cases hj : l.goroutine = some j
    · cases l with
      | call i c =>
          obtain rfl := Option.some.inj hj
          simp only [step]
          split_ifs
          · rw [goto_calls_self]
            cases c with
            | shutdown => exact Bool.noConfusion hl
            | _ => rfl
          · exact ho.calm i
      | advance i x =>
          obtain rfl := Option.some.inj hj
          exact calm_advance grace x (ho.calm i)
      | _ => exact absurd hj (by simp [Label.goroutine])
    · rw [step_calls_ne grace s hj]
      exact ho.calm j

theorem ordered_run (grace : Nat) {ls : List Label} (hls : ∀ l ∈ ls, l.shutsDown = false)
    (ho : Ordered s) : Ordered (run (step grace) s ls) := by
  induction ls generalizing s with
  | nil => exact ho
  | cons l ls ih =>
      rw [run_cons]
      exact ih (fun l' hl' => hls l' (List.mem_cons_of_mem _ hl'))
        (ordered_step grace s l ho (hls l List.mem_cons_self))

/-- A call returns after its `Unlock`. -/
theorem Returns.unlocks {grace : Nat} {l : Label} {c : Call} {r : Result}
    (h : Returns grace s l i c r) (hc : c ≠ .shutdown) :
    s.calls i = .unlocking c r ∧ ∃ x, l = .advance i x := by
  obtain ⟨hnew, hreturned⟩ := h
  have hmover : l.goroutine = some i := by
    by_contra hl
    rw [step_calls_ne grace s hl] at hreturned
    exact hnew hreturned
  cases l with
  | call j c' =>
      obtain rfl := Option.some.inj hmover
      simp only [step] at hreturned
      split_ifs at hreturned
      · rw [goto_calls_self] at hreturned
        cases hreturned
      · exact absurd hreturned hnew
  | advance j x =>
      obtain rfl := Option.some.inj hmover
      have hstep : (s.advance grace j x).calls j = .returned c r := hreturned
      rcases next_advance (i := j) grace x s with heq | hnext
      · exact absurd (heq.symm.trans hstep) hnew
      · rw [hstep] at hnext
        generalize s.calls j = y at hnext
        cases hnext with
        | unlock => exact ⟨rfl, x, rfl⟩
        | halted => exact absurd rfl hc
  | _ => exact absurd hmover (by simp [Label.goroutine])

theorem gone_run (grace : Nat) {ls : List Label} (hls : ∀ l ∈ ls, l.shutsDown = false)
    (ho : Ordered s) (hg : Gone id s) : Gone id (run (step grace) s ls) := by
  induction ls generalizing s with
  | nil => exact hg
  | cons l ls ih =>
      rw [run_cons]
      exact ih (fun l' hl' => hls l' (List.mem_cons_of_mem _ hl'))
        (ordered_step grace s l ho (hls l List.mem_cons_self)) (gone_step ho.inv hg grace l)

/-- No `Get` that returns later has an actor of a room that is gone. -/
theorem Gone.unobtainable (grace : Nat) {ls : List Label} (hls : ∀ l ∈ ls, l.shutsDown = false)
    (ho : Ordered s) (hg : Gone id s) {j h : Nat}
    (hj : (run (step grace) s ls).calls j = .returned (.get id) (.actor h)) :
    s.calls j = .returned (.get id) (.actor h) := by
  induction ls generalizing s with
  | nil => exact hj
  | cons l ls ih =>
      rw [run_cons] at hj
      have hnext := ih (fun l' hl' => hls l' (List.mem_cons_of_mem _ hl'))
        (ordered_step grace s l ho (hls l List.mem_cons_self)) (gone_step ho.inv hg grace l) hj
      by_contra hnew
      have hunlocking := (Returns.unlocks (r := .actor h) ⟨hnew, hnext⟩ (by simp)).1
      have hmissed := hg.missed j
      rw [hunlocking] at hmissed
      exact hmissed rfl

theorem Gone.staysDeleted (grace : Nat) {ls : List Label} (hls : ∀ l ∈ ls, l.shutsDown = false)
    (ho : Ordered s) (hg : Gone id s) : StaysDeleted id s (run (step grace) s ls) := by
  have hlater := gone_run grace hls ho hg
  refine ⟨hlater.row, hlater.quiet, ?_, hlater.unmapped, ?_⟩
  · intro j h hj
    exact hg.unobtainable grace hls ho hj
  · intro h hserves env fates
    exact hlater.takeTurn_eq hserves env fates

theorem Ordered.keepsReadRow (ho : Ordered s) (grace : Nat) (l : Label) :
    KeepsReadRow grace s l := by
  have hkept : ∀ {i k r}, Returns grace s l i (.delete k) r → k ∈ s.db.rooms →
      k ∈ (step grace s l).db.rooms := by
    intro i k r h hk
    obtain ⟨hi, x, rfl⟩ := h.unlocks (by simp)
    refine mem_rooms_step grace ?_ hk
    rintro ⟨i', x', k', heq, hdel⟩
    obtain ⟨rfl, -⟩ := Label.advance.inj heq
    exact absurd (hi.symm.trans hdel) (by simp)
  refine ⟨?_, ?_⟩
  · intro i k e h
    have hreads := ho.reads i
    rw [(h.unlocks (by simp)).1] at hreads
    exact hkept h hreads
  · intro i k e h
    have hreads := ho.reads i
    rw [(h.unlocks (by simp)).1] at hreads
    exact hkept h hreads

/-- **Deleted rooms stay deleted.**  In every run of calls of `Get` and `Delete`, messages and
    turns, writes and new rooms: an actor that has stopped takes no message any more; from the
    moment on at which a `Delete` returns `nil`, the room stays deleted; and a `Delete` that
    fails after its first read of the row leaves the row. -/
theorem deleted_rooms_stay_deleted (grace : Nat) (d : Database) (ls : List Label)
    (hls : ∀ l ∈ ls, l.shutsDown = false) :
    (∀ pre mid post, ls = pre ++ (mid ++ post) →
      Ended (run (step grace) (start d) pre) (run (step grace) (start d) (pre ++ mid))) ∧
    ∀ pre l post, ls = pre ++ l :: post →
      KeepsReadRow grace (run (step grace) (start d) pre) l ∧
      ∀ i id, Returns grace (run (step grace) (start d) pre) l i (.delete id) .done →
        ∀ mid rest, post = mid ++ rest →
          StaysDeleted id (run (step grace) (start d) (pre ++ [l]))
            (run (step grace) (start d) (pre ++ l :: mid)) := by
  constructor
  · rintro pre mid post rfl
    rw [run_append]
    exact (leads_run grace _ mid).ended
  · rintro pre l post rfl
    have hpre : Ordered (run (step grace) (start d) pre) := by
      refine ordered_run grace ?_ (ordered_start d)
      intro l' hl'
      exact hls l' (List.mem_append_left _ hl')
    have hl : l.shutsDown = false := hls l (by simp)
    refine ⟨hpre.keepsReadRow grace l, ?_⟩
    rintro i id hreturns mid rest rfl
    have hreads := hpre.reads i
    rw [(hreturns.unlocks (by simp)).1] at hreads
    have hgone : Gone id (run (step grace) (start d) (pre ++ [l])) := by
      rw [run_append, run_cons]
      exact gone_step hpre.inv hreads grace l
    have hmoment : Ordered (run (step grace) (start d) (pre ++ [l])) := by
      rw [run_append, run_cons]
      exact ordered_step grace _ l hpre hl
    rw [show pre ++ l :: mid = (pre ++ [l]) ++ mid by simp, run_append _ _ (pre ++ [l])]
    refine hgone.staysDeleted grace ?_ hmoment
    intro l' hl'
    exact hls l' (by simp [hl'])

/-- A room that its host has closed. -/
def closedRoom : Database :=
  { Database.empty with
    rooms := (∅ : KeyedTable String Room).insert "r" { smallRoom "h" with status := .CLOSED } }

/-- A `Delete` stops the actor of the room, which finds a `reopen` behind the stop request. -/
def deletion : List Label :=
  calling 0 (.get "r") 7 ++ calling 1 (.delete "r") 4 ++
    [.post 0 .reopen, .turn 0 (Env.at 1) []] ++ List.replicate 3 (.advance 1 ⟨none, true, 0⟩)

/-- The `reopen` is still in the queue, and another `Get` comes. -/
def afterDeletion : List Label := .turn 0 (Env.at 2) [] :: calling 2 (.get "r") 4

theorem closed_room_stays_deleted :
    StaysDeleted "r"
      (run (step 60) (start closedRoom) (deletion ++ [.advance 1 ⟨none, true, 0⟩]))
      (run (step 60) (start closedRoom) (deletion ++ .advance 1 ⟨none, true, 0⟩ :: afterDeletion)) :=
  ((deleted_rooms_stay_deleted 60 closedRoom
      (deletion ++ .advance 1 ⟨none, true, 0⟩ :: afterDeletion) (by decide)).2
    deletion _ afterDeletion rfl).2 1 "r" ⟨by decide +kernel, by decide +kernel⟩
    afterDeletion [] (List.append_nil _).symm

/-- A `Delete` has deleted the room, and the first read of a second one fails. -/
def secondDelete : List Label :=
  calling 0 (.delete "r") 5 ++ calling 1 (.delete "r") 1 ++
    [.advance 1 ⟨some "context canceled", true, 0⟩]

/-- The second `Delete` returns "context canceled", and there is no row. -/
theorem second_delete_unread :
    ¬KeepsRow 60 (run (step 60) (start closedRoom) secondDelete) (.advance 1 ⟨none, true, 0⟩) := by
  intro h
  have hrow := h 1 "r" (.failed "context canceled")
    (.inr ⟨false, by decide +kernel, by decide +kernel⟩) (by decide)
  exact absurd hrow (by decide +kernel)

end WatchTogether.Rooms.Registry

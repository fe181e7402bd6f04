/-
  WatchTogether.Rooms.Registry

  `Registry` (`internal/rooms/actor.go`): the actors of all rooms behind one mutex.
  Any number of goroutines call `Get`, `Delete` and `Shutdown`; a step of one of them is an
  access to the lock, the map, the database or a channel.  Between any two of these steps
  other goroutines move, an actor takes a message from its channel, a holder of an actor
  sends it one, and other code writes to the database.

  An actor stays in `cells` after its loop has returned, so that whoever has the pointer can
  still send to it.
-/

import WatchTogether.Lib.LabelledRun
import WatchTogether.Lib.Mutex
import WatchTogether.Repository.Database
import WatchTogether.Rooms.Run

namespace WatchTogether.Rooms

open Repository

namespace Registry

-- ============================================================================
-- The database of the actors
-- ============================================================================

/-- The statements that leave `rooms` and `room_checkpoints` alone. -/
def aside : Statement → Bool
  | .createRoom .. | .deleteRoom .. | .transferHost .. | .closeRoom .. | .reopenRoom ..
  | .setRoomMedia .. | .updateRoomTitle .. | .updateRoomStatus .. | .saveCheckpoint .. => false
  | _ => true

/-- A statement of other code. -/
abbrev Aside : Type := { st : Statement // aside st = true }

/-- The tables after a statement of other code. -/
def Aside.write (d : Database) (st : Aside) : Database := (st.1.perform d).2

/-- What comes of a store call of an actor: what other code writes before it, and whether
    it fails. -/
structure Fate where
  writes : List Aside
  fails : Bool

/-- The database during a turn, and the fates of the coming calls. -/
structure Backend where
  db : Database
  fates : List Fate

namespace Backend

/-- What the next call finds. -/
def found (s : Backend) : Backend :=
  match s.fates with
  | [] => s
  | fate :: rest => ⟨fate.writes.foldl Aside.write s.db, rest⟩

/-- The next call fails. -/
def failing (s : Backend) : Bool := s.fates.head?.any (fun fate => fate.fails)

/-- One store call.  A call that fails leaves the tables alone. -/
def call {ρ : Type} (failed : ρ) (f : DB → ρ × DB) (s : Backend) : ρ × Backend :=
  if s.failing then (failed, s.found)
  else ((f s.found.db.toDB).1, { s.found with db := (Database.lift f s.found.db).2 })

/-- The error of a call that fails. -/
def ioError : StoreError := .failed "disk I/O error"

/-- The store calls of an actor over the whole database. -/
def persistence : Persistence Backend where
  saveCheckpoint cp := call (.error ioError) (Store.saveCheckpoint cp)
  members k := call ([], some ioError) (Store.persistence.members k)
  transferHost k old new now := call (.error ioError) (Store.transferHost k old new now)
  closeRoom k now := call (.error ioError) (Store.closeRoom k now)
  reopenRoom k now := call (.error ioError) (Store.reopenRoom k now)
  leaveMember k id now := call (.error ioError) (Store.leaveMember k id now)
  setRoomMedia k id now := call (.error ioError) (Store.setRoomMedia k id now)
  updateMediaMetadata id d w h now := call (.error ioError) (Store.updateMediaMetadata id d w h now)
  deleteGuestSession k id := call (.error ioError) (Store.deleteGuestSession k id)
  updateRoomStatus k status now := call (.error ioError) (Store.updateRoomStatus k status now)
  updateRoomTitle k title now := call (.error ioError) (Store.updateRoomTitle k title now)

end Backend

-- ============================================================================
-- Calls of the registry
-- ============================================================================

/-- A call of the registry. -/
inductive Call where
  | get (id : String)
  | delete (id : String)
  | shutdown
deriving DecidableEq, Repr

/-- What a call returns. -/
inductive Result where
  | actor (h : Nat)
  /-- The first read of `Delete` has failed; `found` tells whether the row was there. -/
  | unread (e : StoreError) (found : Bool)
  | failed (e : StoreError)
  | done
deriving DecidableEq, Repr

/-- Where a goroutine is in its call. -/
inductive Stage where
  | idle
  /-- `r.mu.Lock()`. -/
  | locking (c : Call)
  /-- The lock is taken: `Get` looks into the map, `Delete` into the database, `Shutdown`
      takes the map. -/
  | held (c : Call)
  /-- `Get`: no actor in the map, `RoomByID` is next. -/
  | reading (id : String)
  /-- `Checkpoint` is next. -/
  | loading (id : String) (room : Room)
  /-- `NewActor` is next. -/
  | starting (id : String) (room : Room) (checkpoint : Option Checkpoint)
  /-- `r.actors[id] = a` is next. -/
  | storing (id : String) (h : Nat)
  /-- `Delete`: the room is closed, `r.actors[id]` is next. -/
  | evicting (id : String)
  /-- The `select` of `Stop` is next. -/
  | stopping (id : String) (h : Nat)
  /-- `<-d`. -/
  | awaiting (id : String) (h : Nat)
  /-- `delete(r.actors, id)` is next. -/
  | dropping (id : String)
  /-- `DeleteRoom` is next. -/
  | deleting (id : String)
  /-- The deferred `Unlock` of `Get` and `Delete`. -/
  | unlocking (c : Call) (r : Result)
  /-- `Shutdown`: the map is taken, `r.mu.Unlock()` is next. -/
  | taken (hs : List Nat)
  /-- The loop over the taken actors. -/
  | halting (hs : List Nat)
  /-- `<-d` of the actor `h`; the others are still to come. -/
  | draining (h : Nat) (hs : List Nat)
  | returned (c : Call) (r : Result)
deriving DecidableEq

namespace Stage

/-- The stages between `Lock` and `Unlock`. -/
def critical : Stage → Bool
  | .idle | .locking _ | .halting _ | .draining .. | .returned .. => false
  | _ => true

/-- The actors that a `Shutdown` has still to stop. -/
def doomed : Stage → List Nat
  | .taken hs | .halting hs => hs
  | .draining h hs => h :: hs
  | _ => []

/-- A `Shutdown` that has taken the map. -/
def past : Stage → Bool
  | .taken _ | .halting _ | .draining .. => true
  | .unlocking c _ | .returned c _ => decide (c = .shutdown)
  | _ => false

end Stage

/-- The call is over, or there was none. -/
def Stage.over : Stage → Bool
  | .idle | .returned .. => true
  | _ => false

-- ============================================================================
-- The registry
-- ============================================================================

/-- An actor: its memory, and its channel. -/
structure Cell where
  core : Core
  queue : List Msg

/-- The capacity of `a.commands`. -/
def capacity : Nat := 128

end Registry

open Registry in

/-- The map of actors with its lock, the actors, and the calls under way. -/
structure Registry where
  db : Database
  cells : List Cell
  actors : KeyedTable String Nat
  lock : Option Nat
  calls : Nat → Stage
  /-- A `Shutdown` has taken the map. -/
  down : Bool
  /-- The ids that rooms have had; `uuid.New` gives none of them again. -/
  used : List String

namespace Registry

/-- What a step of a goroutine depends on besides the state. -/
structure Answer where
  /-- The store call fails. -/
  fault : Option String
  /-- The `select` of `Stop` sends, where it may. -/
  sends : Bool
  /-- The actor that the loop of `Shutdown` stops next. -/
  next : Nat

/-- What may happen in the system. -/
inductive Label where
  | call (i : Nat) (c : Call)
  | advance (i : Nat) (x : Answer)
  /-- A goroutine that has the actor sends to it. -/
  | post (h : Nat) (m : Msg)
  | turn (h : Nat) (env : Env) (fates : List Fate)
  | create (r : Room) (now : Int64)
  | write (st : Aside)

/-- A goroutine goes on to another stage. -/
def goto (i : Nat) (x : Stage) (s : Registry) : Registry :=
  { s with calls := Function.update s.calls i x }

/-- The actor's loop has returned. -/
def stopped (h : Nat) (s : Registry) : Bool := s.cells[h]?.all (fun c => c.core.stopped)

/-- A send to the actor does not block. -/
def accepts (h : Nat) (s : Registry) : Bool :=
  s.cells[h]?.any (fun c => decide (c.queue.length < capacity))

/-- The lock changes hands. -/
def setLock (lock : Option Nat) (s : Registry) : Registry := { s with lock := lock }

/-- The map changes. -/
def setActors (actors : KeyedTable String Nat) (s : Registry) : Registry :=
  { s with actors := actors }

/-- The database changes. -/
def setDB (db : Database) (s : Registry) : Registry := { s with db := db }

/-- `r.actors = map[string]*Actor{}`. -/
def takeMap (s : Registry) : Registry := { s with actors := ∅, down := true }

/-- `go a.run()`. -/
def spawn (core : Core) (s : Registry) : Registry := { s with cells := s.cells ++ [⟨core, []⟩] }

/-- A message is sent to an actor. -/
def push (h : Nat) (m : Msg) (s : Registry) : Registry :=
  { s with cells := s.cells.modify h (fun c => { c with queue := c.queue ++ [m] }) }

/-- The `select` of `Stop`. -/
def stop (i h : Nat) (sends : Bool) (sent done : Stage) (s : Registry) : Registry :=
  if sends then
    if s.accepts h then (s.push h .close).goto i sent else s
  else if s.stopped h then s.goto i done else s

/-- `RoomByID`. -/
def roomByID (id : String) (fault : Option String) (s : Registry) : Except StoreError Room :=
  match fault with
  | some e => .error (.failed e)
  | none => Store.roomByID id s.db.toDB

/-- `Checkpoint`; `Get` takes an error for no checkpoint. -/
def checkpoint (id : String) (fault : Option String) (s : Registry) : Option Checkpoint :=
  match fault with
  | some _ => none
  | none => s.db.checkpoints.lookup id

/-- `DeleteRoom`. -/
def deleteRoom (id : String) (fault : Option String) (s : Registry) : Outcome :=
  match fault with
  | some e => (.error (.failed e), s.db)
  | none => s.db.deleteRoom id

/-- The result of a call that returns an error or nothing. -/
def Result.ofExcept : Except StoreError Unit → Result
  | .ok _ => .done
  | .error e => .failed e

/-- One step of `Get`, after `Lock`. -/
def stepGet (grace i : Nat) (x : Answer) (s : Registry) : Stage → Registry
  | .held (.get id) =>
      match s.actors.lookup id with
      | some h => s.goto i (.unlocking (.get id) (.actor h))
      | none => s.goto i (.reading id)
  | .reading id =>
      match s.roomByID id x.fault with
      | .error e => s.goto i (.unlocking (.get id) (.failed e))
      | .ok room => s.goto i (.loading id room)
  | .loading id room => s.goto i (.starting id room (s.checkpoint id x.fault))
  | .starting id room cp =>
      (s.spawn (newActor room cp () grace).toCore).goto i (.storing id s.cells.length)
  | .storing id h =>
      (s.setActors (s.actors.insert id h)).goto i (.unlocking (.get id) (.actor h))
  | _ => s

/-- One step of `Delete`, after `Lock`. -/
def stepDelete (i : Nat) (x : Answer) (s : Registry) : Stage → Registry
  | .held (.delete id) =>
      match s.roomByID id x.fault with
      | .error e => s.goto i (.unlocking (.delete id) (.unread e (decide (id ∈ s.db.rooms))))
      | .ok room =>
          if room.status ≠ .CLOSED then s.goto i (.unlocking (.delete id) (.failed errConflict))
          else s.goto i (.evicting id)
  | .evicting id =>
      match s.actors.lookup id with
      | some h => s.goto i (.stopping id h)
      | none => s.goto i (.deleting id)
  | .stopping id h => s.stop i h x.sends (.awaiting id h) (.dropping id)
  | .awaiting id h => if s.stopped h then s.goto i (.dropping id) else s
  | .dropping id => (s.setActors (s.actors.erase id)).goto i (.deleting id)
  | .deleting id =>
      match s.deleteRoom id x.fault with
      | (r, db) => (s.setDB db).goto i (.unlocking (.delete id) (Result.ofExcept r))
  | _ => s

/-- One step of `Shutdown`, after `Lock`.  The map is iterated in any order. -/
def stepShutdown (i : Nat) (x : Answer) (s : Registry) : Stage → Registry
  | .held .shutdown => s.takeMap.goto i (.taken s.actors.rows)
  | .taken hs => (s.setLock none).goto i (.halting hs)
  | .halting [] => s.goto i (.returned .shutdown .done)
  | .halting hs =>
      if x.next ∈ hs then
        s.stop i x.next x.sends (.draining x.next (hs.erase x.next)) (.halting (hs.erase x.next))
      else s
  | .draining h hs => if s.stopped h then s.goto i (.halting hs) else s
  | _ => s

/-- One step of a goroutine. -/
def advance (grace i : Nat) (x : Answer) (s : Registry) : Registry :=
  match s.calls i with
  | .idle | .returned .. => s
  | .locking c => if s.lock = none then (s.setLock (some i)).goto i (.held c) else s
  | .unlocking c r => (s.setLock none).goto i (.returned c r)
  | .held (.get id) => s.stepGet grace i x (.held (.get id))
  | .held (.delete id) => s.stepDelete i x (.held (.delete id))
  | .held .shutdown => s.stepShutdown i x (.held .shutdown)
  | .reading id => s.stepGet grace i x (.reading id)
  | .loading id room => s.stepGet grace i x (.loading id room)
  | .starting id room cp => s.stepGet grace i x (.starting id room cp)
  | .storing id h => s.stepGet grace i x (.storing id h)
  | .evicting id => s.stepDelete i x (.evicting id)
  | .stopping id h => s.stepDelete i x (.stopping id h)
  | .awaiting id h => s.stepDelete i x (.awaiting id h)
  | .dropping id => s.stepDelete i x (.dropping id)
  | .deleting id => s.stepDelete i x (.deleting id)
  | .taken hs => s.stepShutdown i x (.taken hs)
  | .halting hs => s.stepShutdown i x (.halting hs)
  | .draining h hs => s.stepShutdown i x (.draining h hs)

/-- The turn that the actor `h` can take: the message, and what comes of it. -/
def deliver (h : Nat) (env : Env) (fates : List Fate) (s : Registry) :
    Option (Msg × Actor Backend × Reply) :=
  match s.cells[h]? with
  | none => none
  | some c =>
      match c.queue with
      | [] => none
      | m :: _ =>
          if c.core.stopped then none
          else
            let a : Actor Backend := ⟨c.core, ⟨s.db, fates⟩, []⟩
            some (m, a.process Backend.persistence env m)

/-- The actor `h` takes the next message. -/
def takeTurn (h : Nat) (env : Env) (fates : List Fate) (s : Registry) : Registry :=
  match s.deliver h env fates with
  | none => s
  | some (_, a, _) =>
      { s with
        db := a.store.db
        cells := s.cells.modify h (fun c => ⟨a.toCore, c.queue.tail⟩) }

/-- One step of the system. -/
def step (grace : Nat) (s : Registry) : Label → Registry
  | .call i c => if s.calls i = .idle then s.goto i (.locking c) else s
  | .advance i x => s.advance grace i x
  | .post h m => if m ≠ .close ∧ s.accepts h then s.push h m else s
  | .turn h env fates => s.takeTurn h env fates
  | .create r now =>
      if r.id ∈ s.used then s
      else { s with db := (s.db.createRoom r now).2, used := r.id :: s.used }
  | .write st => s.setDB (st.write s.db)

/-- A process that has just started. -/
def boot (d : Database) (used : List String) : Registry :=
  ⟨d, [], ∅, none, fun _ => .idle, false, used⟩

/-- `NewRegistry` over a database in which no room has been deleted yet. -/
def start (d : Database) : Registry := boot d d.rooms.keys

-- ============================================================================
-- Actors over time
-- ============================================================================

/-- What becomes of an actor: it keeps its room, and after its loop has returned it changes
    no more and takes no message. -/
structure Cell.Leads (c c' : Cell) : Prop where
  room : c'.core.room.id = c.core.room.id
  halted : c.core.stopped = true → c'.core = c.core ∧ c.queue <+: c'.queue

theorem Cell.Leads.refl (c : Cell) : c.Leads c := ⟨rfl, fun _ => ⟨rfl, List.prefix_rfl⟩⟩

theorem Cell.Leads.trans {c c' c'' : Cell} (h : c.Leads c') (h' : c'.Leads c'') :
    c.Leads c'' := by
  refine ⟨h'.room.trans h.room, ?_⟩
  intro hstopped
  obtain ⟨hcore, hqueue⟩ := h.halted hstopped
  obtain ⟨hcore', hqueue'⟩ := h'.halted (by rw [hcore]; exact hstopped)
  exact ⟨hcore'.trans hcore, hqueue.trans hqueue'⟩

/-- Every actor is still there. -/
def Leads (s s' : Registry) : Prop :=
  ∀ (h : Nat) (c : Cell), s.cells[h]? = some c → ∃ c', s'.cells[h]? = some c' ∧ c.Leads c'

variable {s s' s'' : Registry}

@[simp] theorem goto_calls_self (i : Nat) (x : Stage) (s : Registry) :
    (s.goto i x).calls i = x := Function.update_self ..

theorem goto_calls_ne {i j : Nat} (hj : j ≠ i) (x : Stage) (s : Registry) :
    (s.goto i x).calls j = s.calls j := Function.update_of_ne hj ..

/-- What holds of the new stage and of the stages of the others. -/
theorem forall_goto {Q : Stage → Prop} {i : Nat} {x : Stage} (hx : Q x)
    (hs : ∀ j, j ≠ i → Q (s.calls j)) (j : Nat) : Q ((s.goto i x).calls j) := by
  by_cases hj : j = i
  · rw [hj, goto_calls_self]
    exact hx
  · rw [goto_calls_ne hj]
    exact hs j hj

theorem Leads.of_cells (h : s'.cells = s.cells) : Leads s s' := by
  intro k c hc
  exact ⟨c, by rw [h]; exact hc, .refl c⟩

theorem Leads.trans (h : Leads s s') (h' : Leads s' s'') : Leads s s'' := by
  intro k c hc
  obtain ⟨c', hc', hl⟩ := h k c hc
  obtain ⟨c'', hc'', hl'⟩ := h' k c' hc'
  exact ⟨c'', hc'', hl.trans hl'⟩

/-- One actor moves. -/
theorem Leads.modify {h : Nat} {f : Cell → Cell} (hs : s'.cells = s.cells.modify h f)
    (hf : ∀ c, s.cells[h]? = some c → c.Leads (f c)) : Leads s s' := by
  intro k c hc
  by_cases hk : h = k
  · subst hk
    exact ⟨f c, by rw [hs, List.getElem?_modify_eq, hc]; rfl, hf c hc⟩
  · exact ⟨c, by rw [hs, List.getElem?_modify_ne _ _ hk, hc], .refl c⟩

theorem leads_push (h : Nat) (m : Msg) (s : Registry) : Leads s (s.push h m) := by
  refine .modify rfl ?_
  intro c _
  exact ⟨rfl, fun _ => ⟨rfl, List.prefix_append ..⟩⟩

theorem leads_spawn (core : Core) (s : Registry) : Leads s (s.spawn core) := by
  intro h c hc
  have hlt : h < s.cells.length := (List.getElem?_eq_some_iff.mp hc).1
  exact ⟨c, (List.getElem?_append_left hlt).trans hc, .refl c⟩

/-- The turn that is taken, if one is. -/
theorem deliver_eq_some {h : Nat} {env : Env} {fates : List Fate} {m : Msg} {a : Actor Backend}
    {r : Reply} (hturn : s.deliver h env fates = some (m, a, r)) :
    ∃ c rest, s.cells[h]? = some c ∧ c.queue = m :: rest ∧ c.core.stopped = false ∧
      (⟨c.core, ⟨s.db, fates⟩, []⟩ : Actor Backend).process Backend.persistence env m = (a, r) := by
  unfold deliver at hturn
  cases hc : s.cells[h]? with
  | none =>
      rw [hc] at hturn
      cases hturn
  | some c =>
      rw [hc] at hturn
      cases hq : c.queue with
      | nil =>
          simp only [hq] at hturn
          cases hturn
      | cons m' rest =>
          simp only [hq] at hturn
          split_ifs at hturn with hstopped
          obtain ⟨rfl, hprocess⟩ := Prod.mk.inj (Option.some.inj hturn)
          exact ⟨c, rest, rfl, hq, Bool.not_eq_true _ ▸ hstopped, hprocess⟩

end Registry

end WatchTogether.Rooms

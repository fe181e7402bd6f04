/-
  WatchTogether.Rooms.Run

  `NewActor` and `Actor.run`: the messages of the actor's channel and what the loop
  does with each.  `process` handles one message; a run of the actor is the fold of
  `process` over the messages it takes from the channel, each with the answers the
  outside gives while it is handled.
-/

import WatchTogether.Lib.LabelledRun
import WatchTogether.Rooms.Apply

namespace WatchTogether.Rooms

/-- The messages on `a.commands`. -/
inductive Msg where
  | join (c : Client)
  | leave (id : String) (client : Option Client)
  | expireHost (hostID : String)
  | command (i : Identity) (c : Command)
  | snapshot
  | ready (id : String) (ready : Bool)
  | broadcast (e : ChatEvent)
  | checkpoint
  | reopen
  | rename (title : String)
  | close
deriving DecidableEq

/-- What a handler puts on the message's reply channel. -/
inductive Reply where
  | none
  | join (r : Except ActorError Unit)
  | command (r : Except ActorError (Option PlaybackState))
  | snapshot (e : Event)
  | reopen (r : Except ActorError Unit)
  | rename (r : Except ActorError Unit)

/-- `NewActor`, with the store it is given. -/
def newActor {σ : Type} (room : Room) (checkpoint : Option Checkpoint) (store : σ)
    (grace : Nat) : Actor σ :=
  let pb : PlaybackState :=
    { mediaID := room.mediaID.getD "", revision := 0, timelineEpoch := 0,
      phase := if room.mediaID.isSome then .paused else .noMedia,
      anchorPositionMs := 0, anchorServerTimeMs := 0, playbackRate := 1, durationMs := 0,
      resumeIntent := none }
  let pb :=
    match checkpoint with
    | none => pb
    | some cp =>
        { pb with
          mediaID := cp.mediaID.getD ""
          anchorPositionMs := cp.positionMs
          playbackRate := cp.playbackRate
          phase := .paused }
  { playback := pb, hostDriftSamples := 0, hostDriftDirection := 0, lastHostAnchorUpdateMs := 0,
    room := room, members := ∅, clients := 0, grace := grace, hostTimer := none, timers := [],
    timerSeq := 0, stopped := false, store := store, out := [] }

namespace Core

/-- `hostTimer.Stop()`: the timer last armed will not fire any more, unless it has. -/
def stopHostTimer (s : Core) : Core :=
  match s.hostTimer with
  | none => s
  | some t => { s with timers := s.timers.filter (fun x => x.id ≠ t) }

@[simp] theorem stopHostTimer_toTimeline (s : Core) :
    s.stopHostTimer.toTimeline = s.toTimeline := by
  rw [stopHostTimer]; split <;> rfl

@[simp] theorem stopHostTimer_room (s : Core) : s.stopHostTimer.room = s.room := by
  rw [stopHostTimer]; split <;> rfl

@[simp] theorem stopHostTimer_members (s : Core) : s.stopHostTimer.members = s.members := by
  rw [stopHostTimer]; split <;> rfl

@[simp] theorem stopHostTimer_clients (s : Core) : s.stopHostTimer.clients = s.clients := by
  rw [stopHostTimer]; split <;> rfl

@[simp] theorem stopHostTimer_grace (s : Core) : s.stopHostTimer.grace = s.grace := by
  rw [stopHostTimer]; split <;> rfl

@[simp] theorem stopHostTimer_timerSeq (s : Core) : s.stopHostTimer.timerSeq = s.timerSeq := by
  rw [stopHostTimer]; split <;> rfl

@[simp] theorem stopHostTimer_stopped (s : Core) : s.stopHostTimer.stopped = s.stopped := by
  rw [stopHostTimer]; split <;> rfl

/-- `hostTimer = time.AfterFunc(a.grace, ...)`. -/
def armHostTimer (hostID : String) (now : Nat) (s : Core) : Core :=
  { s with
    hostTimer := some s.timerSeq
    timers := s.timers ++ [⟨s.timerSeq, hostID, now⟩]
    timerSeq := s.timerSeq + 1 }

end Core

namespace Actor

variable {σ : Type}

/-- The connection `c` supersedes the member's old one, or is counted as a new client. -/
def countClient (a : Actor σ) (c : Client) : Actor σ :=
  match a.members.lookup c.id with
  | some old => a.emit [.close old.client statusConnectionSuperseded "replaced by reconnect"]
  | none => { a with clients := a.clients + 1 }

/-- A host that comes back to its disconnected room opens it. -/
def openForHost (P : Persistence σ) (env : Env) (a : Actor σ) (c : Client) : Actor σ :=
  if c.id = a.room.hostUserID ∧ a.room.status = .HOST_DISCONNECTED then
    let a := { a with toCore := a.toCore.stopHostTimer }
    let a := { a with room := { a.room with status := .OPEN } }
    { a with store := (P.updateRoomStatus a.room.id .OPEN (env.now 1) a.store).2 }
  else a

/-- The `joinReq` case. -/
def handleJoin (P : Persistence σ) (env : Env) (a : Actor σ) (c : Client) :
    Actor σ × Except ActorError Unit :=
  if a.room.status = .CLOSED then (a, .error .roomClosed)
  else if c.id ∉ a.members ∧ a.room.maxMembers ≤ a.members.size then (a, .error .roomFull)
  else
    let a := a.countClient c
    let a := { a with members := a.members.insert c.id ⟨c.identity, c, env.now 0, false⟩ }
    let a := a.openForHost P env c
    let e : Envelope := ⟨1, a.room.id, a.playback.revision, env.now 2, snapshot a.toCore⟩
    let a := a.emit [.send c e (env.sendOk c e)]
    (a.broadcast env 3 (.memberJoined c.identity) 0, .ok ())

/-- The playback state a departing host leaves behind at `now`. -/
def freeze (s : PlaybackState) (now : Int64) : PlaybackState :=
  PlaybackState.bump
    { s with
      anchorPositionMs := s.expected now
      anchorServerTimeMs := now
      phase := .paused }

/-- The departure of the host from an open room. -/
def disconnectHost (P : Persistence σ) (env : Env) (a : Actor σ) (id : String) : Actor σ :=
  let now := env.now 1
  let a := { a with
    playback := freeze a.playback now
    room := { a.room with status := .HOST_DISCONNECTED } }
  let a := { a with store := (P.updateRoomStatus a.room.id .HOST_DISCONNECTED now a.store).2 }
  let a := a.broadcast env 2 (.playbackState a.playback) a.playback.revision
  let a := a.persistCheckpoint P env 3
  { a with toCore := a.toCore.armHostTimer id env.mono }

/-- The `leaveReq` case. -/
def handleLeave (P : Persistence σ) (env : Env) (a : Actor σ) (id : String)
    (client : Option Client) : Actor σ :=
  match a.members.lookup id with
  | none => a
  | some m =>
      if client ≠ none ∧ client ≠ some m.client then a
      else
        let a := { a with members := a.members.erase id, clients := a.clients - 1 }
        let a := a.broadcast env 0 (.memberLeft id false) 0
        if id = a.room.hostUserID ∧ a.room.status = .OPEN then a.disconnectHost P env id else a

/-- The member the `expireHost` loop settles on: the first of the database's members
    that is not the absent host and is online as a registered user; `""` if none. -/
def nextHost (members : KeyedTable String RuntimeMember) (hostID : String)
    (dbmembers : List Member) : String :=
  match dbmembers.find? (fun candidate => decide (candidate.id ≠ hostID) &&
      (members.lookup candidate.id).any (fun m => !m.identity.guest)) with
  | some candidate => candidate.id
  | none => ""

/-- The `expireHost` case.  The result of `TransferHost` is discarded. -/
def handleExpireHost (P : Persistence σ) (env : Env) (a : Actor σ) (hostID : String) : Actor σ :=
  if a.room.status ≠ .HOST_DISCONNECTED ∨ a.room.hostUserID ≠ hostID then a
  else
    match P.members a.room.id a.store with
    | ((dbmembers, _), store) =>
        let a := { a with store := store }
        let next := nextHost a.members hostID dbmembers
        if next = "" then a
        else
          let old := a.room.hostUserID
          let a := { a with room := { a.room with hostUserID := next, status := .OPEN } }
          let a := { a with
            store := (P.transferHost a.room.id old next (env.now 0) a.store).2 }
          a.broadcast env 1 (.hostChanged next) 0

/-- The `reopenReq` case. -/
def handleReopen (P : Persistence σ) (env : Env) (a : Actor σ) :
    Actor σ × Except ActorError Unit :=
  if a.room.status ≠ .CLOSED then (a, .ok ())
  else
    match P.reopenRoom a.room.id (env.now 0) a.store with
    | (.error e, store) => ({ a with store := store }, .error (.store e))
    | (.ok _, store) =>
        ({ a with
           store := store
           room := { a.room with
             status := .HOST_DISCONNECTED, closedAtMs := none, updatedAtMs := env.now 0 } },
         .ok ())

/-- The `renameReq` case. -/
def handleRename (P : Persistence σ) (env : Env) (a : Actor σ) (title : String) :
    Actor σ × Except ActorError Unit :=
  match P.updateRoomTitle a.room.id title (env.now 0) a.store with
  | (.error e, store) => ({ a with store := store }, .error (.store e))
  | (.ok _, store) =>
      let a := { a with store := store, room := { a.room with title := title } }
      (a.broadcast env 1 (.roomUpdated title) 0, .ok ())

/-- The `closeReq` case: the loop returns. -/
def handleClose (P : Persistence σ) (env : Env) (a : Actor σ) : Actor σ :=
  let a := { a with toCore := a.toCore.stopHostTimer }
  let e : Envelope := ⟨0, "", 0, 0, .serverShutdown⟩
  let a := a.emit (a.members.rows.flatMap (fun m =>
    [.send m.client e (env.sendOk m.client e), .close m.client 1001 "server shutdown"]))
  let a := a.persistCheckpoint P env 0
  { a with stopped := true }

/-- One turn of `run`'s loop.  After `closeReq` no message is taken any more. -/
def process (P : Persistence σ) (env : Env) (a : Actor σ) (m : Msg) : Actor σ × Reply :=
  if a.stopped then (a, .none)
  else
    match m with
    | .join c =>
        let r := a.handleJoin P env c
        (r.1, .join r.2)
    | .leave id client => (a.handleLeave P env id client, .none)
    | .expireHost hostID => (a.handleExpireHost P env hostID, .none)
    | .command i c =>
        let r := a.apply P env i c
        (r.1, .command r.2)
    | .snapshot => (a, .snapshot (snapshot a.toCore))
    | .ready id ready => ({ a with members := setReady id ready a.members }, .none)
    | .broadcast e => (a.broadcast env 0 (.chat e) 0, .none)
    | .checkpoint =>
        if a.playback.phase = .playing then (a.persistCheckpoint P env 0, .none) else (a, .none)
    | .reopen =>
        let r := a.handleReopen P env
        (r.1, .reopen r.2)
    | .rename title =>
        let r := a.handleRename P env title
        (r.1, .rename r.2)
    | .close => (a.handleClose P env, .none)

/-- The state after one message and the answers it was handled with. -/
def step (P : Persistence σ) (a : Actor σ) (l : Env × Msg) : Actor σ := (a.process P l.1 l.2).1

/-- A run of the actor. -/
def runActor (P : Persistence σ) (a : Actor σ) (ls : List (Env × Msg)) : Actor σ :=
  LabelledRun.run (step P) a ls

end Actor

-- ============================================================================
-- A small room, for concrete runs
-- ============================================================================

/-- The registered user `id`. -/
def user (id : String) : Identity := ⟨.USER, id, id, id, "", false⟩

/-- A connection of the registered user `id`. -/
def userClient (conn : Nat) (id : String) : Client := ⟨conn, user id⟩

/-- A room of four whose host is `host`. -/
def smallRoom (host : String) : Room :=
  ⟨"r", "AAAAAAAA", "film", host, .OPEN, .INVITE, none, 4, 0, 0, none⟩

/-- A host command with the target `target`, the position `positionMs` and the media
    `mediaID`. -/
def hostCommand (type : CommandType) (target : String) (positionMs : Int64) (mediaID : String) :
    Command :=
  ⟨type, ⟨none, some ⟨positionMs, 1, false, 4, target, mediaID, 0⟩⟩⟩

end WatchTogether.Rooms

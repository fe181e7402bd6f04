/-
  WatchTogether.Rooms.Turn

  What one turn of the actor's loop can do, said once.  `Turn` lists the outcomes
  of `process` with their guards: the memory, the store and the effects of each.
  Every invariant of a run is a case analysis of it, and no later module unfolds a
  handler of the source.
-/

import WatchTogether.Rooms.Run

namespace WatchTogether.Rooms

variable {σ : Type}

-- ============================================================================
-- The pieces of a turn
-- ============================================================================

namespace Core

/-- The effects of a broadcast to the members of `s`. -/
def notify (env : Env) (k : Nat) (event : Event) (revision : Nat) (s : Core) : List Effect :=
  s.members.rows.flatMap
    (fun m => Actor.deliver env ⟨1, s.room.id, revision, env.now k, event⟩ m.client)

/-- The full-state broadcast after a change of the playback state. -/
def announce (env : Env) (k : Nat) (s : Core) : List Effect :=
  s.notify env k (.playbackState s.playback) s.playback.revision

/-- The checkpoint `persistCheckpoint` writes. -/
def checkpoint (env : Env) (k : Nat) (s : Core) : Checkpoint where
  roomID := s.room.id
  mediaID := s.room.mediaID
  positionMs :=
    if s.playback.phase = .playing then s.playback.expected (env.now k)
    else s.playback.anchorPositionMs
  playbackRate := s.playback.playbackRate
  phase := s.playback.phase
  updatedAtMs := env.now (k + 1)

/-- The connection `c` takes the member entry of its identity. -/
def enter (c : Client) (now : Int64) (s : Core) : Core :=
  { s with
    members := s.members.insert c.id ⟨c.identity, c, now, false⟩
    clients := if c.id ∈ s.members then s.clients else s.clients + 1 }

/-- The close of the connection that `c` replaces, if there is one. -/
def supersede (c : Client) (s : Core) : List Effect :=
  match s.members.lookup c.id with
  | some old => [.close old.client statusConnectionSuperseded "replaced by reconnect"]
  | none => []

/-- The absent host is back: the grace timer is stopped and the room is open. -/
def hostBack (s : Core) : Core :=
  let s := s.stopHostTimer
  { s with room := { s.room with status := .OPEN } }

/-- What a connection is sent when it is let in. -/
def welcome (env : Env) (c : Client) (s : Core) : List Effect :=
  let e : Envelope := ⟨1, s.room.id, s.playback.revision, env.now 2, Actor.snapshot s⟩
  .send c e (env.sendOk c e) :: s.notify env 3 (.memberJoined c.identity) 0

/-- The member `id` is gone. -/
def remove (id : String) (s : Core) : Core :=
  { s with members := s.members.erase id, clients := s.clients - 1 }

/-- The host left an open room: the timeline is frozen. -/
def hostAway (now : Int64) (s : Core) : Core :=
  { s with
    playback := Actor.freeze s.playback now
    room := { s.room with status := .HOST_DISCONNECTED } }

/-- The host of the room changes. -/
def setHost (id : String) (s : Core) : Core :=
  { s with room := { s.room with hostUserID := id } }

/-- The status of the room changes. -/
def setStatus (status : RoomStatus) (s : Core) : Core :=
  { s with room := { s.room with status := status } }

/-- The playback changes. -/
def withPlayback (playback : PlaybackState) (s : Core) : Core := { s with playback := playback }

/-- The timeline changes. -/
def withTimeline (t : Timeline) (s : Core) : Core := { s with toTimeline := t }

/-- A member's readiness changes. -/
def withReady (id : String) (ready : Bool) (s : Core) : Core :=
  { s with members := Actor.setReady id ready s.members }

/-- Nobody is left in the room. -/
def empty (s : Core) : Core := { s with members := ∅, clients := 0 }

/-- The room shows another film. -/
def withMedia (env : Env) (p : CommandPayload) (s : Core) : Core :=
  { s with
    room := { s.room with mediaID := some p.mediaID }
    playback := Actor.mediaPlayback s.playback (env.now 0) p }

/-- The room is open again, and its host is away. -/
def reopened (now : Int64) (s : Core) : Core :=
  { s with
    room := { s.room with
      status := .HOST_DISCONNECTED, closedAtMs := none, updatedAtMs := now } }

/-- The title of the room changes. -/
def withTitle (title : String) (s : Core) : Core :=
  { s with room := { s.room with title := title } }

/-- `run` has returned. -/
def halt (s : Core) : Core := { s.stopHostTimer with stopped := true }

/-! ## Who is in the room after each piece -/

@[simp] theorem mem_enter {c : Client} {now : Int64} {s : Core} {id : String} :
    id ∈ (s.enter c now).members ↔ id = c.id ∨ id ∈ s.members :=
  AList.mem_insert _

@[simp] theorem mem_remove {k : String} {s : Core} {id : String} :
    id ∈ (s.remove k).members ↔ id ≠ k ∧ id ∈ s.members :=
  AList.mem_erase

@[simp] theorem mem_withReady {k : String} {ready : Bool} {s : Core} {id : String} :
    id ∈ (s.withReady k ready).members ↔ id ∈ s.members :=
  AList.mem_modify

@[simp] theorem hostBack_toTimeline (s : Core) : s.hostBack.toTimeline = s.toTimeline := by
  simp [hostBack]

@[simp] theorem hostBack_members (s : Core) : s.hostBack.members = s.members := by
  simp [hostBack]

@[simp] theorem hostBack_room (s : Core) :
    s.hostBack.room = { s.room with status := .OPEN } := by
  simp [hostBack]

@[simp] theorem halt_toTimeline (s : Core) : s.halt.toTimeline = s.toTimeline := by
  simp [halt]

@[simp] theorem halt_members (s : Core) : s.halt.members = s.members := by
  simp [halt]

@[simp] theorem halt_room (s : Core) : s.halt.room = s.room := by
  simp [halt]

/-- The payload of a host command that gets past the permission checks of `apply`. -/
def authorised (s : Core) (i : Identity) (c : Command) : Option CommandPayload :=
  if (i.id ∈ s.members ∨ c.type.isAdmin = true) ∧
      c.type ≠ .clientReady ∧ c.type ≠ .telemetryMemberPlayback ∧ c.type ≠ .presenceTyping ∧
      (i.id = s.room.hostUserID ∨ Actor.adminOverride i c.type = true) then
    c.payload.asCommand
  else none

theorem authorised_eq_some {s : Core} {i : Identity} {c : Command} {p : CommandPayload} :
    s.authorised i c = some p ↔
      ((i.id ∈ s.members ∨ c.type.isAdmin = true) ∧
        c.type ≠ .clientReady ∧ c.type ≠ .telemetryMemberPlayback ∧ c.type ≠ .presenceTyping ∧
        (i.id = s.room.hostUserID ∨ Actor.adminOverride i c.type = true)) ∧
      c.payload.asCommand = some p := by
  rw [authorised]
  split
  · rename_i hperm
    exact ⟨fun h => ⟨hperm, h⟩, fun h => h.2⟩
  · rename_i hperm
    exact ⟨fun h => absurd h (by simp), fun h => absurd h.1 hperm⟩

end Core

-- ============================================================================
-- Host commands
-- ============================================================================

/-- What a host command can do once it is authorised and decoded. -/
inductive HostTurn (P : Persistence σ) (env : Env) (a : Actor σ) (type : CommandType)
    (p : CommandPayload) : Actor σ → Except ActorError (Option PlaybackState) → Prop
  | refused (e : ActorError) : HostTurn P env a type p a (.error e)
  /-- `TransferHost` fails. -/
  | transferRefused (m : RuntimeMember) (e : StoreError) (store : σ)
      (htype : type = .roomTransferHost) (hm : a.members.lookup p.targetUserID = some m)
      (hguest : m.identity.guest = false)
      (hP : P.transferHost a.room.id a.room.hostUserID p.targetUserID (env.now 0) a.store
        = (.error e, store)) :
      HostTurn P env a type p ⟨a.toCore, store, a.out⟩ (.error (.store e))
  | transferred (m : RuntimeMember) (store : σ)
      (htype : type = .roomTransferHost) (hm : a.members.lookup p.targetUserID = some m)
      (hguest : m.identity.guest = false)
      (hP : P.transferHost a.room.id a.room.hostUserID p.targetUserID (env.now 0) a.store
        = (.ok (), store)) :
      HostTurn P env a type p
        ⟨a.toCore.setHost p.targetUserID, store,
          a.out ++ (a.toCore.setHost p.targetUserID).notify env 1 (.hostChanged p.targetUserID) 0⟩
        (.ok none)
  | kicked (m : RuntimeMember)
      (htype : type = .roomKick) (hm : a.members.lookup p.targetUserID = some m)
      (hhost : p.targetUserID ≠ a.room.hostUserID) :
      HostTurn P env a type p
        ⟨a.toCore.remove p.targetUserID,
          if m.identity.guest then (P.deleteGuestSession a.room.id p.targetUserID a.store).2
          else (P.leaveMember a.room.id p.targetUserID (env.now 0) a.store).2,
          a.out ++ .close m.client 1008 "removed from room" ::
            (a.toCore.remove p.targetUserID).notify env 1 (.memberLeft p.targetUserID true) 0⟩
        (.ok none)
  /-- `CloseRoom` fails; the status is already written. -/
  | closeFailed (e : StoreError) (store : σ) (htype : type = .roomClose)
      (hP : P.closeRoom a.room.id (env.now 0) a.store = (.error e, store)) :
      HostTurn P env a type p ⟨a.toCore.setStatus .CLOSED, store, a.out⟩ (.error (.store e))
  | closed (store : σ) (htype : type = .roomClose)
      (hP : P.closeRoom a.room.id (env.now 0) a.store = (.ok (), store)) :
      HostTurn P env a type p
        ⟨(a.toCore.setStatus .CLOSED).empty, store,
          a.out ++ (a.toCore.notify env 1 .roomClosed 0 ++
            a.members.rows.map (fun m => .close m.client 1000 "room closed"))⟩
        (.ok none)
  /-- `SetRoomMedia` fails. -/
  | mediaRefused (e : StoreError) (store : σ) (htype : type = .roomMedia)
      (hid : p.mediaID ≠ "")
      (hP : P.setRoomMedia a.room.id p.mediaID (env.now 0) a.store = (.error e, store)) :
      HostTurn P env a type p ⟨a.toCore, store, a.out⟩ (.error (.store e))
  | mediaSet (store : σ) (htype : type = .roomMedia) (hid : p.mediaID ≠ "")
      (hP : P.setRoomMedia a.room.id p.mediaID (env.now 0) a.store = (.ok (), store)) :
      HostTurn P env a type p
        ⟨a.toCore.withMedia env p,
          (P.saveCheckpoint ((a.toCore.withMedia env p).checkpoint env 2) store).2,
          a.out ++ ((a.toCore.withMedia env p).announce env 1 ++
            [.saveCheckpoint ((a.toCore.withMedia env p).checkpoint env 2)])⟩
        (.ok (some (a.toCore.withMedia env p).playback))
  /-- The switch refuses; at most the drift tracking is reset. -/
  | playbackRefused (t : Timeline) (e : ActorError)
      (hswitch : a.toTimeline.playbackSwitch (env.now 0) type p = (t, .error e)) :
      HostTurn P env a type p ⟨a.toCore.withTimeline t, a.store, a.out⟩ (.error e)
  /-- `changed = false`. -/
  | playbackKept (t : Timeline)
      (hswitch : a.toTimeline.playbackSwitch (env.now 0) type p = (t, .ok false)) :
      HostTurn P env a type p ⟨a.toCore.withTimeline t, a.store, a.out⟩ (.ok none)
  | playbackChanged (t : Timeline) (s : Core)
      (hswitch : a.toTimeline.playbackSwitch (env.now 0) type p = (t, .ok true))
      (hs : s = a.toCore.withTimeline { t with playback := t.playback.bump }) :
      HostTurn P env a type p
        ⟨s, (P.saveCheckpoint (s.checkpoint env 2) a.store).2,
          a.out ++ (s.announce env 1 ++ [.saveCheckpoint (s.checkpoint env 2)])⟩
        (.ok (some s.playback))

/-- What a command can do. -/
inductive CommandTurn (P : Persistence σ) (env : Env) (a : Actor σ) (i : Identity) (c : Command) :
    Actor σ → Except ActorError (Option PlaybackState) → Prop
  | refused (e : ActorError) : CommandTurn P env a i c a (.error e)
  /-- A member's telemetry or typing. -/
  | ignored (hm : i.id ∈ a.members)
      (htype : c.type = .telemetryMemberPlayback ∨ c.type = .presenceTyping) :
      CommandTurn P env a i c a (.ok none)
  | readied (p : ReadyPayload) (hm : i.id ∈ a.members) (htype : c.type = .clientReady) :
      CommandTurn P env a i c ⟨a.toCore.withReady i.id p.ready, a.store, a.out⟩ (.ok none)
  /-- The host is ready and reports the length of the media. -/
  | measured (p : ReadyPayload) (s : Core) (hm : i.id ∈ a.members)
      (htype : c.type = .clientReady) (hhost : i.id = a.room.hostUserID)
      (hs : s = (a.toCore.withReady i.id p.ready).withPlayback
        (PlaybackState.bump { a.playback with durationMs := p.durationMs })) :
      CommandTurn P env a i c
        ⟨s, (P.updateMediaMetadata p.mediaID p.durationMs p.videoWidth p.videoHeight
            (env.now 0) a.store).2,
          a.out ++ s.announce env 1⟩
        (.ok (some s.playback))
  | host (p : CommandPayload) (a' : Actor σ) (r : Except ActorError (Option PlaybackState))
      (hp : a.toCore.authorised i c = some p) (hturn : HostTurn P env a c.type p a' r) :
      CommandTurn P env a i c a' r

-- ============================================================================
-- Turns
-- ============================================================================

/-- What one turn of `run` can do with a message: the state it leaves and the reply. -/
inductive Turn (P : Persistence σ) (env : Env) (a : Actor σ) : Msg → Actor σ → Reply → Prop
  | stopped (m : Msg) (h : a.stopped = true) : Turn P env a m a .none
  | joinRefused (c : Client) (e : ActorError)
      (h : a.room.status = .CLOSED ∨ c.id ∉ a.members) :
      Turn P env a (.join c) a (.join (.error e))
  | joined (c : Client) (s : Core) (hlive : a.stopped = false)
      (hstatus : a.room.status ≠ .CLOSED)
      (hroom : c.id ∈ a.members ∨ (a.members.size : Int) < a.room.maxMembers)
      (hback : ¬(c.id = a.room.hostUserID ∧ a.room.status = .HOST_DISCONNECTED))
      (hs : s = a.toCore.enter c (env.now 0)) :
      Turn P env a (.join c) ⟨s, a.store, a.out ++ (a.toCore.supersede c ++ s.welcome env c)⟩
        (.join (.ok ()))
  | hostReturned (c : Client) (s : Core) (hlive : a.stopped = false)
      (hroom : c.id ∈ a.members ∨ (a.members.size : Int) < a.room.maxMembers)
      (hhost : c.id = a.room.hostUserID) (hstatus : a.room.status = .HOST_DISCONNECTED)
      (hs : s = (a.toCore.enter c (env.now 0)).hostBack) :
      Turn P env a (.join c)
        ⟨s, (P.updateRoomStatus a.room.id .OPEN (env.now 1) a.store).2,
          a.out ++ (a.toCore.supersede c ++ s.welcome env c)⟩
        (.join (.ok ()))
  /-- Nobody is there under `id`, or it is not the connection that leaves. -/
  | leaveIgnored (id : String) (client : Option Client)
      (h : ∀ m, a.members.lookup id = some m → client ≠ none ∧ client ≠ some m.client) :
      Turn P env a (.leave id client) a .none
  | left (id : String) (client : Option Client) (m : RuntimeMember) (hlive : a.stopped = false)
      (hm : a.members.lookup id = some m) (hclient : client = none ∨ client = some m.client)
      (hhost : ¬(id = a.room.hostUserID ∧ a.room.status = .OPEN)) :
      Turn P env a (.leave id client)
        ⟨a.toCore.remove id, a.store,
          a.out ++ (a.toCore.remove id).notify env 0 (.memberLeft id false) 0⟩ .none
  | hostLeft (id : String) (client : Option Client) (m : RuntimeMember) (s : Core)
      (hlive : a.stopped = false) (hm : a.members.lookup id = some m)
      (hclient : client = none ∨ client = some m.client)
      (hhost : id = a.room.hostUserID) (hstatus : a.room.status = .OPEN)
      (hs : s = (a.toCore.remove id).hostAway (env.now 1)) :
      Turn P env a (.leave id client)
        ⟨s.armHostTimer id env.mono,
          (P.saveCheckpoint (s.checkpoint env 3)
            (P.updateRoomStatus a.room.id .HOST_DISCONNECTED (env.now 1) a.store).2).2,
          a.out ++ ((a.toCore.remove id).notify env 0 (.memberLeft id false) 0 ++
            (s.announce env 2 ++ [.saveCheckpoint (s.checkpoint env 3)]))⟩ .none
  /-- The room has recovered, or the role has moved, or nobody can take over. -/
  | expireIgnored (hostID : String) (store : σ)
      (h : store = a.store ∨ store = (P.members a.room.id a.store).2) :
      Turn P env a (.expireHost hostID) ⟨a.toCore, store, a.out⟩ .none
  | tookOver (hostID next : String) (m : RuntimeMember) (candidate : Member) (s : Core)
      (hlive : a.stopped = false) (hstatus : a.room.status = .HOST_DISCONNECTED)
      (hhost : a.room.hostUserID = hostID)
      (hchosen : next = Actor.nextHost a.members hostID (P.members a.room.id a.store).1.1)
      (hsome : next ≠ "") (hnext : next ≠ hostID)
      (hcand : candidate ∈ (P.members a.room.id a.store).1.1) (hid : candidate.id = next)
      (hm : a.members.lookup next = some m) (hguest : m.identity.guest = false)
      (hs : s = (a.toCore.setHost next).setStatus .OPEN) :
      Turn P env a (.expireHost hostID)
        ⟨s, (P.transferHost a.room.id a.room.hostUserID next (env.now 0)
            (P.members a.room.id a.store).2).2,
          a.out ++ s.notify env 1 (.hostChanged next) 0⟩ .none
  | command (i : Identity) (c : Command) (a' : Actor σ)
      (r : Except ActorError (Option PlaybackState)) (hlive : a.stopped = false)
      (hturn : CommandTurn P env a i c a' r) : Turn P env a (.command i c) a' (.command r)
  | snapshot : Turn P env a .snapshot a (.snapshot (Actor.snapshot a.toCore))
  | readied (id : String) (ready : Bool) :
      Turn P env a (.ready id ready) ⟨a.toCore.withReady id ready, a.store, a.out⟩ .none
  | relayed (e : ChatEvent) :
      Turn P env a (.broadcast e)
        ⟨a.toCore, a.store, a.out ++ a.toCore.notify env 0 (.chat e) 0⟩ .none
  | checkpointSkipped (h : a.playback.phase ≠ .playing) : Turn P env a .checkpoint a .none
  | checkpointed (h : a.playback.phase = .playing) :
      Turn P env a .checkpoint
        ⟨a.toCore, (P.saveCheckpoint (a.toCore.checkpoint env 0) a.store).2,
          a.out ++ [.saveCheckpoint (a.toCore.checkpoint env 0)]⟩ .none
  | reopenIgnored (h : a.room.status ≠ .CLOSED) : Turn P env a .reopen a (.reopen (.ok ()))
  /-- `ReopenRoom` fails. -/
  | reopenFailed (e : StoreError) (store : σ) (h : a.room.status = .CLOSED)
      (hP : P.reopenRoom a.room.id (env.now 0) a.store = (.error e, store)) :
      Turn P env a .reopen ⟨a.toCore, store, a.out⟩ (.reopen (.error (.store e)))
  | reopened (store : σ) (h : a.room.status = .CLOSED)
      (hP : P.reopenRoom a.room.id (env.now 0) a.store = (.ok (), store)) :
      Turn P env a .reopen ⟨a.toCore.reopened (env.now 0), store, a.out⟩ (.reopen (.ok ()))
  /-- `UpdateRoomTitle` fails. -/
  | renameFailed (title : String) (e : StoreError) (store : σ)
      (hP : P.updateRoomTitle a.room.id title (env.now 0) a.store = (.error e, store)) :
      Turn P env a (.rename title) ⟨a.toCore, store, a.out⟩ (.rename (.error (.store e)))
  | renamed (title : String) (store : σ)
      (hP : P.updateRoomTitle a.room.id title (env.now 0) a.store = (.ok (), store)) :
      Turn P env a (.rename title)
        ⟨a.toCore.withTitle title, store,
          a.out ++ (a.toCore.withTitle title).notify env 1 (.roomUpdated title) 0⟩
        (.rename (.ok ()))
  | halted (hlive : a.stopped = false) :
      Turn P env a .close
        ⟨a.toCore.halt, (P.saveCheckpoint (a.toCore.stopHostTimer.checkpoint env 0) a.store).2,
          a.out ++ (a.members.rows.flatMap (fun m =>
            [.send m.client ⟨0, "", 0, 0, .serverShutdown⟩
                (env.sendOk m.client ⟨0, "", 0, 0, .serverShutdown⟩),
              .close m.client 1001 "server shutdown"]) ++
            [.saveCheckpoint (a.toCore.stopHostTimer.checkpoint env 0)])⟩ .none

-- ============================================================================
-- Every turn is one of these
-- ============================================================================

theorem hostTurn_transferHost (P : Persistence σ) (env : Env) (a : Actor σ) (p : CommandPayload) :
    HostTurn P env a .roomTransferHost p (a.applyTransferHost P env p).1
      (a.applyTransferHost P env p).2 := by
  rw [Actor.applyTransferHost]
  cases hm : a.members.lookup p.targetUserID with
  | none => exact .refused _
  | some m =>
      by_cases hguest : m.identity.guest = true
      · simp only [hguest, if_true]
        exact .refused _
      · simp only [hguest]
        rcases hP : P.transferHost a.room.id a.room.hostUserID p.targetUserID (env.now 0) a.store
          with ⟨_ | u, store⟩
        · exact .transferRefused m _ store rfl hm (by simpa using hguest) hP
        · exact .transferred m store rfl hm (by simpa using hguest) hP

theorem hostTurn_kick (P : Persistence σ) (env : Env) (a : Actor σ) (p : CommandPayload) :
    HostTurn P env a .roomKick p (a.applyKick P env p).1 (a.applyKick P env p).2 := by
  rw [Actor.applyKick]
  cases hm : a.members.lookup p.targetUserID with
  | none => exact .refused _
  | some m =>
      by_cases hhost : p.targetUserID = a.room.hostUserID
      · simp only [hhost, if_true]
        exact .refused _
      · have hturn : HostTurn P env a .roomKick p _ _ := .kicked m rfl hm hhost
        rw [List.append_cons] at hturn
        simp only [hhost, if_false]
        cases hguest : m.identity.guest with
        | true =>
            rw [hguest] at hturn
            exact hturn
        | false =>
            rw [hguest] at hturn
            exact hturn

theorem hostTurn_close (P : Persistence σ) (env : Env) (a : Actor σ) (p : CommandPayload) :
    HostTurn P env a .roomClose p (a.applyClose P env).1 (a.applyClose P env).2 := by
  rw [Actor.applyClose]
  rcases hP : P.closeRoom a.room.id (env.now 0) a.store with ⟨_ | u, store⟩
  · dsimp only
    exact .closeFailed _ store rfl hP
  · have hturn : HostTurn P env a .roomClose p _ _ := .closed store rfl hP
    rw [← List.append_assoc] at hturn
    dsimp only
    exact hturn

theorem hostTurn_media (P : Persistence σ) (env : Env) (a : Actor σ) (p : CommandPayload) :
    HostTurn P env a .roomMedia p (a.applyMedia P env p).1 (a.applyMedia P env p).2 := by
  rw [Actor.applyMedia]
  by_cases hvalid : p.mediaID = "" ∨ p.durationMs < 0
  · rw [if_pos hvalid]
    exact .refused _
  · rw [if_neg hvalid]
    have hid : p.mediaID ≠ "" := fun h => hvalid (Or.inl h)
    rcases hP : P.setRoomMedia a.room.id p.mediaID (env.now 0) a.store with ⟨_ | u, store⟩
    · exact .mediaRefused _ store rfl hid hP
    · have hturn := HostTurn.mediaSet store rfl hid hP
      rw [← List.append_assoc] at hturn
      exact hturn

theorem hostTurn_playback (P : Persistence σ) (env : Env) (a : Actor σ) (type : CommandType)
    (p : CommandPayload) :
    HostTurn P env a type p (a.applyPlayback P env type p).1 (a.applyPlayback P env type p).2 := by
  rw [Actor.applyPlayback]
  by_cases hpos : p.positionMs < 0 ∨
      (0 < a.playback.durationMs ∧ a.playback.durationMs + 1000 < p.positionMs)
  · rw [if_pos hpos]
    exact .refused _
  · rw [if_neg hpos]
    rcases hswitch : a.toTimeline.playbackSwitch (env.now 0) type p with ⟨t, e | changed⟩
    · exact .playbackRefused t e hswitch
    · cases changed with
      | false => exact .playbackKept t hswitch
      | true =>
          have hturn : HostTurn P env a type p _ _ := .playbackChanged t _ hswitch rfl
          rw [← List.append_assoc] at hturn
          exact hturn

theorem hostTurn (P : Persistence σ) (env : Env) (a : Actor σ) (type : CommandType)
    (p : CommandPayload) :
    HostTurn P env a type p (a.applyHost P env type p).1 (a.applyHost P env type p).2 := by
  unfold Actor.applyHost
  split
  · exact hostTurn_transferHost P env a p
  · exact hostTurn_kick P env a p
  · exact hostTurn_close P env a p
  · exact hostTurn_media P env a p
  · exact hostTurn_playback P env a type p

/-- An authorised command is the host command it names. -/
theorem apply_authorised (P : Persistence σ) (env : Env) {a : Actor σ} {i : Identity}
    {c : Command} {p : CommandPayload} (h : a.toCore.authorised i c = some p) :
    a.apply P env i c = a.applyHost P env c.type p := by
  obtain ⟨⟨hmember, hready, htelemetry, htyping, hhost⟩, hpayload⟩ :=
    Core.authorised_eq_some.mp h
  have hnotMember : ¬(i.id ∉ a.members ∧ c.type.isAdmin = false) := by
    rintro ⟨hm, hadmin⟩
    rcases hmember with h1 | h1
    · exact hm h1
    · rw [hadmin] at h1
      exact Bool.noConfusion h1
  have hnotHost : ¬(i.id ≠ a.room.hostUserID ∧ Actor.adminOverride i c.type = false) := by
    rintro ⟨hne, hover⟩
    rcases hhost with h1 | h1
    · exact hne h1
    · rw [hover] at h1
      exact Bool.noConfusion h1
  rw [Actor.apply, if_neg hnotMember, if_neg hready, if_neg (by simp [htelemetry, htyping]),
    if_neg hnotHost, hpayload]

theorem commandTurn_ready (P : Persistence σ) (env : Env) (a : Actor σ) (i : Identity)
    (c : Command) (hm : i.id ∈ a.members) (htype : c.type = .clientReady) :
    CommandTurn P env a i c (a.applyReady P env i c.payload).1
      (a.applyReady P env i c.payload).2 := by
  rw [Actor.applyReady]
  cases hp : c.payload.asReady with
  | none => exact .refused _
  | some p =>
      dsimp only
      by_cases hreport : i.id = a.room.hostUserID ∧ p.ready = true ∧
          p.mediaID = a.playback.mediaID ∧ 0 < p.durationMs ∧
          p.durationMs ≤ Actor.maxReadyDurationMs
      · rw [if_pos hreport]
        exact .measured p _ hm htype hreport.1 rfl
      · rw [if_neg hreport]
        exact .readied p hm htype

theorem commandTurn (P : Persistence σ) (env : Env) (a : Actor σ) (i : Identity) (c : Command) :
    CommandTurn P env a i c (a.apply P env i c).1 (a.apply P env i c).2 := by
  cases hp : a.toCore.authorised i c with
  | some p =>
      rw [apply_authorised P env hp]
      exact .host p _ _ hp (hostTurn P env a c.type p)
  | none =>
      rw [Actor.apply]
      by_cases hmember : i.id ∉ a.members ∧ c.type.isAdmin = false
      · rw [if_pos hmember]
        exact .refused _
      rw [if_neg hmember]
      by_cases hready : c.type = .clientReady
      · rw [if_pos hready]
        have hm : i.id ∈ a.members := by
          by_contra hm
          exact hmember ⟨hm, by rw [hready]; rfl⟩
        exact commandTurn_ready P env a i c hm hready
      rw [if_neg hready]
      by_cases hignored : c.type = .telemetryMemberPlayback ∨ c.type = .presenceTyping
      · rw [if_pos hignored]
        have hm : i.id ∈ a.members := by
          by_contra hm
          rcases hignored with h | h
          · exact hmember ⟨hm, by rw [h]; rfl⟩
          · exact hmember ⟨hm, by rw [h]; rfl⟩
        exact .ignored hm hignored
      rw [if_neg hignored]
      by_cases hhost : i.id ≠ a.room.hostUserID ∧ Actor.adminOverride i c.type = false
      · rw [if_pos hhost]
        exact .refused _
      rw [if_neg hhost]
      -- what is left is past every check, so the payload did not decode
      have hnone : c.payload.asCommand = none := by
        have hperm : (i.id ∈ a.members ∨ c.type.isAdmin = true) ∧
            c.type ≠ .clientReady ∧ c.type ≠ .telemetryMemberPlayback ∧
            c.type ≠ .presenceTyping ∧
            (i.id = a.room.hostUserID ∨ Actor.adminOverride i c.type = true) := by
          refine ⟨?_, hready, fun h => hignored (Or.inl h), fun h => hignored (Or.inr h), ?_⟩
          · by_cases hm : i.id ∈ a.members
            · exact Or.inl hm
            · exact Or.inr (by simpa [hm] using hmember)
          · by_cases hi : i.id = a.room.hostUserID
            · exact Or.inl hi
            · exact Or.inr (by simpa [hi] using hhost)
        rw [Core.authorised, if_pos hperm] at hp
        exact hp
      rw [hnone]
      exact .refused _

/-- `countClient` and the new entry together are `enter`, after `supersede`. -/
theorem enter_eq (a : Actor σ) (c : Client) (now : Int64) :
    ({ a.countClient c with
        members := (a.countClient c).members.insert c.id ⟨c.identity, c, now, false⟩ } : Actor σ)
      = ⟨a.toCore.enter c now, a.store, a.out ++ a.toCore.supersede c⟩ := by
  rw [Actor.countClient, Core.enter, Core.supersede]
  cases hlook : a.members.lookup c.id with
  | none =>
      have hm : c.id ∉ a.members := AList.lookup_eq_none.mp hlook
      simp [hm]
  | some old =>
      have hm : c.id ∈ a.members := AList.mem_of_lookup hlook
      simp [hm, Actor.emit]

theorem openForHost_eq (P : Persistence σ) (env : Env) {a : Actor σ} {c : Client}
    (h : c.id = a.room.hostUserID ∧ a.room.status = .HOST_DISCONNECTED) :
    a.openForHost P env c
      = ⟨a.toCore.hostBack, (P.updateRoomStatus a.room.id .OPEN (env.now 1) a.store).2,
          a.out⟩ := by
  rw [Actor.openForHost, Core.hostBack]
  rw [if_pos h]
  simp only [Core.stopHostTimer_room]

theorem turn_join (P : Persistence σ) (env : Env) (a : Actor σ) (c : Client)
    (hlive : a.stopped = false) :
    Turn P env a (.join c) (a.handleJoin P env c).1 (.join (a.handleJoin P env c).2) := by
  rw [Actor.handleJoin]
  by_cases hclosed : a.room.status = .CLOSED
  · rw [if_pos hclosed]
    exact .joinRefused c _ (Or.inl hclosed)
  rw [if_neg hclosed]
  by_cases hfull : c.id ∉ a.members ∧ a.room.maxMembers ≤ a.members.size
  · rw [if_pos hfull]
    exact .joinRefused c _ (Or.inr hfull.1)
  rw [if_neg hfull]
  have hroom : c.id ∈ a.members ∨ (a.members.size : Int) < a.room.maxMembers := by
    by_cases hm : c.id ∈ a.members
    · exact Or.inl hm
    · exact Or.inr (not_le.mp (fun h => hfull ⟨hm, h⟩))
  simp only [enter_eq]
  by_cases hback : c.id = a.room.hostUserID ∧ a.room.status = .HOST_DISCONNECTED
  · have hturn : Turn P env a (.join c) _ _ :=
      .hostReturned c _ hlive hroom hback.1 hback.2 rfl
    rw [Core.welcome] at hturn
    rw [List.append_cons, ← List.append_assoc, ← List.append_assoc] at hturn
    have hopen : Actor.openForHost P env
        ⟨a.toCore.enter c (env.now 0), a.store, a.out ++ a.toCore.supersede c⟩ c = _ :=
      openForHost_eq P env hback
    rw [hopen]
    exact hturn
  · have hturn : Turn P env a (.join c) _ _ := .joined c _ hlive hclosed hroom hback rfl
    rw [Core.welcome] at hturn
    rw [List.append_cons, ← List.append_assoc, ← List.append_assoc] at hturn
    have hentered : ¬(c.id = (a.toCore.enter c (env.now 0)).room.hostUserID ∧
        (a.toCore.enter c (env.now 0)).room.status = .HOST_DISCONNECTED) := hback
    rw [Actor.openForHost]
    rw [if_neg hentered]
    exact hturn

theorem turn_leave (P : Persistence σ) (env : Env) (a : Actor σ) (id : String)
    (client : Option Client) (hlive : a.stopped = false) :
    Turn P env a (.leave id client) (a.handleLeave P env id client) .none := by
  rw [Actor.handleLeave]
  cases hm : a.members.lookup id with
  | none => exact .leaveIgnored id client (by simp [hm])
  | some m =>
      dsimp only
      by_cases hother : client ≠ none ∧ client ≠ some m.client
      · rw [if_pos hother]
        exact .leaveIgnored id client (by simpa [hm] using hother)
      rw [if_neg hother]
      have hclient : client = none ∨ client = some m.client := by
        by_cases hnone : client = none
        · exact Or.inl hnone
        · exact Or.inr (by simpa [hnone] using hother)
      split
      · rename_i hhost
        have hturn : Turn P env a (.leave id client) _ _ :=
          .hostLeft id client m _ hlive hm hclient hhost.1 hhost.2 rfl
        rw [← List.append_assoc, ← List.append_assoc] at hturn
        exact hturn
      · rename_i hhost
        exact .left id client m hlive hm hclient hhost

/-- The member the expiry loop settles on is listed in the database, is not the absent
    host and is online as a registered user. -/
theorem nextHost_spec {members : KeyedTable String RuntimeMember} {hostID : String}
    {dbmembers : List Member} (h : Actor.nextHost members hostID dbmembers ≠ "") :
    ∃ candidate m, candidate ∈ dbmembers ∧
      candidate.id = Actor.nextHost members hostID dbmembers ∧
      Actor.nextHost members hostID dbmembers ≠ hostID ∧
      members.lookup (Actor.nextHost members hostID dbmembers) = some m ∧
      m.identity.guest = false := by
  rw [Actor.nextHost] at h ⊢
  split at h
  · rename_i candidate hfind
    have hsome := List.find?_some hfind
    rw [Bool.and_eq_true, decide_eq_true_eq, Option.any_eq_true] at hsome
    obtain ⟨hne, m, hm, hguest⟩ := hsome
    exact ⟨candidate, m, List.mem_of_find?_eq_some hfind, rfl, hne, hm, by simpa using hguest⟩
  · exact absurd rfl h

theorem turn_expireHost (P : Persistence σ) (env : Env) (a : Actor σ) (hostID : String)
    (hlive : a.stopped = false) :
    Turn P env a (.expireHost hostID) (a.handleExpireHost P env hostID) .none := by
  rw [Actor.handleExpireHost]
  by_cases hover : a.room.status ≠ .HOST_DISCONNECTED ∨ a.room.hostUserID ≠ hostID
  · rw [if_pos hover]
    exact .expireIgnored hostID a.store (Or.inl rfl)
  rw [if_neg hover]
  have hstatus : a.room.status = .HOST_DISCONNECTED := not_not.mp (fun h => hover (Or.inl h))
  have hhost : a.room.hostUserID = hostID := not_not.mp (fun h => hover (Or.inr h))
  dsimp only
  by_cases hnext : Actor.nextHost a.members hostID (P.members a.room.id a.store).1.1 = ""
  · rw [if_pos hnext]
    exact .expireIgnored hostID _ (Or.inr rfl)
  rw [if_neg hnext]
  obtain ⟨candidate, m, hcand, hid, hne, hm, hguest⟩ := nextHost_spec hnext
  exact .tookOver hostID _ m candidate _ hlive hstatus hhost rfl hnext hne hcand hid hm
    hguest rfl

theorem turn_reopen (P : Persistence σ) (env : Env) (a : Actor σ) :
    Turn P env a .reopen (a.handleReopen P env).1 (.reopen (a.handleReopen P env).2) := by
  rw [Actor.handleReopen]
  by_cases hclosed : a.room.status = .CLOSED
  · rw [if_neg (not_not.mpr hclosed)]
    rcases hP : P.reopenRoom a.room.id (env.now 0) a.store with ⟨_ | u, store⟩
    · exact .reopenFailed _ store hclosed hP
    · exact .reopened store hclosed hP
  · rw [if_pos hclosed]
    exact .reopenIgnored hclosed

theorem turn_rename (P : Persistence σ) (env : Env) (a : Actor σ) (title : String) :
    Turn P env a (.rename title) (a.handleRename P env title).1
      (.rename (a.handleRename P env title).2) := by
  rw [Actor.handleRename]
  rcases hP : P.updateRoomTitle a.room.id title (env.now 0) a.store with ⟨_ | u, store⟩
  · exact .renameFailed title _ store hP
  · exact .renamed title store hP

theorem turn_close (P : Persistence σ) (env : Env) (a : Actor σ) (hlive : a.stopped = false) :
    Turn P env a .close (a.handleClose P env) .none := by
  have hturn : Turn P env a .close _ _ := .halted hlive
  rw [← List.append_assoc] at hturn
  rw [Actor.handleClose]
  simp only [Core.stopHostTimer_members]
  exact hturn

/-- **Every turn of the loop** is one of the outcomes `Turn` lists. -/
theorem turn (P : Persistence σ) (env : Env) (a : Actor σ) (m : Msg) :
    Turn P env a m (a.process P env m).1 (a.process P env m).2 := by
  unfold Actor.process
  by_cases hstopped : a.stopped = true
  · rw [if_pos hstopped]
    exact .stopped m hstopped
  rw [if_neg hstopped]
  have hlive : a.stopped = false := Bool.not_eq_true _ ▸ hstopped
  cases m with
  | join c => exact turn_join P env a c hlive
  | leave id client => exact turn_leave P env a id client hlive
  | expireHost hostID => exact turn_expireHost P env a hostID hlive
  | command i c => exact .command i c _ _ hlive (commandTurn P env a i c)
  | snapshot => exact .snapshot
  | ready id ready => exact .readied id ready
  | broadcast e => exact .relayed e
  | checkpoint =>
      by_cases hplaying : a.playback.phase = .playing
      · simp only [hplaying, if_true]
        exact .checkpointed hplaying
      · simp only [hplaying]
        exact .checkpointSkipped hplaying
  | reopen => exact turn_reopen P env a
  | rename title => exact turn_rename P env a title
  | close => exact turn_close P env a hlive

/-- A step of the actor is a turn of the loop, whatever is replied. -/
theorem turn_step (P : Persistence σ) (env : Env) (a : Actor σ) (m : Msg) :
    ∃ r, Turn P env a m (Actor.step P a (env, m)) r :=
  ⟨_, turn P env a m⟩

/-- The room lets the connection `c` in. -/
def Core.Admits (s : Core) (c : Client) : Prop :=
  s.stopped = false ∧ s.room.status ≠ .CLOSED ∧
    (c.id ∈ s.members ∨ (s.members.size : Int) < s.room.maxMembers)

/-- A join that is answered without an error was let in. -/
theorem admits_of_joined {P : Persistence σ} {env : Env} {a a' : Actor σ} {c : Client}
    (hturn : Turn P env a (.join c) a' (.join (.ok ()))) : a.toCore.Admits c := by
  cases hturn with
  | joined c s hlive hstatus hroom hback hs => exact ⟨hlive, hstatus, hroom⟩
  | hostReturned c s hlive hroom hhost hstatus hs =>
      refine ⟨hlive, ?_, hroom⟩
      rw [hstatus]
      decide

/-- A transfer that `TransferHost` accepts. -/
theorem process_transferHost {P : Persistence σ} {env : Env} {a : Actor σ} {i : Identity}
    {c : Command} {p : CommandPayload} {target : RuntimeMember} {store : σ}
    (hlive : a.stopped = false) (hp : a.toCore.authorised i c = some p)
    (htype : c.type = .roomTransferHost) (htarget : a.members.lookup p.targetUserID = some target)
    (hguest : target.identity.guest = false)
    (hP : P.transferHost a.room.id a.room.hostUserID p.targetUserID (env.now 0) a.store
      = (.ok (), store)) :
    (a.process P env (.command i c)).1.toCore = a.toCore.setHost p.targetUserID ∧
    (a.process P env (.command i c)).1.store = store := by
  rw [Actor.process]
  rw [if_neg (by simp [hlive])]
  dsimp only
  rw [apply_authorised P env hp, htype]
  rw [Actor.applyHost, Actor.applyTransferHost]
  rw [htarget]
  dsimp only
  rw [hguest, if_neg (by decide), hP]
  exact ⟨rfl, rfl⟩

end WatchTogether.Rooms

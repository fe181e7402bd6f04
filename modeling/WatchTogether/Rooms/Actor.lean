/-
  WatchTogether.Rooms.Actor

  The data of a room actor (`internal/rooms/actor.go`) and the helpers its
  message handlers share.

  The actor is one goroutine, so a handler is a function from the actor's state to
  the next one.  What it reads from outside comes in through three parameters:

    * `Persistence σ`, the source's interface, over an arbitrary store state `σ`;
    * `Env`, what this message's handling is answered: the successive readings of
      `a.now()`, the reading of the runtime's monotonic clock, and whether each
      `Client.Send` finds room in the client's queue;
    * `Payload`, what the two `json.Unmarshal` calls of `apply` make of a raw
      message.

  What it does to the outside is appended to `out`, in order.
-/

import WatchTogether.Lib.KeyedTable
import WatchTogether.Rooms.State

namespace WatchTogether.Rooms

-- ============================================================================
-- Errors
-- ============================================================================

/-- Errors of the store: `ErrNotFound`, and anything the database itself reports. -/
inductive StoreError where
  | notFound
  | failed (message : String)
deriving DecidableEq, Repr

/-- The errors an actor answers with. -/
inductive ActorError where
  | notHost
  | roomClosed
  | roomFull
  | invalidCommand
  | invalidPosition
  | notMember
  | store (e : StoreError)
deriving DecidableEq, Repr

/-- `error.Error()`. -/
def ActorError.text : ActorError → String
  | .notHost => "NOT_HOST"
  | .roomClosed => "ROOM_CLOSED"
  | .roomFull => "ROOM_FULL"
  | .invalidCommand => "INVALID_COMMAND"
  | .invalidPosition => "INVALID_POSITION"
  | .notMember => "FORBIDDEN"
  | .store .notFound => "not found"
  | .store (.failed message) => message

-- ============================================================================
-- Clients and envelopes
-- ============================================================================

/-- A `Client`.  `conn` is the identity of the Go pointer: two connections of one
    identity differ in it.  `ID()` is the identity's id. -/
structure Client where
  conn : Nat
  identity : Identity
deriving DecidableEq

/-- The id by which the actor knows the client. -/
def Client.id (c : Client) : String := c.identity.id

/-- One entry of the snapshot's member list. -/
structure SnapshotMember where
  id : String
  nickname : String
  host : Bool
  guest : Bool
  online : Bool
  ready : Bool
deriving DecidableEq

/-- The events the chat service hands to `Actor.Broadcast`; nothing else calls it. -/
inductive ChatEvent where
  | message (m : ChatMessage)
  | typing (memberID nickname : String) (typing : Bool) (expiresInMs : Int)
deriving DecidableEq

/-- The `type` and `payload` of an envelope. -/
inductive Event where
  | roomSnapshot (room : Room) (playback : PlaybackState) (members : List SnapshotMember)
  | memberJoined (member : Identity)
  | memberLeft (memberID : String) (kicked : Bool)
  | playbackState (state : PlaybackState)
  | hostChanged (hostUserID : String)
  | roomClosed
  | roomUpdated (title : String)
  | serverShutdown
  | chat (e : ChatEvent)
deriving DecidableEq

/-- `Envelope`: an event as it is sent to the clients. -/
structure Envelope where
  v : Nat
  roomID : String
  revision : Nat
  serverTimeMs : Int64
  event : Event
deriving DecidableEq

/-- The status of a socket that another tab has replaced. -/
def statusConnectionSuperseded : Nat := 4001

/-- What a handler does to the outside. -/
inductive Effect where
  /-- `c.Send(e)`, and what it returned. -/
  | send (c : Client) (e : Envelope) (ok : Bool)
  /-- `c.Close(code, reason)`. -/
  | close (c : Client) (code : Nat) (reason : String)
  /-- `persist.SaveCheckpoint(cp)`. -/
  | saveCheckpoint (cp : Checkpoint)
deriving DecidableEq

-- ============================================================================
-- Commands
-- ============================================================================

/-- The command types `apply` tells apart.  Every other type string is
    `unknownRoom` or `unknown`, by whether it starts with `cmd.room.`. -/
inductive CommandType where
  | clientReady
  | telemetryMemberPlayback
  | presenceTyping
  | roomTransferHost
  | roomKick
  | roomClose
  | roomMedia
  | playbackPlay
  | playbackPause
  | playbackSeek
  | playbackRate
  | playbackHostBuffering
  | playbackHostReady
  | telemetryHostPlayback
  | playbackEnded
  | unknownRoom
  | unknown
deriving DecidableEq, Repr

/-- `strings.HasPrefix(c.Type, "cmd.room.")`. -/
def hasRoomPrefix (type : String) : Bool := "cmd.room.".toList.isPrefixOf type.toList

/-- The type strings `apply` compares with. -/
def CommandType.wire : List (String × CommandType) :=
  [("client.ready", .clientReady),
   ("telemetry.member.playback", .telemetryMemberPlayback),
   ("presence.typing", .presenceTyping),
   ("cmd.room.transfer_host", .roomTransferHost),
   ("cmd.room.kick", .roomKick),
   ("cmd.room.close", .roomClose),
   ("cmd.room.media", .roomMedia),
   ("cmd.playback.play", .playbackPlay),
   ("cmd.playback.pause", .playbackPause),
   ("cmd.playback.seek", .playbackSeek),
   ("cmd.playback.rate", .playbackRate),
   ("cmd.playback.host_buffering", .playbackHostBuffering),
   ("cmd.playback.host_ready", .playbackHostReady),
   ("telemetry.host.playback", .telemetryHostPlayback),
   ("cmd.playback.ended", .playbackEnded)]

/-- The command type a type string selects. -/
def CommandType.ofString (type : String) : CommandType :=
  match CommandType.wire.find? (fun w => w.1 = type) with
  | some w => w.2
  | none => if hasRoomPrefix type then .unknownRoom else .unknown

/-- `isAdmin` of `apply`. -/
def CommandType.isAdmin : CommandType → Bool
  | .roomTransferHost | .roomKick | .roomClose | .roomMedia | .unknownRoom => true
  | _ => false

/-- `isAdmin` is the prefix test of the source, whatever the type string. -/
theorem CommandType.isAdmin_ofString (type : String) :
    (CommandType.ofString type).isAdmin = hasRoomPrefix type := by
  have hwire : ∀ w ∈ CommandType.wire, w.2.isAdmin = hasRoomPrefix w.1 := by decide
  rw [CommandType.ofString]
  cases h : CommandType.wire.find? (fun w => w.1 = type) with
  | some w =>
      have hw : w.1 = type := by simpa using List.find?_some h
      rw [← hw]
      exact hwire w (List.mem_of_find?_eq_some h)
  | none => cases hp : hasRoomPrefix type <;> rfl

/-- The fields `client.ready` decodes. -/
structure ReadyPayload where
  ready : Bool
  mediaID : String
  durationMs : Int64
  videoWidth : Int
  videoHeight : Int
deriving DecidableEq

/-- The fields every other command decodes. -/
structure CommandPayload where
  positionMs : Int64
  playbackRate : ℚ
  paused : Bool
  readyState : Int
  targetUserID : String
  mediaID : String
  durationMs : Int64
deriving DecidableEq

/-- A raw JSON payload, as the two `json.Unmarshal` calls of `apply` see it
    (`none` where the call returns an error). -/
structure Payload where
  asReady : Option ReadyPayload
  asCommand : Option CommandPayload
deriving DecidableEq

/-- `Command`; the request id plays no part in the actor. -/
structure Command where
  type : CommandType
  payload : Payload
deriving DecidableEq

-- ============================================================================
-- Persistence
-- ============================================================================

/-- The `Persistence` interface over a store state `σ`: the result of each call and
    the store it leaves.  `members` returns its list next to its error, since the
    actor reads the list either way. -/
structure Persistence (σ : Type) where
  saveCheckpoint : Checkpoint → σ → Except StoreError Unit × σ
  members : String → σ → (List Member × Option StoreError) × σ
  transferHost : String → String → String → Int64 → σ → Except StoreError Unit × σ
  closeRoom : String → Int64 → σ → Except StoreError Unit × σ
  reopenRoom : String → Int64 → σ → Except StoreError Unit × σ
  leaveMember : String → String → Int64 → σ → Except StoreError Unit × σ
  setRoomMedia : String → String → Int64 → σ → Except StoreError Unit × σ
  updateMediaMetadata : String → Int64 → Int → Int → Int64 → σ → Except StoreError Unit × σ
  deleteGuestSession : String → String → σ → Except StoreError Unit × σ
  updateRoomStatus : String → RoomStatus → Int64 → σ → Except StoreError Unit × σ
  updateRoomTitle : String → String → Int64 → σ → Except StoreError Unit × σ

/-- Every `Persistence` call succeeds. -/
structure Persistence.Succeeds {σ : Type} (P : Persistence σ) : Prop where
  saveCheckpoint : ∀ cp st, (P.saveCheckpoint cp st).1 = .ok ()
  members : ∀ room st, (P.members room st).1.2 = none
  transferHost : ∀ room old new now st, (P.transferHost room old new now st).1 = .ok ()
  closeRoom : ∀ room now st, (P.closeRoom room now st).1 = .ok ()
  reopenRoom : ∀ room now st, (P.reopenRoom room now st).1 = .ok ()
  leaveMember : ∀ room id now st, (P.leaveMember room id now st).1 = .ok ()
  setRoomMedia : ∀ room id now st, (P.setRoomMedia room id now st).1 = .ok ()
  updateMediaMetadata : ∀ id d w h now st, (P.updateMediaMetadata id d w h now st).1 = .ok ()
  deleteGuestSession : ∀ room id st, (P.deleteGuestSession room id st).1 = .ok ()
  updateRoomStatus : ∀ room status now st, (P.updateRoomStatus room status now st).1 = .ok ()
  updateRoomTitle : ∀ room title now st, (P.updateRoomTitle room title now st).1 = .ok ()

/-- A store that answers every call with `r` and lists the members `listed`. -/
def Persistence.answering (r : Except StoreError Unit) (listed : List Member) :
    Persistence Unit where
  saveCheckpoint _ _ := (r, ())
  members _ _ := ((listed, none), ())
  transferHost _ _ _ _ _ := (r, ())
  closeRoom _ _ _ := (r, ())
  reopenRoom _ _ _ := (r, ())
  leaveMember _ _ _ _ := (r, ())
  setRoomMedia _ _ _ _ := (r, ())
  updateMediaMetadata _ _ _ _ _ _ := (r, ())
  deleteGuestSession _ _ _ := (r, ())
  updateRoomStatus _ _ _ _ := (r, ())
  updateRoomTitle _ _ _ _ := (r, ())

theorem Persistence.answering_succeeds (listed : List Member) :
    (Persistence.answering (.ok ()) listed).Succeeds := by
  constructor <;> intros <;> rfl

/-- What one message's handling reads from outside.  `now k` is what the `k`-th call
    site of `a.now()` on the handler's path returns. -/
structure Env where
  now : Nat → Int64
  mono : Nat
  sendOk : Client → Envelope → Bool

/-- Both clocks stand at `now` and every client has room. -/
def Env.at (now : Nat) : Env := ⟨fun _ => Int64.ofNat now, now, fun _ _ => true⟩

-- ============================================================================
-- The actor
-- ============================================================================

/-- `runtimeMember`. -/
structure RuntimeMember where
  identity : Identity
  client : Client
  joinedAt : Int64
  ready : Bool
deriving DecidableEq

/-- A pending `time.AfterFunc` of a host's departure. -/
structure HostTimer where
  id : Nat
  hostID : String
  armedAt : Nat
deriving DecidableEq

/-- The actor's fields that the playback commands read and write. -/
structure Timeline where
  playback : PlaybackState
  hostDriftSamples : Nat
  hostDriftDirection : Int
  lastHostAnchorUpdateMs : Int64
deriving DecidableEq

/-- The memory of the actor goroutine: the fields of `Actor`, the locals `members`
    and `hostTimer` of `run`, and the timers the runtime still holds for it.
    `stopped` once `run` has returned. -/
structure Core extends Timeline where
  room : Room
  members : KeyedTable String RuntimeMember
  clients : Int
  grace : Nat
  hostTimer : Option Nat
  timers : List HostTimer
  timerSeq : Nat
  stopped : Bool
deriving DecidableEq

/-- The actor's memory, the store it writes to and everything it has sent so far. -/
structure Actor (σ : Type) extends Core where
  store : σ
  out : List Effect

namespace Actor

variable {σ : Type}

/-- The actor does something to its clients. -/
def emit (es : List Effect) (a : Actor σ) : Actor σ := { a with out := a.out ++ es }

/-- One client's share of a broadcast: a full queue gets the client closed. -/
def deliver (env : Env) (e : Envelope) (c : Client) : List Effect :=
  if env.sendOk c e then [.send c e true]
  else [.send c e false, .close c 1013 "slow consumer"]

/-- `broadcast` of `run`; `k` is the call site of its clock reading. -/
def broadcast (env : Env) (k : Nat) (event : Event) (revision : Nat) (a : Actor σ) : Actor σ :=
  a.emit (a.members.rows.flatMap
    (fun m => deliver env ⟨1, a.room.id, revision, env.now k, event⟩ m.client))

/-- The member list of a snapshot: the host first, the others in any order. -/
def memberList (a : Core) : List SnapshotMember :=
  let list := a.members.rows.map (fun m =>
    { id := m.identity.id, nickname := m.identity.nickname,
      host := decide (m.identity.id = a.room.hostUserID),
      guest := m.identity.guest, online := true, ready := m.ready : SnapshotMember })
  list.filter (fun m => m.host) ++ list.filter (fun m => !m.host)

/-- `snapshot` of `run`. -/
def snapshot (a : Core) : Event := .roomSnapshot a.room a.playback (memberList a)

/-- `persistCheckpoint`; `k` and `k + 1` are its clock readings. -/
def persistCheckpoint (P : Persistence σ) (env : Env) (k : Nat) (a : Actor σ) : Actor σ :=
  let position :=
    if a.playback.phase = .playing then a.playback.expected (env.now k)
    else a.playback.anchorPositionMs
  let cp : Checkpoint :=
    { roomID := a.room.id, mediaID := a.room.mediaID, positionMs := position,
      playbackRate := a.playback.playbackRate, phase := a.playback.phase,
      updatedAtMs := env.now (k + 1) }
  { a.emit [.saveCheckpoint cp] with store := (P.saveCheckpoint cp a.store).2 }

end Actor

namespace Timeline

/-- `resetHostDriftTracking`. -/
def resetHostDriftTracking (t : Timeline) : Timeline :=
  { t with hostDriftSamples := 0, hostDriftDirection := 0 }

/-- The drift samples in a row that point in one direction. -/
def countDriftSample (t : Timeline) (direction : Int) : Timeline :=
  if direction ≠ t.hostDriftDirection then
    { t with hostDriftDirection := direction, hostDriftSamples := 1 }
  else { t with hostDriftSamples := t.hostDriftSamples + 1 }

/-- `acceptHostAnchorSample`. -/
def acceptHostAnchorSample (t : Timeline) (now positionMs : Int64) (paused : Bool)
    (readyState : Int) : Timeline × Bool :=
  if t.playback.phase ≠ .playing ∨ paused ∨ readyState < 3 then
    (t.resetHostDriftTracking, false)
  else
    let drift := positionMs - t.playback.expected now
    if Int64.ofNat drift.toInt.natAbs < hostDriftThresholdMs then
      (t.resetHostDriftTracking, false)
    else
      let t := t.countDriftSample (if drift < 0 then -1 else 1)
      if t.hostDriftSamples < hostDriftConfirmations then (t, false)
      else if 0 < t.lastHostAnchorUpdateMs ∧
          now - t.lastHostAnchorUpdateMs < hostAnchorMinIntervalMs then (t, false)
      else
        let t :=
          { t with
            playback := { t.playback with
              anchorPositionMs := positionMs, anchorServerTimeMs := now }
            lastHostAnchorUpdateMs := now }
        (t.resetHostDriftTracking, true)

@[simp] theorem resetHostDriftTracking_playback (t : Timeline) :
    t.resetHostDriftTracking.playback = t.playback := rfl

@[simp] theorem countDriftSample_playback (t : Timeline) (direction : Int) :
    (t.countDriftSample direction).playback = t.playback := by
  rw [countDriftSample]
  split <;> rfl

/-- An anchor sample keeps the revision, and the whole state unless it is accepted. -/
theorem acceptHostAnchorSample_spec (t : Timeline) (now positionMs : Int64)
    (paused : Bool) (readyState : Int) :
    (t.acceptHostAnchorSample now positionMs paused readyState).1.playback.revision
        = t.playback.revision ∧
    ((t.acceptHostAnchorSample now positionMs paused readyState).2 = true ∨
      (t.acceptHostAnchorSample now positionMs paused readyState).1.playback = t.playback) := by
  rw [acceptHostAnchorSample]
  split
  · exact ⟨rfl, Or.inr rfl⟩
  dsimp only
  split
  · exact ⟨rfl, Or.inr rfl⟩
  generalize (if positionMs - t.playback.expected now < 0 then (-1 : Int) else 1) = direction
  split
  · simp
  split
  · simp
  · simp

end Timeline

end WatchTogether.Rooms

/-
  WatchTogether.Realtime.ReadLoop

  What the read loop of `Handler.ServeHTTP` (`internal/realtime/handler.go`) makes of one
  message: the checks, the `switch` on the type, and the envelopes that answer it.

  A payload is what each `json.Unmarshal` of the loop, and of the actor behind it, sees.
-/

import WatchTogether.Realtime.Revocation
import WatchTogether.Rooms.Turn

namespace WatchTogether.Realtime.ReadLoop

open LabelledRun Rooms
open Revocation (allowedCommand)

-- ============================================================================
-- Messages
-- ============================================================================

/-- `msg.Payload`; `none` is an error of `json.Unmarshal`. -/
structure RawPayload where
  /-- `clientMonoMs` of a `clock.ping`. -/
  clock : Option ℚ
  /-- `content` of a `chat.send`. -/
  chat : Option String
  /-- `typing` of a `presence.typing`. -/
  typing : Option Bool
  /-- What the actor decodes. -/
  command : Payload

/-- `inbound`. -/
structure Inbound where
  v : Int
  type : String
  requestID : String
  roomID : String
  payload : RawPayload

/-- What is put on `c.out`. -/
inductive Outgoing where
  | ack (requestID : String)
  | error (requestID code message : String)
  | pong (clientMonoMs : ℚ) (serverRecvUnixMs serverSendUnixMs : Int64)
  /-- An envelope of the room's actor. -/
  | room (e : Envelope)

/-- The version that the read loop asks for. -/
def protocolVersion : Int := 1

-- ============================================================================
-- Answers
-- ============================================================================

/-- An error that reaches `respond`. -/
inductive Failure where
  /-- An error of package `rooms`, or of the store behind it. -/
  | rooms (e : ActorError)
  /-- Any other: of the chat service, of the database, of the context. -/
  | other (message : String)
deriving DecidableEq

/-- `err.Error()`. -/
def Failure.text : Failure → String
  | .rooms e => e.text
  | .other message => message

/-- The first `switch` of `respond`. -/
def Failure.sentinel : Failure → String
  | .rooms .notHost => "NOT_HOST"
  | .rooms .roomClosed => "ROOM_CLOSED"
  | .rooms .roomFull => "ROOM_FULL"
  | .rooms .notMember => "FORBIDDEN"
  | .rooms .invalidPosition => "INVALID_POSITION"
  | .rooms .invalidCommand | .rooms (.store _) | .other _ => "INVALID_COMMAND"

/-- The code that `respond` sends. -/
def Failure.code (e : Failure) : String :=
  if e.text = "MESSAGE_TOO_LARGE" then "MESSAGE_TOO_LARGE"
  else if e.text = "RATE_LIMITED" then "RATE_LIMITED"
  else e.sentinel

/-- `respond`. -/
def respond (id : String) : Except Failure Unit → Outgoing
  | .ok _ => .ack id
  | .error e => .error id e.code e.text

-- ============================================================================
-- The loop body
-- ============================================================================

/-- What a message leads to. -/
inductive Action where
  /-- `c.Send(o)`, and the next message. -/
  | reply (o : Outgoing)
  /-- `h.Chat.Send`, then `respond`. -/
  | chat (content : String)
  /-- `h.Chat.Typing`, then `respond`. -/
  | typing (typing : Bool)
  /-- `actor.Command`, then `respond`. -/
  | command (c : Command)

/-- The `switch` on the type of a message; `recvAt` and `now` are the two clock readings. -/
def route (recvAt now : Int64) (msg : Inbound) : Action :=
  if msg.type = "clock.ping" then
    match msg.payload.clock with
    | none => .reply (.error msg.requestID "INVALID_COMMAND" "Invalid clock sample.")
    | some clientMonoMs => .reply (.pong clientMonoMs recvAt now)
  else if msg.type = "chat.send" then
    match msg.payload.chat with
    | none => .reply (.error msg.requestID "INVALID_COMMAND" "Invalid message.")
    | some content => .chat content
  else if msg.type = "presence.typing" then
    match msg.payload.typing with
    | none => .reply (.error msg.requestID "INVALID_COMMAND" "Invalid typing state.")
    | some typing => .typing typing
  else if allowedCommand msg.type then
    .command ⟨CommandType.ofString msg.type, msg.payload.command⟩
  else .reply (.error msg.requestID "INVALID_COMMAND" "Unknown command.")

/-- The loop body for a message in the room `roomID`; `none` closes the connection.
    `authenticated`: the credentials of the request still are good. -/
def handle (roomID : String) (authenticated : Bool) (recvAt now : Int64) (msg : Inbound) :
    Option Action :=
  if msg.v ≠ protocolVersion then
    some (.reply (.error msg.requestID "PROTOCOL_VERSION_UNSUPPORTED"
      "Unsupported protocol version."))
  else if msg.roomID ≠ "" ∧ msg.roomID ≠ roomID then
    some (.reply (.error msg.requestID "INVALID_COMMAND" "Room mismatch."))
  else if authenticated then some (route recvAt now msg)
  else none

-- ============================================================================
-- What gets through
-- ============================================================================

/-- The request that an outgoing envelope answers. -/
def Outgoing.request : Outgoing → Option String
  | .ack id | .error id _ _ => some id
  | .pong _ _ _ | .room _ => none

@[simp] theorem respond_request (id : String) (r : Except Failure Unit) :
    (respond id r).request = some id := by
  cases r <;> rfl

/-- The read loop never acknowledges by itself. -/
theorem route_reply {recvAt now : Int64} {msg : Inbound} {o : Outgoing}
    (h : route recvAt now msg = .reply o) :
    (∃ code message, o = .error msg.requestID code message) ∨
      ∃ clientMonoMs, o = .pong clientMonoMs recvAt now := by
  unfold route at h
  split_ifs at h
  · split at h
    · obtain rfl := Action.reply.inj h
      exact .inl ⟨_, _, rfl⟩
    · obtain rfl := Action.reply.inj h
      exact .inr ⟨_, rfl⟩
  · split at h
    · obtain rfl := Action.reply.inj h
      exact .inl ⟨_, _, rfl⟩
    · cases h
  · split at h
    · obtain rfl := Action.reply.inj h
      exact .inl ⟨_, _, rfl⟩
    · cases h
  · obtain rfl := Action.reply.inj h
    exact .inl ⟨_, _, rfl⟩

/-- The reply of a refused message names it. -/
theorem handle_reply {roomID : String} {authenticated : Bool} {recvAt now : Int64}
    {msg : Inbound} {o : Outgoing}
    (h : handle roomID authenticated recvAt now msg = some (.reply o)) :
    (∃ code message, o = .error msg.requestID code message) ∨
      ∃ clientMonoMs, o = .pong clientMonoMs recvAt now := by
  unfold handle at h
  split_ifs at h
  · obtain rfl := Action.reply.inj (Option.some.inj h)
    exact .inl ⟨_, _, rfl⟩
  · obtain rfl := Action.reply.inj (Option.some.inj h)
    exact .inl ⟨_, _, rfl⟩
  · exact route_reply (Option.some.inj h)

/-- The commands that a message may carry are none of the `cmd.room.*`. -/
theorem isAdmin_of_allowed {type : String} (h : allowedCommand type = true) :
    (CommandType.ofString type).isAdmin = false := by
  have hlist : ∀ t ∈ ["cmd.playback.play", "cmd.playback.pause", "cmd.playback.seek",
      "cmd.playback.rate", "cmd.playback.host_buffering", "cmd.playback.host_ready",
      "cmd.playback.ended", "telemetry.host.playback", "telemetry.member.playback",
      "client.ready"], (CommandType.ofString t).isAdmin = false := by
    decide
  unfold allowedCommand at h
  exact hlist type (of_decide_eq_true h)

theorem route_command {recvAt now : Int64} {msg : Inbound} {c : Command}
    (h : route recvAt now msg = .command c) :
    allowedCommand msg.type = true ∧ c = ⟨CommandType.ofString msg.type, msg.payload.command⟩ := by
  unfold route at h
  split_ifs at h with _ _ _ hallowed
  · split at h <;> cases h
  · split at h <;> cases h
  · split at h <;> cases h
  · exact ⟨hallowed, (Action.command.inj h).symm⟩

theorem route_chat {recvAt now : Int64} {msg : Inbound} {content : String}
    (h : route recvAt now msg = .chat content) : msg.type = "chat.send" := by
  unfold route at h
  split_ifs at h with _ htype
  · split at h <;> cases h
  · exact htype
  · split at h <;> cases h

theorem route_typing {recvAt now : Int64} {msg : Inbound} {typing : Bool}
    (h : route recvAt now msg = .typing typing) : msg.type = "presence.typing" := by
  unfold route at h
  split_ifs at h with _ _ htype
  · split at h <;> cases h
  · split at h <;> cases h
  · exact htype

/-- What is not answered on the spot has passed the checks. -/
theorem handle_cases {roomID : String} {authenticated : Bool} {recvAt now : Int64}
    {msg : Inbound} {x : Action} (h : handle roomID authenticated recvAt now msg = some x) :
    (∃ o, x = .reply o) ∨ (authenticated = true ∧ route recvAt now msg = x) := by
  unfold handle at h
  split_ifs at h with _ _ hauth
  · exact .inl ⟨_, (Option.some.inj h).symm⟩
  · exact .inl ⟨_, (Option.some.inj h).symm⟩
  · exact .inr ⟨hauth, Option.some.inj h⟩

theorem handle_command {roomID : String} {authenticated : Bool} {recvAt now : Int64}
    {msg : Inbound} {c : Command}
    (h : handle roomID authenticated recvAt now msg = some (.command c)) :
    c.type.isAdmin = false ∧ c = ⟨CommandType.ofString msg.type, msg.payload.command⟩ := by
  rcases handle_cases h with ⟨o, ho⟩ | ⟨-, hroute⟩
  · cases ho
  · obtain ⟨hallowed, rfl⟩ := route_command hroute
    exact ⟨isAdmin_of_allowed hallowed, rfl⟩

-- ============================================================================
-- The room behind the connections
-- ============================================================================

/-- A message that a connection of the room serves. -/
structure Served where
  caller : Identity
  msg : Inbound
  authenticated : Bool
  recvAt : Int64
  now : Int64
  /-- What a `Chat.Send` that succeeds has saved. -/
  saved : Option ChatMessage
  /-- The `GetFor` of `Chat.Typing` succeeds. -/
  admitted : Bool

/-- What reaches the channel of the room's actor. -/
def Served.posts (roomID : String) (x : Served) : Option Msg :=
  match handle roomID x.authenticated x.recvAt x.now x.msg with
  | some (.chat _) => x.saved.map (fun m => .broadcast (.message m))
  | some (.typing typing) =>
      if x.admitted then some (.broadcast (.typing x.caller.id x.caller.nickname typing 3000))
      else none
  | some (.command c) => some (.command x.caller c)
  | some (.reply _) | none => none

/-- A member's entry, but for its `ready` flag. -/
def seat (m : RuntimeMember) : Identity × Client × Int64 := (m.identity, m.client, m.joinedAt)

/-- The room's record, its film, the people in it and the host's timers are the same. -/
structure SameRoom (s s' : Core) : Prop where
  room : s'.room = s.room
  film : s'.playback.mediaID = s.playback.mediaID
  seats : ∀ id, (s'.members.lookup id).map seat = (s.members.lookup id).map seat
  clients : s'.clients = s.clients
  hostTimer : s'.hostTimer = s.hostTimer
  timers : s'.timers = s.timers
  stopped : s'.stopped = s.stopped

theorem SameRoom.refl (s : Core) : SameRoom s s := ⟨rfl, rfl, fun _ => rfl, rfl, rfl, rfl, rfl⟩

theorem SameRoom.trans {s s' s'' : Core} (h : SameRoom s s') (h' : SameRoom s' s'') :
    SameRoom s s'' :=
  ⟨h'.room.trans h.room, h'.film.trans h.film, fun id => (h'.seats id).trans (h.seats id),
    h'.clients.trans h.clients, h'.hostTimer.trans h.hostTimer, h'.timers.trans h.timers,
    h'.stopped.trans h.stopped⟩

theorem SameRoom.withTimeline (s : Core) {t : Timeline}
    (hfilm : t.playback.mediaID = s.playback.mediaID) : SameRoom s (s.withTimeline t) :=
  ⟨rfl, hfilm, fun _ => rfl, rfl, rfl, rfl, rfl⟩

/-- The flag that `client.ready` sets is no part of a seat. -/
theorem SameRoom.withReady (s : Core) (id : String) (ready : Bool) :
    SameRoom s (s.withReady id ready) := by
  refine ⟨rfl, rfl, ?_, rfl, rfl, rfl, rfl⟩
  intro k
  unfold Core.withReady Actor.setReady
  rw [AList.lookup_modify, Option.map_map]
  congr 1
  funext m
  dsimp only [Function.comp_apply]
  split <;> rfl

variable {σ : Type}

/-- A command that is none of the `cmd.room.*` keeps the room. -/
theorem SameRoom.of_commandTurn {P : Persistence σ} {env : Env} {a a' : Actor σ} {i : Identity}
    {c : Command} {r : Except ActorError (Option PlaybackState)} (hc : c.type.isAdmin = false)
    (h : CommandTurn P env a i c a' r) : SameRoom a.toCore a'.toCore := by
  cases h with
  | refused e => exact .refl _
  | ignored _ _ => exact .refl _
  | readied p _ _ => exact .withReady _ _ _
  | measured p s _ _ _ hs =>
      subst hs
      refine (SameRoom.withReady a.toCore i.id p.ready).trans ?_
      exact ⟨rfl, rfl, fun _ => rfl, rfl, rfl, rfl, rfl⟩
  | host p a' r _ hturn =>
      cases hturn with
      | transferRefused m e store htype | transferred m store htype | kicked m htype
      | closeFailed e store htype | closed store htype | mediaRefused e store htype
      | mediaSet store htype =>
          rw [htype] at hc
          cases hc
      | refused e => exact .refl _
      | playbackRefused t e hswitch =>
          have hfilm := a.toTimeline.playbackSwitch_mediaID (env.now 0) c.type p
          rw [hswitch] at hfilm
          exact .withTimeline _ hfilm
      | playbackKept t hswitch =>
          have hfilm := a.toTimeline.playbackSwitch_mediaID (env.now 0) c.type p
          rw [hswitch] at hfilm
          exact .withTimeline _ hfilm
      | playbackChanged t s hswitch hs =>
          have hfilm := a.toTimeline.playbackSwitch_mediaID (env.now 0) c.type p
          rw [hswitch] at hfilm
          subst hs
          exact .withTimeline _ hfilm

/-- One turn of the actor with what a served message posts. -/
def deliver (P : Persistence σ) (roomID : String) (a : Actor σ) (x : Env × Served) : Actor σ :=
  match x.2.posts roomID with
  | none => a
  | some m => (a.process P x.1 m).1

/-- Every post is a chat event, or a command that is none of the `cmd.room.*`. -/
theorem posts_cases {roomID : String} {x : Served} {m : Msg} (h : x.posts roomID = some m) :
    (∃ e, m = .broadcast e) ∨ ∃ c, m = .command x.caller c ∧ c.type.isAdmin = false := by
  unfold Served.posts at h
  split at h
  · obtain ⟨saved, -, rfl⟩ := Option.map_eq_some_iff.mp h
    exact .inl ⟨_, rfl⟩
  · split_ifs at h
    obtain rfl := Option.some.inj h
    exact .inl ⟨_, rfl⟩
  · rename_i c hc
    obtain rfl := Option.some.inj h
    exact .inr ⟨c, rfl, (handle_command hc).1⟩
  · cases h
  · cases h

theorem SameRoom.of_deliver (P : Persistence σ) (roomID : String) (a : Actor σ)
    (x : Env × Served) : SameRoom a.toCore (deliver P roomID a x).toCore := by
  unfold deliver
  split
  · exact .refl _
  · rename_i m hm
    have hturn := turn P x.1 a m
    rcases posts_cases hm with ⟨e, rfl⟩ | ⟨c, rfl, hc⟩
    · generalize (a.process P x.1 (.broadcast e)).1 = a' at hturn ⊢
      generalize (a.process P x.1 (.broadcast e)).2 = r at hturn
      cases hturn with
      | stopped _ => exact .refl _
      | relayed => exact .refl _
    · generalize (a.process P x.1 (.command x.2.caller c)).1 = a' at hturn ⊢
      generalize (a.process P x.1 (.command x.2.caller c)).2 = r at hturn
      cases hturn with
      | stopped _ => exact .refl _
      | command _ _ _ _ _ hcommand => exact .of_commandTurn hc hcommand

/-- **The sockets never touch the room itself.**  Whatever messages the connections of a room
    receive, in whatever order, from whatever identities, the host included: the room's record,
    its film, who is in it and the host's timers stay as they are. -/
theorem messages_keep_room (P : Persistence σ) (roomID : String) (a : Actor σ)
    (xs : List (Env × Served)) :
    SameRoom a.toCore (run (deliver P roomID) a xs).toCore := by
  induction xs generalizing a with
  | nil => exact .refl _
  | cons x xs ih =>
      rw [run_cons]
      exact (SameRoom.of_deliver P roomID a x).trans (ih _)

end WatchTogether.Realtime.ReadLoop

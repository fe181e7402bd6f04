/-
  WatchTogether.Realtime.Exchange

  The commands of a page and their acknowledgements, end to end: `WebSocketClient.send`, the
  read loop of `Handler.ServeHTTP` for each of the page's sockets, `Actor.Command` with the
  bounded channel of the actor, `connection.Send` with the bounded channel of the connection,
  the write loop, and `WebSocketClient.receive`.

  A socket delivers in order what has been written to it, and may stop at any point.  Other
  people's messages reach the actor, and the actor's envelopes the connection, at any time.
  What the other side of an interface makes of a payload is a parameter: `unmarshal` of the
  server, `body` of `json.Marshal` for the envelopes of the actor.
-/

import Mathlib.Logic.Function.Basic
import WatchTogether.Realtime.Handler
import WatchTogether.Realtime.ReadLoop
import WatchTogether.Web.ClientFrames

namespace WatchTogether.Realtime.ReadLoop

open Rooms
open Web (Json)

/-- The `type` of an actor's envelope. -/
def eventType : Rooms.Event → String
  | .roomSnapshot _ _ _ => "event.room.snapshot"
  | .memberJoined _ => "event.room.member_joined"
  | .memberLeft _ _ => "event.room.member_left"
  | .playbackState _ => "event.playback.state"
  | .hostChanged _ => "event.room.host_changed"
  | .roomClosed => "event.room.closed"
  | .roomUpdated _ => "event.room.updated"
  | .serverShutdown => "event.server.shutdown"
  | .chat (.message _) => "event.chat.message"
  | .chat (.typing _ _ _ _) => "event.chat.typing"

/-- A string field with `omitempty`. -/
def omitEmpty (key value : String) : List (String × Json) :=
  if value = "" then [] else [(key, .str value)]

/-- A number field with `omitempty`. -/
def omitZero (key : String) (value : Int) : List (String × Json) :=
  if value = 0 then [] else [(key, .num value)]

/-- `wsjson.Write` of an envelope, as `JSON.parse` reads it. -/
def Outgoing.json (body : Rooms.Event → Json) : Outgoing → Json
  | .ack id =>
      .obj (("v", .num 1) :: ("type", .str "ack") :: omitEmpty "requestId" id ++
        [("payload", .obj [("accepted", .bool true)])])
  | .error id code message =>
      .obj (("v", .num 1) :: ("type", .str "error") :: omitEmpty "requestId" id ++
        [("payload", .obj [("code", .str code), ("message", .str message)])])
  | .pong clientMonoMs recv sent =>
      .obj [("v", .num 1), ("type", .str "clock.pong"),
        ("payload", .obj [("clientMonoMs", .num clientMonoMs),
          ("serverRecvUnixMs", .num recv.toInt), ("serverSendUnixMs", .num sent.toInt)])]
  | .room e =>
      .obj (("v", .num e.v) :: ("type", .str (eventType e.event)) :: omitEmpty "roomId" e.roomID ++
        omitZero "revision" e.revision ++ omitZero "serverTimeMs" e.serverTimeMs.toInt ++
        [("payload", body e.event)])

end WatchTogether.Realtime.ReadLoop

namespace WatchTogether.Realtime.Exchange

open LabelledRun Rooms ReadLoop
open Web (Frame Json Page)

-- ============================================================================
-- The server's side of a socket
-- ============================================================================

/-- What `Actor.Command` returns. -/
abbrev CommandResult : Type := Except ActorError (Option PlaybackState)

/-- Where the goroutine of a connection is in its read loop. -/
inductive Stage where
  /-- In `wsjson.Read`. -/
  | reading
  /-- The chat service is at work on the frame. -/
  | chatting (f : Frame)
  /-- `Actor.Command` is about to put the request on the channel. -/
  | sending (f : Frame) (c : Command)
  /-- It waits for the reply to its request. -/
  | waiting (f : Frame) (ticket : Nat) (reply : Option CommandResult)
  | ended

/-- A socket, with its handler. -/
structure Link where
  stage : Stage
  /-- `ctx.Done()`: the write loop is over. -/
  cancelled : Bool
  /-- How many frames of the socket have been read. -/
  taken : Nat
  /-- `c.out`. -/
  out : List Outgoing
  /-- Written to the socket, and not delivered yet. -/
  wire : List Outgoing

/-- The capacity of `c.out`. -/
def outCapacity : Nat := 64

/-- `connection.Send`: what finds no room is dropped. -/
def Link.send (o : Outgoing) (x : Link) : Link :=
  if x.out.length < outCapacity then { x with out := x.out ++ [o] } else x

/-- `respond`, and the next turn of the loop. -/
def Link.respond (f : Frame) (r : Except Failure Unit) (x : Link) : Link :=
  { x with stage := .reading }.send (ReadLoop.respond f.requestId r)

/-- A message on the channel of the actor; `origin`: the socket, the ticket and the frame
    behind a command of the page. -/
structure Request where
  msg : Msg
  origin : Option (Nat × Nat × Frame)

/-- What has become of a frame.  No code keeps this record. -/
structure Handled where
  socket : Nat
  frame : Frame
  /-- What the actor has processed; nothing for the chat service. -/
  work : Option Msg
  result : Except Failure Unit

-- ============================================================================
-- The system
-- ============================================================================

/-- The page, the actor of its room, and the connection behind each of the page's sockets. -/
structure State (σ : Type) where
  page : Page
  actor : Actor σ
  queue : List Request
  tickets : Nat
  links : Nat → Link
  handled : List Handled
  /-- What has been delivered to the page, by socket.  No code keeps this record. -/
  delivered : List (Nat × Outgoing)

/-- What may happen in the system. -/
inductive Label where
  /-- A task of the page that is not the arrival of a message. -/
  | page (e : Web.Event)
  /-- The next message of the socket arrives. -/
  | deliver (k : Nat)
  /-- `wsjson.Read` returns the next frame; `authenticated`: the credentials still are good. -/
  | read (k : Nat) (authenticated : Bool) (recvAt now : Int64)
  /-- `Chat.Send` or `Chat.Typing` returns. -/
  | chatted (k : Nat) (r : Except Failure Unit)
  | submit (k : Nat)
  /-- The `a.done` case of a `select` in `Actor.Command`. -/
  | actorDone (k : Nat)
  /-- The `ctx.Done()` case, with the text of the context's error. -/
  | ctxDone (k : Nat) (message : String)
  | receive (k : Nat)
  /-- The actor takes a message. -/
  | turn (env : Env)
  /-- Somebody else sends to the actor. -/
  | post (m : Msg)
  /-- The actor calls `c.Send`. -/
  | push (k : Nat) (e : Envelope)
  /-- The write loop takes an envelope. -/
  | write (k : Nat)
  /-- The write loop ends and cancels the context. -/
  | cancel (k : Nat)
  /-- `wsjson.Read` fails. -/
  | fail (k : Nat)

/-- The arrival of a message. -/
def isMessage : Web.Event → Bool
  | .message _ _ => true
  | _ => false

/-- The reply that `Actor.Command` waits for. -/
def commandResult : Reply → Option CommandResult
  | .command r => some r
  | _ => none

/-- The error that `respond` sees. -/
def failure (r : CommandResult) : Except Failure Unit :=
  match r with
  | .ok _ => .ok ()
  | .error e => .error (.rooms e)

section Step

variable {σ : Type} (P : Persistence σ) (uuid : Nat ↪ String) (roomID : String)
  (identity : Nat → Identity) (unmarshal : Json → RawPayload) (body : Rooms.Event → Json)

/-- `inbound`, as `wsjson.Read` decodes a frame of the client. -/
def inbound (f : Frame) : Inbound := ⟨1, f.type, f.requestId, "", unmarshal f.payload⟩

namespace State

/-- One socket changes. -/
def setLink (k : Nat) (x : Link) (s : State σ) : State σ :=
  { s with links := Function.update s.links k x }

/-- The frames that the page has put on the socket. -/
def sent (k : Nat) (s : State σ) : List Frame :=
  (s.page.frames.filter (fun f => f.1 = k)).map (fun f => f.2)

/-- A frame that has been read. -/
def accept (k : Nat) (f : Frame) (action : Option Action) (s : State σ) : State σ :=
  let x := { s.links k with taken := (s.links k).taken + 1 }
  match action with
  | none => s.setLink k { x with stage := .ended }
  | some (.reply o) => s.setLink k (x.send o)
  | some (.chat _) | some (.typing _) => s.setLink k { x with stage := .chatting f }
  | some (.command c) => s.setLink k { x with stage := .sending f c }

/-- The reply goes to the goroutine that still waits for it. -/
def answer (k ticket : Nat) (r : CommandResult) (s : State σ) : State σ :=
  match (s.links k).stage with
  | .waiting f t _ =>
      if t = ticket then s.setLink k { s.links k with stage := .waiting f t (some r) } else s
  | _ => s

/-- The actor handles the next message. -/
def takeTurn (env : Env) (s : State σ) : State σ :=
  match s.queue with
  | [] => s
  | q :: rest =>
      if s.actor.stopped then s
      else
        let r := s.actor.process P env q.msg
        let s := { s with actor := r.1, queue := rest }
        match q.origin, commandResult r.2 with
        | some (k, ticket, f), some result =>
            State.answer k ticket result
              { s with handled := s.handled ++ [⟨k, f, some q.msg, failure result⟩] }
        | _, _ => s

/-- The frame that `Actor.Command` is called for. -/
def commanding (k : Nat) (s : State σ) : Option Frame :=
  match (s.links k).stage with
  | .sending f _ | .waiting f _ _ => some f
  | _ => none

/-- One step of the page, a socket, the actor or the network. -/
def step (s : State σ) : Label → State σ
  | .page e => if isMessage e then s else { s with page := s.page.step uuid e }
  | .deliver k =>
      match s.page.handling, (s.links k).wire with
      | none, o :: rest =>
          { s.setLink k { s.links k with wire := rest } with
            page := s.page.step uuid (.message k (some (o.json body)))
            delivered := s.delivered ++ [(k, o)] }
      | _, _ => s
  | .read k authenticated recvAt now =>
      match (s.links k).stage, (s.sent k)[(s.links k).taken]? with
      | .reading, some f =>
          if (s.links k).cancelled then s
          else s.accept k f (handle roomID authenticated recvAt now (inbound unmarshal f))
      | _, _ => s
  | .chatted k r =>
      match (s.links k).stage with
      | .chatting f =>
          { s.setLink k ((s.links k).respond f r) with
            handled := s.handled ++ [⟨k, f, none, r⟩] }
      | _ => s
  | .submit k =>
      match (s.links k).stage with
      | .sending f c =>
          if s.queue.length < capacity then
            { s.setLink k { s.links k with stage := .waiting f s.tickets none } with
              queue := s.queue ++ [⟨.command (identity k) c, some (k, s.tickets, f)⟩]
              tickets := s.tickets + 1 }
          else s
      | _ => s
  | .actorDone k =>
      match s.commanding k with
      | some f =>
          if s.actor.stopped then
            s.setLink k ((s.links k).respond f (.error (.rooms .roomClosed)))
          else s
      | none => s
  | .ctxDone k message =>
      match s.commanding k with
      | some f =>
          if (s.links k).cancelled then
            s.setLink k ((s.links k).respond f (.error (.other message)))
          else s
      | none => s
  | .receive k =>
      match (s.links k).stage with
      | .waiting f _ (some r) => s.setLink k ((s.links k).respond f (failure r))
      | _ => s
  | .turn env => s.takeTurn P env
  | .post m =>
      if s.queue.length < capacity then { s with queue := s.queue ++ [⟨m, none⟩] } else s
  | .push k e => s.setLink k ((s.links k).send (.room e))
  | .write k =>
      match (s.links k).out with
      | [] => s
      | o :: rest =>
          if (s.links k).cancelled then s
          else s.setLink k { s.links k with out := rest, wire := (s.links k).wire ++ [o] }
  | .cancel k => s.setLink k { s.links k with cancelled := true }
  | .fail k =>
      match (s.links k).stage with
      | .reading => s.setLink k { s.links k with stage := .ended }
      | _ => s

/-- The page before its first call, in front of an actor. -/
def start (dateNow : ℚ) (a : Actor σ) : State σ :=
  ⟨.start dateNow, a, [], 0, fun _ => ⟨.reading, false, 0, [], []⟩, [], []⟩

end State

end Step

end WatchTogether.Realtime.Exchange

/-
  WatchTogether.Realtime.Endings

  How connections end: the clients of `WebSocketClient.ts`, the goroutines of `ServeHTTP` from
  the handshake on, and the registry with its actors.

  A connection sends one close frame, that of the first call of `Close`; its code and reason are
  what the browser reports in the close event.  A close event may also come without any `Close`:
  the network fails, the process ends, or the WebSocket packages close by themselves.  Their
  reasons are the parameter `lost`.

  The steps of a goroutine inside `Get`, `Delete` and `Shutdown` are those of the registry.  The
  process may be restarted at any moment.
-/

import WatchTogether.Realtime.Handler
import WatchTogether.Rooms.ClosedMemory
import WatchTogether.Web.WebSocketClient

namespace WatchTogether.Realtime.Endings

open LabelledRun Repository Rooms

-- ============================================================================
-- Connections
-- ============================================================================

/-- Where the goroutine of a connection is in `ServeHTTP`. -/
inductive Phase where
  /-- The connection is tracked; the second `Authenticate` is next, and then `Get`. -/
  | tracked
  /-- In the call `i` of the registry. -/
  | getting (i : Nat)
  /-- `Join` of the actor `h` is about to send its request. -/
  | joining (h : Nat)
  /-- `Join` waits for the reply. -/
  | waiting (h : Nat)
  | reading (h : Nat)
  /-- `LeaveClient` is about to send its request. -/
  | leaving (h : Nat)
  | returned
deriving DecidableEq, Repr

/-- The actor that the connection has. -/
def Phase.actor : Phase → Option Nat
  | .joining h | .waiting h | .reading h | .leaving h => some h
  | _ => none

/-- The actor in whose `Join` the connection is. -/
def Phase.joins : Phase → Option Nat
  | .joining h | .waiting h => some h
  | _ => none

/-- A connection, as the server has it. -/
structure Conn where
  /-- The client at the other end, and its socket. -/
  client : Nat
  socket : Nat
  roomID : String
  identity : Identity
  phase : Phase
  /-- `ctx.Done()`. -/
  cancelled : Bool
  /-- The buffered reply of the join request. -/
  reply : Option (Except ActorError Unit)
  /-- Code and reason of the first `Close`. -/
  closing : Option (Nat × String)

namespace Conn

/-- The connection goes on to another phase. -/
def goto (phase : Phase) (c : Conn) : Conn := { c with phase := phase }

/-- `Close`. -/
def close (code : Nat) (reason : String) (c : Conn) : Conn :=
  if c.closing.isSome then c else { c with closing := some (code, reason) }

end Conn

/-- The clients, the connections that were accepted, and the registry. -/
structure World where
  registry : Registry
  conns : List Conn
  pages : Nat → Web.Page

/-- What may happen in the system. -/
inductive Label where
  /-- `GetFor` and `Accept` succeed for a socket of a client. -/
  | accept (k socket : Nat) (roomID : String) (identity : Identity)
  /-- The second `Authenticate` fails. -/
  | recheck (n : Nat)
  | get (n i : Nat)
  | got (n : Nat)
  /-- The write loop ends and cancels the context. -/
  | cancel (n : Nat)
  | submit (n : Nat)
  /-- A `select` of `Join` takes the `a.done` case, or the `ctx.Done()` case. -/
  | giveUp (n : Nat) (done : Bool)
  | receive (n : Nat)
  /-- The check of a message fails. -/
  | expire (n : Nat)
  /-- The read fails. -/
  | hangUp (n : Nat)
  /-- `LeaveClient` sends, or takes the `a.done` case. -/
  | leave (n : Nat) (sends : Bool)
  /-- `RevokeUser` closes the connection. -/
  | revoke (n : Nat)
  /-- Another goroutine, or other code. -/
  | other (l : Registry.Label)
  | turn (h : Nat) (env : Env) (fates : List Registry.Fate)
  | restart
  | page (k : Nat) (e : Web.Event)

namespace World

/-- One connection changes. -/
def setConn (n : Nat) (f : Conn → Conn) (s : World) : World :=
  { s with conns := s.conns.modify n f }

/-- The registry changes. -/
def setRegistry (r : Registry) (s : World) : World := { s with registry := r }

/-- The `Client` that the actor knows the connection by. -/
def asClient (n : Nat) (c : Conn) : Client := ⟨n, c.identity⟩

/-- `x.reply <- e` of a join request. -/
def answer (m : Msg) (r : Reply) (conns : List Conn) : List Conn :=
  match m, r with
  | .join c, .join e => conns.modify c.conn (fun x => { x with reply := some e })
  | _, _ => conns

/-- The calls of `Close` of a turn. -/
def perform (out : List Effect) (conns : List Conn) : List Conn :=
  out.foldl (fun conns e =>
    match e with
    | .close c code reason => conns.modify c.conn (Conn.close code reason)
    | _ => conns) conns

/-- What goroutines outside `ServeHTTP` do; the turns of an actor are steps of their own. -/
def outside : Registry.Label → Bool
  | .turn .. => false
  | .post _ m => !ofConnection m
  | _ => true

/-- The browser may report this event to the client `k`. -/
def reports (lost : String → Bool) (s : World) (k : Nat) : Web.Event → Bool
  | .closed socket code reason _ => lost reason ||
      s.conns.any (fun c => decide (c.client = k) && decide (c.socket = socket) &&
        decide (c.closing = some (code, reason)))
  | _ => true

/-- One step of the goroutine of a connection. -/
def stepConn (grace : Nat) (s : World) (c : Conn) : Label → World
  | .recheck n =>
      if c.phase = .tracked then
        s.setConn n (fun c => (c.close 1008 "session expired").goto .returned)
      else s
  | .get n i =>
      if c.phase = .tracked ∧ s.registry.calls i = .idle then
        (s.setRegistry (Registry.step grace s.registry (.call i (.get c.roomID)))).setConn n
          (Conn.goto (.getting i))
      else s
  | .got n =>
      match c.phase with
      | .getting i =>
          match s.registry.calls i with
          | .returned (.get id) (.actor h) =>
              if id = c.roomID then s.setConn n (Conn.goto (.joining h)) else s
          | .returned (.get _) _ =>
              s.setConn n (fun c => (c.close 1011 "room unavailable").goto .returned)
          | _ => s
      | _ => s
  | .cancel n =>
      if c.phase.actor.isSome then s.setConn n (fun c => { c with cancelled := true }) else s
  | .submit n =>
      match c.phase with
      | .joining h =>
          if s.registry.accepts h then
            (s.setRegistry (s.registry.push h (.join (asClient n c)))).setConn n
              (fun c => { c with phase := .waiting h, reply := none })
          else s
      | _ => s
  | .giveUp n done =>
      match c.phase.joins with
      | some h =>
          if done then
            if s.registry.stopped h then
              s.setConn n (fun c => (c.close 1008 ActorError.roomClosed.text).goto .returned)
            else s
          else if c.cancelled then
            s.setConn n (fun c => (c.close 1008 "context canceled").goto .returned)
          else s
      | none => s
  | .receive n =>
      match c.phase, c.reply with
      | .waiting h, some (.ok _) => s.setConn n (Conn.goto (.reading h))
      | .waiting _, some (.error e) =>
          s.setConn n (fun c => (c.close 1008 e.text).goto .returned)
      | _, _ => s
  | .expire n =>
      match c.phase with
      | .reading h => s.setConn n (fun c => (c.close 1008 "session expired").goto (.leaving h))
      | _ => s
  | .hangUp n =>
      match c.phase with
      | .reading h => s.setConn n (fun c => (c.close 1000 "connection closed").goto (.leaving h))
      | _ => s
  | .leave n sends =>
      match c.phase with
      | .leaving h =>
          if sends then
            if s.registry.accepts h then
              (s.setRegistry (s.registry.push h (.leave c.identity.id (some (asClient n c))))).setConn
                n (Conn.goto .returned)
            else s
          else if s.registry.stopped h then s.setConn n (Conn.goto .returned)
          else s
      | _ => s
  | .revoke n => s.setConn n (Conn.close 1008 "session revoked")
  | _ => s

/-- The connection whose goroutine moves. -/
def mover : Label → Option Nat
  | .recheck n | .get n _ | .got n | .cancel n | .submit n | .giveUp n _ | .receive n | .expire n
  | .hangUp n | .leave n _ | .revoke n => some n
  | _ => none

/-- One step; `uuid` gives the `crypto.randomUUID` of each client. -/
def step (grace : Nat) (uuid : Nat → Nat ↪ String) (lost : String → Bool) (s : World) (l : Label) :
    World :=
  match l with
  | .accept k socket roomID identity =>
      if socket < (s.pages k).sockets.length ∧
          s.conns.all (fun c => !(decide (c.client = k) && decide (c.socket = socket))) then
        { s with
          conns := s.conns ++ [⟨k, socket, roomID, identity, .tracked, false, none, none⟩] }
      else s
  | .other l => if outside l then s.setRegistry (Registry.step grace s.registry l) else s
  | .turn h env fates =>
      match s.registry.deliver h env fates with
      | none => s
      | some (m, a, r) =>
          { s with
            registry := s.registry.takeTurn h env fates
            conns := perform a.out (answer m r s.conns) }
  | .restart =>
      { s with
        registry := Registry.boot s.registry.db s.registry.used
        conns := s.conns.map (Conn.goto .returned) }
  | .page k e =>
      if s.reports lost k e then
        { s with pages := Function.update s.pages k ((s.pages k).step (uuid k) e) }
      else s
  | l =>
      match mover l with
      | some n =>
          match s.conns[n]? with
          | some c => s.stepConn grace c l
          | none => s
      | none => s

/-- Nobody has connected yet; `dates` gives the `Date.now()` of each client at its start. -/
def start (d : Database) (dates : Nat → ℚ) : World :=
  ⟨Registry.start d, [], fun k => Web.Page.start (dates k)⟩

-- ============================================================================
-- Close reasons
-- ============================================================================

/-- The reasons by which `WebSocketClient` enters the status `closed`. -/
def meansClosed (reason : String) : Bool :=
  decide (reason = "ROOM_CLOSED" ∨ reason = "room closed")

/-- The reason that an error of `Join` becomes. -/
def refusal : Msg → Reply → List (Nat × String)
  | .join c, .join (.error e) => [(c.conn, e.text)]
  | _, _ => []

/-- The reasons of the calls of `Close` of a turn. -/
def closings (out : List Effect) : List (Nat × String) :=
  out.filterMap (fun e =>
    match e with
    | .close c _ reason => some (c.conn, reason)
    | _ => none)

/-- The connections for which the step chooses a close reason that means a closed room: an actor
    refuses a `Join`, an actor closes its members, or a `Join` gives up. -/
def chooses (s : World) : Label → List Nat
  | .turn h env fates =>
      match s.registry.deliver h env fates with
      | none => []
      | some (m, a, r) =>
          ((refusal m r ++ closings a.out).filter (fun x => meansClosed x.2)).map Prod.fst
  | .giveUp n true =>
      if s.conns[n]?.any (fun c => c.phase.joins.any (fun h => s.registry.stopped h)) then [n]
      else []
  | _ => []

/-- The room of the connection. -/
def roomOf (s : World) (n : Nat) : Option String := s.conns[n]?.map (fun c => c.roomID)

end World

end WatchTogether.Realtime.Endings

/-
  WatchTogether.Web.WebSocketClient

  `WebSocketClient` (`web/src/realtime/WebSocketClient.ts`) and the browser it runs in:
  every socket it ever created, with its `readyState`, the timers that are armed, and the
  promises `send` returned.

  One task runs at a time.  A task is an event of some socket, a timer that is due, or a
  call of the page.  The listeners that a message reaches may call the client from within
  the task, so `receive` is two steps: up to the listeners, with the message kept in
  `handling`, and from the last listener on.  `onStatus` is the setter of a React state
  (`RoomPage.tsx`) and calls nothing back; a status is appended to `statuses`.  The URL of
  a socket and the arguments of `socket.close` matter to the server alone and are left out.
-/

import Mathlib.Data.Rat.Floor
import WatchTogether.Lib.KeyedTable
import WatchTogether.Lib.LabelledRun
import WatchTogether.Lib.Timers
import WatchTogether.Web.ClockSynchronizer

namespace WatchTogether.Web

-- ============================================================================
-- Messages (`web/src/realtime/protocol.ts`)
-- ============================================================================

/-- A value of `JSON.parse`. -/
inductive Json where
  | null
  | bool (b : Bool)
  | num (v : ℚ)
  | str (s : String)
  | arr (values : List Json)
  | obj (fields : List (String × Json))

namespace Json

/-- `value.key`, with `none` for `undefined`. -/
def get (key : String) : Json → Option Json
  | .obj fields => fields.lookup key
  | _ => none

/-- A field as a number. -/
def number : Option Json → Option ℚ
  | some (.num v) => some v
  | some .null => some 0
  | some (.bool b) => some (if b then 1 else 0)
  | _ => none

end Json

/-- `Envelope`: a message of the server, as the client reads it. -/
structure Envelope where
  type : String
  requestId : Option Json
  payload : Option Json

/-- `PROTOCOL_VERSION`. -/
def protocolVersion : ℚ := 1

/-- `parseEnvelope`, on what `JSON.parse` makes of the text; `none` is an exception. -/
def parseEnvelope (value : Option Json) : Option Envelope :=
  match value with
  | none => none
  | some e =>
      match e.get "v", e.get "type" with
      | some (.num v), some (.str type) =>
          if v = protocolVersion then some ⟨type, e.get "requestId", e.get "payload"⟩ else none
      | _, _ => none

/-- The argument of `clock.acceptPong`; reading a field of no object throws. -/
def Pong.ofPayload : Option Json → Option Pong
  | none | some .null => none
  | some p => some ⟨Json.number (p.get "clientMonoMs"), Json.number (p.get "serverRecvUnixMs"),
      Json.number (p.get "serverSendUnixMs")⟩

/-- The message of the `Error` that an error envelope rejects with. -/
def rejection (payload : Option Json) : Json :=
  match payload.bind (Json.get "message") with
  | none | some .null => .str "Command rejected"
  | some message => message

-- ============================================================================
-- The client and the browser
-- ============================================================================

/-- `ConnectionStatus`. -/
inductive ConnectionStatus where
  | connecting
  | connected
  | disconnected
  | superseded
  | closed
  | unauthorized
  | forbidden
  | full
deriving DecidableEq, Repr

/-- `readyState` of a socket. -/
inductive ReadyState where
  | connecting
  | open
  | closing
  | closed
deriving DecidableEq, Repr

/-- `socket.close()`. -/
def ReadyState.close : ReadyState → ReadyState
  | .connecting | .open => .closing
  | r => r

/-- `CONNECTION_SUPERSEDED`. -/
def connectionSuperseded : Nat := 4001

/-- `STABLE_CONNECTION_MS`. -/
def stableConnectionMs : ℚ := 10000

/-- How long `send` waits for an acknowledgement. -/
def ackTimeoutMs : ℚ := 6000

/-- How often the clock is sampled. -/
def resyncMs : ℚ := 30000

/-- What a timer of the client runs. -/
inductive Callback where
  | reconnect
  | stable (socket : Nat)
  | resync
  | sample
  | ack (requestId : String) (promise : Nat)
deriving DecidableEq, Repr

/-- `Pending`: a request that waits for its acknowledgement. -/
structure Pending where
  promise : Nat
  timeout : Nat
deriving DecidableEq, Repr

/-- The fields of `WebSocketClient`. -/
structure WebSocketClient where
  socket : Option Nat
  reconnectTimer : Option Nat
  stableTimer : Option Nat
  attempts : Nat
  stopped : Bool
  pending : KeyedTable String Pending
  resyncTimer : Option Nat
  clock : ClockSynchronizer

/-- How a promise of `send` ends. -/
inductive Settlement where
  | resolved
  | rejected (message : Json)

/-- The call of `send` behind a promise. -/
inductive Sent where
  /-- There was no open socket. -/
  | refused (ack : Bool)
  /-- Sent without waiting for an acknowledgement. -/
  | posted (requestId : String) (socket : Nat)
  | awaiting (requestId : String) (socket timeout : Nat)
deriving DecidableEq, Repr

/-- What is sent on a socket. -/
structure Frame where
  type : String
  requestId : String
  payload : Json

/-- The client, its sockets and timers, and what it has sent and settled. -/
structure Page where
  client : WebSocketClient
  /-- `performance.now()`. -/
  now : ℚ
  /-- The `readyState` of every socket, by its number. -/
  sockets : List ReadyState
  timers : Timers ℚ Callback
  /-- How often `crypto.randomUUID` was called. -/
  uuids : Nat
  promises : List Sent
  /-- The calls of `resolve` and `reject`, in order. -/
  settled : List (Nat × Settlement)
  statuses : List ConnectionStatus
  frames : List (Nat × Frame)
  /-- The message whose listeners are running. -/
  handling : Option Envelope

/-- A call of a public method. -/
inductive Call where
  | connect
  | disconnect
  | send (type : String) (payload : Json) (ack : Bool)

/-- What may happen in the browser. -/
inductive Event where
  /-- The page calls the client, or a listener does. -/
  | call (c : Call)
  /-- The listeners are through with a message, or one of them has thrown. -/
  | heard (throws : Bool)
  | opened (socket : Nat) (dateNow : ℚ)
  /-- A message, as `JSON.parse` reads it. -/
  | message (socket : Nat) (value : Option Json)
  /-- The closing handshake starts; no handler runs. -/
  | closing (socket : Nat)
  | closed (socket : Nat) (code : Nat) (reason : String) (random : ℚ)
  | errored (socket : Nat)
  | fired (timer : Nat)
  | elapsed (time : ℚ)

/-- What may happen while the listeners of a message run. -/
def Event.inListener : Event → Bool
  | .call _ | .heard _ => true
  | _ => false

namespace Page

-- ============================================================================
-- Timers and pending commands
-- ============================================================================

/-- `clearConnectionTimers`. -/
def clearConnectionTimers (s : Page) : Page :=
  { s with
    timers := (s.timers.clearHeld s.client.resyncTimer).clearHeld s.client.stableTimer
    client := { s.client with resyncTimer := none, stableTimer := none } }

/-- `clearTimers`. -/
def clearTimers (s : Page) : Page :=
  clearConnectionTimers { s with
    timers := s.timers.clearHeld s.client.reconnectTimer
    client := { s.client with reconnectTimer := none } }

/-- The outstanding commands, oldest first. -/
def outstanding (s : Page) : List Pending := s.client.pending.rows.reverse

/-- `rejectPending`. -/
def rejectPending (message : String) (s : Page) : Page :=
  { s with
    timers := s.timers.clearAll (s.outstanding.map (fun p => p.timeout))
    settled := s.settled ++ s.outstanding.map (fun p => (p.promise, .rejected (.str message)))
    client := { s.client with pending := ∅ } }

/-- `sampleClock`. -/
def sampleClock (s : Page) : Page :=
  { s with
    timers := s.timers.setAll
      ((List.range 5).map (fun i => (s.now + 120 * i, Callback.sample))) }

-- ============================================================================
-- The public methods
-- ============================================================================

/-- `open`. -/
def openSocket (s : Page) : Page :=
  if s.client.stopped then s
  else
    { s with
      timers := s.timers.clearHeld s.client.reconnectTimer
      statuses := s.statuses ++ [.connecting]
      sockets := s.sockets ++ [.connecting]
      client := { s.client with reconnectTimer := none, socket := some s.sockets.length } }

/-- `connect`. -/
def connect (s : Page) : Page :=
  if s.client.stopped then openSocket { s with client := { s.client with stopped := false } }
  else s

/-- `socket?.close(…)`. -/
def closeSocket (socket : Option Nat) (s : Page) : Page :=
  match socket with
  | none => s
  | some k => { s with sockets := s.sockets.modify k ReadyState.close }

/-- `disconnect`. -/
def disconnect (s : Page) : Page :=
  let s := clearTimers { s with client := { s.client with stopped := true } }
  let socket := s.client.socket
  let s : Page := { s with client := { s.client with socket := none } }
  (s.closeSocket socket).rejectPending "Disconnected"

/-- `this.socket?.readyState === WebSocket.OPEN`, with the socket. -/
def openNow (s : Page) : Option Nat :=
  s.client.socket.filter (fun k => s.sockets[k]? = some .open)

/-- `send`; the promise it returns has the next number. -/
def send (uuid : Nat ↪ String) (type : String) (payload : Json) (ack : Bool) (s : Page) : Page :=
  match s.openNow with
  | none =>
      { s with
        promises := s.promises ++ [.refused ack]
        settled := s.settled ++
          [(s.promises.length, .rejected (.str "Connection unavailable"))] }
  | some k =>
      let requestId := uuid s.uuids
      let s : Page := { s with
        uuids := s.uuids + 1
        frames := s.frames ++ [(k, ⟨type, requestId, payload⟩)] }
      if ack then
        { s with
          timers := s.timers.set (s.now + ackTimeoutMs) (.ack requestId s.promises.length)
          promises := s.promises ++ [.awaiting requestId k s.timers.next]
          client := { s.client with
            pending := s.client.pending.insert requestId ⟨s.promises.length, s.timers.next⟩ } }
      else
        { s with
          promises := s.promises ++ [.posted requestId k]
          settled := s.settled ++ [(s.promises.length, .resolved)] }

/-- A call of the client by the page. -/
def call (uuid : Nat ↪ String) (s : Page) : Call → Page
  | .connect => s.connect
  | .disconnect => s.disconnect
  | .send type payload ack => s.send uuid type payload ack

-- ============================================================================
-- The handlers
-- ============================================================================

/-- The status that ends reconnecting, if the close event asks for one. -/
def terminal (code : Nat) (reason : String) : Option ConnectionStatus :=
  if code = connectionSuperseded ∨ reason = "replaced by reconnect" then some .superseded
  else if reason = "ROOM_CLOSED" ∨ reason = "room closed" then some .closed
  else if reason = "FORBIDDEN" ∨ reason = "removed from room" then some .forbidden
  else if reason = "session revoked" ∨ reason = "session expired" then some .unauthorized
  else if reason = "ROOM_FULL" then some .full
  else none

/-- The delay before the next attempt, after `attempts` failed ones. -/
def backoff (attempts : Nat) (random : ℚ) : ℚ :=
  ⌊min 10000 (1000 * 2 ^ attempts) * (4 / 5 + random * (2 / 5))⌋

/-- The end of `lost`: another attempt is scheduled. -/
def retry (random : ℚ) (s : Page) : Page :=
  { s with
    statuses := s.statuses ++ [.disconnected]
    timers := s.timers.set (s.now + backoff s.client.attempts random) .reconnect
    client := { s.client with
      attempts := s.client.attempts + 1
      reconnectTimer := some s.timers.next } }

/-- `lost`. -/
def lost (code : Nat) (reason : String) (random : ℚ) (s : Page) : Page :=
  if s.client.stopped then s
  else
    let s := s.clearConnectionTimers.rejectPending "Connection lost"
    match terminal code reason with
    | some status =>
        { s with
          client := { s.client with stopped := true }
          statuses := s.statuses ++ [status] }
    | none => s.retry random

/-- `onopen`. -/
def onopen (k : Nat) (dateNow : ℚ) (s : Page) : Page :=
  if s.client.socket ≠ some k ∨ s.client.stopped then s
  else
    let s : Page := { s with
      statuses := s.statuses ++ [.connected]
      client := { s.client with clock := s.client.clock.reset dateNow s.now } }
    let s := s.sampleClock
    let timers := s.timers.clearHeld s.client.resyncTimer
    let resynced := timers.set (s.now + resyncMs) .resync
    { s with
      timers := resynced.set (s.now + stableConnectionMs) (.stable k)
      client := { s.client with
        resyncTimer := some timers.next
        stableTimer := some resynced.next } }

/-- The end of `receive`: an acknowledgement settles the command it names. -/
def settle (message : Envelope) (s : Page) : Page :=
  match message.requestId with
  | some (.str id) =>
      if id ≠ "" ∧ (message.type = "ack" ∨ message.type = "error") then
        match s.client.pending.lookup id with
        | none => s
        | some p =>
            { s with
              timers := s.timers.clear p.timeout
              settled := s.settled ++ [(p.promise,
                if message.type = "ack" then .resolved else .rejected (rejection message.payload))]
              client := { s.client with pending := s.client.pending.erase id } }
      else s
  | _ => s

/-- The beginning of `receive`: a pong goes to the clock; `none` is an exception. -/
def pong (message : Envelope) (s : Page) : Option Page :=
  if message.type = "clock.pong" then
    (Pong.ofPayload message.payload).map (fun payload =>
      { s with client := { s.client with clock := s.client.clock.acceptPong payload s.now } })
  else some s

/-- `receive` up to the listeners; an exception drops the message. -/
def receive (value : Option Json) (s : Page) : Page :=
  match parseEnvelope value with
  | none => s
  | some message =>
      match s.pong message with
      | none => s
      | some s => { s with handling := some message }

/-- `receive` from the listeners on; an exception of a listener drops the rest. -/
def finish (throws : Bool) (s : Page) : Page :=
  match s.handling with
  | none => s
  | some message =>
      let s : Page := { s with handling := none }
      if throws then s else s.settle message

/-- The callback of a timer that has just fired. -/
def run (uuid : Nat ↪ String) (s : Page) : Callback → Page
  | .reconnect => s.openSocket
  | .stable k =>
      if s.openNow = some k then { s with client := { s.client with attempts := 0 } } else s
  | .resync => s.sampleClock
  | .sample =>
      let (clock, now) := s.client.clock.pingPayload s.now
      { s with client := { s.client with clock := clock } }.send uuid "clock.ping"
        (.obj [("clientMonoMs", .num now)]) false
  | .ack requestId promise =>
      { s with
        settled := s.settled ++
          [(promise, .rejected (.str "Command acknowledgement timed out"))]
        client := { s.client with pending := s.client.pending.erase requestId } }

/-- An interval is armed again before its callback runs, a timeout is gone. -/
def fire (uuid : Nat ↪ String) (t : Nat) (s : Page) : Page :=
  match s.timers.live t with
  | none => s
  | some (due, callback) =>
      if s.now < due then s
      else
        match callback with
        | .resync => { s with timers := s.timers.rearm t (due + resyncMs) }.run uuid .resync
        | callback => { s with timers := s.timers.clear t }.run uuid callback

/-- The browser moves a socket to another `readyState`. -/
def setReady (k : Nat) (r : ReadyState) (s : Page) : Page :=
  { s with sockets := s.sockets.set k r }

/-- A task of the browser.  An event that cannot be raised changes nothing. -/
def task (uuid : Nat ↪ String) (s : Page) : Event → Page
  | .call c => s.call uuid c
  | .heard throws => s.finish throws
  | .opened k dateNow =>
      if s.sockets[k]? = some .connecting then (s.setReady k .open).onopen k dateNow else s
  | .message k value =>
      if s.client.socket = some k ∧ s.client.stopped = false then s.receive value else s
  | .closing k => s.closeSocket (some k)
  | .closed k code reason random =>
      if s.sockets[k]? = some .closed then s
      else
        let s := s.setReady k .closed
        if s.client.socket = some k then
          { s with client := { s.client with socket := none } }.lost code reason random
        else s
  | .errored k => if s.client.socket = some k then s.closeSocket (some k) else s
  | .fired t => s.fire uuid t
  | .elapsed time => { s with now := max s.now time }

/-- One step of the browser. -/
def step (uuid : Nat ↪ String) (s : Page) (e : Event) : Page :=
  if s.handling.isSome ∧ e.inListener = false then s else s.task uuid e

/-- The page before the first call. -/
def start (dateNow : ℚ) : Page where
  client := ⟨none, none, none, 0, true, ∅, none, .new dateNow 0⟩
  now := 0
  sockets := []
  timers := .empty
  uuids := 0
  promises := []
  settled := []
  statuses := []
  frames := []
  handling := none

end Page

end WatchTogether.Web

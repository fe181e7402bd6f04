/-
  WatchTogether.Realtime.Revocation

  WebSocket connections and their credentials: `Handler.ServeHTTP` with its three calls of
  `Authenticate`, and `RevokeUser`.

  `Authenticate` makes two lookups, the session's and, where that finds nothing or fails,
  the guest's; each is a step of its own.  The connection keeps the identity of the first
  call; the results of the other two are compared with nothing.  `RevokeUser` collects the
  connections under the lock and closes them afterwards, one by one.
-/

import Mathlib.Logic.Function.Basic
import WatchTogether.Accounts.Credentials
import WatchTogether.Accounts.Logout

namespace WatchTogether.Realtime.Revocation

open LabelledRun Repository Accounts

-- ============================================================================
-- Connections
-- ============================================================================

/-- A message of the client; `decodes`: its payload is of the form of its type. -/
structure Inbound where
  v : Int
  type : String
  roomID : String
  decodes : Bool
deriving DecidableEq

/-- `allowedCommand`. -/
def allowedCommand (v : String) : Bool :=
  decide (v ∈ ["cmd.playback.play", "cmd.playback.pause", "cmd.playback.seek", "cmd.playback.rate",
    "cmd.playback.host_buffering", "cmd.playback.host_ready", "cmd.playback.ended",
    "telemetry.host.playback", "telemetry.member.playback", "client.ready"])

/-- The `switch` of the read loop hands the message to the chat service or the actor. -/
def Inbound.forwarded (m : Inbound) : Bool :=
  if m.type = "clock.ping" then false
  else if m.type = "chat.send" ∨ m.type = "presence.typing" then m.decodes
  else allowedCommand m.type

/-- Where `ServeHTTP` calls `Authenticate`. -/
inductive Point where
  | handshake
  /-- After the connection is tracked. -/
  | recheck
  | message (m : Inbound)
deriving DecidableEq

/-- Where the goroutine of a connection is. -/
inductive Phase where
  /-- About to look up the session cookie. -/
  | session (p : Point)
  /-- The session lookup has found nothing; about to look up the guest cookie. -/
  | guest (p : Point)
  /-- Authenticated, and not tracked yet. -/
  | admitted
  | joining
  | reading
  /-- The check of the message has returned this identity. -/
  | dispatching (m : Inbound) (checked : Identity)
  | returned
deriving DecidableEq

/-- The phase after `Authenticate` has returned an identity. -/
def Point.passed : Point → Identity → Phase
  | handshake, _ => .admitted
  | recheck, _ => .joining
  | message m, i => .dispatching m i

/-- A connection; `identity` is `model.Identity{}` until the first `Authenticate`. -/
structure Socket where
  request : Request
  roomID : String
  identity : Identity
  phase : Phase
  closed : Bool

/-- A message that is handed on: the identity it is executed under, and the one that its
    check has returned. -/
structure Forward where
  socket : Nat
  message : Inbound
  identity : Identity
  checked : Identity
deriving DecidableEq

/-- The sockets over one database, with the calls of `RevokeUser`. -/
structure System where
  db : Database
  clock : Int64
  sockets : Nat → Socket
  /-- `Handler.connections`. -/
  connections : List Nat
  /-- The connections that calls of `RevokeUser` have still to close. -/
  toClose : List Nat
  forwards : List Forward

/-- What may happen in the system. -/
inductive Label where
  /-- The session lookup; `failed`: with an error of the database. -/
  | session (c : Nat) (failed : Bool)
  | guest (c : Nat) (failed : Bool)
  /-- `GetFor` and `Accept` succeed, and the connection is tracked. -/
  | track (c : Nat)
  | refuse (c : Nat)
  /-- `Registry.Get` and `Join`, with their success. -/
  | join (c : Nat) (ok : Bool)
  | read (c : Nat) (m : Inbound)
  | dispatch (c : Nat)
  | hangUp (c : Nat)
  | untrack (c : Nat)
  | statement (st : Statement)
  | tick (t : Int64)
  /-- The critical section of `RevokeUser`. -/
  | revokeScan (id : String)
  /-- One `Close` of a `RevokeUser`. -/
  | revokeClose (c : Nat)

namespace System

/-- One socket changes. -/
def setSocket (x : System) (c : Nat) (s : Socket) : System :=
  { x with sockets := Function.update x.sockets c s }

@[simp] theorem setSocket_self (x : System) (c : Nat) (k : Socket) :
    (x.setSocket c k).sockets c = k := Function.update_self ..

theorem setSocket_of_ne (x : System) {c c' : Nat} (k : Socket) (h : c' ≠ c) :
    (x.setSocket c k).sockets c' = x.sockets c' := Function.update_of_ne h ..

/-- A socket goes on to another phase. -/
def move (x : System) (c : Nat) (phase : Phase) : System :=
  x.setSocket c { x.sockets c with phase := phase }

/-- `c.Close` and the return of `ServeHTTP`. -/
def finish (x : System) (c : Nat) : System :=
  x.setSocket c { x.sockets c with phase := .returned, closed := true }

/-- `Authenticate` returns an identity. -/
def pass (x : System) (c : Nat) (p : Point) (i : Identity) : System :=
  x.setSocket c
    { x.sockets c with
      phase := p.passed i
      identity := if p = .handshake then i else (x.sockets c).identity }

/-- `Authenticate` returns an error. -/
def fail (x : System) (c : Nat) : Point → System
  | .handshake => x.move c .returned
  | _ => x.finish c

/-- The connection is one that `RevokeUser` closes. -/
def revokes (x : System) (id : String) (c : Nat) : Bool :=
  decide ((x.sockets c).identity.id = id) && !(x.sockets c).identity.guest

/-- One step. -/
def step (s : AuthService) (x : System) : Label → System
  | .session c failed =>
      match (x.sockets c).phase with
      | .session p =>
          match failed, s.sessionOf (x.sockets c).request x.clock x.db with
          | false, some (i, _) =>
              { x with db := s.touch (x.sockets c).request x.clock x.db }.pass c p i
          | _, _ => x.move c (.guest p)
      | _ => x
  | .guest c failed =>
      match (x.sockets c).phase with
      | .guest p =>
          match failed, s.guestOf (x.sockets c).request x.clock x.db with
          | false, some (i, _) => x.pass c p i
          | _, _ => x.fail c p
      | _ => x
  | .track c =>
      match (x.sockets c).phase with
      | .admitted => { x.move c (.session .recheck) with connections := c :: x.connections }
      | _ => x
  | .refuse c =>
      match (x.sockets c).phase with
      | .admitted => x.move c .returned
      | _ => x
  | .join c ok =>
      match (x.sockets c).phase with
      | .joining => if ok then x.move c .reading else x.finish c
      | _ => x
  | .read c m =>
      match (x.sockets c).phase with
      | .reading =>
          if m.v ≠ 1 ∨ (m.roomID ≠ "" ∧ m.roomID ≠ (x.sockets c).roomID) then x
          else x.move c (.session (.message m))
      | _ => x
  | .dispatch c =>
      match (x.sockets c).phase with
      | .dispatching m checked =>
          { x.move c .reading with
            forwards :=
              if m.forwarded then x.forwards ++ [⟨c, m, (x.sockets c).identity, checked⟩]
              else x.forwards }
      | _ => x
  | .hangUp c =>
      match (x.sockets c).phase with
      | .reading => x.finish c
      | _ => x
  | .untrack c =>
      match (x.sockets c).phase with
      | .returned => { x with connections := x.connections.filter (fun c' => decide (c' ≠ c)) }
      | _ => x
  | .statement st => { x with db := applyStatement x.db st }
  | .tick t => { x with clock := max x.clock t }
  | .revokeScan id => { x with toClose := x.toClose ++ x.connections.filter (x.revokes id) }
  | .revokeClose c =>
      if c ∈ x.toClose then
        { x.setSocket c { x.sockets c with closed := true } with toClose := x.toClose.erase c }
      else x

end System

-- ============================================================================
-- What must hold
-- ============================================================================

/-- Every message is executed under the identity that its check has returned. -/
def AsChecked (x : System) : Prop := ∀ f ∈ x.forwards, f.identity = f.checked

/-- The handshake goes on: the second `Authenticate` has not returned. -/
def Phase.Handshaking (p : Phase) : Prop :=
  p = .admitted ∨ p = .session .recheck ∨ p = .guest .recheck

/-- The connection is closed, is about to be closed by a `RevokeUser` that is running, or
    is still in its handshake. -/
def EndsClosed (x : System) (c : Nat) : Prop :=
  (x.sockets c).closed = true ∨ (x.sockets c).phase = .returned ∨ c ∈ x.toClose ∨
    (x.sockets c).phase.Handshaking

/-- The first `Authenticate` of the connection has returned the user. -/
def AuthenticatedAs (x : System) (c : Nat) (id : String) : Prop :=
  (x.sockets c).identity.id = id ∧ (x.sockets c).identity.guest = false ∧
    (x.sockets c).phase ≠ .session .handshake ∧ (x.sockets c).phase ≠ .guest .handshake

/-- The guest lookup of a re-check or of the check of a message. -/
def Phase.rechecks : Phase → Bool
  | .guest p => decide (p ≠ .handshake)
  | _ => false

/-- A live cookie decides otherwise than it did for the connection: the guest cookie
    answers for a connection of the session's user, or a failing lookup passes over the
    session of a request that has not been let in yet. -/
def PassesOver (s : AuthService) (x : System) : Label → Prop
  | .guest c false =>
      (x.sockets c).phase.rechecks = true ∧ (x.sockets c).identity.guest = false ∧
        s.guestOf (x.sockets c).request x.clock x.db ≠ none
  | .session c true =>
      (x.sockets c).phase = .session .handshake ∧
        s.sessionOf (x.sockets c).request x.clock x.db ≠ none
  | _ => False

instance (s : AuthService) (x : System) : (l : Label) → Decidable (PassesOver s x l)
  | .guest _ false => inferInstanceAs (Decidable (_ ∧ _ ∧ _))
  | .session _ true => inferInstanceAs (Decidable (_ ∧ _))
  | .guest _ true | .session _ false | .track _ | .refuse _ | .join _ _ | .read _ _
  | .dispatch _ | .hangUp _ | .untrack _ | .statement _ | .tick _ | .revokeScan _
  | .revokeClose _ => inferInstanceAs (Decidable False)

/-- A new session has a token that no request carries which has been looked up. -/
def NewTokens (s : AuthService) (x : System) (l : Label) : Prop :=
  ∀ st, l = .statement st → ∀ c, (x.sockets c).phase ≠ .session .handshake →
    Recreates s (x.sockets c).request st = false

/-- Nobody has connected: requests of any clients, and the database. -/
def start (d : Database) (clock : Int64) (requests : Nat → Request × String) : System where
  db := d
  clock := clock
  sockets c := ⟨(requests c).1, (requests c).2, ⟨.unset, "", "", "", "", false⟩,
    .session .handshake, false⟩
  connections := []
  toClose := []
  forwards := []

-- ============================================================================
-- One connection
-- ============================================================================

/-- The connection has an identity and goes on. -/
def Phase.Live (p : Phase) : Prop :=
  p ≠ .session .handshake ∧ p ≠ .guest .handshake ∧ p ≠ .returned

/-- The connection is in `Handler.connections`. -/
def Phase.Tracked (p : Phase) : Prop := p.Live ∧ p ≠ .admitted

/-- The credentials of the request give this identity or none. -/
def Gives (s : AuthService) (r : Request) (i : Identity) (now : Int64) (d : Database) : Prop :=
  (i.guest = false → Backed s r (fun row u => identityOf row u = i) d) ∧
  (i.guest = true → Backed s r (Dead now) d ∧ GuestBacked s r (fun k g => guestIdentityOf k g = i) d)

/-- What the lookups of a connection have established. -/
structure Good (s : AuthService) (now : Int64) (d : Database) (k : Socket) : Prop where
  missed : k.phase = .guest .handshake → Backed s k.request (Dead now) d
  live : k.phase.Live → Gives s k.request k.identity now d
  checked : ∀ m i, k.phase = .dispatching m i → i = k.identity

theorem gives_perform {s : AuthService} {r : Request} {i : Identity} {now : Int64}
    {st : Statement} (hst : Recreates s r st = false) {d : Database} (h : Gives s r i now d) :
    Gives s r i now (applyStatement d st) := by
  constructor
  · intro hi
    exact backed_perform (fun _ _ _ hrow => hrow) hst (h.1 hi)
  · intro hi
    obtain ⟨hdead, hguest⟩ := h.2 hi
    exact ⟨backed_perform (fun _ _ _ hrow => hrow) hst hdead, guestBacked_perform hst hguest⟩

/-- A statement leaves what has been established, where it creates no new session for a
    request that has been looked up. -/
theorem good_perform {s : AuthService} {now : Int64} {st : Statement} {d : Database} {k : Socket}
    (hst : k.phase ≠ .session .handshake → Recreates s k.request st = false)
    (h : Good s now d k) : Good s now (applyStatement d st) k := by
  refine ⟨?_, ?_, h.checked⟩
  · intro hphase
    have hnew := hst (by simp [hphase])
    exact backed_perform (fun _ _ _ hrow => hrow) hnew (h.missed hphase)
  · intro hphase
    exact gives_perform (hst hphase.1) (h.live hphase)

/-- The clock leaves what has been established. -/
theorem good_later {s : AuthService} {now now' : Int64} (hnow : now ≤ now') {d : Database}
    {k : Socket} (h : Good s now d k) : Good s now' d k := by
  refine ⟨?_, ?_, h.checked⟩
  · intro hphase
    exact (h.missed hphase).imp (fun _ _ hrow => hrow.later hnow)
  · intro hphase
    obtain ⟨huser, hguest⟩ := h.live hphase
    refine ⟨huser, ?_⟩
    intro hi
    exact ⟨(hguest hi).1.imp (fun _ _ hrow => hrow.later hnow), (hguest hi).2⟩

/-- A connection that has its identity goes on without a lookup. -/
theorem good_move {s : AuthService} {now : Int64} {d : Database} {k : Socket}
    (h : Good s now d k) {p : Phase} {closed : Bool} (hmissed : p ≠ .guest .handshake)
    (hlive : p.Live → k.phase.Live) (hchecked : ∀ m i, p ≠ .dispatching m i) :
    Good s now d { k with phase := p, closed := closed } :=
  ⟨fun hp => absurd hp hmissed, fun hp => h.live (hlive hp),
    fun m i hp => absurd hp (hchecked m i)⟩

/-- The session lookup finds nothing. -/
theorem good_miss {s : AuthService} {now : Int64} {d : Database} (hd : Sound d) {k : Socket}
    (h : Good s now d k) {p : Point} (hp : k.phase = .session p)
    (hnone : p = .handshake → s.sessionOf k.request now d = none) :
    Good s now d { k with phase := .guest p } := by
  refine ⟨?_, ?_, ?_⟩
  · intro hphase
    have hpoint : p = .handshake := by simpa using hphase
    exact (backed_dead_iff hd).mp (hnone hpoint)
  · intro hlive
    have hpoint : p ≠ .handshake := by
      rintro rfl
      exact hlive.2.1 rfl
    apply h.live
    rw [hp]
    refine ⟨by simpa using hpoint, by simp, by simp⟩
  · intro m i hphase
    exact absurd hphase (by simp)

/-- The phases in which the identity has been given. -/
theorem live_of_point {p : Point} (hp : p ≠ .handshake) :
    (Phase.session p).Live ∧ (Phase.guest p).Live :=
  ⟨⟨by simpa using hp, by simp, by simp⟩, ⟨by simp, by simpa using hp, by simp⟩⟩

/-- `Authenticate` returns an identity that the credentials of the request give. -/
theorem good_pass {s : AuthService} {now : Int64} {d : Database} {k : Socket}
    {p : Point} {i : Identity} (hgives : Gives s k.request i now d)
    (hsame : p ≠ .handshake → i = k.identity) :
    Good s now d
      { k with phase := p.passed i, identity := if p = .handshake then i else k.identity } := by
  have hidentity : (if p = .handshake then i else k.identity) = i := by
    split
    · rfl
    · rename_i hp
      exact (hsame hp).symm
  rw [hidentity]
  refine ⟨?_, ?_, ?_⟩
  · intro hphase
    cases p <;> exact absurd hphase (by simp [Point.passed])
  · intro _
    exact hgives
  · intro m j hphase
    cases p with
    | message m' => exact (Phase.dispatching.inj hphase).2.symm
    | handshake => exact absurd hphase (by simp [Point.passed])
    | recheck => exact absurd hphase (by simp [Point.passed])

/-- The session that answers for a connection gives its identity. -/
theorem gives_of_sessionOf {s : AuthService} {now : Int64} {d : Database} (hd : Sound d)
    {k : Socket} (h : Good s now d k) {p : Point} (hp : k.phase = .session p) {i : Identity}
    {csrf : String} (hfound : s.sessionOf k.request now d = some (i, csrf)) :
    Gives s k.request i now d ∧ (p ≠ .handshake → i = k.identity) := by
  obtain ⟨huser, hbacked⟩ := backed_of_sessionOf hd hfound
  refine ⟨⟨fun _ => hbacked, fun hi => absurd (huser.symm.trans hi) (by simp)⟩, ?_⟩
  intro hpoint
  have hgives : Gives s k.request k.identity now d := by
    apply h.live
    rw [hp]
    exact (live_of_point hpoint).1
  cases hguest : k.identity.guest with
  | true =>
      have hnone := (backed_dead_iff hd).mpr (hgives.2 hguest).1
      rw [hnone] at hfound
      exact absurd hfound (by simp)
  | false =>
      -- The session that has been found is of both identities.
      obtain ⟨t, ht, hrow⟩ := Option.bind_eq_some_iff.mp hfound
      obtain ⟨j, row, u, hj, htoken, -, hu, -, -⟩ := sessionIdentity_some hrow
      obtain ⟨v, hv, hi⟩ := hbacked t ht j row hj htoken
      obtain ⟨w, hw, hk⟩ := hgives.1 hguest t ht j row hj htoken
      obtain rfl := Option.some.inj (hv.symm.trans hw)
      rw [← hi, hk]

theorem gives_of_guestOf {s : AuthService} {now : Int64} {d : Database} (hd : Sound d)
    {k : Socket} (h : Good s now d k) {p : Point} (hp : k.phase = .guest p) {i : Identity}
    {csrf : String} (hfound : s.guestOf k.request now d = some (i, csrf))
    (hkept : p ≠ .handshake → k.identity.guest = true) :
    Gives s k.request i now d ∧ (p ≠ .handshake → i = k.identity) := by
  obtain ⟨hguest, hbacked⟩ := guestBacked_of_guestOf hd hfound
  by_cases hpoint : p = .handshake
  · subst hpoint
    refine ⟨⟨fun hi => absurd (hguest.symm.trans hi) (by simp), fun _ => ?_⟩, ?_⟩
    · exact ⟨h.missed hp, hbacked⟩
    · intro hne
      exact absurd rfl hne
  · have hgives : Gives s k.request k.identity now d := by
      apply h.live
      rw [hp]
      exact (live_of_point hpoint).2
    have hi : i = k.identity := by
      obtain ⟨t, ht, hrow⟩ := Option.bind_eq_some_iff.mp hfound
      obtain ⟨j, g, hj, htoken, -, -⟩ := guestIdentity_some hrow
      have hsame := hbacked t ht j g hj htoken
      have hold := (hgives.2 (hkept hpoint)).2 t ht j g hj htoken
      rw [← hsame, hold]
    refine ⟨?_, fun _ => hi⟩
    rw [hi]
    exact hgives

-- ============================================================================
-- The invariant of the system
-- ============================================================================

/-- What holds in every state. -/
structure Inv (s : AuthService) (x : System) : Prop where
  sound : Sound x.db
  good : ∀ c, Good s x.clock x.db (x.sockets c)
  tracked : ∀ c, (x.sockets c).phase.Tracked → c ∈ x.connections
  checked : AsChecked x

/-- One connection goes on. -/
theorem Inv.setSocket {s : AuthService} {x : System} (h : Inv s x) {c : Nat} {k : Socket}
    (hk : Good s x.clock x.db k) (htracked : k.phase.Tracked → c ∈ x.connections) :
    Inv s (x.setSocket c k) := by
  refine ⟨h.sound, ?_, ?_, h.checked⟩
  · intro c'
    show Good s x.clock x.db ((x.setSocket c k).sockets c')
    by_cases hc : c' = c
    · rw [hc, System.setSocket_self]
      exact hk
    · rw [System.setSocket_of_ne x k hc]
      exact h.good c'
  · intro c' hc'
    by_cases hc : c' = c
    · rw [hc, System.setSocket_self] at hc'
      rw [hc]
      exact htracked hc'
    · rw [System.setSocket_of_ne x k hc] at hc'
      exact h.tracked c' hc'

/-- A statement is carried out. -/
theorem Inv.perform {s : AuthService} {x : System} (h : Inv s x) {st : Statement}
    (hst : ∀ c, (x.sockets c).phase ≠ .session .handshake →
      Recreates s (x.sockets c).request st = false) :
    Inv s { x with db := applyStatement x.db st } :=
  ⟨sound_perform h.sound st, fun c => good_perform (hst c) (h.good c), h.tracked, h.checked⟩

theorem Inv.touch {s : AuthService} {x : System} (h : Inv s x) (r : Request) (now : Int64) :
    Inv s { x with db := s.touch r now x.db } := by
  obtain heq | ⟨token, heq⟩ := touch_eq s r now x.db
  · rw [heq]
    exact h
  · rw [heq]
    exact h.perform (fun _ _ => rfl)

/-- A connection without a lookup goes to another phase. -/
theorem Inv.move {s : AuthService} {x : System} (h : Inv s x) {c : Nat} {p : Phase}
    {closed : Bool} (hmissed : p ≠ .guest .handshake) (hlive : p.Live → (x.sockets c).phase.Live)
    (hchecked : ∀ m i, p ≠ .dispatching m i) (htracked : p.Tracked → c ∈ x.connections) :
    Inv s (x.setSocket c { x.sockets c with phase := p, closed := closed }) :=
  h.setSocket (good_move (h.good c) hmissed hlive hchecked) htracked

theorem not_live_returned : ¬Phase.returned.Live := fun h => h.2.2 rfl

theorem Inv.finish {s : AuthService} {x : System} (h : Inv s x) (c : Nat) : Inv s (x.finish c) :=
  h.move (by simp) (fun hp => absurd hp not_live_returned) (by simp)
    (fun hp => absurd hp.1 not_live_returned)

theorem Inv.fail {s : AuthService} {x : System} (h : Inv s x) (c : Nat) (p : Point) :
    Inv s (x.fail c p) := by
  cases p with
  | handshake =>
      exact h.move (by simp) (fun hp => absurd hp not_live_returned) (by simp)
        (fun hp => absurd hp.1 not_live_returned)
  | recheck => exact h.finish c
  | message m => exact h.finish c

theorem Inv.pass {s : AuthService} {x : System} (h : Inv s x) {c : Nat} {p : Point}
    {i : Identity} (hgives : Gives s (x.sockets c).request i x.clock x.db)
    (hsame : p ≠ .handshake → i = (x.sockets c).identity)
    (htracked : p ≠ .handshake → c ∈ x.connections) : Inv s (x.pass c p i) := by
  apply h.setSocket (good_pass hgives hsame)
  intro hp
  cases p with
  | handshake => exact absurd rfl hp.2
  | recheck => exact htracked (by simp)
  | message m => exact htracked (by simp)

theorem tracked_of_point {p : Point} (hp : p ≠ .handshake) :
    (Phase.session p).Tracked ∧ (Phase.guest p).Tracked :=
  ⟨⟨(live_of_point hp).1, by simp⟩, ⟨(live_of_point hp).2, by simp⟩⟩

/-- The session lookup of a connection. -/
theorem inv_session {s : AuthService} {x : System} (h : Inv s x) (c : Nat) (failed : Bool)
    (hok : ¬PassesOver s x (.session c failed)) : Inv s (x.step s (.session c failed)) := by
  rw [System.step]
  split
  · rename_i p hp
    have htracked : p ≠ .handshake → c ∈ x.connections := by
      intro hpoint
      apply h.tracked c
      rw [hp]
      exact (tracked_of_point hpoint).1
    split
    · rename_i i csrf hfound
      have htouch := h.touch (x.sockets c).request x.clock
      rw [← sessionOf_touch s _ x.clock x.clock] at hfound
      obtain ⟨hgives, hsame⟩ := gives_of_sessionOf htouch.sound (htouch.good c) hp hfound
      exact htouch.pass hgives hsame htracked
    · rename_i failed _ _ hmiss
      refine h.setSocket (good_miss h.sound (h.good c) hp ?_) ?_
      · rintro rfl
        cases hfound : s.sessionOf (x.sockets c).request x.clock x.db with
        | none => rfl
        | some i =>
            -- A failing lookup has passed over the session.
            cases failed with
            | false => exact absurd hfound (hmiss i.1 i.2 rfl)
            | true => exact absurd ⟨hp, by simp [hfound]⟩ hok
      · intro hguest
        apply htracked
        rintro rfl
        exact hguest.1.2.1 rfl
  · exact h

/-- The guest lookup of a connection. -/
theorem inv_guest {s : AuthService} {x : System} (h : Inv s x) (c : Nat) (failed : Bool)
    (hok : ¬PassesOver s x (.guest c failed)) : Inv s (x.step s (.guest c failed)) := by
  rw [System.step]
  split
  · rename_i p hp
    split
    · rename_i i csrf hfound
      have hkept : p ≠ .handshake → (x.sockets c).identity.guest = true := by
        intro hpoint
        by_contra hguest
        refine hok ⟨by simpa [hp, Phase.rechecks] using hpoint, by simpa using hguest, ?_⟩
        simp [hfound]
      obtain ⟨hgives, hsame⟩ := gives_of_guestOf h.sound (h.good c) hp hfound hkept
      refine h.pass hgives hsame ?_
      intro hpoint
      apply h.tracked c
      rw [hp]
      exact (tracked_of_point hpoint).2
    · exact h.fail c p
  · exact h

theorem Inv.forward {s : AuthService} {x : System} (h : Inv s x) {f : Forward}
    (hf : f.identity = f.checked) : Inv s { x with forwards := x.forwards ++ [f] } := by
  refine ⟨h.sound, h.good, h.tracked, ?_⟩
  intro g hg
  obtain hold | hnew := List.mem_append.mp hg
  · exact h.checked g hold
  · obtain rfl := List.mem_singleton.mp hnew
    exact hf

/-- The assumption on a step, and the condition. -/
def Ok (s : AuthService) (x : System) (l : Label) : Prop := NewTokens s x l ∧ ¬PassesOver s x l

/-- **Step.** -/
theorem inv_step {s : AuthService} (x : System) (l : Label) (h : Inv s x) (hl : Ok s x l) :
    Inv s (x.step s l) := by
  cases l with
  | session c failed => exact inv_session h c failed hl.2
  | guest c failed => exact inv_guest h c failed hl.2
  | track c =>
      rw [System.step]
      split
      · rename_i hp
        have hmore : Inv s { x with connections := c :: x.connections } :=
          ⟨h.sound, h.good, fun c' hc' => List.mem_cons_of_mem c (h.tracked c' hc'), h.checked⟩
        refine hmore.move (by simp) (fun _ => ?_) (by simp) (fun _ => List.mem_cons_self)
        show (x.sockets c).phase.Live
        rw [hp]
        exact ⟨by simp, by simp, by simp⟩
      · exact h
  | refuse c =>
      rw [System.step]
      split
      · exact h.fail c .handshake
      · exact h
  | join c ok =>
      rw [System.step]
      split
      · rename_i hp
        have hlive : (x.sockets c).phase.Tracked := by
          rw [hp]
          exact ⟨⟨by simp, by simp, by simp⟩, by simp⟩
        cases ok with
        | true => exact h.move (by simp) (fun _ => hlive.1) (by simp) (fun _ => h.tracked c hlive)
        | false => exact h.finish c
      · exact h
  | read c m =>
      rw [System.step]
      split
      · rename_i hp
        have hlive : (x.sockets c).phase.Tracked := by
          rw [hp]
          exact ⟨⟨by simp, by simp, by simp⟩, by simp⟩
        split
        · exact h
        · exact h.move (by simp) (fun _ => hlive.1) (by simp) (fun _ => h.tracked c hlive)
      · exact h
  | dispatch c =>
      rw [System.step]
      split
      · rename_i m checked hp
        have hlive : (x.sockets c).phase.Tracked := by
          rw [hp]
          exact ⟨⟨by simp, by simp, by simp⟩, by simp⟩
        have hmove : Inv s (x.move c .reading) :=
          h.move (by simp) (fun _ => hlive.1) (by simp) (fun _ => h.tracked c hlive)
        split
        · apply hmove.forward
          exact ((h.good c).checked m checked hp).symm
        · exact hmove
      · exact h
  | hangUp c =>
      rw [System.step]
      split
      · exact h.finish c
      · exact h
  | untrack c =>
      rw [System.step]
      split
      · rename_i hp
        refine ⟨h.sound, h.good, ?_, h.checked⟩
        intro c' hc'
        have hne : c' ≠ c := by
          rintro rfl
          exact not_live_returned (hp ▸ hc'.1)
        exact List.mem_filter.mpr ⟨h.tracked c' hc', by simpa using hne⟩
      · exact h
  | statement st => exact h.perform (hl.1 st rfl)
  | tick t =>
      exact ⟨h.sound, fun c => good_later (le_max x.clock t) (h.good c), h.tracked, h.checked⟩
  | revokeScan id => exact ⟨h.sound, h.good, h.tracked, h.checked⟩
  | revokeClose c =>
      rw [System.step]
      split
      · have hclosed : Inv s (x.setSocket c { x.sockets c with closed := true }) :=
          h.setSocket ⟨(h.good c).missed, (h.good c).live, (h.good c).checked⟩ (h.tracked c)
        exact ⟨hclosed.sound, hclosed.good, hclosed.tracked, hclosed.checked⟩
      · exact h

theorem inv_start {s : AuthService} {d : Database} (hd : Sound d) (clock : Int64)
    (requests : Nat → Request × String) : Inv s (start d clock requests) := by
  refine ⟨hd, ?_, ?_, ?_⟩
  · intro c
    exact ⟨fun hp => absurd hp (by simp [start]), fun hp => absurd rfl hp.1,
      fun m i hp => absurd hp (by simp [start])⟩
  · intro c hc
    exact absurd rfl hc.1.1
  · intro f hf
    exact absurd hf List.not_mem_nil

-- ============================================================================
-- Connections that a RevokeUser ends
-- ============================================================================

/-- The first `Authenticate` of the connection has returned. -/
def Phase.Past (p : Phase) : Prop := p ≠ .session .handshake ∧ p ≠ .guest .handshake

/-- What a step leaves of a connection. -/
structure Kept (k k' : Socket) : Prop where
  request : k'.request = k.request
  identity : k.phase.Past → k'.identity = k.identity ∧ k'.phase.Past
  closed : k.closed = true → k'.closed = true
  returned : k.phase = .returned → k'.phase = .returned

theorem Kept.refl (k : Socket) : Kept k k := ⟨rfl, fun h => ⟨rfl, h⟩, id, id⟩

theorem kept_setSocket {x : System} {c : Nat} {k : Socket} (h : Kept (x.sockets c) k) (c' : Nat) :
    Kept (x.sockets c') ((x.setSocket c k).sockets c') := by
  by_cases hc : c' = c
  · rw [hc, System.setSocket_self]
    exact h
  · rw [System.setSocket_of_ne x k hc]
    exact .refl _

/-- A connection that has not returned goes to another phase. -/
theorem kept_move {k : Socket} {p : Phase} {closed : Bool} (hreturned : k.phase ≠ .returned)
    (hpast : k.phase.Past → p.Past) (hclosed : k.closed = true → closed = true) :
    Kept k { k with phase := p, closed := closed } :=
  ⟨rfl, fun h => ⟨rfl, hpast h⟩, hclosed, fun h => absurd h hreturned⟩

theorem past_passed (p : Point) (i : Identity) : (p.passed i).Past := by
  cases p <;> exact ⟨by simp [Point.passed], by simp [Point.passed]⟩

/-- `Authenticate` returns an identity: the connection keeps the one it has. -/
theorem kept_pass {k : Socket} {p : Point} {i : Identity} (hreturned : k.phase ≠ .returned)
    (hpoint : k.phase.Past → p ≠ .handshake) :
    Kept k { k with phase := p.passed i, identity := if p = .handshake then i else k.identity } :=
  ⟨rfl, fun h => ⟨if_neg (hpoint h), past_passed p i⟩, id, fun h => absurd h hreturned⟩

theorem kept_return {k : Socket} {closed : Bool} (hclosed : k.closed = true → closed = true) :
    Kept k { k with phase := .returned, closed := closed } :=
  ⟨rfl, fun _ => ⟨rfl, by simp, by simp⟩, hclosed, fun _ => rfl⟩

theorem kept_finish {x : System} {c : Nat} (c' : Nat) :
    Kept (x.sockets c') ((x.finish c).sockets c') := by
  rw [System.finish]
  exact kept_setSocket (kept_return (fun _ => rfl)) c'

theorem kept_fail {x : System} {c : Nat} (p : Point) (c' : Nat) :
    Kept (x.sockets c') ((x.fail c p).sockets c') := by
  cases p with
  | handshake =>
      rw [System.fail, System.move]
      exact kept_setSocket (kept_return id) c'
  | recheck => exact kept_finish c'
  | message m => exact kept_finish c'

theorem kept_step (s : AuthService) (x : System) (l : Label) (c' : Nat) :
    Kept (x.sockets c') ((x.step s l).sockets c') := by
  cases l with
  | session c failed =>
      rw [System.step]
      split
      · rename_i p hp
        have hpoint : (x.sockets c).phase.Past → p ≠ .handshake := by
          rintro hpast rfl
          exact hpast.1 hp
        split
        · exact kept_setSocket (kept_pass (by simp [hp]) hpoint) c'
        · refine kept_setSocket (kept_move (by simp [hp]) (fun hpast => ?_) id) c'
          exact ⟨by simp, by simpa using hpoint hpast⟩
      · exact .refl _
  | guest c failed =>
      rw [System.step]
      split
      · rename_i p hp
        have hpoint : (x.sockets c).phase.Past → p ≠ .handshake := by
          rintro hpast rfl
          exact hpast.2 hp
        split
        · exact kept_setSocket (kept_pass (by simp [hp]) hpoint) c'
        · exact kept_fail p c'
      · exact .refl _
  | track c =>
      rw [System.step]
      split
      · rename_i hp
        exact kept_setSocket (kept_move (by simp [hp]) (by simp [Phase.Past]) id) c'
      · exact .refl _
  | refuse c =>
      rw [System.step]
      split
      · exact kept_fail .handshake c'
      · exact .refl _
  | join c ok =>
      rw [System.step]
      split
      · rename_i hp
        cases ok with
        | true => exact kept_setSocket (kept_move (by simp [hp]) (by simp [Phase.Past]) id) c'
        | false => exact kept_finish c'
      · exact .refl _
  | read c m =>
      rw [System.step]
      split
      · rename_i hp
        split
        · exact .refl _
        · exact kept_setSocket (kept_move (by simp [hp]) (by simp [Phase.Past]) id) c'
      · exact .refl _
  | dispatch c =>
      rw [System.step]
      split
      · rename_i m checked hp
        exact kept_setSocket (kept_move (by simp [hp]) (by simp [Phase.Past]) id) c'
      · exact .refl _
  | hangUp c =>
      rw [System.step]
      split
      · exact kept_finish c'
      · exact .refl _
  | untrack c =>
      rw [System.step]
      split <;> exact .refl _
  | statement st => exact .refl _
  | tick t => exact .refl _
  | revokeScan id => exact .refl _
  | revokeClose c =>
      rw [System.step]
      split
      · have hclosed : Kept (x.sockets c) { x.sockets c with closed := true } :=
          ⟨rfl, fun h => ⟨rfl, h⟩, fun _ => rfl, id⟩
        exact kept_setSocket hclosed c'
      · exact .refl _

/-- A step carries out at most one statement. -/
theorem step_db (s : AuthService) (x : System) (l : Label) :
    (x.step s l).db = x.db ∨
      ∃ st, (x.step s l).db = applyStatement x.db st ∧
        (l = .statement st ∨ ∃ h now, st = .touchSession h now) := by
  cases l with
  | session c failed =>
      rw [System.step]
      split
      · split
        · obtain heq | ⟨token, heq⟩ := touch_eq s (x.sockets c).request x.clock x.db
          · exact .inl heq
          · exact .inr ⟨_, heq, .inr ⟨token, x.clock, rfl⟩⟩
        · exact .inl rfl
      · exact .inl rfl
  | statement st => exact .inr ⟨st, rfl, .inl rfl⟩
  | guest c failed =>
      rw [System.step]
      split
      · split
        · exact .inl rfl
        · rename_i p _ _ _ _ _
          cases p <;> exact .inl rfl
      · exact .inl rfl
  | track c | refuse c | dispatch c | hangUp c | untrack c =>
      rw [System.step]
      split <;> exact .inl rfl
  | join c ok =>
      rw [System.step]
      split
      · cases ok <;> exact .inl rfl
      · exact .inl rfl
  | read c m =>
      rw [System.step]
      split
      · split <;> exact .inl rfl
      · exact .inl rfl
  | revokeClose c =>
      rw [System.step]
      split <;> exact .inl rfl
  | tick t => exact .inl rfl
  | revokeScan id => exact .inl rfl

/-- No session has the token of the request. -/
abbrev Gone (s : AuthService) (r : Request) (d : Database) : Prop :=
  Backed s r (fun _ _ => False) d

/-- A session of a connection that is gone stays gone. -/
theorem gone_step {s : AuthService} {x : System} {l : Label} {c : Nat} (hl : NewTokens s x l)
    (hpast : (x.sockets c).phase.Past) (hgone : Gone s (x.sockets c).request x.db) :
    Gone s ((x.step s l).sockets c).request (x.step s l).db := by
  rw [(kept_step s x l c).request]
  obtain heq | ⟨st, heq, hst⟩ := step_db s x l
  · rw [heq]
    exact hgone
  · rw [heq]
    have hnew : Recreates s (x.sockets c).request st = false := by
      obtain rfl | ⟨h, now, rfl⟩ := hst
      · exact hl st rfl c hpast.1
      · rfl
    exact backed_perform (fun _ _ _ hfalse => hfalse) hnew hgone

theorem toClose_fail (x : System) (c : Nat) (p : Point) : (x.fail c p).toClose = x.toClose := by
  cases p <;> rfl

/-- A connection that is to be closed is closed by the step, or still to be closed. -/
theorem toClose_step {s : AuthService} {x : System} {l : Label} {c : Nat} (h : c ∈ x.toClose) :
    c ∈ (x.step s l).toClose ∨ ((x.step s l).sockets c).closed = true := by
  cases l with
  | revokeScan id => exact .inl (List.mem_append_left _ h)
  | revokeClose c' =>
      rw [System.step]
      split
      · by_cases hc : c = c'
        · refine .inr ?_
          rw [← hc]
          show ((x.setSocket c _).sockets c).closed = true
          rw [System.setSocket_self]
        · exact .inl ((List.mem_erase_of_ne hc).mpr h)
      · exact .inl h
  | session c' failed =>
      rw [System.step]
      split
      · split <;> exact .inl h
      · exact .inl h
  | guest c' failed =>
      rw [System.step]
      split
      · split
        · exact .inl h
        · rw [toClose_fail]
          exact .inl h
      · exact .inl h
  | join c' ok =>
      rw [System.step]
      split
      · cases ok <;> exact .inl h
      · exact .inl h
  | read c' m =>
      rw [System.step]
      split
      · split <;> exact .inl h
      · exact .inl h
  | track c' | refuse c' | dispatch c' | hangUp c' | untrack c' =>
      rw [System.step]
      split <;> exact .inl h
  | statement st => exact .inl h
  | tick t => exact .inl h

/-- The connection whose goroutine takes the step. -/
def Label.mover : Label → Option Nat
  | .session c _ | .guest c _ | .track c | .refuse c | .join c _ | .read c _ | .dispatch c
  | .hangUp c | .untrack c => some c
  | _ => none

theorem phase_step_of_ne {s : AuthService} {x : System} {l : Label} {c : Nat}
    (hl : l.mover ≠ some c) : ((x.step s l).sockets c).phase = (x.sockets c).phase := by
  have hset : ∀ (y : System) c' k, some c' ≠ some c →
      ((y.setSocket c' k).sockets c).phase = (y.sockets c).phase := by
    intro y c' k hne
    rw [System.setSocket_of_ne y k (fun heq => hne (congrArg some heq.symm))]
  cases l with
  | session c' failed =>
      rw [System.step]
      split
      · split
        · exact hset _ c' _ hl
        · exact hset x c' _ hl
      · rfl
  | guest c' failed =>
      rw [System.step]
      split
      · rename_i p hp
        split
        · exact hset x c' _ hl
        · cases p <;> exact hset x c' _ hl
      · rfl
  | join c' ok =>
      rw [System.step]
      split
      · cases ok <;> exact hset x c' _ hl
      · rfl
  | read c' m =>
      rw [System.step]
      split
      · split
        · rfl
        · exact hset x c' _ hl
      · rfl
  | track c' | refuse c' | dispatch c' | hangUp c' =>
      rw [System.step]
      split
      · exact hset x c' _ hl
      · rfl
  | untrack c' =>
      rw [System.step]
      split <;> rfl
  | revokeClose c' =>
      rw [System.step]
      split
      · show ((x.setSocket c' _).sockets c).phase = _
        by_cases hc : c = c'
        · rw [hc, System.setSocket_self]
        · rw [System.setSocket_of_ne x _ hc]
      · rfl
  | statement st => rfl
  | tick t => rfl
  | revokeScan id => rfl

/-- The handshake of a connection whose session is gone ends with its return. -/
theorem handshake_step {s : AuthService} {x : System} {l : Label} {c : Nat}
    (hl : ¬PassesOver s x l) (huser : (x.sockets c).identity.guest = false)
    (hgone : Gone s (x.sockets c).request x.db) (h : (x.sockets c).phase.Handshaking) :
    ((x.step s l).sockets c).phase = .returned ∨
      ((x.step s l).sockets c).phase.Handshaking := by
  by_cases hmover : l.mover = some c
  · obtain hp | hp | hp := h
    · -- Only `track` and `refuse` go on from here.
      cases l with
      | track c' =>
          obtain rfl := Option.some.inj hmover
          simp [System.step, hp, System.move, Phase.Handshaking]
      | refuse c' =>
          obtain rfl := Option.some.inj hmover
          simp [System.step, hp, System.move]
      | _ => simp_all [System.step, Label.mover, Phase.Handshaking]
    · cases l with
      | session c' failed =>
          obtain rfl := Option.some.inj hmover
          have hnone : s.sessionOf (x.sockets c').request x.clock x.db = none := by
            cases hfound : s.sessionOf (x.sockets c').request x.clock x.db with
            | none => rfl
            | some i =>
                obtain ⟨t, ht, hrow⟩ := Option.bind_eq_some_iff.mp hfound
                obtain ⟨j, row, u, hj, htoken, -⟩ := sessionIdentity_some hrow
                obtain ⟨v, -, hfalse⟩ := hgone t ht j row hj htoken
                exact hfalse.elim
          simp [System.step, hp, hnone, System.move, Phase.Handshaking]
      | _ => simp_all [System.step, Label.mover, Phase.Handshaking]
    · cases l with
      | guest c' failed =>
          obtain rfl := Option.some.inj hmover
          refine .inl ?_
          cases failed with
          | true => simp [System.step, hp, System.fail, System.finish]
          | false =>
              have hnone : s.guestOf (x.sockets c').request x.clock x.db = none := by
                by_contra hfound
                exact hl ⟨by simp [hp, Phase.rechecks], huser, hfound⟩
              simp [System.step, hp, hnone, System.fail, System.finish]
      | _ => simp_all [System.step, Label.mover, Phase.Handshaking]
  · rw [phase_step_of_ne hmover]
    exact .inr h

/-- The connection of the user has returned, or its session is gone. -/
structure Cut (s : AuthService) (x : System) (c : Nat) (id : String) : Prop where
  user : AuthenticatedAs x c id
  gone : (x.sockets c).phase = .returned ∨ Gone s (x.sockets c).request x.db

/-- The connection of the user is on its way to its end. -/
structure Ending (s : AuthService) (x : System) (c : Nat) (id : String) : Prop where
  user : AuthenticatedAs x c id
  ends : (x.sockets c).closed = true ∨ (x.sockets c).phase = .returned ∨ c ∈ x.toClose ∨
    ((x.sockets c).phase.Handshaking ∧ Gone s (x.sockets c).request x.db)

theorem authenticatedAs_step {s : AuthService} {x : System} {c : Nat} {id : String}
    (h : AuthenticatedAs x c id) (l : Label) : AuthenticatedAs (x.step s l) c id := by
  obtain ⟨hid, hguest, hpast⟩ := h
  obtain ⟨hidentity, hpast'⟩ := (kept_step s x l c).identity hpast
  rw [AuthenticatedAs, hidentity]
  exact ⟨hid, hguest, hpast'⟩

theorem cut_step {s : AuthService} {c : Nat} {id : String} (x : System) (l : Label)
    (h : Cut s x c id) (hl : NewTokens s x l) : Cut s (x.step s l) c id := by
  refine ⟨authenticatedAs_step h.user l, ?_⟩
  obtain hreturned | hgone := h.gone
  · exact .inl ((kept_step s x l c).returned hreturned)
  · exact .inr (gone_step hl h.user.2.2 hgone)

theorem ending_step {s : AuthService} {c : Nat} {id : String} (x : System) (l : Label)
    (h : Ending s x c id) (hl : Ok s x l) : Ending s (x.step s l) c id := by
  refine ⟨authenticatedAs_step h.user l, ?_⟩
  have hkept := kept_step s x l c
  obtain hclosed | hreturned | hclose | ⟨hhand, hgone⟩ := h.ends
  · exact .inl (hkept.closed hclosed)
  · exact .inr (.inl (hkept.returned hreturned))
  · obtain hclose' | hclosed := toClose_step (s := s) (l := l) hclose
    · exact .inr (.inr (.inl hclose'))
    · exact .inl hclosed
  · have hgone' := gone_step hl.1 h.user.2.2 hgone
    obtain hreturned | hhand' := handshake_step hl.2 h.user.2.1 hgone hhand
    · exact .inr (.inl hreturned)
    · exact .inr (.inr (.inr ⟨hhand', hgone'⟩))

/-- `UpdateUser` cuts the connections of the user. -/
theorem cut_update {s : AuthService} {x : System} (hx : Inv s x) {c : Nat} {id : String}
    (huser : AuthenticatedAs x c id) {username nickname hash : String} {disabled : Bool}
    {now : Int64}
    (hok : (x.db.updateUser id username nickname hash disabled now).1 = .ok ()) :
    Cut s (x.step s (.statement (.updateUser id username nickname hash disabled now))) c id := by
  refine ⟨authenticatedAs_step huser _, ?_⟩
  by_cases hreturned : (x.sockets c).phase = .returned
  · exact .inl hreturned
  refine .inr ?_
  show Gone s (x.sockets c).request (x.db.updateUser id username nickname hash disabled now).2
  have hbacked := ((hx.good c).live ⟨huser.2.2.1, huser.2.2.2, hreturned⟩).1 huser.2.1
  obtain ⟨u, -, -, -, hrow⟩ | ⟨e, herr⟩ :=
    Database.updateUser_cases id username nickname hash disabled now x.db
  · rw [hrow]
    intro t ht k row hrow' htoken
    obtain ⟨hold, hother⟩ := Option.filter_eq_some_iff.mp
      ((AList.lookup_restrict _ _ k).symm.trans hrow')
    obtain ⟨v, -, hidentity⟩ := hbacked t ht k row hold htoken
    have howner : row.userID = id := (congrArg Identity.id hidentity).trans huser.1
    exact absurd howner (by simpa using hother)
  · rw [herr] at hok
    exact absurd hok (by simp)

/-- `RevokeUser` finds every connection of the user that is past its handshake. -/
theorem ending_scan {s : AuthService} {x : System} (hx : Inv s x) {c : Nat} {id : String}
    (h : Cut s x c id) : Ending s (x.step s (.revokeScan id)) c id := by
  refine ⟨authenticatedAs_step h.user _, ?_⟩
  obtain hreturned | hgone := h.gone
  · exact .inr (.inl hreturned)
  by_cases hreturned : (x.sockets c).phase = .returned
  · exact .inr (.inl hreturned)
  by_cases hadmitted : (x.sockets c).phase = .admitted
  · exact .inr (.inr (.inr ⟨.inl hadmitted, hgone⟩))
  -- The connection is tracked, so it is collected.
  have hlive : (x.sockets c).phase.Live := ⟨h.user.2.2.1, h.user.2.2.2, hreturned⟩
  have hfound : x.revokes id c = true := by
    rw [System.revokes, h.user.1, h.user.2.1]
    simp
  refine .inr (.inr (.inl (List.mem_append_right _ ?_)))
  exact List.mem_filter.mpr ⟨hx.tracked c ⟨hlive, hadmitted⟩, hfound⟩

/-- **Identity of a connection.**  While no live cookie is passed over or falls back, every
    message is executed under the identity its check has returned, and a connection of a
    user that a finished `UpdateUser` and the scan of the `RevokeUser` after it have met is
    closed, about to be closed, or never leaves its handshake otherwise. -/
theorem socket_identity (s : AuthService) (d : Database) (hd : Sound d) (clock : Int64)
    (requests : Nat → Request × String) (ls : List Label)
    (hnew : EachStep (System.step s) (NewTokens s) (start d clock requests) ls)
    (hkept : EachStep (System.step s) (fun x l => ¬PassesOver s x l) (start d clock requests) ls) :
    AsChecked (run (System.step s) (start d clock requests) ls) ∧
    ∀ pre mid post c id username nickname hash disabled now,
      ls = pre ++ .statement (.updateUser id username nickname hash disabled now) ::
        (mid ++ .revokeScan id :: post) →
      ((run (System.step s) (start d clock requests) pre).db.updateUser
        id username nickname hash disabled now).1 = .ok () →
      AuthenticatedAs (run (System.step s) (start d clock requests) pre) c id →
      EndsClosed (run (System.step s) (start d clock requests) ls) c := by
  have hok : EachStep (System.step s) (Ok s) (start d clock requests) ls := by
    intro pre l post hls
    exact ⟨hnew pre l post hls, hkept pre l post hls⟩
  have hinit : Inv s (start d clock requests) := inv_start hd clock requests
  refine ⟨(run_invariant (fun x l => inv_step x l) hinit hok).checked, ?_⟩
  intro pre mid post c id username nickname hash disabled now hls hupdate huser
  subst hls
  obtain ⟨hpre, hrest⟩ := eachStep_append.mp hok
  obtain ⟨hstatement, hrest⟩ := eachStep_cons.mp hrest
  obtain ⟨hmid, hrest⟩ := eachStep_append.mp hrest
  obtain ⟨-, hpost⟩ := eachStep_cons.mp hrest
  have hinv := run_invariant (fun x l => inv_step x l) hinit hpre
  have hcut := cut_update hinv huser hupdate
  have hstep : ∀ x l, Cut s x c id → Ok s x l → Cut s (x.step s l) c id :=
    fun x l hx hl => cut_step x l hx hl.1
  have hcut' := run_invariant hstep hcut hmid
  have hinv' := run_invariant (fun x l => inv_step x l) (inv_step _ _ hinv hstatement) hmid
  have hend := run_invariant (fun x l => ending_step x l) (ending_scan hinv' hcut') hpost
  rw [run_append, run_cons, run_append, run_cons]
  obtain hclosed | hreturned | hclose | ⟨hhand, -⟩ := hend.ends
  · exact .inl hclosed
  · exact .inr (.inl hreturned)
  · exact .inr (.inr (.inl hclose))
  · exact .inr (.inr (.inr hhand))

-- ============================================================================
-- Two connections
-- ============================================================================

theorem bothDB_sound : Sound bothDB := by
  have hsession : ∀ k row, bothDB.sessions.lookup k = some row → k = "s" ∧ row.userID = "u" := by
    intro k row hrow
    obtain ⟨rfl, rfl⟩ | ⟨-, hold⟩ := AList.lookup_insert_iff.mp hrow
    · exact ⟨rfl, rfl⟩
    · exact absurd hold (AList.lookup_ne_of_empty rfl k row)
  have hguest : ∀ k g, bothDB.guestSessions.lookup k = some g → k = "g" := by
    intro k g hg
    obtain ⟨rfl, -⟩ | ⟨-, hold⟩ := AList.lookup_insert_iff.mp hg
    · rfl
    · exact absurd hold (AList.lookup_ne_of_empty rfl k g)
  refine ⟨⟨?_, ?_⟩, ?_⟩
  · intro k k' row row' hrow hrow' _
    exact (hsession k row hrow).1.trans (hsession k' row' hrow').1.symm
  · intro k k' g g' hg hg' _
    exact (hguest k g hg).trans (hguest k' g' hg').symm
  · intro k row hrow
    rw [(hsession k row hrow).2]
    decide

/-- `UpdateUser` of the user of `bothDB`. -/
def edit : Statement := .updateUser "u" "alice" "Alicia" "" false 20

/-- The user is edited, and revoked, before the connection is tracked. -/
def overlappedHandshake : List Label :=
  [.session 0 false] ++ .statement edit :: ([] ++ .revokeScan "u" ::
    [.track 0, .session 0 false, .guest 0 false])

theorem newTokens_of_plain {s : AuthService} {x : System} {l : Label}
    (hl : ∀ st, l = .statement st → st.newSession = none ∧ st.newGuestSession = none) :
    NewTokens s x l := by
  intro st hst c _
  obtain ⟨hsession, hguest⟩ := hl st hst
  rw [Recreates, hsession, hguest]
  rfl

theorem socket_identity_overlapped :
    EndsClosed (run (System.step plainAuth) (start bothDB 10 (fun _ => (sessionRequest, "r")))
      overlappedHandshake) 0 := by
  have hnew : EachStep (System.step plainAuth) (NewTokens plainAuth)
      (start bothDB 10 (fun _ => (sessionRequest, "r"))) overlappedHandshake := by
    intro pre l post hls
    apply newTokens_of_plain
    rintro st rfl
    have hmem : Label.statement st ∈ overlappedHandshake := by
      rw [hls]
      simp
    obtain rfl : st = edit := by simpa [overlappedHandshake] using hmem
    exact ⟨rfl, rfl⟩
  have hboth := socket_identity plainAuth bothDB bothDB_sound 10 (fun _ => (sessionRequest, "r"))
    overlappedHandshake hnew (by decide)
  refine hboth.2 [.session 0 false] [] _ 0 "u" "alice" "Alicia" "" false 20 rfl (by decide) ?_
  rw [AuthenticatedAs]
  decide

/-- A message of the chat. -/
def hello : Inbound := ⟨1, "chat.send", "", true⟩

/-- A request with both cookies.  In the first run the user is logged out before a message;
    in the second `UpdateUser` and `RevokeUser` fall into the handshake. -/
theorem guest_cookie_keeps_socket :
    ¬AsChecked (run (System.step plainAuth) (start bothDB 10 (fun _ => (bothRequest, "r")))
      [.session 0 false, .track 0, .session 0 false, .join 0 true,
        .statement (.deleteSession "#t"), .read 0 hello, .session 0 false, .guest 0 false,
        .dispatch 0]) ∧
    ((run (System.step plainAuth) (start bothDB 10 (fun _ => (bothRequest, "r")))
        [.session 0 false]).db.updateUser "u" "alice" "Alicia" "" false 20).1 = .ok () ∧
    AuthenticatedAs (run (System.step plainAuth) (start bothDB 10 (fun _ => (bothRequest, "r")))
      [.session 0 false]) 0 "u" ∧
    ¬EndsClosed (run (System.step plainAuth) (start bothDB 10 (fun _ => (bothRequest, "r")))
      (overlappedHandshake ++ [.join 0 true])) 0 := by
  refine ⟨?_, by decide, ?_, ?_⟩
  · rw [AsChecked]
    decide
  · rw [AuthenticatedAs]
    decide
  · rw [EndsClosed, Phase.Handshaking]
    decide

end WatchTogether.Realtime.Revocation

/-
  WatchTogether.Accounts.Logout

  What a logout leaves of the credentials that the request carried.  `Logout` deletes the
  session of the session cookie; the guest cookie, which `Authenticate` falls back to, is
  cleared in the browser only.
-/

import WatchTogether.Accounts.Credentials
import WatchTogether.Accounts.SuperAdmin

namespace WatchTogether.Accounts

open LabelledRun Repository
open Rooms (StoreError)
open Uploads (Response)

/-- The request authenticates in no state that is reached without a new session for one of
    its tokens. -/
def LoggedOut (s : AuthService) (r : Request) (now : Int64) (d : Database) : Prop :=
  ∀ later now', (∀ st ∈ later, Recreates s r st = false) → now ≤ now' →
    s.authenticate r now' (run applyStatement d later) = none

/-- Credentials that are dead stay dead. -/
theorem loggedOut_of_dead {s : AuthService} {r : Request} {now : Int64} {d : Database}
    (hsession : ∀ t, r.session = some t → SessionGone (s.tokenHash t) d)
    (hguest : ∀ t, r.guest = some t → GuestExpired (s.tokenHash t) now d) :
    LoggedOut s r now d := by
  intro later now' hlater hnow
  have hsteps : EachStep applyStatement (fun _ st => Recreates s r st = false) d later :=
    eachStep_of_forall hlater
  have hno : s.sessionOf r now' (run applyStatement d later) = none := by
    cases ht : r.session with
    | none => rw [AuthService.sessionOf, ht, Option.bind_none]
    | some t =>
        have hgone : SessionGone (s.tokenHash t) (run applyStatement d later) :=
          run_invariant (fun d st hd hst => sessionGone_perform ht hst hd) (hsession t ht) hsteps
        rw [AuthService.sessionOf, ht, Option.bind_some]
        exact sessionIdentity_none (fun k row hrow htoken => absurd htoken (hgone k row hrow))
  rw [AuthService.authenticate, hno]
  show s.guestOf r now' _ = none
  cases ht : r.guest with
  | none => rw [AuthService.guestOf, ht, Option.bind_none]
  | some t =>
      have hdead : GuestExpired (s.tokenHash t) now (run applyStatement d later) :=
        run_invariant (fun d st hd hst => guestExpired_perform ht hst hd) (hguest t ht) hsteps
      rw [AuthService.guestOf, ht, Option.bind_some, guestIdentity_none_iff]
      intro k g hg htoken hlive
      exact hdead k g hg htoken (Int64.lt_of_le_of_lt hnow hlive)

theorem sessionOf_touch (s : AuthService) (r : Request) (now seen : Int64) (d : Database) :
    s.sessionOf r now (s.touch r seen d) = s.sessionOf r now d := by
  rw [AuthService.touch]
  split
  · rename_i token _ ht _
    rw [AuthService.sessionOf, AuthService.sessionOf, ht, Option.bind_some, Option.bind_some,
      sessionIdentity_touchSession]
  · rfl

theorem touch_guestSessions (s : AuthService) (r : Request) (now : Int64) (d : Database) :
    (s.touch r now d).guestSessions = d.guestSessions := by
  rw [AuthService.touch]
  split <;> rfl

theorem logout_guestSessions (s : AuthService) (r : Request) (fault : Option StoreError)
    (d : Database) : (s.logout r fault d).2.guestSessions = d.guestSessions := by
  rw [AuthService.logout]
  split
  · rfl
  · cases fault <;> rfl

/-- The guest cookie reads `guest_sessions` only. -/
theorem guestOf_congr (s : AuthService) (r : Request) (now : Int64) {d d' : Database}
    (h : d'.guestSessions = d.guestSessions) : s.guestOf r now d' = s.guestOf r now d := by
  rw [AuthService.guestOf, AuthService.guestOf]
  cases r.guest with
  | none => rfl
  | some t =>
      rw [Option.bind_some, Option.bind_some, Database.guestIdentity, Database.guestIdentity, h]

/-- An accepted logout comes from an authenticated request, and answers whatever `Logout`
    returns. -/
theorem logout_ok {s : Server} {r : Request} {now : Int64} {fault : Option StoreError}
    {d : Database} (hok : (s.logout r now fault d).1 = .ok) :
    s.auth.authenticate r now d ≠ none ∧
    (s.logout r now fault d).2 = (s.auth.logout r fault (s.auth.touch r now d)).2 := by
  rw [Server.logout] at hok ⊢
  cases hidentity : s.identity r true now d with
  | ok i =>
      refine ⟨?_, rfl⟩
      intro hnone
      rw [Server.identity, hnone] at hidentity
      exact absurd hidentity (by simp)
  | error response =>
      -- The two errors of `identity` are no success.
      rw [hidentity] at hok
      rw [Server.identity] at hidentity
      split at hidentity
      · obtain rfl := Except.error.inj hidentity
        exact absurd hok (by simp [Response.ok])
      · split at hidentity
        · obtain rfl := Except.error.inj hidentity
          exact absurd hok (by simp [Response.ok])
        · exact absurd hidentity (by simp)

/-- **Logout.**  After an accepted logout the request authenticates never again exactly if
    its guest cookie was absent or dead and the session was deleted without an error. -/
theorem logout_ends_iff (s : Server) (r : Request) (now : Int64) (fault : Option StoreError)
    (d : Database) (hok : (s.logout r now fault d).1 = .ok) :
    LoggedOut s.auth r now (s.logout r now fault d).2 ↔
      s.auth.guestOf r now d = none ∧ fault = none := by
  obtain ⟨hidentity, hleft⟩ := logout_ok hok
  rw [hleft]
  have hguests : s.auth.guestOf r now (s.auth.logout r fault (s.auth.touch r now d)).2
      = s.auth.guestOf r now d := by
    apply guestOf_congr
    rw [logout_guestSessions, touch_guestSessions]
  constructor
  · intro hout
    have hnow := hout [] now (by simp) (Int64.le_refl now)
    rw [run_nil, AuthService.authenticate] at hnow
    split at hnow
    · exact absurd hnow (by simp)
    rename_i hsession
    rw [hguests] at hnow
    refine ⟨hnow, ?_⟩
    -- The request was authenticated by its session, which a failed delete leaves.
    cases fault with
    | none => rfl
    | some e =>
        rw [AuthService.authenticate, hnow] at hidentity
        have hkept : (s.auth.logout r (some e) (s.auth.touch r now d)).2 = s.auth.touch r now d := by
          rw [AuthService.logout]
          split <;> rfl
        rw [hkept, sessionOf_touch] at hsession
        rw [hsession] at hidentity
        exact absurd rfl hidentity
  · rintro ⟨hguest, rfl⟩
    apply loggedOut_of_dead
    · intro t ht k row hrow
      rw [AuthService.logout, ht] at hrow
      have hkept := (AList.lookup_restrict _ _ k).symm.trans hrow
      simpa using (Option.filter_eq_some_iff.mp hkept).2
    · intro t ht
      rw [← hguests, AuthService.guestOf, ht, Option.bind_some, guestIdentity_none_iff] at hguest
      exact hguest

/-- A server that only knows one origin. -/
def plainServer : Server := ⟨plainAuth, ["https://example.test"], fun _ _ => false⟩

/-- A room, a user's session and a guest session. -/
def bothDB : Database :=
  { Database.empty with
    users := (∅ : KeyedTable String AccountRow).insert "u"
      ⟨"alice", "h", "Alice", 0, 0, .USER, false⟩
    sessions := (∅ : KeyedTable String SessionRow).insert "s"
      ⟨"u", "#t", "#c", 100, 0, 0, "", ""⟩
    guestSessions := (∅ : KeyedTable String GuestRow).insert "g"
      ⟨"r", "Guest", "#g", "#c", 100, 0⟩ }

/-- A request with the session cookie, and a guest cookie besides. -/
def bothRequest : Request :=
  ⟨some "t", some "g", some "c", "c", "https://example.test", "example.test"⟩

/-- The request without the guest's cookie. -/
def sessionRequest : Request := { bothRequest with guest := none }

theorem logout_ends_session :
    LoggedOut plainServer.auth sessionRequest 10
      (plainServer.logout sessionRequest 10 none bothDB).2 :=
  (logout_ends_iff plainServer sessionRequest 10 none bothDB (by decide)).mpr ⟨rfl, rfl⟩

/-- The guest cookie authenticates after the logout. -/
theorem logout_keeps_guest :
    (plainServer.logout bothRequest 10 none bothDB).1 = .ok ∧
    ¬LoggedOut plainServer.auth bothRequest 10
      (plainServer.logout bothRequest 10 none bothDB).2 := by
  refine ⟨by decide, ?_⟩
  intro hout
  have hnow := hout [] 10 (by simp) (by decide)
  exact absurd hnow (by decide)

end WatchTogether.Accounts

/-
  WatchTogether.Accounts.Sessions

  Logins beside edits and deletions of accounts.  A login reads the user's row, verifies
  the password against its hash outside of any transaction, and inserts the session only
  while the user is enabled and has that hash; an edit deletes the user's sessions with the
  change of the row.  So the row of a user is the same from the creation of a session on,
  as long as the session is there.
-/

import WatchTogether.Lib.CallLog
import WatchTogether.Accounts.SuperAdmin

namespace WatchTogether.Accounts

open LabelledRun Repository
open Rooms (StoreError)

-- ============================================================================
-- Runs
-- ============================================================================

/-- A statement that inserts no session. -/
abbrev Sessionless : Type := { st : Statement // st.newSession = none }

/-- Logins, on a database that everybody else writes. -/
abbrev Logins : Type := Pool LoginRequest Call Call.Answer Database

/-- A call of a login, the start of one, or a statement that opens no session. -/
abbrev Logins.Step : Type := Pool.Move LoginRequest (Option StoreError) Sessionless

/-- `Login`, whose result nobody waits for. -/
def Logins.code (s : AuthService) (t : LoginRequest) : Code Unit := (login s t).void

/-- What other code writes. -/
def Logins.write (st : Sessionless) (d : Database) : Database := (st.1.perform d).2

/-- One step of the logins. -/
def Logins.step (s : AuthService) (p : Logins) (l : Logins.Step) : Logins :=
  Pool.step (Logins.code s) (exec s) Logins.write p l

/-- The database and the logins after a run. -/
def Logins.after (s : AuthService) (d : Database) (ls : List Logins.Step) : Logins :=
  run (Logins.step s) ⟨d, []⟩ ls

/-- The calls of a login in a run. -/
def Logins.calls (s : AuthService) (d : Database) (ls : List Logins.Step) (i : Nat) :
    List (Exchange Call Call.Answer) :=
  Pool.own i (Pool.log (Logins.code s) (exec s) Logins.write ⟨d, []⟩ ls)

-- ============================================================================
-- What a login does
-- ============================================================================

/-- The login has read the user's row and verified its password against the hash. -/
def Verified (es : List (Exchange Call Call.Answer)) (t : LoginRequest) (userID hash : String) :
    Prop :=
  ∃ u : User, u.id = userID ∧
    es = [⟨.userByUsername (foldUsername t.username), .ok (u, hash)⟩,
      ⟨.verifyPassword t.password hash, some true⟩]

/-- The statement of a login for the user and the hash. -/
def loginSession (s : AuthService) (t : LoginRequest) (userID hash token csrf : String) :
    Statement :=
  .createSessionForPassword t.id userID hash (s.tokenHash token) (s.tokenHash csrf)
    (t.now + s.ttl) t.now t.ip t.ua

/-- A login writes one thing: the session of a verified password. -/
def WritesVerified (s : AuthService) (t : LoginRequest) (es : List (Exchange Call Call.Answer))
    (c : Call) : Prop :=
  ∀ st, c = .write st → ∃ userID hash token csrf,
    st = loginSession s t userID hash token csrf ∧ Verified es t userID hash

theorem meets_openSession (s : AuthService) (t : LoginRequest) (u : User) (hash : String)
    (es : List (Exchange Call Call.Answer)) (hes : Verified es t u.id hash) :
    Program.Meets (WritesVerified s t) (fun _ _ => True) (openSession s t u hash) es := by
  rw [openSession]
  split
  · rename_i token csrf _ _
    refine .call ?_ ?_
    · intro st hst
      obtain rfl := (Call.write.inj hst).symm
      exact ⟨u.id, hash, token, csrf, rfl, hes⟩
    · intro r
      cases r <;> exact .done trivial
  · exact .done trivial

theorem meets_login (s : AuthService) (t : LoginRequest) :
    Program.Meets (WritesVerified s t) (fun _ _ => True) (login s t) [] := by
  rw [login]
  refine .call (fun st hst => absurd hst (by simp)) ?_
  intro r
  cases r with
  | error e => exact .done trivial
  | ok x =>
      obtain ⟨u, hash⟩ := x
      simp only
      split
      · exact .done trivial
      · refine .call (fun st hst => absurd hst (by simp)) ?_
        intro verdict
        cases verdict with
        | none => exact .done trivial
        | some b =>
            cases b with
            | false => exact .done trivial
            | true => exact meets_openSession s t u hash _ ⟨u, rfl, rfl⟩

theorem meets_code (s : AuthService) (t : LoginRequest) :
    Program.Meets (WritesVerified s t) (fun _ _ => True) (Logins.code s t) [] :=
  (meets_login s t).void

-- ============================================================================
-- Sessions are opened rightly
-- ============================================================================

/-- The session `k` of the user was inserted by a login that had verified its password; in
    the state where it was inserted and in every later one, the user's row is the same, with
    the hash that was verified and not disabled. -/
def OpenedRightly (s : AuthService) (d : Database) (ls : List Logins.Step) (k userID : String) :
    Prop :=
  ∃ pre i o post t hash token csrf user,
    ls = pre ++ .advance i o :: post ∧
    (Logins.after s d pre).pending i
      = some (t, .write (loginSession s t userID hash token csrf)) ∧
    t.id = k ∧ Verified (Logins.calls s d pre i) t userID hash ∧
    user.passwordHash = hash ∧ user.disabled = false ∧
    ∀ mid rest, .advance i o :: post = mid ++ rest →
      (Logins.after s d (pre ++ mid)).world.users.lookup userID = some user

/-- One more step that leaves the user's row alone. -/
theorem OpenedRightly.extend {s : AuthService} {d : Database} {ls : List Logins.Step}
    {k userID : String} (h : OpenedRightly s d ls k userID) {l : Logins.Step}
    (hkeep : ∀ u, (Logins.after s d ls).world.users.lookup userID = some u →
      (Logins.after s d (ls ++ [l])).world.users.lookup userID = some u) :
    OpenedRightly s d (ls ++ [l]) k userID := by
  obtain ⟨pre, i, o, post, t, hash, token, csrf, user, rfl, hpending, hid, hverified, hhash,
    henabled, hsame⟩ := h
  refine ⟨pre, i, o, post ++ [l], t, hash, token, csrf, user, by simp, hpending, hid, hverified,
    hhash, henabled, ?_⟩
  intro mid rest hsplit
  rcases List.eq_nil_or_concat rest with rfl | ⟨rest, x, rfl⟩
  · -- The state after the new step.
    rw [List.append_nil] at hsplit
    rw [← hsplit]
    have hlast := hkeep user (hsame (.advance i o :: post) [] (by simp))
    rw [List.append_assoc] at hlast
    exact hlast
  · rw [List.concat_eq_append, ← List.append_assoc, ← List.cons_append] at hsplit
    exact hsame mid rest (List.append_inj' hsplit rfl).1

/-- A step that keeps the session as a statement does. -/
theorem OpenedRightly.of_kept {s : AuthService} {d : Database} {ls : List Logins.Step}
    {l : Logins.Step} {k : String} {row : SessionRow}
    (hrun : ∀ k row, (Logins.after s d ls).world.sessions.lookup k = some row →
      OpenedRightly s d ls k row.userID)
    (hkept : SessionKept (Logins.after s d ls).world (Logins.after s d (ls ++ [l])).world k row) :
    OpenedRightly s d (ls ++ [l]) k row.userID := by
  obtain ⟨old, hold, hrow, husers⟩ := hkept
  have huser : row.userID = old.userID := by rw [hrow]
  rw [huser]
  exact (hrun k old hold).extend husers

theorem after_snoc (s : AuthService) (d : Database) (ls : List Logins.Step) (l : Logins.Step) :
    Logins.after s d (ls ++ [l]) = Logins.step s (Logins.after s d ls) l := by
  rw [Logins.after, run_append]
  rfl

/-- The session that a login has just inserted. -/
theorem openedRightly_insert {s : AuthService} {d : Database} {ls : List Logins.Step} {i : Nat}
    {o : Option StoreError} {t : LoginRequest} {userID hash token csrf : String}
    (hpending : (Logins.after s d ls).pending i
      = some (t, .write (loginSession s t userID hash token csrf)))
    (hverified : Verified (Logins.calls s d ls i) t userID hash) {u : AccountRow}
    (hu : (Logins.after s d ls).world.users.lookup userID = some u)
    (hhash : u.passwordHash = hash) (henabled : u.disabled = false)
    (husers : (Logins.after s d (ls ++ [.advance i o])).world.users
      = (Logins.after s d ls).world.users) :
    OpenedRightly s d (ls ++ [.advance i o]) t.id userID := by
  refine ⟨ls, i, o, [], t, hash, token, csrf, u, rfl, hpending, rfl, hverified, hhash,
    henabled, ?_⟩
  intro mid rest hsplit
  cases mid with
  | nil =>
      rw [List.append_nil]
      exact hu
  | cons x mid =>
      obtain ⟨rfl, hnil⟩ := List.cons.inj hsplit
      obtain ⟨rfl, -⟩ := List.append_eq_nil_iff.mp hnil.symm
      rw [husers]
      exact hu

/-- Every session after a step of a login was opened rightly. -/
theorem openedRightly_advance {s : AuthService} {d : Database} {ls : List Logins.Step}
    (hrun : ∀ k row, (Logins.after s d ls).world.sessions.lookup k = some row →
      OpenedRightly s d ls k row.userID)
    {i : Nat} {o : Option StoreError} {t : LoginRequest} {c : Call}
    (hpending : (Logins.after s d ls).pending i = some (t, c))
    (hcontract : WritesVerified s t (Logins.calls s d ls i) c) {k : String} {row : SessionRow}
    (hrow : (Logins.after s d (ls ++ [.advance i o])).world.sessions.lookup k = some row) :
    OpenedRightly s d (ls ++ [.advance i o]) k row.userID := by
  have hworld : (Logins.after s d (ls ++ [.advance i o])).world
      = (exec s o c (Logins.after s d ls).world).2 := by
    rw [after_snoc]
    exact Pool.step_advance_world hpending o
  obtain hsame | ⟨st, rfl, rfl⟩ := exec_cases s o c (Logins.after s d ls).world
  · rw [hworld, hsame] at hrow
    exact (hrun k row hrow).extend (fun u hu => by rw [hworld, hsame]; exact hu)
  obtain ⟨userID, hash, token, csrf, rfl, hverified⟩ := hcontract st rfl
  obtain ⟨u, hu, hhash, henabled, -, -, hdone⟩ | ⟨e, hfail⟩ :=
    Database.createSessionForPassword_cases t.id userID hash (s.tokenHash token)
      (s.tokenHash csrf) (t.now + s.ttl) t.now t.ip t.ua (Logins.after s d ls).world
  · have husers : (Logins.after s d (ls ++ [.advance i none])).world.users
        = (Logins.after s d ls).world.users := by
      rw [hworld, exec, loginSession, Statement.perform, hdone]
    rw [hworld, exec, loginSession, Statement.perform, hdone] at hrow
    obtain ⟨rfl, rfl⟩ | ⟨-, hold⟩ := AList.lookup_insert_iff.mp hrow
    · exact openedRightly_insert hpending hverified hu hhash henabled husers
    · exact (hrun k row hold).extend (fun u hu => by rw [husers]; exact hu)
  · have hsame : (Logins.after s d (ls ++ [.advance i none])).world
        = (Logins.after s d ls).world := by
      rw [hworld, exec, loginSession, Statement.perform, hfail]
    rw [hsame] at hrow
    exact (hrun k row hrow).extend (fun u hu => by rw [hsame]; exact hu)

theorem openedRightly_run (s : AuthService) {d : Database} (hd : d.sessions = ∅)
    (ls : List Logins.Step) : ∀ k row,
      (Logins.after s d ls).world.sessions.lookup k = some row →
      OpenedRightly s d ls k row.userID := by
  induction ls using List.reverseRecOn with
  | nil =>
      intro k row hrow
      exact absurd hrow (AList.lookup_ne_of_empty hd k row)
  | append_singleton ls l ih =>
      intro k row hrow
      cases l with
      | start t =>
          rw [after_snoc] at hrow
          refine (ih k row hrow).extend (fun u hu => ?_)
          rw [after_snoc]
          exact hu
      | disturb st =>
          have hworld : (Logins.after s d (ls ++ [.disturb st])).world
              = (st.1.perform (Logins.after s d ls).world).2 := by
            rw [after_snoc]
            rfl
          rw [hworld] at hrow
          obtain ⟨hnew, -⟩ | hkept := session_perform hrow
          · exact absurd (st.2.symm.trans hnew) (by simp)
          · exact OpenedRightly.of_kept ih (by rw [hworld]; exact hkept)
      | advance i o =>
          cases hpending : (Logins.after s d ls).pending i with
          | none =>
              have hworld : (Logins.after s d (ls ++ [.advance i o])).world
                  = (Logins.after s d ls).world := by
                rw [after_snoc]
                exact congrArg Pool.world (Pool.step_advance_none hpending o)
              rw [hworld] at hrow
              exact (ih k row hrow).extend (fun u hu => by rw [hworld]; exact hu)
          | some x =>
              obtain ⟨t, c⟩ := x
              have hmeets : Pool.MeetsAll _ _
                  (Pool.log (Logins.code s) (exec s) Logins.write ⟨d, []⟩ ls)
                  (Logins.after s d ls) := Pool.meets_run (meets_code s) rfl ls
              exact openedRightly_advance ih hpending (hmeets.pending hpending) hrow

/-- **Session invariant.**  From a database without sessions, in every state that logins
    and any other traffic reach: every session belongs to a user who exists and is not
    disabled, and was opened rightly. -/
theorem sessions_opened_rightly (s : AuthService) (d : Database) (hd : d.sessions = ∅)
    (ls : List Logins.Step) (k : String) (row : SessionRow)
    (hrow : (Logins.after s d ls).world.sessions.lookup k = some row) :
    (∃ u, (Logins.after s d ls).world.users.lookup row.userID = some u ∧ u.disabled = false) ∧
    OpenedRightly s d ls k row.userID := by
  have hopened := openedRightly_run s hd ls k row hrow
  refine ⟨?_, hopened⟩
  obtain ⟨pre, i, o, post, t, hash, token, csrf, user, rfl, -, -, -, -, henabled, hsame⟩ := hopened
  exact ⟨user, hsame (.advance i o :: post) [] (by simp), henabled⟩

-- ============================================================================
-- A login from before a disable
-- ============================================================================

/-- From the state in which the login of a session has read its user to the insert, no
    state has the user disabled. -/
def DisableEndsLogins (s : AuthService) (d : Database) (ls : List Logins.Step) : Prop :=
  ∀ k row pre i o post t st, (Logins.after s d ls).world.sessions.lookup k = some row →
    ls = pre ++ .advance i o :: post →
    (Logins.after s d pre).pending i = some (t, .write st) → st.newSession = some (k, row) →
    ∀ early late u, pre = early ++ late → Logins.calls s d early i ≠ [] →
      (Logins.after s d early).world.users.lookup row.userID = some u → u.disabled = false

/-- The password of Alice. -/
def alicePassword : String := "member-password"

/-- The account of Alice. -/
def aliceRow : AccountRow :=
  ⟨"alice", plainAuth.hashPassword alicePassword "salt", "Alice", 0, 0, .USER, false⟩

/-- One account and no session. -/
def aliceDB : Database := { Database.empty with users := (∅ : KeyedTable String AccountRow).insert "u" aliceRow }

/-- Alice logs in with her password. -/
def aliceLogin : LoginRequest := ⟨"alice", alicePassword, "", "", "s", some "t", some "c", 10⟩

/-- `UpdateUser` that disables or enables Alice. -/
def setDisabled (disabled : Bool) (now : Int64) : Logins.Step :=
  .disturb ⟨.updateUser "u" "alice" "Alice" "" disabled now, rfl⟩

/-- A login reads the user; the user is disabled and enabled again; the login goes on. -/
def reenabledRun : List Logins.Step :=
  [.start aliceLogin, .advance 0 none, setDisabled true 20, setDisabled false 30,
    .advance 0 none, .advance 0 none]

/-- The session that Alice gets. -/
def aliceSession : SessionRow := ⟨"u", "#t", "#c", 3600010, 10, 10, "", ""⟩

theorem sessions_opened_rightly_reenabled :
    (∃ u, (Logins.after plainAuth aliceDB reenabledRun).world.users.lookup "u" = some u ∧
      u.disabled = false) ∧
    OpenedRightly plainAuth aliceDB reenabledRun "s" "u" :=
  sessions_opened_rightly plainAuth aliceDB rfl reenabledRun "s" aliceSession (by decide)

/-- The login of the session had read the user before the disable. -/
theorem login_survives_disable : ¬DisableEndsLogins plainAuth aliceDB reenabledRun := by
  intro h
  have hcalls : Logins.calls plainAuth aliceDB (reenabledRun.take 3) 0 ≠ [] := by
    intro hnil
    exact absurd (congrArg List.length hnil) (by decide)
  have henabled := h "s" aliceSession (reenabledRun.take 5) 0 none [] aliceLogin
    (loginSession plainAuth aliceLogin "u" aliceRow.passwordHash "t" "c") (by decide) rfl
    (by decide) rfl (reenabledRun.take 3) ((reenabledRun.take 5).drop 3)
    { aliceRow with disabled := true, updatedAtMs := 20 } rfl hcalls (by decide)
  exact absurd henabled (by decide)

end WatchTogether.Accounts

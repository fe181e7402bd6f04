/-
  WatchTogether.Accounts.SetPasswords

  From the password that is set to the login that is accepted.  Accounts are created and
  edited, and users log in, all at once and beside every statement that sets no hash; each
  of these stores or reads a text.  In every run the text of an account is that of the
  password set for it last, `VerifyPassword` answers for it, and a session is only created
  for a password of the same key.
-/

import WatchTogether.Accounts.Passwords
import WatchTogether.Accounts.Sessions

namespace WatchTogether.Accounts

open LabelledRun Repository
open Rooms (StoreError)
open Uploads (Response)

-- ============================================================================
-- Hashes over a statement
-- ============================================================================

/-- The account whose hash the statement sets, if it succeeds, with the hash. -/
def newHash : Statement → Option (String × String)
  | .createUser u hash _ => some (u.id, hash)
  | .updateUser id _ _ hash _ _ => if hash = "" then none else some (id, hash)
  | _ => none

/-- A row after a statement: the statement has set its hash, or it had it before. -/
def HashKept (st : Statement) (d : Database) (id : String) (row : AccountRow) : Prop :=
  ((st.perform d).1 = .ok () ∧ newHash st = some (id, row.passwordHash)) ∨
    ∃ old, d.users.lookup id = some old ∧ old.passwordHash = row.passwordHash ∧
      ((st.perform d).1 = .ok () → ∀ x, newHash st = some x → x.1 ≠ id)

theorem HashKept.of_same {st : Statement} {d : Database} {id : String} {row : AccountRow}
    (hrow : d.users.lookup id = some row)
    (hquiet : (st.perform d).1 = .ok () → newHash st = none) : HashKept st d id row := by
  refine .inr ⟨row, hrow, rfl, ?_⟩
  intro hok x hx
  rw [hquiet hok] at hx
  exact absurd hx (by simp)

/-- A statement of neither kind writes no row of `users`. -/
theorem users_perform {st : Statement} (hcreate : ∀ u hash now, st ≠ .createUser u hash now)
    (hupdate : ∀ id n m hash b now, st ≠ .updateUser id n m hash b now) {d : Database}
    {id : String} {row : AccountRow} (h : (st.perform d).2.users.lookup id = some row) :
    d.users.lookup id = some row := by
  by_cases hst : st.onAccounts = false
  · rw [(accounts_perform hst).1] at h
    exact h
  cases st with
  | createUser u hash now => exact absurd rfl (hcreate u hash now)
  | updateUser id n m hash b now => exact absurd rfl (hupdate id n m hash b now)
  | deleteUser uid adminID =>
      rw [Statement.perform] at h
      obtain ⟨u, media, -, -, hdone⟩ | ⟨e, hfail⟩ := Database.deleteUser_cases uid adminID d
      · rw [hdone] at h
        exact (AList.lookup_erase_iff.mp h).2
      · rw [hfail] at h
        exact h
  | createSession k s =>
      rw [Statement.perform] at h
      obtain ⟨-, -, -, hdone⟩ | ⟨e, hfail⟩ := Database.createSession_cases k s d
      · rw [hdone] at h
        exact h
      · rw [hfail] at h
        exact h
  | createSessionForPassword k userID hash tokenHash csrfHash expires now ip ua =>
      rw [Statement.perform] at h
      obtain ⟨u, -, -, -, -, -, hdone⟩ | ⟨e, hfail⟩ :=
        Database.createSessionForPassword_cases k userID hash tokenHash csrfHash expires now ip ua d
      · rw [hdone] at h
        exact h
      · rw [hfail] at h
        exact h
  | touchSession | deleteSession | cleanup => exact h
  | _ => exact absurd rfl hst

theorem hash_perform {st : Statement} {d : Database} {id : String} {row : AccountRow}
    (h : (st.perform d).2.users.lookup id = some row) : HashKept st d id row := by
  cases hst : st with
  | createUser u hash now =>
      rw [hst, Statement.perform, Database.createUser] at h
      obtain ⟨-, -, hdone⟩ | ⟨e, hfail⟩ := Database.insertUser_cases u.id _ d
      · rw [hdone] at h
        obtain ⟨rfl, rfl⟩ | ⟨hne, hold⟩ := AList.lookup_insert_iff.mp h
        · refine .inl ⟨?_, rfl⟩
          rw [Statement.perform, Database.createUser, hdone]
        · refine .inr ⟨row, hold, rfl, ?_⟩
          rintro - x hx rfl
          obtain rfl := Option.some.inj hx
          exact hne rfl
      · rw [hfail] at h
        refine .of_same h ?_
        rw [Statement.perform, Database.createUser, hfail]
        intro hok
        exact absurd hok (by simp)
  | updateUser uid username nickname hash disabled now =>
      rw [hst, Statement.perform] at h
      obtain ⟨u, hu, -, -, hdone⟩ | ⟨e, hfail⟩ :=
        Database.updateUser_cases uid username nickname hash disabled now d
      · rw [hdone] at h
        simp only [AList.lookup_update] at h
        by_cases hid : id = uid
        · subst hid
          rw [if_pos rfl, hu] at h
          obtain rfl := Option.some.inj h
          by_cases hempty : hash = ""
          · refine .inr ⟨u, hu, ?_, ?_⟩
            · rw [Database.editRow, if_pos hempty]
            · rintro - x hx
              rw [newHash, if_pos hempty] at hx
              exact absurd hx (by simp)
          · refine .inl ⟨?_, ?_⟩
            · rw [Statement.perform, hdone]
            · rw [newHash, if_neg hempty, Database.editRow, if_neg hempty]
        · rw [if_neg hid] at h
          refine .inr ⟨row, h, rfl, ?_⟩
          rintro - x hx rfl
          rw [newHash] at hx
          split at hx
          · exact absurd hx (by simp)
          · obtain rfl := Option.some.inj hx
            exact hid rfl
      · rw [hfail] at h
        refine .of_same h ?_
        rw [Statement.perform, hfail]
        intro hok
        exact absurd hok (by simp)
  | _ =>
      rw [← hst]
      refine .of_same (users_perform ?_ ?_ h) ?_
      · simp [hst]
      · simp [hst]
      · simp [hst, newHash]

/-- The UNIQUE constraint on `username`. -/
def UsernamesUnique (d : Database) : Prop :=
  ∀ i j u v, d.users.lookup i = some u → d.users.lookup j = some v → u.username = v.username →
    i = j

theorem usernames_perform (st : Statement) {d : Database} (hd : UsernamesUnique d) :
    UsernamesUnique (st.perform d).2 := by
  -- An admitted row has a username of its own.
  have hwrite : ∀ (users : KeyedTable String AccountRow) id row, d.admits id row = true →
      (∀ i u, users.lookup i = some u → (i = id ∧ u = row) ∨ (i ≠ id ∧ d.users.lookup i = some u)) →
      ∀ i j u v, users.lookup i = some u → users.lookup j = some v → u.username = v.username →
        i = j := by
    intro users id row hadmits husers i j u v hu hv hname
    obtain ⟨rfl, rfl⟩ | ⟨hi, hu⟩ := husers i u hu
    · obtain ⟨rfl, -⟩ | ⟨hj, hv⟩ := husers j v hv
      · rfl
      · exact absurd hname.symm (Database.admits_iff.mp hadmits j v hv hj).1
    · obtain ⟨rfl, rfl⟩ | ⟨-, hv⟩ := husers j v hv
      · exact absurd hname (Database.admits_iff.mp hadmits i u hu hi).1
      · exact hd i j u v hu hv hname
  cases hst : st with
  | createUser u hash now =>
      rw [Statement.perform, Database.createUser]
      obtain ⟨-, hadmits, hdone⟩ | ⟨e, hfail⟩ := Database.insertUser_cases u.id _ d
      · rw [hdone]
        exact hwrite _ _ _ hadmits (fun i v hv => AList.lookup_insert_iff.mp hv)
      · rw [hfail]
        exact hd
  | updateUser uid username nickname hash disabled now =>
      rw [Statement.perform]
      obtain ⟨u, hu, -, hadmits, hdone⟩ | ⟨e, hfail⟩ :=
        Database.updateUser_cases uid username nickname hash disabled now d
      · rw [hdone]
        refine hwrite _ _ _ hadmits ?_
        intro i v hv
        rw [AList.lookup_update] at hv
        split at hv
        · rename_i hid
          rw [hu] at hv
          exact .inl ⟨hid, (Option.some.inj hv).symm⟩
        · rename_i hid
          exact .inr ⟨hid, hv⟩
      · rw [hfail]
        exact hd
  | _ =>
      rw [← hst]
      intro i j u v hu hv
      exact hd i j u v (users_perform (by simp [hst]) (by simp [hst]) hu)
        (users_perform (by simp [hst]) (by simp [hst]) hv)

-- ============================================================================
-- Runs
-- ============================================================================

/-- A password that is set for an account, with its salt. -/
structure Setting where
  account : String
  password : String
  salt : List UInt8
deriving DecidableEq

/-- The hash that is stored for the password. -/
def Setting.hash (a : Argon2) (x : Setting) : String := hashPassword a x.password x.salt

/-- The password has the key of the one that was set. -/
def Setting.Accepts (a : Argon2) (x : Setting) (password : String) : Prop :=
  a.derive password x.salt = a.derive x.password x.salt

instance (a : Argon2) (x : Setting) (password : String) : Decidable (x.Accepts a password) :=
  inferInstanceAs (Decidable (_ = _))

/-- The requests, with the salts they draw. -/
inductive PasswordRequest where
  | create (role : Role) (account : NewAccount) (salt : List UInt8)
  | edit (e : Edit) (salt : List UInt8)
  | login (t : LoginRequest)

/-- What the request sets, if it succeeds. -/
def PasswordRequest.setting : PasswordRequest → Option Setting
  | create _ account salt => some ⟨account.id, account.password, salt⟩
  | edit e salt => (e.body.bind Patch.password).map (fun password => ⟨e.id, password, salt⟩)
  | login _ => none

/-- The service, but for its hashes. -/
structure AuthConfig where
  argon2 : Argon2
  ttl : Int64
  tokenHash : String → String

/-- The service with this configuration. -/
def AuthConfig.service (g : AuthConfig) : AuthService := g.argon2.service g.ttl g.tokenHash

/-- The code that serves the request. -/
def PasswordRequest.code (s : AuthService) : PasswordRequest → Code Unit
  | create role account salt => (createAccount s role { account with salt := saltText salt }).void
  | edit e salt => adminUpdateUser s { e with salt := saltText salt }
  | login t => (Accounts.login s t).void

/-- A statement that sets no hash. -/
abbrev Hashless : Type := { st : Statement // newHash st = none }

/-- Logins, creations, bootstraps and edits. -/
abbrev Passwords : Type := Pool PasswordRequest Call Call.Answer Database

/-- A call of a request, the start of one, or a statement that sets no hash. -/
abbrev Passwords.Step : Type := Pool.Move PasswordRequest (Option StoreError) Hashless

/-- What other code writes. -/
def Passwords.write (st : Hashless) (d : Database) : Database := (st.1.perform d).2

/-- One step of the requests. -/
def Passwords.step (s : AuthService) (p : Passwords) (l : Passwords.Step) : Passwords :=
  Pool.step (PasswordRequest.code s) (exec s) Passwords.write p l

/-- The database and the requests after a run. -/
def Passwords.after (s : AuthService) (ls : List Passwords.Step) : Passwords :=
  run (Passwords.step s) ⟨Database.empty, []⟩ ls

/-- The calls of a request in a run. -/
def Passwords.calls (s : AuthService) (ls : List Passwords.Step) (i : Nat) :
    List (Exchange Call Call.Answer) :=
  Pool.own i (Pool.log (PasswordRequest.code s) (exec s) Passwords.write ⟨Database.empty, []⟩ ls)

/-- What the step sets. -/
def Passwords.see (p : Passwords) : Passwords.Step → List Setting
  | .advance i none =>
      match p.pending i with
      | some (t, .write st) =>
          match (st.perform p.world).1 with
          | .ok _ => t.setting.toList
          | .error _ => []
      | _ => []
  | _ => []

/-- The passwords that are set in a run, in this order. -/
def Passwords.settings (s : AuthService) (ls : List Passwords.Step) : List Setting :=
  history (Passwords.step s) Passwords.see ⟨Database.empty, []⟩ ls

/-- The password set last for the account. -/
def lastFor (id : String) (h : List Setting) : Option Setting :=
  h.reverse.find? (fun x => x.account = id)

/-- The password set last for the account in a run. -/
def Passwords.last (s : AuthService) (ls : List Passwords.Step) (id : String) : Option Setting :=
  lastFor id (Passwords.settings s ls)

theorem lastFor_snoc (id : String) (h : List Setting) (x : Setting) :
    lastFor id (h ++ [x]) = if x.account = id then some x else lastFor id h := by
  rw [lastFor, List.reverse_append, List.reverse_singleton, List.singleton_append, List.find?_cons]
  by_cases hid : x.account = id <;> simp [hid, lastFor]

-- ============================================================================
-- What must hold
-- ============================================================================

/-- The next call of the thread creates a session of the user, for the login. -/
def Passwords.Opens (p : Passwords) (i : Nat) (r : LoginRequest) (userID : String) : Prop :=
  ∃ st k row, p.pending i = some (.login r, .write st) ∧ st.newSession = some (k, row) ∧
    (st.perform p.world).1 = .ok () ∧ row.userID = userID

/-- **Passwords.**  What is stored, what a login is answered, and whom it lets in. -/
structure PasswordLaw (g : AuthConfig) (ls : List Passwords.Step) : Prop where
  /-- Every account has the text of the password set for it last. -/
  stored : ∀ id row, (Passwords.after g.service ls).world.users.lookup id = some row →
    ∃ x, Passwords.last g.service ls id = some x ∧ row.passwordHash = x.hash g.argon2
  /-- Only valid passwords are set. -/
  valid : ∀ x ∈ Passwords.settings g.service ls, validatePassword x.password = .ok ()
  /-- `VerifyPassword` neither fails nor panics; it compares with the password that was the
      last one when the login read the user. -/
  answered : ∀ i r password encoded,
    (Passwords.after g.service ls).pending i = some (.login r, .verifyPassword password encoded) →
    ∃ pre post id row x, ls = pre ++ post ∧
      (Passwords.after g.service pre).world.users.lookup id = some row ∧
      row.username = foldUsername r.username ∧ Passwords.last g.service pre id = some x ∧
      verifyPassword g.argon2 password encoded = .ok (decide (x.Accepts g.argon2 r.password))
  /-- A session is created only with the password set last. -/
  opened : ∀ i r userID, (Passwords.after g.service ls).Opens i r userID →
    ∃ x, Passwords.last g.service ls userID = some x ∧ x.Accepts g.argon2 r.password
  /-- A login to an enabled account, with no other request in between, is refused exactly
      if its password is another one. -/
  refused : ∀ id row x r, (Passwords.after g.service ls).world.users.lookup id = some row →
    row.username = foldUsername r.username → row.disabled = false →
    Passwords.last g.service ls id = some x →
    (((Accounts.login g.service r).run (exec g.service none)
        (Passwords.after g.service ls).world).1 = .error .invalidCredentials ↔
      ¬x.Accepts g.argon2 r.password ∨ 256 < r.password.utf8ByteSize)

-- ============================================================================
-- The contract of a request
-- ============================================================================

/-- A request sets the hash of its setting, verifies a password against a hash it has read,
    and inserts the session of a verified password. -/
structure PasswordContract (g : AuthConfig) (t : PasswordRequest)
    (es : List (Exchange Call Call.Answer)) (c : Call) : Prop where
  write : ∀ st, c = .write st →
    newHash st = t.setting.map (fun x => (x.account, x.hash g.argon2)) ∧
      ∀ x ∈ t.setting, validatePassword x.password = .ok ()
  verify : ∀ password encoded, c = .verifyPassword password encoded →
    ∃ r u, t = .login r ∧ password = r.password ∧
      es = [⟨.userByUsername (foldUsername r.username), .ok (u, encoded)⟩]
  session : ∀ r st, t = .login r → c = .write st → WritesVerified g.service r es c

/-- A call that neither writes nor verifies. -/
theorem password_quiet {g : AuthConfig} {t : PasswordRequest}
    {es : List (Exchange Call Call.Answer)} {c : Call} (hwrite : ∀ st, c ≠ .write st)
    (hverify : ∀ password encoded, c ≠ .verifyPassword password encoded) :
    PasswordContract g t es c :=
  ⟨fun st hc => absurd hc (hwrite st), fun p e hc => absurd hc (hverify p e),
    fun _ st _ hc => absurd hc (hwrite st)⟩

theorem password_createAccount (g : AuthConfig) (role : Role) (account : NewAccount)
    (salt : List UInt8) :
    Program.Meets (PasswordContract g (.create role account salt)) (fun _ _ => True)
      (createAccount g.service role { account with salt := saltText salt }) [] := by
  rw [createAccount]
  split
  · exact .done trivial
  · split
    · exact .done trivial
    · rename_i hvalid
      refine .call ⟨?_, by simp, by simp⟩ ?_
      · intro st hst
        obtain rfl := (Call.write.inj hst).symm
        refine ⟨?_, ?_⟩
        · rw [newHash, AuthConfig.service, service_hashPassword]
          rfl
        · intro x hx
          obtain rfl := Option.some.inj hx
          exact hvalid
      · intro r
        cases r <;> exact .done trivial

/-- The end of a request. -/
theorem password_respond (g : AuthConfig) (t : PasswordRequest)
    (es : List (Exchange Call Call.Answer)) (r : Response) :
    Program.Meets (PasswordContract g t) (fun _ _ => True) (.call (.respond r) .done) es :=
  .call (password_quiet (by simp) (by simp)) (fun _ => .done trivial)

/-- The hash in the statement of an edit is that of the password it names. -/
theorem newHash_edit (g : AuthConfig) (e : Edit) (salt : List UInt8) {p : Patch}
    (hbody : e.body = some p) (username nickname : String) (disabled : Bool) :
    newHash (.updateUser e.id username nickname (p.hash g.service (saltText salt)) disabled e.now)
      = (PasswordRequest.setting (.edit e salt)).map (fun x => (x.account, x.hash g.argon2)) := by
  rw [PasswordRequest.setting, hbody, Option.bind_some, newHash]
  cases hset : p.password with
  | none =>
      rw [Patch.hash, hset]
      rfl
  | some password =>
      have hhash : p.hash g.service (saltText salt) = hashPassword g.argon2 password salt := by
        rw [Patch.hash, hset]
        exact service_hashPassword g.argon2 g.ttl g.tokenHash password salt
      rw [hhash, if_neg (hashPassword_ne_empty g.argon2 password salt)]
      rfl

theorem password_adminUpdateUser (g : AuthConfig) (e : Edit) (salt : List UInt8) :
    Program.Meets (PasswordContract g (.edit e salt)) (fun _ _ => True)
      (adminUpdateUser g.service { e with salt := saltText salt }) [] := by
  rw [adminUpdateUser]
  refine .call (password_quiet (by simp) (by simp)) ?_
  intro r
  cases r with
  | error err => exact password_respond g _ _ _
  | ok u =>
      simp only
      split
      · exact password_respond g _ _ _
      · rename_i p hbody
        split
        · exact password_respond g _ _ _
        split
        · exact password_respond g _ _ _
        · rename_i hpassword
          rw [commitEdit]
          refine .call ⟨?_, by simp, by simp⟩ ?_
          · intro st hst
            obtain rfl := (Call.write.inj hst).symm
            refine ⟨newHash_edit g e salt hbody _ _ _, ?_⟩
            intro x hx
            obtain ⟨password, hset, rfl⟩ := Option.map_eq_some_iff.mp hx
            rw [hbody, Option.bind_some] at hset
            rw [Patch.checkPassword, hset] at hpassword
            exact hpassword
          · intro r
            cases r with
            | error err => exact password_respond g _ _ _
            | ok x =>
                refine .call (password_quiet (by simp) (by simp)) ?_
                intro _
                refine .call (password_quiet (by simp) (by simp)) ?_
                intro _
                exact password_respond g _ _ _

theorem password_login (g : AuthConfig) (t : LoginRequest) :
    Program.Meets (PasswordContract g (.login t)) (fun _ _ => True) (Accounts.login g.service t)
      [] := by
  rw [Accounts.login]
  refine .call (password_quiet (by simp) (by simp)) ?_
  intro r
  cases r with
  | error e => exact .done trivial
  | ok x =>
      obtain ⟨u, hash⟩ := x
      simp only
      split
      · exact .done trivial
      · refine .call ⟨by simp, ?_, by simp⟩ ?_
        · intro password encoded hc
          obtain ⟨rfl, rfl⟩ := Call.verifyPassword.inj hc
          exact ⟨t, u, rfl, rfl, rfl⟩
        intro verdict
        cases verdict with
        | none => exact .done trivial
        | some b =>
            cases b with
            | false => exact .done trivial
            | true =>
                simp only
                rw [openSession]
                split
                · rename_i token csrf _ _
                  refine .call ⟨?_, by simp, ?_⟩ ?_
                  · intro st hst
                    obtain rfl := (Call.write.inj hst).symm
                    exact ⟨rfl, by simp [PasswordRequest.setting]⟩
                  · rintro r st hr - st' hst'
                    obtain rfl := PasswordRequest.login.inj hr
                    obtain rfl := (Call.write.inj hst').symm
                    exact ⟨u.id, hash, token, csrf, rfl, u, rfl, rfl⟩
                  · intro r
                    cases r <;> exact .done trivial
                · exact .done trivial

theorem password_code (g : AuthConfig) (t : PasswordRequest) :
    Program.Meets (PasswordContract g t) (fun _ _ => True) (t.code g.service) [] := by
  cases t with
  | create role account salt => exact (password_createAccount g role account salt).void
  | edit e salt => exact password_adminUpdateUser g e salt
  | login t => exact (password_login g t).void

-- ============================================================================
-- Every run
-- ============================================================================

/-- Every account has the hash of the password set for it last. -/
structure PasswordsKept (g : AuthConfig) (h : List Setting) (d : Database) : Prop where
  hash : ∀ id row, d.users.lookup id = some row →
    ∃ x, lastFor id h = some x ∧ row.passwordHash = x.hash g.argon2
  valid : ∀ x ∈ h, validatePassword x.password = .ok ()
  unique : UsernamesUnique d

/-- A step after which the accounts are as before. -/
theorem PasswordsKept.of_same {g : AuthConfig} {h : List Setting} {d d' : Database}
    (hd : PasswordsKept g h d) (hsame : d'.users = d.users) : PasswordsKept g (h ++ []) d' := by
  rw [List.append_nil]
  refine ⟨?_, hd.valid, ?_⟩
  · rw [hsame]
    exact hd.hash
  · intro i j u v hu hv
    rw [hsame] at hu hv
    exact hd.unique i j u v hu hv

/-- A statement that sets no hash. -/
theorem PasswordsKept.hashless {g : AuthConfig} {h : List Setting} {d : Database}
    (hd : PasswordsKept g h d) {st : Statement} (hst : newHash st = none) :
    PasswordsKept g (h ++ []) (st.perform d).2 := by
  rw [List.append_nil]
  refine ⟨?_, hd.valid, usernames_perform st hd.unique⟩
  intro id row hrow
  obtain ⟨-, hnew⟩ | ⟨old, hold, hhash, -⟩ := hash_perform hrow
  · exact absurd (hst.symm.trans hnew) (by simp)
  · rw [← hhash]
    exact hd.hash id old hold

/-- The statement of a request that is carried out. -/
theorem PasswordsKept.written {g : AuthConfig} {h : List Setting} {d : Database}
    (hd : PasswordsKept g h d) {st : Statement} {o : Option Setting}
    (hnew : newHash st = o.map (fun x => (x.account, x.hash g.argon2)))
    (hvalid : ∀ x ∈ o, validatePassword x.password = .ok ())
    (hok : (st.perform d).1 = .ok ()) : PasswordsKept g (h ++ o.toList) (st.perform d).2 := by
  cases o with
  | none => exact hd.hashless hnew
  | some x =>
      refine ⟨?_, ?_, usernames_perform st hd.unique⟩
      · intro id row hrow
        rw [Option.toList_some, lastFor_snoc]
        obtain ⟨-, hset⟩ | ⟨old, hold, hhash, hother⟩ := hash_perform hrow
        · obtain ⟨hid, hhash⟩ := Prod.mk.inj (Option.some.inj (hnew.symm.trans hset))
          refine ⟨x, if_pos hid, hhash.symm⟩
        · rw [if_neg (hother hok _ hnew), ← hhash]
          exact hd.hash id old hold
      · intro y hy
        rcases List.mem_append.mp hy with hold | hlast
        · exact hd.valid y hold
        · obtain rfl := List.mem_singleton.mp hlast
          exact hvalid y rfl

theorem passwords_after_snoc (s : AuthService) (ls : List Passwords.Step) (l : Passwords.Step) :
    Passwords.after s (ls ++ [l]) = Passwords.step s (Passwords.after s ls) l := by
  rw [Passwords.after, run_append]
  rfl

theorem settings_snoc (s : AuthService) (ls : List Passwords.Step) (l : Passwords.Step) :
    Passwords.settings s (ls ++ [l])
      = Passwords.settings s ls ++ Passwords.see (Passwords.after s ls) l := by
  rw [Passwords.settings, history_append]
  simp [history, Passwords.settings, Passwords.after]

theorem passwords_meet (g : AuthConfig) (ls : List Passwords.Step) :
    Pool.MeetsAll (PasswordContract g) (fun _ _ _ => True)
      (Pool.log (PasswordRequest.code g.service) (exec g.service) Passwords.write
        ⟨Database.empty, []⟩ ls) (Passwords.after g.service ls) :=
  Pool.meets_run (password_code g) rfl ls

/-- A statement that fails. -/
theorem PasswordsKept.failed {g : AuthConfig} {h : List Setting} {d : Database}
    (hd : PasswordsKept g h d) {st : Statement} {e : StoreError}
    (hfail : (st.perform d).1 = .error e) : PasswordsKept g (h ++ []) (st.perform d).2 := by
  rw [List.append_nil]
  refine ⟨?_, hd.valid, usernames_perform st hd.unique⟩
  intro id row hrow
  obtain ⟨hdone, -⟩ | ⟨old, hold, hhash, -⟩ := hash_perform hrow
  · rw [hfail] at hdone
    exact absurd hdone (by simp)
  · rw [← hhash]
    exact hd.hash id old hold

/-- A call that satisfies its contract. -/
theorem passwords_advance {g : AuthConfig} {p : Passwords} {h : List Setting}
    (hd : PasswordsKept g h p.world) {i : Nat} {o : Option StoreError} {t : PasswordRequest}
    {c : Call} {es : List (Exchange Call Call.Answer)} (hpending : p.pending i = some (t, c))
    (hc : PasswordContract g t es c) :
    PasswordsKept g (h ++ Passwords.see p (.advance i o)) (exec g.service o c p.world).2 := by
  cases o with
  | some e =>
      have hworld : (exec g.service (some e) c p.world).2 = p.world := by
        cases c <;> rfl
      rw [hworld]
      exact hd.of_same rfl
  | none =>
      cases c with
      | write st =>
          obtain ⟨hnew, hvalid⟩ := hc.write st rfl
          simp only [Passwords.see, hpending]
          cases hok : (st.perform p.world).1 with
          | ok x => exact hd.written hnew hvalid hok
          | error e => exact hd.failed hok
      | _ =>
          simp only [Passwords.see, hpending]
          exact hd.of_same rfl

theorem passwords_kept (g : AuthConfig) (ls : List Passwords.Step) :
    PasswordsKept g (Passwords.settings g.service ls) (Passwords.after g.service ls).world := by
  induction ls using List.reverseRecOn with
  | nil =>
      refine ⟨?_, by simp [Passwords.settings, history], ?_⟩
      · intro id row hrow
        exact absurd hrow (AList.lookup_ne_of_empty rfl id row)
      · intro i j u v hu
        exact absurd hu (AList.lookup_ne_of_empty rfl i u)
  | append_singleton ls l ih =>
      rw [settings_snoc, passwords_after_snoc]
      cases l with
      | start t => exact ih.of_same rfl
      | disturb st => exact ih.hashless st.2
      | advance i o =>
          cases hpending : (Passwords.after g.service ls).pending i with
          | none =>
              have hsee : Passwords.see (Passwords.after g.service ls) (.advance i o) = [] := by
                cases o with
                | some e => rfl
                | none => simp only [Passwords.see, hpending]
              rw [hsee, Passwords.step, Pool.step_advance_none hpending]
              exact ih.of_same rfl
          | some x =>
              obtain ⟨t, c⟩ := x
              rw [Passwords.step, Pool.step_advance_world hpending]
              exact passwords_advance ih hpending ((passwords_meet g ls).pending hpending)

-- ============================================================================
-- The law
-- ============================================================================

/-- The row that `UserByUsername` finds. -/
theorem userByUsername_some {d : Database} {username hash : String} {u : User}
    (h : d.userByUsername username = .ok (u, hash)) :
    ∃ row, d.users.lookup u.id = some row ∧ row.username = username ∧ row.passwordHash = hash := by
  rw [Database.userByUsername] at h
  split at h
  · rename_i e hfind
    obtain ⟨rfl, rfl⟩ := Prod.mk.inj (Except.ok.inj h)
    have hname := List.find?_some hfind
    exact ⟨e.2, AList.mem_entries_iff.mp (List.mem_of_find?_eq_some hfind),
      of_decide_eq_true hname, rfl⟩
  · exact absurd h (by simp)

theorem userByUsername_eq {d : Database} (hd : UsernamesUnique d) {id : String} {row : AccountRow}
    (hrow : d.users.lookup id = some row) :
    d.userByUsername row.username = .ok (AccountRow.toUser id row, row.passwordHash) := by
  rw [Database.userByUsername]
  split
  · rename_i e hfind
    have hname : e.2.username = row.username := by simpa using List.find?_some hfind
    have he := AList.mem_entries_iff.mp (List.mem_of_find?_eq_some hfind)
    have hid := hd e.1 id e.2 row he hrow hname
    rw [hid, hrow] at he
    rw [hid, ← Option.some.inj he]
  · rename_i hnone
    have hmiss := List.find?_eq_none.mp hnone ⟨id, row⟩ (AList.mem_entries_iff.mpr hrow)
    exact absurd (decide_eq_true rfl) hmiss

/-- The user that a thread has read, with the state in which it has read it. -/
theorem user_read {g : AuthConfig} {ls : List Passwords.Step} {i : Nat} {username hash : String}
    {u : User} (hmem : ⟨.userByUsername username, .ok (u, hash)⟩ ∈ Passwords.calls g.service ls i) :
    ∃ pre post row x, ls = pre ++ post ∧
      (Passwords.after g.service pre).world.users.lookup u.id = some row ∧
      row.username = username ∧ Passwords.last g.service pre u.id = some x ∧
      hash = x.hash g.argon2 := by
  obtain ⟨pre, o, post, t, rfl, -, hfound⟩ := Pool.mem_log (Pool.mem_own.mp hmem)
  cases o with
  | some e => exact absurd hfound (by simp [exec])
  | none =>
      have hread : (Passwords.after g.service pre).world.userByUsername username
          = .ok (u, hash) := hfound.symm
      obtain ⟨row, hrow, hname, hhash⟩ := userByUsername_some hread
      obtain ⟨x, hx, htext⟩ := (passwords_kept g pre).hash u.id row hrow
      exact ⟨pre, _, row, x, rfl, hrow, hname, hx, hhash.symm.trans htext⟩

theorem password_answered {g : AuthConfig} {ls : List Passwords.Step} {i : Nat}
    {r : LoginRequest} {password encoded : String}
    (hpending : (Passwords.after g.service ls).pending i
      = some (.login r, .verifyPassword password encoded)) :
    ∃ pre post id row x, ls = pre ++ post ∧
      (Passwords.after g.service pre).world.users.lookup id = some row ∧
      row.username = foldUsername r.username ∧ Passwords.last g.service pre id = some x ∧
      verifyPassword g.argon2 password encoded = .ok (decide (x.Accepts g.argon2 r.password)) := by
  obtain ⟨r', u, hr, rfl, hes⟩ :=
    ((passwords_meet g ls).pending hpending).verify password encoded rfl
  obtain rfl := PasswordRequest.login.inj hr
  have hmem : ⟨.userByUsername (foldUsername r.username), .ok (u, encoded)⟩
      ∈ Passwords.calls g.service ls i := by
    rw [Passwords.calls, hes]
    exact List.mem_singleton_self _
  obtain ⟨pre, post, row, x, rfl, hrow, hname, hx, rfl⟩ := user_read hmem
  exact ⟨pre, post, u.id, row, x, rfl, hrow, hname, hx,
    verify_hash g.argon2 r.password x.password x.salt⟩

theorem password_opened {g : AuthConfig} {ls : List Passwords.Step} {i : Nat} {r : LoginRequest}
    {userID : String} (hopens : (Passwords.after g.service ls).Opens i r userID) :
    ∃ x, Passwords.last g.service ls userID = some x ∧ x.Accepts g.argon2 r.password := by
  obtain ⟨st, k, row, hpending, hsession, hok, rfl⟩ := hopens
  obtain ⟨userID, hash, token, csrf, rfl, u, rfl, hes⟩ :=
    ((passwords_meet g ls).pending hpending).session r st rfl rfl st rfl
  have hrowID : row.userID = u.id := by
    have hboth := (Prod.mk.inj (Option.some.inj hsession)).2
    rw [← hboth]
  -- The insert compares the hash with the one in the row.
  obtain ⟨owner, howner, hhash, -⟩ | ⟨e, hfail⟩ := Database.createSessionForPassword_cases r.id u.id
    hash (g.service.tokenHash token) (g.service.tokenHash csrf) (r.now + g.service.ttl) r.now r.ip
    r.ua (Passwords.after g.service ls).world
  · obtain ⟨x, hx, htext⟩ := (passwords_kept g ls).hash u.id owner howner
    refine ⟨x, by rw [hrowID]; exact hx, ?_⟩
    have hmem : ⟨.verifyPassword r.password hash, some true⟩ ∈ Passwords.calls g.service ls i := by
      rw [Passwords.calls, hes]
      exact List.mem_cons_of_mem _ (List.mem_singleton_self _)
    obtain ⟨pre, o, post, t, -, -, hanswer⟩ := Pool.mem_log (Pool.mem_own.mp hmem)
    have hverify : g.service.verify r.password hash = some true := hanswer.symm
    have haccepts := verify_service g.argon2 g.ttl g.tokenHash r.password x.password x.salt
    rw [← hhash, htext] at hverify
    exact of_decide_eq_true (Option.some.inj (haccepts.symm.trans hverify))
  · rw [loginSession, Statement.perform, hfail] at hok
    exact absurd hok (by simp)

/-- What `openSession` returns is no refusal. -/
theorem openSession_ne (s : AuthService) (r : LoginRequest) (u : User) (hash : String)
    (d : Database) :
    ((openSession s r u hash).run (exec s none) d).1 ≠ .error .invalidCredentials := by
  rw [openSession]
  split
  · rw [Program.run_call]
    split <;> simp
  · simp

theorem password_refused {g : AuthConfig} {h : List Setting} {d : Database}
    (hd : PasswordsKept g h d) {id : String} {row : AccountRow} {x : Setting} {r : LoginRequest}
    (hrow : d.users.lookup id = some row) (hname : row.username = foldUsername r.username)
    (henabled : row.disabled = false) (hx : lastFor id h = some x) :
    ((Accounts.login g.service r).run (exec g.service none) d).1 = .error .invalidCredentials ↔
      ¬x.Accepts g.argon2 r.password ∨ 256 < r.password.utf8ByteSize := by
  have hfound := userByUsername_eq hd.unique hrow
  obtain ⟨x', hx', htext⟩ := hd.hash id row hrow
  obtain rfl := Option.some.inj (hx.symm.trans hx')
  have hverify : g.service.verify r.password row.passwordHash
      = some (decide (x.Accepts g.argon2 r.password)) := by
    rw [htext]
    exact verify_service g.argon2 g.ttl g.tokenHash r.password x.password x.salt
  rw [Accounts.login, Program.run_call]
  simp only [exec, ← hname, hfound, AccountRow.toUser, henabled, Bool.false_eq_true, false_or]
  by_cases hlong : 256 < r.password.utf8ByteSize
  · simp [hlong]
  · rw [if_neg hlong, Program.run_call]
    simp only [exec, hverify, hlong, or_false]
    by_cases haccepts : x.Accepts g.argon2 r.password
    · simp only [haccepts, decide_true, not_true_eq_false, iff_false]
      exact openSession_ne g.service r _ _ d
    · simp only [haccepts, decide_false, not_false_eq_true, iff_true]
      rfl

/-- **The law of passwords.** -/
theorem password_law (g : AuthConfig) (ls : List Passwords.Step) : PasswordLaw g ls := by
  have hkept := passwords_kept g ls
  refine ⟨hkept.hash, hkept.valid, ?_, ?_, ?_⟩
  · intro i r password encoded hpending
    exact password_answered hpending
  · intro i r userID hopens
    exact password_opened hopens
  · intro id row x r hrow hname henabled hx
    exact password_refused hkept hrow hname henabled hx

end WatchTogether.Accounts

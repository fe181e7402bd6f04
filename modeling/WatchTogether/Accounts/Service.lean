/-
  WatchTogether.Accounts.Service

  `internal/auth`, and the account handlers of `internal/httpapi`.  Code that makes several
  store calls is a program over them: between two calls everything may happen.

  The two hash functions, and the verification of a password, are parameters; nothing is
  used of them.
-/

import Mathlib.Data.List.DropRight
import Mathlib.Data.List.Infix
import WatchTogether.Lib.Program
import WatchTogether.Repository.Database
import WatchTogether.Uploads.Service

namespace WatchTogether.Accounts

open Rooms (StoreError)
open Repository
open Uploads (Response isSpace trimSpace)

/-- `auth.Service`, with `TokenHash`, the text of the Argon2 key of a password and a salt,
    and `VerifyPassword`, which answers nothing when it returns an error. -/
structure AuthService where
  ttl : Int64
  tokenHash : String → String
  key : String → String → String
  verify : String → String → Option Bool

-- ============================================================================
-- Names and passwords
-- ============================================================================

/-- `unicode.ToLower`, on ASCII and on the two other letters whose lower case may stand in
    an identifier. -/
def toLower (c : Char) : Char :=
  if c.toNat = 0x130 then 'i' else if c.toNat = 0x212A then 'k' else c.toLower

/-- `strings.ToLower(strings.TrimSpace(username))`. -/
def foldUsername (username : String) : String :=
  String.ofList ((trimSpace username.toList).map toLower)

/-- `identifier`. -/
def identifier (s : String) : Bool :=
  s.toList.all (fun r => (decide ('a' ≤ r) && decide (r ≤ 'z')) ||
    (decide ('0' ≤ r) && decide (r ≤ '9')) || r = '_' || r = '-' || r = '.')

/-- The refusal of a username. -/
def usernameInvalid : String := "用户名需为 3–40 位英文字母、数字、点、横线或下划线"

/-- The refusal of a nickname. -/
def nicknameInvalid : String := "昵称需为 1–60 个字符"

/-- The refusal of a password. -/
def passwordInvalid : String := "密码需为 10–256 字节"

/-- `NormalizeAccount`. -/
def normalizeAccount (username nickname : String) : Except String (String × String) :=
  let username := foldUsername username
  let nickname := String.ofList (trimSpace nickname.toList)
  if username.utf8ByteSize < 3 ∨ 40 < username.utf8ByteSize ∨ identifier username = false then
    .error usernameInvalid
  else if nickname.length < 1 ∨ 60 < nickname.length then .error nicknameInvalid
  else .ok (username, nickname)

/-- The letters of an identifier. -/
theorem identifier_toNat {c : Char} (h : ((decide ('a' ≤ c) && decide (c ≤ 'z')) ||
    (decide ('0' ≤ c) && decide (c ≤ '9')) || c = '_' || c = '-' || c = '.') = true) :
    (97 ≤ c.toNat ∧ c.toNat ≤ 122) ∨ (45 ≤ c.toNat ∧ c.toNat ≤ 57) ∨ c.toNat = 95 := by
  simp only [Bool.or_eq_true, Bool.and_eq_true, decide_eq_true_eq] at h
  obtain (((⟨hlo, hhi⟩ | ⟨hlo, hhi⟩) | rfl) | rfl) | rfl := h
  · exact .inl ⟨Char.le_def.mp hlo, Char.le_def.mp hhi⟩
  · refine .inr (.inl ⟨?_, ?_⟩)
    · have hzero : 48 ≤ c.toNat := hlo
      omega
    · exact hhi
  · exact .inr (.inr (by decide))
  · exact .inr (.inl (by decide))
  · exact .inr (.inl (by decide))

theorem toLower_of_toNat {c : Char} (h : (97 ≤ c.toNat ∧ c.toNat ≤ 122) ∨
    (45 ≤ c.toNat ∧ c.toNat ≤ 57) ∨ c.toNat = 95) : toLower c = c := by
  have hupper : ¬(c.val ≥ 'A'.val ∧ c.val ≤ 'Z'.val) := by
    rintro ⟨hlo, hhi⟩
    have hlo' : 65 ≤ c.toNat := hlo
    have hhi' : c.toNat ≤ 90 := hhi
    omega
  rw [toLower, if_neg (by omega), if_neg (by omega)]
  exact dif_neg hupper

theorem isSpace_of_toNat {c : Char} (h : (97 ≤ c.toNat ∧ c.toNat ≤ 122) ∨
    (45 ≤ c.toNat ∧ c.toNat ≤ 57) ∨ c.toNat = 95) : isSpace c = false := by
  simp only [isSpace, Bool.or_eq_false_iff, Bool.and_eq_false_iff, decide_eq_false_iff_not]
  omega

theorem trimSpace_eq (l : List Char) : trimSpace l = (l.dropWhile isSpace).rdropWhile isSpace := rfl

/-- A text that has been trimmed stays as it is. -/
theorem trimSpace_trimSpace (l : List Char) : trimSpace (trimSpace l) = trimSpace l := by
  rw [trimSpace_eq, trimSpace_eq]
  have hfront : ((l.dropWhile isSpace).rdropWhile isSpace).dropWhile isSpace
      = (l.dropWhile isSpace).rdropWhile isSpace := by
    rw [List.dropWhile_eq_self_iff]
    intro hlen
    have hfirst := List.rdropWhile_prefix isSpace (l.dropWhile isSpace)
    have hlen' : 0 < (l.dropWhile isSpace).length := Nat.lt_of_lt_of_le hlen hfirst.length_le
    rw [hfirst.getElem hlen]
    exact List.dropWhile_get_zero_not isSpace l hlen'
  rw [hfront, List.rdropWhile_idempotent]

/-- A text without blanks is not trimmed. -/
theorem trimSpace_of_plain {l : List Char} (h : ∀ c ∈ l, isSpace c = false) :
    trimSpace l = l := by
  have hfront : l.dropWhile isSpace = l := by
    rw [List.dropWhile_eq_self_iff]
    intro hlen
    simp [h _ (List.getElem_mem hlen)]
  rw [trimSpace_eq, hfront, List.rdropWhile_eq_self_iff]
  intro hne
  simp [h _ (List.getLast_mem hne)]

theorem foldUsername_of_identifier {s : String} (h : identifier s = true) : foldUsername s = s := by
  have hchars : ∀ c ∈ s.toList, isSpace c = false ∧ toLower c = c := by
    intro c hc
    have hnat := identifier_toNat (List.all_eq_true.mp h c hc)
    exact ⟨isSpace_of_toNat hnat, toLower_of_toNat hnat⟩
  rw [foldUsername, trimSpace_of_plain (fun c hc => (hchars c hc).1)]
  have hmap : s.toList.map toLower = s.toList := by
    rw [List.map_congr_left (fun c hc => (hchars c hc).2), List.map_id']
  rw [hmap, String.ofList_toList]

theorem normalizeAccount_eq {username nickname : String} {names : String × String}
    (h : normalizeAccount username nickname = .ok names) :
    names = (foldUsername username, String.ofList (trimSpace nickname.toList)) := by
  simp only [normalizeAccount] at h
  split at h
  · exact absurd h (by simp)
  split at h
  · exact absurd h (by simp)
  · exact (Except.ok.inj h).symm

/-- What `NormalizeAccount` returns it accepts unchanged. -/
theorem normalizeAccount_names {username nickname : String} {names : String × String}
    (h : normalizeAccount username nickname = .ok names) :
    normalizeAccount names.1 names.2 = .ok names := by
  simp only [normalizeAccount] at h
  split at h
  · exact absurd h (by simp)
  rename_i hname
  split at h
  · exact absurd h (by simp)
  rename_i hnick
  obtain rfl := Except.ok.inj h
  have hid : identifier (foldUsername username) = true := by
    by_contra hbad
    exact hname (.inr (.inr (by simpa using hbad)))
  have htrim : String.ofList (trimSpace (String.ofList (trimSpace nickname.toList)).toList)
      = String.ofList (trimSpace nickname.toList) := by
    rw [String.toList_ofList, trimSpace_trimSpace]
  simp only [normalizeAccount]
  rw [foldUsername_of_identifier hid, htrim, if_neg hname, if_neg hnick]

/-- `ValidatePassword`. -/
def validatePassword (password : String) : Except String Unit :=
  if password.utf8ByteSize < 10 ∨ 256 < password.utf8ByteSize then .error passwordInvalid
  else .ok ()

/-- The fields of a hash before the salt. -/
def hashPrefix : String := "$argon2id$v=19$m=65536,t=3,p=2$"

/-- `HashPassword`, with the salt it draws. -/
def AuthService.hashPassword (s : AuthService) (password salt : String) : String :=
  hashPrefix ++ salt ++ "$" ++ s.key password salt

-- ============================================================================
-- Calls
-- ============================================================================

/-- The calls of the account code; `write` is a store call that writes. -/
inductive Call where
  | userByUsername (username : String)
  | userByID (id : String)
  | verifyPassword (password encoded : String)
  | write (st : Statement)
  | revokeUser (id : String)
  | audit (actor event target : String)
  | respond (r : Response)
deriving DecidableEq

/-- What a call answers with. -/
abbrev Call.Answer : Call → Type
  | userByUsername _ => Except StoreError (User × String)
  | userByID _ => Except StoreError User
  | verifyPassword _ _ => Option Bool
  | write _ => Except StoreError Unit
  | audit .. => Except StoreError Unit
  | revokeUser _ => Unit
  | respond _ => Unit

/-- Code that makes these calls. -/
abbrev Code (α : Type) : Type := Program Call Call.Answer α

open Program

/-- A call; with a `fault` the database answers with this error, and nothing is written. -/
def exec (s : AuthService) (fault : Option StoreError) : (c : Call) → Database →
    c.Answer × Database
  | .userByUsername username, d =>
      match fault with
      | some e => (.error e, d)
      | none => (d.userByUsername username, d)
  | .userByID id, d =>
      match fault with
      | some e => (.error e, d)
      | none => (d.userByID id, d)
  | .verifyPassword password encoded, d => (s.verify password encoded, d)
  | .write st, d =>
      match fault with
      | some e => (.error e, d)
      | none => st.perform d
  | .audit .., d =>
      match fault with
      | some e => (.error e, d)
      | none => (.ok (), d)
  | .revokeUser _, d => ((), d)
  | .respond _, d => ((), d)

/-- A call leaves the database as it is, or is a statement that is carried out. -/
theorem exec_cases (s : AuthService) (fault : Option StoreError) (c : Call) (d : Database) :
    (exec s fault c d).2 = d ∨ ∃ st, c = .write st ∧ fault = none := by
  cases c with
  | write st =>
      cases fault with
      | some e => exact .inl rfl
      | none => exact .inr ⟨st, rfl, rfl⟩
  | userByUsername | userByID | audit =>
      cases fault <;> exact .inl rfl
  | verifyPassword | revokeUser | respond => exact .inl rfl

-- ============================================================================
-- `Login`
-- ============================================================================

/-- A login, with the id, the tokens (`randomToken` can fail) and the time it draws. -/
structure LoginRequest where
  username : String
  password : String
  ip : String
  ua : String
  id : String
  token : Option String
  csrf : Option String
  now : Int64
deriving DecidableEq

/-- The errors of `Login`. -/
inductive LoginError where
  | invalidCredentials
  | random
  | store (e : StoreError)
deriving DecidableEq

/-- The end of `Login`: the session of a password that was verified against `hash`. -/
def openSession (s : AuthService) (r : LoginRequest) (u : User) (hash : String) :
    Code (Except LoginError (User × String × String)) :=
  match r.token, r.csrf with
  | some token, some csrf =>
      call (.write (.createSessionForPassword r.id u.id hash (s.tokenHash token) (s.tokenHash csrf)
          (r.now + s.ttl) r.now r.ip r.ua)) fun
        | .error e => done (.error (.store e))
        | .ok _ => done (.ok (u, token, csrf))
  | _, _ => done (.error .random)

/-- `Service.Login`. -/
def login (s : AuthService) (r : LoginRequest) :
    Code (Except LoginError (User × String × String)) :=
  call (.userByUsername (foldUsername r.username)) fun
    | .error _ => done (.error .invalidCredentials)
    | .ok (u, hash) =>
        if u.disabled = true ∨ 256 < r.password.utf8ByteSize then
          done (.error .invalidCredentials)
        else
          call (.verifyPassword r.password hash) fun
            | some true => openSession s r u hash
            | _ => done (.error .invalidCredentials)

-- ============================================================================
-- New accounts
-- ============================================================================

/-- An account to create, with the id, the salt and the time that are drawn for it. -/
structure NewAccount where
  username : String
  password : String
  nickname : String
  id : String
  salt : String
  now : Int64
deriving DecidableEq

/-- The errors of `CreateUser` and `BootstrapAdmin`. -/
inductive AccountError where
  | invalid (message : String)
  | store (e : StoreError)
deriving DecidableEq

/-- The common body of the two functions below. -/
def createAccount (s : AuthService) (role : Role) (a : NewAccount) :
    Code (Except AccountError User) :=
  match normalizeAccount a.username a.nickname with
  | .error message => done (.error (.invalid message))
  | .ok (username, nickname) =>
      match validatePassword a.password with
      | .error message => done (.error (.invalid message))
      | .ok _ =>
          let u : User := ⟨a.id, username, nickname, role, false, a.now⟩
          call (.write (.createUser u (s.hashPassword a.password a.salt) a.now)) fun
            | .error e => done (.error (.store e))
            | .ok _ => done (.ok u)

/-- `Service.CreateUser`. -/
def createUser (s : AuthService) (a : NewAccount) : Code (Except AccountError User) :=
  createAccount s .USER a

/-- `Service.BootstrapAdmin`. -/
def bootstrapAdmin (s : AuthService) (a : NewAccount) : Code (Except AccountError User) :=
  createAccount s .SUPER_ADMIN a

-- ============================================================================
-- `adminUpdateUser`
-- ============================================================================

/-- `IsUniqueViolation`. -/
def isUniqueViolation : StoreError → Bool
  | .notFound => false
  | .failed message => decide (['u', 'n', 'i', 'q', 'u', 'e'] <:+: message.toList.map toLower)

/-- `adminError`. -/
def adminError (e : StoreError) : Response :=
  if e = .notFound then ⟨404, "NOT_FOUND", "资源不存在。"⟩
  else if e = errProtected then ⟨409, "ADMIN_PROTECTED", "超级管理员不能被禁用或删除。"⟩
  else if e = errConflict then
    ⟨409, "RESOURCE_IN_USE", "资源仍有关联记录，请先关闭并删除房间、处理影片；也可禁用账户。"⟩
  else if isUniqueViolation e then ⟨409, "USERNAME_TAKEN", "用户名已存在。"⟩
  else ⟨500, "INTERNAL_ERROR", "操作失败，请稍后重试。"⟩

/-- The body of a request: the fields it names. -/
structure Patch where
  username : Option String
  nickname : Option String
  password : Option String
  disabled : Option Bool
deriving DecidableEq

/-- A request of the administrator `actor` about the account `id`; `body` is missing where
    it is no JSON of this form. -/
structure Edit where
  actor : String
  id : String
  body : Option Patch
  salt : String
  now : Int64
deriving DecidableEq

/-- The fields of the request over those of the user that was read. -/
def Patch.over (p : Patch) (u : User) : User :=
  { u with
    username := p.username.getD u.username
    nickname := p.nickname.getD u.nickname
    disabled := p.disabled.getD u.disabled }

/-- The hash that the request sets; empty, if it names no password. -/
def Patch.hash (s : AuthService) (p : Patch) (salt : String) : String :=
  match p.password with
  | some password => s.hashPassword password salt
  | none => ""

/-- The password of the request is valid, if it names one. -/
def Patch.checkPassword (p : Patch) : Except String Unit :=
  match p.password with
  | some password => validatePassword password
  | none => .ok ()

/-- The end of `adminUpdateUser`: the update, the revocation and the answer. -/
def commitEdit (e : Edit) (username nickname hash : String) (disabled : Bool) : Code Unit :=
  call (.write (.updateUser e.id username nickname hash disabled e.now)) fun
    | .error err => call (.respond (adminError err)) done
    | .ok _ =>
        call (.revokeUser e.id) fun _ =>
          call (.audit e.actor "admin.user.update" e.id) fun _ =>
            call (.respond .ok) done

/-- `Server.adminUpdateUser`, once the administrator is known. -/
def adminUpdateUser (s : AuthService) (e : Edit) : Code Unit :=
  call (.userByID e.id) fun
    | .error err => call (.respond (adminError err)) done
    | .ok u =>
        match e.body with
        | none => call (.respond ⟨400, "INVALID_REQUEST", "Invalid JSON request."⟩) done
        | some p =>
            match normalizeAccount (p.over u).username (p.over u).nickname with
            | .error message => call (.respond ⟨400, "INVALID_REQUEST", message⟩) done
            | .ok (username, nickname) =>
                match p.checkPassword with
                | .error message => call (.respond ⟨400, "INVALID_REQUEST", message⟩) done
                | .ok _ => commitEdit e username nickname (p.hash s e.salt) (p.over u).disabled

-- ============================================================================
-- Requests and their cookies
-- ============================================================================

/-- What a request carries of credentials. -/
structure Request where
  session : Option String
  guest : Option String
  csrf : Option String
  csrfHeader : String
  origin : String
  host : String
deriving DecidableEq

/-- The session cookie of the request, against the database. -/
def AuthService.sessionOf (s : AuthService) (r : Request) (now : Int64) (d : Database) :
    Option (Identity × String) :=
  r.session.bind (fun token => d.sessionIdentity (s.tokenHash token) now)

/-- The guest cookie of the request, against the database. -/
def AuthService.guestOf (s : AuthService) (r : Request) (now : Int64) (d : Database) :
    Option (Identity × String) :=
  r.guest.bind (fun token => d.guestIdentity (s.tokenHash token) now)

/-- `Service.Authenticate` at one moment, with the hash of the CSRF token; it falls back
    from the session to the guest. -/
def AuthService.authenticate (s : AuthService) (r : Request) (now : Int64) (d : Database) :
    Option (Identity × String) :=
  match s.sessionOf r now d with
  | some i => some i
  | none => s.guestOf r now d

/-- `Service.ValidCSRF`. -/
def AuthService.validCSRF (s : AuthService) (r : Request) (storedHash : String) : Bool :=
  match r.csrf with
  | none => false
  | some cookie =>
      decide (r.csrfHeader ≠ "") && decide (cookie = r.csrfHeader) &&
        decide (s.tokenHash r.csrfHeader = storedHash)

/-- The part of `httpapi.Server` that checks requests; `sameHost` says that an origin parses
    and has the host of the request. -/
structure Server where
  auth : AuthService
  origins : List String
  sameHost : String → String → Bool

/-- `originAllowed`. -/
def Server.originAllowed (s : Server) (r : Request) : Bool :=
  if r.origin = "" then false
  else s.sameHost r.origin r.host || decide (r.origin ∈ s.origins)

/-- `identity`. -/
def Server.identity (s : Server) (r : Request) (mutate : Bool) (now : Int64) (d : Database) :
    Except Response Identity :=
  match s.auth.authenticate r now d with
  | none => .error ⟨401, "UNAUTHORIZED", "Authentication required."⟩
  | some (i, csrf) =>
      if mutate = true ∧ (s.originAllowed r = false ∨ s.auth.validCSRF r csrf = false) then
        .error ⟨403, "FORBIDDEN", "CSRF validation failed."⟩
      else .ok i

/-- `TouchSession` of the request, if its session authenticated it. -/
def AuthService.touch (s : AuthService) (r : Request) (now : Int64) (d : Database) : Database :=
  match r.session, s.sessionOf r now d with
  | some token, some _ => d.touchSession (s.tokenHash token) now
  | _, _ => d

/-- `Service.Logout`. -/
def AuthService.logout (s : AuthService) (r : Request) (fault : Option StoreError) (d : Database) :
    Except StoreError Unit × Database :=
  match r.session with
  | none => (.ok (), d)
  | some token =>
      match fault with
      | some e => (.error e, d)
      | none => (.ok (), d.deleteSession (s.tokenHash token))

/-- `Server.logout`: the error of `Logout` is dropped. -/
def Server.logout (s : Server) (r : Request) (now : Int64) (fault : Option StoreError)
    (d : Database) : Response × Database :=
  match s.identity r true now d with
  | .error response => (response, s.auth.touch r now d)
  | .ok _ => (.ok, (s.auth.logout r fault (s.auth.touch r now d)).2)

end WatchTogether.Accounts

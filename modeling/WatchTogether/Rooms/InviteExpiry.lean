/-
  WatchTogether.Rooms.InviteExpiry

  The request that creates an invite: `Server.createInvite` (`internal/httpapi/server.go`) from
  the authenticated user on, and `Service.CreateInvite` (`internal/rooms/service.go`).

  The requested lifetime is a number of seconds, which the handler multiplies into the
  nanoseconds of a `time.Duration`, a signed 64-bit word; the checks see only the product.
-/

import WatchTogether.Realtime.Removal
import WatchTogether.Repository.Database

namespace WatchTogether.Rooms

open Repository

-- ============================================================================
-- Durations and times
-- ============================================================================

/-- `time.Second`. -/
def timeSecond : Int64 := 1000000000

/-- `time.Hour`. -/
def timeHour : Int64 := 3600 * timeSecond

/-- `UnixMilli` of a time, in nanoseconds since 1970. -/
def unixMilli (t : Int) : Int64 := Int64.ofInt (t / 1000000)

-- ============================================================================
-- The request
-- ============================================================================

/-- The errors of `CreateInvite`, and those of the handler before it. -/
inductive InviteError where
  | rateLimited
  | invalidJSON
  | store (e : StoreError)
  | notMember
  | notHost
  | expiryTooLong
  | invalidMaxUses
  | random
deriving DecidableEq

/-- The body: `expiresInSeconds` and `maxUses`. -/
structure InviteBody where
  expiresInSeconds : Int64
  maxUses : Option Int64
deriving DecidableEq

/-- A request for an invite. -/
structure InviteRequest where
  /-- The room that the path value refers to. -/
  roomID : String
  identity : Identity
  /-- The decoded body. -/
  body : Option InviteBody

/-- What a request depends on besides the database. -/
structure InviteEnv where
  /-- The limiter lets the request through. -/
  allowed : Bool
  roomFault : Option StoreError
  memberFault : Bool
  /-- `s.Now()`, in nanoseconds since 1970: for the expiry, and for the creation. -/
  now : Int
  createdAt : Int
  id : String
  /-- The token with its hash; `rand.Read` can fail. -/
  token : Option (String × String)
  writeFault : Option StoreError

/-- `InviteResult`: the only answer that has the token. -/
structure InviteResult where
  token : String
  id : String
  invite : InviteRow
deriving DecidableEq

/-- `Service.GetFor`. -/
def Service.getFor (env : InviteEnv) (roomID : String) (i : Identity) (d : Database) :
    Except InviteError Room :=
  match env.roomFault with
  | some e => .error (.store e)
  | none =>
      match Store.roomByID roomID d.toDB with
      | .error e => .error (.store e)
      | .ok r =>
          if env.memberFault || !Store.isMember r.id i.id i.guest d.toDB ||
              (i.guest && decide (i.roomID ≠ r.id)) then .error .notMember
          else .ok r

/-- `Service.CreateInvite`. -/
def Service.createInvite (env : InviteEnv) (roomID : String) (i : Identity) (expiresIn : Int64)
    (maxUses : Option Int64) (d : Database) : Except InviteError InviteResult × Database :=
  match Service.getFor env roomID i d with
  | .error e => (.error e, d)
  | .ok r =>
      if r.hostUserID ≠ i.id then (.error .notHost, d)
      else
        let expiresIn := if expiresIn ≤ 0 then 24 * timeHour else expiresIn
        if 30 * 24 * timeHour < expiresIn then (.error .expiryTooLong, d)
        else if maxUses.any (fun n => decide (n < 1 ∨ 1000 < n)) then (.error .invalidMaxUses, d)
        else
          match env.token with
          | none => (.error .random, d)
          | some (token, hash) =>
              let expiry := unixMilli (env.now + expiresIn.toInt)
              let invite : InviteRow := ⟨r.id, hash, i.id, some expiry, maxUses.map Int64.toInt, 0,
                unixMilli env.createdAt⟩
              match env.writeFault with
              | some e => (.error (.store e), d)
              | none =>
                  match d.createInvite env.id invite with
                  | (.error e, _) => (.error (.store e), d)
                  | (.ok _, d) => (.ok ⟨token, env.id, invite⟩, d)

/-- `Server.createInvite`, for an authenticated user. -/
def Server.createInvite (env : InviteEnv) (req : InviteRequest) (d : Database) :
    Except InviteError InviteResult × Database :=
  if !env.allowed then (.error .rateLimited, d)
  else
    match req.body with
    | none => (.error .invalidJSON, d)
    | some body =>
        Service.createInvite env req.roomID req.identity (body.expiresInSeconds * timeSecond)
          body.maxUses d

-- ============================================================================
-- What was asked for
-- ============================================================================

/-- A day in nanoseconds. -/
def dayNs : Int := 86400000000000

/-- The lifetime that is asked for, in nanoseconds. -/
def requestedNs (seconds : Int64) : Int :=
  if seconds ≤ 0 then dayNs else seconds.toInt * 1000000000

/-- The request is refused, or the stored invite expires when it was asked to. -/
def ExpiresAsRequested (env : InviteEnv) (body : InviteBody) (d : Database)
    (r : Except InviteError InviteResult × Database) : Prop :=
  match r.1 with
  | .error _ => r.2 = d
  | .ok _ =>
      (∃ invite, r.2.invites.lookup env.id = some invite ∧
        invite.expiresAtMs = some (unixMilli (env.now + requestedNs body.expiresInSeconds))) ∧
      (0 < body.expiresInSeconds → requestedNs body.expiresInSeconds ≤ 30 * dayNs)

/-- The number of nanoseconds that the word of the product holds. -/
def wrappedNs (seconds : Int64) : Int := Int.bmod (seconds.toInt * 1000000000) (2 ^ 64)

/-- The product does no harm: it is too long for the check, or it is exact, or it stands for
    no lifetime as the seconds do, or it falls into the millisecond of a day from now. -/
def Harmless (now : Int) (seconds : Int64) : Prop :=
  30 * dayNs < wrappedNs seconds ∨
    if 0 < seconds then seconds.toInt * 1000000000 < 2 ^ 63
    else wrappedNs seconds ≤ 0 ∨ (now + wrappedNs seconds) / 1000000 = (now + dayNs) / 1000000

instance (now : Int) (seconds : Int64) : Decidable (Harmless now seconds) := by
  unfold Harmless
  infer_instance

/-- The checks other than that of the lifetime let the request through. -/
structure InvitePasses (env : InviteEnv) (req : InviteRequest) (body : InviteBody) (d : Database)
    (r : Room) (token hash : String) : Prop where
  allowed : env.allowed = true
  decoded : req.body = some body
  room : Service.getFor env req.roomID req.identity d = .ok r
  host : r.hostUserID = req.identity.id
  uses : body.maxUses.any (fun n => decide (n < 1 ∨ 1000 < n)) = false
  token : env.token = some (token, hash)
  written : env.writeFault = none
  freshID : env.id ∉ d.invites
  freshHash : d.invites.rows.any (fun x => x.tokenHash = hash) = false

-- ============================================================================
-- The product
-- ============================================================================

theorem wrappedNs_eq (seconds : Int64) : (seconds * timeSecond).toInt = wrappedNs seconds := by
  rw [Int64.toInt_mul]
  rfl

theorem toInt_day : (24 * timeHour : Int64).toInt = dayNs := by decide

theorem toInt_month : (30 * 24 * timeHour : Int64).toInt = 30 * dayNs := by decide

/-- Up to the largest word the product is exact. -/
theorem wrappedNs_exact {seconds : Int64} (hpos : 0 < seconds.toInt)
    (hfits : seconds.toInt * 1000000000 < 2 ^ 63) :
    wrappedNs seconds = seconds.toInt * 1000000000 := by
  unfold wrappedNs
  exact Int.bmod_eq_of_le (by omega) (by omega)

/-- The milliseconds of two times that are not far from each other. -/
theorem unixMilli_eq_iff {a b : Int} (hle : a - b ≤ 30 * dayNs) (hge : b - a ≤ 30 * dayNs) :
    unixMilli a = unixMilli b ↔ a / 1000000 = b / 1000000 := by
  unfold dayNs at hle hge
  constructor
  · intro heq
    have hmod := congrArg Int64.toInt heq
    rw [unixMilli, unixMilli, Int64.toInt_ofInt, Int64.toInt_ofInt,
      Int.bmod_eq_bmod_iff_bmod_sub_eq_zero, ← Int.dvd_iff_bmod_eq_zero] at hmod
    obtain ⟨k, hk⟩ := hmod
    have hsize : ((Int64.size : Nat) : Int) = 18446744073709551616 := rfl
    rw [hsize] at hk
    omega
  · intro heq
    rw [unixMilli, unixMilli, heq]

/-- The lifetime that is granted. -/
def grantedNs (seconds : Int64) : Int :=
  if wrappedNs seconds ≤ 0 then dayNs else wrappedNs seconds

theorem grantedNs_eq (seconds : Int64) :
    (if seconds * timeSecond ≤ 0 then 24 * timeHour else seconds * timeSecond).toInt =
      grantedNs seconds := by
  have hzero : (0 : Int64).toInt = 0 := rfl
  have hle : seconds * timeSecond ≤ 0 ↔ wrappedNs seconds ≤ 0 := by
    rw [Int64.le_iff_toInt_le, wrappedNs_eq, hzero]
  unfold grantedNs
  by_cases h : wrappedNs seconds ≤ 0
  · rw [if_pos (hle.mpr h), if_pos h, toInt_day]
  · rw [if_neg (fun h' => h (hle.mp h')), if_neg h, wrappedNs_eq]

/-- **Seconds to nanoseconds.**  The product that the checks let through is the lifetime that
    was asked for, to the millisecond, exactly if it is harmless. -/
theorem granted_iff (now : Int) (seconds : Int64) (hshort : grantedNs seconds ≤ 30 * dayNs) :
    unixMilli (now + grantedNs seconds) = unixMilli (now + requestedNs seconds) ∧
        (0 < seconds → requestedNs seconds ≤ 30 * dayNs) ↔ Harmless now seconds := by
  have hpositive : 0 < grantedNs seconds := by
    unfold grantedNs dayNs
    split_ifs <;> omega
  have hzero : (0 : Int64).toInt = 0 := rfl
  have hlong : ¬30 * dayNs < wrappedNs seconds := by
    unfold grantedNs at hshort
    split_ifs at hshort with hle <;> unfold dayNs at * <;> omega
  unfold Harmless
  rw [or_iff_right hlong]
  by_cases hpos : 0 < seconds
  · have hpos' : 0 < seconds.toInt := hzero ▸ Int64.lt_iff_toInt_lt.mp hpos
    have hreq : requestedNs seconds = seconds.toInt * 1000000000 := by
      rw [requestedNs, if_neg]
      rw [Int64.le_iff_toInt_le, hzero]
      omega
    rw [if_pos hpos, hreq]
    constructor
    · rintro ⟨-, hle⟩
      have hmonth := hle hpos
      unfold dayNs at hmonth
      omega
    · intro hfits
      have hexact := wrappedNs_exact hpos' hfits
      have hgranted : grantedNs seconds = seconds.toInt * 1000000000 := by
        rw [grantedNs, hexact, if_neg (by omega)]
      rw [hgranted] at hshort ⊢
      exact ⟨rfl, fun _ => hshort⟩
  · have hnone : seconds ≤ 0 := by
      rw [Int64.le_iff_toInt_le, hzero]
      rw [Int64.lt_iff_toInt_lt, hzero] at hpos
      omega
    have hreq : requestedNs seconds = dayNs := if_pos hnone
    rw [if_neg hpos, hreq, and_iff_left (fun h => absurd h hpos),
      unixMilli_eq_iff (by unfold dayNs at *; omega) (by unfold dayNs at *; omega)]
    unfold grantedNs
    by_cases hle : wrappedNs seconds ≤ 0
    · rw [if_pos hle]
      exact iff_of_true rfl (.inl hle)
    · rw [if_neg hle, or_iff_right hle]

-- ============================================================================
-- The handler
-- ============================================================================

variable {env : InviteEnv} {req : InviteRequest} {body : InviteBody} {d : Database} {r : Room}
  {token hash : String}

theorem getFor_mem {roomID : String} {i : Identity} (h : Service.getFor env roomID i d = .ok r) :
    r.id ∈ d.rooms := by
  unfold Service.getFor at h
  cases hfault : env.roomFault with
  | some e =>
      rw [hfault] at h
      cases h
  | none =>
      rw [hfault] at h
      unfold Store.roomByID at h
      cases hr : d.toDB.rooms.lookup roomID with
      | none =>
          rw [hr] at h
          cases h
      | some r₀ =>
          rw [hr] at h
          dsimp only at h
          split_ifs at h
          obtain rfl := Except.ok.inj h
          exact AList.mem_of_lookup hr

/-- The row that a request stores. -/
def inviteRow (env : InviteEnv) (req : InviteRequest) (body : InviteBody) (r : Room)
    (hash : String) : InviteRow :=
  ⟨r.id, hash, req.identity.id, some (unixMilli (env.now + grantedNs body.expiresInSeconds)),
    body.maxUses.map Int64.toInt, 0, unixMilli env.createdAt⟩

theorem createInvite_passes (h : InvitePasses env req body d r token hash) :
    Server.createInvite env req d =
      if 30 * dayNs < grantedNs body.expiresInSeconds then (.error .expiryTooLong, d)
      else (.ok ⟨token, env.id, inviteRow env req body r hash⟩,
        { d with invites := d.invites.insert env.id (inviteRow env req body r hash) }) := by
  have hlong : 30 * 24 * timeHour <
      (if body.expiresInSeconds * timeSecond ≤ 0 then 24 * timeHour
        else body.expiresInSeconds * timeSecond) ↔
      30 * dayNs < grantedNs body.expiresInSeconds := by
    rw [Int64.lt_iff_toInt_lt, grantedNs_eq, toInt_month]
  have hinsert : d.createInvite env.id (inviteRow env req body r hash) =
      (.ok (), { d with invites := d.invites.insert env.id (inviteRow env req body r hash) }) := by
    have hfresh : ¬(env.id ∈ d.invites ∨
        d.invites.rows.any (fun x => x.tokenHash = (inviteRow env req body r hash).tokenHash)) := by
      rintro (hid | hhash)
      · exact h.freshID hid
      · exact absurd (h.freshHash.symm.trans hhash) (by decide)
    have hrow : (inviteRow env req body r hash).roomID ∈ d.rooms := getFor_mem h.room
    rw [Database.createInvite, if_neg hfresh, if_pos hrow]
  unfold Server.createInvite Service.createInvite
  rw [h.allowed, h.decoded]
  simp only [Bool.not_true, Bool.false_eq_true, if_false]
  rw [h.room]
  simp only [ne_eq, h.host, not_true_eq_false, if_false, h.uses, Bool.false_eq_true, h.token,
    h.written]
  rw [grantedNs_eq]
  by_cases hcase : 30 * dayNs < grantedNs body.expiresInSeconds
  · rw [if_pos (hlong.mpr hcase), if_pos hcase]
  · rw [if_neg (fun h' => hcase (hlong.mp h')), if_neg hcase]
    show (match d.createInvite env.id (inviteRow env req body r hash) with
      | (.error e, _) => _
      | (.ok _, d) => _) = _
    rw [hinsert]
    rfl

/-- A request that a check stops changes nothing. -/
theorem createInvite_refused
    (h : ∀ body r token hash, ¬InvitePasses env req body d r token hash) :
    ∃ e, Server.createInvite env req d = (.error e, d) := by
  unfold Server.createInvite
  cases hallowed : env.allowed with
  | false => exact ⟨_, rfl⟩
  | true =>
      simp only [Bool.not_true, Bool.false_eq_true, if_false]
      cases hbody : req.body with
      | none => exact ⟨_, rfl⟩
      | some body =>
          simp only [Service.createInvite]
          cases hroom : Service.getFor env req.roomID req.identity d with
          | error e => exact ⟨_, rfl⟩
          | ok r =>
              simp only
              generalize (if body.expiresInSeconds * timeSecond ≤ 0 then 24 * timeHour
                else body.expiresInSeconds * timeSecond) = expiresIn
              split_ifs with hhost hlong huses
              · exact ⟨_, rfl⟩
              · exact ⟨_, rfl⟩
              · exact ⟨_, rfl⟩
              · cases htoken : env.token with
                | none => exact ⟨_, rfl⟩
                | some t =>
                    obtain ⟨token, hash⟩ := t
                    cases hwrite : env.writeFault with
                    | some e => exact ⟨_, rfl⟩
                    | none =>
                        simp only [Database.createInvite]
                        split_ifs with htaken hrow
                        · exact ⟨_, rfl⟩
                        · rw [not_or, Bool.not_eq_true] at htaken
                          exact absurd ⟨hallowed, hbody, hroom, not_not.mp hhost,
                            Bool.not_eq_true _ ▸ huses, htoken, hwrite, htaken.1, htaken.2⟩
                            (h body r token hash)
                        · exact ⟨_, rfl⟩

/-- **Invite expiry.**  A request is refused, or its invite expires when it was asked to, exactly
    if the product of the seconds is harmless whenever the other checks let the request
    through. -/
theorem invite_expiry_iff (env : InviteEnv) (req : InviteRequest) (d : Database) :
    (∀ body, req.body = some body →
        ExpiresAsRequested env body d (Server.createInvite env req d)) ↔
      ∀ body r token hash, InvitePasses env req body d r token hash →
        Harmless env.now body.expiresInSeconds := by
  by_cases hpasses : ∃ body r token hash, InvitePasses env req body d r token hash
  · obtain ⟨body, r, token, hash, hpass⟩ := hpasses
    have hone : (∀ body, req.body = some body →
        ExpiresAsRequested env body d (Server.createInvite env req d)) ↔
        ExpiresAsRequested env body d (Server.createInvite env req d) := by
      constructor
      · intro h
        exact h body hpass.decoded
      · intro h body' hbody'
        obtain rfl := Option.some.inj (hpass.decoded.symm.trans hbody')
        exact h
    have hall : (∀ body r token hash, InvitePasses env req body d r token hash →
        Harmless env.now body.expiresInSeconds) ↔ Harmless env.now body.expiresInSeconds := by
      constructor
      · intro h
        exact h body r token hash hpass
      · intro h body' r' token' hash' hpass'
        obtain rfl := Option.some.inj (hpass.decoded.symm.trans hpass'.decoded)
        exact h
    rw [hone, hall, createInvite_passes hpass]
    by_cases hlong : 30 * dayNs < grantedNs body.expiresInSeconds
    · rw [if_pos hlong]
      refine iff_of_true rfl (.inl ?_)
      unfold grantedNs at hlong
      split_ifs at hlong
      · exact absurd hlong (by unfold dayNs; omega)
      · exact hlong
    · rw [if_neg hlong, ← granted_iff env.now body.expiresInSeconds (Int.not_lt.mp hlong)]
      unfold ExpiresAsRequested
      refine and_congr_left (fun _ => ?_)
      constructor
      · rintro ⟨invite, hlookup, hexpiry⟩
        obtain rfl := Option.some.inj ((AList.lookup_insert _).symm.trans hlookup)
        exact Option.some.inj hexpiry
      · intro heq
        exact ⟨inviteRow env req body r hash, AList.lookup_insert _, congrArg some heq⟩
  · have hnone : ∀ body r token hash, ¬InvitePasses env req body d r token hash := by
      intro body r token hash h
      exact hpasses ⟨body, r, token, hash, h⟩
    obtain ⟨e, heq⟩ := createInvite_refused hnone
    refine iff_of_true ?_ ?_
    · intro body _
      rw [heq]
      rfl
    · intro body r token hash h
      exact absurd h (hnone body r token hash)

-- ============================================================================
-- A product that wraps
-- ============================================================================

/-- An open room of the host "h". -/
def hostedRoom : Database where
  users := ∅
  sessions := ∅
  rooms := (∅ : KeyedTable String Room).insert "r" (smallRoom "h")
  roomMembers := (∅ : KeyedTable (String × String) MemberRow).insert ("r", "h") ⟨.HOST, 0, none⟩
  invites := ∅
  guestSessions := ∅
  media := ∅
  uploads := ∅
  checkpoints := ∅

/-- Nothing fails. -/
def calmInviteEnv : InviteEnv :=
  ⟨true, none, false, 1700000000000000000, 1700000000000000000, "i", some ("t", "hash"), none⟩

/-- Five hundred and eighty-four years; the product wraps to 290 milliseconds. -/
def centuries : InviteBody := ⟨18446744074, none⟩

/-- The host asks for an invite that lasts for centuries. -/
def hostRequest : InviteRequest := ⟨"r", user "h", some centuries⟩

/-- The host asks for centuries and is given 290 milliseconds, where every other check passes
    and a lifetime above thirty days is to be refused. -/
theorem centuries_expire_at_once :
    (∃ invite, (Server.createInvite calmInviteEnv hostRequest hostedRoom).2.invites.lookup "i" =
        some invite ∧ invite.expiresAtMs = some 1700000000290) ∧
      ¬∀ (env : InviteEnv) (req : InviteRequest) (d : Database) (body : InviteBody),
        req.body = some body → ExpiresAsRequested env body d (Server.createInvite env req d) := by
  constructor
  · exact ⟨⟨"r", "hash", "h", some 1700000000290, none, 0, 1700000000000⟩, by decide +kernel, rfl⟩
  · intro hall
    have hok : (Server.createInvite calmInviteEnv hostRequest hostedRoom).1 =
        .ok ⟨"t", "i", ⟨"r", "hash", "h", some 1700000000290, none, 0, 1700000000000⟩⟩ := by
      decide +kernel
    have hasked := hall calmInviteEnv hostRequest hostedRoom centuries rfl
    rw [ExpiresAsRequested, hok] at hasked
    exact absurd (hasked.2 (by decide)) (by decide)

end WatchTogether.Rooms

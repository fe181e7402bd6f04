/-
  WatchTogether.Rooms.InviteAtomicity

  One call of `JoinInviteUser` or `JoinInviteGuest`, alone on a database, where every store
  call and every token may fail.

  The use of the invite is committed before the rest is done: what fails after it leaves
  the use counted and nobody in the room.  A call that fails earlier changes nothing.
-/

import WatchTogether.Rooms.InviteBudget

namespace WatchTogether.Rooms

open Repository Program
open Uploads (trimSpace)

-- ============================================================================
-- One call, alone
-- ============================================================================

/-- What a call meets, by the number of calls before it: the failure of the store, if it
    fails there, and the reading of the clock. -/
structure Surroundings where
  fault : Nat → Option StoreError
  clock : Nat → Int64

namespace Surroundings

/-- A call, on the database and with the number of the calls before it. -/
def exec (s : Surroundings) (c : JoinCall) (w : Database × Nat) : c.Answer × (Database × Nat) :=
  let out := c.exec (s.fault w.2) ⟨w.1, s.clock w.2⟩
  (out.1, (out.2.db, w.2 + 1))

/-- The program runs to its end. -/
def after {α : Type} (s : Surroundings) (p : JoinCode α) (d : Database) : α × Database :=
  let out := p.run s.exec (d, 0)
  (out.1, out.2.1)

@[simp] theorem exec_now (s : Surroundings) (w : Database × Nat) :
    s.exec .now w = (s.clock w.2, (w.1, w.2 + 1)) := rfl

theorem exec_failed {s : Surroundings} {d : Database} {n : Nat} {e : StoreError}
    (h : s.fault n = some e) :
    (∀ id, s.exec (.roomByID id) (d, n) = (.error e, (d, n + 1))) ∧
    (∀ hash t, s.exec (.inviteByHash hash t) (d, n) = (.error e, (d, n + 1))) ∧
    ∀ st, s.exec (.write st) (d, n) = (.error e, (d, n + 1)) := by
  refine ⟨fun id => ?_, fun hash t => ?_, fun st => ?_⟩ <;> simp only [exec, JoinCall.exec, h]

theorem exec_roomByID {s : Surroundings} {d : Database} {n : Nat} (h : s.fault n = none)
    (id : String) :
    s.exec (.roomByID id) (d, n) = (Store.roomByID id d.toDB, (d, n + 1)) := by
  simp only [exec, JoinCall.exec, h]

theorem exec_inviteByHash {s : Surroundings} {d : Database} {n : Nat} (h : s.fault n = none)
    (hash : String) (t : Int64) :
    s.exec (.inviteByHash hash t) (d, n) = (d.inviteByHash hash t, (d, n + 1)) := by
  simp only [exec, JoinCall.exec, h]

theorem exec_write {s : Surroundings} {d : Database} {n : Nat} (h : s.fault n = none)
    (st : Statement) :
    s.exec (.write st) (d, n) = ((st.perform d).1, ((st.perform d).2, n + 1)) := by
  simp only [exec, JoinCall.exec, h]

end Surroundings

-- ============================================================================
-- All or nothing
-- ============================================================================

/-- The row under `k` has become `r`, and no other row has changed. -/
def WritesRow {κ ρ : Type} [DecidableEq κ] (k : κ) (r : ρ) (t t' : KeyedTable κ ρ) : Prop :=
  ∀ k', t'.lookup k' = if k' = k then some r else t.lookup k'

theorem writesRow_insert {κ ρ : Type} [DecidableEq κ] (k : κ) (r : ρ) (t : KeyedTable κ ρ) :
    WritesRow k r t (t.insert k r) := by
  intro k'
  split
  · rename_i h
    rw [h]
    exact AList.lookup_insert t
  · rename_i h
    exact AList.lookup_insert_ne h

theorem writesRow_update {κ ρ : Type} [DecidableEq κ] {k : κ} {r : ρ} {t : KeyedTable κ ρ}
    (h : t.lookup k = some r) (g : ρ → ρ) : WritesRow k (g r) t (t.update k g) := by
  intro k'
  rw [AList.lookup_update, h]
  rfl

/-- Neither the invites nor those in the rooms have changed. -/
def Unchanged (d d' : Database) : Prop :=
  d'.invites = d.invites ∧ d'.roomMembers = d.roomMembers ∧ d'.guestSessions = d.guestSessions

/-- The `used_count` of an invite with the hash, to this room, has grown by one. -/
def UsedOnce (hash : String) (r : Room) (d d' : Database) : Prop :=
  ∃ id i, i.tokenHash = hash ∧ i.roomID = r.id ∧ d.invites.lookup id = some i ∧
    WritesRow id { i with usedCount := i.usedCount + 1 } d.invites d'.invites

/-- One membership of the user was added, reactivated or refreshed, and no guest session. -/
def EntersUser (userID : String) (r : Room) (d d' : Database) : Prop :=
  (∃ now, WritesRow (r.id, userID) ⟨.MEMBER, now, none⟩ d.roomMembers d'.roomMembers) ∧
    d'.guestSessions = d.guestSessions

/-- One guest session of the room was added, and no membership changed. -/
def EntersGuest (r : Room) (d d' : Database) : Prop :=
  (∃ id g, id ∉ d.guestSessions ∧ g.roomID = r.id ∧
    WritesRow id g d.guestSessions d'.guestSessions) ∧ d'.roomMembers = d.roomMembers

/-- A call that fails has changed nothing, one that succeeds has used the invite once and let
    one into the room. -/
def AllOrNothing {α : Type} (hash : String) (d : Database) (room : α → Room)
    (Enters : Room → Database → Database → Prop) :
    Except JoinError α × Database → Prop
  | (.error _, d') => Unchanged d d'
  | (.ok a, d') => UsedOnce hash (room a) d d' ∧ Enters (room a) d d'

/-- The use of the invite is carried out: its row is found by the hash, its room is open, and
    none of the three store calls fails. -/
structure Spends (s : Surroundings) (hash : String) (d : Database) (id : String) (i : InviteRow)
    (r : Room) : Prop where
  reads : s.fault 1 = none ∧ s.fault 2 = none
  invite : d.inviteByHash hash (s.clock 0) = .ok (id, i)
  room : Store.roomByID i.roomID d.toDB = .ok r
  isOpen : r.status ≠ .CLOSED
  write : s.fault 3 = none

/-- The database after the use. -/
def spent (id : String) (d : Database) : Database :=
  { d with invites := d.invites.update id (fun i => { i with usedCount := i.usedCount + 1 }) }

theorem inviteByHash_ok {hash : String} {now : Int64} {d : Database} {id : String}
    {i : InviteRow} (h : d.inviteByHash hash now = .ok (id, i)) :
    d.invites.lookup id = some i ∧ i.tokenHash = hash ∧ i.hasUses = true := by
  rw [Database.inviteByHash] at h
  split at h
  · rename_i e hfind
    obtain ⟨rfl, rfl⟩ := Prod.mk.inj (Except.ok.inj h)
    have hmem := List.mem_of_find?_eq_some hfind
    have hvalid := List.find?_some hfind
    simp only [Bool.and_eq_true, decide_eq_true_eq] at hvalid
    exact ⟨AList.mem_entries_iff.mp hmem, hvalid.1.1, hvalid.2⟩
  · exact absurd h (by simp)

theorem roomByID_ok {id : String} {d : Database} {r : Room}
    (h : Store.roomByID id d.toDB = .ok r) : id = r.id ∧ id ∈ d.rooms := by
  rw [Store.roomByID] at h
  split at h
  · rename_i row hrow
    obtain rfl := Except.ok.inj h
    exact ⟨rfl, AList.mem_of_lookup hrow⟩
  · exact absurd h (by simp)

theorem Spends.usedOnce {s : Surroundings} {hash : String} {d d' : Database} {id : String}
    {i : InviteRow} {r : Room} (h : Spends s hash d id i r) (hd : d'.invites = (spent id d).invites) :
    UsedOnce hash r d d' := by
  obtain ⟨hlookup, hhash, -⟩ := inviteByHash_ok h.invite
  refine ⟨id, i, hhash, (roomByID_ok h.room).1, hlookup, ?_⟩
  rw [hd]
  exact writesRow_update hlookup _

/-- A use that is counted can be seen. -/
theorem Spends.touched {s : Surroundings} {hash : String} {d d' : Database} {id : String}
    {i : InviteRow} {r : Room} (h : Spends s hash d id i r) (hd : d'.invites = (spent id d).invites) :
    ¬ Unchanged d d' := by
  rintro ⟨hsame, -⟩
  obtain ⟨hlookup, -⟩ := inviteByHash_ok h.invite
  have hused : (spent id d).invites.lookup id = some { i with usedCount := i.usedCount + 1 } := by
    rw [spent, AList.lookup_update_self, hlookup]
    rfl
  rw [hd.symm.trans hsame, hlookup] at hused
  have hcount : i.usedCount = i.usedCount + 1 := congrArg InviteRow.usedCount (Option.some.inj hused)
  omega

/-- What `useInvite` does: it fails and writes nothing, or it counts one use. -/
theorem run_useInvite (s : Surroundings) (hash : String) (d : Database) :
    (∃ e n, (useInvite hash).run s.exec (d, 0) = (.error e, (d, n)) ∧
      ∀ id i r, ¬ Spends s hash d id i r) ∨
    ∃ id i r, Spends s hash d id i r ∧
      (useInvite hash).run s.exec (d, 0) = (.ok r, (spent id d, 4)) := by
  simp only [useInvite, inviteInfo, bind_call, run_call, Surroundings.exec_now]
  cases hinvite : s.fault 1 with
  | some e =>
      rw [(Surroundings.exec_failed hinvite).2.1]
      refine .inl ⟨_, _, rfl, fun id i r h => ?_⟩
      exact absurd (hinvite.symm.trans h.reads.1) (by simp)
  | none =>
  rw [Surroundings.exec_inviteByHash hinvite]
  cases hfound : d.inviteByHash hash (s.clock 0) with
  | error e =>
      refine .inl ⟨_, _, rfl, fun id i r h => ?_⟩
      exact absurd (hfound.symm.trans h.invite) (by simp)
  | ok x =>
  obtain ⟨id, i⟩ := x
  simp only [bind_call, run_call]
  cases hread : s.fault 2 with
  | some e =>
      rw [(Surroundings.exec_failed hread).1]
      refine .inl ⟨_, _, rfl, fun id i r h => ?_⟩
      exact absurd (hread.symm.trans h.reads.2) (by simp)
  | none =>
  rw [Surroundings.exec_roomByID hread]
  -- a use is of this invite, for this room
  have hthis : ∀ id' i' r, Spends s hash d id' i' r →
      id' = id ∧ i' = i ∧ Store.roomByID i.roomID d.toDB = .ok r := by
    intro id' i' r h
    obtain ⟨rfl, rfl⟩ := Prod.mk.inj (Except.ok.inj (h.invite.symm.trans hfound))
    exact ⟨rfl, rfl, h.room⟩
  cases hroom : Store.roomByID i.roomID d.toDB with
  | error e =>
      refine .inl ⟨_, _, rfl, fun id' i' r h => ?_⟩
      exact absurd (hroom.symm.trans (hthis _ _ _ h).2.2) (by simp)
  | ok r =>
  simp only [bind_done]
  split
  · rename_i hclosed
    refine .inl ⟨_, _, rfl, fun id' i' r' h => ?_⟩
    obtain rfl := Except.ok.inj (hroom.symm.trans (hthis _ _ _ h).2.2)
    exact h.isOpen hclosed
  rename_i hopen
  simp only [run_call]
  cases hwrite : s.fault 3 with
  | some e =>
      rw [(Surroundings.exec_failed hwrite).2.2]
      refine .inl ⟨_, _, rfl, fun id' i' r' h => ?_⟩
      exact absurd (hwrite.symm.trans h.write) (by simp)
  | none =>
      have hspends : Spends s hash d id i r :=
        ⟨⟨hinvite, hread⟩, hfound, hroom, hopen, hwrite⟩
      have hperform : (Statement.consumeInvite id).perform d = (.ok (), spent id d) := by
        obtain ⟨hlookup, -, huses⟩ := inviteByHash_ok hfound
        show d.consumeInvite id = _
        rw [Database.consumeInvite, if_pos (by rw [hlookup]; exact huses)]
        rfl
      rw [Surroundings.exec_write hwrite, hperform]
      exact .inr ⟨id, i, r, hspends, rfl⟩

-- ============================================================================
-- The two functions
-- ============================================================================

/-- `AddMember` is carried out. -/
def AddsMember (s : Surroundings) (d : Database) (userID : String) : Prop :=
  s.fault 5 = none ∧ userID ∈ d.users

/-- The nickname passes its check. -/
def GuestEntry.named (g : GuestEntry) : Prop :=
  ¬((String.ofList (trimSpace g.nickname.toList)).length < 1 ∨
    60 < (String.ofList (trimSpace g.nickname.toList)).length)

/-- The two tokens are drawn, and `CreateGuestSession` is carried out: the id and the token
    of the session are new. -/
def AddsGuest (s : Surroundings) (d : Database) (g : GuestEntry) : Prop :=
  ∃ token csrf, g.token = some token ∧ g.csrf = some csrf ∧ s.fault 5 = none ∧
    g.id ∉ d.guestSessions ∧ ∀ x ∈ d.guestSessions.rows, x.tokenHash ≠ token.2

theorem unchanged_refl (d : Database) : Unchanged d d := ⟨rfl, rfl, rfl⟩

/-- A write that fails is reported, and the database stays as it is. -/
theorem exec_write_cases (s : Surroundings) (st : Statement) (d : Database) (n : Nat) :
    (s.fault n ≠ none ∧ ∃ e, s.exec (.write st) (d, n) = (.error e, (d, n + 1))) ∨
    (s.fault n = none ∧
      s.exec (.write st) (d, n) = ((st.perform d).1, ((st.perform d).2, n + 1))) := by
  cases h : s.fault n with
  | some e => exact .inl ⟨by simp, e, (Surroundings.exec_failed h).2.2 st⟩
  | none => exact .inr ⟨rfl, Surroundings.exec_write h st⟩

theorem user_all_or_nothing (s : Surroundings) (hash : String) (d : Database) (user : Identity) :
    AllOrNothing hash d (fun r => r) (EntersUser user.id) (s.after (joinInviteUser hash user) d) ↔
      (user.guest = false → ∀ id i r, Spends s hash d id i r → AddsMember s d user.id) := by
  rw [Surroundings.after, joinInviteUser]
  cases hguest : user.guest with
  | true => exact ⟨fun _ h => absurd h (by simp), fun _ => unchanged_refl d⟩
  | false =>
  simp only [Bool.false_eq_true, if_false, run_bind, forall_const]
  rcases run_useInvite s hash d with ⟨e, n, hrun, hnone⟩ | ⟨id, i, r, hspends, hrun⟩
  · rw [hrun]
    exact ⟨fun _ id i r h => absurd h (hnone id i r), fun _ => unchanged_refl d⟩
  rw [hrun]
  simp only [run_call, Surroundings.exec_now]
  rcases exec_write_cases s (.addMember r.id user.id (s.clock 4)) (spent id d) 5 with
    ⟨hfault, e, hexec⟩ | ⟨hfault, hexec⟩
  · -- the database fails
    rw [hexec]
    constructor
    · exact fun h => absurd h (hspends.touched rfl)
    · exact fun h => absurd (h id i r hspends).1 hfault
  have hperform : (Statement.addMember r.id user.id (s.clock 4)).perform (spent id d) =
      Database.lift (Store.addMember r.id user.id (s.clock 4)) (spent id d) := rfl
  have hroom : r.id ∈ (spent id d).toDB.rooms := by
    obtain ⟨hid, hmem⟩ := roomByID_ok hspends.room
    rw [← hid]
    exact hmem
  have husers : user.id ∈ (spent id d).toDB.users ↔ user.id ∈ d.users := AList.mem_mapRows
  rw [hexec, hperform, Database.lift, Store.addMember]
  by_cases huser : user.id ∈ d.users
  · rw [if_pos ⟨hroom, husers.mpr huser⟩]
    constructor
    · exact fun _ _ _ _ _ => ⟨hfault, huser⟩
    · exact fun _ => ⟨hspends.usedOnce rfl, ⟨s.clock 4, writesRow_insert _ _ _⟩, rfl⟩
  · -- the user is gone
    rw [if_neg (fun h => huser (husers.mp h.2))]
    constructor
    · exact fun h => absurd h (hspends.touched rfl)
    · exact fun h => absurd (h id i r hspends).2 huser

theorem guest_all_or_nothing (s : Surroundings) (hash : String) (d : Database) (g : GuestEntry) :
    AllOrNothing hash d (fun x => x.1) EntersGuest (s.after (joinInviteGuest hash g) d) ↔
      (g.named → ∀ id i r, Spends s hash d id i r → AddsGuest s d g) := by
  rw [Surroundings.after, joinInviteGuest, GuestEntry.named]
  split
  · rename_i hname
    exact ⟨fun _ h => absurd hname h, fun _ => unchanged_refl d⟩
  rename_i hname
  simp only [hname, not_false_eq_true, forall_const, run_bind]
  rcases run_useInvite s hash d with ⟨e, n, hrun, hnone⟩ | ⟨id, i, r, hspends, hrun⟩
  · rw [hrun]
    exact ⟨fun _ id i r h => absurd h (hnone id i r), fun _ => unchanged_refl d⟩
  rw [hrun]
  dsimp only
  split
  · rename_i token tokenHash csrf csrfHash htoken hcsrf
    simp only [run_call, Surroundings.exec_now]
    generalize hg : (⟨r.id, _, tokenHash, csrfHash, _, _⟩ : GuestRow) = row
    have hrow : row.tokenHash = tokenHash ∧ row.roomID = r.id := by
      rw [← hg]
      exact ⟨rfl, rfl⟩
    -- what the condition says at these tokens
    have hadds : AddsGuest s d g ↔ s.fault 5 = none ∧ g.id ∉ d.guestSessions ∧
        ∀ x ∈ d.guestSessions.rows, x.tokenHash ≠ tokenHash := by
      constructor
      · rintro ⟨t, c, ht, hc, hrest⟩
        obtain rfl := Option.some.inj (htoken.symm.trans ht)
        exact hrest
      · exact fun h => ⟨_, _, htoken, hcsrf, h⟩
    rcases exec_write_cases s (.createGuestSession g.id row) (spent id d) 5 with
      ⟨hfault, e, hexec⟩ | ⟨hfault, hexec⟩
    · -- the database fails
      rw [hexec]
      constructor
      · exact fun h => absurd h (hspends.touched rfl)
      · exact fun h => absurd (hadds.mp (h id i r hspends)).1 hfault
    have hperform : (Statement.createGuestSession g.id row).perform (spent id d) =
        Database.lift (Store.createGuestSession g.id row) (spent id d) := rfl
    have hroom : row.roomID ∈ (spent id d).toDB.rooms := by
      obtain ⟨hid, hmem⟩ := roomByID_ok hspends.room
      rw [hrow.2, ← hid]
      exact hmem
    have hnew : (g.id ∈ (spent id d).toDB.guestSessions ∨
        (spent id d).toDB.guestSessions.rows.any (fun x => x.tokenHash = row.tokenHash) = true) ↔
        ¬(g.id ∉ d.guestSessions ∧ ∀ x ∈ d.guestSessions.rows, x.tokenHash ≠ tokenHash) := by
      rw [hrow.1, not_and_or, not_not]
      simp [spent, Database.toDB]
    rw [hexec, hperform, Database.lift, Store.createGuestSession]
    by_cases hfresh : g.id ∉ d.guestSessions ∧ ∀ x ∈ d.guestSessions.rows, x.tokenHash ≠ tokenHash
    · rw [if_neg (fun h => hnew.mp h hfresh), if_pos hroom]
      constructor
      · exact fun _ _ _ _ _ => hadds.mpr ⟨hfault, hfresh⟩
      · exact fun _ => ⟨hspends.usedOnce rfl,
          ⟨g.id, row, hfresh.1, hrow.2, writesRow_insert _ _ _⟩, rfl⟩
    · -- the session is refused
      rw [if_pos (hnew.mpr hfresh)]
      constructor
      · exact fun h => absurd h (hspends.touched rfl)
      · exact fun h => absurd (hadds.mp (h id i r hspends)).2 hfresh
  · -- a token could not be drawn
    rename_i hdrawn
    constructor
    · exact fun h => absurd h (hspends.touched rfl)
    · intro h
      obtain ⟨⟨t, th⟩, ⟨c, ch⟩, htoken, hcsrf, -⟩ := h id i r hspends
      exact absurd hcsrf (hdrawn t th c ch htoken)

/-- **Joining by invite.**  A call is all or nothing exactly if what follows the use of the
    invite succeeds whenever the use is carried out: the membership of a user that still
    exists, or the two tokens and the new session of a guest. -/
theorem joins_whole_iff (s : Surroundings) (hash : String) (d : Database) :
    (∀ user : Identity,
      AllOrNothing hash d (fun r => r) (EntersUser user.id)
          (s.after (joinInviteUser hash user) d) ↔
        (user.guest = false → ∀ id i r, Spends s hash d id i r → AddsMember s d user.id)) ∧
    (∀ g : GuestEntry,
      AllOrNothing hash d (fun x => x.1) EntersGuest (s.after (joinInviteGuest hash g) d) ↔
        (g.named → ∀ id i r, Spends s hash d id i r → AddsGuest s d g)) :=
  ⟨user_all_or_nothing s hash d, guest_all_or_nothing s hash d⟩

-- ============================================================================
-- A use for nobody
-- ============================================================================

/-- The clock stands at 10, and the sixth call finds the database locked. -/
def lockedLate : Surroundings :=
  ⟨fun n => if n = 5 then some (.failed "database is locked") else none, fun _ => 10⟩

/-- `AddMember` fails, and the only use of the invite is gone. -/
theorem use_lost :
    ¬ AllOrNothing "#invite" InviteBudget.oneInvite (fun r => r) (EntersUser "u")
      (lockedLate.after (joinInviteUser "#invite" ⟨.USER, "user", "u", "User", "", false⟩)
        InviteBudget.oneInvite) := by
  intro h
  have hsame : (spent "i" InviteBudget.oneInvite).invites = InviteBudget.oneInvite.invites := h.1
  have hused : (spent "i" InviteBudget.oneInvite).invites.lookup "i" ≠
      InviteBudget.oneInvite.invites.lookup "i" := by decide
  exact hused (congrArg (fun t => t.lookup "i") hsame)

end WatchTogether.Rooms

/-
  WatchTogether.Rooms.ClosedRooms

  Requests to enter a room beside its closing and reopening.  Every request reads the
  room before it inserts anybody, and a closed room is read as closed; but the insertion
  asks for the room's status no more, so a `CloseRoom` between the two is overtaken.
-/

import WatchTogether.Rooms.Invites

namespace WatchTogether.Rooms.ClosedRooms

open LabelledRun Repository

-- ============================================================================
-- Runs
-- ============================================================================

/-- What happens beside the requests. -/
inductive Event where
  | closeRoom (now : Int64)
  | reopenRoom (now : Int64)
  | cleanup (now : Int64)
  | tick (t : Int64)
deriving DecidableEq

/-- The statement of an event of the room. -/
def Event.statement (roomID : String) : Event → Option Statement
  | closeRoom now => some (.closeRoom roomID now)
  | reopenRoom now => some (.reopenRoom roomID now)
  | cleanup now => some (.cleanup now)
  | tick _ => none

/-- The world after the event. -/
def Event.occur (roomID : String) (e : Event) (w : JoinWorld) : JoinWorld :=
  match e, e.statement roomID with
  | _, some st => { w with db := (st.perform w.db).2 }
  | tick t, none => { w with clock := max w.clock t }
  | _, none => w

/-- Requests to enter a room. -/
abbrev Entries : Type := Pool JoinRequest JoinCall JoinCall.Answer JoinWorld

/-- A call of a request, the start of one, or an event of other code. -/
abbrev Entries.Step : Type := Pool.Move JoinRequest (Option StoreError) Event

/-- One step of the requests. -/
abbrev Entries.step (roomID : String) (s : Entries) (l : Entries.Step) : Entries :=
  Pool.step JoinRequest.code JoinCall.exec (Event.occur roomID) s l

/-- The database, the clock and the requests after a run. -/
def Entries.after (roomID : String) (w : JoinWorld) (ls : List Entries.Step) : Entries :=
  run (Entries.step roomID) ⟨w, []⟩ ls

/-- The calls of a run, with their answers. -/
def Entries.log (roomID : String) (w : JoinWorld) (ls : List Entries.Step) :
    List (Nat × Exchange JoinCall JoinCall.Answer) :=
  Pool.log JoinRequest.code JoinCall.exec (Event.occur roomID) ⟨w, []⟩ ls

-- ============================================================================
-- What must hold
-- ============================================================================

/-- A member has become active, or a guest session of the room was created. -/
def Entered (roomID : String) (d d' : Database) : Prop :=
  (∃ u, d.toDB.activeMember roomID u = false ∧ d'.toDB.activeMember roomID u = true) ∨
    ∃ k, d.toDB.guestOf roomID k = false ∧ d'.toDB.guestOf roomID k = true

/-- No `ReopenRoom` is among the steps. -/
def NoReopen (ls : List Entries.Step) : Prop := ∀ now, .disturb (.reopenRoom now) ∉ ls

/-- Nobody enters between a `CloseRoom` and the next `ReopenRoom`, so until then the room
    has no guest sessions, and only the members it had when it was closed. -/
structure AdmitsNobody (roomID : String) (w : JoinWorld) (ls : List Entries.Step) : Prop where
  entered : ∀ a now c l rest, ls = a ++ .disturb (.closeRoom now) :: (c ++ l :: rest) → NoReopen c →
    ¬Entered roomID (Entries.after roomID w (a ++ .disturb (.closeRoom now) :: c)).world.db
      (Entries.after roomID w (a ++ .disturb (.closeRoom now) :: (c ++ [l]))).world.db
  left : ∀ a now c rest, ls = a ++ .disturb (.closeRoom now) :: (c ++ rest) → NoReopen c →
    (∀ k, (Entries.after roomID w
        (a ++ .disturb (.closeRoom now) :: c)).world.db.toDB.guestOf roomID k = false) ∧
    ∀ u, (Entries.after roomID w
        (a ++ .disturb (.closeRoom now) :: c)).world.db.toDB.activeMember roomID u = true →
      (Entries.after roomID w a).world.db.toDB.activeMember roomID u = true

/-- The statement lets somebody into the room who is not there. -/
def Newcomer (roomID : String) (d : Database) (st : Statement) : Prop :=
  (∃ u now, st = .addMember roomID u now ∧ roomID ∈ d.rooms ∧ u ∈ d.users ∧
    d.toDB.activeMember roomID u = false) ∨
  ∃ id g, st = .createGuestSession id g ∧ g.roomID = roomID ∧ roomID ∈ d.rooms ∧
    id ∉ d.guestSessions ∧ ∀ x ∈ d.guestSessions.rows, x.tokenHash ≠ g.tokenHash

/-- Request `i` reads the room, which is not closed. -/
def ReadsOpen (roomID : String) (s : Entries) (i : Nat) : Prop :=
  (∃ t, s.pending i = some (t, .roomByID roomID)) ∧
    ∃ r, s.world.db.rooms.lookup roomID = some r ∧ r.status ≠ .CLOSED

/-- A request has read the room as open, the room is closed, and before it is opened again
    the request carries out the insertion of somebody new. -/
def Overtaken (roomID : String) (w : JoinWorld) (ls : List Entries.Step) : Prop :=
  ∃ a i b now c rest t st,
    ls = a ++ .advance i none ::
      (b ++ .disturb (.closeRoom now) :: (c ++ .advance i none :: rest)) ∧
    ReadsOpen roomID (Entries.after roomID w a) i ∧ NoReopen c ∧
    (Entries.after roomID w
      (a ++ .advance i none :: (b ++ .disturb (.closeRoom now) :: c))).pending i
        = some (t, .write st) ∧
    Newcomer roomID (Entries.after roomID w
      (a ++ .advance i none :: (b ++ .disturb (.closeRoom now) :: c))).world.db st

-- ============================================================================
-- Statements
-- ============================================================================

theorem not_entered_refl (roomID : String) (d : Database) : ¬Entered roomID d d := by
  rintro (⟨u, hbefore, hafter⟩ | ⟨k, hbefore, hafter⟩)
  · exact absurd (hbefore.symm.trans hafter) (by simp)
  · exact absurd (hbefore.symm.trans hafter) (by simp)

/-- Nobody enters by a statement that inserts no member and no guest session. -/
theorem not_entered {roomID : String} {d d' : Database} (hmembers : d'.roomMembers = d.roomMembers)
    (hguests : ∀ k g, d'.guestSessions.lookup k = some g → d.guestSessions.lookup k = some g) :
    ¬Entered roomID d d' := by
  rintro (⟨u, hbefore, hafter⟩ | ⟨k, hbefore, hafter⟩)
  · rw [DB.activeMember, show d'.toDB.roomMembers = d.roomMembers from hmembers] at hafter
    exact absurd (hbefore.symm.trans hafter) (by simp)
  · obtain ⟨g, hg, hroom⟩ := Store.guestOf_iff.mp hafter
    have hthere : d.toDB.guestOf roomID k = true := Store.guestOf_iff.mpr ⟨g, hguests k g hg, hroom⟩
    exact absurd (hbefore.symm.trans hthere) (by simp)

/-- `AddMember`. -/
theorem entered_addMember (roomID room u : String) (now : Int64) (d : Database) :
    Entered roomID d (Statement.perform (.addMember room u now) d).2 ↔
      Newcomer roomID d (.addMember room u now) := by
  by_cases hfk : room ∈ d.toDB.rooms ∧ u ∈ d.toDB.users
  · have hrun : (Statement.perform (.addMember room u now) d).2
        = { d with roomMembers := d.roomMembers.insert (room, u) ⟨.MEMBER, now, none⟩ } := by
      rw [Statement.perform, Database.lift, Store.addMember, if_pos hfk]
      rfl
    rw [hrun]
    constructor
    · rintro (⟨v, hbefore, hafter⟩ | ⟨k, hbefore, hafter⟩)
      · obtain ⟨m, hm, hleft⟩ := Store.activeMember_iff.mp hafter
        obtain ⟨hk, -⟩ | ⟨-, hold⟩ := AList.lookup_insert_iff.mp hm
        · obtain ⟨rfl, rfl⟩ := Prod.mk.inj hk
          exact .inl ⟨v, now, rfl, hfk.1, AList.mem_mapRows.mp hfk.2, hbefore⟩
        · have hthere : d.toDB.activeMember roomID v = true :=
            Store.activeMember_iff.mpr ⟨m, hold, hleft⟩
          exact absurd (hbefore.symm.trans hthere) (by simp)
      · exact absurd (hbefore.symm.trans hafter) (by simp)
    · rintro (⟨v, now', heq, -, -, hnew⟩ | ⟨id, g, heq, -⟩)
      · obtain ⟨rfl, rfl, -⟩ := Statement.addMember.inj heq
        refine .inl ⟨u, hnew, ?_⟩
        exact Store.activeMember_iff.mpr ⟨_, AList.lookup_insert _, rfl⟩
      · exact absurd heq (by simp)
  · have hrun : (Statement.perform (.addMember room u now) d).2 = d := by
      rw [Statement.perform, Database.lift, Store.addMember, if_neg hfk]
      rfl
    rw [hrun]
    refine ⟨fun h => absurd h (not_entered_refl roomID d), ?_⟩
    rintro (⟨v, now', heq, hroom, huser, -⟩ | ⟨id, g, heq, -⟩)
    · obtain ⟨rfl, rfl, -⟩ := Statement.addMember.inj heq
      exact absurd ⟨hroom, AList.mem_mapRows.mpr huser⟩ hfk
    · exact absurd heq (by simp)

/-- `CreateGuestSession`. -/
theorem entered_createGuestSession (roomID id : String) (g : GuestRow) (d : Database) :
    Entered roomID d (Statement.perform (.createGuestSession id g) d).2 ↔
      Newcomer roomID d (.createGuestSession id g) := by
  constructor
  · rintro (⟨u, hbefore, hafter⟩ | ⟨k, hbefore, hafter⟩)
    · have hmembers : (Statement.perform (.createGuestSession id g) d).2.roomMembers
          = d.roomMembers := by
        simp only [Statement.perform, Database.lift, Store.createGuestSession]
        repeat' split
        all_goals rfl
      rw [DB.activeMember, show (Statement.perform (.createGuestSession id g) d).2.toDB.roomMembers
        = d.roomMembers from hmembers] at hafter
      exact absurd (hbefore.symm.trans hafter) (by simp)
    · obtain ⟨row, hrow, hroom⟩ := Store.guestOf_iff.mp hafter
      obtain ⟨hnew, hfree⟩ | hold := guest_perform hrow
      · obtain ⟨rfl, rfl⟩ := Prod.mk.inj (Option.some.inj hnew)
        refine .inr ⟨id, g, rfl, hroom, ?_, ?_, hfree⟩
        · -- The foreign key.
          by_contra hnone
          simp only [Statement.perform, Database.lift, Store.createGuestSession] at hafter
          split at hafter
          · exact absurd (hbefore.symm.trans hafter) (by simp)
          · rw [if_neg (by rw [hroom]; exact hnone)] at hafter
            exact absurd (hbefore.symm.trans hafter) (by simp)
        · intro hmem
          obtain ⟨old, hold⟩ := AList.mem_iff_lookup.mp hmem
          simp only [Statement.perform, Database.lift, Store.createGuestSession] at hafter
          rw [if_pos (.inl hmem)] at hafter
          exact absurd (hbefore.symm.trans hafter) (by simp)
      · have hthere : d.toDB.guestOf roomID k = true := Store.guestOf_iff.mpr ⟨row, hold, hroom⟩
        exact absurd (hbefore.symm.trans hthere) (by simp)
  · rintro (⟨u, now, heq, -⟩ | ⟨id', g', heq, hroom, hfk, hid, htoken⟩)
    · exact absurd heq (by simp)
    · obtain ⟨rfl, rfl⟩ := Statement.createGuestSession.inj heq
      have hfree : ¬(id ∈ d.toDB.guestSessions ∨
          d.toDB.guestSessions.rows.any (fun x => x.tokenHash = g.tokenHash) = true) := by
        rintro (hmem | hany)
        · exact hid hmem
        · obtain ⟨x, hx, hsame⟩ := List.any_eq_true.mp hany
          exact htoken x hx (by simpa using hsame)
      have hroom' : g.roomID ∈ d.toDB.rooms := by
        rw [hroom]
        exact hfk
      have hrun : (Statement.perform (.createGuestSession id g) d).2
          = { d with guestSessions := d.guestSessions.insert id g } := by
        rw [Statement.perform, Database.lift, Store.createGuestSession, if_neg hfree, if_pos hroom']
        rfl
      rw [hrun]
      refine .inr ⟨id, ?_, ?_⟩
      · rw [← Bool.not_eq_true, Store.guestOf_iff]
        rintro ⟨old, hold, -⟩
        exact hid (AList.mem_of_lookup hold)
      · exact Store.guestOf_iff.mpr ⟨g, AList.lookup_insert _, hroom⟩

/-- The statement is one that requests write. -/
def Written (st : Statement) : Prop := (∃ room, Inserts st room) ∨ ∃ id, st = .consumeInvite id

theorem entered_written {roomID : String} {st : Statement} (hst : Written st) (d : Database) :
    Entered roomID d (st.perform d).2 ↔ Newcomer roomID d st := by
  obtain ⟨room, ⟨u, now, rfl⟩ | ⟨id, g, rfl, -⟩⟩ | ⟨id, rfl⟩ := hst
  · exact entered_addMember roomID room u now d
  · exact entered_createGuestSession roomID id g d
  · have hnone : ¬Entered roomID d (Statement.perform (.consumeInvite id) d).2 := by
      apply not_entered
      · simp only [Statement.perform, Database.consumeInvite]
        split <;> rfl
      · intro k g hg
        rw [guests_perform rfl] at hg
        exact hg
    refine ⟨fun h => absurd h hnone, ?_⟩
    rintro (⟨u, now, heq, -⟩ | ⟨k, g, heq, -⟩)
    · exact absurd heq (by simp)
    · exact absurd heq (by simp)

theorem rooms_written {st : Statement} (hst : Written st) (d : Database) :
    (st.perform d).2.rooms = d.rooms := by
  obtain ⟨room, ⟨u, now, rfl⟩ | ⟨id, g, rfl, -⟩⟩ | ⟨id, rfl⟩ := hst
  · exact rooms_perform rfl
  · exact rooms_perform rfl
  · exact rooms_perform rfl

/-- Whom a statement lets in, it inserts. -/
theorem Newcomer.inserts {roomID : String} {d : Database} {st : Statement}
    (h : Newcomer roomID d st) : Inserts st roomID := by
  obtain ⟨u, now, heq, -⟩ | ⟨id, g, heq, hroom, -⟩ := h
  · exact .inl ⟨u, now, heq⟩
  · exact .inr ⟨id, g, heq, hroom⟩

-- ============================================================================
-- Steps
-- ============================================================================

/-- Every request keeps its rules. -/
abbrev Ruled (h : List (Nat × Exchange JoinCall JoinCall.Answer)) (s : Entries) : Prop :=
  Pool.MeetsAll JoinRules (fun _ _ _ => True) h s

theorem ruled_run (roomID : String) (w : JoinWorld) (ls : List Entries.Step) :
    Ruled (Entries.log roomID w ls) (Entries.after roomID w ls) :=
  Pool.meets_run meets_code rfl ls

theorem after_snoc (roomID : String) (w : JoinWorld) (ls : List Entries.Step) (l : Entries.Step) :
    Entries.after roomID w (ls ++ [l]) = Entries.step roomID (Entries.after roomID w ls) l := by
  rw [Entries.after, run_append]
  rfl

/-- A step that lets somebody in carries out an insertion of somebody new. -/
theorem entered_step {roomID : String} {h : List (Nat × Exchange JoinCall JoinCall.Answer)}
    {s : Entries} (hs : Ruled h s) (l : Entries.Step) :
    Entered roomID s.world.db (Entries.step roomID s l).world.db ↔
      ∃ i t st, l = .advance i none ∧ s.pending i = some (t, .write st) ∧
        Newcomer roomID s.world.db st := by
  constructor
  · intro hentered
    cases l with
    | start t => exact absurd hentered (not_entered_refl roomID _)
    | disturb e =>
        exfalso
        revert hentered
        cases e with
        | closeRoom now =>
            refine not_entered rfl (fun k g hg => ?_)
            have hold := (AList.lookup_restrict _ _ k).symm.trans hg
            exact (Option.filter_eq_some_iff.mp hold).1
        | reopenRoom now =>
            apply not_entered
            · show (Statement.perform (.reopenRoom roomID now) s.world.db).2.roomMembers = _
              simp only [Statement.perform, Database.lift, Store.reopenRoom]
              split <;> rfl
            · intro k g hg
              have hsame : (Statement.perform (.reopenRoom roomID now) s.world.db).2.guestSessions
                  = s.world.db.guestSessions := guests_perform rfl
              exact (congrArg (fun t => AList.lookup k t) hsame).symm.trans hg
        | cleanup now =>
            refine not_entered rfl (fun k g hg => ?_)
            have hold := (AList.lookup_restrict _ _ k).symm.trans hg
            exact (Option.filter_eq_some_iff.mp hold).1
        | tick t => exact not_entered_refl roomID _
    | advance i fault =>
        cases hpending : s.pending i with
        | none =>
            rw [Entries.step, Pool.step_advance_none hpending] at hentered
            exact absurd hentered (not_entered_refl roomID _)
        | some x =>
            obtain ⟨t, c⟩ := x
            rw [Entries.step, Pool.step_advance_world hpending] at hentered
            have hrules := hs.pending hpending
            cases c with
            | write st =>
                cases fault with
                | some e => exact absurd hentered (not_entered_refl roomID _)
                | none =>
                    exact ⟨i, t, st, rfl, hpending,
                      (entered_written (hrules.write st rfl) _).mp hentered⟩
            | roomByID | inviteByHash =>
                cases fault <;> exact absurd hentered (not_entered_refl roomID _)
            | now | reply => exact absurd hentered (not_entered_refl roomID _)
  · rintro ⟨i, t, st, rfl, hpending, hnew⟩
    rw [Entries.step, Pool.step_advance_world hpending]
    exact (entered_written ((hs.pending hpending).write st rfl) _).mpr hnew

/-- The row of the room, if there is one, is closed. -/
def Closed (roomID : String) (d : Database) : Prop :=
  ∀ r, d.rooms.lookup roomID = some r → r.status = .CLOSED

/-- A closed room stays closed until it is reopened. -/
theorem closed_step {roomID : String} {h : List (Nat × Exchange JoinCall JoinCall.Answer)}
    {s : Entries} (hs : Ruled h s) (hclosed : Closed roomID s.world.db) {l : Entries.Step}
    (hl : ∀ now, l ≠ .disturb (.reopenRoom now)) :
    Closed roomID (Entries.step roomID s l).world.db := by
  cases l with
  | start t => exact hclosed
  | disturb e =>
      cases e with
      | closeRoom now =>
          intro r hr
          obtain ⟨r', -, rfl⟩ := Option.map_eq_some_iff.mp
            ((AList.lookup_update_self _ _ _).symm.trans hr)
          rfl
      | reopenRoom now => exact absurd rfl (hl now)
      | cleanup now => exact hclosed
      | tick t => exact hclosed
  | advance i fault =>
      cases hpending : s.pending i with
      | none =>
          rw [Entries.step, Pool.step_advance_none hpending]
          exact hclosed
      | some x =>
          obtain ⟨t, c⟩ := x
          rw [Entries.step, Pool.step_advance_world hpending]
          have hrules := hs.pending hpending
          cases c with
          | write st =>
              cases fault with
              | some e => exact hclosed
              | none =>
                  intro r hr
                  have hsame := rooms_written (hrules.write st rfl) s.world.db
                  exact hclosed r ((congrArg (fun t => AList.lookup roomID t) hsame).symm.trans hr)
          | roomByID | inviteByHash => cases fault <;> exact hclosed
          | now | reply => exact hclosed

theorem NoReopen.of_append {c c' : List Entries.Step} (h : NoReopen (c ++ c')) : NoReopen c :=
  fun now hmem => h now (List.mem_append_left _ hmem)

/-- From a `CloseRoom` to the next `ReopenRoom` the room is closed. -/
theorem closed_run {roomID : String} {w : JoinWorld} {a : List Entries.Step} {now : Int64}
    {c : List Entries.Step} (hc : NoReopen c) :
    Closed roomID (Entries.after roomID w (a ++ .disturb (.closeRoom now) :: c)).world.db := by
  induction c using List.reverseRecOn with
  | nil =>
      intro r hr
      rw [after_snoc] at hr
      obtain ⟨r', -, rfl⟩ := Option.map_eq_some_iff.mp
        ((AList.lookup_update_self _ _ _).symm.trans hr)
      rfl
  | append_singleton c l ih =>
      have hsplit : a ++ .disturb (.closeRoom now) :: (c ++ [l])
          = (a ++ .disturb (.closeRoom now) :: c) ++ [l] := by simp
      rw [hsplit, after_snoc]
      refine closed_step (ruled_run roomID w _) (ih hc.of_append) ?_
      rintro now' rfl
      exact hc now' (List.mem_append_right _ List.mem_cons_self)

-- ============================================================================
-- Who enters a closed room has overtaken its closing
-- ============================================================================

theorem after_closed_snoc (roomID : String) (w : JoinWorld) (a : List Entries.Step) (now : Int64)
    (c : List Entries.Step) (l : Entries.Step) :
    Entries.after roomID w (a ++ .disturb (.closeRoom now) :: (c ++ [l]))
      = Entries.step roomID (Entries.after roomID w (a ++ .disturb (.closeRoom now) :: c)) l := by
  rw [← after_snoc]
  congr 1
  simp

/-- Where a request has read the room as open, and when. -/
theorem readsOpen_of_ruled {roomID : String} {w : JoinWorld} {ls : List Entries.Step} {i : Nat}
    (h : ReadOpen (Pool.own i (Entries.log roomID w ls)) roomID) :
    ∃ pre post, ls = pre ++ .advance i none :: post ∧
      ReadsOpen roomID (Entries.after roomID w pre) i := by
  obtain ⟨q, r, hmem, hopen, hid⟩ := h
  obtain ⟨pre, fault, post, t, hls, hpending, hanswer⟩ := Pool.mem_log (Pool.mem_own.mp hmem)
  cases fault with
  | some e => exact absurd hanswer (by simp [JoinCall.exec])
  | none =>
      have hroom : Store.roomByID q (Entries.after roomID w pre).world.db.toDB = .ok r :=
        hanswer.symm
      rw [Store.roomByID] at hroom
      split at hroom
      · rename_i row hrow
        obtain rfl := Except.ok.inj hroom
        obtain rfl : roomID = q := by
          obtain hq | hq := hid
          · exact hq
          · exact hq
        exact ⟨pre, post, hls, ⟨t, hpending⟩, row, hrow, hopen⟩
      · exact absurd hroom (by simp)

/-- Somebody who enters after a `CloseRoom` has overtaken it. -/
theorem overtaken_of_entered {roomID : String} {w : JoinWorld} {a : List Entries.Step} {now : Int64}
    {c : List Entries.Step} {l : Entries.Step} {rest : List Entries.Step} (hc : NoReopen c)
    (hentered : Entered roomID
      (Entries.after roomID w (a ++ .disturb (.closeRoom now) :: c)).world.db
      (Entries.after roomID w (a ++ .disturb (.closeRoom now) :: (c ++ [l]))).world.db) :
    Overtaken roomID w (a ++ .disturb (.closeRoom now) :: (c ++ l :: rest)) := by
  have hrules := ruled_run roomID w (a ++ .disturb (.closeRoom now) :: c)
  rw [after_closed_snoc] at hentered
  obtain ⟨i, t, st, rfl, hpending, hnew⟩ := (entered_step hrules l).mp hentered
  have hread := (hrules.pending hpending).insert st roomID rfl hnew.inserts
  obtain ⟨pre, post, hsplit, hopen⟩ := readsOpen_of_ruled hread
  rcases List.append_eq_append_iff.mp hsplit with ⟨mid, rfl, hrest⟩ | ⟨mid, rfl, hrest⟩
  · -- The room was read after it was closed.
    exfalso
    cases mid with
    | nil => exact absurd (List.cons.inj hrest).1 (by simp)
    | cons x mid =>
        obtain ⟨rfl, rfl⟩ := List.cons.inj hrest
        obtain ⟨-, r, hr, hstatus⟩ := hopen
        exact hstatus (closed_run (w := w) (a := a) hc.of_append r hr)
  · cases mid with
    | nil => exact absurd (List.cons.inj hrest).1 (by simp)
    | cons x mid =>
        obtain ⟨rfl, rfl⟩ := List.cons.inj hrest
        refine ⟨pre, i, mid, now, c, rest, t, st, by simp, hopen, hc, ?_, ?_⟩
        · rw [List.append_assoc] at hpending
          exact hpending
        · rw [List.append_assoc] at hnew
          exact hnew

/-- While nobody enters, a closed room has no guest sessions, and no new members. -/
theorem left_of_entered {roomID : String} {w : JoinWorld} {a : List Entries.Step} {now : Int64}
    {c : List Entries.Step} (hc : NoReopen c)
    (hnone : ∀ c₁ l c₂, c = c₁ ++ l :: c₂ → ¬Entered roomID
      (Entries.after roomID w (a ++ .disturb (.closeRoom now) :: c₁)).world.db
      (Entries.after roomID w (a ++ .disturb (.closeRoom now) :: (c₁ ++ [l]))).world.db) :
    (∀ k, (Entries.after roomID w
        (a ++ .disturb (.closeRoom now) :: c)).world.db.toDB.guestOf roomID k = false) ∧
    ∀ u, (Entries.after roomID w
        (a ++ .disturb (.closeRoom now) :: c)).world.db.toDB.activeMember roomID u = true →
      (Entries.after roomID w a).world.db.toDB.activeMember roomID u = true := by
  induction c using List.reverseRecOn with
  | nil =>
      rw [after_snoc]
      refine ⟨?_, fun u hu => hu⟩
      intro k
      rw [← Bool.not_eq_true, Store.guestOf_iff]
      rintro ⟨g, hg, hroom⟩
      have hkept := (AList.lookup_restrict _ _ k).symm.trans hg
      exact absurd hroom (by simpa using (Option.filter_eq_some_iff.mp hkept).2)
  | append_singleton c l ih =>
      have hold := ih hc.of_append (fun c₁ x c₂ heq => hnone c₁ x (c₂ ++ [l]) (by rw [heq]; simp))
      have hstep := hnone c l [] rfl
      rw [Entered, not_or, not_exists, not_exists] at hstep
      constructor
      · intro k
        have hk := hstep.2 k
        rw [hold.1 k] at hk
        simpa using hk
      · intro u hu
        apply hold.2
        have hmember := hstep.1 u
        rw [hu] at hmember
        simpa using hmember

/-- **Closed rooms.**  Nobody enters a closed room exactly if no request that has read the
    room as open carries out its insertion of somebody new after a `CloseRoom` and before
    the next `ReopenRoom`. -/
theorem admits_nobody_iff (roomID : String) (w : JoinWorld) (ls : List Entries.Step) :
    AdmitsNobody roomID w ls ↔ ¬Overtaken roomID w ls := by
  constructor
  · rintro hnobody ⟨a, i, b, now, c, rest, t, st, rfl, -, hc, hpending, hnew⟩
    have hsplit : a ++ .advance i none :: (b ++ .disturb (.closeRoom now) ::
          (c ++ .advance i none :: rest))
        = (a ++ .advance i none :: b) ++ .disturb (.closeRoom now) ::
          (c ++ .advance i none :: rest) := by simp
    have hclosed : a ++ .advance i none :: (b ++ .disturb (.closeRoom now) :: c)
        = (a ++ .advance i none :: b) ++ .disturb (.closeRoom now) :: c := by simp
    rw [hclosed] at hpending hnew
    refine hnobody.entered _ now c _ rest hsplit hc ?_
    rw [after_closed_snoc]
    exact (entered_step (ruled_run roomID w _) _).mpr ⟨i, t, st, rfl, hpending, hnew⟩
  · intro hnone
    have hentered : ∀ a now c l rest, ls = a ++ .disturb (.closeRoom now) :: (c ++ l :: rest) →
        NoReopen c → ¬Entered roomID
          (Entries.after roomID w (a ++ .disturb (.closeRoom now) :: c)).world.db
          (Entries.after roomID w (a ++ .disturb (.closeRoom now) :: (c ++ [l]))).world.db := by
      rintro a now c l rest rfl hc hin
      exact hnone (overtaken_of_entered hc hin)
    refine ⟨hentered, ?_⟩
    intro a now c rest hls hc
    apply left_of_entered hc
    rintro c₁ l c₂ rfl
    refine hentered a now c₁ l (c₂ ++ rest) ?_ hc.of_append
    rw [hls]
    simp

-- ============================================================================
-- A join and a guest that overtake a closing
-- ============================================================================

/-- A host, a user, and an open room with an invite. -/
def openWorld : JoinWorld where
  db :=
    { Database.empty with
      users := ((∅ : KeyedTable String AccountRow).insert "h"
        ⟨"host", "", "Host", 0, 0, .USER, false⟩).insert "u"
        ⟨"user", "", "User", 0, 0, .USER, false⟩
      rooms := (∅ : KeyedTable String Room).insert "r"
        { id := "r", code := "CODE2345", title := "Room", hostUserID := "h", status := .OPEN
          joinPolicy := .OPEN, mediaID := none, maxMembers := 20
          createdAtMs := 1, updatedAtMs := 1, closedAtMs := none }
      invites := (∅ : KeyedTable String InviteRow).insert "i"
        ⟨"r", "#invite", "h", some 100, none, 0, 5⟩ }
  clock := 10

/-- The room is closed between the read of a `Join` and its `AddMember`, and between the
    use of an invite by a guest and the guest's session. -/
def lateEntries : List Entries.Step :=
  [ .start (.join "r" ⟨.USER, "user", "u", "User", "", false⟩), .advance 0 none,
    .start (.inviteGuest "#invite" ⟨"Guest", 1000, "g", some ("t", "#t"), some ("c", "#c")⟩),
    .advance 1 none, .advance 1 none, .advance 1 none, .advance 1 none,
    .disturb (.closeRoom 20), .advance 0 none, .advance 0 none, .advance 1 none, .advance 1 none]

/-- The closed room has the user as a member, and a guest session. -/
theorem closed_room_entered :
    ¬AdmitsNobody "r" openWorld lateEntries ∧
    (Entries.after "r" openWorld lateEntries).world.db.toDB.activeMember "r" "u" = true ∧
    (Entries.after "r" openWorld lateEntries).world.db.toDB.guestOf "r" "g" = true := by
  refine ⟨?_, by decide, by decide⟩
  intro h
  have hguests := (h.left (lateEntries.take 7) 20 (lateEntries.drop 8) [] rfl ?_).1 "g"
  · exact absurd hguests (by decide)
  · intro now hmem
    simp [lateEntries] at hmem

end WatchTogether.Rooms.ClosedRooms

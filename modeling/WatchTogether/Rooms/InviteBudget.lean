/-
  WatchTogether.Rooms.InviteBudget

  Any number of requests with one invite.  The invite is looked up in one statement and
  used in another, so the lookup bounds nothing; `ConsumeInvite` counts a use only while
  there is one left, and every success has a use of its own.
-/

import WatchTogether.Accounts.Credentials
import WatchTogether.Rooms.Invites

namespace WatchTogether.Rooms.InviteBudget

open LabelledRun Repository

-- ============================================================================
-- Runs
-- ============================================================================

/-- The requests that present the token of the invite. -/
abbrev Presenting (hash : String) : Type := { t : JoinRequest // t.hash = some hash }

/-- Everything else: `Cleanup` and all other statements but a second invite with the same id
    or token, and the clock. -/
inductive Event (id hash : String) where
  | statement (st : Statement) (h : ∀ k i, st.newInvite = some (k, i) → k ≠ id ∧ i.tokenHash ≠ hash)
  | tick (t : Int64)

/-- The world after the event. -/
def Event.occur {id hash : String} : Event id hash → JoinWorld → JoinWorld
  | statement st _, w => { w with db := (st.perform w.db).2 }
  | tick t, w => { w with clock := max w.clock t }

/-- Requests that present one token. -/
abbrev Calls (hash : String) : Type := Pool (Presenting hash) JoinCall JoinCall.Answer JoinWorld

/-- A call of a request, the start of one, or an event of other code. -/
abbrev Calls.Step (id hash : String) : Type :=
  Pool.Move (Presenting hash) (Option StoreError) (Event id hash)

/-- The code that serves the request. -/
def Presenting.code {hash : String} (t : Presenting hash) : JoinCode Unit := t.1.code

/-- The database, the clock and the requests after a run. -/
def Calls.after {id hash : String} (w : JoinWorld) (ls : List (Calls.Step id hash)) : Calls hash :=
  run (Pool.step Presenting.code JoinCall.exec Event.occur) ⟨w, []⟩ ls

/-- The exchanges of all requests of a run. -/
def Calls.log {id hash : String} (w : JoinWorld) (ls : List (Calls.Step id hash)) :
    List (Nat × Exchange JoinCall JoinCall.Answer) :=
  Pool.log Presenting.code JoinCall.exec Event.occur ⟨w, []⟩ ls

/-- The number of requests that have returned success. -/
def Calls.successes {id hash : String} (w : JoinWorld) (ls : List (Calls.Step id hash)) : Nat :=
  (Calls.log w ls).countP (fun x => replied x.2)

-- ============================================================================
-- Successes and uses
-- ============================================================================

/-- A success follows the use of the invite, and is the only answer. -/
theorem replied_le_consumed (hash : String) (t : Presenting hash) (es : Exchanges) (c : JoinCall)
    (r : c.Answer) (hc : JoinRules t.1 es c) (hes : es.countP replied ≤ es.countP consumed) :
    List.countP replied (es ++ [⟨c, r⟩]) ≤ List.countP consumed (es ++ [⟨c, r⟩]) := by
  rw [List.countP_append, List.countP_append]
  by_cases hreply : c = .reply true
  · subst hreply
    have hpresents : t.1.hash ≠ none := by
      rw [t.2]
      simp
    obtain ⟨hnone, hone⟩ := hc.reply rfl hpresents
    rw [hnone, hone]
    exact Nat.le_add_right 1 _
  · have hlast : replied ⟨c, r⟩ = false := by
      cases c with
      | reply ok =>
          cases ok with
          | true => exact absurd rfl hreply
          | false => rfl
      | _ => rfl
    have hzero : List.countP replied [(⟨c, r⟩ : Exchange JoinCall JoinCall.Answer)] = 0 := by
      rw [List.countP_singleton, hlast]
      rfl
    omega

theorem successes_le_uses {id hash : String} (w : JoinWorld) (ls : List (Calls.Step id hash)) :
    Calls.successes w ls ≤ (Calls.log w ls).countP (fun x => consumed x.2) := by
  apply Pool.countP_le_of_own
  intro i
  exact Pool.own_run (P := fun t => JoinRules t.1) (Q := fun _ _ _ => True)
    (J := fun es => es.countP replied ≤ es.countP consumed)
    (fun t => meets_code t.1) (fun t es c r => replied_le_consumed hash t es c r)
    (Nat.le_refl 0) rfl ls i

-- ============================================================================
-- The row of the invite
-- ============================================================================

/-- The row as it was inserted, with `n` uses at least counted, and at most `m`. -/
structure RowOk (id : String) (row : InviteRow) (m n : Int) (d : Database) : Prop where
  unique : ∀ k r, d.invites.lookup k = some r → r.tokenHash = row.tokenHash → k = id
  row : ∀ r, d.invites.lookup id = some r →
    { r with usedCount := row.usedCount } = row ∧ n ≤ r.usedCount ∧ r.usedCount ≤ m
  bound : n ≤ m

/-- A statement that is no second invite keeps the row. -/
theorem RowOk.perform {id : String} {row : InviteRow} {m n : Int} (hmax : row.maxUses = some m)
    {d : Database} (h : RowOk id row m n d) (st : Statement)
    (hst : ∀ k i, st.newInvite = some (k, i) → k ≠ id ∧ i.tokenHash ≠ row.tokenHash) :
    RowOk id row m n (st.perform d).2 := by
  refine ⟨?_, ?_, h.bound⟩
  · intro k r hr htoken
    obtain hnew | ⟨i, hi, rfl | ⟨-, -, rfl⟩⟩ := invite_perform hr
    · exact absurd htoken (hst k r hnew).2
    · exact h.unique k r hi htoken
    · exact h.unique k i hi htoken
  · intro r hr
    obtain hnew | ⟨i, hi, rfl | ⟨-, huses, rfl⟩⟩ := invite_perform hr
    · exact absurd rfl (hst id r hnew).1
    · exact h.row r hi
    · obtain ⟨hsame, hlo, hhi⟩ := h.row i hi
      have hlimit : i.maxUses = some m := by
        rw [← hmax, ← hsame]
      rw [InviteRow.hasUses, hlimit, Option.all_some, decide_eq_true_eq] at huses
      refine ⟨hsame, ?_, ?_⟩
      · show n ≤ i.usedCount + 1
        omega
      · show i.usedCount + 1 ≤ m
        omega

/-- A use that is counted is one more. -/
theorem RowOk.consume {id : String} {row : InviteRow} {m n : Int} (hmax : row.maxUses = some m)
    {d : Database} (h : RowOk id row m n d) (hok : (Database.consumeInvite id d).1 = .ok ()) :
    RowOk id row m (n + 1) (Database.consumeInvite id d).2 := by
  have hafter : RowOk id row m n (Database.consumeInvite id d).2 :=
    h.perform hmax (.consumeInvite id) (fun k i hnew => absurd hnew (by simp [Statement.newInvite]))
  rw [Database.consumeInvite] at hok hafter ⊢
  split at hok
  · rename_i huses
    rw [if_pos huses] at hafter ⊢
    obtain ⟨i, hi, huses⟩ := Option.any_eq_true _ _ |>.mp huses
    obtain ⟨hsame, hlo, hhi⟩ := h.row i hi
    have hlimit : i.maxUses = some m := by
      rw [← hmax, ← hsame]
    rw [InviteRow.hasUses, hlimit, Option.all_some, decide_eq_true_eq] at huses
    refine ⟨hafter.unique, ?_, by omega⟩
    intro r hr
    have hrow : some { i with usedCount := i.usedCount + 1 } = some r := by
      rw [← hr, AList.lookup_update_self, hi, Option.map_some]
    obtain rfl := Option.some.inj hrow
    refine ⟨hsame, ?_, ?_⟩
    · show n + 1 ≤ i.usedCount + 1
      omega
    · show i.usedCount + 1 ≤ m
      omega
  · exact absurd hok (by simp)

-- ============================================================================
-- The log and the row
-- ============================================================================

/-- An answer to `InviteByHash` for the hash is the invite, before its expiry. -/
def Truthful (id : String) (row : InviteRow) : Exchange JoinCall JoinCall.Answer → Prop
  | ⟨.inviteByHash hash t, .ok (k, _)⟩ =>
      hash = row.tokenHash → k = id ∧ row.expiresAtMs.all (fun e => decide (t < e)) = true
  | _ => True

/-- The uses that the requests have made. -/
def uses (h : List (Nat × Exchange JoinCall JoinCall.Answer)) : Int :=
  h.countP (fun x => consumed x.2)

theorem uses_append (h : List (Nat × Exchange JoinCall JoinCall.Answer)) (i : Nat)
    (e : Exchange JoinCall JoinCall.Answer) :
    uses (h ++ [(i, e)]) = uses h + if consumed e then 1 else 0 := by
  rw [uses, uses, List.countP_append, List.countP_singleton, Nat.cast_add]
  split <;> rfl

/-- The invariant of a run: what the requests have read is the invite, and every use they
    have made is counted. -/
structure Counted (id : String) (row : InviteRow) (m : Int)
    (h : List (Nat × Exchange JoinCall JoinCall.Answer)) (s : Calls row.tokenHash) : Prop where
  rules : Pool.MeetsAll (fun t => JoinRules t.1) (fun _ _ _ => True) h s
  truthful : ∀ x ∈ h, Truthful id row x.2
  row : RowOk id row m (row.usedCount + uses h) s.world.db

/-- What `InviteByHash` answers. -/
theorem truthful_inviteByHash {id : String} {row : InviteRow} {m n : Int} {w : JoinWorld}
    (h : RowOk id row m n w.db) (fault : Option StoreError) (hash : String) (t : Int64) :
    Truthful id row ⟨.inviteByHash hash t, (JoinCall.exec fault (.inviteByHash hash t) w).1⟩ := by
  cases fault with
  | some e => trivial
  | none =>
      show Truthful id row ⟨.inviteByHash hash t, w.db.inviteByHash hash t⟩
      rw [Database.inviteByHash]
      split
      · rename_i e hfind
        rintro rfl
        have hrow := AList.mem_entries_iff.mp (List.mem_of_find?_eq_some hfind)
        have hvalid := List.find?_some hfind
        simp only [Bool.and_eq_true, decide_eq_true_eq] at hvalid
        have hid : e.1 = id := h.unique e.1 e.2 hrow hvalid.1.1
        rw [hid] at hrow
        obtain ⟨hsame, -, -⟩ := h.row e.2 hrow
        refine ⟨hid, ?_⟩
        rw [← hsame]
        exact hvalid.1.2
      · trivial

theorem truthful_of_other {id : String} {row : InviteRow} {c : JoinCall} (r : c.Answer)
    (hc : ∀ hash t, c ≠ .inviteByHash hash t) : Truthful id row ⟨c, r⟩ := by
  cases c with
  | inviteByHash hash t => exact absurd rfl (hc hash t)
  | _ => trivial

/-- `ConsumeInvite`, with its result. -/
theorem rowOk_consume {id : String} {row : InviteRow} {m n : Int} (hmax : row.maxUses = some m)
    {d : Database} (h : RowOk id row m n d) :
    RowOk id row m
      (n + if consumed ⟨.write (.consumeInvite id), (Database.consumeInvite id d).1⟩ then 1 else 0)
      (Database.consumeInvite id d).2 := by
  cases hok : (Database.consumeInvite id d).1 with
  | ok _ => exact h.consume hmax hok
  | error e =>
      rw [show consumed ⟨.write (.consumeInvite id), .error e⟩ = false from rfl, if_neg (by simp),
        Int.add_zero]
      exact h.perform hmax (.consumeInvite id)
        (fun k i hnew => absurd hnew (by simp [Statement.newInvite]))

/-- A request writes what the row bears, and its uses are of the invite. -/
theorem rowOk_write {id : String} {row : InviteRow} {m : Int} (hmax : row.maxUses = some m)
    {h : List (Nat × Exchange JoinCall JoinCall.Answer)} {s : Calls row.tokenHash}
    (hs : Counted id row m h s) {i : Nat} {t : Presenting row.tokenHash} {st : Statement}
    (hpending : s.pending i = some (t, .write st)) (fault : Option StoreError) :
    RowOk id row m
      (row.usedCount + uses h +
        if consumed ⟨.write st, (JoinCall.exec fault (.write st) s.world).1⟩ then 1 else 0)
      (JoinCall.exec fault (.write st) s.world).2.db := by
  have hrules := hs.rules.pending hpending
  cases fault with
  | some e =>
      have hzero : consumed ⟨.write st, .error e⟩ = false := by
        cases st <;> rfl
      show RowOk id row m (_ + if consumed ⟨.write st, .error e⟩ then 1 else 0) s.world.db
      rw [hzero, if_neg (by simp), Int.add_zero]
      exact hs.row
  | none =>
      obtain ⟨roomID, hinsert⟩ | ⟨k, rfl⟩ := hrules.write st rfl
      · have hplain : (∀ k i, st.newInvite ≠ some (k, i)) ∧
            consumed ⟨.write st, (st.perform s.world.db).1⟩ = false := by
          rcases hinsert with ⟨u, now, rfl⟩ | ⟨g, row', rfl, -⟩
          · exact ⟨fun k i hnew => absurd hnew (by simp [Statement.newInvite]), rfl⟩
          · exact ⟨fun k i hnew => absurd hnew (by simp [Statement.newInvite]), rfl⟩
        show RowOk id row m
          (_ + if consumed ⟨.write st, (st.perform s.world.db).1⟩ then 1 else 0)
          (st.perform s.world.db).2
        rw [hplain.2, if_neg (by simp), Int.add_zero]
        exact hs.row.perform hmax _ (fun k i hnew => absurd hnew (hplain.1 k i))
      · -- The invite that is used is the one that was read.
        obtain ⟨hash, hhash, t', i', -, hread⟩ := hrules.consume k rfl
        obtain rfl := Option.some.inj (t.2.symm.trans hhash)
        have hk : k = id := (hs.truthful _ (Pool.mem_own.mp hread) rfl).1
        subst hk
        exact rowOk_consume hmax hs.row

/-- A call that writes nothing leaves the database. -/
theorem exec_read {c : JoinCall} (hc : ∀ st, c ≠ .write st) (fault : Option StoreError)
    (w : JoinWorld) : (JoinCall.exec fault c w).2 = w := by
  cases c with
  | write st => exact absurd rfl (hc st)
  | roomByID | inviteByHash => cases fault <;> rfl
  | now | reply => rfl

theorem consumed_read {c : JoinCall} (r : c.Answer) (hc : ∀ st, c ≠ .write st) :
    consumed ⟨c, r⟩ = false := by
  cases c with
  | write st => exact absurd rfl (hc st)
  | _ => rfl

/-- **Step.** -/
theorem counted_step {id : String} {row : InviteRow} {m : Int} (hmax : row.maxUses = some m)
    (h : List (Nat × Exchange JoinCall JoinCall.Answer)) (s : Calls row.tokenHash)
    (l : Calls.Step id row.tokenHash) (hs : Counted id row m h s) :
    Counted id row m (h ++ Pool.see JoinCall.exec s l)
      (s.step Presenting.code JoinCall.exec Event.occur l) := by
  refine ⟨Pool.MeetsAll.step (fun t => meets_code t.1) hs.rules l, ?_, ?_⟩
  · cases l with
    | start t =>
        simp only [Pool.see, List.append_nil]
        exact hs.truthful
    | disturb e =>
        simp only [Pool.see, List.append_nil]
        exact hs.truthful
    | advance i fault =>
        intro x hx
        obtain hold | hnew := List.mem_append.mp hx
        · exact hs.truthful x hold
        rw [Pool.see] at hnew
        split at hnew
        · rename_i t c k hthread
          obtain rfl := List.mem_singleton.mp hnew
          by_cases hc : ∃ hash t', c = .inviteByHash hash t'
          · obtain ⟨hash, t', rfl⟩ := hc
            exact truthful_inviteByHash hs.row fault hash t'
          · exact truthful_of_other _ (fun hash t' heq => hc ⟨hash, t', heq⟩)
        · exact absurd hnew List.not_mem_nil
  · cases l with
    | start t =>
        simp only [Pool.see, List.append_nil]
        exact hs.row
    | disturb e =>
        simp only [Pool.see, List.append_nil]
        cases e with
        | statement st hst => exact hs.row.perform hmax _ hst
        | tick t => exact hs.row
    | advance i fault =>
        cases hpending : s.pending i with
        | none =>
            rw [Pool.own_see_done hpending, List.append_nil, Pool.step_advance_none hpending]
            exact hs.row
        | some x =>
            obtain ⟨t, c⟩ := x
            obtain ⟨k, hthread⟩ := Pool.thread_of_pending hpending
            have hsee : Pool.see (E := Event id row.tokenHash) JoinCall.exec s (.advance i fault)
                = [(i, ⟨c, (JoinCall.exec fault c s.world).1⟩)] := by
              rw [Pool.see, hthread]
            rw [hsee, uses_append, Pool.step_advance_world hpending, ← Int.add_assoc]
            by_cases hc : ∃ st, c = .write st
            · obtain ⟨st, rfl⟩ := hc
              exact rowOk_write hmax hs hpending fault
            · have hread : ∀ st, c ≠ .write st := fun st heq => hc ⟨st, heq⟩
              rw [consumed_read _ hread, exec_read hread, if_neg (by simp), Int.add_zero]
              exact hs.row

-- ============================================================================
-- Late requests
-- ============================================================================

/-- A use or a success was preceded by a lookup of the invite. -/
def LooksUp (hash : String) (es : Exchanges) : Prop :=
  ∀ e ∈ es, consumed e = true ∨ replied e = true → ∃ id, ReadInvite es hash id

theorem readInvite_append {es es' : Exchanges} {hash id : String} (h : ReadInvite es hash id) :
    ReadInvite (es ++ es') hash id := by
  obtain ⟨t, i, hnow, hread⟩ := h
  exact ⟨t, i, List.mem_append_left _ hnow, List.mem_append_left _ hread⟩

theorem looksUp_step (hash : String) (t : Presenting hash) (es : Exchanges) (c : JoinCall)
    (r : c.Answer) (hc : JoinRules t.1 es c) (hes : LooksUp hash es) :
    LooksUp hash (es ++ [⟨c, r⟩]) := by
  intro e he hkind
  have hsome : ∃ id, ReadInvite es hash id := by
    obtain hold | hnew := List.mem_append.mp he
    · exact hes e hold hkind
    obtain rfl := List.mem_singleton.mp hnew
    cases c with
    | write st =>
        cases st with
        | consumeInvite id =>
            obtain ⟨hash', hhash, hread⟩ := hc.consume id rfl
            obtain rfl := Option.some.inj (t.2.symm.trans hhash)
            exact ⟨id, hread⟩
        | _ => exact absurd hkind (by simp [consumed, replied])
    | reply ok =>
        cases ok with
        | false => exact absurd hkind (by simp [consumed, replied])
        | true =>
            have hone := (hc.reply rfl (by simp [t.2])).2
            obtain ⟨e', he', hused⟩ := List.countP_pos_iff.mp (by omega : 0 < es.countP consumed)
            exact hes e' he' (.inl hused)
    | _ => exact absurd hkind (by simp [consumed, replied])
  obtain ⟨id, hread⟩ := hsome
  exact ⟨id, readInvite_append hread⟩

theorem exec_clock (fault : Option StoreError) (c : JoinCall) (w : JoinWorld) :
    (JoinCall.exec fault c w).2.clock = w.clock := by
  cases c with
  | roomByID | inviteByHash | write => cases fault <;> rfl
  | now | reply => rfl

/-- The clock goes forward. -/
theorem clock_run {id hash : String} (s : Calls hash) (ls : List (Calls.Step id hash)) :
    s.world.clock
      ≤ (run (Pool.step Presenting.code JoinCall.exec Event.occur) s ls).world.clock := by
  induction ls generalizing s with
  | nil => exact Int64.le_refl _
  | cons l ls ih =>
      refine Int64.le_trans ?_ (ih _)
      cases l with
      | start t => exact Int64.le_refl _
      | disturb e =>
          cases e with
          | statement st hst => exact Int64.le_refl _
          | tick t => exact Accounts.le_max _ t
      | advance i fault =>
          cases hpending : s.pending i with
          | none =>
              rw [Pool.step_advance_none hpending]
              exact Int64.le_refl _
          | some x =>
              rw [Pool.step_advance_world hpending, exec_clock]
              exact Int64.le_refl _

theorem counted_run {id : String} {row : InviteRow} {m : Int} (hmax : row.maxUses = some m)
    {w : JoinWorld} (hrow : RowOk id row m row.usedCount w.db)
    (ls : List (Calls.Step id row.tokenHash)) :
    Counted id row m (Calls.log w ls) (Calls.after w ls) := by
  have hinit : Counted id row m [] (⟨w, []⟩ : Calls row.tokenHash) := by
    refine ⟨Pool.MeetsAll.init rfl, fun x hx => absurd hx List.not_mem_nil, ?_⟩
    rw [show uses [] = 0 from rfl, Int.add_zero]
    exact hrow
  have hrun : Counted id row m ([] ++ Calls.log w ls) (Calls.after w ls) :=
    run_history_invariant (I := Counted id row m) (fun h s l hs => counted_step hmax h s l hs)
      hinit ls
  rw [List.nil_append] at hrun
  exact hrun

/-- A request that is started after the expiry is not answered with success. -/
theorem late_fails {id : String} {row : InviteRow} {m : Int} (hmax : row.maxUses = some m)
    {w : JoinWorld} (hrow : RowOk id row m row.usedCount w.db)
    {pre post : List (Calls.Step id row.tokenHash)} {t : Presenting row.tokenHash} {e : Int64}
    (hexpires : row.expiresAtMs = some e) (hlate : e ≤ (Calls.after w pre).world.clock) :
    ((Calls.after w pre).threads.length, ⟨.reply true, ()⟩)
      ∉ Calls.log w (pre ++ .start t :: post) := by
  intro hreply
  have hlooks : LooksUp row.tokenHash
      (Pool.own (Calls.after w pre).threads.length (Calls.log w (pre ++ .start t :: post))) :=
    Pool.own_run (P := fun t => JoinRules t.1) (Q := fun _ _ _ => True)
      (J := LooksUp row.tokenHash) (fun t => meets_code t.1)
      (fun t es c r => looksUp_step row.tokenHash t es c r) (fun _ h => absurd h List.not_mem_nil)
      rfl _ _
  obtain ⟨k, n, i, hnow, hread⟩ := hlooks _ (Pool.mem_own.mpr hreply) (.inr rfl)
  -- The lookup found the invite at `n`, which is before the expiry.
  have hvalid := ((counted_run hmax hrow _).truthful _ (Pool.mem_own.mp hread) rfl).2
  rw [hexpires, Option.all_some, decide_eq_true_eq] at hvalid
  -- The clock showed `n` to the request, which was not there before `pre` ended.
  obtain ⟨pre', fault, post', t', hls, hpending, hclock⟩ := Pool.mem_log (Pool.mem_own.mp hnow)
  obtain ⟨mid, rfl⟩ := Pool.started_before hls (Nat.le_refl _) hpending
  have hmono := clock_run (Calls.after w pre) mid
  have hn : n = (run (Pool.step Presenting.code JoinCall.exec Event.occur)
      (Calls.after w pre) mid).world.clock := by
    rw [run_append] at hclock
    exact hclock
  rw [← hn] at hmono
  exact absurd hvalid (Int64.not_lt.mpr (Int64.le_trans hlate hmono))

/-- **Invite budget.**  In every state that any number of requests with the token of an
    invite reach beside all other traffic: the uses that the row counts are at most
    `max_uses`, no more requests than that have been answered with success, and a request
    that was started at or after the expiry has not. -/
theorem invite_budget (w : JoinWorld) (id : String) (row : InviteRow) (m : Int)
    (hrow : w.db.invites.lookup id = some row) (hmax : row.maxUses = some m)
    (hused : 0 ≤ row.usedCount ∧ row.usedCount ≤ m)
    (hunique : ∀ k r, w.db.invites.lookup k = some r → r.tokenHash = row.tokenHash → k = id)
    (ls : List (Calls.Step id row.tokenHash)) :
    (∀ r, (Calls.after w ls).world.db.invites.lookup id = some r → r.usedCount ≤ m) ∧
    (Calls.successes w ls : Int) ≤ m ∧
    ∀ pre t post e, ls = pre ++ .start t :: post → row.expiresAtMs = some e →
      e ≤ (Calls.after w pre).world.clock →
      ((Calls.after w pre).threads.length, ⟨.reply true, ()⟩) ∉ Calls.log w ls := by
  have hok : RowOk id row m row.usedCount w.db := by
    refine ⟨hunique, ?_, hused.2⟩
    intro r hr
    obtain rfl := Option.some.inj (hrow.symm.trans hr)
    exact ⟨rfl, le_refl _, hused.2⟩
  have hrun := counted_run hmax hok ls
  refine ⟨fun r hr => (hrun.row.row r hr).2.2, ?_, ?_⟩
  · have hsuccesses := successes_le_uses w ls
    have hbound := hrun.row.bound
    rw [uses] at hbound
    omega
  · rintro pre t post e rfl hexpires hlate
    exact late_fails hmax hok hexpires hlate

-- ============================================================================
-- Two requests for one use
-- ============================================================================

/-- An invite for one use. -/
def singleUse : InviteRow := ⟨"r", "#invite", "h", some 100, some 1, 0, 5⟩

/-- A host, a user, an open room, and an invite for one. -/
def oneInvite : Database :=
  { Database.empty with
    users := ((∅ : KeyedTable String AccountRow).insert "h"
      ⟨"host", "", "Host", 0, 0, .USER, false⟩).insert "u"
      ⟨"user", "", "User", 0, 0, .USER, false⟩
    rooms := (∅ : KeyedTable String Room).insert "r"
      { id := "r", code := "CODE2345", title := "Room", hostUserID := "h", status := .OPEN
        joinPolicy := .INVITE, mediaID := none, maxMembers := 20
        createdAtMs := 1, updatedAtMs := 1, closedAtMs := none }
    invites := (∅ : KeyedTable String InviteRow).insert "i" singleUse }

/-- A user presents the token. -/
def byUser : Presenting "#invite" :=
  ⟨.inviteUser "#invite" ⟨.USER, "user", "u", "User", "", false⟩, rfl⟩

/-- A guest presents the token. -/
def byGuest : Presenting "#invite" :=
  ⟨.inviteGuest "#invite" ⟨"Guest", 1000, "g", some ("t", "#t"), some ("c", "#c")⟩, rfl⟩

/-- Both look the invite up before either uses it; a third comes after the expiry. -/
def race : List (Calls.Step "i" "#invite") :=
  [ .start byUser, .start byGuest, .advance 0 none, .advance 1 none, .advance 0 none,
    .advance 1 none, .advance 0 none, .advance 1 none, .advance 1 none, .advance 0 none,
    .advance 1 none, .advance 0 none, .advance 1 none, .advance 1 none, .disturb (.tick 100),
    .start byGuest, .advance 2 none, .advance 2 none, .advance 2 none]

theorem invite_budget_race :
    Calls.successes ⟨oneInvite, 10⟩ race = 1 ∧
    (Calls.successes ⟨oneInvite, 10⟩ race : Int) ≤ 1 ∧
    (2, ⟨.reply true, ()⟩) ∉ Calls.log ⟨oneInvite, 10⟩ race := by
  have hunique : ∀ k r, oneInvite.invites.lookup k = some r →
      r.tokenHash = singleUse.tokenHash → k = "i" := by
    intro k r hr _
    obtain ⟨rfl, -⟩ | ⟨-, hold⟩ := AList.lookup_insert_iff.mp hr
    · rfl
    · exact absurd hold (AList.lookup_ne_of_empty rfl k r)
  obtain ⟨-, hcount, hlate⟩ := invite_budget ⟨oneInvite, 10⟩ "i" singleUse 1 (by decide) rfl
    (by decide) hunique race
  exact ⟨by decide, hcount, hlate (race.take 15) byGuest (race.drop 16) 100 rfl rfl (by decide)⟩

end WatchTogether.Rooms.InviteBudget

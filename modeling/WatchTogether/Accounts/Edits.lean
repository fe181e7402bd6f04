/-
  WatchTogether.Accounts.Edits

  Administrators' edits of accounts at the same time.  `adminUpdateUser` reads the user,
  puts the fields of the request over what it has read, and writes the whole row; what
  another request has written into the other columns since the read is overwritten.
-/

import WatchTogether.Lib.CallLog
import WatchTogether.Accounts.SuperAdmin

namespace WatchTogether.Accounts

open LabelledRun Repository
open Rooms (StoreError)
open Uploads (Response)

-- ============================================================================
-- Runs
-- ============================================================================

/-- A statement on other tables than `users` and `sessions`. -/
abbrev Elsewhere : Type := { st : Statement // st.onAccounts = false }

/-- Edits of accounts. -/
abbrev Edits : Type := Pool Edit Call Call.Answer Database

/-- A call of an edit, the start of one, or a statement of other code. -/
abbrev Edits.Step : Type := Pool.Move Edit (Option StoreError) Elsewhere

/-- What other code writes. -/
def Edits.write (st : Elsewhere) (d : Database) : Database := (st.1.perform d).2

/-- One step of the edits. -/
def Edits.step (s : AuthService) (p : Edits) (l : Edits.Step) : Edits :=
  Pool.step (adminUpdateUser s) (exec s) Edits.write p l

/-- The database and the requests after a run. -/
def Edits.after (s : AuthService) (d : Database) (ls : List Edits.Step) : Edits :=
  run (Edits.step s) ⟨d, []⟩ ls

/-- The calls of a request in a run. -/
def Edits.calls (s : AuthService) (d : Database) (ls : List Edits.Step) (i : Nat) :
    List (Exchange Call Call.Answer) :=
  Pool.own i (Pool.log (adminUpdateUser s) (exec s) Edits.write ⟨d, []⟩ ls)

/-- The request whose update the step carries out. -/
def Edits.seeCommit (p : Edits) : Edits.Step → List (Nat × Edit)
  | .advance i none =>
      match p.pending i with
      | some (e, .write st) =>
          match (st.perform p.world).1 with
          | .ok _ => [(i, e)]
          | .error _ => []
      | _ => []
  | _ => []

/-- The requests whose update is carried out, in this order. -/
def Edits.commits (s : AuthService) (d : Database) (ls : List Edits.Step) : List (Nat × Edit) :=
  history (Edits.step s) Edits.seeCommit ⟨d, []⟩ ls

-- ============================================================================
-- What must hold
-- ============================================================================

/-- The request is served alone. -/
def alone (s : AuthService) (d : Database) (e : Edit) : Database :=
  ((adminUpdateUser s e).run (exec s none) d).2

/-- The accounts are those after the requests that were carried out, one after another in
    some order. -/
def EditsSerial (s : AuthService) (d : Database) (ls : List Edits.Step) : Prop :=
  ∃ order : List Edit, order.Perm ((Edits.commits s d ls).map Prod.snd) ∧
    (Edits.after s d ls).world.users = (order.foldl (alone s) d).users

/-- A request that has been answered was carried out, once, exactly if the answer is
    success. -/
structure EditsAnswered (s : AuthService) (d : Database) (ls : List Edits.Step) : Prop where
  once : ((Edits.commits s d ls).map Prod.fst).Nodup
  answered : ∀ i e, (Edits.after s d ls).threads[i]? = some (e, .done ()) →
    ((∃ e', (i, e') ∈ Edits.commits s d ls) ↔ ⟨.respond .ok, ()⟩ ∈ Edits.calls s d ls i)

/-- In the columns that the request does not name, the row is as it was read. -/
structure Patch.Fresh (p : Patch) (u : User) (row : AccountRow) : Prop where
  username : p.username = none → row.username = u.username
  nickname : p.nickname = none → row.nickname = u.nickname
  disabled : p.disabled = none → row.disabled = u.disabled

/-- Every update that is carried out finds the columns it does not name as its request has
    read them. -/
def FreshEdits (s : AuthService) (d : Database) (ls : List Edits.Step) : Prop :=
  ∀ pre i post e p u row, ls = pre ++ .advance i none :: post →
    (i, e) ∈ Edits.seeCommit (Edits.after s d pre) (.advance i none) → e.body = some p →
    ⟨.userByID e.id, .ok u⟩ ∈ Edits.calls s d pre i →
    (Edits.after s d pre).world.users.lookup e.id = some row → p.Fresh u row

-- ============================================================================
-- The contract of a request
-- ============================================================================

/-- The update that the request makes of the user it has read. -/
def editStatement (s : AuthService) (e : Edit) (p : Patch) (u : User)
    (names : String × String) : Statement :=
  .updateUser e.id names.1 names.2 (p.hash s e.salt) (p.over u).disabled e.now

/-- A request writes once, from what it has read, and answers success only after that. -/
structure EditContract (s : AuthService) (e : Edit) (es : List (Exchange Call Call.Answer))
    (c : Call) : Prop where
  write : ∀ st, c = .write st → ∃ u p names, es = [⟨.userByID e.id, .ok u⟩] ∧
    e.body = some p ∧ normalizeAccount (p.over u).username (p.over u).nickname = .ok names ∧
    p.checkPassword = .ok () ∧ st = editStatement s e p u names
  success : c = .respond .ok → ∃ st, ⟨.write st, .ok ()⟩ ∈ es

/-- A request that has returned has answered success exactly if it has written. -/
def EditResult (es : List (Exchange Call Call.Answer)) (_ : Unit) : Prop :=
  (∃ st, ⟨.write st, .ok ()⟩ ∈ es) ↔ ⟨.respond .ok, ()⟩ ∈ es

theorem adminError_ne_ok (e : StoreError) : adminError e ≠ .ok := by
  intro h
  have hstatus := congrArg Response.status h
  rw [adminError] at hstatus
  repeat' split at hstatus
  all_goals exact absurd hstatus (by decide)

theorem contract_quiet {s : AuthService} {e : Edit} {es : List (Exchange Call Call.Answer)}
    {c : Call} (hwrite : ∀ st, c ≠ .write st) (hok : c ≠ .respond .ok) :
    EditContract s e es c :=
  ⟨fun st hst => absurd hst (hwrite st), fun h => absurd h hok⟩

/-- A request that is refused with an error. -/
theorem meets_refuse (s : AuthService) (e : Edit) {r : Response} (hr : r ≠ .ok)
    {es : List (Exchange Call Call.Answer)}
    (hwrite : ∀ st, ⟨.write st, .ok ()⟩ ∉ es) (hok : ⟨.respond .ok, ()⟩ ∉ es) :
    Program.Meets (EditContract s e) EditResult (.call (.respond r) .done) es := by
  refine .call (contract_quiet (by simp) (by simp [hr])) ?_
  intro a
  refine .done ?_
  constructor
  · rintro ⟨st, hmem⟩
    rcases List.mem_append.mp hmem with hold | hnew
    · exact absurd hold (hwrite st)
    · exact absurd (congrArg Sigma.fst (List.mem_singleton.mp hnew)) (by simp)
  · intro hmem
    rcases List.mem_append.mp hmem with hold | hnew
    · exact absurd hold hok
    · have hcall := congrArg Sigma.fst (List.mem_singleton.mp hnew)
      exact absurd (Call.respond.inj hcall).symm hr

theorem meets_commitEdit (s : AuthService) (e : Edit) {u : User} {p : Patch}
    {names : String × String} (hbody : e.body = some p)
    (hnames : normalizeAccount (p.over u).username (p.over u).nickname = .ok names)
    (hpassword : p.checkPassword = .ok ()) :
    Program.Meets (EditContract s e) EditResult
      (commitEdit e names.1 names.2 (p.hash s e.salt) (p.over u).disabled)
      [⟨.userByID e.id, .ok u⟩] := by
  rw [commitEdit]
  refine .call ⟨?_, by simp⟩ ?_
  · intro st hst
    exact ⟨u, p, names, rfl, hbody, hnames, hpassword, (Call.write.inj hst).symm⟩
  · intro r
    cases r with
    | error err =>
        refine meets_refuse s e (adminError_ne_ok err) ?_ ?_
        · intro st hmem
          simp at hmem
        · simp
    | ok x =>
        refine .call (contract_quiet (by simp) (by simp)) ?_
        intro _
        refine .call (contract_quiet (by simp) (by simp)) ?_
        intro _
        refine .call ⟨by simp, fun _ => ⟨editStatement s e p u names, by simp [editStatement]⟩⟩ ?_
        intro _
        refine .done ⟨fun _ => by simp, fun _ => ⟨editStatement s e p u names, ?_⟩⟩
        simp [editStatement]

theorem meets_adminUpdateUser (s : AuthService) (e : Edit) :
    Program.Meets (EditContract s e) EditResult (adminUpdateUser s e) [] := by
  rw [adminUpdateUser]
  refine .call (contract_quiet (by simp) (by simp)) ?_
  intro r
  have hquiet : ∀ r : Except StoreError User, (∀ st, (⟨.write st, .ok ()⟩ : Exchange Call Call.Answer)
      ∉ [] ++ [⟨Call.userByID e.id, r⟩]) ∧
      (⟨.respond .ok, ()⟩ : Exchange Call Call.Answer) ∉ [] ++ [⟨Call.userByID e.id, r⟩] := by
    intro r
    simp
  cases r with
  | error err => exact meets_refuse s e (adminError_ne_ok err) (hquiet _).1 (hquiet _).2
  | ok u =>
      have hbad : ∀ message, (⟨400, "INVALID_REQUEST", message⟩ : Response) ≠ .ok := by
        intro message h
        exact absurd (congrArg Response.status h) (by simp [Response.ok])
      simp only
      split
      · exact meets_refuse s e (hbad _) (hquiet _).1 (hquiet _).2
      · rename_i p hbody
        split
        · exact meets_refuse s e (hbad _) (hquiet _).1 (hquiet _).2
        · rename_i username nickname hnames
          split
          · exact meets_refuse s e (hbad _) (hquiet _).1 (hquiet _).2
          · rename_i hpassword
            exact meets_commitEdit s e hbody hnames hpassword

-- ============================================================================
-- A request alone
-- ============================================================================

/-- A request that is served alone makes one update, of the row as it is, or none. -/
theorem alone_cases (s : AuthService) (d : Database) (e : Edit) :
    (∃ row p names, d.users.lookup e.id = some row ∧ e.body = some p ∧
      normalizeAccount (p.over (row.toUser e.id)).username (p.over (row.toUser e.id)).nickname
        = .ok names ∧
      alone s d e = ((editStatement s e p (row.toUser e.id) names).perform d).2) ∨
    alone s d e = d := by
  rw [alone, adminUpdateUser, Program.run_call]
  simp only [exec, Database.userByID]
  cases hrow : d.users.lookup e.id with
  | none => exact .inr rfl
  | some row =>
      simp only
      split
      · exact .inr rfl
      · rename_i p hbody
        split
        · exact .inr rfl
        · rename_i username nickname hnames
          split
          · exact .inr rfl
          · refine .inl ⟨row, p, (username, nickname), rfl, hbody, hnames, ?_⟩
            rw [commitEdit, Program.run_call]
            simp only [exec, editStatement]
            cases (Statement.perform _ d).1 <;> rfl

/-- The update of the request, of the row as it is. -/
theorem alone_eq {s : AuthService} {d : Database} {e : Edit} {row : AccountRow} {p : Patch}
    {names : String × String} (hrow : d.users.lookup e.id = some row) (hbody : e.body = some p)
    (hnames : normalizeAccount (p.over (row.toUser e.id)).username
      (p.over (row.toUser e.id)).nickname = .ok names) (hpassword : p.checkPassword = .ok ()) :
    alone s d e = ((editStatement s e p (row.toUser e.id) names).perform d).2 := by
  rw [alone, adminUpdateUser, Program.run_call]
  simp only [exec, Database.userByID, hrow, hbody, hnames, hpassword]
  rw [commitEdit, Program.run_call]
  simp only [exec, editStatement]
  cases (Statement.perform _ d).1 <;> rfl

/-- The username and the nickname of the row are in the form that the handlers write. -/
def AccountRow.Normal (u : AccountRow) : Prop :=
  normalizeAccount u.username u.nickname = .ok (u.username, u.nickname)

/-- What one request leaves of the row: the columns it does not name. -/
structure UnnamedKept (p : Patch) (row row' : AccountRow) : Prop where
  username : p.username = none → row'.username = row.username
  nickname : p.nickname = none → row'.nickname = row.nickname
  disabled : p.disabled = none → row'.disabled = row.disabled
  password : p.password = none → row'.passwordHash = row.passwordHash

/-- A request that is served alone leaves the columns it does not name, and the row in its
    form. -/
theorem alone_unnamed {s : AuthService} {d : Database} {e : Edit} {p : Patch}
    {row : AccountRow} (hbody : e.body = some p) (hrow : d.users.lookup e.id = some row)
    (hnormal : AccountRow.Normal row) :
    ∃ row', (alone s d e).users.lookup e.id = some row' ∧ AccountRow.Normal row' ∧
      UnnamedKept p row row' := by
  have hsame : ∃ row', d.users.lookup e.id = some row' ∧ AccountRow.Normal row' ∧
      UnnamedKept p row row' :=
    ⟨row, hrow, hnormal, fun _ => rfl, fun _ => rfl, fun _ => rfl, fun _ => rfl⟩
  obtain ⟨row₀, p', names, hrow₀, hbody', hnames, halone⟩ | halone := alone_cases s d e
  · obtain rfl := Option.some.inj (hrow₀.symm.trans hrow)
    obtain rfl := Option.some.inj (hbody'.symm.trans hbody)
    rw [halone]
    obtain ⟨u, hu, -, -, hdone⟩ | ⟨err, hfail⟩ := Database.updateUser_cases e.id names.1 names.2
      (p'.hash s e.salt) (p'.over (row₀.toUser e.id)).disabled e.now d
    · rw [editStatement, Statement.perform, hdone]
      refine ⟨Database.editRow names.1 names.2 (p'.hash s e.salt)
        (p'.over (row₀.toUser e.id)).disabled e.now row₀, ?_, ?_, ?_⟩
      · rw [AList.lookup_update_self, hrow]
        rfl
      · exact normalizeAccount_names hnames
      · refine ⟨?_, ?_, ?_, ?_⟩
        · intro hnone
          have hover : (p'.over (row₀.toUser e.id)).username = row₀.username := by
            rw [Patch.over, hnone]
            rfl
          have hfold := congrArg Prod.fst (normalizeAccount_eq hnormal)
          rw [normalizeAccount_eq hnames, hover]
          exact hfold.symm
        · intro hnone
          have hover : (p'.over (row₀.toUser e.id)).nickname = row₀.nickname := by
            rw [Patch.over, hnone]
            rfl
          have htrim := congrArg Prod.snd (normalizeAccount_eq hnormal)
          rw [normalizeAccount_eq hnames, hover]
          exact htrim.symm
        · intro hnone
          show (p'.over (row₀.toUser e.id)).disabled = row₀.disabled
          rw [Patch.over, hnone]
          rfl
        · intro hnone
          show (if p'.hash s e.salt = "" then row₀.passwordHash else p'.hash s e.salt) = _
          rw [Patch.hash, hnone]
          rfl
    · rw [editStatement, Statement.perform, hfail]
      exact hsame
  · rw [halone]
    exact hsame

-- ============================================================================
-- Commits
-- ============================================================================

theorem edits_after_snoc (s : AuthService) (d : Database) (ls : List Edits.Step)
    (l : Edits.Step) : Edits.after s d (ls ++ [l]) = Edits.step s (Edits.after s d ls) l := by
  rw [Edits.after, run_append]
  rfl

theorem commits_snoc (s : AuthService) (d : Database) (ls : List Edits.Step) (l : Edits.Step) :
    Edits.commits s d (ls ++ [l])
      = Edits.commits s d ls ++ Edits.seeCommit (Edits.after s d ls) l := by
  rw [Edits.commits, history_append]
  simp [history, Edits.commits, Edits.after]

theorem edits_calls_snoc (s : AuthService) (d : Database) (ls : List Edits.Step)
    (l : Edits.Step) (i : Nat) :
    Edits.calls s d (ls ++ [l]) i
      = Edits.calls s d ls i ++ Pool.own i (Pool.see (exec s) (Edits.after s d ls) l) := by
  rw [Edits.calls, Pool.log_append, Pool.own_append, Pool.log_cons, Pool.own_append]
  simp only [Pool.log, history, Pool.own, List.filter_nil, List.map_nil, List.append_nil]
  rfl

/-- The step that a commit is. -/
theorem mem_seeCommit {p : Edits} {l : Edits.Step} {i : Nat} {e : Edit}
    (h : (i, e) ∈ p.seeCommit l) :
    ∃ st, l = .advance i none ∧ p.pending i = some (e, .write st) ∧
      (st.perform p.world).1 = .ok () ∧ p.seeCommit l = [(i, e)] := by
  cases l with
  | start t => exact absurd h (by simp [Edits.seeCommit])
  | disturb st => exact absurd h (by simp [Edits.seeCommit])
  | advance j o =>
      cases o with
      | some err => exact absurd h (by simp [Edits.seeCommit])
      | none =>
          rw [Edits.seeCommit] at h ⊢
          split at h
          · rename_i e' st hpending
            split at h
            · rename_i x hperform
              obtain ⟨rfl, rfl⟩ := Prod.mk.inj (List.mem_singleton.mp h)
              exact ⟨st, rfl, hpending, hperform, rfl⟩
            · exact absurd h (by simp)
          · exact absurd h (by simp)

/-- A step carries out an update of thread `i` exactly if it is a write of that thread that
    succeeds. -/
theorem seeCommit_iff (s : AuthService) (p : Edits) (l : Edits.Step) (i : Nat) :
    (∃ e, (i, e) ∈ p.seeCommit l) ↔
      ∃ st, ⟨.write st, .ok ()⟩ ∈ Pool.own i (Pool.see (exec s) p l) := by
  constructor
  · rintro ⟨e, he⟩
    obtain ⟨st, rfl, hpending, hperform, -⟩ := mem_seeCommit he
    obtain ⟨k, hthread⟩ := Pool.thread_of_pending hpending
    refine ⟨st, ?_⟩
    rw [Pool.own_see_self hthread, exec, ← hperform]
    exact List.mem_singleton_self _
  · rintro ⟨st, hmem⟩
    cases l with
    | start t => exact absurd hmem (by simp [Pool.see, Pool.own])
    | disturb st' => exact absurd hmem (by simp [Pool.see, Pool.own])
    | advance j o =>
        by_cases hij : j = i
        · subst hij
          cases hpending : p.pending j with
          | none =>
              rw [Pool.own_see_done hpending] at hmem
              exact absurd hmem (by simp [Pool.own])
          | some x =>
              obtain ⟨e, c⟩ := x
              obtain ⟨k, hthread⟩ := Pool.thread_of_pending hpending
              rw [Pool.own_see_self hthread, List.mem_singleton] at hmem
              obtain ⟨rfl, hanswer⟩ := Sigma.mk.inj hmem
              have hans := eq_of_heq hanswer
              cases o with
              | some err => exact absurd hans (by simp [exec])
              | none =>
                  refine ⟨e, ?_⟩
                  simp only [exec] at hans
                  simp only [Edits.seeCommit, hpending, ← hans]
                  exact List.mem_singleton_self _
        · rw [Pool.own_see_ne hij] at hmem
          exact absurd hmem (by simp)

/-- The requests that were carried out are those that have written. -/
theorem mem_commits_iff (s : AuthService) (d : Database) (ls : List Edits.Step) (i : Nat) :
    (∃ e, (i, e) ∈ Edits.commits s d ls) ↔ ∃ st, ⟨.write st, .ok ()⟩ ∈ Edits.calls s d ls i := by
  induction ls using List.reverseRecOn with
  | nil => simp [Edits.commits, history, Edits.calls, Pool.log, Pool.own]
  | append_singleton ls l ih =>
      rw [commits_snoc, edits_calls_snoc]
      simp only [List.mem_append, exists_or]
      rw [ih, seeCommit_iff s]

theorem edits_meet (s : AuthService) (d : Database) (ls : List Edits.Step) :
    Pool.MeetsAll (EditContract s) (fun _ => EditResult)
      (Pool.log (adminUpdateUser s) (exec s) Edits.write ⟨d, []⟩ ls) (Edits.after s d ls) :=
  Pool.meets_run (meets_adminUpdateUser s) rfl ls

/-- The request of a commit has read a user, and nothing else before. -/
theorem commit_contract {s : AuthService} {d : Database} {ls : List Edits.Step} {i : Nat}
    {e : Edit} {st : Statement}
    (hpending : (Edits.after s d ls).pending i = some (e, .write st)) :
    ∃ u p names, Edits.calls s d ls i = [⟨.userByID e.id, .ok u⟩] ∧ e.body = some p ∧
      normalizeAccount (p.over u).username (p.over u).nickname = .ok names ∧
      p.checkPassword = .ok () ∧ st = editStatement s e p u names :=
  ((edits_meet s d ls).pending hpending).write st rfl

theorem edits_answered (s : AuthService) (d : Database) (ls : List Edits.Step) :
    EditsAnswered s d ls := by
  refine ⟨?_, ?_⟩
  · induction ls using List.reverseRecOn with
    | nil => exact List.nodup_nil
    | append_singleton ls l ih =>
        rw [commits_snoc, List.map_append]
        cases hsee : Edits.seeCommit (Edits.after s d ls) l with
        | nil => simpa using ih
        | cons x rest =>
            obtain ⟨i, e⟩ := x
            obtain ⟨st, rfl, hpending, -, hone⟩ :=
              mem_seeCommit (i := i) (e := e) (by rw [hsee]; exact List.mem_cons_self)
            rw [← hsee, hone, List.map_singleton, List.nodup_append]
            refine ⟨ih, List.nodup_singleton _, ?_⟩
            intro j hj k hk heq
            obtain rfl := heq.trans (List.mem_singleton.mp hk)
            obtain ⟨⟨i', e'⟩, hmem, rfl⟩ := List.mem_map.mp hj
            -- The request has written before, but all it has done is to read.
            obtain ⟨st', hst'⟩ := (mem_commits_iff s d ls i').mp ⟨e', hmem⟩
            obtain ⟨u, p, names, hcalls, -⟩ := commit_contract hpending
            rw [hcalls] at hst'
            exact absurd (congrArg Sigma.fst (List.mem_singleton.mp hst')) (by simp)
  · intro i e hthread
    rw [mem_commits_iff]
    have hmeets := (edits_meet s d ls).1 i e _ hthread
    cases hmeets with
    | done hresult => exact hresult

-- ============================================================================
-- The order of the commits
-- ============================================================================

/-- What the request makes of the row it has read and of the row as it is, where these
    agree in the columns it does not name. -/
theorem over_fresh {p : Patch} {u : User} {row : AccountRow} (h : p.Fresh u row) (id : String) :
    (p.over (row.toUser id)).username = (p.over u).username ∧
    (p.over (row.toUser id)).nickname = (p.over u).nickname ∧
    (p.over (row.toUser id)).disabled = (p.over u).disabled := by
  refine ⟨?_, ?_, ?_⟩
  · cases hname : p.username with
    | none => simpa [Patch.over, hname, AccountRow.toUser] using h.username hname
    | some name => simp [Patch.over, hname]
  · cases hname : p.nickname with
    | none => simpa [Patch.over, hname, AccountRow.toUser] using h.nickname hname
    | some name => simp [Patch.over, hname]
  · cases hname : p.disabled with
    | none => simpa [Patch.over, hname, AccountRow.toUser] using h.disabled hname
    | some name => simp [Patch.over, hname]

/-- A commit that finds what its request has read is that request served alone. -/
theorem commit_alone {s : AuthService} {e : Edit} {p : Patch} {u : User}
    {names : String × String} {d d' : Database} (hbody : e.body = some p)
    (hnames : normalizeAccount (p.over u).username (p.over u).nickname = .ok names)
    (hpassword : p.checkPassword = .ok ()) {row : AccountRow}
    (hrow : d.users.lookup e.id = some row) (hfresh : p.Fresh u row) (hsame : d'.users = d.users) :
    (alone s d' e).users = ((editStatement s e p u names).perform d).2.users := by
  obtain ⟨husername, hnickname, hdisabled⟩ := over_fresh hfresh e.id
  have hnames' : normalizeAccount (p.over (row.toUser e.id)).username
      (p.over (row.toUser e.id)).nickname = .ok names := by
    rw [husername, hnickname]
    exact hnames
  have hrow' : d'.users.lookup e.id = some row := by
    rw [hsame]
    exact hrow
  rw [alone_eq hrow' hbody hnames' hpassword, editStatement, editStatement, hdisabled]
  exact (Database.updateUser_congr e.id names.1 names.2 (p.hash s e.salt) (p.over u).disabled
    e.now hsame).2

theorem FreshEdits.before {s : AuthService} {d : Database} {ls : List Edits.Step}
    {l : Edits.Step} (h : FreshEdits s d (ls ++ [l])) : FreshEdits s d ls := by
  intro pre i post e p u row hls
  exact h pre i (post ++ [l]) e p u row (by rw [hls]; simp)

/-- A step that carries out no update leaves the accounts. -/
theorem users_quiet {s : AuthService} {d : Database} {ls : List Edits.Step} {l : Edits.Step}
    (hquiet : Edits.seeCommit (Edits.after s d ls) l = []) :
    (Edits.after s d (ls ++ [l])).world.users = (Edits.after s d ls).world.users := by
  rw [edits_after_snoc]
  cases l with
  | start t => rfl
  | disturb st => exact (accounts_perform st.2).1
  | advance i o =>
      cases hpending : (Edits.after s d ls).pending i with
      | none => exact congrArg (fun p => p.world.users) (Pool.step_advance_none hpending o)
      | some x =>
          obtain ⟨e, c⟩ := x
          rw [Edits.step, Pool.step_advance_world hpending]
          obtain hsame | ⟨st, rfl, rfl⟩ := exec_cases s o c (Edits.after s d ls).world
          · rw [hsame]
          · obtain ⟨u, p, names, -, -, -, -, rfl⟩ := commit_contract hpending
            obtain ⟨row, -, -, -, hdone⟩ | ⟨err, hfail⟩ := Database.updateUser_cases e.id names.1
              names.2 (p.hash s e.salt) (p.over u).disabled e.now (Edits.after s d ls).world
            · rw [Edits.seeCommit, hpending] at hquiet
              simp only [editStatement, Statement.perform, hdone] at hquiet
              exact absurd hquiet (by simp)
            · rw [exec, editStatement, Statement.perform, hfail]

/-- The accounts are those after the requests in the order of their commits. -/
theorem serial_in_commit_order {s : AuthService} {d : Database} {ls : List Edits.Step}
    (hfresh : FreshEdits s d ls) :
    (Edits.after s d ls).world.users
      = (((Edits.commits s d ls).map Prod.snd).foldl (alone s) d).users := by
  induction ls using List.reverseRecOn with
  | nil => rfl
  | append_singleton ls l ih =>
      have hbefore := ih hfresh.before
      rw [commits_snoc, List.map_append, List.foldl_append]
      cases hsee : Edits.seeCommit (Edits.after s d ls) l with
      | nil =>
          rw [users_quiet hsee, hbefore]
          rfl
      | cons x rest =>
          obtain ⟨i, e⟩ := x
          have hmem : (i, e) ∈ Edits.seeCommit (Edits.after s d ls) l := by
            rw [hsee]
            exact List.mem_cons_self
          obtain ⟨st, rfl, hpending, hperform, hone⟩ := mem_seeCommit hmem
          obtain ⟨u, p, names, hcalls, hbody, hnames, hpassword, rfl⟩ := commit_contract hpending
          have hworld : (Edits.after s d (ls ++ [.advance i none])).world
              = ((editStatement s e p u names).perform (Edits.after s d ls).world).2 := by
            rw [edits_after_snoc, Edits.step, Pool.step_advance_world hpending]
            rfl
          obtain ⟨row, hrow, -, -, -⟩ | ⟨err, hfail⟩ := Database.updateUser_cases e.id names.1
            names.2 (p.hash s e.salt) (p.over u).disabled e.now (Edits.after s d ls).world
          · have hread : (⟨.userByID e.id, .ok u⟩ : Exchange Call Call.Answer)
                ∈ Edits.calls s d ls i := by
              rw [hcalls]
              exact List.mem_singleton_self _
            have hunnamed := hfresh ls i [] e p u row rfl hmem hbody hread hrow
            rw [hworld, ← hsee, hone]
            exact (commit_alone hbody hnames hpassword hrow hunnamed hbefore.symm).symm
          · rw [editStatement, Statement.perform, hfail] at hperform
            exact absurd hperform (by simp)

/-- **Concurrent edits.**  Where every update that is carried out finds the columns it does
    not name as its request has read them, no edit is lost: the accounts are those after
    the successful requests one after another, and one request leaves the columns it does
    not name. -/
theorem edits_not_lost (s : AuthService) (d : Database) (ls : List Edits.Step)
    (hfresh : FreshEdits s d ls) :
    EditsSerial s d ls ∧ EditsAnswered s d ls ∧
    ∀ (d' : Database) (e : Edit) (p : Patch) (row : AccountRow), e.body = some p →
      d'.users.lookup e.id = some row → AccountRow.Normal row →
      ∃ row', (alone s d' e).users.lookup e.id = some row' ∧ AccountRow.Normal row' ∧
        UnnamedKept p row row' := by
  refine ⟨⟨_, List.Perm.refl _, serial_in_commit_order hfresh⟩, edits_answered s d ls, ?_⟩
  intro d' e p row hbody hrow hnormal
  exact alone_unnamed hbody hrow hnormal

/-- A request on Alice's account. -/
def editAlice (p : Patch) (now : Int64) : Edit := ⟨"a", "u", some p, "salt", now⟩

/-- The account is disabled. -/
def disableAlice : Edit := editAlice ⟨none, none, none, some true⟩ 20

/-- The nickname is changed. -/
def renameAlice : Edit := editAlice ⟨none, some "Alicia", none, none⟩ 30

/-- One account. -/
def oneAccountDB : Database :=
  { Database.empty with
    users := (∅ : KeyedTable String AccountRow).insert "u"
      ⟨"alice", "hash", "Alice", 0, 0, .USER, false⟩ }

/-- Both requests read the user before either writes. -/
def lostRun : List Edits.Step :=
  [.start disableAlice, .start renameAlice, .advance 0 none, .advance 1 none, .advance 0 none,
    .advance 1 none]

/-- A request that names the nickname, too. -/
def sealAlice : Edit := editAlice ⟨none, some "Ally", none, some true⟩ 40

/-- Both requests read the user before either writes, and the second one names every field that
    the first one sets. -/
def overlapRun : List Edits.Step :=
  [.start renameAlice, .start sealAlice, .advance 0 none, .advance 1 none, .advance 0 none,
    .advance 1 none]

/-- An update of Alice's account, with what its request has read and what it finds. -/
theorem commit_finds {s : AuthService} {d : Database} {pre : List Edits.Step} {i : Nat}
    {e : Edit} {u : User} {row : AccountRow} (e' : Edit) (u' : User) (row' : AccountRow)
    (hid : e'.id = "u")
    (hcommit : Edits.seeCommit (Edits.after s d pre) (.advance i none) = [(i, e')])
    (hcalls : Edits.calls s d pre i = [⟨.userByID "u", .ok u'⟩])
    (hfound : (Edits.after s d pre).world.users.lookup "u" = some row')
    (hmem : (i, e) ∈ Edits.seeCommit (Edits.after s d pre) (.advance i none))
    (hread : ⟨.userByID e.id, .ok u⟩ ∈ Edits.calls s d pre i)
    (hrow : (Edits.after s d pre).world.users.lookup e.id = some row) :
    e = e' ∧ u = u' ∧ row = row' := by
  rw [hcommit] at hmem
  obtain ⟨-, rfl⟩ := Prod.mk.inj (List.mem_singleton.mp hmem)
  rw [hid] at hread hrow
  rw [hcalls, List.mem_singleton] at hread
  obtain rfl := Except.ok.inj (eq_of_heq (Sigma.mk.inj hread).2)
  exact ⟨rfl, rfl, Option.some.inj (hrow.symm.trans hfound)⟩

theorem freshEdits_overlapRun : FreshEdits plainAuth oneAccountDB overlapRun := by
  intro pre i post e p u row hls hmem hbody hread hrow
  have hpre : pre = overlapRun.take pre.length := by
    rw [hls, List.take_left]
  have hstep : overlapRun[pre.length]? = some (.advance i none) := by
    rw [hls, List.getElem?_append_right le_rfl, Nat.sub_self]
    rfl
  obtain ⟨hlen, -⟩ := List.getElem?_eq_some_iff.mp hstep
  generalize pre.length = k at hpre hstep hlen
  subst hpre
  -- Only the last two steps carry out an update.
  have hlast : k = 4 ∧ i = 0 ∨ k = 5 ∧ i = 1 := by
    have hsix : overlapRun.length = 6 := rfl
    rcases k with _ | _ | _ | _ | _ | _ | k
    · exact absurd (Option.some.inj hstep) (by simp)
    · exact absurd (Option.some.inj hstep) (by simp)
    · obtain ⟨rfl, -⟩ := Pool.Move.advance.inj (Option.some.inj hstep)
      exact absurd (List.length_pos_of_mem hmem) (by decide)
    · obtain ⟨rfl, -⟩ := Pool.Move.advance.inj (Option.some.inj hstep)
      exact absurd (List.length_pos_of_mem hmem) (by decide)
    · obtain ⟨rfl, -⟩ := Pool.Move.advance.inj (Option.some.inj hstep)
      exact .inl ⟨rfl, rfl⟩
    · obtain ⟨rfl, -⟩ := Pool.Move.advance.inj (Option.some.inj hstep)
      exact .inr ⟨rfl, rfl⟩
    · omega
  rcases hlast with ⟨rfl, rfl⟩ | ⟨rfl, rfl⟩
  · obtain ⟨rfl, rfl, rfl⟩ := commit_finds renameAlice ⟨"u", "alice", "Alice", .USER, false, 0⟩
      ⟨"alice", "hash", "Alice", 0, 0, .USER, false⟩ rfl (by decide) rfl (by decide) hmem hread hrow
    exact ⟨fun _ => rfl, fun _ => rfl, fun _ => rfl⟩
  · -- The other request has written the nickname since, which this one names.
    obtain ⟨rfl, rfl, rfl⟩ := commit_finds sealAlice ⟨"u", "alice", "Alice", .USER, false, 0⟩
      ⟨"alice", "hash", "Alicia", 0, 30, .USER, false⟩ rfl (by decide) rfl (by decide) hmem hread hrow
    obtain rfl := Option.some.inj hbody
    refine ⟨fun _ => rfl, fun hnone => ?_, fun _ => rfl⟩
    cases hnone

/-- Two requests overlap, both are carried out, and neither edit is lost. -/
theorem edits_not_lost_overlap :
    (Edits.commits plainAuth oneAccountDB overlapRun).map Prod.snd = [renameAlice, sealAlice] ∧
      EditsSerial plainAuth oneAccountDB overlapRun ∧ EditsAnswered plainAuth oneAccountDB overlapRun := by
  obtain ⟨hserial, hanswered, -⟩ :=
    edits_not_lost plainAuth oneAccountDB overlapRun freshEdits_overlapRun
  exact ⟨by decide, hserial, hanswered⟩

/-- The account is not disabled in the end, though both requests succeed and only one of
    them names the field. -/
theorem disable_lost : ¬EditsSerial plainAuth oneAccountDB lostRun := by
  rintro ⟨order, hperm, husers⟩
  have hcommits : (Edits.commits plainAuth oneAccountDB lostRun).map Prod.snd
      = [disableAlice, renameAlice] := by decide
  have hdisabled : ∀ order : List Edit,
      (Edits.after plainAuth oneAccountDB lostRun).world.users
        = (order.foldl (alone plainAuth) oneAccountDB).users →
      ((order.foldl (alone plainAuth) oneAccountDB).users.lookup "u").map AccountRow.disabled
        = some false := by
    intro order h
    rw [← h]
    decide
  rw [hcommits] at hperm
  obtain ⟨a, b, rfl⟩ := List.length_eq_two.mp hperm.length_eq
  have ha : a = disableAlice ∨ a = renameAlice := by
    have hmem := hperm.mem_iff.mp (List.mem_cons_self (a := a))
    simpa using hmem
  rcases ha with rfl | rfl
  · obtain rfl := List.singleton_perm_singleton.mp ((List.perm_cons _).mp hperm)
    exact absurd (hdisabled _ husers) (by decide)
  · have hswap := hperm.trans (List.Perm.swap renameAlice disableAlice [])
    obtain rfl := List.singleton_perm_singleton.mp ((List.perm_cons _).mp hswap)
    exact absurd (hdisabled _ husers) (by decide)

end WatchTogether.Accounts

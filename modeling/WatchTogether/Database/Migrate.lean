/-
  WatchTogether.Database.Migrate

  `Migrate` (`internal/database/database.go`): the migration files in the order of their names,
  each in a transaction of its own with the row of `schema_migrations` that says it is applied.

  The statements are the calls of a program, which may fail, or be interrupted, at each of them.
  The bodies are on the other tables; only `Migrate` writes `schema_migrations`.
-/

import Mathlib.Data.List.Sort
import WatchTogether.Lib.Interrupted
import WatchTogether.Lib.KeyedTable
import WatchTogether.Uploads.Limits

namespace WatchTogether.Migrations

open Program

variable {D : Type}

-- ============================================================================
-- Files
-- ============================================================================

/-- A statement of a body, at a time of the clock; `none` is an error. -/
abbrev Statement (D : Type) : Type := Int64 → D → Option D

/-- An entry of the embedded directory `migrations`. -/
structure Entry (D : Type) where
  name : String
  isDir : Bool
  body : List (Statement D)

/-- `strings.HasSuffix(entry.Name(), ".sql")`. -/
def Entry.isSQL (e : Entry D) : Bool := ".sql".toList.isSuffixOf e.name.toList

/-- `strings.SplitN(entry.Name(), "_", 2)[0]`. -/
def Entry.versionText (e : Entry D) : List Char := e.name.toList.takeWhile (fun c => c ≠ '_')

/-- `strconv.Atoi`. -/
def atoi (s : List Char) : Option Int64 := Uploads.parseInt s

/-- The version of a migration. -/
def Entry.version (e : Entry D) : Option Int64 :=
  if e.isDir || !e.isSQL then none else atoi e.versionText

/-- The statements one after another, up to the first that fails. -/
def runBody (now : Int64) : List (Statement D) → D → D × Bool
  | [], d => (d, true)
  | s :: rest, d =>
      match s now d with
      | none => (d, false)
      | some d => runBody now rest d

-- ============================================================================
-- The database
-- ============================================================================

/-- The errors of the database. -/
inductive DbError where
  | failed
  | noSuchTable
  | uniqueFailed
deriving DecidableEq

/-- The database that is migrated. -/
structure Db (D : Type) where
  /-- The version with `applied_at_ms`. -/
  schemaMigrations : Option (KeyedTable Int64 Int64)
  /-- The other tables. -/
  data : D

/-- The row of the version is there. -/
def Db.applied (db : Db D) (version : Int64) : Bool :=
  db.schemaMigrations.any (fun t => decide (version ∈ t))

/-- An open transaction: the database as it sees it, and the bodies that have run in it to
    their end, with the time. -/
structure Tx (D : Type) where
  db : Db D
  ran : List (Entry D × Int64)

/-- The database, and the open transaction. -/
structure World (D : Type) where
  db : Db D
  tx : Option (Tx D)

/-- What `Migrate` asks of the database and of the embedded files. -/
inductive Call (D : Type) where
  | createTable
  | readDir
  | selectCount (version : Int64)
  | readFile (entry : Entry D)
  | beginTx
  | execBody (entry : Entry D)
  | insertVersion (version : Int64)
  | rollback
  | commit

/-- `readFile` answers with the body of the entry. -/
def Answer : Call D → Type
  | .readDir => Except DbError (List (Entry D))
  | .selectCount _ => Except DbError Nat
  | .rollback => Unit
  | .createTable | .readFile _ | .beginTx | .execBody _ | .insertVersion _ | .commit =>
      Except DbError Unit

/-- What comes of a call. -/
inductive Fate where
  | ok
  /-- The call fails; of a body, `n` statements have run. -/
  | fails (n : Nat)
  /-- The call takes effect, but the answer is an error. -/
  | unreported

/-- The fate of a call, and the clock. -/
structure Outcome where
  fate : Fate
  /-- The clock of the database. -/
  now : Int64

/-- The call takes effect. -/
def Fate.effective : Fate → Bool
  | .fails _ => false
  | .ok | .unreported => true

/-- The answer of a call that does what it should, if its fate lets it. -/
def Fate.answer {α : Type} (f : Fate) (a : α) : Except DbError α :=
  match f with
  | .ok => .ok a
  | .fails _ | .unreported => .error .failed

/-- `CREATE TABLE IF NOT EXISTS schema_migrations`. -/
def Db.createTable (db : Db D) : Db D :=
  { db with schemaMigrations := some (db.schemaMigrations.getD ∅) }

/-- A body in the open transaction; what has run of a body that fails stays in it. -/
def execBody (o : Outcome) (entry : Entry D) (tx : Tx D) : Except DbError Unit × Tx D :=
  match o.fate with
  | .fails n =>
      (.error .failed,
        ⟨{ tx.db with data := (runBody o.now (entry.body.take n) tx.db.data).1 }, tx.ran⟩)
  | fate =>
      let (data, whole) := runBody o.now entry.body tx.db.data
      if whole then (fate.answer (), ⟨{ tx.db with data }, tx.ran ++ [(entry, o.now)]⟩)
      else (.error .failed, ⟨{ tx.db with data }, tx.ran⟩)

/-- `INSERT INTO schema_migrations`. -/
def insertVersion (o : Outcome) (version : Int64) (tx : Tx D) : Except DbError Unit × Tx D :=
  match tx.db.schemaMigrations with
  | none => (.error .noSuchTable, tx)
  | some t =>
      if version ∈ t then (.error .uniqueFailed, tx)
      else if o.fate.effective then
        (o.fate.answer (), ⟨{ tx.db with schemaMigrations := some (t.insert version o.now) }, tx.ran⟩)
      else (.error .failed, tx)

/-- What a call does.  Without an open transaction its calls fail; `COMMIT` ends it also where
    it fails. -/
def exec (files : List (Entry D)) (o : Outcome) : (c : Call D) → World D → Answer c × World D
  | .createTable, w =>
      (o.fate.answer (), if o.fate.effective then { w with db := w.db.createTable } else w)
  | .readDir, w => (o.fate.answer files, w)
  | .selectCount version, w =>
      match w.db.schemaMigrations with
      | none => (Except.error .noSuchTable, w)
      | some t => (o.fate.answer (if version ∈ t then 1 else 0), w)
  | .readFile _, w => (o.fate.answer (), w)
  | .beginTx, w =>
      match o.fate with
      | .ok => (Except.ok (), { w with tx := some ⟨w.db, []⟩ })
      | _ => (Except.error .failed, w)
  | .execBody entry, w =>
      match w.tx with
      | none => (Except.error .failed, w)
      | some tx => ((execBody o entry tx).1, { w with tx := some (execBody o entry tx).2 })
  | .insertVersion version, w =>
      match w.tx with
      | none => (Except.error .failed, w)
      | some tx =>
          ((insertVersion o version tx).1, { w with tx := some (insertVersion o version tx).2 })
  | .rollback, w => ((), { w with tx := none })
  | .commit, w =>
      match w.tx with
      | none => (Except.error .failed, w)
      | some tx => (o.fate.answer (), ⟨if o.fate.effective then tx.db else w.db, none⟩)

/-- A crash: the open transaction is lost. -/
def recover (w : World D) : World D := { w with tx := none }

-- ============================================================================
-- The loop
-- ============================================================================

/-- The errors of `Migrate`. -/
inductive MigrateError where
  | db (e : DbError)
  /-- The prefix of a name is no number. -/
  | syntaxError
  /-- `migration %d: %w`. -/
  | migration (version : Int64) (e : DbError)
deriving DecidableEq

/-- Code that runs statements. -/
abbrev Code (D : Type) : Type := Program (Call D) Answer (Except MigrateError Unit)

/-- One migration that is not applied yet. -/
def applyEntry (version : Int64) (entry : Entry D) : Code D :=
  call (.readFile entry) fun
    | .error e => done (.error (.db e))
    | .ok _ => call .beginTx fun
        | .error e => done (.error (.db e))
        | .ok _ => call (.execBody entry) fun
            | .error e => call .rollback fun _ => done (.error (.migration version e))
            | .ok _ => call (.insertVersion version) fun
                | .error e => call .rollback fun _ => done (.error (.migration version e))
                | .ok _ => call .commit fun
                    | .error e => done (.error (.db e))
                    | .ok _ => done (.ok ())

/-- The loop over the entries. -/
def migrateEntries : List (Entry D) → Code D
  | [] => done (.ok ())
  | entry :: entries =>
      if entry.isDir || !entry.isSQL then migrateEntries entries
      else
        match atoi entry.versionText with
        | none => done (.error .syntaxError)
        | some version => call (.selectCount version) fun
            | .error e => done (.error (.db e))
            | .ok count =>
                if 0 < count then migrateEntries entries
                else (applyEntry version entry).bind fun
                  | .error e => done (.error e)
                  | .ok _ => migrateEntries entries

/-- `!less(b, a)` of the comparison. -/
def NotAfter (a b : Entry D) : Prop := a.name ≤ b.name

instance : DecidableRel (NotAfter (D := D)) := fun a b => String.decLE a.name b.name

instance : Std.Total (NotAfter (D := D)) where
  total a b := String.le_total a.name b.name

instance : IsTrans (Entry D) NotAfter where
  trans _ _ _ := String.le_trans

/-- `sort.Slice` by the names. -/
def byName (entries : List (Entry D)) : List (Entry D) := entries.insertionSort NotAfter

/-- `Migrate`. -/
def Migrate : Code D :=
  call .createTable fun
    | .error e => done (.error (.db e))
    | .ok _ => call .readDir fun
        | .error e => done (.error (.db e))
        | .ok entries => migrateEntries (byName entries)

-- ============================================================================
-- What a commit commits
-- ============================================================================

variable {files : List (Entry D)}

/-- The migration is listed and pending, and no pending one is before it. -/
structure Due (files : List (Entry D)) (db : Db D) (f : Entry D) (v : Int64) : Prop where
  listed : f ∈ files
  version : f.version = some v
  pending : db.applied v = false
  first : ∀ g ∈ files, g.name < f.name → ∀ u, g.version = some u → db.applied u = true

/-- The transaction has run the migration, whole and alone, and has its row. -/
structure Carries (db : Db D) (f : Entry D) (v now : Int64) (tx : Tx D) : Prop where
  ran : tx.ran = [(f, now)]
  body : runBody now f.body db.data = (tx.db.data, true)
  row : ∀ u, tx.db.applied u = true ↔ db.applied u = true ∨ u = v

/-- What the code keeps to: a `COMMIT` is that of a migration that is due. -/
def CommitsDue (files : List (Entry D)) : Call D → World D → Prop
  | .commit, w => ∃ tx f v now, w.tx = some tx ∧ Due files w.db f v ∧ Carries w.db f v now tx
  | _, _ => True

/-- Every listed version is applied. -/
def AllApplied (files : List (Entry D)) (db : Db D) : Prop :=
  ∀ f ∈ files, ∀ v, f.version = some v → db.applied v = true

theorem applied_createTable (db : Db D) (v : Int64) : db.createTable.applied v = db.applied v := by
  unfold Db.applied Db.createTable
  cases db.schemaMigrations with
  | none => rfl
  | some t => rfl

-- ============================================================================
-- One rule a call
-- ============================================================================

section Rules

variable {w : World D} {Q : Except MigrateError Unit → World D → Prop}

/-- The code keeps to its rule from `w` on, and ends with `Q`. -/
abbrev Safe (files : List (Entry D)) (Q : Except MigrateError Unit → World D → Prop)
    (p : Code D) (w : World D) : Prop :=
  p.Throughout (exec files) (CommitsDue files) Q w

theorem safe_createTable {k : Except DbError Unit → Code D}
    (herror : ∀ e, Safe files Q (k (.error e)) w)
    (heffect : ∀ r, Safe files Q (k r) { w with db := w.db.createTable }) :
    Safe files Q (call .createTable k) w := by
  refine ⟨trivial, ?_⟩
  rintro ⟨fate, now⟩
  cases fate with
  | ok => exact heffect (.ok ())
  | fails n => exact herror .failed
  | unreported => exact heffect (.error .failed)

theorem safe_readDir {k : Except DbError (List (Entry D)) → Code D}
    (herror : ∀ e, Safe files Q (k (.error e)) w) (hok : Safe files Q (k (.ok files)) w) :
    Safe files Q (call .readDir k) w := by
  refine ⟨trivial, ?_⟩
  rintro ⟨fate, now⟩
  cases fate with
  | ok => exact hok
  | fails n => exact herror .failed
  | unreported => exact herror .failed

theorem safe_selectCount {v : Int64} {k : Except DbError Nat → Code D}
    (herror : ∀ e, Safe files Q (k (.error e)) w)
    (hok : Safe files Q (k (.ok (if w.db.applied v = true then 1 else 0))) w) :
    Safe files Q (call (.selectCount v) k) w := by
  refine ⟨trivial, ?_⟩
  rintro ⟨fate, now⟩
  obtain ⟨⟨table, data⟩, tx⟩ := w
  cases table with
  | none => exact herror .noSuchTable
  | some t =>
      cases fate with
      | ok =>
          have hcount : (if (⟨some t, data⟩ : Db D).applied v = true then 1 else 0 : Nat) =
              if v ∈ t then 1 else 0 := by
            simp only [Db.applied, Option.any_some, decide_eq_true_eq]
          rw [hcount] at hok
          exact hok
      | fails n => exact herror .failed
      | unreported => exact herror .failed

theorem safe_readFile {f : Entry D} {k : Except DbError Unit → Code D}
    (herror : ∀ e, Safe files Q (k (.error e)) w) (hok : Safe files Q (k (.ok ())) w) :
    Safe files Q (call (.readFile f) k) w := by
  refine ⟨trivial, ?_⟩
  rintro ⟨fate, now⟩
  cases fate with
  | ok => exact hok
  | fails n => exact herror .failed
  | unreported => exact herror .failed

theorem safe_beginTx {k : Except DbError Unit → Code D}
    (herror : ∀ e, Safe files Q (k (.error e)) w)
    (hok : Safe files Q (k (.ok ())) ⟨w.db, some ⟨w.db, []⟩⟩) :
    Safe files Q (call .beginTx k) w := by
  refine ⟨trivial, ?_⟩
  rintro ⟨fate, now⟩
  cases fate with
  | ok => exact hok
  | fails n => exact herror .failed
  | unreported => exact herror .failed

/-- A body that is reported as done has run whole. -/
theorem safe_execBody {f : Entry D} {tx : Tx D} {k : Except DbError Unit → Code D}
    (herror : ∀ e tx', Safe files Q (k (.error e)) ⟨w.db, some tx'⟩)
    (hok : ∀ now data, runBody now f.body tx.db.data = (data, true) →
      Safe files Q (k (.ok ())) ⟨w.db, some ⟨⟨tx.db.schemaMigrations, data⟩, tx.ran ++ [(f, now)]⟩⟩) :
    Safe files Q (call (.execBody f) k) ⟨w.db, some tx⟩ := by
  refine ⟨trivial, ?_⟩
  rintro ⟨fate, now⟩
  show Safe files Q (k (execBody ⟨fate, now⟩ f tx).1)
    ⟨w.db, some (execBody ⟨fate, now⟩ f tx).2⟩
  rcases hrun : runBody now f.body tx.db.data with ⟨data, whole⟩
  cases fate with
  | fails n => exact herror .failed _
  | ok =>
      simp only [execBody, hrun]
      cases whole with
      | true => exact hok now data hrun
      | false => exact herror .failed _
  | unreported =>
      simp only [execBody, hrun]
      cases whole with
      | true => exact herror .failed _
      | false => exact herror .failed _

/-- A row that is reported as inserted was not there, and is there now. -/
theorem safe_insertVersion {v : Int64} {tx : Tx D} {k : Except DbError Unit → Code D}
    (herror : ∀ e tx', Safe files Q (k (.error e)) ⟨w.db, some tx'⟩)
    (hok : ∀ tx' : Tx D, tx'.ran = tx.ran → tx'.db.data = tx.db.data →
      (∀ u, tx'.db.applied u = true ↔ tx.db.applied u = true ∨ u = v) →
      Safe files Q (k (.ok ())) ⟨w.db, some tx'⟩) :
    Safe files Q (call (.insertVersion v) k) ⟨w.db, some tx⟩ := by
  refine ⟨trivial, ?_⟩
  rintro ⟨fate, now⟩
  show Safe files Q (k (insertVersion ⟨fate, now⟩ v tx).1)
    ⟨w.db, some (insertVersion ⟨fate, now⟩ v tx).2⟩
  obtain ⟨⟨table, data⟩, ran⟩ := tx
  cases table with
  | none => exact herror .noSuchTable _
  | some t =>
      simp only [insertVersion]
      split_ifs with htaken heffective
      · exact herror .uniqueFailed _
      · cases fate with
        | ok =>
            refine hok _ rfl rfl ?_
            intro u
            simp only [Db.applied, Option.any_some, decide_eq_true_eq, AList.mem_insert]
            exact or_comm
        | fails n => exact absurd heffective Bool.false_ne_true
        | unreported => exact herror .failed _
      · exact herror .failed _

theorem safe_rollback {k : Unit → Code D} (h : Safe files Q (k ()) ⟨w.db, none⟩) :
    Safe files Q (call .rollback k) w :=
  ⟨trivial, fun _ => h⟩

/-- The transaction of a migration that is due may be committed. -/
theorem safe_commit {tx : Tx D} {f : Entry D} {v now : Int64} {k : Except DbError Unit → Code D}
    (hdue : Due files w.db f v) (hcarries : Carries w.db f v now tx)
    (herror : ∀ e, Safe files Q (k (.error e)) ⟨w.db, none⟩)
    (heffect : ∀ r, Safe files Q (k r) ⟨tx.db, none⟩) :
    Safe files Q (call .commit k) ⟨w.db, some tx⟩ := by
  refine ⟨⟨tx, f, v, now, rfl, hdue, hcarries⟩, ?_⟩
  rintro ⟨fate, now⟩
  cases fate with
  | ok => exact heffect (.ok ())
  | fails n => exact herror .failed
  | unreported => exact heffect (.error .failed)

end Rules

-- ============================================================================
-- The code keeps to its rule
-- ============================================================================

/-- How one migration ends: without a transaction, and applied where no error is reported. -/
structure Applies (db : Db D) (v : Int64) (r : Except MigrateError Unit) (w : World D) : Prop where
  closed : w.tx = none
  kept : ∀ u, db.applied u = true → w.db.applied u = true
  done : r = .ok () → w.db.applied v = true

theorem Applies.failed {db : Db D} {v : Int64} (e : MigrateError) :
    Applies db v (.error e) ⟨db, none⟩ :=
  ⟨rfl, fun _ h => h, fun h => nomatch h⟩

theorem applyEntry_safe {db : Db D} {f : Entry D} {v : Int64} (hdue : Due files db f v) :
    Safe files (Applies db v) (applyEntry v f) ⟨db, none⟩ := by
  unfold applyEntry
  refine safe_readFile (fun e => Applies.failed _) ?_
  refine safe_beginTx (fun e => Applies.failed _) ?_
  refine safe_execBody (w := ⟨db, none⟩) (fun e tx' => safe_rollback (Applies.failed _)) ?_
  intro now data hbody
  refine safe_insertVersion (w := ⟨db, none⟩)
    (fun e tx' => safe_rollback (Applies.failed _)) ?_
  intro tx hran hdata hrow
  have hcarries : Carries db f v now tx :=
    ⟨hran, by rw [hdata]; exact hbody, hrow⟩
  refine safe_commit (w := ⟨db, none⟩) hdue hcarries (fun e => Applies.failed _) ?_
  intro r
  have hkept : ∀ u, db.applied u = true → tx.db.applied u = true := by
    intro u hu
    exact (hrow u).mpr (.inl hu)
  cases r with
  | error e => exact ⟨rfl, hkept, fun h => nomatch h⟩
  | ok _ => exact ⟨rfl, hkept, fun _ => (hrow v).mpr (.inr rfl)⟩

/-- How a call of `Migrate` ends. -/
def Migrates (files : List (Entry D)) (r : Except MigrateError Unit) (w : World D) : Prop :=
  w.tx = none ∧ (r = .ok () → AllApplied files w.db)

theorem Migrates.failed {db : Db D} (e : MigrateError) : Migrates files (.error e) ⟨db, none⟩ :=
  ⟨rfl, fun h => nomatch h⟩

theorem version_of_skipped {f : Entry D} (h : (f.isDir || !f.isSQL) = true) : f.version = none :=
  if_pos h

theorem version_of_sql {f : Entry D} (h : ¬(f.isDir || !f.isSQL) = true) :
    f.version = atoi f.versionText :=
  if_neg h

/-- The loop: what is behind it is applied, and what is before it comes in the order of the
    names. -/
theorem migrateEntries_safe (before : List (Entry D)) {entries : List (Entry D)} {db : Db D}
    (hall : ∀ g, g ∈ files ↔ g ∈ before ∨ g ∈ entries)
    (hsorted : entries.Pairwise NotAfter)
    (hbefore : ∀ g ∈ before, ∀ u, g.version = some u → db.applied u = true) :
    Safe files (Migrates files) (migrateEntries entries) ⟨db, none⟩ := by
  induction entries generalizing before db with
  | nil =>
      refine ⟨rfl, ?_⟩
      intro _ g hg
      rcases (hall g).mp hg with h | h
      · exact hbefore g h
      · exact absurd h List.not_mem_nil
  | cons f entries ih =>
      obtain ⟨hf, hrest⟩ := List.pairwise_cons.mp hsorted
      -- the entry goes over to those behind the loop
      have hmoved : ∀ g, g ∈ files ↔ g ∈ f :: before ∨ g ∈ entries := by
        intro g
        rw [hall g, List.mem_cons, List.mem_cons, or_left_comm, or_assoc]
      have hnext : ∀ db' : Db D, (∀ u, db.applied u = true → db'.applied u = true) →
          (∀ u, f.version = some u → db'.applied u = true) →
          Safe files (Migrates files) (migrateEntries entries) ⟨db', none⟩ := by
        intro db' hkept hdone
        refine ih (f :: before) hmoved hrest ?_
        intro g hg u hu
        rcases List.mem_cons.mp hg with rfl | hg
        · exact hdone u hu
        · exact hkept u (hbefore g hg u hu)
      rw [migrateEntries]
      split_ifs with hskip
      · refine hnext db (fun _ h => h) ?_
        intro u hu
        rw [version_of_skipped hskip] at hu
        cases hu
      · cases hversion : atoi f.versionText with
        | none => exact Migrates.failed _
        | some v =>
            have hv : f.version = some v := (version_of_sql hskip).trans hversion
            refine safe_selectCount (fun e => Migrates.failed _) ?_
            by_cases happlied : db.applied v = true
            · rw [if_pos happlied]
              refine hnext db (fun _ h => h) ?_
              intro u hu
              obtain rfl := Option.some.inj (hv.symm.trans hu)
              exact happlied
            · rw [if_neg happlied]
              have hdue : Due files db f v := by
                refine ⟨(hall f).mpr (.inr List.mem_cons_self), hv,
                  Bool.not_eq_true _ ▸ happlied, ?_⟩
                intro g hg hlt
                rcases (hall g).mp hg with hb | he
                · exact hbefore g hb
                · rcases List.mem_cons.mp he with rfl | he
                  · exact absurd hlt (String.lt_irrefl _)
                  · exact absurd hlt (hf g he)
              refine (applyEntry_safe hdue).bind ?_
              rintro r ⟨db', tx⟩ ⟨hclosed, hkept, hdone⟩
              obtain rfl : tx = none := hclosed
              cases r with
              | error e => exact Migrates.failed _
              | ok _ =>
                  refine hnext db' hkept ?_
                  intro u hu
                  obtain rfl := Option.some.inj (hv.symm.trans hu)
                  exact hdone rfl

/-- The spec of `Migrate`. -/
theorem migrate_safe (db : Db D) : Safe files (Migrates files) Migrate ⟨db, none⟩ := by
  unfold Migrate
  refine safe_createTable (w := ⟨db, none⟩) (fun e => Migrates.failed _) ?_
  intro r
  cases r with
  | error e => exact Migrates.failed _
  | ok _ =>
      refine safe_readDir (fun e => Migrates.failed _) ?_
      refine migrateEntries_safe [] ?_ (List.pairwise_insertionSort _ files) ?_
      · intro g
        rw [byName, List.mem_insertionSort]
        exact ⟨.inr, fun h => h.resolve_left List.not_mem_nil⟩
      · intro g hg
        exact absurd hg List.not_mem_nil

-- ============================================================================
-- Runs
-- ============================================================================

/-- A process on a database. -/
abbrev Server (D : Type) : Type :=
  Process (Call D) Answer (World D) (Except MigrateError Unit)

/-- A server that has not started yet. -/
def boot (db : Db D) : Server D := ⟨⟨db, none⟩, none⟩

/-- A step of a server with the embedded files. -/
def step (files : List (Entry D)) (s : Server D) (l : Process.Event Outcome) : Server D :=
  s.step Migrate (exec files) recover l

/-- The bodies that a call commits. -/
def committed (o : Outcome) (c : Call D) (w : World D) : List (Entry D × Int64) :=
  match c with
  | .commit => if o.fate.effective then w.tx.elim [] Tx.ran else []
  | _ => []

/-- The bodies that a step commits. -/
def commits (s : Server D) (l : Process.Event Outcome) : List (Entry D × Int64) :=
  Process.observe committed s l

/-- All bodies that a run commits, each with its time. -/
def bodies (files : List (Entry D)) (db : Db D) (ls : List (Process.Event Outcome)) :
    List (Entry D × Int64) :=
  LabelledRun.history (step files) commits (boot db) ls

/-- The server after a run. -/
def after (files : List (Entry D)) (db : Db D) (ls : List (Process.Event Outcome)) : Server D :=
  LabelledRun.run (step files) (boot db) ls

/-- A call of `Migrate` has returned `nil`. -/
def ReturnsNil (s : Server D) : Prop := s.program = some (done (.ok ()))

theorem interruptible (files : List (Entry D)) :
    Process.Interruptible Migrate (exec files) recover (fun w => w.tx = none) (CommitsDue files)
      (Migrates files) := by
  refine ⟨?_, fun r w h => h.1, fun w _ => rfl, fun c w _ => rfl⟩
  rintro ⟨db, tx⟩ htx
  obtain rfl : tx = none := htx
  exact migrate_safe db

theorem sound_boot (files : List (Entry D)) (db : Db D) :
    (boot db).Sound (exec files) (fun w => w.tx = none) (CommitsDue files) (Migrates files) := by
  rw [Process.Sound]
  rfl

/-- The database is what the committed bodies have made of the first one. -/
structure Made (files : List (Entry D)) (db : Db D) (log : List (Entry D × Int64))
    (w : World D) : Prop where
  once : (log.map Prod.fst).Nodup
  row : ∀ v, w.db.applied v = true ↔
    db.applied v = true ∨ ∃ x ∈ log, x.1.version = some v
  pending : ∀ x ∈ log, x.1 ∈ files ∧ ∃ v, x.1.version = some v ∧ db.applied v = false
  data : w.db.data = log.foldl (fun d x => (runBody x.2 x.1.body d).1) db.data

variable {db : Db D} {log : List (Entry D × Int64)} {w : World D}

/-- A step that changes no row and no data. -/
theorem Made.same (h : Made files db log w) {w' : World D}
    (hrow : ∀ v, w'.db.applied v = w.db.applied v) (hdata : w'.db.data = w.db.data) :
    Made files db log w' := by
  refine ⟨h.once, ?_, h.pending, hdata.trans h.data⟩
  intro v
  rw [hrow v]
  exact h.row v

/-- A step that commits a migration that is due. -/
theorem Made.commit (h : Made files db log w) {f : Entry D} {v now : Int64} {tx : Tx D}
    (hdue : Due files w.db f v) (hcarries : Carries w.db f v now tx) :
    Made files db (log ++ tx.ran) ⟨tx.db, none⟩ := by
  have hnew : ¬(db.applied v = true ∨ ∃ x ∈ log, x.1.version = some v) := by
    rw [← h.row v, hdue.pending]
    exact Bool.false_ne_true
  rw [hcarries.ran]
  constructor
  · rw [List.map_append]
    refine List.nodup_append'.mpr ⟨h.once, List.nodup_singleton _, ?_⟩
    intro g hg hf
    obtain rfl := List.mem_singleton.mp hf
    obtain ⟨x, hx, rfl⟩ := List.mem_map.mp hg
    exact hnew (.inr ⟨x, hx, hdue.version⟩)
  · intro u
    show tx.db.applied u = true ↔ _
    rw [hcarries.row u, h.row u, or_assoc]
    refine or_congr_right ?_
    constructor
    · rintro (⟨x, hx, hu⟩ | rfl)
      · exact ⟨x, List.mem_append_left _ hx, hu⟩
      · exact ⟨(f, now), List.mem_append_right _ (List.mem_singleton.mpr rfl), hdue.version⟩
    · rintro ⟨x, hx, hu⟩
      rcases List.mem_append.mp hx with hx | hx
      · exact .inl ⟨x, hx, hu⟩
      · obtain rfl := List.mem_singleton.mp hx
        exact .inr (Option.some.inj (hu.symm.trans hdue.version))
  · intro x hx
    rcases List.mem_append.mp hx with hx | hx
    · exact h.pending x hx
    · obtain rfl := List.mem_singleton.mp hx
      exact ⟨hdue.listed, v, hdue.version, Bool.not_eq_true _ ▸ fun hv => hnew (.inl hv)⟩
  · rw [List.foldl_append, ← h.data]
    show tx.db.data = (runBody now f.body w.db.data).1
    rw [hcarries.body]

/-- A call other than `COMMIT` leaves the database, and creates the table at most. -/
theorem exec_db (files : List (Entry D)) (o : Outcome) {c : Call D} (hc : c ≠ .commit)
    (w : World D) :
    (exec files o c w).2.db = w.db ∨ (exec files o c w).2.db = w.db.createTable := by
  cases c with
  | createTable =>
      simp only [exec]
      split_ifs
      · exact .inr rfl
      · exact .inl rfl
  | readDir => exact .inl rfl
  | selectCount v =>
      simp only [exec]
      split <;> exact .inl rfl
  | readFile f => exact .inl rfl
  | beginTx =>
      simp only [exec]
      split <;> exact .inl rfl
  | execBody f =>
      simp only [exec]
      split <;> exact .inl rfl
  | insertVersion v =>
      simp only [exec]
      split <;> exact .inl rfl
  | rollback => exact .inl rfl
  | commit => exact absurd rfl hc

/-- Only a `COMMIT` that takes effect commits, and it commits the open transaction. -/
theorem mem_committed {o : Outcome} {c : Call D} {x : Entry D × Int64}
    (h : x ∈ committed o c w) : c = .commit ∧ ∃ tx, w.tx = some tx ∧ x ∈ tx.ran := by
  cases c with
  | commit =>
      obtain ⟨db', tx⟩ := w
      simp only [committed] at h
      split_ifs at h
      · cases tx with
        | none => exact absurd h List.not_mem_nil
        | some tx => exact ⟨rfl, tx, rfl, h⟩
      · exact absurd h List.not_mem_nil
  | _ => exact absurd h List.not_mem_nil

/-- The step lemma of the history. -/
theorem Made.call {o : Outcome} {c : Call D} (hkeeps : CommitsDue files c w)
    (h : Made files db log w) :
    Made files db (log ++ committed o c w) (exec files o c w).2 := by
  by_cases hc : c = .commit
  · subst hc
    obtain ⟨tx, f, v, now, htx, hdue, hcarries⟩ := hkeeps
    have hmade := h.commit hdue hcarries
    obtain ⟨db', _⟩ := w
    obtain rfl : _ = some tx := htx
    simp only [committed, exec]
    split_ifs
    · exact hmade
    · rw [List.append_nil]
      exact h.same (fun _ => rfl) rfl
  · have hnone : committed o c w = [] := by
      refine List.eq_nil_iff_forall_not_mem.mpr ?_
      intro x hx
      exact hc (mem_committed hx).1
    rw [hnone, List.append_nil]
    rcases exec_db files o hc w with hdb | hdb
    · exact h.same (fun v => by rw [hdb]) (by rw [hdb])
    · exact h.same (fun v => by rw [hdb, applied_createTable]) (by rw [hdb]; rfl)

/-- The run lemma of the history. -/
theorem made_run (files : List (Entry D)) (db : Db D) (ls : List (Process.Event Outcome)) :
    Made files db (bodies files db ls) (after files db ls).world := by
  refine Process.history_run (interruptible files) ?_ ?_ (sound_boot files db) ?_ ls
  · intro es o c w hkeeps h
    exact h.call hkeeps
  · intro es w h
    exact h.same (fun _ => rfl) rfl
  · refine ⟨List.nodup_nil, ?_, ?_, rfl⟩
    · intro v
      exact ⟨.inl, fun h => h.resolve_right (fun ⟨_, hx, _⟩ => List.not_mem_nil hx)⟩
    · intro x hx
      exact absurd hx List.not_mem_nil

theorem sound_after (files : List (Entry D)) (db : Db D) (ls : List (Process.Event Outcome)) :
    (after files db ls).Sound (exec files) (fun w => w.tx = none) (CommitsDue files)
      (Migrates files) :=
  Process.sound_run (interruptible files) (sound_boot files db) ls

/-- A version names a file. -/
theorem eq_of_version (hdistinct : (files.filterMap Entry.version).Nodup) {f g : Entry D}
    (hf : f ∈ files) (hg : g ∈ files) {v : Int64} (hfv : f.version = some v)
    (hgv : g.version = some v) : f = g := by
  induction files with
  | nil => exact absurd hf List.not_mem_nil
  | cons e rest ih =>
      have hmem : ∀ x ∈ rest, x.version = some v → v ∈ rest.filterMap Entry.version :=
        fun x hx hxv => List.mem_filterMap.mpr ⟨x, hx, hxv⟩
      cases he : e.version with
      | none =>
          rw [List.filterMap_cons_none he] at hdistinct
          have hskip : ∀ x ∈ e :: rest, x.version = some v → x ∈ rest := by
            intro x hx hxv
            refine (List.mem_cons.mp hx).resolve_left ?_
            rintro rfl
            rw [he] at hxv
            cases hxv
          exact ih hdistinct (hskip f hf hfv) (hskip g hg hgv)
      | some u =>
          rw [List.filterMap_cons_some he] at hdistinct
          obtain ⟨hfresh, hrest⟩ := List.nodup_cons.mp hdistinct
          rcases List.mem_cons.mp hf with rfl | hf'
          · rcases List.mem_cons.mp hg with rfl | hg'
            · rfl
            · obtain rfl := Option.some.inj (he.symm.trans hfv)
              exact absurd (hmem g hg' hgv) hfresh
          · rcases List.mem_cons.mp hg with rfl | hg'
            · obtain rfl := Option.some.inj (he.symm.trans hgv)
              exact absurd (hmem f hf' hfv) hfresh
            · exact ih hrest hf' hg'

/-- **Migrations apply exactly once, in order.**  In every run of calls of `Migrate` that fail
    and are interrupted at any statement: no body is committed twice; a body is committed exactly
    if the row of its version is, where the first database did not have it; when one is
    committed no pending one has a smaller name; where `Migrate` returns `nil` every listed
    version is applied; and the data is what the committed bodies make of the first. -/
theorem migrations_apply_once (files : List (Entry D))
    (hdistinct : (files.filterMap Entry.version).Nodup) (db : Db D)
    (ls : List (Process.Event Outcome)) :
    ((bodies files db ls).map Prod.fst).Nodup ∧
      (∀ f ∈ (bodies files db ls).map Prod.fst, f ∈ files) ∧
      (∀ f ∈ files, ∀ v, f.version = some v →
        (f ∈ (bodies files db ls).map Prod.fst ↔
          (after files db ls).world.db.applied v = true ∧ db.applied v = false)) ∧
      LabelledRun.EachStep (step files) (fun s l => ∀ x ∈ commits s l, ∀ g ∈ files,
        g.name < x.1.name → ∀ u, g.version = some u → s.world.db.applied u = true)
        (boot db) ls ∧
      (ReturnsNil (after files db ls) → AllApplied files (after files db ls).world.db) ∧
      (after files db ls).world.db.data =
        (bodies files db ls).foldl (fun d x => (runBody x.2 x.1.body d).1) db.data := by
  have hmade := made_run files db ls
  refine ⟨hmade.once, ?_, ?_, ?_, ?_, hmade.data⟩
  · intro f hf
    obtain ⟨x, hx, rfl⟩ := List.mem_map.mp hf
    exact (hmade.pending x hx).1
  · intro f hf v hv
    constructor
    · intro hmem
      obtain ⟨x, hx, rfl⟩ := List.mem_map.mp hmem
      obtain ⟨-, u, hu, hnew⟩ := hmade.pending x hx
      obtain rfl := Option.some.inj (hv.symm.trans hu)
      exact ⟨(hmade.row v).mpr (.inr ⟨x, hx, hv⟩), hnew⟩
    · rintro ⟨hrow, hnew⟩
      rcases (hmade.row v).mp hrow with hold | ⟨x, hx, hxv⟩
      · rw [hnew] at hold
        exact absurd hold Bool.false_ne_true
      · have heq := eq_of_version hdistinct (hmade.pending x hx).1 hf hxv hv
        exact List.mem_map.mpr ⟨x, hx, heq⟩
  · intro pre l post hls x hx
    obtain ⟨o, c, hkeeps, hcommitted⟩ := Process.mem_observe (sound_after files db pre) hx
    obtain ⟨rfl, tx, htx, hran⟩ := mem_committed hcommitted
    obtain ⟨tx', f, v, now, htx', hdue, hcarries⟩ := hkeeps
    obtain rfl := Option.some.inj (htx.symm.trans htx')
    rw [hcarries.ran, List.mem_singleton] at hran
    subst hran
    exact hdue.first
  · intro hnil
    have hsound := sound_after files db ls
    rw [Process.Sound, hnil] at hsound
    exact hsound.2 rfl

/-- Statement `k` of the releases: the data are the statements that have run. -/
def mark (k : Nat) : Statement (List Nat) := fun _ d => some (d ++ [k])

/-- Three releases, and a file that is none. -/
def releases : List (Entry (List Nat)) :=
  [⟨"003_managed_accounts.sql", false, [mark 5]⟩, ⟨"README.md", false, []⟩,
    ⟨"001_initial.sql", false, [mark 1, mark 2]⟩,
    ⟨"002_restore_legacy_auto_closed_rooms.sql", false, [mark 3, mark 4]⟩]

/-- A database of the first release. -/
def legacyDb : Db (List Nat) := ⟨some ((∅ : KeyedTable Int64 Int64).insert 1 1), [1, 2]⟩

/-- `n` calls that succeed. -/
def succeed (n : Nat) : List (Process.Event Outcome) :=
  List.replicate n (.advance ⟨.ok, 7⟩)

/-- The second release crashes within its body, then its commit is not reported, and the third
    call of `Migrate` comes to the end. -/
def interruptedTwice : List (Process.Event Outcome) :=
  .start :: succeed 6 ++ [.advance ⟨.fails 1, 7⟩, .crash, .start] ++ succeed 8 ++
    [.advance ⟨.unreported, 7⟩, .start] ++ succeed 10

theorem legacy_migrates_once :
    (bodies releases legacyDb interruptedTwice).map (fun x => x.1.name) =
        ["002_restore_legacy_auto_closed_rooms.sql", "003_managed_accounts.sql"] ∧
      ((bodies releases legacyDb interruptedTwice).map Prod.fst).Nodup ∧
      AllApplied releases (after releases legacyDb interruptedTwice).world.db := by
  have honce := migrations_apply_once releases (by decide +kernel) legacyDb interruptedTwice
  refine ⟨by decide +kernel, honce.1, honce.2.2.2.2.1 ?_⟩
  rfl

end WatchTogether.Migrations

/-
  WatchTogether.Accounts.SuperAdmin

  The super administrator.  Accounts are created by any number of processes at once, and
  edited and deleted with any arguments; the index and the triggers of the third migration
  and the checks of the two transactions together keep one super administrator for ever.
-/

import WatchTogether.Lib.CallLog
import WatchTogether.Accounts.Service

namespace WatchTogether.Accounts

open LabelledRun Repository
open Rooms (StoreError)

-- ============================================================================
-- Runs
-- ============================================================================

/-- The two functions that create an account. -/
inductive Creation where
  | createUser (a : NewAccount)
  | bootstrapAdmin (a : NewAccount)
deriving DecidableEq

/-- The code that serves the request. -/
def Creation.code (s : AuthService) : Creation → Code Unit
  | createUser a => (Accounts.createUser s a).void
  | bootstrapAdmin a => (Accounts.bootstrapAdmin s a).void

/-- The transactions on an existing account. -/
inductive AccountChange where
  | updateUser (id username nickname hash : String) (disabled : Bool) (now : Int64)
  | deleteUser (id adminID : String)
deriving DecidableEq

/-- The tables after the change. -/
def AccountChange.apply : AccountChange → Database → Database
  | updateUser id username nickname hash disabled now, d =>
      (Database.updateUser id username nickname hash disabled now d).2
  | deleteUser id adminID, d => (Database.deleteUser id adminID d).2

/-- Processes that create accounts, on a database whose accounts are changed. -/
abbrev Creations : Type := Pool Creation Call Call.Answer Database

/-- A call of a request, the start of one, or a change of an account. -/
abbrev Creations.Step : Type := Pool.Move Creation (Option StoreError) AccountChange

/-- One step of the requests. -/
def Creations.step (s : AuthService) (p : Creations) (l : Creations.Step) : Creations :=
  Pool.step (Creation.code s) (exec s) AccountChange.apply p l

-- ============================================================================
-- The invariant
-- ============================================================================

/-- The user is super administrator. -/
def IsSuperAdmin (d : Database) (id : String) : Prop :=
  ∃ u, d.users.lookup id = some u ∧ u.role = .SUPER_ADMIN

/-- The user is super administrator and not disabled. -/
def Administers (d : Database) (id : String) : Prop :=
  ∃ u, d.users.lookup id = some u ∧ u.role = .SUPER_ADMIN ∧ u.disabled = false

instance (d : Database) (id : String) : Decidable (Administers d id) :=
  decidable_of_iff
    ((d.users.lookup id).any (fun u => decide (u.role = .SUPER_ADMIN) && !u.disabled) = true) (by
      rw [Option.any_eq_true]
      constructor
      · rintro ⟨u, hu, hboth⟩
        rw [Bool.and_eq_true, decide_eq_true_eq, Bool.not_eq_true'] at hboth
        exact ⟨u, hu, hboth⟩
      · rintro ⟨u, hu, hrole, henabled⟩
        exact ⟨u, hu, by simp [hrole, henabled]⟩)

theorem Administers.isSuperAdmin {d : Database} {id : String} (h : Administers d id) :
    IsSuperAdmin d id := by
  obtain ⟨u, hu, hrole, -⟩ := h
  exact ⟨u, hu, hrole⟩

/-- There is at most one super administrator, who is not disabled. -/
structure Administered (d : Database) : Prop where
  unique : ∀ i j, IsSuperAdmin d i → IsSuperAdmin d j → i = j
  enabled : ∀ i, IsSuperAdmin d i → Administers d i

/-- What the change leaves: the invariant, and the super administrator. -/
def Preserves (d d' : Database) : Prop :=
  Administered d → Administered d' ∧ ∀ i, IsSuperAdmin d i → IsSuperAdmin d' i

theorem preserves_refl (d : Database) : Preserves d d := fun hd => ⟨hd, fun _ hi => hi⟩

/-- A new account is not disabled, and the index admits no second super administrator. -/
theorem preserves_insertUser (id : String) (u : AccountRow) (d : Database)
    (henabled : u.disabled = false) : Preserves d (Database.insertUser id u d).2 := by
  obtain ⟨hfree, hindex, hrow⟩ | ⟨e, hrow⟩ := Database.insertUser_cases id u d
  · rw [hrow]
    intro hd
    have hsplit : ∀ i, IsSuperAdmin { d with users := d.users.insert id u } i →
        (i = id ∧ u.role = .SUPER_ADMIN) ∨ (i ≠ id ∧ IsSuperAdmin d i) := by
      rintro i ⟨v, hv, hrole⟩
      obtain ⟨rfl, rfl⟩ | ⟨hi, hold⟩ := AList.lookup_insert_iff.mp hv
      · exact .inl ⟨rfl, hrole⟩
      · exact .inr ⟨hi, v, hold, hrole⟩
    have hsecond : ∀ i, i ≠ id → IsSuperAdmin d i → u.role ≠ .SUPER_ADMIN := by
      rintro i hi ⟨v, hv, hrole⟩ hnew
      exact (Database.admits_iff.mp hindex i v hv hi).2 ⟨hrole, hnew⟩
    refine ⟨⟨?_, ?_⟩, ?_⟩
    · intro i j hi hj
      obtain ⟨rfl, hnew⟩ | ⟨hne, hold⟩ := hsplit i hi
      · obtain ⟨rfl, -⟩ | ⟨hne', hold'⟩ := hsplit j hj
        · rfl
        · exact absurd hnew (hsecond j hne' hold')
      · obtain ⟨rfl, hnew⟩ | ⟨-, hold'⟩ := hsplit j hj
        · exact absurd hnew (hsecond i hne hold)
        · exact hd.unique i j hold hold'
    · intro i hi
      obtain ⟨rfl, hnew⟩ | ⟨hne, hold⟩ := hsplit i hi
      · exact ⟨u, AList.lookup_insert _, hnew, henabled⟩
      · obtain ⟨v, hv, hrest⟩ := hd.enabled i hold
        exact ⟨v, (AList.lookup_insert_ne hne).trans hv, hrest⟩
    · rintro i ⟨v, hv, hrole⟩
      have hne : i ≠ id := fun heq => hfree (heq ▸ AList.mem_of_lookup hv)
      exact ⟨v, (AList.lookup_insert_ne hne).trans hv, hrole⟩
  · rw [hrow]
    exact preserves_refl d

/-- An edit changes no role, and does not disable the super administrator. -/
theorem preserves_updateUser (id username nickname hash : String) (disabled : Bool)
    (now : Int64) (d : Database) :
    Preserves d (Database.updateUser id username nickname hash disabled now d).2 := by
  obtain ⟨u, hu, hadmin, -, hrow⟩ | ⟨e, hrow⟩ :=
    Database.updateUser_cases id username nickname hash disabled now d
  · rw [hrow]
    intro hd
    let g := Database.editRow username nickname hash disabled now
    have hrole : ∀ v : AccountRow, (g v).role = v.role := fun _ => rfl
    have hlookup : ∀ i, (d.users.update id g).lookup i
        = if i = id then some (g u) else d.users.lookup i := by
      intro i
      rw [AList.lookup_update, hu]
      rfl
    have hsame : ∀ i, IsSuperAdmin { d with users := d.users.update id g } i ↔
        IsSuperAdmin d i := by
      intro i
      simp only [IsSuperAdmin, hlookup]
      by_cases hi : i = id
      · subst hi
        simp [hu, hrole]
      · simp [hi]
    refine ⟨⟨?_, ?_⟩, fun i hi => (hsame i).mpr hi⟩
    · intro i j hi hj
      exact hd.unique i j ((hsame i).mp hi) ((hsame j).mp hj)
    · intro i hi
      obtain ⟨v, hv, hsuper, henabled⟩ := hd.enabled i ((hsame i).mp hi)
      by_cases hid : i = id
      · subst hid
        rw [hu] at hv
        obtain rfl := Option.some.inj hv
        refine ⟨g u, ?_, hsuper, hadmin hsuper⟩
        exact (hlookup i).trans (if_pos rfl)
      · exact ⟨v, ((hlookup i).trans (if_neg hid)).trans hv, hsuper, henabled⟩
  · rw [hrow]
    exact preserves_refl d

/-- The super administrator is not deleted. -/
theorem preserves_deleteUser (id adminID : String) (d : Database) :
    Preserves d (Database.deleteUser id adminID d).2 := by
  obtain ⟨u, media, hu, hrole, hrow⟩ | ⟨e, hrow⟩ := Database.deleteUser_cases id adminID d
  · rw [hrow]
    intro hd
    have hkept : ∀ i, IsSuperAdmin d i → i ≠ id := by
      rintro i ⟨v, hv, hsuper⟩ rfl
      rw [hu] at hv
      obtain rfl := Option.some.inj hv
      exact hrole hsuper
    have hold : ∀ i v, (d.users.erase id).lookup i = some v → d.users.lookup i = some v :=
      fun i v hv => (AList.lookup_erase_iff.mp hv).2
    refine ⟨⟨?_, ?_⟩, ?_⟩
    · rintro i j ⟨v, hv, hi⟩ ⟨w, hw, hj⟩
      exact hd.unique i j ⟨v, hold i v hv, hi⟩ ⟨w, hold j w hw, hj⟩
    · rintro i ⟨v, hv, hi⟩
      obtain ⟨w, hw, hrest⟩ := hd.enabled i ⟨v, hold i v hv, hi⟩
      have hne := hkept i ⟨v, hold i v hv, hi⟩
      exact ⟨w, AList.lookup_erase_iff.mpr ⟨hne, hw⟩, hrest⟩
    · rintro i ⟨v, hv, hi⟩
      exact ⟨v, AList.lookup_erase_iff.mpr ⟨hkept i ⟨v, hv, hi⟩, hv⟩, hi⟩
  · rw [hrow]
    exact preserves_refl d

theorem preserves_apply (c : AccountChange) (d : Database) : Preserves d (c.apply d) := by
  cases c with
  | updateUser id username nickname hash disabled now =>
      exact preserves_updateUser id username nickname hash disabled now d
  | deleteUser id adminID => exact preserves_deleteUser id adminID d

-- ============================================================================
-- The code that creates accounts
-- ============================================================================

/-- The only call of the two functions inserts a user who is not disabled. -/
def InsertsEnabled (_ : Creation) (_ : List (Exchange Call Call.Answer)) (c : Call) : Prop :=
  ∃ u hash now, c = .write (.createUser u hash now) ∧ u.disabled = false

theorem meets_createAccount (s : AuthService) (role : Role) (a : NewAccount) (t : Creation)
    (es : List (Exchange Call Call.Answer)) :
    Program.Meets (InsertsEnabled t) (fun _ _ => True) (createAccount s role a) es := by
  rw [createAccount]
  split
  · exact .done trivial
  · split
    · exact .done trivial
    · refine .call ⟨_, _, _, rfl, rfl⟩ ?_
      intro r
      cases r <;> exact .done trivial

theorem meets_creation (s : AuthService) (t : Creation) :
    Program.Meets (InsertsEnabled t) (fun _ _ => True) (Creation.code s t) [] := by
  cases t with
  | createUser a => exact (meets_createAccount s .USER a _ []).void
  | bootstrapAdmin a => exact (meets_createAccount s .SUPER_ADMIN a _ []).void

theorem preserves_exec (s : AuthService) (fault : Option StoreError) {t : Creation}
    {es : List (Exchange Call Call.Answer)} {c : Call} (hc : InsertsEnabled t es c)
    (d : Database) : Preserves d (exec s fault c d).2 := by
  obtain ⟨u, hash, now, rfl, henabled⟩ := hc
  cases fault with
  | some e => exact preserves_refl d
  | none =>
      show Preserves d (Database.createUser u hash now d).2
      rw [Database.createUser]
      exact preserves_insertUser u.id _ d henabled

-- ============================================================================
-- Every run
-- ============================================================================

theorem administered_run (s : AuthService) {d : Database} (hd : Administered d)
    (ls : List Creations.Step) : Administered (run (Creations.step s) ⟨d, []⟩ ls).world :=
  (Pool.MeetsAll.init rfl).world (meets_creation s)
    (fun _ _ _ o d hc hd => (preserves_exec s o hc d hd).1)
    (fun c d hd => (preserves_apply c d hd).1) hd ls

/-- **Unique and permanent.**  From a database without super administrator, however the
    creations of accounts and the changes interleave: no state has two super
    administrators, and a user who is super administrator in one state is so in every later
    one, and not disabled. -/
theorem super_admin_permanent (s : AuthService) (d : Database)
    (hnone : ∀ i, ¬IsSuperAdmin d i) (ls : List Creations.Step) :
    (∀ i j, IsSuperAdmin (run (Creations.step s) ⟨d, []⟩ ls).world i →
      IsSuperAdmin (run (Creations.step s) ⟨d, []⟩ ls).world j → i = j) ∧
    ∀ pre post i, ls = pre ++ post →
      IsSuperAdmin (run (Creations.step s) ⟨d, []⟩ pre).world i →
      Administers (run (Creations.step s) ⟨d, []⟩ ls).world i := by
  have hd : Administered d :=
    ⟨fun i _ hi => absurd hi (hnone i), fun i hi => absurd hi (hnone i)⟩
  refine ⟨(administered_run s hd ls).unique, ?_⟩
  rintro pre post i rfl hi
  rw [run_append]
  have hlater : Administered (run (Creations.step s) (run (Creations.step s) ⟨d, []⟩ pre) post).world
      ∧ IsSuperAdmin (run (Creations.step s) (run (Creations.step s) ⟨d, []⟩ pre) post).world i := by
    refine (Pool.meets_run (meets_creation s) rfl pre).world (meets_creation s)
      (I := fun d => Administered d ∧ IsSuperAdmin d i) ?_ ?_ ⟨administered_run s hd pre, hi⟩ post
    · rintro t es c o d hc ⟨hd, hi⟩
      obtain ⟨hd', hkept⟩ := preserves_exec s o hc d hd
      exact ⟨hd', hkept i hi⟩
    · rintro c d ⟨hd, hi⟩
      obtain ⟨hd', hkept⟩ := preserves_apply c d hd
      exact ⟨hd', hkept i hi⟩
  exact hlater.1.enabled i hlater.2

/-- A service whose hashes can be read. -/
def plainAuth : AuthService :=
  ⟨3600000, fun token => "#" ++ token, fun password salt => password ++ salt, fun password encoded =>
    some (decide (encoded = hashPrefix ++ "salt" ++ "$" ++ password ++ "salt"))⟩

/-- Two processes bootstrap at once; then the administrator is renamed, disabled and
    deleted. -/
def bootstrapRun : List Creations.Step :=
  [ .start (.bootstrapAdmin ⟨"Admin", "initial-password", "Root", "a", "salt", 1⟩),
    .start (.bootstrapAdmin ⟨"other", "second-password", "Other", "b", "salt", 2⟩),
    .advance 1 none, .advance 0 none,
    .disturb (.updateUser "b" "renamed" "Other" "" false 3),
    .disturb (.updateUser "b" "renamed" "Other" "" true 4),
    .disturb (.deleteUser "b" "b") ]

theorem super_admin_permanent_bootstrap :
    IsSuperAdmin (run (Creations.step plainAuth) ⟨Database.empty, []⟩ (bootstrapRun.take 4)).world
      "b" ∧
    Administers (run (Creations.step plainAuth) ⟨Database.empty, []⟩ bootstrapRun).world "b" := by
  have hadmin : Administers
      (run (Creations.step plainAuth) ⟨Database.empty, []⟩ (bootstrapRun.take 4)).world "b" := by
    decide
  have hnone : ∀ i, ¬IsSuperAdmin Database.empty i := by
    rintro i ⟨v, hv, -⟩
    exact AList.lookup_ne_of_empty rfl i v hv
  have hlater := (super_admin_permanent plainAuth Database.empty hnone bootstrapRun).2
    (bootstrapRun.take 4) (bootstrapRun.drop 4) "b" (List.take_append_drop 4 bootstrapRun).symm
    hadmin.isSuperAdmin
  exact ⟨hadmin.isSuperAdmin, hlater⟩

end WatchTogether.Accounts

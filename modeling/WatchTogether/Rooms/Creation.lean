/-
  WatchTogether.Rooms.Creation

  `Service.Create` (`internal/rooms/service.go`) as a program over its calls: up to five
  times it draws a code and an id and tries to insert the room.  Any number of requests run
  beside each other and beside all other statements.
-/

import WatchTogether.Accounts.Service
import WatchTogether.Lib.CallLog
import WatchTogether.Rooms.Codes

namespace WatchTogether.Rooms.Creation

open LabelledRun Repository Program
open Accounts (isUniqueViolation)
open Uploads (trimSpace)

-- ============================================================================
-- Calls
-- ============================================================================

/-- The errors of `Create`. -/
inductive CreateError where
  | notMember
  | title
  | maxMembers
  | random
  /-- `could not allocate room code`. -/
  | exhausted
  | store (e : StoreError)
deriving DecidableEq

/-- What `Create` asks of the rest. -/
inductive CreateCall where
  /-- `s.Now().UnixMilli()`. -/
  | now
  /-- `roomCode`, whose `rand.Read` can fail, and `uuid.NewString`. -/
  | draw
  /-- `CreateRoom`. -/
  | write (r : Room) (now : Int64)
  /-- The call returns to its handler. -/
  | reply (x : Except CreateError Room)

variable (u : UUIDs)

/-- What a call answers with. -/
abbrev CreateCall.Answer : CreateCall → Type
  | now => Int64
  | draw => Option (Raw × { id : String // u.parses id = true })
  | write .. => Except StoreError Unit
  | reply _ => Unit

/-- Code that makes these calls. -/
abbrev CreateCode (α : Type) : Type := Program CreateCall (CreateCall.Answer u) α

/-- What a call depends on besides the database.  With a `fault` the database answers with an
    error that is not about a constraint, and nothing is written. -/
structure Chance where
  now : Int64
  drawn : Option (Raw × { id : String // u.parses id = true })
  fault : Option { e : StoreError // isUniqueViolation e = false }

/-- A call, on the database it finds. -/
def CreateCall.exec (o : Chance u) : (c : CreateCall) → Database → c.Answer u × Database
  | .now, d => (o.now, d)
  | .draw, d => (o.drawn, d)
  | .write r t, d =>
      match o.fault with
      | some e => (.error e.1, d)
      | none => d.createRoom r t
  | .reply _, d => ((), d)

-- ============================================================================
-- `Create`
-- ============================================================================

/-- The arguments of `Create`. -/
structure CreateRequest where
  host : Identity
  title : String
  max : Int

/-- The title without the space around it. -/
def CreateRequest.trimmed (t : CreateRequest) : String := String.ofList (trimSpace t.title.toList)

/-- The room that `Create` writes. -/
def newRoom (t : CreateRequest) (max : Int) (raw : Raw) (id : String) (now : Int64) : Room where
  id := id
  code := roomCode raw
  title := t.trimmed
  hostUserID := t.host.id
  status := .OPEN
  joinPolicy := .INVITE
  mediaID := none
  maxMembers := max
  createdAtMs := now
  updatedAtMs := now
  closedAtMs := none

/-- The loop, with `n` attempts left. -/
def attempt (t : CreateRequest) (max : Int) (now : Int64) : Nat →
    CreateCode u (Except CreateError Room)
  | 0 => done (.error .exhausted)
  | n + 1 =>
      call .draw fun
        | none => done (.error .random)
        | some (raw, id) =>
            call (.write (newRoom t max raw id.1 now) now) fun
              | .ok _ => done (.ok (newRoom t max raw id.1 now))
              | .error e =>
                  if isUniqueViolation e then attempt t max now n else done (.error (.store e))

/-- `Service.Create` of a service with the given `MaxMembers`. -/
def create (maxMembers : Int) (t : CreateRequest) : CreateCode u (Except CreateError Room) :=
  if t.host.guest then done (.error .notMember)
  else if t.trimmed.length < 1 ∨ 100 < t.trimmed.length then done (.error .title)
  else
    let max := if t.max = 0 then maxMembers else t.max
    if max < 2 ∨ maxMembers < max then done (.error .maxMembers)
    else call .now fun now => attempt u t max now 5

/-- A request, from the call of its handler to the answer. -/
def CreateRequest.code (maxMembers : Int) (t : CreateRequest) : CreateCode u Unit :=
  (create u maxMembers t).bind fun x => call (.reply x) fun _ => done ()

-- ============================================================================
-- What a request does
-- ============================================================================

variable {u}

/-- The calls of a request, with their answers. -/
abbrev Exchanges (u : UUIDs) : Type := List (Exchange CreateCall (CreateCall.Answer u))

/-- A room has been written. -/
def created : Exchange CreateCall (CreateCall.Answer u) → Bool
  | ⟨.write _ _, .ok _⟩ => true
  | _ => false

/-- A constraint has refused the room. -/
def refused : Exchange CreateCall (CreateCall.Answer u) → Bool
  | ⟨.write _ _, .error e⟩ => isUniqueViolation e
  | _ => false

/-- The request has been answered. -/
def replied : Exchange CreateCall (CreateCall.Answer u) → Bool
  | ⟨.reply _, _⟩ => true
  | _ => false

/-- The room is what the request asks for. -/
structure Proper (u : UUIDs) (maxMembers : Int) (t : CreateRequest) (now : Int64) (r : Room) :
    Prop where
  host : t.host.guest = false ∧ r.hostUserID = t.host.id
  uuid : u.parses r.id = true
  code : IsCode r.code
  title : r.title = t.trimmed ∧ 1 ≤ r.title.length ∧ r.title.length ≤ 100
  members : 2 ≤ r.maxMembers ∧ r.maxMembers ≤ maxMembers ∧ (t.max ≠ 0 → r.maxMembers = t.max)
  state : r.status = .OPEN ∧ r.joinPolicy = .INVITE ∧ r.mediaID = none
  row : createdRow r now = r

/-- What a call of a request follows. -/
structure CreateRules (maxMembers : Int) (t : CreateRequest) (es : Exchanges u) (c : CreateCall) :
    Prop where
  unanswered : es.countP replied = 0
  write : ∀ r now, c = .write r now → Proper u maxMembers t now r ∧ es.countP created = 0
  ok : ∀ r, c = .reply (.ok r) → (∃ now, ⟨.write r now, .ok ()⟩ ∈ es) ∧ es.countP created = 1
  error : ∀ e, c = .reply (.error e) → es.countP created = 0
  exhausted : c = .reply (.error .exhausted) → es.countP refused = 5

/-- What a request has done when it knows its result. -/
structure Ended (es : Exchanges u) (x : Except CreateError Room) : Prop where
  unanswered : es.countP replied = 0
  ok : ∀ r, x = .ok r → (∃ now, ⟨.write r now, .ok ()⟩ ∈ es) ∧ es.countP created = 1
  error : ∀ e, x = .error e → es.countP created = 0
  exhausted : x = .error .exhausted → es.countP refused = 5

theorem Ended.failed {es : Exchanges u} {e : CreateError} (hopen : es.countP replied = 0)
    (hnone : es.countP created = 0) (he : e ≠ .exhausted) : Ended es (.error e) :=
  ⟨hopen, by simp, fun _ _ => hnone, by simp [he]⟩

/-- A call that writes nothing and answers nobody. -/
theorem rules_quiet {maxMembers : Int} {t : CreateRequest} {es : Exchanges u} {c : CreateCall}
    (hopen : es.countP replied = 0) (hwrite : ∀ r now, c ≠ .write r now)
    (hreply : ∀ x, c ≠ .reply x) : CreateRules maxMembers t es c :=
  ⟨hopen, fun r now h => absurd h (hwrite r now), fun _ h => absurd h (hreply _),
    fun _ h => absurd h (hreply _), fun h => absurd h (hreply _)⟩

theorem meets_attempt {maxMembers max : Int} {t : CreateRequest} {now : Int64}
    (hproper : ∀ raw (id : { id : String // u.parses id = true }),
      Proper u maxMembers t now (newRoom t max raw id.1 now))
    (n : Nat) {es : Exchanges u} (hopen : es.countP replied = 0) (hnone : es.countP created = 0)
    (hrefused : es.countP refused + n = 5) :
    Meets (CreateRules maxMembers t) Ended (attempt u t max now n) es := by
  induction n generalizing es with
  | zero =>
      exact .done ⟨hopen, by simp, fun _ _ => hnone, fun _ => hrefused⟩
  | succ n ih =>
      rw [attempt]
      refine .call (rules_quiet hopen (by simp) (by simp)) ?_
      intro drawn
      have hopen₁ : List.countP replied (es ++ [⟨.draw, drawn⟩]) = 0 := by
        rw [List.countP_append, hopen]
        rfl
      have hnone₁ : List.countP created (es ++ [⟨.draw, drawn⟩]) = 0 := by
        rw [List.countP_append, hnone]
        rfl
      have hrefused₁ : List.countP refused (es ++ [⟨.draw, drawn⟩]) = es.countP refused := by
        rw [List.countP_append]
        rfl
      cases drawn with
      | none => exact .done (Ended.failed hopen₁ hnone₁ (by simp))
      | some x =>
          obtain ⟨raw, id⟩ := x
          refine .call ⟨hopen₁, ?_, by simp, by simp, by simp⟩ ?_
          · intro r now' heq
            obtain ⟨rfl, rfl⟩ := CreateCall.write.inj heq
            exact ⟨hproper raw id, hnone₁⟩
          intro answer
          cases answer with
          | ok done' =>
              refine .done ⟨?_, ?_, by simp, by simp⟩
              · rw [List.countP_append, hopen₁]
                rfl
              · intro r hr
                obtain rfl := Except.ok.inj hr
                refine ⟨⟨now, List.mem_append_right _ (List.mem_singleton_self _)⟩, ?_⟩
                rw [List.countP_append, hnone₁]
                rfl
          | error e =>
              have hopen₂ : List.countP replied (es ++ [⟨.draw, some (raw, id)⟩] ++
                  [⟨.write (newRoom t max raw id.1 now) now, .error e⟩]) = 0 := by
                rw [List.countP_append, hopen₁]
                rfl
              have hnone₂ : List.countP created (es ++ [⟨.draw, some (raw, id)⟩] ++
                  [⟨.write (newRoom t max raw id.1 now) now, .error e⟩]) = 0 := by
                rw [List.countP_append, hnone₁]
                rfl
              simp only
              split
              · rename_i hunique
                refine ih hopen₂ hnone₂ ?_
                have hlast : refused (u := u)
                    ⟨.write (newRoom t max raw id.1 now) now, .error e⟩ = true := hunique
                rw [List.countP_append, hrefused₁, List.countP_singleton, hlast, if_pos rfl]
                omega
              · exact .done (Ended.failed hopen₂ hnone₂ (by simp))

theorem meets_create (maxMembers : Int) (t : CreateRequest) :
    Meets (CreateRules (u := u) maxMembers t) Ended (create u maxMembers t) [] := by
  rw [create]
  split
  · exact .done (Ended.failed rfl rfl (by simp))
  rename_i hguest
  split
  · exact .done (Ended.failed rfl rfl (by simp))
  rename_i htitle
  dsimp only
  generalize hasked : (if t.max = 0 then maxMembers else t.max) = max
  split
  · exact .done (Ended.failed rfl rfl (by simp))
  rename_i hmax
  refine .call (rules_quiet rfl (by simp) (by simp)) ?_
  intro now
  refine meets_attempt ?_ 5 rfl rfl rfl
  intro raw id
  refine ⟨⟨by simpa using hguest, rfl⟩, id.2, isCode_roomCode raw, ⟨rfl, ?_⟩, ?_, ⟨rfl, rfl, rfl⟩, rfl⟩
  · rw [not_or] at htitle
    show 1 ≤ t.trimmed.length ∧ t.trimmed.length ≤ 100
    omega
  · rw [not_or] at hmax
    show 2 ≤ max ∧ max ≤ maxMembers ∧ (t.max ≠ 0 → max = t.max)
    refine ⟨by omega, by omega, fun hne => ?_⟩
    rw [← hasked, if_neg hne]

theorem meets_code (maxMembers : Int) (t : CreateRequest) :
    Meets (CreateRules (u := u) maxMembers t) (fun _ _ => True) (t.code u maxMembers) [] := by
  refine (meets_create maxMembers t).bind ?_
  intro es x hx
  refine .call ⟨hx.unanswered, by simp, ?_, ?_, ?_⟩ (fun _ => .done trivial)
  · intro r hr
    exact hx.ok r (CreateCall.reply.inj hr)
  · intro e he
    exact hx.error e (CreateCall.reply.inj he)
  · intro he
    exact hx.exhausted (CreateCall.reply.inj he)

/-- What the answer to a request says of the calls that came before it. -/
structure Answered (es : Exchanges u) : Prop where
  ok : ∀ r, ⟨.reply (.ok r), ()⟩ ∈ es →
    (∃ now, ⟨.write r now, .ok ()⟩ ∈ es) ∧ es.countP created = 1
  error : ∀ e, ⟨.reply (.error e), ()⟩ ∈ es → es.countP created = 0
  exhausted : ⟨.reply (.error .exhausted), ()⟩ ∈ es → es.countP refused = 5

theorem answered_step {maxMembers : Int} {t : CreateRequest} {es : Exchanges u} {c : CreateCall}
    (r : c.Answer u) (hc : CreateRules maxMembers t es c) : Answered (es ++ [⟨c, r⟩]) := by
  -- the answer is the last call
  have hfirst : ∀ x, (⟨.reply x, ()⟩ : Exchange CreateCall (CreateCall.Answer u)) ∈ es ++ [⟨c, r⟩] →
      c = .reply x := by
    intro x hx
    rcases List.mem_append.mp hx with hx | hx
    · exact absurd rfl (List.countP_eq_zero.mp hc.unanswered _ hx)
    · obtain hx := List.mem_singleton.mp hx
      exact (congrArg Sigma.fst hx).symm
  refine ⟨?_, ?_, ?_⟩
  · intro r' hr'
    obtain rfl := hfirst _ hr'
    obtain ⟨⟨now, hwrite⟩, hone⟩ := hc.ok r' rfl
    exact ⟨⟨now, List.mem_append_left _ hwrite⟩, by rw [List.countP_append, hone]; rfl⟩
  · intro e he
    obtain rfl := hfirst _ he
    rw [List.countP_append, hc.error e rfl]
    rfl
  · intro he
    obtain rfl := hfirst _ he
    rw [List.countP_append, hc.exhausted rfl]
    rfl

-- ============================================================================
-- Runs
-- ============================================================================

/-- Every statement but `CreateRoom`, which only `Create` runs. -/
abbrev Elsewhere : Type := { st : Statement // ∀ r now, st ≠ .createRoom r now }

/-- What other code writes. -/
def Elsewhere.write (st : Elsewhere) (d : Database) : Database := (st.1.perform d).2

/-- Calls of `Create` over one database. -/
abbrev Requests (u : UUIDs) : Type := Pool CreateRequest CreateCall (CreateCall.Answer u) Database

/-- A call of a request, the start of one, or a statement of other code. -/
abbrev Requests.Step (u : UUIDs) : Type := Pool.Move CreateRequest (Chance u) Elsewhere

/-- The database and the requests after a run that starts without any rows. -/
def Requests.after (maxMembers : Int) (ls : List (Requests.Step u)) : Requests u :=
  run (Pool.step (CreateRequest.code u maxMembers) (CreateCall.exec u) Elsewhere.write)
    ⟨Database.empty, []⟩ ls

/-- The exchanges of all requests of a run. -/
def Requests.log (maxMembers : Int) (ls : List (Requests.Step u)) :
    List (Nat × Exchange CreateCall (CreateCall.Answer u)) :=
  Pool.log (CreateRequest.code u maxMembers) (CreateCall.exec u) Elsewhere.write
    ⟨Database.empty, []⟩ ls

theorem answered_run (maxMembers : Int) (ls : List (Requests.Step u)) (i : Nat) :
    Answered (Pool.own i (Requests.log maxMembers ls)) :=
  Pool.own_run (P := fun t => CreateRules maxMembers t) (Q := fun _ _ _ => True)
    (meets_code maxMembers) (fun _ _ _ r hc _ => answered_step r hc)
    ⟨by simp, by simp, by simp⟩ rfl ls i

theorem catalogue_empty : Catalogue u Database.empty :=
  ⟨fun _ _ h => absurd h (AList.lookup_ne_of_empty rfl _ _),
    fun _ _ h => absurd h (AList.lookup_ne_of_empty rfl _ _),
    fun _ _ h => absurd h (AList.lookup_ne_of_empty rfl _ _),
    fun _ _ _ _ h => absurd h (AList.lookup_ne_of_empty rfl _ _)⟩

/-- **Call.**  A call of a request keeps the catalogue. -/
theorem catalogue_exec {maxMembers : Int} {t : CreateRequest} {es : Exchanges u} {c : CreateCall}
    (o : Chance u) (hc : CreateRules maxMembers t es c) {d : Database} (h : Catalogue u d) :
    Catalogue u (c.exec u o d).2 := by
  cases c with
  | now | draw | reply => exact h
  | write r now =>
      rw [CreateCall.exec]
      split
      · exact h
      · refine h.perform (.createRoom r now) ?_
        intro r' now' heq
        obtain ⟨rfl, rfl⟩ := Statement.createRoom.inj heq
        have hproper := (hc.write r now rfl).1
        exact ⟨hproper.uuid, hproper.code⟩

theorem catalogue_run (maxMembers : Int) (ls : List (Requests.Step u)) :
    Catalogue u (Requests.after maxMembers ls).world :=
  Pool.MeetsAll.world (P := fun t => CreateRules maxMembers t) (Q := fun _ _ _ => True)
    (meets_code maxMembers) (Pool.MeetsAll.init rfl)
    (fun _ _ _ o _ hc h => catalogue_exec o hc h)
    (fun st _ h => h.perform st.1 (fun r now heq => absurd heq (st.2 r now)))
    catalogue_empty ls

-- ============================================================================
-- What the requests get
-- ============================================================================

/-- The thread has inserted the room, as its request asked for it, with its host as the
    member `HOST`. -/
def Allocated (maxMembers : Int) (ls : List (Requests.Step u)) (i : Nat) (r : Room) : Prop :=
  ∃ pre o post t now, ls = pre ++ .advance i o :: post ∧
    (Requests.after maxMembers pre).pending i = some (t, .write r now) ∧
    Proper u maxMembers t now r ∧
    (Requests.after maxMembers (pre ++ [.advance i o])).world.rooms.lookup r.id = some r ∧
    (Requests.after maxMembers (pre ++ [.advance i o])).world.roomMembers.lookup
      (r.id, r.hostUserID) = some ⟨.HOST, now, none⟩

/-- A key of the room is in use. -/
def Taken (r : Room) (d : Database) : Prop :=
  r.id ∈ d.rooms ∨ (∃ x ∈ d.rooms.rows, x.code = r.code) ∨ (r.id, r.hostUserID) ∈ d.roomMembers

/-- What holds after every run. -/
structure CreationLaw (u : UUIDs) (maxMembers : Int) (ls : List (Requests.Step u)) : Prop where
  /-- A reference leads to the room whose id it is, or whose code it is in any letter case. -/
  found : ∀ ref r, Service.room u ref (Requests.after maxMembers ls).world = .ok r ↔
    (Requests.after maxMembers ls).world.rooms.lookup r.id = some r ∧
      (ref = r.id ∨ toUpper ref = r.code)
  /-- A request that is answered with a room has created this one and no other. -/
  accepted : ∀ i r, (i, ⟨.reply (.ok r), ()⟩) ∈ Requests.log maxMembers ls →
    Allocated maxMembers ls i r ∧ (Pool.own i (Requests.log maxMembers ls)).countP created = 1
  /-- A request that is answered with an error has created none. -/
  rejected : ∀ i e, (i, ⟨.reply (.error e), ()⟩) ∈ Requests.log maxMembers ls →
    (Pool.own i (Requests.log maxMembers ls)).countP created = 0
  /-- A request gives up after five refusals. -/
  exhausted : ∀ i, (i, ⟨.reply (.error .exhausted), ()⟩) ∈ Requests.log maxMembers ls →
    (Pool.own i (Requests.log maxMembers ls)).countP refused = 5
  /-- A refused room had a key that was in use. -/
  taken : ∀ i r now e, (i, ⟨.write r now, .error e⟩) ∈ Requests.log maxMembers ls →
    isUniqueViolation e = true → ∃ pre o post, ls = pre ++ .advance i o :: post ∧
      Taken r (Requests.after maxMembers pre).world

theorem foreignKey_not_unique : isUniqueViolation foreignKeyFailed = false := by
  decide +kernel

theorem taken_of_refused {o : Chance u} {r : Room} {now : Int64} {e : StoreError} {d : Database}
    (h : ((CreateCall.write r now).exec u o d).1 = .error e) (he : isUniqueViolation e = true) :
    Taken r d := by
  rw [CreateCall.exec] at h
  split at h
  · rename_i fault _
    obtain rfl := Except.error.inj h
    exact absurd he (by simp [fault.2])
  · rw [Database.createRoom] at h
    split at h
    · rename_i htaken
      refine htaken.imp id (Or.imp ?_ id)
      intro hany
      obtain ⟨x, hx, hcode⟩ := List.any_eq_true.mp hany
      exact ⟨x, hx, of_decide_eq_true hcode⟩
    · split at h
      · exact absurd h (by simp)
      · obtain rfl := Except.error.inj h
        exact absurd he (by simp [foreignKey_not_unique])

theorem after_snoc (maxMembers : Int) (ls : List (Requests.Step u)) (l : Requests.Step u) :
    Requests.after maxMembers (ls ++ [l]) =
      (Requests.after maxMembers ls).step (CreateRequest.code u maxMembers) (CreateCall.exec u)
        Elsewhere.write l := by
  rw [Requests.after, run_append]
  rfl

/-- An insertion of the log. -/
theorem allocated_of_written {maxMembers : Int} {ls : List (Requests.Step u)} {i : Nat} {r : Room}
    {now : Int64} (h : (i, ⟨.write r now, .ok ()⟩) ∈ Requests.log maxMembers ls) :
    Allocated maxMembers ls i r := by
  obtain ⟨pre, o, post, t, hls, hpending, hanswer⟩ := Pool.mem_log h
  have hrules : CreateRules maxMembers t _ (.write r now) :=
    (Pool.meets_run (P := fun t => CreateRules maxMembers t) (Q := fun _ _ _ => True)
      (meets_code maxMembers) rfl pre).pending hpending
  have hproper := (hrules.write r now rfl).1
  refine ⟨pre, o, post, t, now, hls, hpending, hproper, ?_⟩
  have hworld : (Requests.after maxMembers (pre ++ [.advance i o])).world
      = ((CreateCall.write r now).exec u o (Requests.after maxMembers pre).world).2 := by
    rw [after_snoc]
    exact Pool.step_advance_world hpending o
  have hok : ((CreateCall.write r now).exec u o (Requests.after maxMembers pre).world).1 = .ok () :=
    hanswer.symm
  rw [hworld]
  rw [CreateCall.exec] at hok ⊢
  split at hok
  · exact absurd hok (by simp)
  · obtain ⟨-, hinsert⟩ | ⟨e, hfailed⟩ := createRoom_cases r now (Requests.after maxMembers pre).world
    · simp only [hinsert]
      exact ⟨by rw [AList.lookup_insert, hproper.row], AList.lookup_insert _⟩
    · rw [hfailed] at hok
      exact absurd hok (by simp)

/-- **Rooms are created whole.**  In every run of requests and other statements, a request that
    is answered with a room has inserted it under a code and an id of its own, and one that is
    answered with an error has inserted none; it gives up only after five draws of which each
    met a key in use; and whatever happens, a reference leads to the one room that it names. -/
theorem creation_law (u : UUIDs) (maxMembers : Int) (ls : List (Requests.Step u)) :
    CreationLaw u maxMembers ls := by
  have hanswered := fun i => answered_run maxMembers ls i
  refine ⟨(catalogue_run maxMembers ls).room_eq_iff, ?_, ?_, ?_, ?_⟩
  · intro i r hr
    obtain ⟨⟨now, hwrite⟩, hone⟩ := (hanswered i).ok r (Pool.mem_own.mpr hr)
    exact ⟨allocated_of_written (Pool.mem_own.mp hwrite), hone⟩
  · intro i e he
    exact (hanswered i).error e (Pool.mem_own.mpr he)
  · intro i hi
    exact (hanswered i).exhausted (Pool.mem_own.mpr hi)
  · intro i r now e hwrite he
    obtain ⟨pre, o, post, t, hls, -, hanswer⟩ := Pool.mem_log hwrite
    exact ⟨pre, o, post, hls, taken_of_refused hanswer.symm he⟩

/-- The canonical form alone. -/
def canonical : UUIDs where
  parses s := decide (s.toList.length = 36)
  long s h := by
    rw [decide_eq_true_eq] at h
    omega

/-- Ann creates a room. -/
def ann : CreateRequest := ⟨⟨.USER, "ann", "u", "Ann", "", false⟩, " Films ", 0⟩

/-- The statement that makes the account of Ann. -/
def annRow : Statement := .createUser ⟨"u", "ann", "Ann", .USER, false, 1⟩ "" 1

/-- Zeros are drawn. -/
def zeros : Chance canonical :=
  ⟨5, some (fun _ => 0, ⟨"00000000-0000-0000-0000-000000000000", by decide +kernel⟩), none⟩

/-- The second room draws the keys of the first one, until it gives up. -/
example : (Requests.after 10 (.disturb ⟨annRow, by simp [annRow]⟩ :: .start ann :: .start ann ::
    (List.replicate 4 (.advance 0 zeros) ++ List.replicate 12 (.advance 1 zeros)))).world.rooms.rows.map
      (fun r => (r.code, r.title, r.maxMembers)) = [("AAAAAAAA", "Films", 10)] := by
  decide +kernel

end WatchTogether.Rooms.Creation

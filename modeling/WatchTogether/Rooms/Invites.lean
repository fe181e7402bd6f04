/-
  WatchTogether.Rooms.Invites

  The three ways into a room, `Join`, `JoinInviteUser` and `JoinInviteGuest`, as programs
  over their store calls: the check of the room, the use of the invite and the insertion
  are calls of their own, and everything may happen between two of them.
-/

import WatchTogether.Lib.CallLog
import WatchTogether.Repository.Database
import WatchTogether.Uploads.Service

namespace WatchTogether.Rooms

open Repository Program
open Uploads (trimSpace)

-- ============================================================================
-- Calls
-- ============================================================================

/-- The errors of `Join`, `JoinInviteUser` and `JoinInviteGuest`. -/
inductive JoinError where
  | notMember
  | roomClosed
  | inviteRequired
  | nickname
  | random
  | store (e : StoreError)
deriving DecidableEq

/-- What the three ask of the rest. -/
inductive JoinCall where
  /-- `s.Now()`. -/
  | now
  | roomByID (id : String)
  | inviteByHash (hash : String) (t : Int64)
  | write (st : Statement)
  /-- The call returns to its handler, with success or not. -/
  | reply (ok : Bool)
deriving DecidableEq

/-- What a call answers with. -/
abbrev JoinCall.Answer : JoinCall → Type
  | now => Int64
  | roomByID _ => Except StoreError Room
  | inviteByHash _ _ => Except StoreError (String × InviteRow)
  | write _ => Except StoreError Unit
  | reply _ => Unit

/-- Code that makes these calls. -/
abbrev JoinCode (α : Type) : Type := Program JoinCall JoinCall.Answer α

/-- The database, and the clock of the server. -/
structure JoinWorld where
  db : Database
  clock : Int64

/-- A call; with a `fault` the database answers with this error, and nothing is written. -/
def JoinCall.exec (fault : Option StoreError) : (c : JoinCall) → JoinWorld → c.Answer × JoinWorld
  | .now, w => (w.clock, w)
  | .roomByID id, w =>
      match fault with
      | some e => (.error e, w)
      | none => (Store.roomByID id w.db.toDB, w)
  | .inviteByHash hash t, w =>
      match fault with
      | some e => (.error e, w)
      | none => (w.db.inviteByHash hash t, w)
  | .write st, w =>
      match fault with
      | some e => (.error e, w)
      | none => ((st.perform w.db).1, { w with db := (st.perform w.db).2 })
  | .reply _, w => ((), w)

-- ============================================================================
-- The programs
-- ============================================================================

/-- `Service.Join`. -/
def join (roomID : String) (i : Identity) : JoinCode (Except JoinError Unit) :=
  if i.guest then done (.error .notMember)
  else
    call (.roomByID roomID) fun
      | .error e => done (.error (.store e))
      | .ok r =>
          if r.status = .CLOSED then done (.error .roomClosed)
          else if r.joinPolicy ≠ .OPEN then done (.error .inviteRequired)
          else
            call .now fun now =>
              call (.write (.addMember roomID i.id now)) fun
                | .error e => done (.error (.store e))
                | .ok _ => done (.ok ())

/-- `Service.InviteInfo` of the token with this hash: the invite under its id, and its
    room. -/
def inviteInfo (hash : String) : JoinCode (Except JoinError (String × InviteRow × Room)) :=
  call .now fun now =>
    call (.inviteByHash hash now) fun
      | .error e => done (.error (.store e))
      | .ok (id, i) =>
          call (.roomByID i.roomID) fun
            | .error e => done (.error (.store e))
            | .ok r => done (.ok (id, i, r))

/-- The common part of the two functions below: the invite of an open room is used. -/
def useInvite (hash : String) : JoinCode (Except JoinError Room) :=
  (inviteInfo hash).bind fun
    | .error e => done (.error e)
    | .ok (id, _, r) =>
        if r.status = .CLOSED then done (.error .roomClosed)
        else
          call (.write (.consumeInvite id)) fun
            | .error e => done (.error (.store e))
            | .ok _ => done (.ok r)

/-- `Service.JoinInviteUser`. -/
def joinInviteUser (hash : String) (user : Identity) : JoinCode (Except JoinError Room) :=
  if user.guest then done (.error .notMember)
  else
    (useInvite hash).bind fun
      | .error e => done (.error e)
      | .ok r =>
          call .now fun now =>
            call (.write (.addMember r.id user.id now)) fun
              | .error e => done (.error (.store e))
              | .ok _ => done (.ok r)

/-- A guest, with the lifetime of the session and what is drawn for it: the id, and the
    session's token and CSRF token with their hashes (`NewToken` can fail). -/
structure GuestEntry where
  nickname : String
  ttl : Int64
  id : String
  token : Option (String × String)
  csrf : Option (String × String)
deriving DecidableEq

/-- `Service.JoinInviteGuest`. -/
def joinInviteGuest (hash : String) (g : GuestEntry) :
    JoinCode (Except JoinError (Room × String × String)) :=
  let nickname := String.ofList (trimSpace g.nickname.toList)
  if nickname.length < 1 ∨ 60 < nickname.length then done (.error .nickname)
  else
    (useInvite hash).bind fun
      | .error e => done (.error e)
      | .ok r =>
          match g.token, g.csrf with
          | some (token, tokenHash), some (csrf, csrfHash) =>
              call .now fun now =>
                call (.write (.createGuestSession g.id
                    ⟨r.id, nickname, tokenHash, csrfHash, now + g.ttl, now⟩)) fun
                  | .error e => done (.error (.store e))
                  | .ok _ => done (.ok (r, token, csrf))
          | _, _ => done (.error .random)

/-- A request to enter a room. -/
inductive JoinRequest where
  | join (roomID : String) (i : Identity)
  | inviteUser (hash : String) (user : Identity)
  | inviteGuest (hash : String) (g : GuestEntry)

/-- The hash of the token that the request presents. -/
def JoinRequest.hash : JoinRequest → Option String
  | join .. => none
  | inviteUser hash _ => some hash
  | inviteGuest hash _ => some hash

/-- The reply of the handler. -/
def respond {α : Type} (x : Except JoinError α) : JoinCode Unit :=
  call (.reply x.isOk) fun _ => done ()

/-- The code of a request. -/
def JoinRequest.code : JoinRequest → JoinCode Unit
  | join roomID i => (Rooms.join roomID i).bind respond
  | inviteUser hash user => (joinInviteUser hash user).bind respond
  | inviteGuest hash g => (joinInviteGuest hash g).bind respond

-- ============================================================================
-- What the programs do
-- ============================================================================

/-- The exchanges of a call. -/
abbrev Exchanges : Type := List (Exchange JoinCall JoinCall.Answer)

/-- The statement lets somebody into the room. -/
def Inserts (st : Statement) (roomID : String) : Prop :=
  (∃ userID now, st = .addMember roomID userID now) ∨
    ∃ id g, st = .createGuestSession id g ∧ g.roomID = roomID

/-- The room has been read, and was not closed. -/
def ReadOpen (es : Exchanges) (roomID : String) : Prop :=
  ∃ id r, ⟨.roomByID id, .ok r⟩ ∈ es ∧ r.status ≠ .CLOSED ∧ (roomID = id ∨ roomID = r.id)

/-- The invite has been read by its hash, at a time that the clock has shown. -/
def ReadInvite (es : Exchanges) (hash id : String) : Prop :=
  ∃ t i, ⟨.now, t⟩ ∈ es ∧ ⟨.inviteByHash hash t, .ok (id, i)⟩ ∈ es

/-- The answer to the handler. -/
def replied : Exchange JoinCall JoinCall.Answer → Bool
  | ⟨.reply ok, _⟩ => ok
  | _ => false

/-- A `ConsumeInvite` that has been carried out. -/
def consumed : Exchange JoinCall JoinCall.Answer → Bool
  | ⟨.write (.consumeInvite _), .ok _⟩ => true
  | _ => false

/-- What may precede each call. -/
structure JoinRules (t : JoinRequest) (es : Exchanges) (c : JoinCall) : Prop where
  write : ∀ st, c = .write st → (∃ roomID, Inserts st roomID) ∨ ∃ id, st = .consumeInvite id
  insert : ∀ st roomID, c = .write st → Inserts st roomID → ReadOpen es roomID
  consume : ∀ id, c = .write (.consumeInvite id) → ∃ hash, t.hash = some hash ∧ ReadInvite es hash id
  reply : c = .reply true → t.hash ≠ none → es.countP replied = 0 ∧ es.countP consumed = 1

/-- A call that writes nothing, and is no answer. -/
theorem rules_read {t : JoinRequest} {es : Exchanges} {c : JoinCall} (hwrite : ∀ st, c ≠ .write st)
    (hreply : c ≠ .reply true) : JoinRules t es c :=
  ⟨fun st h => absurd h (hwrite st), fun st _ h => absurd h (hwrite st),
    fun _ h => absurd h (hwrite _), fun h => absurd h hreply⟩

/-- An insertion into a room that has been read. -/
theorem rules_insert {t : JoinRequest} {es : Exchanges} {st : Statement} {roomID : String}
    (hst : Inserts st roomID) (hroom : ReadOpen es roomID) : JoinRules t es (.write st) := by
  refine ⟨?_, ?_, ?_, fun h => absurd h (by simp)⟩
  · intro st' heq
    obtain rfl := JoinCall.write.inj heq
    exact .inl ⟨roomID, hst⟩
  · intro st' roomID' heq hst'
    obtain rfl := JoinCall.write.inj heq
    have hsame : roomID' = roomID := by
      rcases hst with ⟨u, now, rfl⟩ | ⟨id, g, rfl, rfl⟩
      · rcases hst' with ⟨u', now', heq'⟩ | ⟨id', g', heq', -⟩
        · exact (Statement.addMember.inj heq').1.symm
        · exact absurd heq' (by simp)
      · rcases hst' with ⟨u', now', heq'⟩ | ⟨id', g', heq', rfl⟩
        · exact absurd heq' (by simp)
        · rw [(Statement.createGuestSession.inj heq').2]
    rw [hsame]
    exact hroom
  · intro id heq
    obtain rfl := JoinCall.write.inj heq
    rcases hst with ⟨u, now, heq'⟩ | ⟨id', g, heq', -⟩
    · exact absurd heq' (by simp)
    · exact absurd heq' (by simp)

/-- What `useInvite` leaves: no answer yet, and, where it succeeds, a used invite and an open
    room. -/
def Used (es : Exchanges) (x : Except JoinError Room) : Prop :=
  es.countP replied = 0 ∧ ∀ r, x = .ok r → es.countP consumed = 1 ∧ ReadOpen es r.id

theorem used_error (e : JoinError) {es : Exchanges} (hes : es.countP replied = 0) :
    Used es (.error e) :=
  ⟨hes, fun _ h => absurd h (by simp)⟩

theorem meets_useInvite {t : JoinRequest} {hash : String} (ht : t.hash = some hash) :
    Meets (JoinRules t) Used (useInvite hash) [] := by
  refine .call (rules_read (by simp) (by simp)) (fun now => ?_)
  refine .call (rules_read (by simp) (by simp)) (fun answer => ?_)
  cases answer with
  | error e => exact .done (used_error _ rfl)
  | ok x =>
      obtain ⟨id, i⟩ := x
      refine .call (rules_read (by simp) (by simp)) (fun answer => ?_)
      cases answer with
      | error e => exact .done (used_error _ rfl)
      | ok r =>
          show Meets _ _ (if r.status = .CLOSED then _ else _) _
          split
          · exact .done (used_error _ rfl)
          rename_i hopen
          refine .call ?_ (fun answer => ?_)
          · refine ⟨?_, ?_, ?_, fun h => absurd h (by simp)⟩
            · intro st heq
              exact .inr ⟨id, (JoinCall.write.inj heq).symm⟩
            · intro st roomID heq hst
              obtain rfl := JoinCall.write.inj heq
              rcases hst with ⟨u, now, heq'⟩ | ⟨id', g, heq', -⟩
              · exact absurd heq' (by simp)
              · exact absurd heq' (by simp)
            · intro id' heq
              obtain rfl := Statement.consumeInvite.inj (JoinCall.write.inj heq)
              exact ⟨hash, ht, now, i, by simp, by simp⟩
          · cases answer with
            | error e => exact .done (used_error _ rfl)
            | ok _ =>
                refine .done ⟨rfl, ?_⟩
                intro r' heq
                obtain rfl := Except.ok.inj heq
                exact ⟨rfl, i.roomID, r, by simp, hopen, .inr rfl⟩

/-- What a function leaves to its handler: no answer yet, and a used invite behind every
    success of a request with an invite. -/
def Entered {α : Type} (t : JoinRequest) (es : Exchanges) (x : Except JoinError α) : Prop :=
  es.countP replied = 0 ∧ (x.isOk = true → t.hash ≠ none → es.countP consumed = 1)

theorem entered_error {α : Type} (t : JoinRequest) (e : JoinError) {es : Exchanges}
    (hes : es.countP replied = 0) : Entered t es (.error e : Except JoinError α) :=
  ⟨hes, fun h => absurd h (by simp [Except.isOk, Except.toBool])⟩

/-- The last statement of a request with an invite, and what it returns. -/
theorem meets_insert {α : Type} {t : JoinRequest} {es : Exchanges} {st : Statement}
    {roomID : String} (hst : Inserts st roomID) (hroom : ReadOpen es roomID)
    (hes : es.countP replied = 0) (hused : es.countP consumed = 1)
    {k : Except StoreError Unit → JoinCode (Except JoinError α)}
    (herror : ∀ e, ∃ e', k (.error e) = done (.error e')) (hok : ∃ a, k (.ok ()) = done (.ok a)) :
    Meets (JoinRules t) (Entered t) (call (.write st) k) es := by
  refine .call (rules_insert hst hroom) (fun answer => ?_)
  have hcount : ∀ r : Except StoreError Unit, List.countP replied (es ++ [⟨.write st, r⟩]) = 0 := by
    intro r
    rw [List.countP_append, hes]
    rfl
  have hconsume : ∀ r : Except StoreError Unit, consumed ⟨.write st, r⟩ = false := by
    intro r
    rcases hst with ⟨u, now, rfl⟩ | ⟨id, g, rfl, -⟩ <;> rfl
  cases answer with
  | error e =>
      obtain ⟨e', he⟩ := herror e
      rw [he]
      exact .done (entered_error t e' (hcount _))
  | ok _ =>
      obtain ⟨a, ha⟩ := hok
      rw [ha]
      refine .done ⟨hcount _, fun _ _ => ?_⟩
      rw [List.countP_append, hused, List.countP_singleton, hconsume]
      rfl

/-- The clock has been read after the invite was used. -/
theorem readOpen_append {es es' : Exchanges} {roomID : String} (h : ReadOpen es roomID) :
    ReadOpen (es ++ es') roomID := by
  obtain ⟨id, r, hmem, hopen, hid⟩ := h
  exact ⟨id, r, List.mem_append_left _ hmem, hopen, hid⟩

theorem meets_joinInviteUser (hash : String) (user : Identity) :
    Meets (JoinRules (.inviteUser hash user)) (Entered (.inviteUser hash user))
      (joinInviteUser hash user) [] := by
  rw [joinInviteUser]
  split
  · exact .done (entered_error _ _ rfl)
  refine (meets_useInvite rfl).bind ?_
  rintro es x ⟨hreplied, hok⟩
  cases x with
  | error e => exact .done (entered_error _ _ hreplied)
  | ok r =>
      obtain ⟨hconsumed, hroom⟩ := hok r rfl
      refine .call (rules_read (by simp) (by simp)) (fun now => ?_)
      refine meets_insert (.inl ⟨user.id, now, rfl⟩) (readOpen_append hroom) ?_ ?_
        (fun e => ⟨_, rfl⟩) ⟨_, rfl⟩
      · rw [List.countP_append, hreplied]
        rfl
      · rw [List.countP_append, hconsumed]
        rfl

theorem meets_joinInviteGuest (hash : String) (g : GuestEntry) :
    Meets (JoinRules (.inviteGuest hash g)) (Entered (.inviteGuest hash g))
      (joinInviteGuest hash g) [] := by
  simp only [joinInviteGuest]
  split
  · exact .done (entered_error _ _ rfl)
  refine (meets_useInvite rfl).bind ?_
  rintro es x ⟨hreplied, hok⟩
  cases x with
  | error e => exact .done (entered_error _ _ hreplied)
  | ok r =>
      obtain ⟨hconsumed, hroom⟩ := hok r rfl
      simp only
      split
      · refine .call (rules_read (by simp) (by simp)) (fun now => ?_)
        refine meets_insert (.inr ⟨g.id, _, rfl, rfl⟩) (readOpen_append hroom) ?_ ?_
          (fun e => ⟨_, rfl⟩) ⟨_, rfl⟩
        · rw [List.countP_append, hreplied]
          rfl
        · rw [List.countP_append, hconsumed]
          rfl
      · exact .done (entered_error _ _ hreplied)

theorem meets_join (roomID : String) (i : Identity) :
    Meets (JoinRules (.join roomID i)) (Entered (.join roomID i)) (join roomID i) [] := by
  rw [join]
  split
  · exact .done (entered_error _ _ rfl)
  refine .call (rules_read (by simp) (by simp)) (fun answer => ?_)
  cases answer with
  | error e => exact .done (entered_error _ _ rfl)
  | ok r =>
      show Meets _ _ (if r.status = .CLOSED then _ else _) _
      split
      · exact .done (entered_error _ _ rfl)
      rename_i hopen
      split
      · exact .done (entered_error _ _ rfl)
      refine .call (rules_read (by simp) (by simp)) (fun now => ?_)
      refine .call (rules_insert (.inl ⟨i.id, now, rfl⟩) ⟨roomID, r, by simp, hopen, .inl rfl⟩)
        (fun answer => ?_)
      cases answer with
      | error e => exact .done (entered_error _ _ rfl)
      | ok _ => exact .done ⟨rfl, fun _ hhash => absurd rfl hhash⟩

theorem meets_respond {α : Type} {t : JoinRequest} {es : Exchanges} {x : Except JoinError α}
    (h : Entered t es x) : Meets (JoinRules t) (fun _ _ => True) (respond x) es := by
  refine .call ⟨?_, ?_, ?_, ?_⟩ (fun _ => .done trivial)
  · exact fun st heq => absurd heq (by simp)
  · exact fun st roomID heq => absurd heq (by simp)
  · exact fun id heq => absurd heq (by simp)
  · intro heq hhash
    exact ⟨h.1, h.2 (JoinCall.reply.inj heq) hhash⟩

/-- Every request keeps the rules. -/
theorem meets_code (t : JoinRequest) : Meets (JoinRules t) (fun _ _ => True) t.code [] := by
  cases t with
  | join roomID i =>
      show Meets _ _ ((join roomID i).bind respond) []
      exact (meets_join roomID i).bind (fun _ _ h => meets_respond h)
  | inviteUser hash user =>
      show Meets _ _ ((joinInviteUser hash user).bind respond) []
      exact (meets_joinInviteUser hash user).bind (fun _ _ h => meets_respond h)
  | inviteGuest hash g =>
      show Meets _ _ ((joinInviteGuest hash g).bind respond) []
      exact (meets_joinInviteGuest hash g).bind (fun _ _ h => meets_respond h)

end WatchTogether.Rooms

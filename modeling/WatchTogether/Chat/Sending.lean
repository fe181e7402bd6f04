/-
  WatchTogether.Chat.Sending

  `Service.Send` and `Service.Typing` (`internal/chat/service.go`) as programs over their
  calls: the lookup of the room and the check of the membership, the limiter, the actor of
  the room, the insertion of the message and its broadcast.  Between two of them everything
  may happen.
-/

import WatchTogether.Chat.Messages
import WatchTogether.Lib.CallLog
import WatchTogether.Rooms.Codes
import WatchTogether.Security.Limiter

namespace WatchTogether.Chat.Sending

open LabelledRun Program Repository
open Rooms (ChatEvent StoreError UUIDs)
open Security (Limiter)
open Uploads (trimSpace)

-- ============================================================================
-- Calls
-- ============================================================================

/-- The errors of `Send` and `Typing`. -/
inductive ChatError where
  | notMember
  | messageTooLarge
  | rateLimited
  | store (e : StoreError)
deriving DecidableEq

/-- What the service asks of the rest. -/
inductive ChatCall where
  /-- `Service.room`. -/
  | findRoom (ref : String)
  | isMember (roomID id : String) (guest : Bool)
  /-- `s.Limiter.Allow`. -/
  | allow (key : String)
  /-- `s.Registry.Get`. -/
  | getActor (roomID : String)
  /-- `uuid.NewString`. -/
  | draw
  /-- `s.Now().UnixMilli()`. -/
  | now
  /-- `SaveChat`. -/
  | save (m : ChatMessage)
  /-- `Broadcast` of the actor of the room. -/
  | broadcast (roomID : String) (e : ChatEvent)
  /-- The call returns to its handler, with the message that `Send` returns. -/
  | reply (x : Except ChatError (Option ChatMessage))
deriving DecidableEq

/-- What a call answers with. -/
abbrev ChatCall.Answer : ChatCall → Type
  | findRoom _ => Except StoreError Room
  | isMember .. => Except StoreError Bool
  | allow _ => Bool
  | getActor _ => Except StoreError Unit
  | draw => String
  | now => Int64
  | save _ => Except StoreError Unit
  | broadcast .. => Unit
  | reply _ => Unit

/-- Code that makes these calls. -/
abbrev ChatCode (α : Type) : Type := Program ChatCall ChatCall.Answer α

-- ============================================================================
-- The programs
-- ============================================================================

/-- `rooms.Service.GetFor`. -/
def getFor (ref : String) (i : Identity) : ChatCode (Except ChatError Room) :=
  call (.findRoom ref) fun
    | .error e => done (.error (.store e))
    | .ok r =>
        call (.isMember r.id i.id i.guest) fun
          | .ok true =>
              if i.guest ∧ i.roomID ≠ r.id then done (.error .notMember) else done (.ok r)
          | _ => done (.error .notMember)

/-- `room.ID + ":" + i.ID`. -/
def limitKey (roomID id : String) : String := roomID ++ ":" ++ id

/-- The message that `Send` saves. -/
def newMessage (room : Room) (i : Identity) (content id : String) (now : Int64) : ChatMessage where
  id := id
  roomID := room.id
  senderID := i.id
  senderNickname := i.nickname
  senderGuest := i.guest
  content := content
  mediaPositionMs := none
  createdAtMs := now

/-- The end of `Send`: the message is saved, and then broadcast. -/
def publish (room : Room) (m : ChatMessage) : ChatCode (Except ChatError (Option ChatMessage)) :=
  call (.save m) fun
    | .error e => done (.error (.store e))
    | .ok _ => call (.broadcast room.id (.message m)) fun _ => done (.ok (some m))

/-- `Send` from the limiter on. -/
def post (room : Room) (i : Identity) (content : String) :
    ChatCode (Except ChatError (Option ChatMessage)) :=
  call (.allow (limitKey room.id i.id)) fun
    | false => done (.error .rateLimited)
    | true =>
        call (.getActor room.id) fun
          | .error e => done (.error (.store e))
          | .ok _ =>
              call .draw fun id =>
                call .now fun now => publish room (newMessage room i content id now)

/-- `Service.Send`. -/
def send (ref : String) (i : Identity) (content : String) :
    ChatCode (Except ChatError (Option ChatMessage)) :=
  (getFor ref i).bind fun
    | .error e => done (.error e)
    | .ok room =>
        let content := String.ofList (trimSpace content.toList)
        if content.length < 1 ∨ 2000 < content.length then done (.error .messageTooLarge)
        else post room i content

/-- `Service.Typing`. -/
def typing (ref : String) (i : Identity) (typing : Bool) :
    ChatCode (Except ChatError (Option ChatMessage)) :=
  (getFor ref i).bind fun
    | .error e => done (.error e)
    | .ok room =>
        call (.getActor room.id) fun
          | .error e => done (.error (.store e))
          | .ok _ =>
              call (.broadcast room.id (.typing i.id i.nickname typing 3000)) fun _ =>
                done (.ok none)

/-- A call of `Send` or `Typing`. -/
inductive ChatRequest where
  | send (ref : String) (i : Identity) (content : String)
  | typing (ref : String) (i : Identity) (typing : Bool)

/-- The function that is called. -/
def ChatRequest.service : ChatRequest → ChatCode (Except ChatError (Option ChatMessage))
  | send ref i content => Sending.send ref i content
  | typing ref i x => Sending.typing ref i x

/-- The function and its reply. -/
def ChatRequest.code (t : ChatRequest) : ChatCode Unit :=
  t.service.bind fun x => call (.reply x) fun _ => done ()

-- ============================================================================
-- The world
-- ============================================================================

/-- The database with its messages, and the limiter with its clock, in seconds. -/
structure ChatWorld where
  db : Database
  chat : ChatTable
  limiter : Limiter
  clock : ℚ

/-- What a call depends on besides the world; with a `fault` a store call fails. -/
structure Chance where
  fault : Option StoreError
  /-- What `Registry.Get` returns. -/
  actor : Except StoreError Unit
  id : String
  now : Int64

/-- `SaveChat`, with the foreign key of the room. -/
def ChatWorld.save (m : ChatMessage) (w : ChatWorld) : Except StoreError Unit × ChatWorld :=
  if m.roomID ∈ w.db.rooms then
    match saveChat m w.chat with
    | .error e => (.error e, w)
    | .ok chat => (.ok (), { w with chat := chat })
  else (.error foreignKeyFailed, w)

variable (u : UUIDs)

/-- A call, in the world it finds. -/
def ChatCall.exec (o : Chance) : (c : ChatCall) → ChatWorld → c.Answer × ChatWorld
  | .findRoom ref, w =>
      match o.fault with
      | some e => (.error e, w)
      | none => (Rooms.Service.room u ref w.db, w)
  | .isMember roomID id guest, w =>
      match o.fault with
      | some e => (.error e, w)
      | none => (.ok (Store.isMember roomID id guest w.db.toDB), w)
  | .allow key, w =>
      ((w.limiter.allow key w.clock).1, { w with limiter := (w.limiter.allow key w.clock).2 })
  | .getActor _, w => (o.actor, w)
  | .draw, w => (o.id, w)
  | .now, w => (o.now, w)
  | .save m, w =>
      match o.fault with
      | some e => (.error e, w)
      | none => w.save m
  | .broadcast .., w => ((), w)
  | .reply _, w => ((), w)

/-- Statements, and the clock. -/
inductive Event where
  | statement (st : Statement)
  | tick (t : ℚ)

/-- The messages go with their rooms. -/
def cascade (d : Database) (t : ChatTable) : ChatTable where
  saved := t.saved.filter (fun m => decide (m.roomID ∈ d.rooms))
  primaryKey := t.primaryKey.sublist (List.filter_sublist.map _)

/-- The world after the event. -/
def Event.occur : Event → ChatWorld → ChatWorld
  | .statement st, w => { w with db := (st.perform w.db).2, chat := cascade (st.perform w.db).2 w.chat }
  | .tick t, w => { w with clock := max w.clock t }

/-- Chat requests over one world. -/
abbrev Senders : Type := Pool ChatRequest ChatCall ChatCall.Answer ChatWorld

/-- A call of a request, the start of one, or an event of other code. -/
abbrev Senders.Step : Type := Pool.Move ChatRequest Chance Event

-- ============================================================================
-- What a request does
-- ============================================================================

/-- The calls of a request, with their answers. -/
abbrev Exchanges : Type := List (Exchange ChatCall ChatCall.Answer)

/-- The limiter has let the sender of the room through. -/
def allowed (roomID id : String) : Exchange ChatCall ChatCall.Answer → Bool
  | ⟨.allow key, ok⟩ => decide (key = limitKey roomID id) && ok
  | _ => false

/-- A message has been saved of which `p` holds. -/
def saved (p : ChatMessage → Bool) : Exchange ChatCall ChatCall.Answer → Bool
  | ⟨.save m, .ok _⟩ => p m
  | _ => false

/-- A message has been broadcast of which `p` holds. -/
def live (p : ChatMessage → Bool) : Exchange ChatCall ChatCall.Answer → Bool
  | ⟨.broadcast _ (.message m), _⟩ => p m
  | _ => false

/-- The request has been answered. -/
def replied : Exchange ChatCall ChatCall.Answer → Bool
  | ⟨.reply _, _⟩ => true
  | _ => false

/-- The sender of the message, and its room. -/
def sentBy (roomID id : String) (m : ChatMessage) : Bool :=
  decide (m.roomID = roomID) && decide (m.senderID = id)

/-- `GetFor` has found the room and let the identity in. -/
def Admitted (es : Exchanges) (ref : String) (i : Identity) (room : Room) : Prop :=
  ⟨.findRoom ref, .ok room⟩ ∈ es ∧ ⟨.isMember room.id i.id i.guest, .ok true⟩ ∈ es ∧
    ¬(i.guest = true ∧ i.roomID ≠ room.id)

/-- The message is the text that the request sends to its room, without the space around it. -/
structure Proper (t : ChatRequest) (es : Exchanges) (m : ChatMessage) : Prop where
  sent : ∃ ref i content room id now, t = .send ref i content ∧ Admitted es ref i room ∧
    m = newMessage room i (String.ofList (trimSpace content.toList)) id now
  length : 1 ≤ m.content.length ∧ m.content.length ≤ 2000

/-- What a call of a request follows. -/
structure SendRules (t : ChatRequest) (es : Exchanges) (c : ChatCall) : Prop where
  unanswered : es.countP replied = 0
  save : ∀ m, c = .save m → Proper t es m ∧ ⟨.allow (limitKey m.roomID m.senderID), true⟩ ∈ es ∧
    ∀ p, es.countP (saved p) = 0
  broadcast : ∀ roomID m, c = .broadcast roomID (.message m) → m.roomID = roomID ∧
    ⟨.save m, .ok ()⟩ ∈ es ∧ ∀ p, es.countP (live p) = 0
  ok : ∀ m, c = .reply (.ok (some m)) → ⟨.save m, .ok ()⟩ ∈ es ∧
    ⟨.broadcast m.roomID (.message m), ()⟩ ∈ es
  error : ∀ e, c = .reply (.error e) → ∀ p, es.countP (saved p) = 0 ∧ es.countP (live p) = 0

/-- A request that has written nothing yet. -/
structure Quiet (es : Exchanges) : Prop where
  unanswered : es.countP replied = 0
  unsaved : ∀ p, es.countP (saved p) = 0
  silent : ∀ p, es.countP (live p) = 0

/-- What a request has done when it knows its result. -/
structure Ended (es : Exchanges) (x : Except ChatError (Option ChatMessage)) : Prop where
  unanswered : es.countP replied = 0
  ok : ∀ m, x = .ok (some m) → ⟨.save m, .ok ()⟩ ∈ es ∧ ⟨.broadcast m.roomID (.message m), ()⟩ ∈ es
  error : ∀ e, x = .error e → ∀ p, es.countP (saved p) = 0 ∧ es.countP (live p) = 0

theorem quiet_nil : Quiet [] := ⟨rfl, fun _ => rfl, fun _ => rfl⟩

/-- A call that neither writes nor answers. -/
def ChatCall.reads : ChatCall → Bool
  | .save _ | .broadcast _ _ | .reply _ => false
  | _ => true

theorem Quiet.snoc {es : Exchanges} (h : Quiet es) {c : ChatCall} (hc : c.reads = true)
    (r : c.Answer) : Quiet (es ++ [⟨c, r⟩]) := by
  have hlast : replied ⟨c, r⟩ = false ∧ (∀ p, saved p ⟨c, r⟩ = false) ∧
      ∀ p, live p ⟨c, r⟩ = false := by
    cases c with
    | save | broadcast | reply => exact absurd hc (by simp [ChatCall.reads])
    | _ => exact ⟨rfl, fun _ => rfl, fun _ => rfl⟩
  refine ⟨?_, fun p => ?_, fun p => ?_⟩
  · rw [List.countP_append, h.unanswered, List.countP_singleton, hlast.1]
    rfl
  · rw [List.countP_append, h.unsaved p, List.countP_singleton, hlast.2.1 p]
    rfl
  · rw [List.countP_append, h.silent p, List.countP_singleton, hlast.2.2 p]
    rfl

theorem Quiet.rules {t : ChatRequest} {es : Exchanges} (h : Quiet es) {c : ChatCall}
    (hc : c.reads = true) : SendRules t es c := by
  refine ⟨h.unanswered, ?_, ?_, ?_, ?_⟩
  · rintro m rfl
    exact absurd hc (by simp [ChatCall.reads])
  · rintro roomID m rfl
    exact absurd hc (by simp [ChatCall.reads])
  · rintro m rfl
    exact absurd hc (by simp [ChatCall.reads])
  · rintro e rfl
    exact absurd hc (by simp [ChatCall.reads])

theorem Quiet.failed {es : Exchanges} (h : Quiet es) (e : ChatError) : Ended es (.error e) :=
  ⟨h.unanswered, by simp, fun _ _ p => ⟨h.unsaved p, h.silent p⟩⟩

/-- What `GetFor` has done when it returns. -/
structure Got (ref : String) (i : Identity) (es : Exchanges) (x : Except ChatError Room) : Prop where
  quiet : Quiet es
  admitted : ∀ room, x = .ok room → Admitted es ref i room

theorem meets_getFor (t : ChatRequest) (ref : String) (i : Identity) :
    Meets (SendRules t) (Got ref i) (getFor ref i) [] := by
  rw [getFor]
  refine .call (quiet_nil.rules rfl) ?_
  intro found
  have hquiet := quiet_nil.snoc (c := .findRoom ref) rfl found
  cases found with
  | error e => exact .done ⟨hquiet, by simp⟩
  | ok room =>
      refine .call (hquiet.rules rfl) ?_
      intro member
      have hquiet' := hquiet.snoc (c := .isMember room.id i.id i.guest) rfl member
      cases member with
      | error e => exact .done ⟨hquiet', by simp⟩
      | ok b =>
          cases b with
          | false => exact .done ⟨hquiet', by simp⟩
          | true =>
              simp only
              split
              · exact .done ⟨hquiet', by simp⟩
              · rename_i hroom
                refine .done ⟨hquiet', ?_⟩
                intro room' heq
                obtain rfl := Except.ok.inj heq
                exact ⟨by simp, by simp, hroom⟩

theorem mem_snoc {es : Exchanges} {e x : Exchange ChatCall ChatCall.Answer} (h : e ∈ es) :
    e ∈ es ++ [x] := List.mem_append_left _ h

theorem mem_last (es : Exchanges) (x : Exchange ChatCall ChatCall.Answer) : x ∈ es ++ [x] :=
  List.mem_append_right _ (List.mem_singleton_self _)

theorem Admitted.snoc {es : Exchanges} {ref : String} {i : Identity} {room : Room}
    (h : Admitted es ref i room) (x : Exchange ChatCall ChatCall.Answer) :
    Admitted (es ++ [x]) ref i room :=
  ⟨mem_snoc h.1, mem_snoc h.2.1, h.2.2⟩

theorem meets_publish {t : ChatRequest} {room : Room} {m : ChatMessage} {es : Exchanges}
    (hquiet : Quiet es) (hproper : Proper t es m) (hroom : m.roomID = room.id)
    (hallowed : ⟨.allow (limitKey m.roomID m.senderID), true⟩ ∈ es) :
    Meets (SendRules t) Ended (publish room m) es := by
  rw [publish]
  refine .call ⟨hquiet.unanswered, ?_, by simp, by simp, by simp⟩ ?_
  · rintro m' heq
    obtain rfl := ChatCall.save.inj heq
    exact ⟨hproper, hallowed, hquiet.unsaved⟩
  intro answer
  cases answer with
  | error e =>
      refine .done ⟨?_, by simp, fun _ _ p => ⟨?_, ?_⟩⟩
      · rw [List.countP_append, hquiet.unanswered]
        rfl
      · rw [List.countP_append, hquiet.unsaved p]
        rfl
      · rw [List.countP_append, hquiet.silent p]
        rfl
  | ok saved =>
      have hopen : List.countP replied (es ++ [⟨.save m, .ok saved⟩]) = 0 := by
        rw [List.countP_append, hquiet.unanswered]
        rfl
      refine .call ⟨hopen, by simp, ?_, by simp, by simp⟩ ?_
      · rintro roomID m' heq
        obtain ⟨rfl, hevent⟩ := ChatCall.broadcast.inj heq
        obtain rfl := ChatEvent.message.inj hevent
        refine ⟨hroom, mem_last _ _, fun p => ?_⟩
        rw [List.countP_append, hquiet.silent p]
        rfl
      intro sent
      refine .done ⟨?_, ?_, by simp⟩
      · rw [List.countP_append, hopen]
        rfl
      · intro m' heq
        obtain rfl := Option.some.inj (Except.ok.inj heq)
        exact ⟨mem_snoc (mem_last _ _), by rw [hroom]; exact mem_last _ _⟩

theorem meets_post {ref : String} {i : Identity} {content : String} {room : Room} {es : Exchanges}
    (hquiet : Quiet es) (hadmitted : Admitted es ref i room)
    (hlo : 1 ≤ (String.ofList (trimSpace content.toList)).length)
    (hhi : (String.ofList (trimSpace content.toList)).length ≤ 2000) :
    Meets (SendRules (.send ref i content)) Ended
      (post room i (String.ofList (trimSpace content.toList))) es := by
  rw [post]
  refine .call (hquiet.rules rfl) ?_
  intro ok
  have hquiet₁ := hquiet.snoc (c := .allow (limitKey room.id i.id)) rfl ok
  cases ok with
  | false => exact .done (hquiet₁.failed .rateLimited)
  | true =>
      refine .call (hquiet₁.rules rfl) ?_
      intro actor
      have hquiet₂ := hquiet₁.snoc (c := .getActor room.id) rfl actor
      cases actor with
      | error e => exact .done (hquiet₂.failed (.store e))
      | ok found =>
          refine .call (hquiet₂.rules rfl) ?_
          intro id
          have hquiet₃ := hquiet₂.snoc (c := .draw) rfl id
          refine .call (hquiet₃.rules rfl) ?_
          intro now
          refine meets_publish (hquiet₃.snoc (c := .now) rfl now) ⟨?_, hlo, hhi⟩ rfl
            (mem_snoc (mem_snoc (mem_snoc (mem_last _ _))))
          exact ⟨ref, i, content, room, id, now, rfl,
            (((hadmitted.snoc _).snoc _).snoc _).snoc _, rfl⟩

theorem meets_send (ref : String) (i : Identity) (content : String) :
    Meets (SendRules (.send ref i content)) Ended (send ref i content) [] := by
  refine (meets_getFor _ ref i).bind ?_
  intro es x hx
  cases x with
  | error e => exact .done (hx.quiet.failed e)
  | ok room =>
      dsimp only
      split
      · exact .done (hx.quiet.failed .messageTooLarge)
      · rename_i hlength
        rw [not_or] at hlength
        exact meets_post hx.quiet (hx.admitted room rfl) (by omega) (by omega)

theorem meets_typing (ref : String) (i : Identity) (x : Bool) :
    Meets (SendRules (.typing ref i x)) Ended (typing ref i x) [] := by
  refine (meets_getFor _ ref i).bind ?_
  intro es got hgot
  cases got with
  | error e => exact .done (hgot.quiet.failed e)
  | ok room =>
      refine .call (hgot.quiet.rules rfl) ?_
      intro actor
      have hquiet := hgot.quiet.snoc (c := .getActor room.id) rfl actor
      cases actor with
      | error e => exact .done (hquiet.failed (.store e))
      | ok found =>
          refine .call ⟨hquiet.unanswered, by simp, by simp, by simp, by simp⟩ ?_
          intro sent
          refine .done ⟨?_, by simp, by simp⟩
          rw [List.countP_append, hquiet.unanswered]
          rfl

theorem meets_code (t : ChatRequest) : Meets (SendRules t) (fun _ _ => True) t.code [] := by
  have hservice : Meets (SendRules t) Ended t.service [] := by
    cases t with
    | send ref i content => exact meets_send ref i content
    | typing ref i x => exact meets_typing ref i x
  refine hservice.bind ?_
  intro es x hx
  refine .call ⟨hx.unanswered, by simp, by simp, ?_, ?_⟩ (fun _ => .done trivial)
  · intro m hm
    exact hx.ok m (ChatCall.reply.inj hm)
  · intro e he
    exact hx.error e (ChatCall.reply.inj he)

/-- What holds of the exchanges of a request at any time. -/
structure Orderly (es : Exchanges) : Prop where
  limited : ∀ roomID id, es.countP (saved (sentBy roomID id)) ≤ es.countP (allowed roomID id)
  kept : ∀ p, es.countP (live p) ≤ es.countP (saved p)
  ok : ∀ m, ⟨.reply (.ok (some m)), ()⟩ ∈ es →
    ⟨.save m, .ok ()⟩ ∈ es ∧ ⟨.broadcast m.roomID (.message m), ()⟩ ∈ es
  error : ∀ e, ⟨.reply (.error e), ()⟩ ∈ es → ∀ p, es.countP (saved p) = 0 ∧ es.countP (live p) = 0

/-- One call more is one count more, of the call's own kind. -/
theorem countP_snoc (q : Exchange ChatCall ChatCall.Answer → Bool) (es : Exchanges)
    (x : Exchange ChatCall ChatCall.Answer) :
    List.countP q (es ++ [x]) = es.countP q + if q x then 1 else 0 := by
  rw [List.countP_append, List.countP_singleton]

theorem limited_step {t : ChatRequest} {es : Exchanges} {c : ChatCall} (r : c.Answer)
    (hc : SendRules t es c) (h : Orderly es) (roomID id : String) :
    List.countP (saved (sentBy roomID id)) (es ++ [⟨c, r⟩])
      ≤ List.countP (allowed roomID id) (es ++ [⟨c, r⟩]) := by
  rw [countP_snoc, countP_snoc]
  by_cases hsaved : saved (sentBy roomID id) ⟨c, r⟩ = true
  · cases c with
    | save m =>
        cases r with
        | error e => exact absurd hsaved (by simp [saved])
        | ok done' =>
            obtain ⟨-, hallowed, hfirst⟩ := hc.save m rfl
            have hm : m.roomID = roomID ∧ m.senderID = id := by
              simpa [saved, sentBy] using hsaved
            rw [hm.1, hm.2] at hallowed
            have hpos : 0 < es.countP (allowed roomID id) :=
              List.countP_pos_iff.mpr ⟨_, hallowed, by simp [allowed]⟩
            rw [hfirst, if_pos hsaved]
            omega
    | _ => exact absurd hsaved (by simp [saved])
  · rw [if_neg hsaved]
    have hbefore := h.limited roomID id
    omega

theorem kept_step {t : ChatRequest} {es : Exchanges} {c : ChatCall} (r : c.Answer)
    (hc : SendRules t es c) (h : Orderly es) (p : ChatMessage → Bool) :
    List.countP (live p) (es ++ [⟨c, r⟩]) ≤ List.countP (saved p) (es ++ [⟨c, r⟩]) := by
  rw [countP_snoc, countP_snoc]
  by_cases hlive : live p ⟨c, r⟩ = true
  · cases c with
    | broadcast roomID e =>
        cases e with
        | typing => exact absurd hlive (by simp [live])
        | message m =>
            obtain ⟨-, hsaved, hfirst⟩ := hc.broadcast roomID m rfl
            have hpos : 0 < es.countP (saved p) :=
              List.countP_pos_iff.mpr ⟨_, hsaved, hlive⟩
            rw [hfirst, if_pos hlive]
            omega
    | _ => exact absurd hlive (by simp [live])
  · rw [if_neg hlive]
    have hbefore := h.kept p
    omega

theorem orderly_step (t : ChatRequest) (es : Exchanges) (c : ChatCall) (r : c.Answer)
    (hc : SendRules t es c) (h : Orderly es) : Orderly (es ++ [⟨c, r⟩]) := by
  -- an answer is the last call
  have hlast : ∀ x, (⟨.reply x, ()⟩ : Exchange ChatCall ChatCall.Answer) ∈ es ++ [⟨c, r⟩] →
      c = .reply x := by
    intro x hx
    rcases List.mem_append.mp hx with hx | hx
    · exact absurd rfl (List.countP_eq_zero.mp hc.unanswered _ hx)
    · exact (congrArg Sigma.fst (List.mem_singleton.mp hx)).symm
  refine ⟨limited_step r hc h, kept_step r hc h, ?_, ?_⟩
  · intro m hm
    obtain rfl := hlast _ hm
    obtain ⟨hsave, hlive⟩ := hc.ok m rfl
    exact ⟨mem_snoc hsave, mem_snoc hlive⟩
  · intro e he p
    obtain rfl := hlast _ he
    obtain ⟨hsave, hlive⟩ := hc.error e rfl p
    rw [countP_snoc, countP_snoc, hsave, hlive]
    exact ⟨rfl, rfl⟩

-- ============================================================================
-- Runs
-- ============================================================================

/-- `New`: five messages in five seconds, ten at once. -/
def ChatWorld.start (db : Database) (chat : ChatTable) (clock : ℚ) : ChatWorld :=
  ⟨db, chat, .new 5 5 10, clock⟩

/-- The world and the requests after a run. -/
def Senders.after (w : ChatWorld) (ls : List Senders.Step) : Senders :=
  run (Pool.step ChatRequest.code (ChatCall.exec u) Event.occur) ⟨w, []⟩ ls

/-- The exchanges of all requests of a run. -/
def Senders.log (w : ChatWorld) (ls : List Senders.Step) :
    List (Nat × Exchange ChatCall ChatCall.Answer) :=
  Pool.log ChatRequest.code (ChatCall.exec u) Event.occur ⟨w, []⟩ ls

/-- An exchange, with its thread and the time of the limiter. -/
abbrev Timed : Type := ℚ × (Nat × Exchange ChatCall ChatCall.Answer)

/-- The exchange of the step, with the reading of the clock. -/
def Senders.see (s : Senders) (l : Senders.Step) : List Timed :=
  (Pool.see (ChatCall.exec u) s l).map (fun x => (s.world.clock, x))

/-- The exchanges of a run with their times. -/
def Senders.timed (w : ChatWorld) (ls : List Senders.Step) : List Timed :=
  history (Pool.step ChatRequest.code (ChatCall.exec u) Event.occur) (Senders.see u) ⟨w, []⟩ ls

/-- The calls of the limiter. -/
def requests (h : List Timed) : List Limiter.Call :=
  h.filterMap fun
    | (t, _, ⟨.allow key, _⟩) => some (.allow key t)
    | _ => none

/-- The answers of the limiter for the key, with their times. -/
def answers (key : String) (h : List Timed) : List (ℚ × Bool) :=
  h.filterMap fun
    | (t, _, ⟨.allow k, ok⟩) => if k = key then some (t, ok) else none
    | _ => none

theorem timed_log (s : Senders) (ls : List Senders.Step) :
    (history (Pool.step ChatRequest.code (ChatCall.exec u) Event.occur) (Senders.see u) s ls).map
      Prod.snd = Pool.log ChatRequest.code (ChatCall.exec u) Event.occur s ls := by
  induction ls generalizing s with
  | nil => rfl
  | cons l ls ih =>
      rw [history, List.map_append, ih, Pool.log_cons]
      congr 1
      rw [Senders.see, List.map_map]
      exact List.map_id _

-- ============================================================================
-- The limiter
-- ============================================================================

/-- One call more. -/
theorem answersFor_snoc (key k : String) (t : ℚ) (l : Limiter) (cs : List Limiter.Call) :
    l.answersFor key (cs ++ [.allow k t]) = l.answersFor key cs ++
      if k = key then [(t, ((cs.foldl Limiter.step l).allow k t).1)] else [] := by
  induction cs generalizing l with
  | nil =>
      rw [List.nil_append, Limiter.answersFor]
      rfl
  | cons c cs ih =>
      cases c with
      | allow k' t' =>
          rw [List.cons_append, Limiter.answersFor, Limiter.answersFor, ih]
          by_cases hk : k' = key
          · rw [if_pos hk, if_pos hk]
            rfl
          · rw [if_neg hk, if_neg hk]
            rfl
      | cleanup maxIdle now => exact ih _

/-- The limiter is what its calls have made of it, and they came in the order of their
    times. -/
structure Metered (w : ChatWorld) (h : List Timed) (s : Senders) : Prop where
  limiter : s.world.limiter = (requests h).foldl Limiter.step w.limiter
  answers : ∀ key, w.limiter.answersFor key (requests h) = Sending.answers key h
  chronological : Limiter.Chronological (requests h)
  since : ∀ c ∈ requests h, w.clock ≤ c.now
  before : ∀ c ∈ requests h, c.now ≤ s.world.clock
  clock : w.clock ≤ s.world.clock

theorem requests_append (h h' : List Timed) : requests (h ++ h') = requests h ++ requests h' :=
  List.filterMap_append

theorem answers_append (key : String) (h h' : List Timed) :
    answers key (h ++ h') = answers key h ++ answers key h' :=
  List.filterMap_append

/-- A step that asks the limiter nothing. -/
theorem Metered.quiet {w : ChatWorld} {h h' : List Timed} {s s' : Senders} (hs : Metered w h s)
    (hrequests : requests h' = []) (hanswers : ∀ key, Sending.answers key h' = [])
    (hlimiter : s'.world.limiter = s.world.limiter) (hclock : s.world.clock ≤ s'.world.clock) :
    Metered w (h ++ h') s' := by
  have hcalls : requests (h ++ h') = requests h := by
    rw [requests_append, hrequests, List.append_nil]
  refine ⟨?_, ?_, ?_, ?_, ?_, hs.clock.trans hclock⟩
  · rw [hcalls, hlimiter, hs.limiter]
  · intro key
    rw [hcalls, hs.answers, answers_append, hanswers, List.append_nil]
  · rw [hcalls]
    exact hs.chronological
  · rw [hcalls]
    exact hs.since
  · rw [hcalls]
    exact fun c hc => (hs.before c hc).trans hclock

/-- A step that asks for the key. -/
theorem Metered.allow {w : ChatWorld} {h : List Timed} {s s' : Senders} (hs : Metered w h s)
    (i : Nat) (key : String)
    (hlimiter : s'.world.limiter = (s.world.limiter.allow key s.world.clock).2)
    (hclock : s'.world.clock = s.world.clock) :
    Metered w (h ++ [(s.world.clock, i,
      ⟨.allow key, (s.world.limiter.allow key s.world.clock).1⟩)]) s' := by
  have hcalls : requests (h ++ [(s.world.clock, i,
      ⟨.allow key, (s.world.limiter.allow key s.world.clock).1⟩)])
        = requests h ++ [.allow key s.world.clock] := requests_append _ _
  refine ⟨?_, ?_, ?_, ?_, ?_, ?_⟩
  · rw [hcalls, List.foldl_append, ← hs.limiter, hlimiter]
    rfl
  · intro k
    rw [hcalls, answersFor_snoc, ← hs.limiter, hs.answers, answers_append]
    congr 1
    by_cases hk : key = k
    · rw [if_pos hk]
      simp [Sending.answers, hk]
    · rw [if_neg hk]
      simp [Sending.answers, hk]
  · rw [hcalls, Limiter.Chronological, List.map_append, List.pairwise_append]
    refine ⟨hs.chronological, List.pairwise_singleton .., ?_⟩
    intro a ha b hb
    obtain ⟨c, hc, rfl⟩ := List.mem_map.mp ha
    obtain rfl := List.mem_singleton.mp hb
    exact hs.before c hc
  · rw [hcalls]
    intro c hc
    rcases List.mem_append.mp hc with hc | hc
    · exact hs.since c hc
    · obtain rfl := List.mem_singleton.mp hc
      exact hs.clock
  · rw [hcalls, hclock]
    intro c hc
    rcases List.mem_append.mp hc with hc | hc
    · exact hs.before c hc
    · obtain rfl := List.mem_singleton.mp hc
      exact le_rfl
  · rw [hclock]
    exact hs.clock

/-- Calls of other functions leave the limiter and its clock alone. -/
theorem exec_limiter {c : ChatCall} (hc : ∀ key, c ≠ .allow key) (o : Chance) (w : ChatWorld) :
    (c.exec u o w).2.limiter = w.limiter ∧ (c.exec u o w).2.clock = w.clock := by
  cases c with
  | allow key => exact absurd rfl (hc key)
  | save m =>
      rw [ChatCall.exec]
      split
      · exact ⟨rfl, rfl⟩
      · rw [ChatWorld.save]
        split
        · split
          · exact ⟨rfl, rfl⟩
          · exact ⟨rfl, rfl⟩
        · exact ⟨rfl, rfl⟩
  | findRoom | isMember =>
      rw [ChatCall.exec]
      split
      · exact ⟨rfl, rfl⟩
      · exact ⟨rfl, rfl⟩
  | getActor | draw | now | broadcast | reply => exact ⟨rfl, rfl⟩

theorem metered_step (w : ChatWorld) (h : List Timed) (s : Senders) (l : Senders.Step)
    (hs : Metered w h s) : Metered w (h ++ Senders.see u s l)
      (s.step ChatRequest.code (ChatCall.exec u) Event.occur l) := by
  cases l with
  | start t => exact hs.quiet rfl (fun _ => rfl) rfl le_rfl
  | disturb e =>
      cases e with
      | statement st => exact hs.quiet rfl (fun _ => rfl) rfl le_rfl
      | tick t => exact hs.quiet rfl (fun _ => rfl) rfl (le_max_left _ _)
  | advance i o =>
      cases hpending : s.pending i with
      | none =>
          rw [Senders.see, Pool.own_see_done hpending, Pool.step_advance_none hpending]
          exact hs.quiet rfl (fun _ => rfl) rfl le_rfl
      | some x =>
          obtain ⟨t, c⟩ := x
          obtain ⟨k, hthread⟩ := Pool.thread_of_pending hpending
          have hworld : (s.step ChatRequest.code (ChatCall.exec u) Event.occur (.advance i o)).world
              = (c.exec u o s.world).2 := Pool.step_advance_world hpending o
          have hsee : Senders.see u s (.advance i o)
              = [(s.world.clock, i, ⟨c, (c.exec u o s.world).1⟩)] := by
            rw [Senders.see, Pool.see, hthread]
            rfl
          rw [hsee]
          by_cases hc : ∃ key, c = .allow key
          · obtain ⟨key, rfl⟩ := hc
            exact hs.allow i key (by rw [hworld]; rfl) (by rw [hworld]; rfl)
          · have hother : ∀ key, c ≠ .allow key := fun key heq => hc ⟨key, heq⟩
            obtain ⟨hlimiter, hclock⟩ := exec_limiter u hother o s.world
            refine hs.quiet ?_ ?_ (by rw [hworld, hlimiter]) (by rw [hworld, hclock])
            · cases c with
              | allow key => exact absurd rfl (hother key)
              | _ => rfl
            · intro key
              cases c with
              | allow key => exact absurd rfl (hother key)
              | _ => rfl

theorem metered_run (w : ChatWorld) (ls : List Senders.Step) :
    Metered w (Senders.timed u w ls) (Senders.after u w ls) := by
  have hrun := run_history_invariant (I := Metered w) (metered_step u w) (h := [])
    (s := ⟨w, []⟩) ⟨rfl, fun _ => rfl, .nil, by simp [requests], by simp [requests], le_rfl⟩ ls
  exact hrun

-- ============================================================================
-- The messages
-- ============================================================================

/-- Where the messages of the table come from. -/
structure Stored (w : ChatWorld) (h : List (Nat × Exchange ChatCall ChatCall.Answer)) (s : Senders) :
    Prop where
  count : ∀ p : ChatMessage → Bool, s.world.chat.saved.countP p
    ≤ w.chat.saved.countP p + h.countP (fun x => saved p x.2)
  origin : ∀ m ∈ s.world.chat.saved, m ∈ w.chat.saved ∨ ∃ i, (i, ⟨.save m, .ok ()⟩) ∈ h

/-- Messages are only deleted. -/
theorem Stored.sublist {w : ChatWorld} {h h' : List (Nat × Exchange ChatCall ChatCall.Answer)}
    {s s' : Senders} (hs : Stored w h s)
    (hsub : s'.world.chat.saved.Sublist s.world.chat.saved) : Stored w (h ++ h') s' := by
  refine ⟨fun p => ?_, fun m hm => ?_⟩
  · rw [List.countP_append]
    have hbefore := hs.count p
    have hless := hsub.countP_le (p := p)
    omega
  · refine (hs.origin m (hsub.subset hm)).imp id ?_
    rintro ⟨i, hi⟩
    exact ⟨i, List.mem_append_left _ hi⟩

/-- One message more. -/
theorem Stored.cons {w : ChatWorld} {h : List (Nat × Exchange ChatCall ChatCall.Answer)}
    {s s' : Senders} (hs : Stored w h s) (i : Nat) (m : ChatMessage)
    (hsaved : s'.world.chat.saved = m :: s.world.chat.saved) :
    Stored w (h ++ [(i, ⟨.save m, .ok ()⟩)]) s' := by
  refine ⟨fun p => ?_, fun m' hm => ?_⟩
  · rw [hsaved, List.countP_cons, List.countP_append, List.countP_singleton]
    have hbefore := hs.count p
    have hone : (if saved p (⟨.save m, .ok ()⟩ : Exchange ChatCall ChatCall.Answer) then 1 else 0)
        = if p m then 1 else 0 := rfl
    rw [hone]
    omega
  · rw [hsaved] at hm
    rcases List.mem_cons.mp hm with rfl | hm
    · exact .inr ⟨i, List.mem_append_right _ (List.mem_singleton_self _)⟩
    · refine (hs.origin m' hm).imp id ?_
      rintro ⟨j, hj⟩
      exact ⟨j, List.mem_append_left _ hj⟩

/-- `SaveChat` adds the message, or leaves the messages alone. -/
theorem exec_chat (c : ChatCall) (o : Chance) (w : ChatWorld) :
    (c.exec u o w).2.chat = w.chat ∨ ∃ m, c = .save m ∧
      (⟨c, (c.exec u o w).1⟩ : Exchange ChatCall ChatCall.Answer) = ⟨.save m, .ok ()⟩ ∧
      (c.exec u o w).2.chat.saved = m :: w.chat.saved := by
  cases c with
  | save m =>
      rw [ChatCall.exec]
      split
      · exact .inl rfl
      · rw [ChatWorld.save]
        split
        · rw [saveChat]
          by_cases hold : m.id ∈ w.chat.saved.map (fun m => m.id)
          · rw [dif_pos hold]
            exact .inl rfl
          · rw [dif_neg hold]
            exact .inr ⟨m, rfl, rfl, rfl⟩
        · exact .inl rfl
  | findRoom | isMember =>
      rw [ChatCall.exec]
      split
      · exact .inl rfl
      · exact .inl rfl
  | allow | getActor | draw | now | broadcast | reply => exact .inl rfl

theorem stored_step (w : ChatWorld) (h : List (Nat × Exchange ChatCall ChatCall.Answer))
    (s : Senders) (l : Senders.Step) (hs : Stored w h s) :
    Stored w (h ++ Pool.see (ChatCall.exec u) s l)
      (s.step ChatRequest.code (ChatCall.exec u) Event.occur l) := by
  cases l with
  | start t => exact hs.sublist (List.Sublist.refl _)
  | disturb e =>
      cases e with
      | statement st => exact hs.sublist List.filter_sublist
      | tick t => exact hs.sublist (List.Sublist.refl _)
  | advance i o =>
      cases hpending : s.pending i with
      | none =>
          rw [Pool.own_see_done hpending, Pool.step_advance_none hpending]
          exact hs.sublist (List.Sublist.refl _)
      | some x =>
          obtain ⟨t, c⟩ := x
          obtain ⟨k, hthread⟩ := Pool.thread_of_pending hpending
          have hworld : (s.step ChatRequest.code (ChatCall.exec u) Event.occur (.advance i o)).world
              = (c.exec u o s.world).2 := Pool.step_advance_world hpending o
          have hsee : Pool.see (E := Event) (ChatCall.exec u) s (.advance i o)
              = [(i, ⟨c, (c.exec u o s.world).1⟩)] := by
            rw [Pool.see, hthread]
          rw [hsee]
          obtain hsame | ⟨m, -, hexchange, hsaved⟩ := exec_chat u c o s.world
          · exact hs.sublist (by rw [hworld, hsame])
          · rw [hexchange]
            exact hs.cons i m (by rw [hworld, hsaved])

theorem stored_run (w : ChatWorld) (ls : List Senders.Step) :
    Stored w (Senders.log u w ls) (Senders.after u w ls) :=
  run_history_invariant (I := Stored w) (stored_step u w) (h := []) (s := ⟨w, []⟩)
    ⟨fun _ => le_rfl, fun _ hm => .inl hm⟩ ls

-- ============================================================================
-- What holds of every run
-- ============================================================================

/-- The message was saved at a step of the run, by a request whose checks it had passed. -/
def SavedBy (w : ChatWorld) (ls : List Senders.Step) (m : ChatMessage) : Prop :=
  ∃ i pre o post t, ls = pre ++ .advance i o :: post ∧
    (Senders.after u w pre).pending i = some (t, .save m) ∧
    Proper t (Pool.own i (Senders.log u w pre)) m

/-- `db`, `chat` and `clock` are those of the start of the service. -/
structure SendingLaw (db : Database) (chat : ChatTable) (clock : ℚ) (ls : List Senders.Step) :
    Prop where
  /-- Nobody gets more messages into a room than ten, and one for every second. -/
  flood : ∀ roomID id,
    ((Senders.after u (.start db chat clock) ls).world.chat.saved.countP (sentBy roomID id) : ℚ)
      ≤ chat.saved.countP (sentBy roomID id) + 10 +
        ((Senders.after u (.start db chat clock) ls).world.clock - clock)
  /-- The same holds of what the limiter lets through in any span of time. -/
  window : ∀ roomID id s t, s ≤ t →
    (TokenBucket.granted s t (answers (limitKey roomID id)
      (Senders.timed u (.start db chat clock) ls)) : ℚ) ≤ 10 + (t - s)
  /-- A message is saved before it is broadcast, and no more often broadcast than saved. -/
  kept : ∀ p, (Senders.log u (.start db chat clock) ls).countP (fun x => live p x.2)
    ≤ (Senders.log u (.start db chat clock) ls).countP (fun x => saved p x.2)
  /-- The messages of the table passed the checks. -/
  origin : ∀ m ∈ (Senders.after u (.start db chat clock) ls).world.chat.saved,
    m ∈ chat.saved ∨ SavedBy u (.start db chat clock) ls m
  /-- A message that a request returns is saved and has been broadcast. -/
  accepted : ∀ i m, (i, ⟨.reply (.ok (some m)), ()⟩) ∈ Senders.log u (.start db chat clock) ls →
    (i, ⟨.save m, .ok ()⟩) ∈ Senders.log u (.start db chat clock) ls ∧
    (i, ⟨.broadcast m.roomID (.message m), ()⟩) ∈ Senders.log u (.start db chat clock) ls
  /-- A request that fails has saved and broadcast no message. -/
  rejected : ∀ i e, (i, ⟨.reply (.error e), ()⟩) ∈ Senders.log u (.start db chat clock) ls →
    ∀ m, (i, ⟨.save m, .ok ()⟩) ∉ Senders.log u (.start db chat clock) ls ∧
      ∀ roomID, (i, ⟨.broadcast roomID (.message m), ()⟩) ∉
        Senders.log u (.start db chat clock) ls

theorem orderly_run (w : ChatWorld) (ls : List Senders.Step) (i : Nat) :
    Orderly (Pool.own i (Senders.log u w ls)) :=
  Pool.own_run (P := SendRules) (Q := fun _ _ _ => True) meets_code orderly_step
    ⟨fun _ _ => le_rfl, fun _ => le_rfl, by simp, by simp⟩ rfl ls i

theorem savedBy_of_log {w : ChatWorld} {ls : List Senders.Step} {i : Nat} {m : ChatMessage}
    (h : (i, ⟨.save m, .ok ()⟩) ∈ Senders.log u w ls) : SavedBy u w ls m := by
  obtain ⟨pre, o, post, t, hls, hpending, -⟩ := Pool.mem_log h
  have hrules : SendRules t _ (.save m) :=
    (Pool.meets_run (P := SendRules) (Q := fun _ _ _ => True) meets_code rfl pre).pending hpending
  exact ⟨i, pre, o, post, t, hls, hpending, (hrules.save m rfl).1⟩

/-- What the limiter has let through, where all its calls came from `a` to `b`. -/
theorem granted_answers (roomID id : String) {a b : ℚ} {h : List Timed}
    (ha : ∀ c ∈ requests h, a ≤ c.now) (hb : ∀ c ∈ requests h, c.now ≤ b) :
    h.countP (fun x => allowed roomID id x.2.2)
      ≤ TokenBucket.granted a b (answers (limitKey roomID id) h) := by
  induction h with
  | nil => exact le_rfl
  | cons x h ih =>
      obtain ⟨t, i, c, r⟩ := x
      have hsplit : requests ((t, i, ⟨c, r⟩) :: h) = requests [(t, i, ⟨c, r⟩)] ++ requests h :=
        requests_append [_] h
      rw [hsplit] at ha hb
      have hrest := ih (fun c hc => ha c (List.mem_append_right _ hc))
        (fun c hc => hb c (List.mem_append_right _ hc))
      have hanswers : answers (limitKey roomID id) ((t, i, ⟨c, r⟩) :: h)
          = answers (limitKey roomID id) [(t, i, ⟨c, r⟩)] ++ answers (limitKey roomID id) h :=
        answers_append _ [_] h
      rw [List.countP_cons, hanswers, TokenBucket.granted, List.countP_append, Nat.add_comm]
      refine Nat.add_le_add ?_ hrest
      by_cases hallowed : allowed roomID id ⟨c, r⟩ = true
      · cases c with
        | allow key =>
            have hboth : key = limitKey roomID id ∧ r = true := by
              simpa [allowed] using hallowed
            obtain ⟨rfl, rfl⟩ := hboth
            have hlo : a ≤ t := ha (.allow (limitKey roomID id) t) (List.mem_append_left _ (by simp [requests]))
            have hhi : t ≤ b := hb (.allow (limitKey roomID id) t) (List.mem_append_left _ (by simp [requests]))
            simp [answers, allowed, hlo, hhi]
        | _ => exact absurd hallowed (by simp [allowed])
      · rw [if_neg hallowed]
        exact Nat.zero_le _

theorem limiter_start (db : Database) (chat : ChatTable) (clock : ℚ) :
    (ChatWorld.start db chat clock).limiter = ⟨fun _ => none, 1, 10⟩ := by
  simp [ChatWorld.start, Limiter.new]

/-- In a window of any length the limiter allows its burst and what is filled in meanwhile. -/
theorem window_calls (key : String) {cs : List Limiter.Call} (hchron : Limiter.Chronological cs)
    (hcleanup : ∀ maxIdle now, Limiter.Call.cleanup maxIdle now ∉ cs) {s t : ℚ} (hst : s ≤ t) :
    (TokenBucket.granted s t ((⟨fun _ => none, 1, 10⟩ : Limiter).answersFor key cs) : ℚ)
      ≤ 10 + (t - s) * 1 := by
  obtain ⟨start, hstart⟩ : ∃ start, ∀ c ∈ cs, start ≤ c.now := by
    cases cs with
    | nil => exact ⟨0, fun c hc => absurd hc List.not_mem_nil⟩
    | cons c cs =>
        refine ⟨c.now, fun x hx => ?_⟩
        rcases List.mem_cons.mp hx with rfl | hx
        · exact le_rfl
        · exact (List.pairwise_cons.mp hchron).1 x.now (List.mem_map_of_mem hx)
  have hburst : (1 : ℚ) ≤ 10 := by norm_num
  have htracks := Limiter.tracks_start key hburst zero_le_one start
  have hidle : ∀ maxIdle now, Limiter.Call.cleanup maxIdle now ∈ cs → (10 : ℚ) ≤ maxIdle * 1 :=
    fun maxIdle now hmem => absurd hmem (hcleanup maxIdle now)
  rw [Limiter.answersFor_eq htracks hburst zero_le_one hstart hchron hidle]
  have htimes := Limiter.timesFor_sublist key cs
  refine TokenBucket.granted_le (by norm_num) zero_le_one htracks.nonneg ?_
    (hchron.sublist htimes) hst
  intro x hx
  obtain ⟨c, hc, rfl⟩ := List.mem_map.mp (htimes.subset hx)
  exact hstart c hc

/-- The calls that the requests make keep to the window. -/
theorem window_run (db : Database) (chat : ChatTable) (clock : ℚ) (ls : List Senders.Step)
    (key : String) {s t : ℚ} (hst : s ≤ t) :
    (TokenBucket.granted s t (answers key (Senders.timed u (.start db chat clock) ls)) : ℚ)
      ≤ 10 + (t - s) := by
  have hmetered := metered_run u (.start db chat clock) ls
  have hcleanup : ∀ maxIdle now, Limiter.Call.cleanup maxIdle now ∉
      requests (Senders.timed u (.start db chat clock) ls) := by
    intro maxIdle now hmem
    obtain ⟨⟨t, i, c, r⟩, -, hcall⟩ := List.mem_filterMap.mp hmem
    cases c <;> simp at hcall
  have hlaw := window_calls key hmetered.chronological hcleanup hst
  rw [← limiter_start db chat clock, hmetered.answers, mul_one] at hlaw
  exact hlaw

/-- **Chat.**  In every run of requests that send or type, beside all other statements: whoever
    sends is held to ten messages and one for every second, in every room; only what was checked
    and let in is saved, and only what is saved is broadcast; a request that fails has done
    neither. -/
theorem sending_law (db : Database) (chat : ChatTable) (clock : ℚ) (ls : List Senders.Step) :
    SendingLaw u db chat clock ls := by
  have horderly := orderly_run u (.start db chat clock) ls
  have hstored := stored_run u (.start db chat clock) ls
  have hmetered := metered_run u (.start db chat clock) ls
  refine ⟨?_, fun roomID id s t hst => window_run u db chat clock ls _ hst, ?_, ?_, ?_, ?_⟩
  · intro roomID id
    have hsaved := hstored.count (sentBy roomID id)
    have hallowed : (Senders.log u (.start db chat clock) ls).countP
          (fun x => saved (sentBy roomID id) x.2)
        ≤ (Senders.log u (.start db chat clock) ls).countP (fun x => allowed roomID id x.2) :=
      Pool.countP_le_of_own (fun i => (horderly i).limited roomID id)
    have htimed : (Senders.log u (.start db chat clock) ls).countP (fun x => allowed roomID id x.2)
        = (Senders.timed u (.start db chat clock) ls).countP (fun x => allowed roomID id x.2.2) := by
      rw [Senders.log, ← timed_log, List.countP_map]
      rfl
    have hgranted := granted_answers roomID id hmetered.since hmetered.before
    have hwindow := window_run u db chat clock ls (limitKey roomID id) hmetered.clock
    have hcount : (Senders.after u (.start db chat clock) ls).world.chat.saved.countP
          (sentBy roomID id)
        ≤ chat.saved.countP (sentBy roomID id) + TokenBucket.granted clock
            (Senders.after u (.start db chat clock) ls).world.clock
            (answers (limitKey roomID id) (Senders.timed u (.start db chat clock) ls)) := by
      have htable : (ChatWorld.start db chat clock).chat.saved = chat.saved := rfl
      have hclock : (ChatWorld.start db chat clock).clock = clock := rfl
      rw [htable] at hsaved
      rw [hclock] at hgranted
      omega
    have hcast : ((Senders.after u (.start db chat clock) ls).world.chat.saved.countP
          (sentBy roomID id) : ℚ)
        ≤ chat.saved.countP (sentBy roomID id) + TokenBucket.granted clock
            (Senders.after u (.start db chat clock) ls).world.clock
            (answers (limitKey roomID id) (Senders.timed u (.start db chat clock) ls)) := by
      exact_mod_cast hcount
    have hclock : (ChatWorld.start db chat clock).clock = clock := rfl
    rw [hclock] at hwindow
    linarith only [hcast, hwindow]
  · intro p
    exact Pool.countP_le_of_own (fun i => (horderly i).kept p)
  · intro m hm
    refine (hstored.origin m hm).imp id ?_
    rintro ⟨i, hi⟩
    exact savedBy_of_log u hi
  · intro i m hm
    obtain ⟨hsave, hlive⟩ := (horderly i).ok m (Pool.mem_own.mpr hm)
    exact ⟨Pool.mem_own.mp hsave, Pool.mem_own.mp hlive⟩
  · intro i e he m
    obtain ⟨hsave, hlive⟩ := (horderly i).error e (Pool.mem_own.mpr he) (fun _ => true)
    refine ⟨fun hmem => ?_, fun roomID hmem => ?_⟩
    · exact List.countP_eq_zero.mp hsave _ (Pool.mem_own.mpr hmem) rfl
    · exact List.countP_eq_zero.mp hlive _ (Pool.mem_own.mpr hmem) rfl

end WatchTogether.Chat.Sending

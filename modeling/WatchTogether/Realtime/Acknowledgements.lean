/-
  WatchTogether.Realtime.Acknowledgements

  What an acknowledgement is worth: the command behind it has been carried out, once, and as
  it was sent.
-/

import WatchTogether.Realtime.ExchangeSides

namespace WatchTogether.Realtime.Exchange

open LabelledRun Rooms ReadLoop
open Web (Frame Json Page)

-- ============================================================================
-- Acknowledgements on the wire
-- ============================================================================

/-- A string field with `omitempty` is absent or the string. -/
theorem lookup_omitEmpty {key value r : String} {fields : List (String × Json)}
    (hother : fields.lookup key = none)
    (h : (omitEmpty key value ++ fields).lookup key = some (.str r)) : r = value := by
  unfold omitEmpty at h
  split_ifs at h
  · rw [List.nil_append, hother] at h
    cases h
  · rw [List.cons_append, List.lookup_cons_self] at h
    exact (Json.str.inj (Option.some.inj h)).symm

theorem eventType_ne_ack (e : Rooms.Event) : eventType e ≠ "ack" := by
  cases e with
  | chat c => cases c <;> simp [eventType]
  | _ => simp [eventType]

/-- Only an acknowledgement reads as one, with its id. -/
theorem ack_of_parse {body : Rooms.Event → Json} {o : Outgoing} {m : Web.Envelope} {r : String}
    (h : Web.parseEnvelope (some (o.json body)) = some m) (htype : m.type = "ack")
    (hid : m.requestId = some (.str r)) : o = .ack r := by
  have hother : ∀ p : Json, ([("payload", p)] : List (String × Json)).lookup "requestId" = none :=
    fun _ => rfl
  cases o with
  | ack id =>
      obtain rfl : ⟨"ack", _, _⟩ = m := Option.some.inj h
      rw [lookup_omitEmpty (hother _) hid]
  | error id code message =>
      obtain rfl : ⟨"error", _, _⟩ = m := Option.some.inj h
      have hne : "error" ≠ "ack" := by decide
      exact absurd htype hne
  | pong clientMonoMs recv sent =>
      obtain rfl : ⟨"clock.pong", _, _⟩ = m := Option.some.inj h
      have hne : "clock.pong" ≠ "ack" := by decide
      exact absurd htype hne
  | room e =>
      unfold Web.parseEnvelope at h
      dsimp only [Outgoing.json] at h
      split at h
      · rename_i v type hv ht
        split_ifs at h
        obtain rfl := Option.some.inj h
        obtain rfl := Json.str.inj (Option.some.inj ht)
        exact absurd htype (eventType_ne_ack e.event)
      · cases h

-- ============================================================================
-- What has been carried out
-- ============================================================================

/-- The command that a frame asks the actor for. -/
def commandOf (unmarshal : Json → RawPayload) (f : Frame) : Command :=
  ⟨CommandType.ofString f.type, (unmarshal f.payload).command⟩

/-- A frame for the chat service. -/
def Chats (f : Frame) : Prop := f.type = "chat.send" ∨ f.type = "presence.typing"

/-- What has been done for the frame is what it asks for. -/
def Fits (identity : Nat → Identity) (unmarshal : Json → RawPayload) (h : Handled) : Prop :=
  (h.work = none ∧ Chats h.frame) ∨
    h.work = some (.command (identity h.socket) (commandOf unmarshal h.frame))

/-- A frame with the id has been dealt with, without an error. -/
def Carried (handled : List Handled) (k : Nat) (r : String) : Prop :=
  ∃ h ∈ handled, h.socket = k ∧ h.frame.requestId = r ∧ h.result = .ok ()

theorem Carried.mono {handled handled' : List Handled} {k : Nat} {r : String}
    (h : Carried handled k r) (hsub : handled ⊆ handled') : Carried handled' k r := by
  obtain ⟨x, hx, hrest⟩ := h
  exact ⟨x, hsub hx, hrest⟩

/-- A connection acknowledges only what has been carried out. -/
structure Sound (unmarshal : Json → RawPayload) (carried : String → Prop) (x : Link) : Prop where
  sending : ∀ f c, x.stage = .sending f c → c = commandOf unmarshal f
  chatting : ∀ f, x.stage = .chatting f → Chats f
  told : ∀ f t p, x.stage = .waiting f t (some (.ok p)) → carried f.requestId
  acks : ∀ r, .ack r ∈ x.wire ++ x.out → carried r

section Links

variable {unmarshal : Json → RawPayload} {carried carried' : String → Prop} {x : Link}

theorem Sound.mono (h : Sound unmarshal carried x) (hsub : ∀ r, carried r → carried' r) :
    Sound unmarshal carried' x :=
  ⟨h.sending, h.chatting, fun f t p hs => hsub _ (h.told f t p hs), fun r hr => hsub _ (h.acks r hr)⟩

/-- Something goes to the queue of the connection. -/
theorem Sound.send (h : Sound unmarshal carried x) {o : Outgoing}
    (ho : ∀ r, o = .ack r → carried r) : Sound unmarshal carried (x.send o) := by
  rcases State.send_cases o x with heq | heq
  · rw [heq]
    exact h
  · rw [heq]
    refine ⟨h.sending, h.chatting, h.told, ?_⟩
    intro r hr
    dsimp only at hr
    rw [← List.append_assoc] at hr
    rcases List.mem_append.mp hr with hr | hr
    · exact h.acks r hr
    · exact ho r (List.mem_singleton.mp hr).symm

/-- The goroutine goes on to a stage that promises nothing yet. -/
theorem Sound.goto (h : Sound unmarshal carried x) (stage : Stage) (taken : Nat)
    (hsending : ∀ f c, stage = .sending f c → c = commandOf unmarshal f)
    (hchatting : ∀ f, stage = .chatting f → Chats f)
    (htold : ∀ f t p, stage ≠ .waiting f t (some (.ok p))) :
    Sound unmarshal carried { x with stage := stage, taken := taken } :=
  ⟨hsending, hchatting, fun f t p hs => absurd hs (htold f t p), h.acks⟩

theorem Sound.respond (h : Sound unmarshal carried x) {f : Frame} {r : Except Failure Unit}
    (hr : r = .ok () → carried f.requestId) : Sound unmarshal carried (x.respond f r) := by
  unfold Link.respond
  refine Sound.send ?_ ?_
  · exact h.goto _ x.taken (by simp) (by simp) (by simp)
  · intro id hid
    cases r with
    | error e => cases hid
    | ok u =>
        obtain rfl := Outgoing.ack.inj hid
        exact hr rfl

end Links

-- ============================================================================
-- The invariant of the system
-- ============================================================================

/-- A message in hand that acknowledges has its command behind it. -/
def HandSound (handled : List Handled) (message : Option Web.Envelope) : Prop :=
  ∀ m r, message = some m → m.type = "ack" → m.requestId = some (.str r) →
    ∃ k, Carried handled k r

/-- What the page and the sockets know of each other. -/
structure Honest {σ : Type} (uuid : Nat ↪ String) (identity : Nat → Identity)
    (unmarshal : Json → RawPayload) (s : State σ) : Prop where
  fits : ∀ h ∈ s.handled, Fits identity unmarshal h
  requests : ∀ q ∈ s.queue, ∀ k t f, q.origin = some (k, t, f) →
    q.msg = .command (identity k) (commandOf unmarshal f)
  links : ∀ k, Sound unmarshal (Carried s.handled k) (s.links k)
  hand : HandSound s.handled s.page.handling
  resolved : ∀ (i : Nat) r k t, s.page.promises[i]? = some (.awaiting r k t) →
    (i, .resolved) ∈ s.page.settled → ∃ k, Carried s.handled k r
  page : Page.Inv uuid s.page
  posted : Page.Posted uuid s.page

namespace Honest

variable {σ : Type} {uuid : Nat ↪ String} {identity : Nat → Identity}
  {unmarshal : Json → RawPayload} {s : State σ}

theorem asks (h : Honest uuid identity unmarshal s) : s.Asks := by
  intro q hq horigin
  obtain ⟨⟨k, t, f⟩, hsome⟩ := Option.isSome_iff_exists.mp horigin
  exact ⟨_, _, h.requests q hq k t f hsome⟩

/-- A task of the page. -/
theorem page_step (h : Honest uuid identity unmarshal s) {e : Web.Event}
    (hmessage : ∀ k value, e = .message k value →
      HandSound s.handled (Web.parseEnvelope value)) :
    Honest uuid identity unmarshal { s with page := s.page.step uuid e } := by
  refine ⟨h.fits, h.requests, h.links, ?_, ?_, h.page.step e, h.posted.step e⟩
  · intro m r hm
    rcases Page.handling_of_step hm with hold | ⟨k, value, he, hnew⟩
    · exact h.hand m r hold
    · exact hmessage k value he m r hnew
  · intro i r k t hi hresolved
    by_cases hold : (i, Web.Settlement.resolved) ∈ s.page.settled
    · -- the promise was there when it was settled
      have hlt : i < s.page.promises.length := by
        refine h.page.ledger.made i ?_
        exact List.mem_map.mpr ⟨_, hold, rfl⟩
      obtain ⟨new, hnew⟩ := Page.promises_step uuid s.page e
      have hi : (s.page.step uuid e).promises[i]? = some (.awaiting r k t) := hi
      rw [← hnew, List.getElem?_append_left hlt] at hi
      exact h.resolved i r k t hi hold
    · obtain ⟨r', k', t', m, hx, -, hm, htype, hid⟩ :=
        h.page.resolved_by_ack hi rfl hresolved hold
      obtain ⟨rfl, -, -⟩ := Web.Sent.awaiting.inj hx
      exact h.hand m r hm htype hid

theorem setLink (h : Honest uuid identity unmarshal s) {k : Nat} {x : Link}
    (hx : Sound unmarshal (Carried s.handled k) x) :
    Honest uuid identity unmarshal (s.setLink k x) := by
  refine ⟨h.fits, h.requests, ?_, h.hand, h.resolved, h.page, h.posted⟩
  intro k'
  by_cases hk : k' = k
  · subst hk
    rw [State.setLink_self]
    exact hx
  · have hlink : (s.setLink k x).links k' = s.links k' := Function.update_of_ne hk ..
    rw [hlink]
    exact h.links k'

/-- A frame has been dealt with. -/
theorem record (h : Honest uuid identity unmarshal s) {x : Handled}
    (hx : Fits identity unmarshal x) :
    Honest uuid identity unmarshal { s with handled := s.handled ++ [x] } := by
  have hmono : ∀ {k r}, Carried s.handled k r → Carried (s.handled ++ [x]) k r :=
    fun hc => hc.mono (List.subset_append_left _ _)
  refine ⟨?_, h.requests, ?_, ?_, ?_, h.page, h.posted⟩
  · intro y hy
    rcases List.mem_append.mp hy with hy | hy
    · exact h.fits y hy
    · obtain rfl := List.mem_singleton.mp hy
      exact hx
  · exact fun k => (h.links k).mono (fun r => hmono)
  · intro m r hm htype hid
    obtain ⟨k, hk⟩ := h.hand m r hm htype hid
    exact ⟨k, hmono hk⟩
  · intro i r k t hi hresolved
    obtain ⟨k, hk⟩ := h.resolved i r k t hi hresolved
    exact ⟨k, hmono hk⟩

theorem requeue (h : Honest uuid identity unmarshal s) {queue : List Request} (tickets : Nat)
    (hq : ∀ q ∈ queue, ∀ k t f, q.origin = some (k, t, f) →
      q.msg = .command (identity k) (commandOf unmarshal f)) (a : Actor σ) :
    Honest uuid identity unmarshal
      { s with actor := a, queue := queue, tickets := tickets } :=
  ⟨h.fits, hq, h.links, h.hand, h.resolved, h.page, h.posted⟩

variable (P : Persistence σ) (roomID : String) (body : Rooms.Event → Json)

theorem deliver (h : Honest uuid identity unmarshal s) {k : Nat} {o : Outgoing}
    {rest : List Outgoing} (hwire : (s.links k).wire = o :: rest) :
    Honest uuid identity unmarshal
      { s.setLink k { s.links k with wire := rest } with
        page := s.page.step uuid (.message k (some (o.json body)))
        delivered := s.delivered ++ [(k, o)] } := by
  have hsound := h.links k
  have hlink : Honest uuid identity unmarshal (s.setLink k { s.links k with wire := rest }) := by
    refine h.setLink ⟨hsound.sending, hsound.chatting, hsound.told, ?_⟩
    intro r hr
    refine hsound.acks r ?_
    rw [hwire]
    exact List.mem_cons_of_mem _ hr
  have hpage := hlink.page_step (e := .message k (some (o.json body))) (by
    intro k' value he m r hm htype hid
    obtain ⟨rfl, rfl⟩ := Web.Event.message.inj he
    obtain rfl := ack_of_parse hm htype hid
    refine ⟨k, hsound.acks r ?_⟩
    rw [hwire]
    exact List.mem_cons_self)
  exact ⟨hpage.fits, hpage.requests, hpage.links, hpage.hand, hpage.resolved, hpage.page,
    hpage.posted⟩

theorem accept (h : Honest uuid identity unmarshal s) (k : Nat) (f : Frame)
    (authenticated : Bool) (recvAt now : Int64) :
    Honest uuid identity unmarshal
      (s.accept k f (handle roomID authenticated recvAt now (inbound unmarshal f))) := by
  have hsound := h.links k
  generalize haction : handle roomID authenticated recvAt now (inbound unmarshal f) = action
  unfold State.accept
  split
  · exact h.setLink (hsound.goto _ _ (by simp) (by simp) (by simp))
  · rename_i o
    have htaken : Sound unmarshal (Carried s.handled k)
        { s.links k with taken := (s.links k).taken + 1 } :=
      ⟨hsound.sending, hsound.chatting, hsound.told, hsound.acks⟩
    refine h.setLink (htaken.send ?_)
    rintro r rfl
    rcases handle_reply haction with ⟨code, message, ho⟩ | ⟨clientMonoMs, ho⟩
    · cases ho
    · cases ho
  · rename_i content
    refine h.setLink (hsound.goto _ _ (by simp) ?_ (by simp))
    intro g hg
    obtain rfl := Stage.chatting.inj hg
    rcases handle_cases haction with ⟨o, ho⟩ | ⟨-, hroute⟩
    · cases ho
    · exact .inl (route_chat hroute)
  · rename_i typing
    refine h.setLink (hsound.goto _ _ (by simp) ?_ (by simp))
    intro g hg
    obtain rfl := Stage.chatting.inj hg
    rcases handle_cases haction with ⟨o, ho⟩ | ⟨-, hroute⟩
    · cases ho
    · exact .inr (route_typing hroute)
  · rename_i c
    refine h.setLink (hsound.goto _ _ ?_ (by simp) (by simp))
    intro g c' hg
    obtain ⟨rfl, rfl⟩ := Stage.sending.inj hg
    exact (handle_command haction).2

/-- The turn of the actor: a reply goes to the goroutine whose only request it answers. -/
theorem takeTurn (h : Honest uuid identity unmarshal s) (hgood : ∀ k, Good (s.side k))
    (env : Env) : Honest uuid identity unmarshal (s.takeTurn P env) := by
  unfold State.takeTurn
  cases hqueue : s.queue with
  | nil => exact h
  | cons q rest =>
      dsimp only
      by_cases hstop : s.actor.stopped = true
      · rw [if_pos hstop]
        exact h
      rw [if_neg hstop]
      have hrest : ∀ q ∈ rest, ∀ k t f, q.origin = some (k, t, f) →
          q.msg = .command (identity k) (commandOf unmarshal f) := by
        intro q hq
        exact h.requests q (by rw [hqueue]; exact List.mem_cons_of_mem _ hq)
      generalize hr : s.actor.process P env q.msg = r
      have hnext := h.requeue s.tickets hrest r.1
      split
      · rename_i k ticket f result horigin hresult
        have hmsg := h.requests q (by rw [hqueue]; exact List.mem_cons_self) k ticket f horigin
        have hfits : Fits identity unmarshal ⟨k, f, some q.msg, failure result⟩ :=
          .inr (congrArg some hmsg)
        have hrecord := hnext.record hfits
        -- the goroutine that waits for this ticket waits for this frame
        have hframe : ∀ g reply, (s.links k).stage = .waiting g ticket reply → g = f := by
          intro g reply hstage
          have hcalm := (hgood k).calm
          have hfrom : q.fromSocket k = some (ticket, f) := by
            unfold Request.fromSocket
            rw [horigin]
            exact if_pos rfl
          have hqueued : (s.side k).queued
              = (ticket, f) :: rest.filterMap (Request.fromSocket k) := by
            unfold State.side State.queued
            dsimp only
            rw [if_neg hstop, hqueue, List.filterMap_cons_some hfrom]
          unfold Calm at hcalm
          have hside : (s.side k).stage = .waiting g ticket reply := hstage
          rw [hside, hqueued] at hcalm
          cases reply with
          | some r' => cases hcalm
          | none =>
              have hlive : (s.side k).stopped = false := by
                have hside : (s.side k).stopped = s.actor.stopped := rfl
                rw [hside]
                simpa using hstop
              exact (Prod.mk.inj (List.cons.inj (hcalm hlive)).1).2.symm
        unfold State.answer
        dsimp only
        split
        · rename_i g t reply hstage
          split_ifs with ht
          · subst ht
            obtain rfl := hframe g reply hstage
            have hsound := hrecord.links k
            refine hrecord.setLink ⟨by simp, by simp, ?_, hsound.acks⟩
            intro g' t' p hg
            obtain ⟨rfl, rfl, hp⟩ := Stage.waiting.inj hg
            refine ⟨_, List.mem_append_right _ (List.mem_singleton_self _), rfl, rfl, ?_⟩
            obtain rfl := Option.some.inj hp
            rfl
          · exact hrecord
        · exact hrecord
      · exact hnext

/-- **One step.** -/
theorem step (h : Honest uuid identity unmarshal s) (hgood : ∀ k, Good (s.side k)) (l : Label) :
    Honest uuid identity unmarshal (s.step P uuid roomID identity unmarshal body l) := by
  cases l with
  | page e =>
      unfold State.step
      dsimp only
      split_ifs with hmessage
      · exact h
      · refine h.page_step ?_
        rintro k value rfl
        exact absurd rfl hmessage
  | deliver k =>
      unfold State.step
      dsimp only
      split
      · rename_i o rest _ hwire
        exact h.deliver body hwire
      · exact h
  | read k authenticated recvAt now =>
      unfold State.step
      dsimp only
      split
      · split_ifs
        · exact h
        · exact h.accept roomID _ _ _ _ _
      · exact h
  | chatted k r =>
      unfold State.step
      dsimp only
      split
      · rename_i f hstage
        have hrecord := h.record (x := ⟨k, f, none, r⟩) (.inl ⟨rfl, (h.links k).chatting f hstage⟩)
        refine hrecord.setLink ((hrecord.links k).respond ?_)
        intro hr
        exact ⟨_, List.mem_append_right _ (List.mem_singleton_self _), rfl, rfl, hr⟩
      · exact h
  | submit k =>
      unfold State.step
      dsimp only
      split
      · rename_i f c hstage
        split_ifs
        · have hlink := h.setLink (k := k) ((h.links k).goto (.waiting f s.tickets none)
            (s.links k).taken (by simp) (by simp) (by simp))
          refine hlink.requeue (s.tickets + 1) ?_ s.actor
          intro q hq k' t g horigin
          rcases List.mem_append.mp hq with hq | hq
          · exact h.requests q hq k' t g horigin
          · obtain rfl := List.mem_singleton.mp hq
            obtain ⟨rfl, -, rfl⟩ : k = k' ∧ s.tickets = t ∧ f = g := by simpa using horigin
            rw [(h.links k).sending f c hstage]
        · exact h
      · exact h
  | actorDone k =>
      unfold State.step
      dsimp only
      split
      · split_ifs
        · exact h.setLink ((h.links k).respond (by simp))
        · exact h
      · exact h
  | ctxDone k message =>
      unfold State.step
      dsimp only
      split
      · split_ifs
        · exact h.setLink ((h.links k).respond (by simp))
        · exact h
      · exact h
  | receive k =>
      unfold State.step
      dsimp only
      split
      · rename_i f t r hstage
        refine h.setLink ((h.links k).respond ?_)
        intro hr
        cases r with
        | error e => cases hr
        | ok p => exact (h.links k).told f t p hstage
      · exact h
  | turn env => exact h.takeTurn P hgood env
  | post m =>
      unfold State.step
      dsimp only
      split_ifs
      · refine h.requeue s.tickets ?_ s.actor
        intro q hq k t f horigin
        rcases List.mem_append.mp hq with hq | hq
        · exact h.requests q hq k t f horigin
        · obtain rfl := List.mem_singleton.mp hq
          cases horigin
      · exact h
  | push k e =>
      unfold State.step
      dsimp only
      refine h.setLink ((h.links k).send ?_)
      intro r hr
      cases hr
  | write k =>
      unfold State.step
      dsimp only
      split
      · exact h
      · rename_i o rest hout
        split_ifs
        · exact h
        · have hsound := h.links k
          refine h.setLink ⟨hsound.sending, hsound.chatting, hsound.told, ?_⟩
          intro r hr
          refine hsound.acks r ?_
          rw [hout]
          simpa using hr
  | cancel k =>
      have hsound := h.links k
      exact h.setLink ⟨hsound.sending, hsound.chatting, hsound.told, hsound.acks⟩
  | fail k =>
      unfold State.step
      dsimp only
      split
      · exact h.setLink ((h.links k).goto _ _ (by simp) (by simp) (by simp))
      · exact h

theorem start (dateNow : ℚ) (a : Actor σ) :
    Honest uuid identity unmarshal (State.start dateNow a) := by
  refine ⟨by simp [State.start], by simp [State.start], ?_, ?_, ?_, Page.inv_start dateNow,
    Page.posted_start dateNow⟩
  · intro k
    exact ⟨by simp [State.start], by simp [State.start], by simp [State.start],
      by simp [State.start]⟩
  · intro m r hm
    cases hm
  · intro i r k t hi
    cases hi

end Honest

-- ============================================================================
-- The results
-- ============================================================================

namespace State

variable {σ : Type} (P : Persistence σ) (uuid : Nat ↪ String) (roomID : String)
  (identity : Nat → Identity) (unmarshal : Json → RawPayload) (body : Rooms.Event → Json)

/-- What holds in every state. -/
structure Lawful (s : State σ) : Prop where
  honest : Honest uuid identity unmarshal s
  sides : ∀ k, Good (s.side k)

/-- The invariant of all runs. -/
theorem lawful_run (dateNow : ℚ) (a : Actor σ) (ls : List Label) :
    Lawful uuid identity unmarshal
      (run (step P uuid roomID identity unmarshal body) (start dateNow a) ls) := by
  have hstep : ∀ s l, Lawful uuid identity unmarshal s → True →
      Lawful uuid identity unmarshal (step P uuid roomID identity unmarshal body s l) := by
    intro s l h _
    exact ⟨h.honest.step P roomID body h.sides l,
      fun k => (h.sides k).step (side_step P uuid roomID identity unmarshal body h.honest.asks l k)⟩
  have hinit : Lawful uuid identity unmarshal (start dateNow a) := by
    refine ⟨Honest.start dateNow a, ?_⟩
    intro k
    have hside : (start dateNow a).side k = ⟨[], 0, .reading, false, [], [], [], a.stopped⟩ := by
      have hqueued : (start dateNow a).queued k = [] := ite_self []
      unfold side
      rw [hqueued]
      rfl
    rw [hside]
    exact good_start a.stopped
  exact run_invariant hstep hinit (fun _ _ _ _ => trivial)

/-- What the sockets keep in order: the commands that are carried out, and the replies that
    arrive, each at most once. -/
structure InOrder (s : State σ) : Prop where
  handled : ∀ k, (s.done k).Sublist (s.sent k)
  received : ∀ k, ((s.received k).filterMap Outgoing.request).Sublist
    ((s.sent k).map (fun f => f.requestId))
  ids : ∀ k, ((s.sent k).map (fun f => f.requestId)).Nodup

/-- A promise of `send` that is resolved: the command has been carried out without an error, as
    it was sent and on the socket it was sent on, and nothing else has been done in its name. -/
def Acknowledged (s : State σ) : Prop :=
  ∀ (i : Nat) r k t, s.page.promises[i]? = some (.awaiting r k t) →
    (i, .resolved) ∈ s.page.settled →
    ∃ h, s.handled.filter (fun h => h.frame.requestId = r) = [h] ∧ h.socket = k ∧
      (k, h.frame) ∈ s.page.frames ∧ h.result = .ok () ∧ Fits identity unmarshal h

theorem mem_sent {k : Nat} {f : Frame} {s : State σ} (h : f ∈ s.sent k) :
    (k, f) ∈ s.page.frames := by
  obtain ⟨⟨k', f'⟩, hfilter, rfl⟩ := List.mem_map.mp h
  obtain ⟨hmem, hk⟩ := List.mem_filter.mp hfilter
  obtain rfl : k' = k := by simpa using hk
  exact hmem

variable {uuid} in
theorem ids_nodup {s : State σ} (h : Page.Posted uuid s.page) (k : Nat) :
    ((s.sent k).map (fun f => f.requestId)).Nodup := by
  unfold sent
  rw [List.map_map]
  exact List.Nodup.sublist (List.filter_sublist.map _) h.nodup

variable {uuid} {identity} {unmarshal} in
/-- What has been carried out, and what has come back, are in the order of the sends. -/
theorem Lawful.inOrder {s : State σ} (h : Lawful uuid identity unmarshal s) : InOrder s := by
  constructor
  · intro k
    have horder := (h.sides k).order
    rw [List.append_assoc] at horder
    exact ((List.sublist_append_left _ _).trans horder).trans (List.take_sublist _ _)
  · intro k
    have hreplies := (List.sublist_append_left (s.replies k) _).trans (h.sides k).replies
    have hreceived : ((s.received k).filterMap Outgoing.request).Sublist (s.replies k) := by
      unfold replies
      rw [List.append_assoc, List.filterMap_append]
      exact List.sublist_append_left _ _
    exact hreceived.trans (hreplies.trans ((List.take_sublist _ _).map _))
  · exact ids_nodup h.honest.posted

variable {uuid} {identity} {unmarshal} in
theorem Lawful.acknowledged {s : State σ} (hs : Lawful uuid identity unmarshal s) :
    Acknowledged identity unmarshal s := by
  have hhonest := hs.honest
  have horder := hs.inOrder
  intro i r k t hi hresolved
  obtain ⟨k', h, hmem, rfl, hid, hok⟩ := hhonest.resolved i r k t hi hresolved
  obtain ⟨f, hf, hfid⟩ := hhonest.posted.awaited i r k t hi
  -- every record under the id is of the one frame that carries it
  have hframe : ∀ y ∈ s.handled, y.frame.requestId = r → y.socket = k ∧ y.frame = f := by
    intro y hy hyid
    have hdone : y.frame ∈ s.done y.socket :=
      List.mem_map.mpr ⟨y, List.mem_filter.mpr ⟨hy, by simp⟩, rfl⟩
    have hsent := mem_sent ((horder.handled y.socket).subset hdone)
    have heq := List.inj_on_of_nodup_map hhonest.posted.nodup hsent hf (hyid.trans hfid.symm)
    exact Prod.mk.inj heq
  obtain ⟨hsocket, rfl⟩ := hframe h hmem hid
  have hsame : s.handled.filter (fun y => y.frame.requestId = r)
      = (s.handled.filter (fun y => y.socket = k)).filter (fun y => y.frame.requestId = r) := by
    rw [List.filter_filter]
    refine List.filter_congr ?_
    intro y hy
    by_cases hyid : y.frame.requestId = r
    · simp [hyid, (hframe y hy hyid).1]
    · simp [hyid]
  have hnodup : ((s.handled.filter (fun y => y.frame.requestId = r)).map (fun y => y.frame)).Nodup := by
    rw [hsame]
    have hdone : (s.done k).Nodup := (horder.handled k).nodup (List.Nodup.of_map _ (horder.ids k))
    exact hdone.sublist (List.filter_sublist.map _)
  refine ⟨h, ?_, hsocket, hf, hok, hhonest.fits h hmem⟩
  have hin : h ∈ s.handled.filter (fun y => y.frame.requestId = r) :=
    List.mem_filter.mpr ⟨hmem, by simpa using hid⟩
  have hall : ∀ y ∈ s.handled.filter (fun y => y.frame.requestId = r), y.frame = h.frame := by
    intro y hy
    obtain ⟨hy, hyid⟩ := List.mem_filter.mp hy
    exact (hframe y hy (by simpa using hyid)).2
  generalize s.handled.filter (fun y => y.frame.requestId = r) = records at hin hall hnodup ⊢
  rcases records with _ | ⟨y, _ | ⟨z, rest⟩⟩
  · cases hin
  · rw [List.mem_singleton.mp hin]
  · have hy := hall y List.mem_cons_self
    have hz := hall z (List.mem_cons_of_mem _ List.mem_cons_self)
    rw [List.map_cons, List.map_cons, hy, hz] at hnodup
    exact absurd (List.mem_cons_self) (List.nodup_cons.mp hnodup).1

/-- **Order.**  In every run the commands of a socket are carried out in the order in which
    they were sent, none twice, and so do the replies arrive. -/
theorem served_in_order (dateNow : ℚ) (a : Actor σ) (ls : List Label) :
    InOrder (run (step P uuid roomID identity unmarshal body) (start dateNow a) ls) :=
  (lawful_run P uuid roomID identity unmarshal body dateNow a ls).inOrder

/-- **Acknowledgements.**  In every run a promise that is resolved has its command carried out,
    exactly once. -/
theorem acknowledged_once (dateNow : ℚ) (a : Actor σ) (ls : List Label) :
    Acknowledged identity unmarshal
      (run (step P uuid roomID identity unmarshal body) (start dateNow a) ls) :=
  (lawful_run P uuid roomID identity unmarshal body dateNow a ls).acknowledged

end State

end WatchTogether.Realtime.Exchange

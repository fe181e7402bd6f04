/-
  WatchTogether.Realtime.ExchangeSides

  The exchange as one socket sees it.  `Side` is what a socket shows of the system, and
  `SideStep` what any step can do to it; the order of commands and replies is an invariant of
  the sides.
-/

import WatchTogether.Realtime.Exchange

namespace WatchTogether.Realtime.Exchange

open LabelledRun Rooms ReadLoop
open Web (Frame Json Page)

-- ============================================================================
-- The side of a socket
-- ============================================================================

/-- The frames that the goroutine has in hand and not passed on. -/
def Stage.holds : Stage → List Frame
  | .chatting f | .sending f _ => [f]
  | .reading | .waiting _ _ _ | .ended => []

/-- The frames that the goroutine still owes a reply. -/
def Stage.owes : Stage → List Frame
  | .chatting f | .sending f _ | .waiting f _ _ => [f]
  | .reading | .ended => []

/-- What one socket shows of the system. -/
structure Side where
  sent : List Frame
  taken : Nat
  stage : Stage
  cancelled : Bool
  /-- What has been dealt with. -/
  done : List Frame
  /-- The requests that the actor still may take. -/
  queued : List (Nat × Frame)
  /-- The ids of all replies, the delivered ones first. -/
  replies : List String
  stopped : Bool

/-- The ticket and the frame of a request of the socket. -/
def Request.fromSocket (k : Nat) (q : Request) : Option (Nat × Frame) :=
  match q.origin with
  | some (k', x) => if k' = k then some x else none
  | none => none

namespace State

variable {σ : Type}

/-- The commands of a socket that wait for the actor, with their tickets. -/
def queued (k : Nat) (s : State σ) : List (Nat × Frame) :=
  if s.actor.stopped then [] else s.queue.filterMap (Request.fromSocket k)

/-- What the actor has carried out for a socket. -/
def done (k : Nat) (s : State σ) : List Frame :=
  (s.handled.filter (fun h => h.socket = k)).map (fun h => h.frame)

/-- What has reached the page on the socket. -/
def received (k : Nat) (s : State σ) : List Outgoing :=
  (s.delivered.filter (fun x => x.1 = k)).map (fun x => x.2)

/-- The request ids of the replies that have arrived on a socket. -/
def replies (k : Nat) (s : State σ) : List String :=
  (s.received k ++ (s.links k).wire ++ (s.links k).out).filterMap Outgoing.request

/-- One socket's share of the state. -/
def side (k : Nat) (s : State σ) : Side where
  sent := s.sent k
  taken := (s.links k).taken
  stage := (s.links k).stage
  cancelled := (s.links k).cancelled
  done := s.done k
  queued := s.queued k
  replies := s.replies k
  stopped := s.actor.stopped

end State

/-- The replies after the frame `f` has been answered: a full queue drops the answer. -/
def Answered (f : Frame) (replies replies' : List String) : Prop :=
  replies' = replies ∨ replies' = replies ++ [f.requestId]

/-- The stage after the actor has processed the request `ticket`. -/
def Stage.told (ticket : Nat) (r : CommandResult) : Stage → Stage
  | .waiting f t reply => if t = ticket then .waiting f t (some r) else .waiting f t reply
  | x => x

@[simp] theorem told_holds (ticket : Nat) (r : CommandResult) (x : Stage) :
    (x.told ticket r).holds = x.holds := by
  cases x with
  | waiting f t reply =>
      dsimp only [Stage.told]
      split_ifs <;> rfl
  | _ => rfl

@[simp] theorem told_owes (ticket : Nat) (r : CommandResult) (x : Stage) :
    (x.told ticket r).owes = x.owes := by
  cases x with
  | waiting f t reply =>
      dsimp only [Stage.told]
      split_ifs <;> rfl
  | _ => rfl

/-- What a step can do to the side of a socket. -/
inductive SideStep (x : Side) : Side → Prop
  | same : SideStep x x
  | posted (fs : List Frame) : SideStep x { x with sent := x.sent ++ fs }
  /-- A frame is read: the connection ends, or the loop answers by itself, or it goes on. -/
  | read (f : Frame) (stage : Stage) (replies : List String) (hstage : x.stage = .reading)
      (hlive : x.cancelled = false) (hf : x.sent[x.taken]? = some f)
      (hnext : (stage = .ended ∧ replies = x.replies) ∨
        (stage = .reading ∧ Answered f x.replies replies) ∨
        (stage.holds = [f] ∧ stage.owes = [f] ∧ replies = x.replies)) :
      SideStep x { x with taken := x.taken + 1, stage := stage, replies := replies }
  | chatted (f : Frame) (replies : List String) (hstage : x.stage = .chatting f)
      (hreplies : Answered f x.replies replies) :
      SideStep x { x with stage := .reading, done := x.done ++ [f], replies := replies }
  | submitted (f : Frame) (c : Command) (ticket : Nat) (hstage : x.stage = .sending f c) :
      SideStep x { x with
        stage := .waiting f ticket none
        queued := if x.stopped then [] else x.queued ++ [(ticket, f)] }
  /-- A `select` takes the `a.done` or the `ctx.Done()` case. -/
  | gaveUp (f : Frame) (replies : List String)
      (hstage : (∃ c, x.stage = .sending f c) ∨ ∃ t r, x.stage = .waiting f t r)
      (hcause : x.stopped = true ∨ x.cancelled = true)
      (hreplies : Answered f x.replies replies) :
      SideStep x { x with stage := .reading, replies := replies }
  | received (f : Frame) (t : Nat) (r : CommandResult) (replies : List String)
      (hstage : x.stage = .waiting f t (some r)) (hreplies : Answered f x.replies replies) :
      SideStep x { x with stage := .reading, replies := replies }
  /-- The actor processes the oldest request of the socket. -/
  | turned (ticket : Nat) (f : Frame) (rest : List (Nat × Frame)) (r : CommandResult)
      (stopped : Bool) (hlive : x.stopped = false) (hqueued : x.queued = (ticket, f) :: rest) :
      SideStep x { x with
        done := x.done ++ [f]
        stage := x.stage.told ticket r
        queued := if stopped then [] else rest
        stopped := stopped }
  /-- The actor stops in the turn of another message. -/
  | halted : SideStep x { x with queued := [], stopped := true }
  | cancelled : SideStep x { x with cancelled := true }
  | failed (hstage : x.stage = .reading) : SideStep x { x with stage := .ended }

-- ============================================================================
-- The invariant of a side
-- ============================================================================

/-- What is left in the channel agrees with where the goroutine is. -/
def Calm (x : Side) : Prop :=
  match x.stage with
  | .reading => x.cancelled = true ∨ x.queued = []
  | .chatting _ | .sending _ _ => x.queued = []
  | .waiting f t none => x.stopped = false → x.queued = [(t, f)]
  | .waiting _ _ (some _) => x.queued = []
  | .ended => True

/-- What holds of one socket's share. -/
structure Good (x : Side) : Prop where
  taken : x.taken ≤ x.sent.length
  calm : Calm x
  stopped : x.stopped = true → x.queued = []
  order : (x.done ++ x.queued.map (fun q => q.2) ++ x.stage.holds).Sublist (x.sent.take x.taken)
  replies : (x.replies ++ x.stage.owes.map (fun f => f.requestId)).Sublist
    ((x.sent.take x.taken).map (fun f => f.requestId))

theorem good_start (stopped : Bool) : Good ⟨[], 0, .reading, false, [], [], [], stopped⟩ :=
  ⟨Nat.le_refl _, .inr rfl, fun _ => rfl, List.nil_sublist _, List.nil_sublist _⟩

variable {x x' : Side}

/-- An answer pays what was owed. -/
theorem Answered.sublist {f : Frame} {replies replies' all : List String}
    (h : Answered f replies replies') (hall : (replies ++ [f.requestId]).Sublist all) :
    (replies' ++ []).Sublist all := by
  rw [List.append_nil]
  rcases h with rfl | rfl
  · exact (List.sublist_append_left _ _).trans hall
  · exact hall

theorem Good.posted (h : Good x) (fs : List Frame) : Good { x with sent := x.sent ++ fs } := by
  have htake : (x.sent ++ fs).take x.taken = x.sent.take x.taken :=
    List.take_append_of_le_length h.taken
  refine ⟨?_, h.calm, h.stopped, ?_, ?_⟩
  · have hlen := h.taken
    simp only [List.length_append]
    omega
  · dsimp only
    rw [htake]
    exact h.order
  · dsimp only
    rw [htake]
    exact h.replies

theorem Good.read (h : Good x) {f : Frame} {stage : Stage} {replies : List String}
    (hstage : x.stage = .reading) (hlive : x.cancelled = false)
    (hf : x.sent[x.taken]? = some f)
    (hnext : (stage = .ended ∧ replies = x.replies) ∨
      (stage = .reading ∧ Answered f x.replies replies) ∨
      (stage.holds = [f] ∧ stage.owes = [f] ∧ replies = x.replies)) :
    Good { x with taken := x.taken + 1, stage := stage, replies := replies } := by
  obtain ⟨hlt, -⟩ := List.getElem?_eq_some_iff.mp hf
  have htake : x.sent.take (x.taken + 1) = x.sent.take x.taken ++ [f] := by
    rw [List.take_add_one, hf]
    rfl
  -- nothing of the socket is left in the channel: its goroutine waits for all it submits
  have hnone : x.queued = [] := by
    have hcalm := h.calm
    unfold Calm at hcalm
    rw [hstage] at hcalm
    rcases hcalm with hc | hq
    · rw [hlive] at hc
      cases hc
    · exact hq
  have horder := h.order
  have hreplies := h.replies
  rw [hstage] at horder hreplies
  simp only [Stage.holds, Stage.owes, List.map_nil, List.append_nil] at horder hreplies
  rcases hnext with ⟨rfl, rfl⟩ | ⟨rfl, hanswer⟩ | ⟨hholds, howes, rfl⟩
  · refine ⟨hlt, trivial, h.stopped, ?_, ?_⟩
    · dsimp only
      rw [htake]
      simpa [Stage.holds] using horder.trans (List.sublist_append_left _ _)
    · dsimp only
      rw [htake, List.map_append]
      simpa [Stage.owes] using hreplies.trans (List.sublist_append_left _ _)
  · refine ⟨hlt, .inr hnone, h.stopped, ?_, ?_⟩
    · dsimp only
      rw [htake]
      simpa [Stage.holds] using horder.trans (List.sublist_append_left _ _)
    · dsimp only
      rw [htake, List.map_append]
      exact hanswer.sublist (hreplies.append_right _)
  · refine ⟨hlt, ?_, h.stopped, ?_, ?_⟩
    · cases stage with
      | chatting g | sending g c => exact hnone
      | reading | waiting _ _ _ | ended => cases hholds
    · dsimp only
      rw [htake, hholds]
      exact horder.append_right _
    · dsimp only
      rw [htake, howes, List.map_append]
      exact hreplies.append_right _

theorem Good.chatted (h : Good x) {f : Frame} {replies : List String}
    (hstage : x.stage = .chatting f) (hreplies : Answered f x.replies replies) :
    Good { x with stage := .reading, done := x.done ++ [f], replies := replies } := by
  have hnone : x.queued = [] := by
    have hcalm := h.calm
    unfold Calm at hcalm
    rw [hstage] at hcalm
    exact hcalm
  have horder := h.order
  have howed := h.replies
  rw [hstage] at horder howed
  refine ⟨h.taken, .inr hnone, h.stopped, ?_, hreplies.sublist howed⟩
  dsimp only
  rw [hnone] at horder ⊢
  simpa [Stage.holds] using horder

theorem Good.submitted (h : Good x) {f : Frame} {c : Command} (ticket : Nat)
    (hstage : x.stage = .sending f c) :
    Good { x with
      stage := .waiting f ticket none
      queued := if x.stopped then [] else x.queued ++ [(ticket, f)] } := by
  have hnone : x.queued = [] := by
    have hcalm := h.calm
    unfold Calm at hcalm
    rw [hstage] at hcalm
    exact hcalm
  have horder := h.order
  have howed := h.replies
  rw [hstage, hnone] at horder
  rw [hstage] at howed
  refine ⟨h.taken, ?_, ?_, ?_, howed⟩
  · intro hlive
    dsimp only at hlive ⊢
    rw [hlive, hnone]
    rfl
  · intro hstopped
    dsimp only at hstopped ⊢
    rw [if_pos hstopped]
  · dsimp only
    rw [hnone]
    cases x.stopped with
    | true =>
        have hdone := (List.sublist_append_left x.done [f]).trans
          (by simpa [Stage.holds] using horder)
        simpa [Stage.holds] using hdone
    | false => simpa [Stage.holds] using horder

/-- Leaving a stage with nothing left in the channel, or for good. -/
theorem Good.replied (h : Good x) {f : Frame} {replies : List String}
    (howes : x.stage.owes = [f]) (hcause : x.cancelled = true ∨ x.queued = [])
    (hreplies : Answered f x.replies replies) :
    Good { x with stage := .reading, replies := replies } := by
  have howed := h.replies
  rw [howes] at howed
  refine ⟨h.taken, hcause, h.stopped, ?_, hreplies.sublist howed⟩
  have hdone := (List.sublist_append_left (x.done ++ x.queued.map (fun q => q.2))
    x.stage.holds).trans h.order
  simpa [Stage.holds] using hdone

theorem Good.turned (h : Good x) {ticket : Nat} {f : Frame} {rest : List (Nat × Frame)}
    (r : CommandResult) (stopped : Bool) (hlive : x.stopped = false)
    (hqueued : x.queued = (ticket, f) :: rest) :
    Good { x with
      done := x.done ++ [f]
      stage := x.stage.told ticket r
      queued := if stopped then [] else rest
      stopped := stopped } := by
  have hrest : (if stopped then [] else rest).Sublist rest := by
    cases stopped with
    | true => exact List.nil_sublist _
    | false => exact .refl _
  refine ⟨h.taken, ?_, ?_, ?_, ?_⟩
  · have hcalm := h.calm
    unfold Calm at hcalm ⊢
    rw [hqueued] at hcalm
    dsimp only
    cases hstage : x.stage with
    | reading =>
        rw [hstage] at hcalm
        rcases hcalm with hc | hc
        · exact .inl hc
        · cases hc
    | chatting g =>
        rw [hstage] at hcalm
        cases hcalm
    | sending g c =>
        rw [hstage] at hcalm
        cases hcalm
    | ended => trivial
    | waiting g t reply =>
        rw [hstage] at hcalm
        cases reply with
        | some r' => cases hcalm
        | none =>
            -- the request that the goroutine waits for is the only one
            obtain ⟨hhead, hnil⟩ := List.cons.inj (hcalm hlive)
            obtain ⟨rfl, rfl⟩ := Prod.mk.inj hhead
            subst hnil
            have htold : (Stage.waiting f ticket none).told ticket r
                = .waiting f ticket (some r) := if_pos rfl
            rw [htold]
            exact ite_self []
  · intro hstopped
    dsimp only at hstopped ⊢
    rw [if_pos hstopped]
  · dsimp only
    rw [told_holds]
    refine List.Sublist.trans ?_ h.order
    rw [hqueued, List.map_cons, List.append_assoc, List.append_assoc, List.append_assoc]
    refine List.Sublist.append_left ?_ _
    exact (((hrest.map _).append_right _).cons_cons f)
  · dsimp only
    rw [told_owes]
    exact h.replies

theorem Good.step (h : Good x) (hstep : SideStep x x') : Good x' := by
  cases hstep with
  | same => exact h
  | posted fs => exact h.posted fs
  | read f stage replies hstage hlive hf hnext => exact h.read hstage hlive hf hnext
  | chatted f replies hstage hreplies => exact h.chatted hstage hreplies
  | submitted f c ticket hstage => exact h.submitted ticket hstage
  | gaveUp f replies hstage hcause hreplies =>
      refine h.replied ?_ ?_ hreplies
      · rcases hstage with ⟨c, hstage⟩ | ⟨t, r, hstage⟩
        · rw [hstage]
          rfl
        · rw [hstage]
          rfl
      · rcases hcause with hstopped | hcancelled
        · exact .inr (h.stopped hstopped)
        · exact .inl hcancelled
  | received f t r replies hstage hreplies =>
      have hcalm := h.calm
      unfold Calm at hcalm
      rw [hstage] at hcalm
      refine h.replied ?_ (.inr hcalm) hreplies
      rw [hstage]
      rfl
  | turned ticket f rest r stopped hlive hqueued => exact h.turned r stopped hlive hqueued
  | halted =>
      refine ⟨h.taken, ?_, fun _ => rfl, ?_, h.replies⟩
      · have hcalm := h.calm
        unfold Calm at hcalm ⊢
        dsimp only
        cases hstage : x.stage with
        | reading => exact .inr rfl
        | chatting g | sending g c | ended => trivial
        | waiting g t reply =>
            cases reply with
            | none => exact fun hs => absurd hs (by decide)
            | some r => rfl
      · refine List.Sublist.trans ?_ h.order
        dsimp only
        refine List.Sublist.append_right ?_ _
        refine List.Sublist.append_left ?_ _
        exact List.nil_sublist _
  | cancelled =>
      refine ⟨h.taken, ?_, h.stopped, h.order, h.replies⟩
      have hcalm := h.calm
      unfold Calm at hcalm ⊢
      dsimp only
      cases hstage : x.stage with
      | reading => exact .inl rfl
      | chatting g | sending g c | ended =>
          rw [hstage] at hcalm
          exact hcalm
      | waiting g t reply =>
          rw [hstage] at hcalm
          cases reply with
          | none => exact hcalm
          | some r => exact hcalm
  | failed hstage =>
      have horder := h.order
      have howed := h.replies
      rw [hstage] at horder howed
      exact ⟨h.taken, trivial, h.stopped, horder, howed⟩

-- ============================================================================
-- Every step is one of a side
-- ============================================================================

namespace State

variable {σ : Type} {s : State σ} {k k' : Nat}

@[simp] theorem setLink_self (k : Nat) (y : Link) (s : State σ) : (s.setLink k y).links k = y :=
  Function.update_self ..

theorem side_setLink_ne (h : k ≠ k') (y : Link) : (s.setLink k' y).side k = s.side k := by
  have hlink : (s.setLink k' y).links k = s.links k := Function.update_of_ne h ..
  unfold side replies
  rw [hlink]
  rfl

/-- The side of a socket after its link is written. -/
theorem side_setLink (k : Nat) (y : Link) (s : State σ) :
    (s.setLink k y).side k = { s.side k with
      taken := y.taken
      stage := y.stage
      cancelled := y.cancelled
      replies := (s.received k ++ y.wire ++ y.out).filterMap Outgoing.request } := by
  unfold side replies
  rw [setLink_self]
  rfl

theorem send_cases (o : Outgoing) (y : Link) :
    y.send o = y ∨ y.send o = { y with out := y.out ++ [o] } := by
  unfold Link.send
  split_ifs
  · exact .inr rfl
  · exact .inl rfl

/-- What is put on the queue of the connection comes last among the replies. -/
theorem replies_send (o : Outgoing) (y : Link) (all : List Outgoing) :
    (all ++ (y.send o).wire ++ (y.send o).out).filterMap Outgoing.request
        = (all ++ y.wire ++ y.out).filterMap Outgoing.request ∨
      (all ++ (y.send o).wire ++ (y.send o).out).filterMap Outgoing.request
        = (all ++ y.wire ++ y.out).filterMap Outgoing.request ++ o.request.toList := by
  rcases send_cases o y with h | h
  · rw [h]
    exact .inl rfl
  · rw [h]
    refine .inr ?_
    dsimp only
    rw [← List.append_assoc, List.filterMap_append]
    congr 1

/-- `respond` leads back to the read loop and answers the frame. -/
theorem side_respond (k : Nat) (f : Frame) (r : Except Failure Unit) (s : State σ) :
    ∃ replies, Answered f (s.side k).replies replies ∧
      (s.setLink k ((s.links k).respond f r)).side k
        = { s.side k with stage := .reading, replies := replies } := by
  have hkeeps : ∀ o : Outgoing, ∀ y : Link, (y.send o).taken = y.taken ∧
      (y.send o).stage = y.stage ∧ (y.send o).cancelled = y.cancelled := by
    intro o y
    rcases send_cases o y with h | h
    · rw [h]
      exact ⟨rfl, rfl, rfl⟩
    · rw [h]
      exact ⟨rfl, rfl, rfl⟩
  obtain ⟨htaken, hstage, hcancelled⟩ := hkeeps (ReadLoop.respond f.requestId r)
    { s.links k with stage := .reading }
  rw [side_setLink]
  unfold Link.respond
  rw [htaken, hstage, hcancelled]
  refine ⟨_, ?_, rfl⟩
  rcases replies_send (ReadLoop.respond f.requestId r) { s.links k with stage := .reading }
    (s.received k) with h | h
  · exact .inl h
  · refine .inr ?_
    rw [respond_request] at h
    exact h

/-- The frames on a socket only grow. -/
theorem sent_step (uuid : Nat ↪ String) (e : Web.Event) (k : Nat) (s : State σ) :
    ∃ fs, (({ s with page := s.page.step uuid e } : State σ).sent k) = s.sent k ++ fs := by
  obtain ⟨new, hnew⟩ := Page.frames_step uuid s.page e
  refine ⟨(new.filter (fun f => f.1 = k)).map (fun f => f.2), ?_⟩
  unfold sent
  dsimp only
  rw [← hnew, List.filter_append, List.map_append]

theorem side_page (uuid : Nat ↪ String) (e : Web.Event) (k : Nat) (s : State σ) :
    SideStep (s.side k) (({ s with page := s.page.step uuid e } : State σ).side k) := by
  obtain ⟨fs, hfs⟩ := sent_step uuid e k s
  have hside : ({ s with page := s.page.step uuid e } : State σ).side k
      = { s.side k with sent := (s.side k).sent ++ fs } := by
    unfold side
    rw [hfs]
    rfl
  rw [hside]
  exact .posted fs

theorem received_snoc (k k' : Nat) (o : Outgoing) (s : State σ) :
    ({ s with delivered := s.delivered ++ [(k', o)] } : State σ).received k
      = s.received k ++ (if k' = k then [o] else []) := by
  unfold received
  dsimp only
  rw [List.filter_append, List.map_append]
  congr 1
  by_cases h : k' = k
  · simp [h]
  · simp [h]

theorem done_snoc (k : Nat) (h : Handled) (s : State σ) :
    ({ s with handled := s.handled ++ [h] } : State σ).done k
      = s.done k ++ (if h.socket = k then [h.frame] else []) := by
  unfold done
  dsimp only
  rw [List.filter_append, List.map_append]
  congr 1
  by_cases hk : h.socket = k
  · simp [hk]
  · simp [hk]

theorem side_deliver (uuid : Nat ↪ String) (value : Option Json) {o : Outgoing}
    {rest : List Outgoing} (hwire : (s.links k').wire = o :: rest) (k : Nat) :
    SideStep (s.side k)
      (({ s.setLink k' { s.links k' with wire := rest } with
          page := s.page.step uuid (.message k' value)
          delivered := s.delivered ++ [(k', o)] } : State σ).side k) := by
  obtain ⟨fs, hfs⟩ := sent_step uuid (.message k' value) k s
  have hside : ({ s.setLink k' { s.links k' with wire := rest } with
      page := s.page.step uuid (.message k' value)
      delivered := s.delivered ++ [(k', o)] } : State σ).side k
        = { s.side k with sent := (s.side k).sent ++ fs } := by
    have hreceived := received_snoc k k' o s
    by_cases hk : k = k'
    · subst hk
      rw [if_pos rfl] at hreceived
      unfold side replies
      dsimp only [setLink]
      rw [Function.update_self]
      congr 1
      -- the oldest envelope of the wire becomes the newest that has been delivered
      change List.filterMap _ (({ s with delivered := s.delivered ++ [(k, o)] } : State σ).received k
        ++ rest ++ (s.links k).out) = _
      rw [hreceived, hwire, List.append_assoc (s.received k) [o] rest]
      rfl
    · rw [if_neg (Ne.symm hk), List.append_nil] at hreceived
      unfold side replies
      dsimp only [setLink]
      rw [Function.update_of_ne hk]
      congr 1
      change List.filterMap _ (({ s with delivered := s.delivered ++ [(k', o)] } : State σ).received k
        ++ (s.links k).wire ++ (s.links k).out) = _
      rw [hreceived]
  rw [hside]
  exact .posted fs

theorem side_accept {f : Frame} {action : Option Action} (hstage : (s.links k').stage = .reading)
    (hlive : (s.links k').cancelled = false) (hf : (s.sent k')[(s.links k').taken]? = some f)
    (haction : ∀ o, action = some (.reply o) → o.request = none ∨ o.request = some f.requestId)
    (k : Nat) : SideStep (s.side k) ((s.accept k' f action).side k) := by
  by_cases hk : k = k'
  · subst hk
    unfold accept
    split
    · rw [side_setLink]
      exact .read f .ended _ hstage hlive hf (.inl ⟨rfl, rfl⟩)
    · rename_i o
      rw [side_setLink]
      have hanswer : Answered f (s.side k).replies ((s.received k
          ++ (({ s.links k with taken := (s.links k).taken + 1 } : Link).send o).wire
          ++ (({ s.links k with taken := (s.links k).taken + 1 } : Link).send o).out).filterMap
            Outgoing.request) := by
        rcases replies_send o { s.links k with taken := (s.links k).taken + 1 } (s.received k)
          with h | h
        · exact .inl h
        · rcases haction o rfl with hnone | hsome
          · rw [hnone] at h
            exact .inl (h.trans (List.append_nil _))
          · rw [hsome] at h
            exact .inr h
      have hlink : (({ s.links k with taken := (s.links k).taken + 1 } : Link).send o).taken
            = (s.links k).taken + 1 ∧
          (({ s.links k with taken := (s.links k).taken + 1 } : Link).send o).stage
            = .reading ∧
          (({ s.links k with taken := (s.links k).taken + 1 } : Link).send o).cancelled
            = (s.links k).cancelled := by
        rcases send_cases o { s.links k with taken := (s.links k).taken + 1 } with h | h
        · rw [h]
          exact ⟨rfl, hstage, rfl⟩
        · rw [h]
          exact ⟨rfl, hstage, rfl⟩
      obtain ⟨htaken, hnext, hcancelled⟩ := hlink
      dsimp only
      rw [htaken, hnext, hcancelled]
      exact .read f .reading _ hstage hlive hf (.inr (.inl ⟨rfl, hanswer⟩))
    · rw [side_setLink]
      exact .read f (.chatting f) _ hstage hlive hf (.inr (.inr ⟨rfl, rfl, rfl⟩))
    · rw [side_setLink]
      exact .read f (.chatting f) _ hstage hlive hf (.inr (.inr ⟨rfl, rfl, rfl⟩))
    · rename_i c
      rw [side_setLink]
      exact .read f (.sending f c) _ hstage hlive hf (.inr (.inr ⟨rfl, rfl, rfl⟩))
  · unfold accept
    split <;> rw [side_setLink_ne hk] <;> exact .same

theorem side_chatted {f : Frame} (hstage : (s.links k').stage = .chatting f)
    (r : Except Failure Unit) (k : Nat) :
    SideStep (s.side k)
      (({ s.setLink k' ((s.links k').respond f r) with
          handled := s.handled ++ [⟨k', f, none, r⟩] } : State σ).side k) := by
  have hdone := done_snoc k ⟨k', f, none, r⟩ s
  by_cases hk : k = k'
  · subst hk
    obtain ⟨replies, hanswer, hside⟩ := side_respond k f r s
    have heq : ({ s.setLink k ((s.links k).respond f r) with
        handled := s.handled ++ [⟨k, f, none, r⟩] } : State σ).side k
          = { s.side k with stage := .reading, done := (s.side k).done ++ [f], replies := replies } := by
      have hnew : ({ s with handled := s.handled ++ [⟨k, f, none, r⟩] } : State σ).done k
          = s.done k ++ [f] := hdone.trans (by rw [if_pos rfl])
      calc ({ s.setLink k ((s.links k).respond f r) with
              handled := s.handled ++ [⟨k, f, none, r⟩] } : State σ).side k
          = { (s.setLink k ((s.links k).respond f r)).side k with
              done := ({ s with handled := s.handled ++ [⟨k, f, none, r⟩] } : State σ).done k } := rfl
        _ = _ := by rw [hside, hnew]; rfl
    rw [heq]
    exact .chatted f replies hstage hanswer
  · have heq : ({ s.setLink k' ((s.links k').respond f r) with
        handled := s.handled ++ [⟨k', f, none, r⟩] } : State σ).side k = s.side k := by
      have hold : ({ s with handled := s.handled ++ [⟨k', f, none, r⟩] } : State σ).done k
          = s.done k := hdone.trans (by rw [if_neg (Ne.symm hk), List.append_nil])
      calc ({ s.setLink k' ((s.links k').respond f r) with
              handled := s.handled ++ [⟨k', f, none, r⟩] } : State σ).side k
          = { (s.setLink k' ((s.links k').respond f r)).side k with
              done := ({ s with handled := s.handled ++ [⟨k', f, none, r⟩] } : State σ).done k } :=
            rfl
        _ = s.side k := by rw [side_setLink_ne hk, hold]; rfl
    rw [heq]
    exact .same

/-- A message for the actor that is no request of the socket. -/
theorem queued_snoc (k : Nat) (q : Request) (s : State σ) :
    ({ s with queue := s.queue ++ [q] } : State σ).queued k
      = if s.actor.stopped then [] else s.queued k ++ (q.fromSocket k).toList := by
  unfold queued
  dsimp only
  split_ifs
  · rfl
  · rw [List.filterMap_append]
    congr 1

theorem side_submit {f : Frame} {c : Command} (hstage : (s.links k').stage = .sending f c)
    (msg : Msg) (k : Nat) :
    SideStep (s.side k)
      (({ s.setLink k' { s.links k' with stage := .waiting f s.tickets none } with
          queue := s.queue ++ [⟨msg, some (k', s.tickets, f)⟩]
          tickets := s.tickets + 1 } : State σ).side k) := by
  have hqueued := queued_snoc k ⟨msg, some (k', s.tickets, f)⟩ s
  by_cases hk : k = k'
  · subst hk
    have hfrom : (⟨msg, some (k, s.tickets, f)⟩ : Request).fromSocket k = some (s.tickets, f) :=
      if_pos rfl
    rw [hfrom] at hqueued
    have heq : ({ s.setLink k { s.links k with stage := .waiting f s.tickets none } with
        queue := s.queue ++ [⟨msg, some (k, s.tickets, f)⟩]
        tickets := s.tickets + 1 } : State σ).side k
          = { s.side k with
              stage := .waiting f s.tickets none
              queued := if (s.side k).stopped then []
                else (s.side k).queued ++ [(s.tickets, f)] } := by
      calc ({ s.setLink k { s.links k with stage := .waiting f s.tickets none } with
              queue := s.queue ++ [⟨msg, some (k, s.tickets, f)⟩]
              tickets := s.tickets + 1 } : State σ).side k
          = { (s.setLink k { s.links k with stage := .waiting f s.tickets none }).side k with
              queued := ({ s with queue := s.queue ++ [⟨msg, some (k, s.tickets, f)⟩] }
                : State σ).queued k } := rfl
        _ = _ := by rw [side_setLink, hqueued]; rfl
    rw [heq]
    exact .submitted f c s.tickets hstage
  · have hfrom : (⟨msg, some (k', s.tickets, f)⟩ : Request).fromSocket k = none :=
      if_neg (Ne.symm hk)
    rw [hfrom] at hqueued
    have hold : ({ s with queue := s.queue ++ [⟨msg, some (k', s.tickets, f)⟩] } : State σ).queued k
        = s.queued k := by
      rw [hqueued]
      unfold queued
      split_ifs
      · rfl
      · exact List.append_nil _
    have heq : ({ s.setLink k' { s.links k' with stage := .waiting f s.tickets none } with
        queue := s.queue ++ [⟨msg, some (k', s.tickets, f)⟩]
        tickets := s.tickets + 1 } : State σ).side k = s.side k := by
      calc ({ s.setLink k' { s.links k' with stage := .waiting f s.tickets none } with
              queue := s.queue ++ [⟨msg, some (k', s.tickets, f)⟩]
              tickets := s.tickets + 1 } : State σ).side k
          = { (s.setLink k' { s.links k' with stage := .waiting f s.tickets none }).side k with
              queued := ({ s with queue := s.queue ++ [⟨msg, some (k', s.tickets, f)⟩] }
                : State σ).queued k } := rfl
        _ = s.side k := by rw [side_setLink_ne hk, hold]; rfl
    rw [heq]
    exact .same

theorem side_post (m : Msg) (k : Nat) :
    SideStep (s.side k) (({ s with queue := s.queue ++ [⟨m, none⟩] } : State σ).side k) := by
  have hold : ({ s with queue := s.queue ++ [⟨m, none⟩] } : State σ).queued k = s.queued k := by
    rw [queued_snoc]
    unfold queued
    split_ifs
    · rfl
    · exact List.append_nil _
  have heq : ({ s with queue := s.queue ++ [⟨m, none⟩] } : State σ).side k = s.side k := by
    calc ({ s with queue := s.queue ++ [⟨m, none⟩] } : State σ).side k
        = { s.side k with
            queued := ({ s with queue := s.queue ++ [⟨m, none⟩] } : State σ).queued k } := rfl
      _ = s.side k := by rw [hold]; rfl
  rw [heq]
  exact .same

/-- The rest of the channel after a message that is no request of the socket. -/
theorem side_drop {q : Request} {rest : List Request} (hqueue : s.queue = q :: rest)
    (hlive : s.actor.stopped = false) {a : Actor σ} {k : Nat} (hq : q.fromSocket k = none) :
    SideStep (s.side k) (({ s with actor := a, queue := rest } : State σ).side k) := by
  have hold : s.queued k = rest.filterMap (Request.fromSocket k) := by
    unfold queued
    rw [hlive, hqueue, List.filterMap_cons_none hq]
    rfl
  cases hstop : a.stopped with
  | true =>
      have heq : ({ s with actor := a, queue := rest } : State σ).side k
          = { s.side k with queued := [], stopped := true } := by
        unfold side queued
        dsimp only
        rw [hstop]
        rfl
      rw [heq]
      exact .halted
  | false =>
      have heq : ({ s with actor := a, queue := rest } : State σ).side k = s.side k := by
        unfold side
        rw [hold]
        unfold queued
        dsimp only
        rw [hstop, hlive]
        rfl
      rw [heq]
      exact .same

/-- Only the goroutine that waits for the reply sees it. -/
theorem side_answer (ticket : Nat) (r : CommandResult) (k k' : Nat) (s : State σ) :
    (s.answer k' ticket r).side k
      = { s.side k with
          stage := if k = k' then (s.side k).stage.told ticket r else (s.side k).stage } := by
  unfold answer
  cases hstage : (s.links k').stage with
  | waiting f t reply =>
      by_cases hk : k = k'
      · subst hk
        have hside : (s.side k).stage = .waiting f t reply := hstage
        dsimp only
        rw [hside, if_pos rfl]
        by_cases ht : t = ticket
        · have htold : (Stage.waiting f t reply).told ticket r = .waiting f t (some r) := if_pos ht
          rw [if_pos ht, side_setLink, htold]
          rfl
        · have htold : (Stage.waiting f t reply).told ticket r = .waiting f t reply := if_neg ht
          rw [if_neg ht, htold, ← hside]
      · rw [if_neg hk]
        dsimp only
        split_ifs
        · rw [side_setLink_ne hk]
        · rfl
  | _ =>
      dsimp only
      split_ifs with hk
      · subst hk
        have hside : (s.side k).stage = (s.links k).stage := rfl
        have htold : (s.side k).stage.told ticket r = (s.side k).stage := by
          rw [hside, hstage]
          rfl
        rw [htold]
      · rfl

/-- The requests of the page are commands. -/
def Asks (s : State σ) : Prop :=
  ∀ q ∈ s.queue, q.origin.isSome = true → ∃ i c, q.msg = .command i c

theorem side_turn (P : Persistence σ) (env : Env) (hasks : s.Asks) (k : Nat) :
    SideStep (s.side k) ((s.takeTurn P env).side k) := by
  unfold takeTurn
  cases hqueue : s.queue with
  | nil => exact .same
  | cons q rest =>
      dsimp only
      by_cases hstop : s.actor.stopped = true
      · rw [if_pos hstop]
        exact .same
      rw [if_neg hstop]
      have hlive : s.actor.stopped = false := by simpa using hstop
      obtain ⟨msg, origin⟩ := q
      cases origin with
      | none => exact side_drop hqueue hlive rfl
      | some x =>
          obtain ⟨k', ticket, f⟩ := x
          obtain ⟨i, c, rfl⟩ := hasks _ (by rw [hqueue]; exact List.mem_cons_self) rfl
          have hreply : (s.actor.process P env (.command i c)).2
              = .command (s.actor.apply P env i c).2 := by
            unfold Actor.process
            rw [if_neg hstop]
          dsimp only
          rw [hreply]
          generalize (s.actor.apply P env i c).2 = r
          generalize (s.actor.process P env (.command i c)).1 = a
          dsimp only [commandResult]
          rw [side_answer]
          have hdone := done_snoc k ⟨k', f, some (.command i c), failure r⟩
            { s with actor := a, queue := rest }
          by_cases hk : k = k'
          · subst hk
            rw [if_pos rfl] at hdone ⊢
            have hqueued : (s.side k).queued
                = (ticket, f) :: rest.filterMap (Request.fromSocket k) := by
              have hfrom : (⟨.command i c, some (k, ticket, f)⟩ : Request).fromSocket k
                  = some (ticket, f) := if_pos rfl
              unfold side queued
              dsimp only
              rw [hlive, hqueue, if_neg Bool.false_ne_true, List.filterMap_cons_some hfrom]
            refine Eq.mpr (congrArg (SideStep _) ?_)
              (.turned ticket f _ r a.stopped hlive hqueued)
            calc _ = ({ ({ s with actor := a, queue := rest } : State σ).side k with
                      stage := (s.side k).stage.told ticket r
                      done := (State.mk s.page a rest s.tickets s.links
                        (s.handled ++ [⟨k, f, some (.command i c), failure r⟩])
                        s.delivered).done k } : Side) := rfl
              _ = _ := by rw [hdone]; rfl
          · rw [if_neg (Ne.symm hk), List.append_nil] at hdone
            rw [if_neg hk]
            have hfrom : (⟨.command i c, some (k', ticket, f)⟩ : Request).fromSocket k = none :=
              if_neg (Ne.symm hk)
            refine Eq.mpr (congrArg (SideStep _) ?_) (side_drop (a := a) hqueue hlive hfrom)
            calc _ = ({ ({ s with actor := a, queue := rest } : State σ).side k with
                      done := (State.mk s.page a rest s.tickets s.links
                        (s.handled ++ [⟨k', f, some (.command i c), failure r⟩])
                        s.delivered).done k } : Side) := rfl
              _ = _ := by rw [hdone]; rfl

theorem commanding_eq_some {f : Frame} (h : s.commanding k = some f) :
    (∃ c, (s.links k).stage = .sending f c) ∨ ∃ t r, (s.links k).stage = .waiting f t r := by
  unfold commanding at h
  split at h
  · rename_i c hstage
    obtain rfl := Option.some.inj h
    exact .inl ⟨c, hstage⟩
  · rename_i t r hstage
    obtain rfl := Option.some.inj h
    exact .inr ⟨t, r, hstage⟩
  · cases h

variable (P : Persistence σ) (uuid : Nat ↪ String) (roomID : String) (identity : Nat → Identity)
  (unmarshal : Json → RawPayload) (body : Rooms.Event → Json)

/-- **Every step is one of each side.** -/
theorem side_step (hasks : s.Asks) (l : Label) (k : Nat) :
    SideStep (s.side k) ((s.step P uuid roomID identity unmarshal body l).side k) := by
  cases l with
  | page e =>
      unfold step
      dsimp only
      split_ifs
      · exact .same
      · exact side_page uuid e k s
  | deliver k' =>
      unfold step
      dsimp only
      split
      · rename_i o rest _ hwire
        exact side_deliver uuid _ hwire k
      · exact .same
  | read k' authenticated recvAt now =>
      unfold step
      dsimp only
      split
      · rename_i f hstage hf
        split_ifs with hcancelled
        · exact .same
        · refine side_accept hstage (by simpa using hcancelled) hf ?_ k
          intro o ho
          rcases handle_reply ho with ⟨code, message, rfl⟩ | ⟨clientMonoMs, rfl⟩
          · exact .inr rfl
          · exact .inl rfl
      · exact .same
  | chatted k' r =>
      unfold step
      dsimp only
      split
      · rename_i f hstage
        exact side_chatted hstage r k
      · exact .same
  | submit k' =>
      unfold step
      dsimp only
      split
      · rename_i f c hstage
        split_ifs
        · exact side_submit hstage _ k
        · exact .same
      · exact .same
  | actorDone k' =>
      unfold step
      dsimp only
      split
      · rename_i f hf
        split_ifs with hstop
        · by_cases hk : k = k'
          · subst hk
            obtain ⟨replies, hanswer, hside⟩ :=
              side_respond k f (.error (.rooms .roomClosed)) s
            rw [hside]
            exact .gaveUp f replies (commanding_eq_some hf) (.inl hstop) hanswer
          · rw [side_setLink_ne hk]
            exact .same
        · exact .same
      · exact .same
  | ctxDone k' message =>
      unfold step
      dsimp only
      split
      · rename_i f hf
        split_ifs with hcancelled
        · by_cases hk : k = k'
          · subst hk
            obtain ⟨replies, hanswer, hside⟩ := side_respond k f (.error (.other message)) s
            rw [hside]
            exact .gaveUp f replies (commanding_eq_some hf) (.inr hcancelled) hanswer
          · rw [side_setLink_ne hk]
            exact .same
        · exact .same
      · exact .same
  | receive k' =>
      unfold step
      dsimp only
      split
      · rename_i f t r hstage
        by_cases hk : k = k'
        · subst hk
          obtain ⟨replies, hanswer, hside⟩ := side_respond k f (failure r) s
          rw [hside]
          exact .received f t r replies hstage hanswer
        · rw [side_setLink_ne hk]
          exact .same
      · exact .same
  | turn env => exact side_turn P env hasks k
  | post m =>
      unfold step
      dsimp only
      split_ifs
      · exact side_post m k
      · exact .same
  | push k' e =>
      unfold step
      dsimp only
      by_cases hk : k = k'
      · subst hk
        refine Eq.mpr (congrArg (SideStep _) ?_) .same
        rw [side_setLink]
        rcases send_cases (.room e) (s.links k) with h | h
        · rw [h]
          rfl
        · rw [h]
          unfold side replies
          dsimp only
          congr 1
          rw [← List.append_assoc, List.filterMap_append]
          exact List.append_nil _
      · rw [side_setLink_ne hk]
        exact .same
  | write k' =>
      unfold step
      dsimp only
      split
      · exact .same
      · rename_i o rest hout
        split_ifs
        · exact .same
        · by_cases hk : k = k'
          · subst hk
            refine Eq.mpr (congrArg (SideStep _) ?_) .same
            rw [side_setLink]
            unfold side replies
            dsimp only
            congr 1
            rw [hout, ← List.append_assoc, List.append_assoc _ [o] rest]
            rfl
          · rw [side_setLink_ne hk]
            exact .same
  | cancel k' =>
      unfold step
      dsimp only
      by_cases hk : k = k'
      · subst hk
        rw [side_setLink]
        exact .cancelled
      · rw [side_setLink_ne hk]
        exact .same
  | fail k' =>
      unfold step
      dsimp only
      split
      · rename_i hstage
        by_cases hk : k = k'
        · subst hk
          rw [side_setLink]
          exact .failed hstage
        · rw [side_setLink_ne hk]
          exact .same
      · exact .same

end State

end WatchTogether.Realtime.Exchange

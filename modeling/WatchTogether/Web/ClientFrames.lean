/-
  WatchTogether.Web.ClientFrames

  The frames that a `WebSocketClient` has put on its sockets: each carries an id of its own,
  and a promise that waits for an acknowledgement has one of them behind it.
-/

import WatchTogether.Web.ClientLifecycle

namespace WatchTogether.Web

namespace Page

variable {uuid : Nat ↪ String} {s s' s'' : Page}

-- ============================================================================
-- What sends nothing
-- ============================================================================

/-- `s'` has the frames, the promises and the message in hand of `s`. -/
structure Mute (s s' : Page) : Prop where
  frames : s'.frames = s.frames
  uuids : s'.uuids = s.uuids
  promises : s'.promises = s.promises
  handling : s'.handling = s.handling

theorem Mute.refl (s : Page) : Mute s s := ⟨rfl, rfl, rfl, rfl⟩

theorem Mute.trans (h : Mute s s') (h' : Mute s' s'') : Mute s s'' :=
  ⟨h'.frames.trans h.frames, h'.uuids.trans h.uuids, h'.promises.trans h.promises,
    h'.handling.trans h.handling⟩

theorem mute_openSocket (s : Page) : Mute s s.openSocket := by
  unfold openSocket
  split_ifs
  · exact .refl s
  · exact ⟨rfl, rfl, rfl, rfl⟩

theorem mute_connect (s : Page) : Mute s s.connect := by
  unfold connect
  split_ifs
  · obtain ⟨hframes, huuids, hpromises, hhandling⟩ :=
      mute_openSocket { s with client := { s.client with stopped := false } }
    exact ⟨hframes, huuids, hpromises, hhandling⟩
  · exact .refl s

theorem mute_closeSocket (socket : Option Nat) (s : Page) : Mute s (s.closeSocket socket) := by
  cases socket with
  | none => exact .refl s
  | some k => exact ⟨rfl, rfl, rfl, rfl⟩

theorem mute_disconnect (s : Page) : Mute s s.disconnect := by
  obtain ⟨hframes, huuids, hpromises, hhandling⟩ := mute_closeSocket s.client.socket
    { s.clearTimers with client := { s.clearTimers.client with stopped := true, socket := none } }
  exact ⟨hframes, huuids, hpromises, hhandling⟩

theorem mute_onopen (k : Nat) (dateNow : ℚ) (s : Page) : Mute s (s.onopen k dateNow) := by
  unfold onopen
  split_ifs
  · exact .refl s
  · exact ⟨rfl, rfl, rfl, rfl⟩

theorem mute_lost (code : Nat) (reason : String) (random : ℚ) (s : Page) :
    Mute s (s.lost code reason random) := by
  unfold lost
  split_ifs
  · exact .refl s
  · dsimp only
    cases terminal code reason with
    | none => exact ⟨rfl, rfl, rfl, rfl⟩
    | some status => exact ⟨rfl, rfl, rfl, rfl⟩

-- ============================================================================
-- One step
-- ============================================================================

/-- A call of `send`, after something that sends nothing. -/
def Sends (uuid : Nat ↪ String) (s s' : Page) : Prop :=
  ∃ s₀ type payload ack, Mute s s₀ ∧ s' = s₀.send uuid type payload ack

theorem fire_sends (uuid : Nat ↪ String) (t : Nat) (s : Page) :
    Mute s (s.fire uuid t) ∨ Sends uuid s (s.fire uuid t) := by
  unfold fire
  cases hlive : s.timers.live t with
  | none => exact .inl (.refl s)
  | some x =>
      obtain ⟨due, callback⟩ := x
      dsimp only
      by_cases hearly : s.now < due
      · rw [if_pos hearly]
        exact .inl (.refl s)
      rw [if_neg hearly]
      cases callback with
      | resync => exact .inl ⟨rfl, rfl, rfl, rfl⟩
      | reconnect =>
          obtain ⟨hframes, huuids, hpromises, hhandling⟩ :=
            mute_openSocket { s with timers := s.timers.clear t }
          exact .inl ⟨hframes, huuids, hpromises, hhandling⟩
      | stable k =>
          dsimp only
          rcases run_stable uuid k { s with timers := s.timers.clear t } with heq | ⟨-, heq⟩
          · rw [heq]
            exact .inl ⟨rfl, rfl, rfl, rfl⟩
          · rw [heq]
            exact .inl ⟨rfl, rfl, rfl, rfl⟩
      | ack requestId promise => exact .inl ⟨rfl, rfl, rfl, rfl⟩
      | sample =>
          refine .inr ⟨{ s with
            timers := s.timers.clear t
            client := { s.client with clock := (s.client.clock.pingPayload s.now).1 } }, _, _, _,
            ⟨rfl, rfl, rfl, rfl⟩, rfl⟩

/-- The message that a task leaves in hand. -/
def Takes (s s' : Page) (value : Option Json) : Prop :=
  s'.frames = s.frames ∧ s'.uuids = s.uuids ∧ s'.promises = s.promises ∧
    (s'.handling = s.handling ∨ s'.handling = parseEnvelope value)

theorem takes_receive (value : Option Json) (s : Page) : Takes s (s.receive value) value := by
  unfold receive
  split
  · exact ⟨rfl, rfl, rfl, .inl rfl⟩
  · rename_i message hmessage
    split
    · exact ⟨rfl, rfl, rfl, .inl rfl⟩
    · rename_i s' hpong
      unfold pong at hpong
      split_ifs at hpong
      · obtain ⟨payload, -, rfl⟩ := Option.map_eq_some_iff.mp hpong
        exact ⟨rfl, rfl, rfl, .inr hmessage.symm⟩
      · obtain rfl := Option.some.inj hpong
        exact ⟨rfl, rfl, rfl, .inr hmessage.symm⟩

theorem mute_settle (message : Envelope) (s : Page) : Mute s (s.settle message) := by
  rcases settle_cases message s with h | ⟨id, p, result, -, -, -, h⟩
  · rw [h]
    exact .refl s
  · rw [h]
    exact ⟨rfl, rfl, rfl, rfl⟩

/-- After the listeners no message is in hand. -/
theorem finish_mute (throws : Bool) (s : Page) :
    (s.finish throws).frames = s.frames ∧ (s.finish throws).uuids = s.uuids ∧
      (s.finish throws).promises = s.promises ∧ (s.finish throws).handling = none := by
  unfold finish
  split
  · rename_i hnone
    exact ⟨rfl, rfl, rfl, hnone⟩
  · rename_i message _
    cases throws with
    | true => exact ⟨rfl, rfl, rfl, rfl⟩
    | false =>
        obtain ⟨hframes, huuids, hpromises, hhandling⟩ :=
          mute_settle message { s with handling := none }
        exact ⟨hframes, huuids, hpromises, hhandling⟩

/-- What a step that sends nothing keeps; only a message is taken in hand. -/
structure Keeps (e : Event) (s s' : Page) : Prop where
  frames : s'.frames = s.frames
  uuids : s'.uuids = s.uuids
  promises : s'.promises = s.promises
  handling : s'.handling = s.handling ∨ s'.handling = none ∨
    ∃ k value, e = .message k value ∧ s'.handling = parseEnvelope value

theorem Mute.keeps (h : Mute s s') (e : Event) : Keeps e s s' :=
  ⟨h.frames, h.uuids, h.promises, .inl h.handling⟩

/-- A step calls `send` once, or sends nothing. -/
theorem step_sends (uuid : Nat ↪ String) (s : Page) (e : Event) :
    Sends uuid s (s.step uuid e) ∨ Keeps e s (s.step uuid e) := by
  unfold Page.step
  split_ifs
  · exact .inr ((Mute.refl s).keeps e)
  cases e with
  | call c =>
      cases c with
      | connect => exact .inr ((mute_connect s).keeps _)
      | disconnect => exact .inr ((mute_disconnect s).keeps _)
      | send type payload ack => exact .inl ⟨s, type, payload, ack, .refl s, rfl⟩
  | heard throws =>
      obtain ⟨hframes, huuids, hpromises, hhandling⟩ := finish_mute throws s
      exact .inr ⟨hframes, huuids, hpromises, .inr (.inl hhandling)⟩
  | opened k dateNow =>
      refine .inr (Mute.keeps ?_ _)
      rw [Page.task]
      split_ifs
      · obtain ⟨hframes, huuids, hpromises, hhandling⟩ := mute_onopen k dateNow (s.setReady k .open)
        exact ⟨hframes, huuids, hpromises, hhandling⟩
      · exact .refl s
  | message k value =>
      rw [Page.task]
      split_ifs
      · obtain ⟨hframes, huuids, hpromises, hhandling⟩ := takes_receive value s
        refine .inr ⟨hframes, huuids, hpromises, ?_⟩
        rcases hhandling with h | h
        · exact .inl h
        · exact .inr (.inr ⟨k, value, rfl, h⟩)
      · exact .inr ((Mute.refl s).keeps _)
  | closing k => exact .inr ((mute_closeSocket (some k) s).keeps _)
  | closed k code reason random =>
      refine .inr (Mute.keeps ?_ _)
      rw [Page.task]
      dsimp only
      split_ifs
      · exact .refl s
      · obtain ⟨hframes, huuids, hpromises, hhandling⟩ :=
          mute_lost code reason random (s.dropped k)
        exact ⟨hframes, huuids, hpromises, hhandling⟩
      · exact ⟨rfl, rfl, rfl, rfl⟩
  | errored k =>
      refine .inr (Mute.keeps ?_ _)
      rw [Page.task]
      split_ifs
      · exact mute_closeSocket (some k) s
      · exact .refl s
  | fired t =>
      rcases fire_sends uuid t s with h | h
      · exact .inr (h.keeps _)
      · exact .inl h
  | elapsed time => exact .inr ⟨rfl, rfl, rfl, .inl rfl⟩

-- ============================================================================
-- The frames of a page
-- ============================================================================

/-- The frames carry the ids in the order in which they were made up, and every promise that
    waits for an acknowledgement has its frame. -/
structure Posted (uuid : Nat ↪ String) (s : Page) : Prop where
  numbered : s.frames.map (fun f => f.2.requestId) = (List.range s.uuids).map uuid
  awaited : ∀ (i : Nat) r k t, s.promises[i]? = some (.awaiting r k t) →
    ∃ f, (k, f) ∈ s.frames ∧ f.requestId = r

theorem posted_start (dateNow : ℚ) : Posted uuid (start dateNow) :=
  ⟨rfl, fun i r k t h => by cases h⟩

theorem Posted.same (h : Posted uuid s) (hframes : s'.frames = s.frames)
    (huuids : s'.uuids = s.uuids) (hpromises : s'.promises = s.promises) : Posted uuid s' := by
  constructor
  · rw [hframes, huuids]
    exact h.numbered
  · rw [hframes, hpromises]
    exact h.awaited

/-- `send` keeps the frames there are, and adds at most one. -/
theorem frames_send (uuid : Nat ↪ String) (type : String) (payload : Json) (ack : Bool) (s : Page) :
    ((s.send uuid type payload ack).frames = s.frames ∧
      (s.send uuid type payload ack).uuids = s.uuids ∧
      (s.send uuid type payload ack).promises = s.promises ++ [.refused ack]) ∨
    ∃ k x, (s.send uuid type payload ack).frames
        = s.frames ++ [(k, ⟨type, uuid s.uuids, payload⟩)] ∧
      (s.send uuid type payload ack).uuids = s.uuids + 1 ∧
      (s.send uuid type payload ack).promises = s.promises ++ [x] ∧
      ∀ r k' t, x = .awaiting r k' t → k' = k ∧ r = uuid s.uuids := by
  unfold Page.send
  split
  · exact .inl ⟨rfl, rfl, rfl⟩
  · rename_i k _
    cases ack with
    | false => exact .inr ⟨k, _, rfl, rfl, rfl, fun _ _ _ h => by cases h⟩
    | true =>
        refine .inr ⟨k, _, rfl, rfl, rfl, ?_⟩
        intro r k' t h
        cases h
        exact ⟨rfl, rfl⟩

theorem Posted.send (h : Posted uuid s) (type : String) (payload : Json) (ack : Bool) :
    Posted uuid (s.send uuid type payload ack) := by
  rcases frames_send uuid type payload ack s with
    ⟨hframes, huuids, hpromises⟩ | ⟨k, x, hframes, huuids, hpromises, hx⟩
  · refine ⟨by rw [hframes, huuids]; exact h.numbered, ?_⟩
    intro i r k t hi
    rw [hpromises] at hi
    rw [hframes]
    rcases getElem?_snoc.mp hi with hi | ⟨-, hnew⟩
    · exact h.awaited i r k t hi
    · cases hnew
  · constructor
    · rw [hframes, huuids, List.map_append, h.numbered, List.range_succ, List.map_append]
      rfl
    · intro i r k' t hi
      rw [hpromises] at hi
      rw [hframes]
      rcases getElem?_snoc.mp hi with hi | ⟨-, hnew⟩
      · obtain ⟨f, hf, hid⟩ := h.awaited i r k' t hi
        exact ⟨f, List.mem_append_left _ hf, hid⟩
      · obtain ⟨rfl, rfl⟩ := hx r k' t hnew
        exact ⟨_, List.mem_append_right _ (List.mem_singleton_self _), rfl⟩

theorem Posted.step (h : Posted uuid s) (e : Event) : Posted uuid (s.step uuid e) := by
  rcases step_sends uuid s e with ⟨s₀, type, payload, ack, hmute, heq⟩ |
    hkeeps
  · rw [heq]
    exact (h.same hmute.frames hmute.uuids hmute.promises).send type payload ack
  · exact h.same hkeeps.frames hkeeps.uuids hkeeps.promises

/-- No two frames carry the same id. -/
theorem Posted.nodup (h : Posted uuid s) : (s.frames.map (fun f => f.2.requestId)).Nodup := by
  rw [h.numbered]
  exact List.nodup_range.map uuid.injective

/-- A step only appends to the frames. -/
theorem frames_step (uuid : Nat ↪ String) (s : Page) (e : Event) :
    s.frames <+: (s.step uuid e).frames := by
  rcases step_sends uuid s e with ⟨s₀, type, payload, ack, hmute, heq⟩ | hkeeps
  · rw [heq]
    rcases frames_send uuid type payload ack s₀ with ⟨hframes, -, -⟩ | ⟨k, x, hframes, -⟩
    · exact (hframes.trans hmute.frames) ▸ List.prefix_rfl
    · rw [hframes, hmute.frames]
      exact List.prefix_append _ _
  · exact hkeeps.frames ▸ List.prefix_rfl

/-- A step only appends to the promises. -/
theorem promises_step (uuid : Nat ↪ String) (s : Page) (e : Event) :
    s.promises <+: (s.step uuid e).promises := by
  rcases step_sends uuid s e with ⟨s₀, type, payload, ack, hmute, heq⟩ | hkeeps
  · rw [heq]
    rcases frames_send uuid type payload ack s₀ with ⟨-, -, hpromises⟩ | ⟨k, x, -, -, hpromises, -⟩
    · rw [hpromises, hmute.promises]
      exact List.prefix_append _ _
    · rw [hpromises, hmute.promises]
      exact List.prefix_append _ _
  · exact hkeeps.promises ▸ List.prefix_rfl

/-- What is in hand after a step was in hand before, or has just arrived. -/
theorem handling_of_step {e : Event} {m : Envelope} (h : (s.step uuid e).handling = some m) :
    s.handling = some m ∨ ∃ k value, e = .message k value ∧ parseEnvelope value = some m := by
  rcases step_sends uuid s e with ⟨s₀, type, payload, ack, hmute, heq⟩ | hkeeps
  · rw [heq, handling_send, hmute.handling] at h
    exact .inl h
  · rcases hkeeps.handling with hsame | hnone | ⟨k, value, he, hnew⟩
    · exact .inl (hsame ▸ h)
    · rw [hnone] at h
      cases h
    · exact .inr ⟨k, value, he, hnew ▸ h⟩

end Page

end WatchTogether.Web

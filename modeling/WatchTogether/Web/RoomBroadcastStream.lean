/-
  WatchTogether.Web.RoomBroadcastStream

  `RoomBroadcastStream` (`web/src/realtime/RoomBroadcastStream.ts`): live messages go to the
  listeners that are subscribed when they arrive, once each, and a message whose id is among
  the recent ones goes to nobody.

  The listeners neither throw nor call the stream.  `T` is the type of time; the clock may be
  any, and its reading is an argument of `receive`.
-/

import WatchTogether.Lib.InsertionSet
import WatchTogether.Web.ChatLog

namespace WatchTogether.Web

open LabelledRun

/-- `BROADCAST_LIFETIME_MS`. -/
def broadcastLifetimeMs {T : Type} [OfNat T 8000] : T := 8000

/-- `LiveBroadcast`: a chat message on the screen, with its lifetime. -/
structure LiveBroadcast (T : Type) where
  id : String
  author : String
  content : String
  receivedAtMs : T
  expiresAtMs : T
deriving DecidableEq

/-- `Λ` are the listeners. -/
structure RoomBroadcastStream (Λ : Type) where
  listeners : InsertionSet Λ
  seen : InsertionSet String

namespace RoomBroadcastStream

variable {Λ T : Type}

/-- A new stream. -/
def new : RoomBroadcastStream Λ := ⟨∅, ∅⟩

section Methods

variable [DecidableEq Λ]

/-- `subscribe`. -/
def subscribe (listener : Λ) (s : RoomBroadcastStream Λ) : RoomBroadcastStream Λ :=
  { s with listeners := s.listeners.add listener }

/-- The function that `subscribe` returns. -/
def unsubscribe (listener : Λ) (s : RoomBroadcastStream Λ) : RoomBroadcastStream Λ :=
  { s with listeners := s.listeners.delete listener }

end Methods

/-- What comes of a call of `receive`: its result, the calls of listeners in their order, and
    the stream. -/
structure Receipt (Λ T : Type) where
  accepted : Bool
  calls : List (Λ × LiveBroadcast T)
  stream : RoomBroadcastStream Λ

section Receive

variable [Add T] [OfNat T 8000]

/-- The broadcast of a message that arrives at `now`. -/
def broadcastOf (now : T) (message : ChatMessage) : LiveBroadcast T where
  id := message.id
  author := message.senderNickname
  content := message.content
  receivedAtMs := now
  expiresAtMs := now + broadcastLifetimeMs

/-- `receive`. -/
def receive (now : T) (message : ChatMessage) (s : RoomBroadcastStream Λ) : Receipt Λ T :=
  if message.id ∈ s.seen then ⟨false, [], s⟩
  else
    ⟨true, s.listeners.elems.map (fun listener => (listener, broadcastOf now message)),
      { s with seen := s.seen.addBounded recentIDsLimit message.id }⟩

variable {s : RoomBroadcastStream Λ} {now : T} {message : ChatMessage}

theorem receive_seen (h : message.id ∈ s.seen) : s.receive now message = ⟨false, [], s⟩ := if_pos h

theorem receive_new (h : message.id ∉ s.seen) :
    s.receive now message =
      ⟨true, s.listeners.elems.map (fun listener => (listener, broadcastOf now message)),
        { s with seen := s.seen.addBounded recentIDsLimit message.id }⟩ := if_neg h

theorem accepted_iff : (s.receive now message).accepted = true ↔ message.id ∉ s.seen := by
  by_cases h : message.id ∈ s.seen
  · rw [receive_seen h]
    simp [h]
  · rw [receive_new h]
    simp [h]

@[simp] theorem listeners_receive :
    (s.receive now message).stream.listeners = s.listeners := by
  unfold receive
  split_ifs <;> rfl

/-- A call goes to a listener of the set, with the message that is received. -/
theorem mem_calls {c : Λ × LiveBroadcast T} (hc : c ∈ (s.receive now message).calls) :
    c.1 ∈ s.listeners ∧ c.2 = broadcastOf now message := by
  by_cases h : message.id ∈ s.seen
  · rw [receive_seen h] at hc
    exact absurd hc List.not_mem_nil
  · rw [receive_new h] at hc
    obtain ⟨listener, hl, rfl⟩ := List.mem_map.mp hc
    exact ⟨hl, rfl⟩

/-- The calls that reach one listener. -/
theorem filter_calls [DecidableEq Λ] (h : message.id ∉ s.seen) (listener : Λ) :
    (s.receive now message).calls.filter (fun c => c.1 = listener) =
      if listener ∈ s.listeners then [(listener, broadcastOf now message)] else [] := by
  rw [receive_new h, List.filter_map]
  show (s.listeners.elems.filter (fun x => x = listener)).map _ = _
  rw [InsertionSet.filter_elems]
  split_ifs <;> rfl

/-- The ids alone are those that the page's list of messages is written with. -/
theorem receive_receiveID :
    receiveID s.seen.elems message.id =
      ((s.receive now message).accepted, (s.receive now message).stream.seen.elems) := by
  unfold receiveID
  by_cases h : message.id ∈ s.seen
  · have hid : message.id ∈ s.seen.elems := h
    rw [receive_seen h, if_pos hid]
  · have hid : message.id ∉ s.seen.elems := h
    rw [receive_new h, if_neg hid]
    simp only [InsertionSet.elems_addBounded h]

end Receive

/-- A call of a method. -/
inductive Event (Λ T : Type) where
  | subscribe (listener : Λ)
  | unsubscribe (listener : Λ)
  | receive (now : T) (message : ChatMessage)

/-- The last call for the listener was to subscribe it. -/
def Subscribed (es : List (Event Λ T)) (listener : Λ) : Prop :=
  ∃ before after, es = before ++ .subscribe listener :: after ∧ .unsubscribe listener ∉ after

theorem subscribed_nil (listener : Λ) : ¬Subscribed ([] : List (Event Λ T)) listener := by
  rintro ⟨before, after, h, -⟩
  exact absurd h (by simp)

/-- An event that is no call for the listener changes nothing for it. -/
theorem subscribed_concat {es : List (Event Λ T)} {e : Event Λ T} {listener : Λ} :
    Subscribed (es ++ [e]) listener ↔
      e = .subscribe listener ∨ (Subscribed es listener ∧ e ≠ .unsubscribe listener) := by
  constructor
  · rintro ⟨before, after, h, hafter⟩
    rcases List.eq_nil_or_concat after with rfl | ⟨rest, x, rfl⟩
    · obtain ⟨-, he⟩ := List.append_inj' h rfl
      exact .inl (List.singleton_inj.mp he)
    · rw [List.concat_eq_append, ← List.cons_append, ← List.append_assoc] at h
      obtain ⟨hes, he⟩ := List.append_inj' h rfl
      obtain rfl := List.singleton_inj.mp he
      refine .inr ⟨⟨before, rest, hes, ?_⟩, ?_⟩
      · intro hmem
        exact hafter (by simp [hmem])
      · rintro rfl
        exact hafter (by simp)
  · rintro (rfl | ⟨⟨before, after, rfl, hafter⟩, he⟩)
    · exact ⟨es, [], rfl, List.not_mem_nil⟩
    · refine ⟨before, after ++ [e], by simp, ?_⟩
      intro hmem
      rcases List.mem_append.mp hmem with hold | hnew
      · exact hafter hold
      · exact he (List.mem_singleton.mp hnew).symm

variable [DecidableEq Λ] [Add T] [OfNat T 8000]

/-- The stream after the event. -/
def step (s : RoomBroadcastStream Λ) : Event Λ T → RoomBroadcastStream Λ
  | .subscribe listener => s.subscribe listener
  | .unsubscribe listener => s.unsubscribe listener
  | .receive now message => (s.receive now message).stream

/-- The calls of listeners that an event makes. -/
def calls (s : RoomBroadcastStream Λ) : Event Λ T → List (Λ × LiveBroadcast T)
  | .receive now message => (s.receive now message).calls
  | _ => []

/-- The id of a message for which `receive` returns true. -/
def accepted (s : RoomBroadcastStream Λ) : Event Λ T → List String
  | .receive now message => if (s.receive now message).accepted then [message.id] else []
  | _ => []

/-- The ids for which `receive` has returned true. -/
def acceptedIDs (es : List (Event Λ T)) : List String := history step accepted new es

-- ============================================================================
-- The invariant
-- ============================================================================

variable {s : RoomBroadcastStream Λ}

/-- `seen` is the window of the accepted ids. -/
theorem window_step {ids : List String} (h : s.seen.IsWindow recentIDsLimit ids) (e : Event Λ T) :
    (s.step e).seen.IsWindow recentIDsLimit (ids ++ s.accepted e) := by
  cases e with
  | subscribe listener => simpa [step, accepted, subscribe] using h
  | unsubscribe listener => simpa [step, accepted, unsubscribe] using h
  | receive now message =>
      by_cases hseen : message.id ∈ s.seen
      · rw [step, accepted, receive_seen hseen]
        simpa using h
      · rw [step, accepted, receive_new hseen]
        exact h.addBounded hseen

theorem window_run (es : List (Event Λ T)) :
    (run step (new : RoomBroadcastStream Λ) es).seen.IsWindow recentIDsLimit (acceptedIDs es) := by
  have hstart : (new : RoomBroadcastStream Λ).seen.IsWindow recentIDsLimit [] :=
    InsertionSet.isWindow_nil recentIDsLimit
  have hrun := run_history_invariant
    (I := fun ids (s : RoomBroadcastStream Λ) => s.seen.IsWindow recentIDsLimit ids)
    (fun _ _ e h => window_step (T := T) h e) hstart es
  rw [List.nil_append] at hrun
  exact hrun

/-- `listeners` are those that are subscribed. -/
theorem mem_listeners (es : List (Event Λ T)) (listener : Λ) :
    listener ∈ (run step (new : RoomBroadcastStream Λ) es).listeners ↔ Subscribed es listener := by
  induction es using List.reverseRecOn with
  | nil => exact iff_of_false List.not_mem_nil (subscribed_nil listener)
  | append_singleton es e ih =>
      rw [run_append, subscribed_concat, ← ih]
      show listener ∈ (step (run step new es) e).listeners ↔ _
      cases e with
      | subscribe l =>
          show listener ∈ (run step new es).listeners.add l ↔ _
          rw [InsertionSet.mem_add]
          simp [eq_comm, or_comm]
      | unsubscribe l =>
          show listener ∈ (run step new es).listeners.delete l ↔ _
          rw [InsertionSet.mem_delete]
          simp [eq_comm, and_comm]
      | receive now message =>
          show listener ∈ ((run step new es).receive now message).stream.listeners ↔ _
          rw [listeners_receive]
          simp

-- ============================================================================
-- Every run
-- ============================================================================

/-- What a call of `receive` has to do after the events `es`. -/
structure Delivers (es : List (Event Λ T)) (now : T) (message : ChatMessage)
    (r : Receipt Λ T) : Prop where
  accepted_iff : r.accepted = true ↔ message.id ∉ (acceptedIDs es).rtake recentIDsLimit
  delivered : r.accepted = true → ∀ listener, Subscribed es listener →
    r.calls.filter (fun c => c.1 = listener) =
      [(listener, ⟨message.id, message.senderNickname, message.content, now,
        now + broadcastLifetimeMs⟩)]
  others : ∀ listener, ¬Subscribed es listener → ∀ c ∈ r.calls, c.1 ≠ listener
  silent : r.accepted = false → r.calls = []

/-- **Broadcast de-duplication.**  After any calls, `receive` accepts exactly the messages whose
    id is not among the last `RECENT_IDS_LIMIT` accepted ones; it calls whoever is subscribed
    once with an accepted message, and nobody with another; a listener is called in no other
    way, and no more than `RECENT_IDS_LIMIT` ids are kept. -/
theorem broadcast_window (es : List (Event Λ T)) :
    (∀ now message, Delivers es now message ((run step new es).receive now message)) ∧
    (∀ before e after, es = before ++ e :: after →
      ∀ c ∈ (run step (new : RoomBroadcastStream Λ) before).calls e, Subscribed before c.1 ∧
        ∃ now message, e = .receive now message ∧ c.2 = broadcastOf now message) ∧
    (run step (new : RoomBroadcastStream Λ) es).seen.size ≤ recentIDsLimit := by
  refine ⟨?_, ?_, (window_run es).size_le⟩
  · intro now message
    have hmem := (window_run es).mem_iff (a := message.id)
    refine ⟨accepted_iff.trans (not_congr hmem), ?_, ?_, ?_⟩
    · intro haccepted listener hsub
      rw [filter_calls (accepted_iff.mp haccepted), if_pos ((mem_listeners es listener).mpr hsub)]
      rfl
    · rintro listener hsub c hc rfl
      exact hsub ((mem_listeners es c.1).mp (mem_calls hc).1)
    · intro hrefused
      by_cases hseen : message.id ∈ (run step (new : RoomBroadcastStream Λ) es).seen
      · rw [receive_seen hseen]
      · rw [receive_new hseen] at hrefused
        cases hrefused
  · rintro before e after rfl c hc
    cases e with
    | subscribe listener => exact absurd hc List.not_mem_nil
    | unsubscribe listener => exact absurd hc List.not_mem_nil
    | receive now message =>
        obtain ⟨hl, hb⟩ := mem_calls hc
        exact ⟨(mem_listeners before c.1).mp hl, now, message, rfl, hb⟩

end RoomBroadcastStream

end WatchTogether.Web

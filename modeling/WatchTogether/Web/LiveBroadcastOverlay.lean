/-
  WatchTogether.Web.LiveBroadcastOverlay

  The overlay of live messages (`web/src/components/LiveBroadcastOverlay.tsx`): a list in
  React state, the subscription to a `RoomBroadcastStream`, and one timer that is set again
  by an effect after every render.

  A dispatched update waits until React renders; if it is the first one to wait, React may
  have computed its result ahead.  The effects of a render run some time after it, and
  before the next one.  Times are in milliseconds, and a timer drops their fractions.
-/

import Mathlib.Data.Rat.Floor
import WatchTogether.Web.RoomBroadcastStream

namespace WatchTogether.Web.LiveBroadcastOverlay

open LabelledRun

/-- A broadcast with its times. -/
abbrev Live : Type := LiveBroadcast ℚ

-- ============================================================================
-- The component
-- ============================================================================

/-- `item.expiresAtMs > stream.now()`. -/
def remaining (now : ℚ) (items : List Live) : List Live :=
  items.filter (fun item => decide (now < item.expiresAtMs))

/-- The arguments of `setActive`. -/
inductive Update where
  | clear
  | add (b : Live)
  | expire
deriving DecidableEq

/-- The list that the update makes of the current one. -/
def Update.apply (now : ℚ) : Update → List Live → List Live
  | clear, _ => []
  | add b, current => b :: remaining now current
  | expire, current => remaining now current

/-- The component: its state, what waits, and what its effects have set up. -/
structure Overlay where
  active : List Live
  /-- The updates that wait, with the results that were computed ahead. -/
  queue : List (Update × Option (List Live))
  /-- The effects of the last render have not run yet. -/
  dirty : Bool
  timer : Option ℚ
  /-- `expire` listens to `visibilitychange`. -/
  listening : Bool

/-- Nothing is shown, and nothing waits. -/
def Overlay.idle : Overlay := ⟨[], [], false, none, false⟩

/-- A call of `setActive`. -/
def Overlay.dispatch (now : ℚ) (update : Update) (ahead : Bool) (o : Overlay) : Overlay :=
  { o with
    queue := o.queue ++
      [(update, if ahead && o.queue.isEmpty then some (update.apply now o.active) else none)] }

/-- When the timer for the first deadline is due. -/
def dueAt (now : ℚ) (active : List Live) : Option ℚ :=
  (active.map (fun item => item.expiresAtMs)).min?.map (fun deadline => now + ⌊max 0 (deadline - now)⌋)

/-- The clean-up of the second effect, and its body. -/
def Overlay.rearm (now : ℚ) (o : Overlay) : Overlay :=
  { o with dirty := false, timer := dueAt now o.active, listening := !o.active.isEmpty }

/-- The effects that are still to run. -/
def Overlay.flush (now : ℚ) (o : Overlay) : Overlay := if o.dirty then o.rearm now else o

/-- One waiting update. -/
def settle (now : ℚ) (current : List Live) (e : Update × Option (List Live)) : List Live :=
  e.2.getD (e.1.apply now current)

/-- The list after the updates that wait. -/
def Overlay.pending (now : ℚ) (o : Overlay) : List Live := o.queue.foldl (settle now) o.active

/-- A render, after the effects of the last one. -/
def Overlay.render (now : ℚ) (o : Overlay) : Overlay :=
  if o.queue.isEmpty then o.flush now
  else { o.flush now with active := o.pending now, queue := [], dirty := true }

-- ============================================================================
-- The screen
-- ============================================================================

/-- The overlay with its stream, whose one listener is the overlay's, and the clock. -/
structure Screen where
  now : ℚ
  stream : RoomBroadcastStream Unit
  overlay : Overlay
  /-- What the listener was called with since it is subscribed to this stream, newest first;
      no code reads it. -/
  since : List Live

/-- What may happen to the screen. -/
inductive Label where
  | tick (t : ℚ)
  | receive (m : ChatMessage) (ahead : Bool)
  | fire (ahead : Bool)
  | visible (ahead : Bool)
  | render
  | flush
  | mount
  | unmount
  /-- The page has a new stream. -/
  | swap

namespace Screen

/-- The listener is called with the broadcast. -/
def showing (ahead : Bool) (s : Screen) (b : Live) : Screen :=
  { s with overlay := s.overlay.dispatch s.now (.add b) ahead, since := b :: s.since }

/-- The first effect, on a stream that the overlay has just got. -/
def subscribe (stream : RoomBroadcastStream Unit) (s : Screen) : Screen :=
  { s with
    stream := stream.subscribe ()
    overlay := { s.overlay with queue := s.overlay.queue ++ [(.clear, none)] }
    since := [] }

/-- One step of the browser. -/
def step (s : Screen) : Label → Screen
  | .tick t => { s with now := max s.now t }
  | .receive m ahead =>
      let receipt := s.stream.receive s.now m
      receipt.calls.foldl (fun s call => s.showing ahead call.2) { s with stream := receipt.stream }
  | .fire ahead =>
      if s.overlay.timer.any (fun due => decide (due ≤ s.now)) then
        { s with overlay := { s.overlay with timer := none }.dispatch s.now .expire ahead }
      else s
  | .visible ahead =>
      if s.overlay.listening then { s with overlay := s.overlay.dispatch s.now .expire ahead }
      else s
  | .render => { s with overlay := s.overlay.render s.now }
  | .flush => { s with overlay := s.overlay.flush s.now }
  | .mount =>
      if () ∈ s.stream.listeners then s
      else { s with overlay := .idle }.subscribe s.stream
  | .unmount => { s with stream := s.stream.unsubscribe (), overlay := .idle, since := [] }
  | .swap =>
      if () ∈ s.stream.listeners then
        { s with overlay := (s.overlay.render s.now).rearm s.now }.subscribe .new
      else s

/-- Before the overlay is mounted. -/
def start : Screen := ⟨0, .new, .idle, []⟩

end Screen

-- ============================================================================
-- Lists of broadcasts
-- ============================================================================

/-- What the update makes of the list of everything that has arrived. -/
def Update.track : Update → List Live → List Live
  | clear, _ => []
  | add b, arrived => b :: arrived
  | expire, arrived => arrived

/-- `active` has everything of `arrived` that has not expired, and nothing else, in order. -/
structure Covers (now : ℚ) (arrived active : List Live) : Prop where
  order : active.Sublist arrived
  lasting : (remaining now arrived).Sublist active

theorem remaining_remaining {τ now : ℚ} (h : τ ≤ now) (items : List Live) :
    remaining τ (remaining now items) = remaining now items := by
  rw [remaining, List.filter_eq_self]
  intro b hb
  have hlate := of_decide_eq_true (List.mem_filter.mp hb).2
  exact decide_eq_true (h.trans_lt hlate)

theorem remaining_sublist {now later : ℚ} (h : now ≤ later) (items : List Live) :
    (remaining later items).Sublist (remaining now items) := by
  rw [← remaining_remaining h items]
  exact (List.filter_sublist (l := items)).filter _

theorem Covers.later {now later : ℚ} {arrived active : List Live} (h : Covers now arrived active)
    (hlater : now ≤ later) : Covers later arrived active :=
  ⟨h.order, (remaining_sublist hlater arrived).trans h.lasting⟩

/-- An update that is carried out no later than now. -/
theorem Covers.apply {now τ : ℚ} {arrived active : List Live} (h : Covers now arrived active)
    (hτ : τ ≤ now) (update : Update) : Covers now (update.track arrived) (update.apply τ active) := by
  have hkept : (remaining now arrived).Sublist (remaining τ active) := by
    rw [← remaining_remaining hτ arrived]
    exact h.lasting.filter _
  cases update with
  | clear => exact ⟨.slnil, .slnil⟩
  | expire => exact ⟨List.filter_sublist.trans h.order, hkept⟩
  | add b =>
      refine ⟨(List.filter_sublist.trans h.order).cons_cons b, ?_⟩
      show (remaining now (b :: arrived)).Sublist (b :: remaining τ active)
      rw [remaining, List.filter_cons]
      split
      · exact hkept.cons_cons b
      · exact hkept.cons b

/-- Updates that are carried out now. -/
theorem Covers.settled {now : ℚ} {arrived active : List Live} (h : Covers now arrived active)
    {queue : List (Update × Option (List Live))} (hplain : ∀ e ∈ queue, e.2 = none) :
    Covers now (queue.foldl (fun l e => e.1.track l) arrived) (queue.foldl (settle now) active) := by
  induction queue generalizing arrived active with
  | nil => exact h
  | cons e queue ih =>
      have hfirst : settle now active e = e.1.apply now active := by
        rw [settle, hplain e (List.mem_cons_self ..)]
        rfl
      rw [List.foldl_cons, List.foldl_cons, hfirst]
      exact ih (h.apply le_rfl e.1) (fun x hx => hplain x (List.mem_cons_of_mem _ hx))

/-- What has been shown of an unexpired list is the list itself. -/
theorem Covers.exact {now : ℚ} {arrived active : List Live} (h : Covers now arrived active)
    (hlive : ∀ b ∈ active, now < b.expiresAtMs) : active = remaining now arrived := by
  have hsame : remaining now active = active :=
    List.filter_eq_self.mpr (fun b hb => decide_eq_true (hlive b hb))
  have horder : active.Sublist (remaining now arrived) := by
    rw [← hsame]
    exact h.order.filter _
  exact horder.antisymm h.lasting

-- ============================================================================
-- The invariant
-- ============================================================================

/-- The timer is set for the first deadline, but for the fraction of a millisecond that it
    drops; or it has fired, and its update waits. -/
structure Armed (now : ℚ) (o : Overlay) : Prop where
  listening : o.listening = true
  fired : o.timer = none → .expire ∈ o.queue.map Prod.fst
  notLate : ∀ due, o.timer = some due → ∀ b ∈ o.active, due ≤ max now b.expiresAtMs
  notEarly : ∀ due, o.timer = some due → ∃ b ∈ o.active, b.expiresAtMs - 1 < due

/-- `arrived` is what has been rendered of what has arrived. -/
structure Good (arrived : List Live) (s : Screen) : Prop where
  since : s.since = s.overlay.queue.foldl (fun l e => e.1.track l) arrived
  covers : Covers s.now arrived s.overlay.active
  ahead : ∀ e rest, s.overlay.queue = e :: rest →
    (∀ x ∈ rest, x.2 = none) ∧
      ∀ l, e.2 = some l → ∃ τ, τ ≤ s.now ∧ l = e.1.apply τ s.overlay.active
  armed : s.overlay.dirty = false → s.overlay.active ≠ [] → Armed s.now s.overlay

/-- The first deadline is no later than any other. -/
theorem dueAt_le {now due : ℚ} {active : List Live} (h : dueAt now active = some due) {b : Live}
    (hb : b ∈ active) : due ≤ max now b.expiresAtMs := by
  obtain ⟨deadline, hmin, rfl⟩ := Option.map_eq_some_iff.mp h
  have hfirst : deadline ≤ b.expiresAtMs :=
    (List.min?_eq_some_iff.mp hmin).2 _ (List.mem_map_of_mem hb)
  have hfloor : (⌊max 0 (deadline - now)⌋ : ℚ) ≤ max 0 (deadline - now) := Int.floor_le _
  rcases le_total deadline now with hpast | hfuture
  · rw [max_eq_left (by linarith)] at hfloor
    exact le_max_of_le_left (by rw [max_eq_left (by linarith)]; linarith)
  · rw [max_eq_right (by linarith)] at hfloor
    exact le_max_of_le_right (by rw [max_eq_right (by linarith)]; linarith)

/-- It is due in the millisecond before the first deadline at the earliest. -/
theorem le_dueAt {now due : ℚ} {active : List Live} (h : dueAt now active = some due) :
    ∃ b ∈ active, b.expiresAtMs - 1 < due := by
  obtain ⟨deadline, hmin, rfl⟩ := Option.map_eq_some_iff.mp h
  obtain ⟨b, hb, rfl⟩ := List.mem_map.mp (List.min?_eq_some_iff.mp hmin).1
  have hfloor : max 0 (b.expiresAtMs - now) < (⌊max 0 (b.expiresAtMs - now)⌋ : ℚ) + 1 :=
    Int.lt_floor_add_one _
  have hdelay : b.expiresAtMs - now ≤ max 0 (b.expiresAtMs - now) := le_max_right _ _
  exact ⟨b, hb, by linarith⟩

theorem dueAt_isSome (now : ℚ) {active : List Live} (h : active ≠ []) :
    ∃ due, dueAt now active = some due := by
  rw [← Option.isSome_iff_exists, dueAt, Option.isSome_map, List.isSome_min?_iff]
  simpa using h

theorem armed_rearm {now : ℚ} {o : Overlay} (h : o.active ≠ []) : Armed now (o.rearm now) := by
  obtain ⟨due, hdue⟩ := dueAt_isSome now h
  refine ⟨?_, ?_, fun _ htimer b hb => dueAt_le htimer hb, fun _ htimer => le_dueAt htimer⟩
  · show (!o.active.isEmpty) = true
    simpa using h
  · intro hnone
    exact absurd (hdue.symm.trans hnone) (by simp)

theorem good_idle (s : Screen) : Good [] { s with overlay := .idle, since := [] } :=
  ⟨rfl, ⟨.slnil, .slnil⟩, by simp [Overlay.idle], fun _ h => absurd rfl h⟩

theorem Good.tick {arrived : List Live} {s : Screen} (h : Good arrived s) {t : ℚ} (ht : s.now ≤ t) :
    Good arrived { s with now := t } := by
  refine ⟨h.since, h.covers.later ht, ?_, ?_⟩
  · intro e rest hqueue
    obtain ⟨hplain, hahead⟩ := h.ahead e rest hqueue
    refine ⟨hplain, fun l hl => ?_⟩
    obtain ⟨τ, hτ, hresult⟩ := hahead l hl
    exact ⟨τ, hτ.trans ht, hresult⟩
  · intro hclean hactive
    have harmed := h.armed hclean hactive
    exact ⟨harmed.listening, harmed.fired,
      fun due hdue b hb => (harmed.notLate due hdue b hb).trans (max_le_max_right _ ht),
      harmed.notEarly⟩

/-- A call of `setActive`; the timer may have fired. -/
theorem Good.dispatch {arrived : List Live} {s : Screen} (h : Good arrived s) (update : Update)
    (ahead : Bool) {timer : Option ℚ}
    (htimer : timer = s.overlay.timer ∨ timer = none ∧ update = .expire) :
    Good arrived { s with
      overlay := { s.overlay with timer := timer }.dispatch s.now update ahead
      since := update.track s.since } := by
  refine ⟨?_, h.covers, ?_, ?_⟩
  · show _ = List.foldl _ _ (s.overlay.queue ++ [_])
    rw [List.foldl_append, ← h.since]
    rfl
  · intro e rest hqueue
    have hnew : s.overlay.queue ++ [(update, if ahead && s.overlay.queue.isEmpty
        then some (update.apply s.now s.overlay.active) else none)] = e :: rest := hqueue
    cases hold : s.overlay.queue with
    | nil =>
        rw [hold] at hnew
        obtain ⟨rfl, rfl⟩ := List.cons.inj hnew
        refine ⟨by simp, fun l hl => ⟨s.now, le_rfl, ?_⟩⟩
        split at hl
        · exact (Option.some.inj hl).symm
        · exact absurd hl (by simp)
    | cons e' rest' =>
        rw [hold] at hnew
        obtain ⟨rfl, rfl⟩ := List.cons.inj hnew
        obtain ⟨hplain, hahead⟩ := h.ahead e' rest' hold
        refine ⟨fun x hx => ?_, hahead⟩
        rcases List.mem_append.mp hx with hx | hx
        · exact hplain x hx
        · obtain rfl := List.mem_singleton.mp hx
          simp
  · intro hclean hactive
    have harmed := h.armed hclean hactive
    rcases htimer with rfl | ⟨rfl, rfl⟩
    · refine ⟨harmed.listening, fun hnone => ?_, harmed.notLate, harmed.notEarly⟩
      show Update.expire ∈ (s.overlay.queue ++ [_]).map Prod.fst
      rw [List.map_append]
      exact List.mem_append_left _ (harmed.fired hnone)
    · refine ⟨harmed.listening, fun _ => ?_, by simp [Overlay.dispatch], by simp [Overlay.dispatch]⟩
      show Update.expire ∈ (s.overlay.queue ++ [_]).map Prod.fst
      rw [List.map_append]
      exact List.mem_append_right _ (List.mem_singleton_self _)

theorem Good.flush {arrived : List Live} {s : Screen} (h : Good arrived s) :
    Good arrived { s with overlay := s.overlay.flush s.now } := by
  rw [Overlay.flush]
  split
  · exact ⟨h.since, h.covers, h.ahead, fun _ hactive => armed_rearm hactive⟩
  · exact h

/-- What the first waiting update makes of the list, now or ahead. -/
theorem Good.settle_head {arrived : List Live} {s : Screen} (h : Good arrived s)
    {e : Update × Option (List Live)} {rest : List (Update × Option (List Live))}
    (hqueue : s.overlay.queue = e :: rest) :
    Covers s.now (e.1.track arrived) (settle s.now s.overlay.active e) := by
  rw [settle]
  cases hresult : e.2 with
  | none => exact h.covers.apply le_rfl e.1
  | some l =>
      obtain ⟨τ, hτ, rfl⟩ := (h.ahead e rest hqueue).2 l hresult
      exact h.covers.apply hτ e.1

theorem Good.render {arrived : List Live} {s : Screen} (h : Good arrived s) :
    ∃ arrived', Good arrived' { s with overlay := s.overlay.render s.now } ∧
      (s.overlay.render s.now).queue = [] := by
  rw [Overlay.render]
  cases hqueue : s.overlay.queue with
  | nil =>
      refine ⟨arrived, ?_, ?_⟩
      · exact h.flush
      · show (s.overlay.flush s.now).queue = []
        rw [Overlay.flush]
        split
        · exact hqueue
        · exact hqueue
  | cons e rest =>
      refine ⟨rest.foldl (fun l e => e.1.track l) (e.1.track arrived), ⟨?_, ?_, ?_, ?_⟩, rfl⟩
      · show s.since = _
        rw [h.since, hqueue]
        rfl
      · show Covers s.now _ (s.overlay.pending s.now)
        rw [Overlay.pending, hqueue]
        exact (h.settle_head hqueue).settled (h.ahead e rest hqueue).1
      · intro e' rest' hnil
        exact absurd hnil (by simp)
      · intro hclean
        exact absurd hclean (by simp)

/-- An overlay that the first effect subscribes. -/
theorem Good.subscribe {arrived : List Live} {s : Screen} (h : Good arrived s)
    (stream : RoomBroadcastStream Unit) (hqueue : s.overlay.queue = []) :
    Good arrived (s.subscribe stream) := by
  refine ⟨?_, h.covers, ?_, ?_⟩
  · show ([] : List Live) = List.foldl _ _ (s.overlay.queue ++ [_])
    rw [hqueue]
    rfl
  · intro e rest heq
    have hnew : s.overlay.queue ++ [(.clear, none)] = e :: rest := heq
    rw [hqueue] at hnew
    obtain ⟨rfl, rfl⟩ := List.cons.inj hnew
    exact ⟨by simp, by simp⟩
  · intro hclean hactive
    have harmed := h.armed hclean hactive
    refine ⟨harmed.listening, fun hnone => ?_, harmed.notLate, harmed.notEarly⟩
    show Update.expire ∈ (s.overlay.queue ++ [_]).map Prod.fst
    rw [List.map_append]
    exact List.mem_append_left _ (harmed.fired hnone)

/-- The calls of the listener. -/
theorem Good.shown {arrived : List Live} (ahead : Bool) (calls : List (Unit × Live)) {s : Screen}
    (h : Good arrived s) :
    Good arrived (calls.foldl (fun s call => s.showing ahead call.2) s) := by
  induction calls generalizing s with
  | nil => exact h
  | cons call calls ih => exact ih (h.dispatch (.add call.2) ahead (.inl rfl))

/-- **Step.** -/
theorem good_step {arrived : List Live} {s : Screen} (h : Good arrived s) (l : Label) :
    ∃ arrived', Good arrived' (s.step l) := by
  cases l with
  | tick t => exact ⟨arrived, h.tick (le_max_left _ _)⟩
  | receive m ahead =>
      refine ⟨arrived, Good.shown ahead _ ?_⟩
      exact ⟨h.since, h.covers, h.ahead, h.armed⟩
  | fire ahead =>
      rw [Screen.step]
      split
      · exact ⟨arrived, h.dispatch .expire ahead (.inr ⟨rfl, rfl⟩)⟩
      · exact ⟨arrived, h⟩
  | visible ahead =>
      rw [Screen.step]
      split
      · exact ⟨arrived, h.dispatch .expire ahead (.inl rfl)⟩
      · exact ⟨arrived, h⟩
  | render =>
      obtain ⟨arrived', hgood, -⟩ := h.render
      exact ⟨arrived', hgood⟩
  | flush => exact ⟨arrived, h.flush⟩
  | mount =>
      rw [Screen.step]
      split
      · exact ⟨arrived, h⟩
      · exact ⟨[], (good_idle s).subscribe s.stream rfl⟩
  | unmount => exact ⟨[], good_idle { s with stream := s.stream.unsubscribe () }⟩
  | swap =>
      rw [Screen.step]
      split
      · obtain ⟨arrived', hgood, hqueue⟩ := h.render
        have hrearmed : Good arrived'
            { s with overlay := (s.overlay.render s.now).rearm s.now } :=
          ⟨hgood.since, hgood.covers, hgood.ahead, fun _ hactive => armed_rearm hactive⟩
        exact ⟨arrived', hrearmed.subscribe .new hqueue⟩
      · exact ⟨arrived, h⟩

-- ============================================================================
-- What has arrived
-- ============================================================================

/-- Broadcasts of the past, newest first, each with its lifetime. -/
structure Recent (now : ℚ) (items : List Live) : Prop where
  lifetime : ∀ b ∈ items, b.receivedAtMs ≤ now ∧ b.expiresAtMs = b.receivedAtMs + 8000
  newest : items.Pairwise (fun a b => b.receivedAtMs ≤ a.receivedAtMs)

theorem recent_nil (now : ℚ) : Recent now [] := ⟨by simp, .nil⟩

theorem Recent.later {now later : ℚ} {items : List Live} (h : Recent now items)
    (hlater : now ≤ later) : Recent later items :=
  ⟨fun b hb => ⟨(h.lifetime b hb).1.trans hlater, (h.lifetime b hb).2⟩, h.newest⟩

theorem Recent.cons {now : ℚ} {items : List Live} (h : Recent now items) {b : Live}
    (hnow : b.receivedAtMs = now) (hlife : b.expiresAtMs = b.receivedAtMs + 8000) :
    Recent now (b :: items) := by
  refine ⟨?_, List.pairwise_cons.mpr ⟨fun x hx => ?_, h.newest⟩⟩
  · intro x hx
    rcases List.mem_cons.mp hx with rfl | hx
    · exact ⟨hnow.le, hlife⟩
    · exact h.lifetime x hx
  · rw [hnow]
    exact (h.lifetime x hx).1

theorem recent_shown (now : ℚ) (ahead : Bool) {calls : List (Unit × Live)} {s : Screen}
    (hs : s.now = now) (h : Recent s.now s.since)
    (hcalls : ∀ c ∈ calls, c.2.receivedAtMs = now ∧ c.2.expiresAtMs = c.2.receivedAtMs + 8000) :
    Recent (calls.foldl (fun s call => s.showing ahead call.2) s).now
      (calls.foldl (fun s call => s.showing ahead call.2) s).since := by
  induction calls generalizing s with
  | nil => exact h
  | cons call calls ih =>
      obtain ⟨hnow, hlife⟩ := hcalls call (List.mem_cons_self ..)
      exact ih (s := s.showing ahead call.2) hs (h.cons (hnow.trans hs.symm) hlife)
        (fun c hc => hcalls c (List.mem_cons_of_mem _ hc))

theorem recent_step {s : Screen} (h : Recent s.now s.since) (l : Label) :
    Recent (s.step l).now (s.step l).since := by
  cases l with
  | tick t => exact h.later (le_max_left _ _)
  | receive m ahead =>
      refine recent_shown s.now ahead rfl h ?_
      intro c hc
      rw [(RoomBroadcastStream.mem_calls hc).2]
      exact ⟨rfl, rfl⟩
  | fire ahead =>
      rw [Screen.step]
      split
      · exact h
      · exact h
  | visible ahead =>
      rw [Screen.step]
      split
      · exact h
      · exact h
  | render | flush => exact h
  | mount =>
      rw [Screen.step]
      split
      · exact h
      · exact recent_nil _
  | unmount => exact recent_nil _
  | swap =>
      rw [Screen.step]
      split
      · exact recent_nil _
      · exact h

-- ============================================================================
-- After a visibility event
-- ============================================================================

theorem remaining_mono {now later : ℚ} (h : now ≤ later) {items items' : List Live}
    (hitems : items.Sublist items') : (remaining later items).Sublist (remaining now items') :=
  (remaining_sublist h items).trans (hitems.filter _)

/-- An update that is carried out later leaves no more. -/
theorem settle_mono {now later : ℚ} (h : now ≤ later) {current current' : List Live}
    (hcurrent : current.Sublist current') (e : Update × Option (List Live)) :
    (settle later current e).Sublist (settle now current' e) := by
  obtain ⟨update, result⟩ := e
  cases result with
  | some l => exact List.Sublist.refl l
  | none =>
      cases update with
      | clear => exact .slnil
      | add b => exact (remaining_mono h hcurrent).cons_cons b
      | expire => exact remaining_mono h hcurrent

theorem pending_mono {now later : ℚ} (h : now ≤ later) (o : Overlay) :
    (o.pending later).Sublist (o.pending now) := by
  have hfold : ∀ (queue : List (Update × Option (List Live))) {current current' : List Live},
      current.Sublist current' →
        (queue.foldl (settle later) current).Sublist (queue.foldl (settle now) current') := by
    intro queue
    induction queue with
    | nil => exact fun hcurrent => hcurrent
    | cons e queue ih => exact fun hcurrent => ih (settle_mono h hcurrent e)
  exact hfold o.queue (List.Sublist.refl _)

/-- A call of `setActive` changes what waits as it would change what is shown. -/
theorem pending_dispatch (now : ℚ) (update : Update) (ahead : Bool) (o : Overlay) :
    (o.dispatch now update ahead).pending now = update.apply now (o.pending now) := by
  have hlast : (o.dispatch now update ahead).pending now = settle now (o.pending now)
      (update, if ahead && o.queue.isEmpty then some (update.apply now o.active) else none) := by
    rw [Overlay.pending, Overlay.dispatch, List.foldl_append]
    rfl
  rw [hlast, settle]
  split_ifs with hahead
  · obtain ⟨-, hempty⟩ := Bool.and_eq_true_iff.mp hahead
    have hnone : o.queue = [] := List.isEmpty_iff.mp hempty
    rw [Overlay.pending, hnone]
    rfl
  · rfl

theorem pending_flush (now : ℚ) (o : Overlay) : (o.flush now).pending now = o.pending now := by
  rw [Overlay.flush]
  split <;> rfl

/-- A render shows what waited. -/
theorem active_render (now : ℚ) (o : Overlay) : (o.render now).active = o.pending now := by
  rw [Overlay.render]
  cases hqueue : o.queue with
  | nil =>
      show (o.flush now).active = o.pending now
      rw [Overlay.pending, hqueue, Overlay.flush]
      split <;> rfl
  | cons e rest => rfl

theorem pending_render (now : ℚ) (o : Overlay) : (o.render now).pending now = o.pending now := by
  rw [Overlay.render]
  cases hqueue : o.queue with
  | nil => exact pending_flush now o
  | cons e rest => rfl

theorem pending_subscribe (now : ℚ) (stream : RoomBroadcastStream Unit) (s : Screen) :
    (s.subscribe stream).overlay.pending now = [] := by
  rw [Overlay.pending, Screen.subscribe, List.foldl_append]
  rfl

/-- What waits has been live at the time. -/
def Lasts (t : ℚ) (s : Screen) : Prop := ∀ b ∈ s.overlay.pending s.now, t < b.expiresAtMs

theorem Lasts.dispatch {t : ℚ} {s : Screen} (h : Lasts t s) (update : Update) (ahead : Bool)
    (timer : Option ℚ) (since : List Live) (hadd : ∀ b, update = .add b → t < b.expiresAtMs) :
    Lasts t { s with
      overlay := { s.overlay with timer := timer }.dispatch s.now update ahead, since := since } := by
  have hpending : ({ s.overlay with timer := timer }.dispatch s.now update ahead).pending s.now
      = update.apply s.now (s.overlay.pending s.now) := pending_dispatch s.now update ahead _
  intro b hb
  replace hb : b ∈ update.apply s.now (s.overlay.pending s.now) := hpending ▸ hb
  cases update with
  | clear => exact absurd hb List.not_mem_nil
  | expire => exact h b (List.mem_of_mem_filter hb)
  | add new =>
      rcases List.mem_cons.mp hb with rfl | hold
      · exact hadd b rfl
      · exact h b (List.mem_of_mem_filter hold)

/-- The calls of the listener, with broadcasts that live on. -/
theorem Lasts.shown {t : ℚ} (ahead : Bool) {calls : List (Unit × Live)} {s : Screen}
    (h : Lasts t s) (hcalls : ∀ c ∈ calls, t < c.2.expiresAtMs) :
    Lasts t (calls.foldl (fun s call => s.showing ahead call.2) s) := by
  induction calls generalizing s with
  | nil => exact h
  | cons call calls ih =>
      have hnew : ∀ b, Update.add call.2 = .add b → t < b.expiresAtMs := by
        rintro b hb
        obtain rfl := Update.add.inj hb
        exact hcalls call (List.mem_cons_self ..)
      exact ih (h.dispatch (.add call.2) ahead s.overlay.timer (call.2 :: s.since) hnew)
        (fun c hc => hcalls c (List.mem_cons_of_mem _ hc))

/-- **Step.**  Nothing that waits has expired by a time of the past. -/
theorem lasts_step {t : ℚ} {s : Screen} (ht : t ≤ s.now) (h : Lasts t s) (l : Label) :
    Lasts t (s.step l) := by
  cases l with
  | tick t' => exact fun b hb => h b ((pending_mono (le_max_left _ _) s.overlay).subset hb)
  | receive m ahead =>
      refine Lasts.shown ahead (s := { s with stream := (s.stream.receive s.now m).stream }) h ?_
      intro c hc
      rw [(RoomBroadcastStream.mem_calls hc).2]
      show t < s.now + 8000
      linarith
  | fire ahead =>
      rw [Screen.step]
      split
      · exact h.dispatch .expire ahead none s.since (by simp)
      · exact h
  | visible ahead =>
      rw [Screen.step]
      split
      · exact h.dispatch .expire ahead s.overlay.timer s.since (by simp)
      · exact h
  | render => exact fun b hb => h b (pending_render s.now s.overlay ▸ hb)
  | flush => exact fun b hb => h b (pending_flush s.now s.overlay ▸ hb)
  | mount =>
      rw [Screen.step]
      split
      · exact h
      · intro b hb
        rw [pending_subscribe] at hb
        exact absurd hb List.not_mem_nil
  | unmount => exact fun b hb => absurd hb List.not_mem_nil
  | swap =>
      rw [Screen.step]
      split
      · intro b hb
        rw [pending_subscribe] at hb
        exact absurd hb List.not_mem_nil
      · exact h

/-- The listener changes neither the clock nor what is shown. -/
theorem shown_frame (ahead : Bool) (calls : List (Unit × Live)) (s : Screen) :
    (calls.foldl (fun s call => s.showing ahead call.2) s).now = s.now ∧
      (calls.foldl (fun s call => s.showing ahead call.2) s).overlay.active = s.overlay.active := by
  induction calls generalizing s with
  | nil => exact ⟨rfl, rfl⟩
  | cons call calls ih => exact ih (s.showing ahead call.2)

theorem now_step (s : Screen) (l : Label) : s.now ≤ (s.step l).now := by
  cases l with
  | tick t => exact le_max_left _ _
  | receive m ahead => exact (shown_frame ahead _ _).1.ge
  | fire ahead | visible ahead | mount | swap =>
      rw [Screen.step]
      split <;> exact le_rfl
  | render | flush | unmount => exact le_rfl

/-- Only a render changes what is shown. -/
theorem active_step (s : Screen) (l : Label) :
    (s.step l).overlay.active = s.overlay.active ∨
      (s.step l).overlay.active = s.overlay.pending s.now ∨ (s.step l).overlay.active = [] := by
  cases l with
  | tick t => exact .inl rfl
  | receive m ahead => exact .inl (shown_frame ahead _ _).2
  | fire ahead | visible ahead =>
      rw [Screen.step]
      split <;> exact .inl rfl
  | render => exact .inr (.inl (active_render s.now s.overlay))
  | flush =>
      refine .inl ?_
      show (s.overlay.flush s.now).active = _
      rw [Overlay.flush]
      split <;> rfl
  | mount =>
      rw [Screen.step]
      split
      · exact .inl rfl
      · exact .inr (.inr rfl)
  | unmount => exact .inr (.inr rfl)
  | swap =>
      rw [Screen.step]
      split
      · exact .inr (.inl (active_render s.now s.overlay))
      · exact .inl rfl

/-- Neither what waits nor what is shown had expired by a time of the past. -/
structure Awake (t : ℚ) (s : Screen) : Prop where
  past : t ≤ s.now
  pending : Lasts t s
  active : ∀ b ∈ s.overlay.active, t < b.expiresAtMs

theorem Awake.step {t : ℚ} {s : Screen} (h : Awake t s) (l : Label) : Awake t (s.step l) := by
  refine ⟨h.past.trans (now_step s l), lasts_step h.past h.pending l, ?_⟩
  intro b hb
  rcases active_step s l with hsame | hpending | hnone
  · exact h.active b (hsame ▸ hb)
  · exact h.pending b (hpending ▸ hb)
  · rw [hnone] at hb
    exact absurd hb List.not_mem_nil

/-- A render shows what has not expired by the time. -/
theorem awake_render {t : ℚ} {s : Screen} (ht : t ≤ s.now) (h : Lasts t s) :
    Awake t (s.step .render) :=
  ⟨ht, lasts_step ht h .render, fun b hb => h b (active_render s.now s.overlay ▸ hb)⟩

/-- The event drops what has expired. -/
theorem lasts_visible {s : Screen} (hlistening : s.overlay.listening = true) (ahead : Bool) :
    Lasts s.now (s.step (.visible ahead)) := by
  rw [Screen.step, if_pos hlistening]
  intro b hb
  have hpending : (s.overlay.dispatch s.now .expire ahead).pending s.now
      = remaining s.now (s.overlay.pending s.now) := pending_dispatch s.now .expire ahead s.overlay
  replace hb : b ∈ remaining s.now (s.overlay.pending s.now) := hpending ▸ hb
  exact of_decide_eq_true (List.mem_filter.mp hb).2

theorem lasts_run {t : ℚ} {s : Screen} (ht : t ≤ s.now) (h : Lasts t s) (ls : List Label) :
    t ≤ (run Screen.step s ls).now ∧ Lasts t (run Screen.step s ls) := by
  induction ls generalizing s with
  | nil => exact ⟨ht, h⟩
  | cons l ls ih => exact ih (ht.trans (now_step s l)) (lasts_step ht h l)

theorem awake_run {t : ℚ} {s : Screen} (h : Awake t s) (ls : List Label) :
    Awake t (run Screen.step s ls) := by
  induction ls generalizing s with
  | nil => exact h
  | cons l ls ih => exact ih (h.step l)

/-- However late the render is, from then on nothing is shown that had expired by the event. -/
theorem awake_after_visible {s : Screen} (hlistening : s.overlay.listening = true) (ahead : Bool)
    (before after : List Label) :
    Awake s.now (run Screen.step (s.step (.visible ahead)) (before ++ .render :: after)) := by
  obtain ⟨hpast, hlasts⟩ :=
    lasts_run (now_step s (.visible ahead)) (lasts_visible hlistening ahead) before
  rw [run_append, run_cons]
  exact awake_run (awake_render hpast hlasts) after

-- ============================================================================
-- What is shown
-- ============================================================================

/-- Nothing waits to run. -/
structure Settled (s : Screen) : Prop where
  rendered : s.overlay.queue = []
  clean : s.overlay.dirty = false
  idle : ∀ due, s.overlay.timer = some due → s.now < due

/-- What holds after every run. -/
structure Shows (s : Screen) : Prop where
  /-- When nothing waits, the overlay shows the broadcasts that have not expired, newest
      first. -/
  exact : Settled s → s.overlay.active = remaining s.now s.since
  /-- However late timers and effects are, a broadcast is shown until it expires. -/
  lasting : s.overlay.queue = [] → Covers s.now s.since s.overlay.active
  /-- While something is shown, and once the effects have run, the timer is set for the first
      deadline, or it has fired and its update waits. -/
  armed : s.overlay.dirty = false → s.overlay.active ≠ [] → Armed s.now s.overlay
  /-- If a hidden tab is shown again while the overlay listens, then from the next render on,
      however late it is, nothing is shown that had expired by the event. -/
  awake : s.overlay.listening = true → ∀ ahead before after,
    ∀ b ∈ (run Screen.step (s.step (.visible ahead)) (before ++ .render :: after)).overlay.active,
      s.now < b.expiresAtMs
  recent : Recent s.now s.since

theorem Good.exact {arrived : List Live} {s : Screen} (h : Good arrived s) (hs : Settled s) :
    s.overlay.active = remaining s.now s.since := by
  have hsince : s.since = arrived := by
    rw [h.since, hs.rendered]
    rfl
  rw [hsince]
  refine h.covers.exact ?_
  intro b hb
  have harmed := h.armed hs.clean (List.ne_nil_of_mem hb)
  cases htimer : s.overlay.timer with
  | none =>
      have hfired := harmed.fired htimer
      rw [hs.rendered] at hfired
      exact absurd hfired List.not_mem_nil
  | some due =>
      by_contra hexpired
      have hpast := harmed.notLate due htimer b hb
      rw [max_eq_left (not_lt.mp hexpired)] at hpast
      exact absurd (hs.idle due htimer) (not_lt.mpr hpast)

/-- **The overlay.**  In every run of messages, timers, renders, effects and changes of the stream,
    the overlay shows a live broadcast for as long as it lives, and when nothing waits exactly
    the live ones, newest first. -/
theorem overlay_shows (ls : List Label) : Shows (run Screen.step Screen.start ls) := by
  have hrun : (∃ arrived, Good arrived (run Screen.step Screen.start ls)) ∧
      Recent (run Screen.step Screen.start ls).now (run Screen.step Screen.start ls).since := by
    induction ls using List.reverseRecOn with
    | nil => exact ⟨⟨[], good_idle Screen.start⟩, recent_nil _⟩
    | append_singleton ls l ih =>
        obtain ⟨⟨arrived, hgood⟩, hrecent⟩ := ih
        rw [run_append]
        exact ⟨good_step hgood l, recent_step hrecent l⟩
  obtain ⟨⟨arrived, hgood⟩, hrecent⟩ := hrun
  refine ⟨hgood.exact, ?_, hgood.armed, ?_, hrecent⟩
  · intro hqueue
    have hsince := hgood.since
    rw [hqueue] at hsince
    rw [hsince]
    exact hgood.covers
  · intro hlistening ahead before after
    exact (awake_after_visible hlistening ahead before after).active

end WatchTogether.Web.LiveBroadcastOverlay

/-
  WatchTogether.Web.MediaTickets

  The address of the film (`web/src/pages/RoomPage.tsx`).  An effect asks for a ticket and
  shows its address; half an hour before it runs out a timer asks for the next one, whose
  address is held back until the player fails.  The effect runs again when what it depends
  on changes, and an answer to an earlier run is dropped.

  A set state is seen by the next render only; the effects of a render run some time after
  it, and before the next one.  Times are in milliseconds.
-/

import Mathlib.Algebra.Order.Group.Int
import Mathlib.Data.List.Induction
import Mathlib.Data.List.Perm.Basic
import WatchTogether.Lib.LabelledRun

namespace WatchTogether.Web.MediaTickets

open LabelledRun

-- ============================================================================
-- The page
-- ============================================================================

/-- What the effect depends on, but for the nonce; an identity is the object that the
    authentication holds. -/
structure Deps where
  playbackMedia : Option String
  roomMedia : Option String
  roomID : Option String
  code : String
  identity : Option Nat
deriving DecidableEq

/-- `playback?.mediaId ?? room?.mediaId`. -/
def Deps.mediaID (d : Deps) : Option String :=
  match d.playbackMedia with
  | some id => some id
  | none => d.roomMedia

/-- There is a film, and somebody to see it. -/
def Deps.fetches (d : Deps) : Bool := d.mediaID.any (fun id => decide (id ≠ "")) && d.identity.isSome

/-- `room?.id ?? code`. -/
def Deps.room (d : Deps) : String := d.roomID.getD d.code

/-- The answer to a request for a ticket. -/
structure Ticket where
  url : String
  expiresAtMs : Int
deriving DecidableEq

/-- A call of `fetchTicket` that waits for its answer; no code reads when it was made. -/
structure Fetch where
  run : Nat
  activate : Bool
  room : String
  sentAt : Int
deriving DecidableEq

/-- The page, as far as the film's address goes. -/
structure Page where
  now : Int
  deps : Deps
  ticketNonce : Nat
  /-- What the last render has seen. -/
  rendered : Deps × Nat
  /-- What the effect ran with. -/
  ran : Option (Deps × Nat)
  /-- How often the effect has run. -/
  run : Nat
  src : Option String
  pendingSrc : Option String
  /-- `pendingSrc` as the last render has seen it. -/
  shown : Option String
  error : String
  /-- `refreshTimer` of this run. -/
  timer : Option Int
  flight : List Fetch
  /-- The last ticket of this run, when it came, and whether one was refused; no code reads
      them. -/
  got : Option Ticket
  gotAt : Int
  failed : Bool
deriving DecidableEq

/-- What may happen to the page. -/
inductive Label where
  | tick (t : Int)
  /-- The room, the playback or the identity changes. -/
  | change (d : Deps)
  | render
  /-- The effects of the last render run. -/
  | flush
  | answer (i : Nat) (x : Except String Ticket)
  | fire
  /-- `onMediaError`. -/
  | mediaError

namespace Page

/-- Nothing is known of the room yet. -/
def start (code : String) : Page where
  now := 0
  deps := ⟨none, none, none, code, none⟩
  ticketNonce := 0
  rendered := (⟨none, none, none, code, none⟩, 0)
  ran := none
  run := 0
  src := none
  pendingSrc := none
  shown := none
  error := ""
  timer := none
  flight := []
  got := none
  gotAt := 0
  failed := false

/-- The values that this run of the effect closes over. -/
def closure (s : Page) : Deps := (s.ran.getD s.rendered).1

/-- `fetchTicket`, up to its answer. -/
def fetchTicket (activate : Bool) (s : Page) : Page :=
  { s with flight := s.flight ++ [⟨s.run, activate, s.closure.room, s.now⟩] }

/-- The clean-up of the effect, and its body. -/
def effect (s : Page) : Page :=
  let s := { s with run := s.run + 1, ran := some s.rendered, timer := none, got := none, failed := false }
  if s.rendered.1.fetches then s.fetchTicket true else { s with src := none, pendingSrc := none }

/-- The effects of the last render run, if they depend on something that has changed. -/
def flush (s : Page) : Page := if s.ran = some s.rendered then s else s.effect

/-- A render, after the effects of the last one. -/
def render (s : Page) : Page :=
  { s.flush with rendered := (s.deps, s.ticketNonce), shown := s.flush.pendingSrc }

/-- The ticket for a run that has not been stopped. -/
def accept (activate : Bool) (ticket : Ticket) (s : Page) : Page :=
  let delay := max 1000 (ticket.expiresAtMs - s.now - 30 * 60000)
  if activate then
    { s with
      src := some ticket.url, pendingSrc := none
      timer := some (s.now + delay), got := some ticket, gotAt := s.now }
  else
    { s with
      pendingSrc := some ticket.url
      timer := some (s.now + delay), got := some ticket, gotAt := s.now }

/-- The error of a request for a run that has not been stopped. -/
def refuse (activate : Bool) (cause : String) (s : Page) : Page :=
  if activate then { s with error := cause, failed := true } else { s with failed := true }

/-- The request has its answer. -/
def answered (i : Nat) (s : Page) : Page := { s with flight := s.flight.eraseIdx i }

/-- The rest of `fetchTicket`. -/
def settle (f : Fetch) (x : Except String Ticket) (s : Page) : Page :=
  if f.run ≠ s.run then s
  else
    match x with
    | .ok ticket => s.accept f.activate ticket
    | .error cause => s.refuse f.activate cause

/-- The address that `onMediaError` falls back on. -/
def fallback (s : Page) : Option String := s.shown.filter (fun url => decide (url ≠ ""))

/-- `onMediaError`. -/
def onMediaError (s : Page) : Page :=
  match s.fallback with
  | some url => { s with src := some url, pendingSrc := none }
  | none => { s with ticketNonce := s.ticketNonce + 1 }

/-- One step of the browser. -/
def step (s : Page) : Label → Page
  | .tick t => { s with now := max s.now t }
  | .change d => { s with deps := d }
  | .render => s.render
  | .flush => s.flush
  | .answer i x =>
      match s.flight[i]? with
      | some f => (s.answered i).settle f x
      | none => s
  | .fire =>
      match s.timer with
      | some due => if due ≤ s.now then { s with timer := none }.fetchTicket false else s
      | none => s
  | .mediaError => s.onMediaError

/-- The page after a run. -/
def after (code : String) (ls : List Label) : Page := LabelledRun.run step (start code) ls

-- ============================================================================
-- What must hold
-- ============================================================================

/-- The effect that ran last fetches, and no request of it has been refused. -/
def going (s : Page) : Bool := s.ran.any (fun d => d.1.fetches) && !s.failed

/-- The requests and the timer of this run. -/
def load (s : Page) : Nat :=
  s.flight.countP (fun f => decide (f.run = s.run)) + s.timer.toList.length

/-- The player fails when the last render has seen what the page holds back. -/
def Calm (s : Page) (l : Label) : Prop := l = .mediaError → s.shown = s.pendingSrc

instance (s : Page) (l : Label) : Decidable (Calm s l) :=
  match l with
  | .mediaError => decidable_of_iff (s.shown = s.pendingSrc) ⟨fun h _ => h, fun h => h rfl⟩
  | .tick _ | .change _ | .render | .flush | .answer .. | .fire => isTrue (fun h => by cases h)

/-- The timer and the requests of this run are at most `late` overdue. -/
structure InTime (late : Int) (s : Page) : Prop where
  timer : ∀ due, s.timer = some due → s.now ≤ due + late
  flight : ∀ f ∈ s.flight, f.run = s.run → s.now ≤ f.sentAt + late

instance (late : Int) (s : Page) : Decidable (InTime late s) :=
  decidable_of_iff
    ((∀ due ∈ s.timer, s.now ≤ due + late) ∧
      ∀ f ∈ s.flight, f.run = s.run → s.now ≤ f.sentAt + late)
    ⟨fun h => ⟨h.1, h.2⟩, fun h => ⟨h.timer, h.flight⟩⟩

/-- The ticket of an answer outlives the second until the next request and twice the delay. -/
def Outlives (late : Int) (s : Page) : Label → Prop
  | .answer _ (.ok ticket) => s.now + 1000 + 2 * late < ticket.expiresAtMs
  | _ => True

instance (late : Int) (s : Page) : (l : Label) → Decidable (Outlives late s l)
  | .answer _ (.ok ticket) =>
      inferInstanceAs (Decidable (s.now + 1000 + 2 * late < ticket.expiresAtMs))
  | .answer _ (.error _) | .tick _ | .change _ | .render | .flush | .fire | .mediaError =>
      isTrue trivial

/-- No request of this run is refused, tickets last, and nothing is late. -/
structure Prompt (late : Int) (s : Page) (l : Label) : Prop where
  inTime : InTime late (s.step l)
  granted : (s.step l).failed = false
  lasting : Outlives late s l

instance (late : Int) (s : Page) (l : Label) : Decidable (Prompt late s l) :=
  decidable_of_iff (InTime late (s.step l) ∧ (s.step l).failed = false ∧ Outlives late s l)
    ⟨fun h => ⟨h.1, h.2.1, h.2.2⟩, fun h => ⟨h.inTime, h.granted, h.lasting⟩⟩

/-- **Tickets.**  What holds after every run. -/
structure Law (code : String) (ls : List Label) : Prop where
  /-- This run of the effect has one request or one timer at a time, and none once a request
      of it was refused. -/
  chain : (after code ls).load = if (after code ls).going then 1 else 0
  /-- Its requests name the room of the render that it runs with. -/
  room : ∀ f ∈ (after code ls).flight, f.run = (after code ls).run →
    ∃ d, (after code ls).ran = some d ∧ f.room = d.1.room
  /-- The next ticket is asked for half an hour before the last one runs out, or a second after
      that one came. -/
  renewal : ∀ due, (after code ls).timer = some due → ∃ ticket, (after code ls).got = some ticket ∧
    (after code ls).gotAt ≤ (after code ls).now ∧
      due = max ((after code ls).gotAt + 1000) (ticket.expiresAtMs - 30 * 60000)
  /-- A renewal does not touch what is played. -/
  steady : (after code ls).got ≠ none →
    ∀ i x, ((after code ls).step (.answer i x)).src = (after code ls).src
  /-- The last ticket is held back, or played. -/
  held : EachStep step Calm (start code) ls → ∀ ticket, (after code ls).got = some ticket →
    ((after code ls).pendingSrc <|> (after code ls).src) = some ticket.url
  /-- If nothing is late, refused or too short, the last ticket does not run out. -/
  valid : ∀ late, 0 ≤ late → 2 * late < 30 * 60000 → EachStep step (Prompt late) (start code) ls →
    ∀ ticket, (after code ls).got = some ticket → (after code ls).now < ticket.expiresAtMs
  /-- If the player fails and nothing is held back, the page asks again. -/
  recovers : (after code ls).fallback = none → (after code ls).deps.fetches = true →
    ∃ f ∈ ((((after code ls).step .mediaError).step .render).step .flush).flight,
      f.activate = true ∧
        f.run = ((((after code ls).step .mediaError).step .render).step .flush).run

-- ============================================================================
-- The chain of tickets
-- ============================================================================

/-- The chain, and what the page knows of its requests. -/
structure Inv (s : Page) : Prop where
  chain : s.load = if s.going then 1 else 0
  past : ∀ f ∈ s.flight, f.run ≤ s.run
  /-- Only the first ticket of a run is shown at once. -/
  first : ∀ f ∈ s.flight, f.run = s.run → (f.activate = true ↔ s.got = none)
  asked : s.got ≠ none → s.ran.any (fun d => d.1.fetches) = true
  renewal : ∀ due, s.timer = some due → ∃ ticket, s.got = some ticket ∧ s.gotAt ≤ s.now ∧
    due = max (s.gotAt + 1000) (ticket.expiresAtMs - 30 * 60000)
  nonce : s.rendered.2 ≤ s.ticketNonce
  nonceRan : ∀ d, s.ran = some d → d.2 ≤ s.ticketNonce
  room : ∀ f ∈ s.flight, f.run = s.run → ∃ d, s.ran = some d ∧ f.room = d.1.room

theorem inv_start (code : String) : Inv (start code) := by
  refine ⟨rfl, by simp [start], by simp [start], by simp [start], by simp [start], le_rfl, ?_, ?_⟩
  · simp [start]
  · simp [start]

/-- No request of a run is older than the run. -/
theorem countP_past {l : List Fetch} {n : Nat} (h : ∀ f ∈ l, f.run ≤ n) :
    l.countP (fun f => decide (f.run = n + 1)) = 0 := by
  rw [List.countP_eq_zero]
  intro f hf
  have hrun := h f hf
  rw [decide_eq_true_eq]
  omega

/-- A request fewer. -/
theorem countP_answered {l : List Fetch} {i : Nat} {f : Fetch} (hf : l[i]? = some f)
    (p : Fetch → Bool) :
    l.countP p = (l.eraseIdx i).countP p + if p f then 1 else 0 := by
  obtain ⟨hi, rfl⟩ := List.getElem?_eq_some_iff.mp hf
  rw [← (List.getElem_cons_eraseIdx_perm hi).countP_eq p, List.countP_cons]

theorem Inv.effect {s : Page} (h : Inv s) : Inv s.effect := by
  have hnone := countP_past h.past
  have hpast : ∀ f ∈ s.flight, f.run ≠ s.run + 1 := by
    intro f hf
    have hrun := h.past f hf
    omega
  have hran : ∀ d, some s.rendered = some d → d.2 ≤ s.ticketNonce := by
    rintro d hd
    obtain rfl := Option.some.inj hd
    exact h.nonce
  rw [Page.effect]
  by_cases hfetches : s.rendered.1.fetches = true
  · simp only [hfetches, if_true, fetchTicket]
    refine ⟨?_, ?_, ?_, by simp, by simp, h.nonce, hran, ?_⟩
    · simp [load, going, hfetches, hnone]
    · intro f hf
      rcases List.mem_append.mp hf with hold | hnew
      · exact (h.past f hold).trans (Nat.le_succ _)
      · rw [List.mem_singleton.mp hnew]
    · intro f hf hrun
      rcases List.mem_append.mp hf with hold | hnew
      · exact absurd hrun (hpast f hold)
      · rw [List.mem_singleton.mp hnew]
        simp
    · intro f hf hrun
      rcases List.mem_append.mp hf with hold | hnew
      · exact absurd hrun (hpast f hold)
      · rw [List.mem_singleton.mp hnew]
        exact ⟨s.rendered, rfl, rfl⟩
  · simp only [hfetches]
    refine ⟨?_, ?_, ?_, by simp, by simp, h.nonce, hran, ?_⟩
    · simp [load, going, hfetches, hnone]
    · intro f hf
      exact (h.past f hf).trans (Nat.le_succ _)
    · intro f hf hrun
      exact absurd hrun (hpast f hf)
    · intro f hf hrun
      exact absurd hrun (hpast f hf)

theorem Inv.flush {s : Page} (h : Inv s) : Inv s.flush := by
  rw [Page.flush]
  split
  · exact h
  · exact h.effect

theorem ticketNonce_flush (s : Page) : s.flush.ticketNonce = s.ticketNonce := by
  rw [Page.flush]
  split
  · rfl
  · rw [Page.effect]
    split <;> rfl

theorem Inv.render {s : Page} (h : Inv s) : Inv s.render := by
  have hflush := h.flush
  refine ⟨hflush.chain, hflush.past, hflush.first, hflush.asked, hflush.renewal, ?_,
    hflush.nonceRan, hflush.room⟩
  show s.ticketNonce ≤ s.flush.ticketNonce
  rw [ticketNonce_flush]

/-- An answer to an earlier run. -/
theorem settle_stopped {s : Page} {f : Fetch} (h : f.run ≠ s.run) (x : Except String Ticket) :
    s.settle f x = s := if_pos h

theorem settle_ok {s : Page} {f : Fetch} (h : f.run = s.run) (ticket : Ticket) :
    s.settle f (.ok ticket) = s.accept f.activate ticket := if_neg (not_not.mpr h)

theorem settle_error {s : Page} {f : Fetch} (h : f.run = s.run) (cause : String) :
    s.settle f (.error cause) = s.refuse f.activate cause := if_neg (not_not.mpr h)

/-- An answer, to a request of this run or of an earlier one. -/
theorem Inv.settle {s : Page} (h : Inv s) {i : Nat} {f : Fetch} (hf : s.flight[i]? = some f)
    (x : Except String Ticket) :
    Inv ((s.answered i).settle f x) := by
  have hcount := countP_answered hf (fun f => decide (f.run = s.run))
  have hsub : ∀ g ∈ s.flight.eraseIdx i, g ∈ s.flight := fun g hg => List.mem_of_mem_eraseIdx hg
  have hchain := h.chain
  rw [load, hcount] at hchain
  by_cases hrun : f.run = s.run
  swap
  · rw [settle_stopped (s := s.answered i) hrun]
    simp only [hrun, decide_false, Bool.false_eq_true, if_false, Nat.add_zero] at hchain
    exact ⟨hchain, fun g hg => h.past g (hsub g hg), fun g hg => h.first g (hsub g hg), h.asked,
      h.renewal, h.nonce, h.nonceRan, fun g hg => h.room g (hsub g hg)⟩
  · simp only [hrun, decide_true, if_true] at hchain
    have hgoing : s.going = true := by
      by_contra hstopped
      rw [if_neg hstopped] at hchain
      omega
    rw [if_pos hgoing] at hchain
    obtain ⟨hfetches, hgranted⟩ : s.ran.any (fun d => d.1.fetches) = true ∧ s.failed = false := by
      simpa [going] using hgoing
    have hnone : (s.flight.eraseIdx i).countP (fun f => decide (f.run = s.run)) = 0 := by omega
    have hidle : s.timer = none := by
      cases htimer : s.timer with
      | none => rfl
      | some due =>
          rw [htimer] at hchain
          simp at hchain
    have hlast : ∀ g ∈ s.flight.eraseIdx i, g.run ≠ s.run := by
      intro g hg hg'
      exact absurd (decide_eq_true hg') (List.countP_eq_zero.mp hnone g hg)
    cases x with
    | ok ticket =>
        have hnext : Inv { s with
            flight := s.flight.eraseIdx i, got := some ticket, gotAt := s.now
            timer := some (s.now + max 1000 (ticket.expiresAtMs - s.now - 30 * 60000)) } := by
          refine ⟨?_, fun g hg => h.past g (hsub g hg), fun g hg hg' => absurd hg' (hlast g hg),
            fun _ => hfetches, ?_, h.nonce, h.nonceRan, fun g hg => h.room g (hsub g hg)⟩
          · simp [load, hnone, going, hfetches, hgranted]
          · intro due hdue
            obtain rfl := Option.some.inj hdue
            refine ⟨ticket, rfl, le_rfl, ?_⟩
            show s.now + max 1000 (ticket.expiresAtMs - s.now - 30 * 60000)
              = max (s.now + 1000) (ticket.expiresAtMs - 30 * 60000)
            omega
        rw [settle_ok (s := s.answered i) hrun]
        cases hactivate : f.activate with
        | true =>
            simp only [accept, answered, if_true]
            exact ⟨hnext.chain, hnext.past, hnext.first, hnext.asked, hnext.renewal, h.nonce,
              h.nonceRan, hnext.room⟩
        | false =>
            simp only [accept, answered]
            exact ⟨hnext.chain, hnext.past, hnext.first, hnext.asked, hnext.renewal, h.nonce,
              h.nonceRan, hnext.room⟩
    | error cause =>
        have hnext : Inv { s with flight := s.flight.eraseIdx i, failed := true } := by
          refine ⟨?_, fun g hg => h.past g (hsub g hg), fun g hg hg' => absurd hg' (hlast g hg),
            h.asked, h.renewal, h.nonce, h.nonceRan, fun g hg => h.room g (hsub g hg)⟩
          simp [load, hnone, going, hidle]
        rw [settle_error (s := s.answered i) hrun]
        cases hactivate : f.activate with
        | true =>
            simp only [refuse, answered, if_true]
            exact ⟨hnext.chain, hnext.past, hnext.first, hnext.asked, hnext.renewal, h.nonce,
              h.nonceRan, hnext.room⟩
        | false =>
            simp only [refuse, answered]
            exact hnext

theorem Inv.fire {s : Page} (h : Inv s) {due : Int} (htimer : s.timer = some due) :
    Inv ({ s with timer := none }.fetchTicket false) := by
  have hchain := h.chain
  rw [load, htimer] at hchain
  obtain ⟨ticket, hgot, -⟩ := h.renewal due htimer
  have hshape : { s with timer := none }.fetchTicket false = { s with
      timer := none, flight := s.flight ++ [⟨s.run, false, s.closure.room, s.now⟩] } := rfl
  rw [hshape]
  refine ⟨?_, ?_, ?_, h.asked, by simp, h.nonce, h.nonceRan, ?_⟩
  · rw [load, List.countP_append]
    simpa [going] using hchain
  · intro f hf
    rcases List.mem_append.mp hf with hold | hnew
    · exact h.past f hold
    · rw [List.mem_singleton.mp hnew]
  · intro f hf hrun
    rcases List.mem_append.mp hf with hold | hnew
    · exact h.first f hold hrun
    · rw [List.mem_singleton.mp hnew]
      simp [hgot]
  · intro f hf hrun
    rcases List.mem_append.mp hf with hold | hnew
    · exact h.room f hold hrun
    · obtain ⟨d, hd⟩ : ∃ d, s.ran = some d := by
        have hfetches := h.asked (by simp [hgot])
        cases hran : s.ran with
        | none => simp [hran] at hfetches
        | some d => exact ⟨d, rfl⟩
      rw [List.mem_singleton.mp hnew]
      refine ⟨d, hd, ?_⟩
      show s.closure.room = d.1.room
      rw [closure, hd]
      rfl

theorem Inv.step {s : Page} (h : Inv s) (l : Label) : Inv (s.step l) := by
  cases l with
  | tick t =>
      refine ⟨h.chain, h.past, h.first, h.asked, ?_, h.nonce, h.nonceRan, h.room⟩
      intro due hdue
      obtain ⟨ticket, hgot, hcame, hexact⟩ := h.renewal due hdue
      exact ⟨ticket, hgot, hcame.trans (le_max_left _ _), hexact⟩
  | change d => exact ⟨h.chain, h.past, h.first, h.asked, h.renewal, h.nonce, h.nonceRan, h.room⟩
  | render => exact h.render
  | flush => exact h.flush
  | answer i x =>
      rw [Page.step]
      split
      · rename_i f hf
        exact h.settle hf x
      · exact h
  | fire =>
      rw [Page.step]
      split
      · rename_i due htimer
        split
        · exact h.fire htimer
        · exact h
      · exact h
  | mediaError =>
      rw [Page.step, onMediaError]
      split
      · exact ⟨h.chain, h.past, h.first, h.asked, h.renewal, h.nonce, h.nonceRan, h.room⟩
      · refine ⟨h.chain, h.past, h.first, h.asked, h.renewal, h.nonce.trans (Nat.le_succ _), ?_,
          h.room⟩
        exact fun d hd => (h.nonceRan d hd).trans (Nat.le_succ _)

theorem after_snoc (code : String) (ls : List Label) (l : Label) :
    after code (ls ++ [l]) = (after code ls).step l := by
  rw [after, run_append]
  rfl

theorem inv_after (code : String) (ls : List Label) : Inv (after code ls) := by
  induction ls using List.reverseRecOn with
  | nil => exact inv_start code
  | append_singleton ls l ih =>
      rw [after_snoc]
      exact ih.step l

-- ============================================================================
-- What the page holds
-- ============================================================================

/-- The address of the last ticket is held back, or played. -/
def Held (s : Page) : Prop :=
  ∀ ticket, s.got = some ticket → (s.pendingSrc <|> s.src) = some ticket.url

theorem held_flush {s : Page} (h : Held s) : Held s.flush := by
  rw [Page.flush]
  split
  · exact h
  · intro ticket hticket
    have hnone : s.effect.got = none := by
      rw [Page.effect]
      split <;> rfl
    rw [hnone] at hticket
    exact absurd hticket (by simp)

theorem held_step {s : Page} (h : Held s) {l : Label} (hcalm : Calm s l) : Held (s.step l) := by
  cases l with
  | tick t => exact h
  | change d => exact h
  | render => exact held_flush h
  | flush => exact held_flush h
  | answer i x =>
      rw [Page.step]
      split
      swap
      · exact h
      rename_i f hf
      by_cases hrun : f.run = s.run
      swap
      · rw [settle_stopped (s := s.answered i) hrun]
        exact h
      cases x with
      | ok ticket =>
          rw [settle_ok (s := s.answered i) hrun]
          cases hactivate : f.activate <;>
            · intro t ht
              simp only [accept, if_true, if_false, Bool.false_eq_true, Option.some.injEq] at ht ⊢
              subst ht
              rfl
      | error cause =>
          rw [settle_error (s := s.answered i) hrun]
          cases f.activate <;> exact h
  | fire =>
      rw [Page.step]
      split
      · split <;> exact h
      · exact h
  | mediaError =>
      have hseen := hcalm rfl
      rw [Page.step, onMediaError]
      split
      · rename_i url hurl
        intro ticket hticket
        have hshown : s.shown = some url := Option.eq_some_of_filter_eq_some hurl
        have hold := h ticket hticket
        rw [← hseen, hshown] at hold
        exact hold
      · exact h

theorem held_after {code : String} {ls : List Label} (hcalm : EachStep step Calm (start code) ls) :
    Held (after code ls) := by
  induction ls using List.reverseRecOn with
  | nil =>
      intro ticket hticket
      exact absurd hticket (by simp [after, start])
  | append_singleton ls l ih =>
      rw [after_snoc]
      exact held_step (ih hcalm.before) hcalm.at

-- ============================================================================
-- Time
-- ============================================================================

/-- What is under way will be answered before the last ticket runs out. -/
structure Ahead (late : Int) (s : Page) : Prop where
  inTime : InTime late s
  granted : s.failed = false
  timer : ∀ ticket due, s.got = some ticket → s.timer = some due →
    due + 2 * late < ticket.expiresAtMs
  flight : ∀ ticket, s.got = some ticket → ∀ f ∈ s.flight, f.run = s.run →
    f.sentAt + late < ticket.expiresAtMs

theorem ahead_flush {late : Int} {s : Page} (h : Ahead late s) (hin : InTime late s.flush)
    (hgranted : s.flush.failed = false) : Ahead late s.flush := by
  have hsplit : s.flush = s ∨ s.flush.got = none := by
    rw [Page.flush]
    split
    · exact .inl rfl
    · refine .inr ?_
      rw [Page.effect]
      split <;> rfl
  rcases hsplit with hsame | hnone
  · rw [hsame]
    exact h
  · refine ⟨hin, hgranted, ?_, ?_⟩
    · intro ticket due hgot
      rw [hnone] at hgot
      exact absurd hgot (by simp)
    · intro ticket hgot
      rw [hnone] at hgot
      exact absurd hgot (by simp)

/-- A ticket that lasts leaves time for the next one. -/
theorem ahead_accept {late : Int} (hlate : 2 * late < 30 * 60000) {s : Page} (hinv : Inv s)
    {i : Nat} {f : Fetch} (hf : s.flight[i]? = some f) (hrun : f.run = s.run) {ticket : Ticket}
    (hlasting : s.now + 1000 + 2 * late < ticket.expiresAtMs)
    (hin : InTime late ((s.answered i).accept f.activate ticket))
    (hgranted : ((s.answered i).accept f.activate ticket).failed = false) :
    Ahead late ((s.answered i).accept f.activate ticket) := by
  have hnext := hinv.settle hf (.ok ticket)
  rw [settle_ok (s := s.answered i) hrun] at hnext
  have hgot : ((s.answered i).accept f.activate ticket).got = some ticket := by
    cases hactivate : f.activate <;> simp [accept]
  have htimer : ((s.answered i).accept f.activate ticket).timer
      = some (s.now + max 1000 (ticket.expiresAtMs - s.now - 30 * 60000)) := by
    cases hactivate : f.activate <;> simp [accept, answered]
  refine ⟨hin, hgranted, ?_, ?_⟩
  · intro t due ht hdue
    obtain rfl := Option.some.inj (hgot.symm.trans ht)
    obtain rfl := Option.some.inj (htimer.symm.trans hdue)
    omega
  · -- The timer is all that is under way.
    intro t ht g hg hgrun
    have hchain := hnext.chain
    rw [load, htimer] at hchain
    have hpos : 0 < ((s.answered i).accept f.activate ticket).flight.countP
        (fun f' => decide (f'.run = ((s.answered i).accept f.activate ticket).run)) :=
      List.countP_pos_iff.mpr ⟨g, hg, decide_eq_true hgrun⟩
    simp only [Option.toList_some, List.length_singleton] at hchain
    split at hchain <;> omega

theorem ahead_step {late : Int} (hlate : 2 * late < 30 * 60000) {s : Page} (hinv : Inv s)
    (h : Ahead late s) {l : Label} (hprompt : Prompt late s l) : Ahead late (s.step l) := by
  obtain ⟨hin, hgranted, hlasting⟩ := hprompt
  cases l with
  | tick t => exact ⟨hin, hgranted, h.timer, h.flight⟩
  | change d => exact ⟨hin, hgranted, h.timer, h.flight⟩
  | render =>
      have hflush := ahead_flush h ⟨hin.timer, hin.flight⟩ hgranted
      exact ⟨hin, hgranted, hflush.timer, hflush.flight⟩
  | flush => exact ahead_flush h hin hgranted
  | answer i x =>
      rw [Page.step] at hin hgranted ⊢
      cases hf : s.flight[i]? with
      | none => exact h
      | some f =>
          simp only [hf] at hin hgranted ⊢
          by_cases hrun : f.run = s.run
          · cases x with
            | ok ticket =>
                rw [settle_ok (s := s.answered i) hrun] at hin hgranted ⊢
                exact ahead_accept hlate hinv hf hrun hlasting hin hgranted
            | error cause =>
                rw [settle_error (s := s.answered i) hrun] at hgranted
                cases hactivate : f.activate <;> simp [refuse, hactivate] at hgranted
          · rw [settle_stopped (s := s.answered i) hrun] at hin hgranted ⊢
            refine ⟨hin, hgranted, h.timer, ?_⟩
            intro ticket hgot g hg
            exact h.flight ticket hgot g (List.mem_of_mem_eraseIdx hg)
  | fire =>
      rw [Page.step] at hin hgranted ⊢
      cases htimer : s.timer with
      | none => exact h
      | some due =>
          simp only [htimer] at hin hgranted ⊢
          split at hin
          · rename_i hdue
            rw [if_pos hdue] at hgranted ⊢
            refine ⟨hin, hgranted, fun _ _ _ hnone => absurd hnone (by simp [fetchTicket]), ?_⟩
            intro ticket hgot f hf hrun
            rcases List.mem_append.mp hf with hold | hnew
            · exact h.flight ticket hgot f hold hrun
            · rw [List.mem_singleton.mp hnew]
              have hlimit := h.timer ticket due hgot htimer
              have hnow := h.inTime.timer due htimer
              show s.now + late < ticket.expiresAtMs
              omega
          · rename_i hdue
            rw [if_neg hdue]
            exact h
  | mediaError =>
      rw [Page.step, onMediaError] at hin hgranted ⊢
      split
      · exact ⟨⟨h.inTime.timer, h.inTime.flight⟩, h.granted, h.timer, h.flight⟩
      · exact ⟨⟨h.inTime.timer, h.inTime.flight⟩, h.granted, h.timer, h.flight⟩

theorem ahead_after {code : String} {late : Int} (hlate : 2 * late < 30 * 60000) {ls : List Label}
    (hprompt : EachStep step (Prompt late) (start code) ls) : Ahead late (after code ls) := by
  induction ls using List.reverseRecOn with
  | nil =>
      refine ⟨⟨?_, ?_⟩, rfl, ?_, ?_⟩ <;> simp [after, start]
  | append_singleton ls l ih =>
      rw [after_snoc]
      exact ahead_step hlate (inv_after code ls) (ih hprompt.before) hprompt.at

/-- The ticket that the page has lasts while the next one is on its way. -/
theorem valid_of_ahead {late : Int} (hpos : 0 ≤ late) {s : Page} (hinv : Inv s)
    (h : Ahead late s) {ticket : Ticket} (hgot : s.got = some ticket) :
    s.now < ticket.expiresAtMs := by
  have hgoing : s.going = true := by
    rw [going, hinv.asked (by simp [hgot]), h.granted]
    rfl
  have hchain := hinv.chain
  rw [hgoing, if_pos rfl, load] at hchain
  cases htimer : s.timer with
  | some due =>
      have hnow := h.inTime.timer due htimer
      have hlimit := h.timer ticket due hgot htimer
      omega
  | none =>
      rw [htimer] at hchain
      have hone : 0 < s.flight.countP (fun f => decide (f.run = s.run)) := by
        simp only [Option.toList_none, List.length_nil] at hchain
        omega
      obtain ⟨f, hf, hrun⟩ := List.countP_pos_iff.mp hone
      have hnow := h.inTime.flight f hf (of_decide_eq_true hrun)
      have hlimit := h.flight ticket hgot f hf (of_decide_eq_true hrun)
      omega

-- ============================================================================
-- The law
-- ============================================================================

/-- Once there is a ticket, no answer changes what is played. -/
theorem steady_answer {s : Page} (hinv : Inv s) (hgot : s.got ≠ none) (i : Nat)
    (x : Except String Ticket) : (s.step (.answer i x)).src = s.src := by
  rw [Page.step]
  cases hf : s.flight[i]? with
  | none => rfl
  | some f =>
      by_cases hrun : f.run = s.run
      · have hbackground : f.activate = false := by
          have hfirst := hinv.first f (List.mem_of_getElem? hf) hrun
          by_contra hactivate
          exact hgot (hfirst.mp (by simpa using hactivate))
        cases x with
        | ok ticket =>
            simp only
            rw [settle_ok (s := s.answered i) hrun, hbackground]
            rfl
        | error cause =>
            simp only
            rw [settle_error (s := s.answered i) hrun, hbackground]
            rfl
      · simp only
        rw [settle_stopped (s := s.answered i) hrun]
        rfl

/-- The effect runs again for the new nonce. -/
theorem recovers_mediaError {s : Page} (hinv : Inv s) (hnone : s.fallback = none)
    (hfetches : s.deps.fetches = true) :
    ∃ f ∈ (((s.step .mediaError).step .render).step .flush).flight, f.activate = true ∧
      f.run = (((s.step .mediaError).step .render).step .flush).run := by
  have hasked : s.step .mediaError = { s with ticketNonce := s.ticketNonce + 1 } := by
    rw [Page.step, onMediaError, hnone]
  rw [hasked]
  have hinv' : Inv { s with ticketNonce := s.ticketNonce + 1 } := by
    rw [← hasked]
    exact hinv.step .mediaError
  -- The effect has not run with this nonce, whatever the render makes run first.
  have hran : ∀ d, ({ s with ticketNonce := s.ticketNonce + 1 } : Page).flush.ran = some d →
      d.2 ≤ s.ticketNonce := by
    intro d hd
    rw [Page.flush] at hd
    split at hd
    · exact hinv.nonceRan d hd
    · rw [Page.effect] at hd
      split at hd
      all_goals
        obtain rfl := Option.some.inj hd
        exact hinv.nonce
  have hstale : (({ s with ticketNonce := s.ticketNonce + 1 } : Page).step .render).ran
      ≠ some (s.deps, s.ticketNonce + 1) := by
    intro heq
    have hle := hran _ heq
    omega
  have hrendered : (({ s with ticketNonce := s.ticketNonce + 1 } : Page).step .render).rendered
      = (s.deps, s.ticketNonce + 1) := rfl
  generalize ({ s with ticketNonce := s.ticketNonce + 1 } : Page).step .render = p at *
  rw [Page.step, Page.flush, hrendered, if_neg hstale, Page.effect]
  simp only [hrendered, hfetches, if_true, fetchTicket]
  exact ⟨_, List.mem_append_right _ (List.mem_singleton_self _), rfl, rfl⟩

/-- **The law of tickets.** -/
theorem ticket_law (code : String) (ls : List Label) : Law code ls := by
  have hinv := inv_after code ls
  refine ⟨hinv.chain, hinv.room, hinv.renewal, ?_, ?_, ?_, ?_⟩
  · intro hgot i x
    exact steady_answer hinv hgot i x
  · intro hcalm
    exact held_after hcalm
  · intro late hpos hlate hprompt ticket hgot
    exact valid_of_ahead hpos hinv (ahead_after hlate hprompt) hgot
  · intro hnone hfetches
    exact recovers_mediaError hinv hnone hfetches

/-- A film is shown, its ticket is renewed with some delay, and the player falls back on the
    new address. -/
def evening : List Label :=
  [.change ⟨some "film", none, some "room", "code", some 1⟩, .render, .flush,
    .answer 0 (.ok ⟨"first", 7200000⟩), .tick 5400100, .fire, .tick 5401000,
    .answer 0 (.ok ⟨"second", 12600000⟩), .render, .mediaError, .tick 10000000]

/-- The conditions on delays, answers and player errors are met. -/
theorem ticket_law_evening :
    (after "code" evening).src = some "second" ∧
      ∀ ticket, (after "code" evening).got = some ticket →
        (after "code" evening).now < ticket.expiresAtMs ∧
          ((after "code" evening).pendingSrc <|> (after "code" evening).src) = some ticket.url := by
  have hlaw := ticket_law "code" evening
  refine ⟨by decide, fun ticket hgot => ⟨?_, hlaw.held (by decide) ticket hgot⟩⟩
  exact hlaw.valid 1000 (by decide) (by decide) (by decide) ticket hgot

end Page

end WatchTogether.Web.MediaTickets

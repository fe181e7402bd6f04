/-
  WatchTogether.Web.ChatComposer

  `useChatComposer` (`web/src/realtime/useChatComposer.ts`): one draft for the two composers of
  a room, and the sends whose acknowledgement is awaited.

  A session object belongs to one `ws`; `useMemo` makes a new one whenever the `ws` is another
  than at the last render, so a room that is entered again has a session of its own.  The
  handlers close over the values of the render they were made in.  The hook is rendered again
  after every event, and the effects of a render have run before the next event.
-/

import Mathlib.Data.List.Induction
import Mathlib.Data.List.Perm.Basic
import WatchTogether.Lib.LabelledRun

namespace WatchTogether.Web

open LabelledRun

/-- The white space and the line terminators of `String.prototype.trim`. -/
def isTrimmed (c : Char) : Bool :=
  c ∈ ['\t', '\n', '\x0b', '\x0c', '\r', ' ', '\u00a0', '\u1680', '\u2028', '\u2029', '\u202f',
    '\u205f', '\u3000', '\ufeff'] || ('\u2000' ≤ c && c ≤ '\u200a')

/-- `!text.trim()`. -/
def isBlank (text : String) : Bool := text.toList.all isTrimmed

/-- Where a composer is shown. -/
inductive Placement where
  | player
  | sidebar
deriving DecidableEq, Repr

/-- The object that `useMemo` makes. -/
structure ComposerSession where
  pending : Bool
  revision : Nat
deriving DecidableEq, Repr

/-- The values that the handlers of a render close over. -/
structure ComposerView where
  ws : Nat
  connected : Bool
  draft : String
  session : Nat
deriving DecidableEq, Repr

/-- A call of `onSend` that awaits `ws.send`. -/
structure Awaited where
  ws : Nat
  session : Nat
  revision : Nat
  content : String
deriving DecidableEq, Repr

/-- The hook: its state, its sessions, and what waits. -/
structure ChatComposer where
  /-- The arguments of the hook. -/
  ws : Nat
  connected : Bool
  draft : String
  sending : Bool
  error : String
  /-- The session objects, by their reference. -/
  sessions : List ComposerSession
  /-- What `useMemo` has kept: the session, and the `ws` it was made for. -/
  session : Nat
  memoWs : Nat
  /-- `active.current`. -/
  active : Nat
  /-- The session for which the effect has run. -/
  effectOf : Nat
  view : ComposerView
  awaited : List Awaited
deriving DecidableEq, Repr

/-- What `ws.send` ends with; a rejection has the message of its `Error`, if it is one. -/
inductive SendResult where
  | acknowledged
  | rejected (message : Option String)
deriving DecidableEq, Repr

namespace ChatComposer

/-- What may happen to the hook. -/
inductive Event where
  | edit (placement : Placement) (value : String)
  | send (placement : Placement)
  /-- The page renders the hook with these arguments. -/
  | render (ws : Nat) (connected : Bool)
  /-- A send that is awaited ends. -/
  | settle (k : Nat) (result : SendResult)
deriving DecidableEq, Repr

/-- A handler writes to a session object. -/
def modifySession (k : Nat) (f : ComposerSession → ComposerSession) (s : ChatComposer) :
    ChatComposer :=
  { s with sessions := s.sessions.modify k f }

-- ============================================================================
-- Rendering
-- ============================================================================

/-- `useMemo`, and `active.current = session`. -/
def memoise (s : ChatComposer) : ChatComposer :=
  if s.ws = s.memoWs then { s with active := s.session }
  else
    { s with
      sessions := s.sessions ++ [⟨false, 0⟩]
      session := s.sessions.length
      memoWs := s.ws
      active := s.sessions.length }

/-- `useEffect`, for a session that is new. -/
def runEffect (s : ChatComposer) : ChatComposer :=
  if s.effectOf = s.session then s
  else { s with draft := "", error := "", sending := false, effectOf := s.session }

/-- The hook is rendered until nothing changes any more; the handlers are those of the last
    render. -/
def rerender (s : ChatComposer) : ChatComposer :=
  let s := s.memoise.runEffect
  { s with view := ⟨s.ws, s.connected, s.draft, s.session⟩ }

/-- The hook is mounted. -/
def mount (ws : Nat) (connected : Bool) : ChatComposer where
  ws := ws
  connected := connected
  draft := ""
  sending := false
  error := ""
  sessions := [⟨false, 0⟩]
  session := 0
  memoWs := ws
  active := 0
  effectOf := 0
  view := ⟨ws, connected, "", 0⟩
  awaited := []

-- ============================================================================
-- The handlers
-- ============================================================================

/-- `onDraftChange`. -/
def onDraftChange (value : String) (s : ChatComposer) : ChatComposer :=
  { s.modifySession s.view.session (fun x => { x with revision := x.revision + 1 }) with
    draft := value
    error := "" }

/-- `onSend` up to its `await`. -/
def onSend (s : ChatComposer) : ChatComposer :=
  match s.sessions[s.view.session]? with
  | none => s
  | some session =>
      if !s.view.connected || isBlank s.view.draft || session.pending ||
          decide (s.active ≠ s.view.session) then s
      else
        { s.modifySession s.view.session (fun x => { x with pending := true }) with
          sending := true
          error := ""
          awaited := s.awaited ++ [⟨s.view.ws, s.view.session, session.revision, s.view.draft⟩] }

/-- The message of the catch clause. -/
def failure : Option String → String
  | some message => message
  | none => "消息发送失败，请重试"

/-- `onSend` after its `await`, up to the finally clause. -/
def conclude (x : Awaited) (result : SendResult) (s : ChatComposer) : ChatComposer :=
  match result with
  | .acknowledged =>
      if s.active = x.session ∧ s.sessions[x.session]?.any (fun y => y.revision = x.revision) then
        { s with draft := "" }
      else s
  | .rejected message =>
      if s.active = x.session then { s with error := failure message } else s

/-- The finally clause. -/
def release (x : Awaited) (s : ChatComposer) : ChatComposer :=
  let s := s.modifySession x.session (fun y => { y with pending := false })
  if s.active = x.session then { s with sending := false } else s

/-- A send that is awaited ends, and the rest of `onSend` runs. -/
def settle (k : Nat) (result : SendResult) (s : ChatComposer) : ChatComposer :=
  match s.awaited[k]? with
  | none => s
  | some x => ({ s with awaited := s.awaited.eraseIdx k }.conclude x result).release x

/-- The handler of an event. -/
def handle (s : ChatComposer) : Event → ChatComposer
  | .edit _ value => s.onDraftChange value
  | .send _ => s.onSend
  | .render ws connected => { s with ws := ws, connected := connected }
  | .settle k result => s.settle k result

/-- An event, and the renders that follow it. -/
def step (s : ChatComposer) (e : Event) : ChatComposer := (s.handle e).rerender

-- ============================================================================
-- What an event can do
-- ============================================================================

/-- Between two events: the last render was made from the state. -/
structure Rendered (s : ChatComposer) : Prop where
  memo : s.ws = s.memoWs
  active : s.active = s.session
  effect : s.effectOf = s.session
  view : s.view = ⟨s.ws, s.connected, s.draft, s.session⟩

/-- A render of the same room. -/
def refresh (s : ChatComposer) : ChatComposer :=
  { s with active := s.session, view := ⟨s.ws, s.connected, s.draft, s.session⟩ }

variable {s s' : ChatComposer} {e : Event} {k : Nat} {result : SendResult} {x : Awaited}

theorem rerender_same (hmemo : s.ws = s.memoWs) (heffect : s.effectOf = s.session) :
    s.rerender = s.refresh := by
  have hmemoise : s.memoise = { s with active := s.session } := if_pos hmemo
  have heffect' : ({ s with active := s.session } : ChatComposer).runEffect =
      { s with active := s.session } := if_pos heffect
  rw [rerender, hmemoise, heffect']
  rfl

theorem rendered_rerender (s : ChatComposer) : Rendered s.rerender := by
  unfold rerender memoise runEffect
  split_ifs with hmemo heffect heffect
  · exact ⟨hmemo, rfl, heffect, rfl⟩
  · exact ⟨hmemo, rfl, rfl, rfl⟩
  · exact ⟨rfl, rfl, heffect, rfl⟩
  · exact ⟨rfl, rfl, rfl, rfl⟩

theorem rendered_mount (ws : Nat) (connected : Bool) : Rendered (mount ws connected) :=
  ⟨rfl, rfl, rfl, rfl⟩

/-- A step from a rendered state. -/
inductive Turn (s : ChatComposer) : Event → ChatComposer → Prop
  | edited (p : Placement) (value : String) :
      Turn s (.edit p value)
        (refresh { s with
          sessions := s.sessions.modify s.session (fun y => { y with revision := y.revision + 1 })
          draft := value
          error := "" })
  | held (p : Placement) : Turn s (.send p) s.refresh
  | sent (p : Placement) (y : ComposerSession) (hy : s.sessions[s.session]? = some y)
      (hfree : y.pending = false) :
      Turn s (.send p)
        (refresh { s with
          sessions := s.sessions.modify s.session (fun y => { y with pending := true })
          sending := true
          error := ""
          awaited := s.awaited ++ [⟨s.ws, s.session, y.revision, s.draft⟩] })
  | stayed (connected : Bool) :
      Turn s (.render s.ws connected) (refresh { s with connected := connected })
  | switched (ws : Nat) (connected : Bool) (hws : ws ≠ s.ws) (hnew : s.session ≠ s.sessions.length) :
      Turn s (.render ws connected)
        (refresh { s with
          ws := ws
          memoWs := ws
          connected := connected
          sessions := s.sessions ++ [⟨false, 0⟩]
          session := s.sessions.length
          effectOf := s.sessions.length
          draft := ""
          error := ""
          sending := false })
  | missing (k : Nat) (result : SendResult) (hk : s.awaited[k]? = none) :
      Turn s (.settle k result) s.refresh
  | earlier (k : Nat) (result : SendResult) (x : Awaited) (hx : s.awaited[k]? = some x)
      (hold : x.session ≠ s.session) :
      Turn s (.settle k result)
        (refresh { s with
          sessions := s.sessions.modify x.session (fun y => { y with pending := false })
          awaited := s.awaited.eraseIdx k })
  | settled (k : Nat) (result : SendResult) (x : Awaited) (hx : s.awaited[k]? = some x)
      (hcurrent : x.session = s.session) (draft error : String)
      (hdraft : draft = s.draft ∨ draft = "" ∧ result = .acknowledged ∧
        ∃ y, s.sessions[s.session]? = some y ∧ y.revision = x.revision) :
      Turn s (.settle k result)
        (refresh { s with
          sessions := s.sessions.modify x.session (fun y => { y with pending := false })
          draft := draft
          error := error
          sending := false
          awaited := s.awaited.eraseIdx k })

/-- An event that leaves the room alone. -/
theorem step_eq (h : s.handle e = s') (hmemo : s'.ws = s'.memoWs)
    (heffect : s'.effectOf = s'.session) : s.step e = s'.refresh := by
  rw [step, h, rerender_same hmemo heffect]

theorem onSend_cases (hr : Rendered s) :
    s.onSend = s ∨ ∃ y, s.sessions[s.session]? = some y ∧ y.pending = false ∧
      s.onSend = { s with
        sessions := s.sessions.modify s.session (fun y => { y with pending := true })
        sending := true
        error := ""
        awaited := s.awaited ++ [⟨s.ws, s.session, y.revision, s.draft⟩] } := by
  unfold onSend modifySession
  rw [hr.view]
  dsimp only
  cases hy : s.sessions[s.session]? with
  | none => exact .inl rfl
  | some y =>
      dsimp only
      split_ifs with hstop
      · exact .inl rfl
      · simp only [Bool.or_eq_true, not_or, Bool.not_eq_true] at hstop
        exact .inr ⟨y, rfl, hstop.1.2, rfl⟩

theorem settle_eq (hx : s.awaited[k]? = some x) (result : SendResult) :
    s.settle k result =
      ({ s with awaited := s.awaited.eraseIdx k }.conclude x result).release x := by
  unfold settle
  rw [hx]

/-- The end of a send of another session. -/
theorem conclude_earlier (h : s.active ≠ x.session) (result : SendResult) :
    (s.conclude x result).release x =
      { s with sessions := s.sessions.modify x.session (fun y => { y with pending := false }) } := by
  have hconclude : s.conclude x result = s := by
    cases result with
    | acknowledged => exact if_neg (fun hboth => h hboth.1)
    | rejected message => exact if_neg h
  rw [hconclude]
  exact if_neg h

/-- The end of a send of the active session: it clears the draft at most. -/
theorem conclude_current (h : s.active = x.session) (result : SendResult) :
    ∃ draft error, (s.conclude x result).release x =
        { s with
          sessions := s.sessions.modify x.session (fun y => { y with pending := false })
          draft := draft
          error := error
          sending := false } ∧
      (draft = s.draft ∨ draft = "" ∧ result = .acknowledged ∧
        ∃ y, s.sessions[x.session]? = some y ∧ y.revision = x.revision) := by
  cases result with
  | acknowledged =>
      by_cases hrev : s.sessions[x.session]?.any (fun y => y.revision = x.revision) = true
      · have hconclude : s.conclude x .acknowledged = { s with draft := "" } := if_pos ⟨h, hrev⟩
        obtain ⟨y, hy, hyx⟩ := (Option.any_eq_true ..).mp hrev
        refine ⟨"", s.error, ?_, .inr ⟨rfl, rfl, y, hy, of_decide_eq_true hyx⟩⟩
        rw [hconclude]
        exact if_pos h
      · have hconclude : s.conclude x .acknowledged = s := if_neg (fun hboth => hrev hboth.2)
        refine ⟨s.draft, s.error, ?_, .inl rfl⟩
        rw [hconclude]
        exact if_pos h
  | rejected message =>
      have hconclude : s.conclude x (.rejected message) = { s with error := failure message } :=
        if_pos h
      refine ⟨s.draft, failure message, ?_, .inl rfl⟩
      rw [hconclude]
      exact if_pos h

theorem turn_settle (hr : Rendered s) (k : Nat) (result : SendResult) :
    Turn s (.settle k result) (s.step (.settle k result)) := by
  cases hx : s.awaited[k]? with
  | none =>
      have hsettle : s.settle k result = s := by
        unfold settle
        rw [hx]
      rw [step_eq (e := .settle k result) hsettle hr.memo hr.effect]
      exact .missing k result hx
  | some x =>
      have hsettle := settle_eq hx result
      by_cases hcurrent : s.active = x.session
      · have hsession : x.session = s.session := hcurrent.symm.trans hr.active
        obtain ⟨draft, error, heq, hdraft⟩ :=
          conclude_current (s := { s with awaited := s.awaited.eraseIdx k }) hcurrent result
        rw [heq] at hsettle
        rw [step_eq (e := .settle k result) hsettle hr.memo hr.effect]
        rw [hsession] at hdraft
        exact .settled k result x hx hsession draft error hdraft
      · have hsession : x.session ≠ s.session := fun heq => hcurrent (hr.active.trans heq.symm)
        rw [conclude_earlier (s := { s with awaited := s.awaited.eraseIdx k }) hcurrent] at hsettle
        rw [step_eq (e := .settle k result) hsettle hr.memo hr.effect]
        exact .earlier k result x hx hsession

/-- **Turns.**  What a step does to a rendered state. -/
theorem turn (hr : Rendered s) (hlt : s.session < s.sessions.length) (e : Event) :
    Turn s e (s.step e) := by
  cases e with
  | edit p value =>
      have hedit : s.onDraftChange value = { s with
          sessions := s.sessions.modify s.session (fun y => { y with revision := y.revision + 1 })
          draft := value
          error := "" } := by
        unfold onDraftChange modifySession
        rw [hr.view]
      rw [step_eq (e := .edit p value) hedit hr.memo hr.effect]
      exact .edited p value
  | send p =>
      rcases onSend_cases hr with heq | ⟨y, hy, hfree, heq⟩
      · rw [step_eq (e := .send p) heq hr.memo hr.effect]
        exact .held p
      · rw [step_eq (e := .send p) heq hr.memo hr.effect]
        exact .sent p y hy hfree
  | render ws connected =>
      by_cases hws : ws = s.ws
      · subst hws
        rw [step_eq (e := .render s.ws connected) rfl hr.memo hr.effect]
        exact .stayed connected
      · have hnew : s.session ≠ s.sessions.length := Nat.ne_of_lt hlt
        have hmemo : ¬ws = s.memoWs := fun h => hws (h.trans hr.memo.symm)
        have heffect : ¬s.effectOf = s.sessions.length := fun h => hnew (hr.effect.symm.trans h)
        unfold step handle rerender memoise runEffect
        simp only [if_neg hmemo, if_neg heffect]
        exact .switched ws connected hws hnew
  | settle k result => exact turn_settle hr k result

-- ============================================================================
-- The invariant
-- ============================================================================

/-- The session has a send that it waits for, by its flag. -/
def pendingAt (k : Nat) (s : ChatComposer) : Bool := s.sessions[k]?.any (fun y => y.pending)

/-- How many sends of the session are awaited. -/
def awaitedBy (k : Nat) (s : ChatComposer) : Nat := s.awaited.countP (fun x => x.session = k)

/-- Every awaited send belongs to a session that is pending. -/
structure Booked (s : ChatComposer) : Prop where
  current : s.session < s.sessions.length
  counted : ∀ k, s.awaitedBy k = if s.pendingAt k then 1 else 0
  sending : s.sending = s.pendingAt s.session
  aged : ∀ x ∈ s.awaited, ∀ y, s.sessions[x.session]? = some y → x.revision ≤ y.revision
  unedited : ∀ x ∈ s.awaited, x.session = s.session →
    ∀ y, s.sessions[s.session]? = some y → y.revision = x.revision → x.content = s.draft

theorem booked_mount (ws : Nat) (connected : Bool) : Booked (mount ws connected) := by
  refine ⟨Nat.one_pos, ?_, rfl, ?_, ?_⟩
  · intro k
    cases k <;> rfl
  · intro x hx
    exact absurd hx List.not_mem_nil
  · intro x hx
    exact absurd hx List.not_mem_nil

theorem Booked.refresh (h : Booked s) : Booked s.refresh :=
  ⟨h.current, h.counted, h.sending, h.aged, h.unedited⟩

/-- A session that awaits nothing. -/
theorem not_mem_of_awaitedBy (h : s.awaitedBy k = 0) (hx : x ∈ s.awaited) : x.session ≠ k := by
  have hnone := List.countP_eq_zero.mp h x hx
  simpa using hnone

theorem Booked.awaitedBy_eq_zero (h : Booked s) (hk : s.pendingAt k = false) :
    s.awaitedBy k = 0 := by
  rw [h.counted, hk]
  rfl

/-- Nothing is awaited for a session that is new. -/
theorem Booked.fresh (h : Booked s) : s.awaitedBy s.sessions.length = 0 := by
  refine h.awaitedBy_eq_zero ?_
  rw [pendingAt, List.getElem?_eq_none (Nat.le_refl _)]
  rfl

theorem getElem?_modify_pending {b : Bool} {l : List ComposerSession} {i j : Nat}
    {y : ComposerSession}
    (hy : (l.modify i (fun y => { y with pending := b }))[j]? = some y) :
    ∃ y₀, l[j]? = some y₀ ∧ y.revision = y₀.revision := by
  rw [List.getElem?_modify] at hy
  obtain ⟨y₀, hy₀, rfl⟩ := Option.map_eq_some_iff.mp hy
  refine ⟨y₀, hy₀, ?_⟩
  split_ifs <;> rfl

theorem any_modify_ne {f : ComposerSession → ComposerSession} {l : List ComposerSession}
    {i j : Nat} (h : i ≠ j) (p : ComposerSession → Bool) :
    (l.modify i f)[j]?.any p = l[j]?.any p := by
  rw [List.getElem?_modify_ne _ _ h]

/-- The flag of a session that is set. -/
theorem any_modify_eq {b : Bool} {l : List ComposerSession} {i : Nat} (hi : i < l.length) :
    (l.modify i (fun y => { y with pending := b }))[i]?.any (fun y => y.pending) = b := by
  rw [List.getElem?_modify_eq, List.getElem?_eq_getElem hi]
  rfl

/-- The k-th send is gone. -/
theorem countP_eraseIdx (hx : s.awaited[k]? = some x) (j : Nat) :
    s.awaitedBy j = (s.awaited.eraseIdx k).countP (fun x => x.session = j) +
      if x.session = j then 1 else 0 := by
  obtain ⟨hk, rfl⟩ := List.getElem?_eq_some_iff.mp hx
  have hperm := List.getElem_cons_eraseIdx_perm hk
  unfold awaitedBy
  rw [← hperm.countP_eq, List.countP_cons]
  simp

/-- What the end of a send does to the counts. -/
theorem Booked.counted_erase (h : Booked s) (hx : s.awaited[k]? = some x) (j : Nat) :
    (s.awaited.eraseIdx k).countP (fun x => x.session = j) =
      if (s.sessions.modify x.session (fun y => { y with pending := false }))[j]?.any
        (fun y => y.pending) then 1 else 0 := by
  have hsplit := countP_eraseIdx hx j
  rw [h.counted j] at hsplit
  by_cases hj : x.session = j
  · subst hj
    have hnone : (s.sessions.modify x.session (fun y => { y with pending := false }))[
        x.session]?.any (fun y => y.pending) = false := by
      rw [List.getElem?_modify_eq]
      cases s.sessions[x.session]? <;> rfl
    rw [if_pos rfl] at hsplit
    rw [hnone, if_neg (by decide)]
    split_ifs at hsplit
    omega
  · rw [any_modify_ne hj]
    rw [if_neg hj] at hsplit
    exact hsplit.symm

/-- After an edit the revision is beyond that of every send. -/
theorem Booked.revision_edited (h : Booked s) (hx : x ∈ s.awaited)
    (hsession : x.session = s.session) {y : ComposerSession}
    (hy : (s.sessions.modify s.session (fun y => { y with revision := y.revision + 1 }))[
      s.session]? = some y) : y.revision ≠ x.revision := by
  rw [List.getElem?_modify_eq] at hy
  obtain ⟨y₀, hy₀, rfl⟩ := Option.map_eq_some_iff.mp hy
  have hage := h.aged x hx y₀ (by rw [hsession]; exact hy₀)
  show y₀.revision + 1 ≠ x.revision
  omega

theorem Booked.turn (h : Booked s) (ht : Turn s e s') : Booked s' := by
  cases ht with
  | edited p value =>
      have hpending : ∀ k, (s.sessions.modify s.session
          (fun y => { y with revision := y.revision + 1 }))[k]?.any (fun y => y.pending) =
            s.pendingAt k := by
        intro k
        rw [List.getElem?_modify]
        unfold pendingAt
        cases s.sessions[k]? with
        | none => rfl
        | some y =>
            show ((if s.session = k then _ else y) : ComposerSession).pending = y.pending
            split_ifs <;> rfl
      refine Booked.refresh ⟨by simpa using h.current, ?_, ?_, ?_, ?_⟩
      · intro k
        show s.awaitedBy k = if (_ : Bool) then 1 else 0
        rw [pendingAt, hpending]
        exact h.counted k
      · show s.sending = _
        rw [pendingAt, hpending]
        exact h.sending
      · intro x hx y hy
        rw [List.getElem?_modify] at hy
        obtain ⟨y₀, hy₀, rfl⟩ := Option.map_eq_some_iff.mp hy
        have hage := h.aged x hx y₀ hy₀
        split_ifs
        · exact Nat.le_succ_of_le hage
        · exact hage
      · intro x hx hsession y hy hrev
        exact absurd hrev (h.revision_edited hx hsession hy)
  | held p => exact h.refresh
  | sent p y hy hfree =>
      have hnone : s.pendingAt s.session = false := by
        rw [pendingAt, hy]
        exact hfree
      refine Booked.refresh ⟨by simpa using h.current, ?_, ?_, ?_, ?_⟩
      · intro k
        show (s.awaited ++ [_]).countP (fun x : Awaited => x.session = k) = _
        rw [List.countP_append, pendingAt]
        by_cases hk : s.session = k
        · subst hk
          have hzero := h.awaitedBy_eq_zero hnone
          rw [awaitedBy] at hzero
          rw [hzero, any_modify_eq h.current]
          simp
        · rw [any_modify_ne hk]
          have hcount := h.counted k
          rw [awaitedBy, pendingAt] at hcount
          rw [hcount]
          simp [hk]
      · exact (any_modify_eq h.current).symm
      · intro x hx y' hy'
        obtain ⟨y₀, hy₀, hrev⟩ := getElem?_modify_pending hy'
        rw [hrev]
        rcases List.mem_append.mp hx with hold | hnew
        · exact h.aged x hold y₀ hy₀
        · obtain rfl := List.mem_singleton.mp hnew
          obtain rfl := Option.some.inj (hy.symm.trans hy₀)
          exact Nat.le_refl _
      · intro x hx hsession y' hy' hrev'
        obtain ⟨y₀, hy₀, hrev⟩ := getElem?_modify_pending hy'
        rcases List.mem_append.mp hx with hold | hnew
        · exact h.unedited x hold hsession y₀ hy₀ (hrev.symm.trans hrev')
        · obtain rfl := List.mem_singleton.mp hnew
          rfl
  | stayed connected => exact ⟨h.current, h.counted, h.sending, h.aged, h.unedited⟩
  | switched ws connected hws hnew =>
      have hlast : (s.sessions ++ [(⟨false, 0⟩ : ComposerSession)])[s.sessions.length]? =
          some ⟨false, 0⟩ := by simp
      refine Booked.refresh ⟨by simp, ?_, ?_, ?_, ?_⟩
      · intro k
        show s.awaitedBy k = if (s.sessions ++ [_])[k]?.any (fun y => y.pending) then 1 else 0
        rcases Nat.lt_trichotomy k s.sessions.length with hk | rfl | hk
        · rw [List.getElem?_append_left hk]
          exact h.counted k
        · rw [hlast]
          exact h.fresh
        · rw [List.getElem?_eq_none (by simp; omega)]
          have hcount := h.counted k
          rw [pendingAt, List.getElem?_eq_none (Nat.le_of_lt hk)] at hcount
          exact hcount
      · show false = (s.sessions ++ [_])[s.sessions.length]?.any (fun y => y.pending)
        rw [hlast]
        rfl
      · intro x hx y hy
        have hne := not_mem_of_awaitedBy h.fresh hx
        have hlt : x.session < s.sessions.length := by
          have hbound := (List.getElem?_eq_some_iff.mp hy).1
          rw [List.length_append, List.length_singleton] at hbound
          omega
        refine h.aged x hx y ?_
        rw [← hy]
        exact (List.getElem?_append_left hlt).symm
      · intro x hx hsession
        exact absurd hsession (not_mem_of_awaitedBy h.fresh hx)
  | missing k result hk => exact h.refresh
  | earlier k result x hx hold =>
      refine Booked.refresh ⟨by simpa using h.current, h.counted_erase hx, ?_, ?_, ?_⟩
      · show s.sending = _
        rw [pendingAt, any_modify_ne hold]
        exact h.sending
      · intro x' hx' y hy
        obtain ⟨y₀, hy₀, hrev⟩ := getElem?_modify_pending hy
        rw [hrev]
        exact h.aged x' (List.mem_of_mem_eraseIdx hx') y₀ hy₀
      · intro x' hx' hsession y hy hrev'
        obtain ⟨y₀, hy₀, hrev⟩ := getElem?_modify_pending hy
        exact h.unedited x' (List.mem_of_mem_eraseIdx hx') hsession y₀ hy₀
          (hrev.symm.trans hrev')
  | settled k result x hx hcurrent draft error hdraft =>
      have hoff : (s.sessions.modify x.session (fun y => { y with pending := false }))[
          s.session]?.any (fun y => y.pending) = false := by
        rw [hcurrent]
        exact any_modify_eq h.current
      refine Booked.refresh ⟨by simpa using h.current, h.counted_erase hx, hoff.symm, ?_, ?_⟩
      · intro x' hx' y hy
        obtain ⟨y₀, hy₀, hrev⟩ := getElem?_modify_pending hy
        rw [hrev]
        exact h.aged x' (List.mem_of_mem_eraseIdx hx') y₀ hy₀
      · -- the session awaits nothing any more
        intro x' hx' hsession
        have hcount := h.counted_erase hx s.session
        rw [hoff] at hcount
        have hnone := List.countP_eq_zero.mp hcount x' hx'
        exact absurd hsession (by simpa using hnone)

-- ============================================================================
-- Every run
-- ============================================================================

/-- The send has the revision that its session has now. -/
def Current (s : ChatComposer) (x : Awaited) : Prop :=
  x.session = s.session ∧ ∃ y, s.sessions[s.session]? = some y ∧ y.revision = x.revision

/-- The send was made in the run, and no edit has come after it. -/
def Unedited (s₀ : ChatComposer) (es : List Event) (x : Awaited) : Prop :=
  ∃ before p after, es = before ++ .send p :: after ∧ x ∉ (run step s₀ before).awaited ∧
    x ∈ (run step s₀ (before ++ [.send p])).awaited ∧ ∀ p' value, .edit p' value ∉ after

theorem Unedited.concat {s₀ : ChatComposer} {es : List Event} (h : Unedited s₀ es x)
    (he : ∀ p value, e ≠ .edit p value) : Unedited s₀ (es ++ [e]) x := by
  obtain ⟨before, p, after, rfl, hold, hnew, hafter⟩ := h
  refine ⟨before, p, after ++ [e], by simp, hold, hnew, ?_⟩
  intro p' value hmem
  rcases List.mem_append.mp hmem with hmem | hmem
  · exact hafter p' value hmem
  · exact he p' value (List.mem_singleton.mp hmem).symm

/-- A send that is current after a step was current before it, and the step was no edit; or
    the step has made it. -/
theorem Booked.current_turn (h : Booked s) (ht : Turn s e s') (hx : x ∈ s'.awaited)
    (hcurrent : Current s' x) :
    (x ∈ s.awaited ∧ Current s x ∧ ∀ p value, e ≠ .edit p value) ∨
      (x ∉ s.awaited ∧ ∃ p, e = .send p) := by
  obtain ⟨hsession, y, hy, hrev⟩ := hcurrent
  cases ht with
  | edited p value =>
      exact absurd hrev (h.revision_edited hx hsession hy)
  | held p => exact .inl ⟨hx, ⟨hsession, y, hy, hrev⟩, fun _ _ => Event.noConfusion⟩
  | sent p y₁ hy₁ hfree =>
      rcases List.mem_append.mp hx with hold | hnew
      · obtain ⟨y₀, hy₀, hsame⟩ := getElem?_modify_pending hy
        exact .inl ⟨hold, ⟨hsession, y₀, hy₀, hsame.symm.trans hrev⟩, fun _ _ => Event.noConfusion⟩
      · have hnone : s.pendingAt s.session = false := by
          rw [pendingAt, hy₁]
          exact hfree
        refine .inr ⟨?_, p, rfl⟩
        intro hold
        exact not_mem_of_awaitedBy (h.awaitedBy_eq_zero hnone) hold hsession
  | stayed connected => exact .inl ⟨hx, ⟨hsession, y, hy, hrev⟩, fun _ _ => Event.noConfusion⟩
  | switched ws connected hws hnew =>
      exact absurd hsession (not_mem_of_awaitedBy h.fresh hx)
  | missing k result hk =>
      exact .inl ⟨hx, ⟨hsession, y, hy, hrev⟩, fun _ _ => Event.noConfusion⟩
  | earlier k result x₀ hx₀ hold =>
      obtain ⟨y₀, hy₀, hsame⟩ := getElem?_modify_pending hy
      exact .inl ⟨List.mem_of_mem_eraseIdx hx, ⟨hsession, y₀, hy₀, hsame.symm.trans hrev⟩,
        fun _ _ => Event.noConfusion⟩
  | settled k result x₀ hx₀ hcurrent draft error hdraft =>
      obtain ⟨y₀, hy₀, hsame⟩ := getElem?_modify_pending hy
      exact .inl ⟨List.mem_of_mem_eraseIdx hx, ⟨hsession, y₀, hy₀, hsame.symm.trans hrev⟩,
        fun _ _ => Event.noConfusion⟩

/-- What holds after the events `es`. -/
structure Reached (s₀ : ChatComposer) (es : List Event) : Prop where
  rendered : Rendered (run step s₀ es)
  booked : Booked (run step s₀ es)
  unedited : ∀ x ∈ (run step s₀ es).awaited, Current (run step s₀ es) x → Unedited s₀ es x

theorem reached (ws : Nat) (connected : Bool) (es : List Event) :
    Reached (mount ws connected) es := by
  induction es using List.reverseRecOn with
  | nil =>
      refine ⟨rendered_mount ws connected, booked_mount ws connected, ?_⟩
      intro x hx
      exact absurd hx List.not_mem_nil
  | append_singleton es e ih =>
      have hrun : run step (mount ws connected) (es ++ [e]) =
          (run step (mount ws connected) es).step e := by
        rw [run_append]
        rfl
      have ht := turn ih.rendered ih.booked.current e
      refine ⟨?_, ?_, ?_⟩
      · rw [hrun]
        exact rendered_rerender _
      · rw [hrun]
        exact ih.booked.turn ht
      · intro x hx hcurrent
        rw [hrun] at hx hcurrent
        rcases ih.booked.current_turn ht hx hcurrent with ⟨hold, hcur, he⟩ | ⟨hnew, p, rfl⟩
        · exact (ih.unedited x hold hcur).concat he
        · exact ⟨es, p, [], rfl, hnew, by rw [hrun]; exact hx, fun _ _ => List.not_mem_nil⟩

/-- What the composer promises after the events `es`. -/
structure KeepsText (s₀ : ChatComposer) (es : List Event) : Prop where
  single : ∀ k, ((run step s₀ es).awaited.filter (fun x => x.session = k)).length ≤ 1
  sending : (run step s₀ es).sending = true ↔
    ∃ x ∈ (run step s₀ es).awaited, x.session = (run step s₀ es).session
  /-- The draft changes by an edit, with the room, or when the send of what it is now, with no
      edit since, is acknowledged. -/
  draft : ∀ e, ((run step s₀ es).step e).draft ≠ (run step s₀ es).draft →
    (∃ p value, e = .edit p value ∧ ((run step s₀ es).step e).draft = value) ∨
    (∃ ws connected, e = .render ws connected ∧ ws ≠ (run step s₀ es).ws ∧
      ((run step s₀ es).step e).session ≠ (run step s₀ es).session) ∨
    ∃ k x, e = .settle k .acknowledged ∧ (run step s₀ es).awaited[k]? = some x ∧
      x.session = (run step s₀ es).session ∧ x.content = (run step s₀ es).draft ∧
      Unedited s₀ es x
  earlier : ∀ k result x, (run step s₀ es).awaited[k]? = some x →
    x.session ≠ (run step s₀ es).session →
      ((run step s₀ es).step (.settle k result)).draft = (run step s₀ es).draft ∧
      ((run step s₀ es).step (.settle k result)).error = (run step s₀ es).error ∧
      ((run step s₀ es).step (.settle k result)).sending = (run step s₀ es).sending

/-- **The composer never loses typed text.** -/
theorem composer_keeps_text (ws : Nat) (connected : Bool) (es : List Event) :
    KeepsText (mount ws connected) es := by
  have hreached := reached ws connected es
  have hcounted := hreached.booked.counted
  have hturn := turn hreached.rendered hreached.booked.current
  refine ⟨?_, ?_, ?_, ?_⟩
  · intro k
    have hcount := hcounted k
    rw [awaitedBy, List.countP_eq_length_filter] at hcount
    rw [hcount]
    split_ifs <;> decide
  · rw [hreached.booked.sending]
    have hcount := hcounted (run step (mount ws connected) es).session
    constructor
    · intro hpending
      rw [if_pos hpending] at hcount
      have hpos : 0 < (run step (mount ws connected) es).awaitedBy
          (run step (mount ws connected) es).session := by omega
      obtain ⟨x, hx, hsession⟩ := List.countP_pos_iff.mp hpos
      exact ⟨x, hx, of_decide_eq_true hsession⟩
    · rintro ⟨x, hx, hsession⟩
      by_contra hpending
      rw [if_neg hpending] at hcount
      exact not_mem_of_awaitedBy hcount hx hsession
  · intro e hne
    generalize hs' : (run step (mount ws connected) es).step e = s' at hne
    have ht := hs' ▸ hturn e
    cases ht with
    | edited p value => exact .inl ⟨p, value, rfl, rfl⟩
    | switched ws' connected' hws hnew =>
        exact .inr (.inl ⟨ws', connected', rfl, hws, hnew.symm⟩)
    | settled k result x hx hcurrent draft error hdraft =>
        rcases hdraft with hsame | ⟨-, rfl, y, hy, hrev⟩
        · exact absurd hsame hne
        · have hmem := List.mem_of_getElem? hx
          refine .inr (.inr ⟨k, x, rfl, hx, hcurrent, ?_, ?_⟩)
          · exact hreached.booked.unedited x hmem hcurrent y hy hrev
          · exact hreached.unedited x hmem ⟨hcurrent, y, hy, hrev⟩
    | held p => exact absurd rfl hne
    | sent p y hy hfree => exact absurd rfl hne
    | stayed connected' => exact absurd rfl hne
    | missing k result hk => exact absurd rfl hne
    | earlier k result x hx hold => exact absurd rfl hne
  · intro k result x hx hold
    generalize hs' : (run step (mount ws connected) es).step (.settle k result) = s'
    have ht := hs' ▸ hturn (.settle k result)
    cases ht with
    | missing k result hk => exact ⟨rfl, rfl, rfl⟩
    | earlier k result x hx hold => exact ⟨rfl, rfl, rfl⟩
    | settled k result x' hx' hcurrent draft error hdraft =>
        obtain rfl := Option.some.inj (hx.symm.trans hx')
        exact absurd hcurrent hold

end ChatComposer

end WatchTogether.Web

/-
  WatchTogether.Realtime.HostBuffering

  The host's browser and the actor of its room.  The host's commands reach the actor in
  the order in which they are sent.  Timelines and acknowledgements come back in the order
  in which the server sends them, but `RoomPage` hands a timeline to the controller only
  when React renders: it skips one for a newer one and lets acknowledgements overtake it.
  Connections get lost, commands are rejected by the server or time out, and the player
  gains and loses data, all in any order.

  A controller that has confirmed buffering recovers by its recovery timer, or by what
  follows from the `host_buffering` it still waits for.  It is stranded without both.
-/

import WatchTogether.Lib.LabelledRun
import WatchTogether.Rooms.Run
import WatchTogether.Web.Buffering

namespace WatchTogether.Realtime

open Rooms Web LabelledRun

variable {σ : Type}

-- ============================================================================
-- The player
-- ============================================================================

/-- The host's media element, as far as its data goes. -/
structure Player where
  readyState : Nat
  /-- `canplay` has been delivered since the data last came in. -/
  canPlayed : Bool
deriving DecidableEq

namespace Player

/-- The element reaches another `readyState`. -/
def become (readyState : Nat) (p : Player) : Player :=
  ⟨readyState, p.canPlayed && decide (haveFutureData ≤ readyState)⟩

/-- The player after a task; `destroy` takes the element away. -/
def after (attached : Bool) (task : Task) (p : Player) : Player :=
  match task with
  | .destroy => ⟨0, false⟩
  | .event .canplay =>
      ⟨p.readyState, p.canPlayed || (attached && decide (haveFutureData ≤ p.readyState))⟩
  | _ => p

/-- What a task reads of the browser, with this player in it. -/
def seen (p : Player) (env : BrowserEnv) : BrowserEnv :=
  { env with video := { env.video with readyState := p.readyState } }

end Player

-- ============================================================================
-- Both sides
-- ============================================================================

/-- The tasks of the host's browser that nothing from the server is needed for. -/
def isOwn : Task → Bool
  | .setRoomState _ _ | .replied _ _ | .setHost _ => false
  | _ => true

/-- The timelines among the effects that are put into the queue of `c`, a snapshot's to be
    forced. -/
def timelinesFor (c : Client) (es : List Effect) : List (PlaybackState × Bool) :=
  es.filterMap (fun x =>
    match x with
    | .send c' e true =>
        if c' = c then
          match e.event with
          | .roomSnapshot _ playback _ => some (playback, true)
          | .playbackState state => some (state, false)
          | _ => none
        else none
    | _ => none)

/-- What a task sends. -/
def requestsOf (acts : List Act) : List Request :=
  acts.filterMap (fun a =>
    match a with
    | .send r => some r
    | _ => none)

/-- `respond`: an acknowledgement or an error. -/
def accepted : Reply → Bool
  | .command (.ok _) => true
  | _ => false

/-- The host's browser, the room's actor and what is on its way between them. -/
structure HostSession (σ : Type) where
  ctl : SyncController
  player : Player
  actor : Actor σ
  /-- The host's last connection. -/
  client : Client
  /-- The socket is open. -/
  online : Bool
  requests : List Request
  timelines : List (PlaybackState × Bool)
  answers : List (Nat × Bool)

/-- What happens next. -/
inductive HostLabel where
  | ready (readyState : Nat)
  | browser (env : BrowserEnv) (task : Task)
  /-- The next timeline that is applied; those before it are skipped. -/
  | receive (env : BrowserEnv) (k : Nat)
  | answered (env : BrowserEnv) (k : Nat)
  /-- The browser gives a command up: the socket is not open, the connection is lost, or
      no answer has come in time. -/
  | reject (env : BrowserEnv) (id : Nat)
  /-- The server takes the host's next command. -/
  | serve (env : Env)
  /-- The actor handles any other message. -/
  | server (env : Env) (m : Msg)
  | lose
  | connect (conn : Nat)

namespace HostSession

/-- The actor handles a message, and the host's connection is sent its share. -/
def turn (P : Persistence σ) (env : Env) (m : Msg) (s : HostSession σ) : HostSession σ :=
  let actor := Actor.step P s.actor (env, m)
  let sent := timelinesFor s.client (actor.out.drop s.actor.out.length)
  { s with
    actor := actor
    timelines := if s.online then s.timelines ++ sent else s.timelines }

/-- The server takes the command `r` of the host. -/
def serve (P : Persistence σ) (env : Env) (r : Request) (s : HostSession σ) : HostSession σ :=
  let m := Msg.command s.client.identity r.command
  let ok := accepted (s.actor.process P env m).2
  let s := s.turn P env m
  { s with answers := s.answers ++ [(r.id, ok)] }

/-- The part of a step outside of the controller. -/
def transport (P : Persistence σ) (s : HostSession σ) : HostLabel → HostSession σ
  | .ready readyState => { s with player := s.player.become readyState }
  | .browser _ _ => s
  | .receive _ k => { s with timelines := s.timelines.drop (k + 1) }
  | .answered _ k => { s with answers := s.answers.eraseIdx k }
  | .reject _ _ => s
  | .serve env =>
      match s.requests with
      | [] => s
      | r :: rest => { s with requests := rest }.serve P env r
  | .server env m => s.turn P env m
  | .lose => { s with online := false, requests := [], timelines := [], answers := [] }
  | .connect conn =>
      if s.online then s else { s with online := true, client := ⟨conn, s.client.identity⟩ }

/-- The task a step runs in the host's browser, if it runs one. -/
def task (s : HostSession σ) : HostLabel → Option (BrowserEnv × Task)
  | .browser env task => if isOwn task then some (env, task) else none
  | .receive env k => s.timelines[k]?.map (fun t => (env, .setRoomState t.1 t.2))
  | .answered env k => s.answers[k]?.map (fun a => (env, .replied a.1 a.2))
  | .reject env id => some (env, .replied id false)
  | _ => none

/-- The host's browser runs a task. -/
def act (env : BrowserEnv) (task : Task) (s : HostSession σ) : HostSession σ :=
  let ctl := s.ctl.step (s.player.seen env, task)
  { s with
    ctl := ctl
    player := s.player.after s.ctl.attached task
    requests := if s.online then s.requests ++ requestsOf ctl.acts else s.requests }

/-- One step of the host's page, the network or the actor. -/
def step (P : Persistence σ) (s : HostSession σ) (l : HostLabel) : HostSession σ :=
  match s.task l with
  | none => s.transport P l
  | some (env, task) => (s.transport P l).act env task

/-- A fresh controller of the room's host, offline, beside the actor `a`. -/
def start (a : Actor σ) (c : Client) : HostSession σ :=
  { ctl := .create true, player := ⟨0, false⟩, actor := a, client := c, online := false,
    requests := [], timelines := [], answers := [] }

/-- Where the room plays, the player has data and the controller waits for nothing, the
    controller does not take the player for buffering, and can report it again. -/
def Recovered (s : HostSession σ) : Prop :=
  s.ctl.inPhase .playing = true → haveFutureData ≤ s.player.readyState →
  s.player.canPlayed = true → s.ctl.awaiting = [] → s.ctl.bufferConfirmTimer = none →
  s.ctl.recoveryTimer = none →
  s.ctl.confirmedBuffering = false ∧ s.ctl.hostBufferingReported = false

end HostSession

-- ============================================================================
-- Stranded
-- ============================================================================

/-- The `host_buffering` commands among the requests. -/
def reports (rs : List Request) : List Request :=
  rs.filter (fun r => decide (r.command.type = .playbackHostBuffering))

/-- The player has its data back and counts as buffering, and neither the recovery timer
    nor an unanswered `host_buffering` will change that. -/
def Stranded (p : Player) (b : Buffering) : Prop :=
  haveFutureData ≤ p.readyState ∧ p.canPlayed = true ∧ b.confirmedBuffering = true ∧
    b.recoveryTimer = none ∧ reports b.awaiting = []

/-- The recovery timer gives up on a room that is not buffering, though no report is left
    to bring it there; or the last report is answered while the controller waits for the
    room, with nothing timed; or a `host_ready` is refused, with nothing timed. -/
def Abandons (env : BrowserEnv) (b : Buffering) : Task → Prop
  | .recoveryTimer =>
      b.recoveryTimer.any (fun due => decide (due ≤ env.now)) = true ∧
        b.hostBufferingReported = true ∧
        b.state.any (fun state => decide (state.phase ≠ .buffering)) = true ∧
        reports b.awaiting = []
  | .replied id ok =>
      ∃ r ∈ b.awaiting.find? (fun r => r.id = id),
        b.recoveryTimer = none ∧ reports (b.awaiting.erase r) = [] ∧
          ((r.command.type = .playbackHostBuffering ∧ b.confirmedBuffering = true) ∨
            (r.command.type = .playbackHostReady ∧ ok = false))
  | _ => False

instance (env : BrowserEnv) (b : Buffering) : (task : Task) → Decidable (Abandons env b task)
  | .recoveryTimer => inferInstanceAs (Decidable (_ ∧ _))
  | .replied id ok =>
      inferInstanceAs (Decidable (∃ r ∈ b.awaiting.find? (fun r => r.id = id),
        b.recoveryTimer = none ∧ reports (b.awaiting.erase r) = [] ∧
          ((r.command.type = .playbackHostBuffering ∧ b.confirmedBuffering = true) ∨
            (r.command.type = .playbackHostReady ∧ ok = false))))
  | .attach | .destroy | .setRoomState _ _ | .setHost _ | .realign | .suspend | .resumeLocal
  | .onUserPlay | .onUserPause | .onUserSeek _ | .onUserRateChange _ | .tick | .heartbeat
  | .playTimer | .bufferConfirmTimer | .event _ | .playSettled _ =>
      inferInstanceAs (Decidable False)

/-- The task abandons a player that has its data back. -/
def Strands (env : BrowserEnv) (task : Task) (p : Player) (b : Buffering) : Prop :=
  haveFutureData ≤ p.readyState ∧ p.canPlayed = true ∧ Abandons env b task

instance (env : BrowserEnv) (task : Task) (p : Player) (b : Buffering) :
    Decidable (Strands env task p b) :=
  inferInstanceAs (Decidable (_ ∧ _))

/-- What holds of the host's player and controller in every state. -/
structure Sound (p : Player) (b : Buffering) : Prop where
  host : b.isHost = true
  data : p.canPlayed = true → haveFutureData ≤ p.readyState ∧ b.attached = true ∧
    b.bufferSuspected = false ∧ b.bufferConfirmTimer = none
  state : (b.confirmedBuffering = true ∨ ∃ r ∈ b.awaiting, r.command.type = .playbackHostReady) →
    b.state.isSome = true
  /-- A host that has recovered has told the room and waits for its answer. -/
  reported : b.hostBufferingReported = true → b.confirmedBuffering = false →
    ∃ r ∈ b.awaiting, r.command.type = .playbackHostReady

theorem reports_append (rs ts : List Request) : reports (rs ++ ts) = reports rs ++ reports ts :=
  List.filter_append ..

/-- Another request leaves the reports as they are. -/
theorem reports_erase {rs : List Request} {r : Request}
    (h : r.command.type ≠ .playbackHostBuffering) : reports (rs.erase r) = reports rs := by
  have hnot : r ∉ reports rs := by
    intro hmem
    exact h (by simpa [reports] using (List.mem_filter.mp hmem).2)
  rw [reports, ← List.erase_filter]
  exact List.erase_of_not_mem hnot

-- ============================================================================
-- One task
-- ============================================================================

theorem after_passive {attached : Bool} {task : Task} {p : Player} (h : task.isPassive = true) :
    p.after attached task = p := by
  unfold Player.after
  split
  · exact Bool.noConfusion h
  · exact Bool.noConfusion h
  · rfl

theorem after_detached (e : SyncController.MediaEvent) (p : Player) :
    p.after false (.event e) = p := by
  cases e <;> simp [Player.after]

/-- After a media event of a player that is ready for it, the data is the player's. -/
theorem after_event {attached : Bool} {e : SyncController.MediaEvent} {p : Player}
    (h : (p.after attached (.event e)).canPlayed = true) :
    (p.after attached (.event e)).readyState = p.readyState ∧
      (p.canPlayed = true ∨ (attached = true ∧ haveFutureData ≤ p.readyState)) := by
  by_cases hcanplay : e = .canplay
  · subst hcanplay
    simp only [Player.after, Bool.or_eq_true, Bool.and_eq_true, decide_eq_true_eq] at h ⊢
    exact ⟨trivial, h⟩
  · have hsame : p.after attached (.event e) = p := by
      cases e <;> first | rfl | exact absurd rfl hcanplay
    rw [hsame] at h ⊢
    exact ⟨rfl, Or.inl h⟩

/-- What an answer makes of a sound controller. -/
theorem sound_settle {p : Player} {b : Buffering} {r : Request} (ok : Bool) (hs : Sound p b)
    (hr : r ∈ b.awaiting) :
    Sound p (Buffering.settle r.command.type ok { b with awaiting := b.awaiting.erase r }) := by
  obtain ⟨hhost, hdata, hstate, hreported⟩ := hs
  have hfewer : (∃ x ∈ b.awaiting.erase r, x.command.type = .playbackHostReady) →
      ∃ x ∈ b.awaiting, x.command.type = .playbackHostReady := by
    rintro ⟨x, hx, htype⟩
    exact ⟨x, List.mem_of_mem_erase hx, htype⟩
  have hkept : Sound p { b with awaiting := b.awaiting.erase r } ∨
      r.command.type = .playbackHostReady := by
    by_cases hready : r.command.type = .playbackHostReady
    · exact Or.inr hready
    · refine Or.inl ⟨hhost, hdata, fun h => hstate (h.imp id hfewer), ?_⟩
      intro hrep hnot
      obtain ⟨x, hx, htype⟩ := hreported hrep hnot
      have hne : x ≠ r := fun h => hready (h ▸ htype)
      exact ⟨x, (List.mem_erase_of_ne hne).mpr hx, htype⟩
  unfold Buffering.settle
  split
  · rename_i htype
    rcases hkept with hkept | hready
    · exact ⟨hkept.host, hkept.data, hkept.state, fun h => Bool.noConfusion h⟩
    · rw [htype] at hready
      exact CommandType.noConfusion hready
  · exact ⟨hhost, hdata, fun h => hstate (h.imp id hfewer), fun h => Bool.noConfusion h⟩
  · rename_i htype
    exact ⟨hhost, hdata, fun _ => hstate (Or.inr ⟨r, hr, htype⟩), fun _ h => Bool.noConfusion h⟩
  · rename_i ok _ _ _ haccepted hrefused
    rcases hkept with hkept | hready
    · exact hkept
    · cases ok with
      | true => exact absurd rfl (haccepted hready)
      | false => exact absurd rfl (hrefused hready)

/-- **Step lemma.**  A task keeps the controller sound. -/
theorem sound_turn {env : BrowserEnv} {task : Task} {p : Player} {b b' : Buffering}
    (hs : Sound p b) (hturn : BufferingTurn (p.seen env) b task b')
    (hnohost : ∀ value, task ≠ .setHost value) :
    Sound (p.after b.attached task) b' := by
  have hs₀ := hs
  obtain ⟨hhost, hdata, hstate, hreported⟩ := hs
  cases hturn with
  | kept task rs htask hrs =>
      rw [after_passive htask]
      refine ⟨hhost, hdata, ?_, ?_⟩
      · rintro (h | ⟨r, hr, htype⟩)
        · exact hstate (Or.inl h)
        · rcases List.mem_append.mp hr with hr | hr
          · exact hstate (Or.inr ⟨r, hr, htype⟩)
          · exact absurd htype (hrs r hr)
      · intro hrep hnot
        obtain ⟨r, hr, htype⟩ := hreported hrep hnot
        exact ⟨r, List.mem_append_left rs hr, htype⟩
  | detached e h =>
      rw [h, after_detached]
      exact hs₀
  | applied task x y htask hxstate hxhost hxattached hx hy =>
      rw [after_passive htask]
      have hx' : Sound p x := by
        rw [hx]
        refine ⟨(hxhost hnohost).trans hhost, ?_, fun h => hxstate (hstate h), hreported⟩
        intro hplayed
        obtain ⟨hready, hattached, hsuspected, htimer⟩ := hdata hplayed
        exact ⟨hready, hxattached hattached, hsuspected, htimer⟩
      rcases hy with rfl | ⟨due, rfl⟩
      · exact hx'
      · exact ⟨hx'.host, hx'.data, hx'.state, hx'.reported⟩
  | destroyed => exact ⟨hhost, fun h => Bool.noConfusion h, hstate, hreported⟩
  | suspected e due hdry =>
      refine ⟨hhost, ?_, hstate, hreported⟩
      intro hplayed
      -- a dry player has not been given its `canplay`
      have hdry : p.readyState < haveFutureData := hdry
      obtain ⟨-, hcanplay | ⟨-, hready⟩⟩ := after_event hplayed
      · exact absurd (hdata hcanplay).1 (by omega)
      · exact absurd hready (by omega)
  | dataBack e timer he hidle htimed =>
      refine ⟨hhost, ?_, hstate, hreported⟩
      intro hplayed
      obtain ⟨hsame, hcanplay | ⟨hattached, hready⟩⟩ := after_event hplayed
      · obtain ⟨hready, hattached, -, -⟩ := hdata hcanplay
        exact ⟨hsame ▸ hready, hattached, rfl, rfl⟩
      · exact ⟨hsame ▸ hready, hattached, rfl, rfl⟩
  | refuted =>
      refine ⟨hhost, ?_, hstate, hreported⟩
      intro hplayed
      obtain ⟨hready, hattached, -, -⟩ := hdata hplayed
      exact ⟨hready, hattached, rfl, rfl⟩
  | confirmed rs reported hsome hdry hrep =>
      refine ⟨hhost, ?_, fun _ => hsome, fun _ h => Bool.noConfusion h⟩
      intro hplayed
      have hdry : p.readyState < haveFutureData := hdry
      exact absurd (hdata hplayed).1 (by omega)
  | notDue h => exact hs₀
  | relapsed h => exact ⟨hhost, hdata, hstate, hreported⟩
  | gaveUp _ _ hrep hphase =>
      refine ⟨hhost, hdata, ?_, fun _ h => Bool.noConfusion h⟩
      intro _
      obtain ⟨state, hsome, -⟩ := (Option.any_eq_true _ _).mp hphase
      rw [hsome]
      rfl
  | recovered rs hsome hphase hreport =>
      refine ⟨hhost, hdata, fun _ => hsome, ?_⟩
      intro hrep _
      obtain ⟨r, hr, htype⟩ := hreport hhost hrep
      exact ⟨r, List.mem_append_right _ hr, htype⟩
  | unknown id ok h => exact hs₀
  | replied id ok r h => exact sound_settle ok hs₀ (List.mem_of_find?_eq_some h)

/-- An answer strands a controller that was not, or does not, as `Strands` says. -/
theorem stranded_settle {env : BrowserEnv} {id : Nat} {ok : Bool} {p : Player} {b : Buffering}
    {r : Request} (hr : b.awaiting.find? (fun r => r.id = id) = some r) (hnot : ¬Stranded p b) :
    Stranded p (Buffering.settle r.command.type ok { b with awaiting := b.awaiting.erase r }) ↔
      Strands env (.replied id ok) p b := by
  -- every other answer leaves the flags and the reports alone
  have hother : r.command.type ≠ .playbackHostBuffering → ∀ reported,
      ¬Stranded p { b with hostBufferingReported := reported, awaiting := b.awaiting.erase r } := by
    rintro hreport reported ⟨hready, hplayed, hconfirmed, htimer, hreports⟩
    refine hnot ⟨hready, hplayed, hconfirmed, htimer, ?_⟩
    rw [← reports_erase hreport]
    exact hreports
  have hstrands : Strands env (.replied id ok) p b ↔ haveFutureData ≤ p.readyState ∧
      p.canPlayed = true ∧ b.recoveryTimer = none ∧ reports (b.awaiting.erase r) = [] ∧
        ((r.command.type = .playbackHostBuffering ∧ b.confirmedBuffering = true) ∨
          (r.command.type = .playbackHostReady ∧ ok = false)) := by
    unfold Strands Abandons
    simp [hr]
  rw [hstrands]
  by_cases hreport : r.command.type = .playbackHostBuffering
  · have hsame : Stranded p (Buffering.settle r.command.type ok
        { b with awaiting := b.awaiting.erase r }) ↔
        Stranded p { b with awaiting := b.awaiting.erase r } := by
      rw [hreport]
      cases ok <;> rfl
    rw [hsame]
    constructor
    · rintro ⟨hready, hplayed, hconfirmed, htimer, hreports⟩
      exact ⟨hready, hplayed, htimer, hreports, Or.inl ⟨hreport, hconfirmed⟩⟩
    · rintro ⟨hready, hplayed, htimer, hreports, ⟨-, hconfirmed⟩ | ⟨hhostReady, -⟩⟩
      · exact ⟨hready, hplayed, hconfirmed, htimer, hreports⟩
      · exact absurd (hreport.symm.trans hhostReady) (by simp)
  by_cases hhostReady : r.command.type = .playbackHostReady
  · rw [hhostReady] at hreport ⊢
    cases ok with
    | true =>
        constructor
        · intro h
          exact absurd h (hother (by rw [hhostReady]; exact hreport) false)
        · rintro ⟨-, -, -, -, ⟨h, -⟩ | ⟨-, h⟩⟩
          · exact absurd h hreport
          · exact Bool.noConfusion h
    | false =>
        constructor
        · rintro ⟨hready, hplayed, -, htimer, hreports⟩
          exact ⟨hready, hplayed, htimer, hreports, Or.inr ⟨rfl, rfl⟩⟩
        · rintro ⟨hready, hplayed, htimer, hreports, -⟩
          exact ⟨hready, hplayed, rfl, htimer, hreports⟩
  · constructor
    · intro h
      have hsame : Buffering.settle r.command.type ok { b with awaiting := b.awaiting.erase r }
          = { b with awaiting := b.awaiting.erase r } := by
        unfold Buffering.settle
        split
        · rename_i htype
          exact absurd htype hreport
        · rename_i htype
          exact absurd htype hhostReady
        · rename_i htype
          exact absurd htype hhostReady
        · rfl
      rw [hsame] at h
      exact absurd h (hother hreport b.hostBufferingReported)
    · rintro ⟨-, -, -, -, ⟨h, -⟩ | ⟨h, -⟩⟩
      · exact absurd h hreport
      · exact absurd h hhostReady

theorem not_strands_of_passive {env : BrowserEnv} {task : Task} {p : Player} {b : Buffering}
    (h : task.isPassive = true) : ¬Strands env task p b := by
  rintro ⟨-, -, hstrands⟩
  unfold Abandons at hstrands
  split at hstrands
  · exact Bool.noConfusion h
  · exact Bool.noConfusion h
  · exact hstrands

/-- The timer is still set, or is set anew. -/
theorem stranded_of_applied {p : Player} {x y : Buffering} (h : Stranded p y)
    (hy : y = x ∨ ∃ due, y = { x with recoveryTimer := some due }) : Stranded p x := by
  rcases hy with rfl | ⟨due, rfl⟩
  · exact h
  · exact absurd h.2.2.2.1 (by simp)

/-- **Step lemma.**  A task strands a sound controller exactly if it is one of `Strands`. -/
theorem stranded_turn {env : BrowserEnv} {task : Task} {p : Player} {b b' : Buffering}
    (hs : Sound p b) (hturn : BufferingTurn (p.seen env) b task b') (hnot : ¬Stranded p b) :
    Stranded (p.after b.attached task) b' ↔ Strands env task p b := by
  have hneither : ∀ {x y : Prop}, ¬x → ¬y → (x ↔ y) := fun hx hy =>
    ⟨fun h => absurd h hx, fun h => absurd h hy⟩
  cases hturn with
  | kept task rs htask hrs =>
      rw [after_passive htask]
      refine hneither ?_ (not_strands_of_passive htask)
      rintro ⟨hready, hplayed, hconfirmed, htimer, hreports⟩
      have hreports : reports (b.awaiting ++ rs) = [] := hreports
      rw [reports_append] at hreports
      exact hnot ⟨hready, hplayed, hconfirmed, htimer, (List.append_eq_nil_iff.mp hreports).1⟩
  | detached e h =>
      rw [h, after_detached]
      exact hneither hnot (fun h => h.2.2)
  | applied task x y htask hxstate hxhost hxattached hx hy =>
      rw [after_passive htask]
      refine hneither ?_ (not_strands_of_passive htask)
      intro h
      have hstranded := stranded_of_applied h hy
      rw [hx] at hstranded
      exact hnot hstranded
  | destroyed => exact hneither (fun h => Bool.noConfusion h.2.1) (fun h => h.2.2)
  | suspected e due hdry =>
      refine hneither ?_ (fun h => h.2.2)
      rintro ⟨hready, hplayed, -⟩
      have hdry : p.readyState < haveFutureData := hdry
      rw [(after_event hplayed).1] at hready
      omega
  | dataBack e timer he hidle htimed =>
      refine hneither ?_ (fun h => h.2.2)
      rintro ⟨-, -, hconfirmed, htimer, -⟩
      have htimer : timer = none := htimer
      have hset := htimed hconfirmed
      rw [htimer] at hset
      exact Bool.noConfusion hset
  | refuted => exact hneither hnot (fun h => h.2.2)
  | confirmed rs reported hsome hdry hrep =>
      refine hneither ?_ (fun h => h.2.2)
      rintro ⟨hready, -⟩
      have hready : haveFutureData ≤ p.readyState := hready
      have hdry : p.readyState < haveFutureData := hdry
      omega
  | notDue h =>
      refine hneither hnot ?_
      rintro ⟨-, -, hdue, -⟩
      exact Bool.noConfusion (hdue.symm.trans h)
  | relapsed h =>
      have hdry : p.canPlayed = true → b.state.isSome = true → p.readyState < haveFutureData := by
        intro hplayed hsome
        obtain ⟨-, hattached, hsuspected, -⟩ := hs.data hplayed
        exact h hsome hattached hsuspected
      refine hneither ?_ ?_
      · rintro ⟨hready, hplayed, hconfirmed, -⟩
        have hready : haveFutureData ≤ p.readyState := hready
        have hdry := hdry hplayed (hs.state (Or.inl hconfirmed))
        omega
      · rintro ⟨hready, hplayed, -, -, hphase, -⟩
        obtain ⟨state, hsome, -⟩ := (Option.any_eq_true _ _).mp hphase
        have hdry := hdry hplayed (by rw [hsome]; rfl)
        omega
  | gaveUp hdue hhost hrep hphase =>
      constructor
      · rintro ⟨hready, hplayed, -, -, hreports⟩
        exact ⟨hready, hplayed, hdue, hrep, hphase, hreports⟩
      · rintro ⟨hready, hplayed, -, -, -, hreports⟩
        exact ⟨hready, hplayed, rfl, rfl, hreports⟩
  | recovered rs hsome hphase hreport =>
      refine hneither (fun h => Bool.noConfusion h.2.2.1) ?_
      rintro ⟨-, -, -, hrep, hother, -⟩
      exact hphase ⟨hs.host, hrep, hother⟩
  | unknown id ok h =>
      refine hneither hnot ?_
      rintro ⟨-, -, r, hr, -⟩
      rw [h] at hr
      exact Option.not_mem_none r hr
  | replied id ok r h => exact stranded_settle h hnot

-- ============================================================================
-- Runs
-- ============================================================================

namespace HostSession

/-- The step strands the host. -/
def StrandsHost (s : HostSession σ) (l : HostLabel) : Prop :=
  ∃ t ∈ s.task l, Strands t.1 t.2 s.player s.ctl.buffering

instance (s : HostSession σ) (l : HostLabel) : Decidable (s.StrandsHost l) :=
  inferInstanceAs (Decidable (∃ t ∈ s.task l, Strands t.1 t.2 s.player s.ctl.buffering))

/-- The controller is sound and not stranded. -/
structure Well (s : HostSession σ) : Prop where
  sound : Sound s.player s.ctl.buffering
  free : ¬Stranded s.player s.ctl.buffering

/-- Nothing outside of the browser touches the controller, and only the data touches the
    player. -/
theorem transport_ctl (P : Persistence σ) (s : HostSession σ) (l : HostLabel) :
    (s.transport P l).ctl = s.ctl ∧
      ((s.transport P l).player = s.player ∨
        ∃ n, l = .ready n ∧ (s.transport P l).player = s.player.become n) := by
  cases l with
  | ready n => exact ⟨rfl, Or.inr ⟨n, rfl, rfl⟩⟩
  | serve env =>
      rw [transport]
      split
      · exact ⟨rfl, Or.inl rfl⟩
      · exact ⟨rfl, Or.inl rfl⟩
  | connect conn =>
      rw [transport]
      split
      · exact ⟨rfl, Or.inl rfl⟩
      · exact ⟨rfl, Or.inl rfl⟩
  | _ => exact ⟨rfl, Or.inl rfl⟩

/-- No step makes the host a member. -/
theorem task_ne_setHost {s : HostSession σ} {l : HostLabel} {t : BrowserEnv × Task}
    (h : s.task l = some t) (value : Bool) : t.2 ≠ .setHost value := by
  cases l with
  | browser env task =>
      rw [HostSession.task] at h
      split at h
      · rename_i hown
        obtain rfl := Option.some.inj h
        rintro rfl
        exact Bool.noConfusion hown
      · exact absurd h (by simp)
  | receive env k =>
      obtain ⟨x, -, rfl⟩ := Option.map_eq_some_iff.mp h
      simp
  | answered env k =>
      obtain ⟨x, -, rfl⟩ := Option.map_eq_some_iff.mp h
      simp
  | reject env id =>
      obtain rfl := Option.some.inj h
      simp
  | _ => exact absurd h (by simp [HostSession.task])

/-- Data that comes or goes keeps the controller well. -/
theorem well_transport {P : Persistence σ} {s : HostSession σ} {l : HostLabel} (hs : s.Well) :
    (s.transport P l).Well := by
  obtain ⟨hctl, hplayer⟩ := s.transport_ctl P l
  have hgoes : ∀ n, (s.player.become n).canPlayed = true →
      s.player.canPlayed = true ∧ haveFutureData ≤ n := by
    intro n h
    simpa [Player.become] using h
  rcases hplayer with hsame | ⟨n, -, hbecome⟩
  · refine ⟨?_, ?_⟩
    · rw [hctl, hsame]
      exact hs.sound
    · rw [hctl, hsame]
      exact hs.free
  · refine ⟨?_, ?_⟩
    · rw [hctl, hbecome]
      refine ⟨hs.sound.host, ?_, hs.sound.state, hs.sound.reported⟩
      intro hplayed
      obtain ⟨hplayed, hready⟩ := hgoes n hplayed
      exact ⟨hready, (hs.sound.data hplayed).2⟩
    · rw [hctl, hbecome]
      rintro ⟨-, hplayed, hrest⟩
      obtain ⟨hplayed, -⟩ := hgoes n hplayed
      exact hs.free ⟨(hs.sound.data hplayed).1, hplayed, hrest⟩

/-- A step that runs a task finds the player as it was. -/
theorem transport_of_task {P : Persistence σ} {s : HostSession σ} {l : HostLabel}
    {t : BrowserEnv × Task} (h : s.task l = some t) :
    (s.transport P l).ctl = s.ctl ∧ (s.transport P l).player = s.player := by
  obtain ⟨hctl, hplayer⟩ := s.transport_ctl P l
  refine ⟨hctl, hplayer.resolve_right ?_⟩
  rintro ⟨n, rfl, -⟩
  exact absurd h (by simp [HostSession.task])

/-- **Step lemma.**  A step keeps the controller sound, and strands it exactly if it is
    one of `StrandsHost`. -/
theorem step_well {P : Persistence σ} {s : HostSession σ} {l : HostLabel} (hs : s.Well) :
    Sound (s.step P l).player (s.step P l).ctl.buffering ∧
      (Stranded (s.step P l).player (s.step P l).ctl.buffering ↔ s.StrandsHost l) := by
  rw [step]
  cases htask : s.task l with
  | none =>
      have hwell := well_transport (P := P) (l := l) hs
      refine ⟨hwell.sound, fun h => absurd h hwell.free, ?_⟩
      rintro ⟨t, ht, -⟩
      rw [htask] at ht
      exact absurd ht (Option.not_mem_none t)
  | some t =>
      obtain ⟨env, task⟩ := t
      obtain ⟨hctl, hplayer⟩ := transport_of_task (P := P) htask
      have hturn : BufferingTurn (s.player.seen env) s.ctl.buffering task
          (s.ctl.step (s.player.seen env, task)).buffering :=
        SyncController.bufferingTurn_step s.ctl (s.player.seen env, task)
      have hstrands : s.StrandsHost l ↔ Strands env task s.player s.ctl.buffering := by
        rw [StrandsHost, htask]
        simp
      dsimp only
      rw [act, hctl, hplayer, hstrands]
      exact ⟨sound_turn hs.sound hturn (task_ne_setHost htask),
        stranded_turn hs.sound hturn hs.free⟩

theorem start_well (a : Actor σ) (c : Client) : (start a c).Well := by
  refine ⟨⟨rfl, fun h => Bool.noConfusion h, ?_, fun h => Bool.noConfusion h⟩,
    fun h => Bool.noConfusion h.2.1⟩
  rintro (h | ⟨r, hr, -⟩)
  · exact Bool.noConfusion h
  · exact absurd hr List.not_mem_nil

theorem step_well_of {P : Persistence σ} {s : HostSession σ} {l : HostLabel} (hs : s.Well)
    (hok : ¬s.StrandsHost l) : (s.step P l).Well :=
  ⟨(step_well hs).1, fun h => hok ((step_well hs).2.mp h)⟩

theorem recovered_of_well {s : HostSession σ} (hs : s.Well) : s.Recovered := by
  intro hplaying hready hplayed hawaiting hconfirm htimer
  have hclear : s.ctl.confirmedBuffering = false := by
    by_contra hbuffering
    refine hs.free ⟨hready, hplayed, Bool.not_eq_false _ ▸ hbuffering, htimer, ?_⟩
    show reports s.ctl.awaiting = []
    rw [hawaiting]
    rfl
  refine ⟨hclear, ?_⟩
  by_contra hreported
  obtain ⟨r, hr, -⟩ := hs.sound.reported (Bool.not_eq_false _ ▸ hreported) hclear
  have hr : r ∈ s.ctl.awaiting := hr
  rw [hawaiting] at hr
  exact List.not_mem_nil hr

/-- **The host is stranded exactly by those steps.** -/
theorem never_stranded_iff (P : Persistence σ) (a : Actor σ) (c : Client) (ls : List HostLabel) :
    (∀ pre post, ls = pre ++ post → ¬Stranded (run (step P) (start a c) pre).player
        (run (step P) (start a c) pre).ctl.buffering) ↔
      EachStep (step P) (fun s l => ¬s.StrandsHost l) (start a c) ls := by
  refine run_breaks_iff (I := Well)
    (J := fun s => ¬Stranded s.player s.ctl.buffering) (fun s l hs => step_well_of hs) ?_
    (fun s hs => hs.free) (start_well a c)
  intro s l hs hbad hfree
  exact hfree ((step_well hs).2.mpr (by_contra hbad))

/-- **Host buffering recovers.**  In every run in which no step strands the host, whatever
    the host, the server and the network do and in whatever order, the host has recovered
    in every state in which nothing is under way. -/
theorem host_buffering_recovers (P : Persistence σ) (a : Actor σ) (c : Client)
    (ls : List HostLabel)
    (hok : EachStep (step P) (fun s l => ¬s.StrandsHost l) (start a c) ls) :
    ∀ pre post, ls = pre ++ post → (run (step P) (start a c) pre).Recovered := by
  rintro pre post rfl
  have hwell : (run (step P) (start a c) pre).Well :=
    run_invariant_before (fun _ _ => step_well_of) (start_well a c) hok
  exact recovered_of_well hwell

/-! ## A host that runs dry -/

/-- The host comes to its film and plays it. -/
def joinAndPlay : List HostLabel :=
  [.connect 1, .server (Env.at 0) (.join (userClient 1 "h")), .receive (playerAt 0 true) 0,
   .browser (playerAt 0 true) .attach, .ready 4, .browser (playerAt 0 true) (.event .canplay),
   .browser (playerAt 0 true) .onUserPlay, .serve (Env.at 0), .receive (playerAt 0 true) 0,
   .answered (playerAt 0 true) 0]

/-- The host runs dry, and the room waits for it. -/
def runDry : List HostLabel :=
  [.ready 2, .browser (playerAt 5000 false) (.event .waiting),
   .browser (playerAt 7000 false) .bufferConfirmTimer, .serve (Env.at 7000),
   .receive (playerAt 7000 true) 0, .answered (playerAt 7000 true) 0]

/-- The data comes back, and stays. -/
def dataBack : List HostLabel :=
  [.ready 4, .browser (playerAt 9000 true) (.event .canplay),
   .browser (playerAt 10000 true) .recoveryTimer]

/-- What the server makes of the host's last command reaches the host. -/
def roundTrip (now : Nat) : List HostLabel :=
  [.serve (Env.at now), .receive (playerAt now true) 0, .answered (playerAt now true) 0]

/-- The film's room, before anybody is in it. -/
def filmSession : HostSession Unit :=
  start (newActor { smallRoom "h" with mediaID := some "film" } none () 60) (userClient 0 "h")

/-- The host recovers, tells the room, and the room plays on. -/
theorem host_buffering_recovers_dataBack :
    let s := run (step (.answering (.ok ()) [])) filmSession
      (joinAndPlay ++ runDry ++ dataBack ++ roundTrip 10000)
    s.ctl.inPhase .playing = true ∧ s.ctl.confirmedBuffering = false ∧
      s.ctl.hostBufferingReported = false := by
  refine ⟨by decide +kernel, ?_⟩
  exact host_buffering_recovers (.answering (.ok ()) []) _ _
    (joinAndPlay ++ runDry ++ dataBack ++ roundTrip 10000) (by decide +kernel) _ []
    (List.append_nil _).symm (by decide +kernel) (by decide +kernel) (by decide +kernel)
    (by decide +kernel) (by decide +kernel) (by decide +kernel)

/-- The host presses play while the room waits for it, and gets its data back only then. -/
def playsOn : List HostLabel :=
  joinAndPlay ++ runDry ++ .browser (playerAt 8000 true) .onUserPlay :: roundTrip 8000 ++ dataBack

/-- The room plays, the player has data, nothing is under way, and the host keeps waiting
    for its buffering to be confirmed. -/
theorem playsOn_wedged :
    ¬(run (step (.answering (.ok ()) [])) filmSession playsOn).Recovered := by
  intro h
  have hclear := h (by decide +kernel) (by decide +kernel) (by decide +kernel) (by decide +kernel)
    (by decide +kernel) (by decide +kernel)
  exact absurd hclear.1 (by decide +kernel)

end HostSession

end WatchTogether.Realtime

/-
  WatchTogether.Rooms.Replication

  The playback state in the browsers follows the actor's.

  A step changes the playback state only together with a revision one higher and a
  broadcast of the whole new state to every member; a connection that is let in is
  sent the whole state first.  So a member's connection that lost none of its
  envelopes holds exactly the actor's state, and a member that a broadcast could not
  reach has been told to go away.
-/

import WatchTogether.Rooms.Turn
import WatchTogether.Web.RoomState

namespace WatchTogether.Rooms

open LabelledRun Web

variable {σ : Type}

-- ============================================================================
-- Effects and timelines
-- ============================================================================

/-- The timeline an event carries to a browser. -/
def Event.timeline : Event → Option PlaybackState
  | .roomSnapshot _ playback _ => some playback
  | .playbackState state => some state
  | _ => none

/-- None of the effects carries a timeline. -/
def Silent (es : List Effect) : Prop :=
  ∀ c e ok, Effect.send c e ok ∈ es → e.event.timeline = none

/-- The broadcasts of a playback state among the effects: the client each is for, the
    revision in the envelope and the state. -/
def playbackSends (es : List Effect) : List (Client × Nat × PlaybackState) :=
  es.filterMap (fun x =>
    match x with
    | .send c e _ =>
        match e.event with
        | .playbackState p => some (c, e.revision, p)
        | _ => none
    | _ => none)

/-- Every client that an event could not be sent to, the snapshot of its own join
    apart, is asked to close. -/
def Attended (es : List Effect) : Prop :=
  ∀ c e, Effect.send c e false ∈ es → (∀ r p ms, e.event ≠ .roomSnapshot r p ms) →
    ∃ code reason, Effect.close c code reason ∈ es

/-- `c` is the client of some member. -/
def IsClient (s : Core) (c : Client) : Prop :=
  ∃ id m, s.members.lookup id = some m ∧ m.client = c

theorem isClient_iff_rows {s : Core} {c : Client} :
    IsClient s c ↔ ∃ m ∈ s.members.rows, m.client = c := by
  constructor
  · rintro ⟨id, m, hm, rfl⟩
    exact ⟨m, AList.mem_rows.mpr ⟨id, hm⟩, rfl⟩
  · rintro ⟨m, hm, rfl⟩
    obtain ⟨id, hm⟩ := AList.mem_rows.mp hm
    exact ⟨id, m, hm, rfl⟩

/-! ## Silent effects -/

theorem silent_append {es fs : List Effect} (hes : Silent es) (hfs : Silent fs) :
    Silent (es ++ fs) := by
  intro c e ok h
  rcases List.mem_append.mp h with h | h
  · exact hes c e ok h
  · exact hfs c e ok h

/-- Effects without a send are silent. -/
theorem silent_of_no_send {es : List Effect} (h : ∀ c e ok, Effect.send c e ok ∉ es) :
    Silent es :=
  fun c e ok hin => absurd hin (h c e ok)

theorem mem_deliver {env : Env} {e : Envelope} {c : Client} {x : Effect} :
    x ∈ Actor.deliver env e c ↔
      (env.sendOk c e = true ∧ x = .send c e true) ∨
      (env.sendOk c e = false ∧ (x = .send c e false ∨ x = .close c 1013 "slow consumer")) := by
  rw [Actor.deliver]
  cases env.sendOk c e with
  | true => simp
  | false => simp

theorem mem_notify {env : Env} {k : Nat} {event : Event} {revision : Nat} {s : Core}
    {x : Effect} :
    x ∈ s.notify env k event revision ↔ ∃ m ∈ s.members.rows,
      x ∈ Actor.deliver env ⟨1, s.room.id, revision, env.now k, event⟩ m.client :=
  List.mem_flatMap

theorem silent_notify (env : Env) (k : Nat) {event : Event} (revision : Nat) (s : Core)
    (h : event.timeline = none) : Silent (s.notify env k event revision) := by
  intro c e ok hin
  obtain ⟨m, -, hin⟩ := mem_notify.mp hin
  rcases mem_deliver.mp hin with ⟨-, hx⟩ | ⟨-, hx | hx⟩
  · cases hx
    exact h
  · cases hx
    exact h
  · cases hx

theorem playbackSends_append (es fs : List Effect) :
    playbackSends (es ++ fs) = playbackSends es ++ playbackSends fs :=
  List.filterMap_append

theorem playbackSends_silent {es : List Effect} (h : Silent es) : playbackSends es = [] := by
  rw [playbackSends]
  rw [List.filterMap_eq_nil_iff]
  intro x hx
  cases x with
  | send c e ok =>
      have hnone := h c e ok hx
      cases he : e.event with
      | playbackState p =>
          rw [he] at hnone
          exact absurd hnone (by simp [Event.timeline])
      | _ => simp [he]
  | close c code reason => rfl
  | saveCheckpoint cp => rfl

/-- A full-state broadcast goes once to every member. -/
theorem playbackSends_announce (env : Env) (k : Nat) (s : Core) :
    playbackSends (s.announce env k)
      = s.members.rows.map (fun m => (m.client, s.playback.revision, s.playback)) := by
  rw [Core.announce, Core.notify]
  induction s.members.rows with
  | nil => rfl
  | cons m ms ih =>
      rw [List.flatMap_cons, playbackSends_append, ih, List.map_cons]
      rw [Actor.deliver]
      split <;> rfl

/-! ## Attended effects -/

theorem attended_append {es fs : List Effect} (hes : Attended es) (hfs : Attended fs) :
    Attended (es ++ fs) := by
  intro c e h hsnap
  rcases List.mem_append.mp h with h | h
  · obtain ⟨code, reason, hc⟩ := hes c e h hsnap
    exact ⟨code, reason, List.mem_append_left _ hc⟩
  · obtain ⟨code, reason, hc⟩ := hfs c e h hsnap
    exact ⟨code, reason, List.mem_append_right _ hc⟩

theorem attended_of_no_send {es : List Effect} (h : ∀ c e ok, Effect.send c e ok ∉ es) :
    Attended es :=
  fun c e hin _ => absurd hin (h c e false)

theorem attended_notify (env : Env) (k : Nat) (event : Event) (revision : Nat) (s : Core) :
    Attended (s.notify env k event revision) := by
  intro c e hin _
  obtain ⟨m, hm, hin⟩ := mem_notify.mp hin
  rcases mem_deliver.mp hin with ⟨-, hx⟩ | ⟨hfull, hx | hx⟩
  · cases hx
  · cases hx
    refine ⟨1013, "slow consumer", mem_notify.mpr ⟨m, hm, ?_⟩⟩
    exact mem_deliver.mpr (Or.inr ⟨hfull, Or.inr rfl⟩)
  · cases hx

/-! ## What a browser makes of them -/

theorem receiveAll_silent {es : List Effect} (h : Silent es) (c : Client) (v : RoomState) :
    RoomState.receiveAll c v es = v := by
  induction es with
  | nil => rfl
  | cons x es ih =>
      have hrest : Silent es := fun c e ok hin => h c e ok (List.mem_cons_of_mem x hin)
      rw [← List.singleton_append, RoomState.receiveAll_append]
      have hx : RoomState.receiveAll c v [x] = v := by
        cases x with
        | send c' e ok =>
            have hnone := h c' e ok (List.mem_cons_self ..)
            have hkeep : v.receive e = v := by
              rw [RoomState.receive]
              cases he : e.event with
              | roomSnapshot r p ms =>
                  rw [he] at hnone
                  exact absurd hnone (by simp [Event.timeline])
              | playbackState p =>
                  rw [he] at hnone
                  exact absurd hnone (by simp [Event.timeline])
              | _ => rfl
            cases ok with
            | true =>
                show (if c' = c then v.receive e else v) = v
                rw [hkeep, ite_self]
            | false => rfl
        | close c' code reason => rfl
        | saveCheckpoint cp => rfl
      rw [hx]
      exact ih hrest

/-- One client's share of a full-state broadcast, as it gets there. -/
theorem receiveAll_deliver (env : Env) {e : Envelope} {p : PlaybackState}
    (he : e.event = .playbackState p) (c c' : Client) (v : RoomState)
    (hsent : ∀ e', Effect.send c e' false ∉ Actor.deliver env e c') :
    RoomState.receiveAll c v (Actor.deliver env e c')
      = if c' = c then v.setRoomState p false else v := by
  have hreceive : v.receive e = v.setRoomState p false := by
    rw [RoomState.receive]
    rw [he]
  cases hok : env.sendOk c' e with
  | true =>
      rw [Actor.deliver]
      rw [if_pos hok]
      show (if c' = c then v.receive e else v) = _
      rw [hreceive]
  | false =>
      have hne : c' ≠ c := by
        rintro rfl
        exact hsent e (mem_deliver.mpr (Or.inr ⟨hok, Or.inl rfl⟩))
      rw [Actor.deliver]
      rw [if_neg (by simp [hok]), if_neg hne]
      rfl

/-- A member's connection that the broadcast reaches takes the state, once. -/
theorem receiveAll_announce (env : Env) (k : Nat) (s : Core) (c : Client) (v : RoomState)
    (hclient : IsClient s c) (hsent : ∀ e, Effect.send c e false ∉ s.announce env k) :
    RoomState.receiveAll c v (s.announce env k) = v.setRoomState s.playback false := by
  rw [isClient_iff_rows] at hclient
  rw [Core.announce, Core.notify] at hsent ⊢
  generalize hE : (⟨1, s.room.id, s.playback.revision, env.now k, .playbackState s.playback⟩
    : Envelope) = E at hsent ⊢
  have hevent : E.event = .playbackState s.playback := by rw [← hE]
  -- over the rows: untouched until the first row of `c`, and from there on taken
  have hrows : ∀ (ms : List RuntimeMember) (v : RoomState),
      (∀ e, Effect.send c e false ∉ ms.flatMap (fun m => Actor.deliver env E m.client)) →
      RoomState.receiveAll c v (ms.flatMap (fun m => Actor.deliver env E m.client))
        = if ∃ m ∈ ms, m.client = c then v.setRoomState s.playback false else v := by
    intro ms
    induction ms with
    | nil =>
        intro v _
        simp
    | cons m ms ih =>
        intro v hall
        rw [List.flatMap_cons] at hall ⊢
        have hhead : ∀ e, Effect.send c e false ∉ Actor.deliver env E m.client :=
          fun e h => hall e (List.mem_append_left _ h)
        have htail : ∀ e, Effect.send c e false ∉
            ms.flatMap (fun m => Actor.deliver env E m.client) :=
          fun e h => hall e (List.mem_append_right _ h)
        rw [RoomState.receiveAll_append, receiveAll_deliver env hevent c m.client v hhead,
          ih _ htail]
        by_cases hm : m.client = c
        · have hex : ∃ m' ∈ m :: ms, m'.client = c := ⟨m, List.mem_cons_self .., hm⟩
          rw [if_pos hm, if_pos hex, RoomState.setRoomState_twice, ite_self]
        · rw [if_neg hm]
          simp [hm]
  rw [hrows _ v hsent, if_pos hclient]

-- ============================================================================
-- One step
-- ============================================================================

/-- What a step does to the playback state, and which timelines it sends for it. -/
inductive PlaybackTurn (s s' : Core) : List Effect → Prop
  /-- The state is kept, no timeline is sent and nobody enters. -/
  | quiet (es : List Effect) (hplayback : s'.playback = s.playback)
      (hclients : ∀ c, IsClient s' c → IsClient s c) (hes : Silent es) : PlaybackTurn s s' es
  /-- The state is kept and sent to the connection that enters. -/
  | entered (c : Client) (pre : List Effect) (e : Envelope) (ok : Bool) (post : List Effect)
      (hplayback : s'.playback = s.playback)
      (hclients : ∀ c', IsClient s' c' → c' = c ∨ IsClient s c')
      (he : e.event = Actor.snapshot s') (hpre : Silent pre) (hpost : Silent post) :
      PlaybackTurn s s' (pre ++ .send c e ok :: post)
  /-- The state changes, one revision up, and is broadcast. -/
  | announced (env : Env) (k : Nat) (pre post : List Effect)
      (hrevision : s'.playback.revision = s.playback.revision + 1)
      (hclients : ∀ c, IsClient s' c → IsClient s c) (hpre : Silent pre) (hpost : Silent post) :
      PlaybackTurn s s' (pre ++ (s'.announce env k ++ post))

/-- A step from `s` to `s'` with the effects `es` keeps browsers in step. -/
structure Replicates (s s' : Core) (es : List Effect) : Prop where
  playback : PlaybackTurn s s' es
  attended : Attended es

theorem isClient_remove {s : Core} {k : String} {c : Client} (h : IsClient (s.remove k) c) :
    IsClient s c := by
  obtain ⟨id, m, hm, rfl⟩ := h
  exact ⟨id, m, (AList.lookup_erase_iff.mp hm).2, rfl⟩

theorem isClient_withReady {s : Core} {k : String} {ready : Bool} {c : Client}
    (h : IsClient (s.withReady k ready) c) : IsClient s c := by
  obtain ⟨id, m, hm, rfl⟩ := h
  have hlook : (s.withReady k ready).members.lookup id = _ := AList.lookup_modify _ s.members id
  rw [hm] at hlook
  obtain ⟨m', hm', heq⟩ := Option.map_eq_some_iff.mp hlook.symm
  refine ⟨id, m', hm', ?_⟩
  rw [← heq]
  split <;> rfl

theorem isClient_enter {s : Core} {c c' : Client} {now : Int64}
    (h : IsClient (s.enter c now) c') : c' = c ∨ IsClient s c' := by
  obtain ⟨id, m, hm, rfl⟩ := h
  rcases AList.lookup_insert_iff.mp hm with ⟨-, rfl⟩ | ⟨-, hm⟩
  · exact Or.inl rfl
  · exact Or.inr ⟨id, m, hm, rfl⟩

/-- No effects, and nobody enters. -/
theorem replicates_nil {s s' : Core} (hplayback : s'.playback = s.playback)
    (hclients : ∀ c, IsClient s' c → IsClient s c) : Replicates s s' [] :=
  ⟨.quiet [] hplayback hclients (silent_of_no_send (by simp)), attended_of_no_send (by simp)⟩

/-- A broadcast of something else than a timeline. -/
theorem replicates_notify {s s' t : Core} (env : Env) (k : Nat) {event : Event} (revision : Nat)
    (hevent : event.timeline = none) (hplayback : s'.playback = s.playback)
    (hclients : ∀ c, IsClient s' c → IsClient s c) :
    Replicates s s' (t.notify env k event revision) :=
  ⟨.quiet _ hplayback hclients (silent_notify env k revision t hevent),
    attended_notify env k event revision t⟩

/-- The full-state broadcast of a changed state, and the checkpoint that follows it. -/
theorem replicates_announce {s s' : Core} (env : Env) (k : Nat) (cps : List Checkpoint)
    (hrevision : s'.playback.revision = s.playback.revision + 1)
    (hclients : ∀ c, IsClient s' c → IsClient s c) :
    Replicates s s' (s'.announce env k ++ cps.map .saveCheckpoint) := by
  have hno : ∀ c e ok, Effect.send c e ok ∉ cps.map Effect.saveCheckpoint := by simp
  refine ⟨.announced env k [] _ hrevision hclients (silent_of_no_send (by simp))
    (silent_of_no_send hno), ?_⟩
  exact attended_append (attended_notify _ _ _ _ _) (attended_of_no_send hno)

theorem supersede_no_send (s : Core) (c c' : Client) (e : Envelope) (ok : Bool) :
    Effect.send c' e ok ∉ s.supersede c := by
  rw [Core.supersede]
  split <;> simp

/-- A connection that enters is sent the whole state before anything else. -/
theorem replicates_welcome {s s' t : Core} (env : Env) (c : Client)
    (hplayback : s'.playback = s.playback)
    (hclients : ∀ c', IsClient s' c' → c' = c ∨ IsClient s c') :
    Replicates s s' (t.supersede c ++ s'.welcome env c) := by
  have hno := supersede_no_send t c
  refine ⟨?_, ?_⟩
  · rw [Core.welcome]
    exact .entered c _ _ _ _ hplayback hclients rfl (silent_of_no_send hno)
      (silent_notify env 3 0 s' rfl)
  · refine attended_append (attended_of_no_send hno) ?_
    rw [Core.welcome]
    intro c' e hin hsnap
    rcases List.mem_cons.mp hin with hx | hin
    · rw [Effect.send.injEq] at hx
      rw [hx.2.1] at hsnap
      exact absurd rfl (hsnap _ _ _)
    · obtain ⟨code, reason, hc⟩ := attended_notify env 3 _ 0 s' c' e hin hsnap
      exact ⟨code, reason, List.mem_cons_of_mem _ hc⟩

/-- Silent effects before the others change nothing. -/
theorem Replicates.prepend {s s' : Core} {pre es : List Effect} (hpre : Silent pre)
    (hatt : Attended pre) (h : Replicates s s' es) : Replicates s s' (pre ++ es) := by
  refine ⟨?_, attended_append hatt h.attended⟩
  cases h.playback with
  | quiet es hplayback hclients hes =>
      exact .quiet _ hplayback hclients (silent_append hpre hes)
  | entered c pre' e ok post hplayback hclients he hpre' hpost =>
      rw [← List.append_assoc]
      exact .entered c _ e ok post hplayback hclients he (silent_append hpre hpre') hpost
  | announced env k pre' post hrevision hclients hpre' hpost =>
      rw [← List.append_assoc]
      exact .announced env k _ post hrevision hclients (silent_append hpre hpre') hpost

theorem replicates_hostTurn {P : Persistence σ} {env : Env} {a a' : Actor σ}
    {type : CommandType} {p : CommandPayload} {r : Except ActorError (Option PlaybackState)}
    (hturn : HostTurn P env a type p a' r) :
    ∃ es, a'.out = a.out ++ es ∧ Replicates a.toCore a'.toCore es := by
  cases hturn with
  | refused e => exact ⟨[], (List.append_nil _).symm, replicates_nil rfl (fun _ h => h)⟩
  | transferRefused m e store htype hm hguest hP =>
      exact ⟨[], (List.append_nil _).symm, replicates_nil rfl (fun _ h => h)⟩
  | transferred m store htype hm hguest hP =>
      exact ⟨_, rfl, replicates_notify env 1 0 rfl rfl (fun _ h => h)⟩
  | kicked m htype hm hhost =>
      have hno : ∀ c e ok, Effect.send c e ok ∉
          [Effect.close m.client 1008 "removed from room"] := by simp
      refine ⟨_, rfl, ?_⟩
      rw [← List.singleton_append]
      refine Replicates.prepend (silent_of_no_send hno) (attended_of_no_send hno) ?_
      exact replicates_notify env 1 0 rfl rfl (fun _ h => isClient_remove h)
  | closeFailed e store htype hP =>
      exact ⟨[], (List.append_nil _).symm, replicates_nil rfl (fun _ h => h)⟩
  | closed store htype hP =>
      have hno : ∀ c e ok, Effect.send c e ok ∉
          a.members.rows.map (fun m => Effect.close m.client 1000 "room closed") := by simp
      refine ⟨_, rfl, .quiet _ rfl ?_ ?_, ?_⟩
      · rintro c ⟨id, m, hm, -⟩
        exact absurd hm (by simp [Core.empty])
      · exact silent_append (silent_notify env 1 0 a.toCore rfl) (silent_of_no_send hno)
      · exact attended_append (attended_notify _ _ _ _ _) (attended_of_no_send hno)
  | mediaRefused e store htype hid hP =>
      exact ⟨[], (List.append_nil _).symm, replicates_nil rfl (fun _ h => h)⟩
  | mediaSet store htype hid hP =>
      exact ⟨_, rfl, replicates_announce env 1 [_] rfl (fun _ h => h)⟩
  | playbackRefused t e hswitch =>
      have hkept := Timeline.playbackSwitch_kept hswitch (by simp)
      exact ⟨[], (List.append_nil _).symm, replicates_nil hkept (fun _ h => h)⟩
  | playbackKept t hswitch =>
      have hkept := Timeline.playbackSwitch_kept hswitch (by simp)
      exact ⟨[], (List.append_nil _).symm, replicates_nil hkept (fun _ h => h)⟩
  | playbackChanged t s hswitch hs =>
      have hrevision : t.playback.revision = a.playback.revision := by
        have hspec := (a.toTimeline.playbackSwitch_spec (env.now 0) type p).1
        rw [hswitch] at hspec
        exact hspec
      subst hs
      refine ⟨_, rfl, replicates_announce env 1 [_] ?_ (fun _ h => h)⟩
      show t.playback.revision + 1 = a.playback.revision + 1
      rw [hrevision]

theorem replicates_commandTurn {P : Persistence σ} {env : Env} {a a' : Actor σ} {i : Identity}
    {c : Command} {r : Except ActorError (Option PlaybackState)}
    (hturn : CommandTurn P env a i c a' r) :
    ∃ es, a'.out = a.out ++ es ∧ Replicates a.toCore a'.toCore es := by
  cases hturn with
  | refused e => exact ⟨[], (List.append_nil _).symm, replicates_nil rfl (fun _ h => h)⟩
  | ignored hm htype => exact ⟨[], (List.append_nil _).symm, replicates_nil rfl (fun _ h => h)⟩
  | readied p hm htype =>
      exact ⟨[], (List.append_nil _).symm, replicates_nil rfl (fun _ h => isClient_withReady h)⟩
  | measured p s hm htype hhost hs =>
      have hann : Replicates a.toCore s (s.announce env 1 ++ [].map .saveCheckpoint) := by
        subst hs
        exact replicates_announce env 1 [] rfl (fun _ h => isClient_withReady h)
      rw [List.map_nil, List.append_nil] at hann
      exact ⟨_, rfl, hann⟩
  | host p a' r hp hturn => exact replicates_hostTurn hturn

theorem shutdown_silent (env : Env) (ms : List RuntimeMember) :
    Silent (ms.flatMap (fun m =>
      [Effect.send m.client ⟨0, "", 0, 0, .serverShutdown⟩
          (env.sendOk m.client ⟨0, "", 0, 0, .serverShutdown⟩),
        .close m.client 1001 "server shutdown"])) := by
  intro c e ok hin
  obtain ⟨m, -, hin⟩ := List.mem_flatMap.mp hin
  rcases List.mem_cons.mp hin with hx | hin
  · rw [Effect.send.injEq] at hx
    rw [hx.2.1]
    rfl
  · exact absurd hin (by simp)

theorem shutdown_attended (env : Env) (ms : List RuntimeMember) :
    Attended (ms.flatMap (fun m =>
      [Effect.send m.client ⟨0, "", 0, 0, .serverShutdown⟩
          (env.sendOk m.client ⟨0, "", 0, 0, .serverShutdown⟩),
        .close m.client 1001 "server shutdown"])) := by
  intro c e hin _
  obtain ⟨m, hm, hin⟩ := List.mem_flatMap.mp hin
  rcases List.mem_cons.mp hin with hx | hin
  · rw [Effect.send.injEq] at hx
    rw [hx.1]
    exact ⟨1001, "server shutdown", List.mem_flatMap.mpr ⟨m, hm, by simp⟩⟩
  · exact absurd hin (by simp)

/-- **Step lemma.**  Every step appends effects that keep browsers in step. -/
theorem replicates_step (P : Persistence σ) (a : Actor σ) (l : Env × Msg) :
    ∃ es, (Actor.step P a l).out = a.out ++ es ∧
      Replicates a.toCore (Actor.step P a l).toCore es := by
  obtain ⟨env, m⟩ := l
  obtain ⟨r, hturn⟩ := turn_step P env a m
  generalize Actor.step P a (env, m) = a' at hturn ⊢
  have hnil : ∃ es, a.out = a.out ++ es ∧ Replicates a.toCore a.toCore es :=
    ⟨[], (List.append_nil _).symm, replicates_nil rfl (fun _ h => h)⟩
  cases hturn with
  | stopped m h => exact hnil
  | joinRefused c e h => exact hnil
  | joined c s hlive hstatus hroom hback hs =>
      subst hs
      exact ⟨_, rfl, replicates_welcome env c rfl (fun _ h => isClient_enter h)⟩
  | hostReturned c s hlive hroom hhost hstatus hs =>
      subst hs
      refine ⟨_, rfl, replicates_welcome env c (by simp [Core.enter]) ?_⟩
      rintro c' ⟨id, m, hm, hc⟩
      rw [Core.hostBack_members] at hm
      exact isClient_enter ⟨id, m, hm, hc⟩
  | leaveIgnored id client h => exact hnil
  | left id client m hlive hm hclient hhost =>
      exact ⟨_, rfl, replicates_notify env 0 0 rfl rfl (fun _ h => isClient_remove h)⟩
  | hostLeft id client m s hlive hm hclient hhost hstatus hs =>
      subst hs
      refine ⟨_, rfl, ?_⟩
      refine Replicates.prepend (silent_notify env 0 0 _ rfl) (attended_notify _ _ _ _ _) ?_
      exact replicates_announce env 2 [_] rfl (fun _ h => isClient_remove h)
  | expireIgnored hostID store h => exact hnil
  | tookOver hostID next m candidate s hlive hstatus hhost hchosen hsome hnext
      hcand hid hm hguest hs =>
      subst hs
      exact ⟨_, rfl, replicates_notify env 1 0 rfl rfl (fun _ h => h)⟩
  | command i c a' r hlive hturn => exact replicates_commandTurn hturn
  | snapshot => exact hnil
  | readied id ready =>
      exact ⟨[], (List.append_nil _).symm, replicates_nil rfl (fun _ h => isClient_withReady h)⟩
  | relayed e => exact ⟨_, rfl, replicates_notify env 0 0 rfl rfl (fun _ h => h)⟩
  | checkpointSkipped h => exact hnil
  | checkpointed h =>
      exact ⟨_, rfl, .quiet _ rfl (fun _ h => h) (silent_of_no_send (by simp)),
        attended_of_no_send (by simp)⟩
  | reopenIgnored h => exact hnil
  | reopenFailed e store h hP => exact hnil
  | reopened store h hP =>
      exact ⟨[], (List.append_nil _).symm, replicates_nil rfl (fun _ h => h)⟩
  | renameFailed title e store hP => exact hnil
  | renamed title store hP =>
      exact ⟨_, rfl, replicates_notify env 1 0 rfl rfl (fun _ h => h)⟩
  | halted hlive =>
      have hno : ∀ c e ok, Effect.send c e ok ∉
          [Effect.saveCheckpoint (a.toCore.stopHostTimer.checkpoint env 0)] := by simp
      refine ⟨_, rfl, .quiet _ (by simp) ?_ ?_, ?_⟩
      · rintro c ⟨id, m, hm, hc⟩
        rw [Core.halt_members] at hm
        exact ⟨id, m, hm, hc⟩
      · exact silent_append (shutdown_silent env _) (silent_of_no_send hno)
      · exact attended_append (shutdown_attended env _) (attended_of_no_send hno)

-- ============================================================================
-- One connection along a run
-- ============================================================================

/-- A connection that is sent the snapshot of `s` has the state of `s` afterwards. -/
theorem receiveAll_snapshot {s : Core} {c : Client} {e : Envelope} {ok : Bool}
    {pre post : List Effect} (he : e.event = Actor.snapshot s) (hpost : Silent post)
    (hsent : ∀ e', Effect.send c e' false ∉ pre ++ .send c e ok :: post) (v : RoomState) :
    RoomState.receiveAll c v (pre ++ .send c e ok :: post) = .synced s.playback := by
  have hok : ok = true := by
    cases ok with
    | true => rfl
    | false => exact absurd (List.mem_append_right pre (List.mem_cons_self ..)) (hsent e)
  subst hok
  rw [RoomState.receiveAll_append, ← List.singleton_append, RoomState.receiveAll_append,
    receiveAll_silent hpost]
  generalize RoomState.receiveAll c v pre = w
  show (if c = c then w.receive e else w) = .synced s.playback
  rw [if_pos rfl]
  rw [RoomState.receive]
  rw [he]
  exact RoomState.setRoomState_force w s.playback

/-- A step keeps a connection up to date that is up to date if it is a member's. -/
theorem receiveAll_step {s s' : Core} {es : List Effect} (h : Replicates s s' es) {c : Client}
    (hsent : ∀ e, Effect.send c e false ∉ es) {v : RoomState}
    (hv : IsClient s c → v = .synced s.playback) (hin : IsClient s' c) :
    RoomState.receiveAll c v es = .synced s'.playback := by
  cases h.playback with
  | quiet es hplayback hclients hes =>
      rw [receiveAll_silent hes, hplayback]
      exact hv (hclients c hin)
  | entered c₀ pre e ok post hplayback hclients he hpre hpost =>
      by_cases hc : c₀ = c
      · subst hc
        exact receiveAll_snapshot he hpost hsent v
      · have hold : IsClient s c := (hclients c hin).resolve_left (fun h => hc h.symm)
        rw [RoomState.receiveAll_append, ← List.singleton_append, RoomState.receiveAll_append,
          receiveAll_silent hpost, receiveAll_silent hpre, hv hold, hplayback]
        -- what `c₀` is sent does not reach `c`
        cases ok with
        | true =>
            show (if c₀ = c then _ else _) = _
            rw [if_neg hc]
        | false => rfl
  | announced env k pre post hrevision hclients hpre hpost =>
      have hmid : ∀ e, Effect.send c e false ∉ s'.announce env k := by
        intro e hmem
        exact hsent e (List.mem_append_right pre (List.mem_append_left post hmem))
      rw [RoomState.receiveAll_append, RoomState.receiveAll_append, receiveAll_silent hpost,
        receiveAll_silent hpre, receiveAll_announce env k s' c v hin hmid, hv (hclients c hin)]
      refine RoomState.setRoomState_newer ?_
      show (s.playback.revision : Int) < s'.playback.revision
      omega

/-- **Run lemma.**  The same along a run. -/
theorem receiveAll_run (P : Persistence σ) (c : Client) (ls : List (Env × Msg)) (a : Actor σ) :
    ∃ es, (Actor.runActor P a ls).out = a.out ++ es ∧
      ∀ v, (∀ e, Effect.send c e false ∉ es) →
        (IsClient a.toCore c → v = .synced a.playback) →
        IsClient (Actor.runActor P a ls).toCore c →
        RoomState.receiveAll c v es = .synced (Actor.runActor P a ls).playback := by
  induction ls generalizing a with
  | nil => exact ⟨[], (List.append_nil _).symm, fun v _ hv hin => hv hin⟩
  | cons l ls ih =>
      obtain ⟨es, hout, hstep⟩ := replicates_step P a l
      obtain ⟨fs, hrest, hrun⟩ := ih (Actor.step P a l)
      refine ⟨es ++ fs, ?_, ?_⟩
      · rw [Actor.runActor] at hrest ⊢
        rw [run_cons, hrest, hout, List.append_assoc]
      · intro v hsent hv hin
        rw [RoomState.receiveAll_append]
        refine hrun _ (fun e h => hsent e (List.mem_append_right es h)) ?_ hin
        intro hclient
        exact receiveAll_step hstep (fun e h => hsent e (List.mem_append_left fs h)) hv hclient

/-- An accepted join sends its connection the snapshot of the state it leaves. -/
theorem join_accepted {P : Persistence σ} {env : Env} {a : Actor σ} {c : Client}
    (h : (a.process P env (.join c)).2 = .join (.ok ())) :
    ∃ pre e ok post, (Actor.step P a (env, .join c)).out
        = a.out ++ (pre ++ .send c e ok :: post) ∧ Silent post ∧
      e.event = Actor.snapshot (Actor.step P a (env, .join c)).toCore := by
  have hturn := turn P env a (.join c)
  rw [h] at hturn
  rw [Actor.step]
  generalize (a.process P env (.join c)).1 = a' at hturn ⊢
  cases hturn with
  | joined c s hlive hstatus hroom hback hs =>
      exact ⟨_, _, _, _, rfl, silent_notify env 3 0 s rfl, rfl⟩
  | hostReturned c s hlive hroom hhost hstatus hs =>
      exact ⟨_, _, _, _, rfl, silent_notify env 3 0 s rfl, rfl⟩

-- ============================================================================
-- Every run
-- ============================================================================

/-- Playback and broadcasts of one step: the state is kept and no state is sent, or it
    is one revision up and sent to every member once; and nobody a broadcast missed
    stays unattended. -/
def StepReplicated (P : Persistence σ) (a : Actor σ) (l : Env × Msg) : Prop :=
  let a' := Actor.step P a l
  let es := a'.out.drop a.out.length
  ((a'.playback = a.playback ∧ playbackSends es = []) ∨
    (a'.playback.revision = a.playback.revision + 1 ∧
      playbackSends es
        = a'.members.rows.map (fun m => (m.client, a'.playback.revision, a'.playback)))) ∧
  Attended es

theorem stepReplicated (P : Persistence σ) (a : Actor σ) (l : Env × Msg) :
    StepReplicated P a l := by
  obtain ⟨es, hout, hplayback, hattended⟩ := replicates_step P a l
  have hes : (Actor.step P a l).out.drop a.out.length = es := by
    rw [hout, List.drop_left]
  unfold StepReplicated
  dsimp only
  rw [hes]
  refine ⟨?_, hattended⟩
  generalize hs' : (Actor.step P a l).toCore = s' at hplayback ⊢
  cases hplayback with
  | quiet es hkept hclients hsilent => exact Or.inl ⟨hkept, playbackSends_silent hsilent⟩
  | entered c pre e ok post hkept hclients he hpre hpost =>
      refine Or.inl ⟨hkept, ?_⟩
      rw [playbackSends_append, playbackSends_silent hpre, ← List.singleton_append,
        playbackSends_append, playbackSends_silent hpost]
      rw [playbackSends]
      simp [he, Actor.snapshot]
  | announced env k pre post hrevision hclients hpre hpost =>
      refine Or.inr ⟨hrevision, ?_⟩
      rw [playbackSends_append, playbackSends_append, playbackSends_silent hpre,
        playbackSends_silent hpost, playbackSends_announce, List.nil_append, List.append_nil]

/-- **No playback update is lost.**  In every run, a connection that a join let in, that
    is a member's client at the end and that every send since went through to, has folded
    exactly the actor's playback state out of its envelopes; and every step of the run
    keeps the state, or raises its revision by one and broadcasts it whole, and sees to
    it that a member it could not reach is closed. -/
theorem playback_replicated (P : Persistence σ) (a : Actor σ) (ls : List (Env × Msg)) :
    (∀ pre env c post, ls = pre ++ (env, .join c) :: post →
      let a₀ := Actor.runActor P a pre
      let a₁ := Actor.runActor P a ls
      let es := a₁.out.drop a₀.out.length
      (a₀.process P env (.join c)).2 = .join (.ok ()) →
      (∃ id m, a₁.members.lookup id = some m ∧ m.client = c) →
      (∀ e, Effect.send c e false ∉ es) →
      RoomState.receiveAll c .initial es = .synced a₁.playback) ∧
    EachStep (Actor.step P) (StepReplicated P) a ls := by
  refine ⟨?_, fun pre l post _ => stepReplicated P _ l⟩
  intro pre env c post hls a₀ a₁ es hjoin hclient hsent
  obtain ⟨pre', e, ok, post', hout, hpost, he⟩ := join_accepted hjoin
  obtain ⟨fs, hrest, hrun⟩ := receiveAll_run P c post (Actor.step P a₀ (env, .join c))
  have ha₁ : a₁ = Actor.runActor P (Actor.step P a₀ (env, .join c)) post := by
    show Actor.runActor P a ls = _
    rw [hls]
    rw [Actor.runActor]
    rw [run_append, run_cons]
    rfl
  have hes : es = (pre' ++ .send c e ok :: post') ++ fs := by
    show a₁.out.drop a₀.out.length = _
    rw [ha₁, hrest, hout, List.append_assoc, List.drop_left]
  rw [hes] at hsent ⊢
  rw [ha₁] at hclient ⊢
  rw [RoomState.receiveAll_append]
  refine hrun _ (fun e h => hsent e (List.mem_append_right _ h)) ?_ hclient
  intro _
  exact receiveAll_snapshot he hpost (fun e h => hsent e (List.mem_append_left _ h)) .initial

end WatchTogether.Rooms

/-
  WatchTogether.Rooms.FrozenTimeline

  The timeline of a room that nobody hosts.

  While the room is closed, or its host is not a member, the expected position
  should stand still.  It does as long as such a room is never `playing`, and
  `leaveReq` sees to that for a host that leaves an open room.  Three steps let a
  room that nobody hosts play on: a close while it is playing, the leave of a host
  from a disconnected room that is playing, and a command that drives the timeline of
  a room which is closed and has its host still connected (a close that the store
  refused leaves it so).  Runs without them are frozen.
-/

import WatchTogether.Rooms.Replication

namespace WatchTogether.Rooms

open LabelledRun

variable {σ : Type}

-- ============================================================================
-- Rooms without a host
-- ============================================================================

/-- Nobody hosts the room: it is closed, or its host is not a member. -/
def Unhosted (s : Core) : Prop :=
  s.room.status = .CLOSED ∨ s.room.hostUserID ∉ s.members

/-- An explicit `cmd.room.media`. -/
def IsMediaCommand (m : Msg) : Prop := ∃ i c, m = .command i c ∧ c.type = .roomMedia

/-- A `cmd.room.close` that gets through while the room is playing. -/
def ClosesPlaying (s : Core) (m : Msg) : Prop :=
  s.playback.phase = .playing ∧
    ∃ i c p, m = .command i c ∧ s.authorised i c = some p ∧ c.type = .roomClose

/-- A leave that removes the host from a disconnected room that is playing. -/
def HostLeavesPlaying (s : Core) (m : Msg) : Prop :=
  s.playback.phase = .playing ∧ s.room.status = .HOST_DISCONNECTED ∧
    ∃ client r, m = .leave s.room.hostUserID client ∧
      s.members.lookup s.room.hostUserID = some r ∧ (client = none ∨ client = some r.client)

/-- A command of the connected host that drives the timeline of a closed room. -/
def DrivesClosed (s : Core) (m : Msg) : Prop :=
  s.room.status = .CLOSED ∧ s.room.hostUserID ∈ s.members ∧
    ∃ i c, m = .command i c ∧ i.id = s.room.hostUserID ∧
      (c.type = .clientReady ∨ c.type.isPlayback = true)

/-- The steps after which a room that nobody hosts may play on. -/
def Advances (s : Core) (m : Msg) : Prop :=
  s.stopped = false ∧ (ClosesPlaying s m ∨ HostLeavesPlaying s m ∨ DrivesClosed s m)

/-- A room that nobody hosts is not playing. -/
def FrozenUnhosted (s : Core) : Prop := Unhosted s → s.playback.phase ≠ .playing

/-- A step that keeps the playback state and takes no room its host. -/
theorem FrozenUnhosted.mono {s s' : Core} (h : FrozenUnhosted s)
    (hplayback : s'.playback = s.playback) (hun : Unhosted s' → Unhosted s) :
    FrozenUnhosted s' := by
  intro hs'
  rw [hplayback]
  exact h (hun hs')

theorem frozenUnhosted_of_phase {s : Core} (h : s.playback.phase ≠ .playing) :
    FrozenUnhosted s := fun _ => h

/-- A room with its host in it that is not closed. -/
theorem frozenUnhosted_of_hosted {s : Core} (hstatus : s.room.status ≠ .CLOSED)
    (hhost : s.room.hostUserID ∈ s.members) : FrozenUnhosted s := by
  rintro (hclosed | hout)
  · exact absurd hclosed hstatus
  · exact absurd hhost hout

theorem frozenUnhosted_newActor (room : Room) (checkpoint : Option Checkpoint) (store : σ)
    (grace : Nat) : FrozenUnhosted (newActor room checkpoint store grace).toCore := by
  refine frozenUnhosted_of_phase ?_
  cases checkpoint with
  | none =>
      rw [newActor]
      cases room.mediaID <;> simp
  | some cp => simp [newActor]

/-- The commands of the connected host leave a closed room's timeline alone, unless they
    advance it. -/
theorem host_drives {s : Core} {i : Identity} {c : Command} (hlive : s.stopped = false)
    (hok : ¬ Advances s (.command i c)) (hhost : i.id = s.room.hostUserID)
    (hm : i.id ∈ s.members) (htype : c.type = .clientReady ∨ c.type.isPlayback = true) :
    ¬ Unhosted s := by
  rw [hhost] at hm
  rintro (hclosed | hout)
  · exact hok ⟨hlive, Or.inr (Or.inr ⟨hclosed, hm, i, c, rfl, hhost, htype⟩)⟩
  · exact hout hm

/-- A playback command gets through for the connected host only. -/
theorem authorised_playback {s : Core} {i : Identity} {c : Command} {p : CommandPayload}
    (hp : s.authorised i c = some p) (hadmin : c.type.isAdmin = false) :
    i.id = s.room.hostUserID ∧ i.id ∈ s.members := by
  obtain ⟨⟨hmember, -, -, -, hhost⟩, -⟩ := Core.authorised_eq_some.mp hp
  refine ⟨hhost.resolve_right ?_, hmember.resolve_right ?_⟩
  · simp [Actor.adminOverride, hadmin]
  · simp [hadmin]

-- ============================================================================
-- One step
-- ============================================================================

theorem frozen_hostTurn {P : Persistence σ} {env : Env} {a a' : Actor σ} {i : Identity}
    {c : Command} {p : CommandPayload} {r : Except ActorError (Option PlaybackState)}
    (hinv : FrozenUnhosted a.toCore) (hlive : a.stopped = false)
    (hp : a.toCore.authorised i c = some p) (hok : ¬ Advances a.toCore (.command i c))
    (hturn : HostTurn P env a c.type p a' r) :
    FrozenUnhosted a'.toCore ∧
      (Unhosted a.toCore → c.type ≠ .roomMedia → a'.playback = a.playback) := by
  have hclose : c.type = .roomClose → a.playback.phase ≠ .playing :=
    fun htype hplaying => hok ⟨hlive, Or.inl ⟨hplaying, i, c, p, rfl, hp, htype⟩⟩
  cases hturn with
  | refused e => exact ⟨hinv, fun _ _ => rfl⟩
  | transferRefused m e store htype hm hguest hP => exact ⟨hinv, fun _ _ => rfl⟩
  | transferred m store htype hm hguest hP =>
      refine ⟨hinv.mono rfl ?_, fun _ _ => rfl⟩
      rintro (hclosed | hout)
      · exact Or.inl hclosed
      · exact absurd (AList.mem_of_lookup hm) hout
  | kicked m htype hm hhost =>
      refine ⟨hinv.mono rfl ?_, fun _ _ => rfl⟩
      rintro (hclosed | hout)
      · exact Or.inl hclosed
      · exact Or.inr (fun hin => hout (Core.mem_remove.mpr ⟨fun h => hhost h.symm, hin⟩))
  | closeFailed e store htype hP => exact ⟨frozenUnhosted_of_phase (hclose htype), fun _ _ => rfl⟩
  | closed store htype hP => exact ⟨frozenUnhosted_of_phase (hclose htype), fun _ _ => rfl⟩
  | mediaRefused e store htype hid hP => exact ⟨hinv, fun _ _ => rfl⟩
  | mediaSet store htype hid hP =>
      exact ⟨frozenUnhosted_of_phase (fun h => Phase.noConfusion h), fun _ h => absurd htype h⟩
  | playbackRefused t e hswitch =>
      have hkept := Timeline.playbackSwitch_kept hswitch (by simp)
      exact ⟨hinv.mono hkept (fun h => h), fun _ _ => hkept⟩
  | playbackKept t hswitch =>
      have hkept := Timeline.playbackSwitch_kept hswitch (by simp)
      exact ⟨hinv.mono hkept (fun h => h), fun _ _ => hkept⟩
  | playbackChanged t s hswitch hs =>
      subst hs
      obtain ⟨hhost, hm⟩ := authorised_playback hp (Timeline.playbackSwitch_isAdmin hswitch)
      have hhosted : ¬ Unhosted a.toCore := host_drives hlive hok hhost hm
        (Or.inr (Timeline.playbackSwitch_isPlayback hswitch))
      exact ⟨fun h => absurd h hhosted, fun h => absurd h hhosted⟩

theorem frozen_commandTurn {P : Persistence σ} {env : Env} {a a' : Actor σ} {i : Identity}
    {c : Command} {r : Except ActorError (Option PlaybackState)}
    (hinv : FrozenUnhosted a.toCore) (hlive : a.stopped = false)
    (hok : ¬ Advances a.toCore (.command i c)) (hturn : CommandTurn P env a i c a' r) :
    FrozenUnhosted a'.toCore ∧
      (Unhosted a.toCore → c.type ≠ .roomMedia → a'.playback = a.playback) := by
  have hready : ∀ ready, Unhosted (a.toCore.withReady i.id ready) → Unhosted a.toCore := by
    rintro ready (hclosed | hout)
    · exact Or.inl hclosed
    · exact Or.inr (fun hin => hout (Core.mem_withReady.mpr hin))
  cases hturn with
  | refused e => exact ⟨hinv, fun _ _ => rfl⟩
  | ignored hm htype => exact ⟨hinv, fun _ _ => rfl⟩
  | readied p hm htype => exact ⟨hinv.mono rfl (hready p.ready), fun _ _ => rfl⟩
  | measured p s hm htype hhost hs =>
      subst hs
      have hhosted : ¬ Unhosted a.toCore := host_drives hlive hok hhost hm (Or.inl htype)
      exact ⟨fun h => absurd (hready p.ready h) hhosted, fun h => absurd h hhosted⟩
  | host p a' r hp hturn => exact frozen_hostTurn hinv hlive hp hok hturn

/-- **Step lemma.**  Without an advancing step a room that nobody hosts does not play,
    and while nobody hosts it only `cmd.room.media` changes the playback state. -/
theorem frozen_turn {P : Persistence σ} (a : Actor σ) (l : Env × Msg)
    (hinv : FrozenUnhosted a.toCore) (hok : ¬ Advances a.toCore l.2) :
    FrozenUnhosted (Actor.step P a l).toCore ∧
      (Unhosted a.toCore → ¬ IsMediaCommand l.2 →
        (Actor.step P a l).playback = a.playback) := by
  obtain ⟨env, m⟩ := l
  obtain ⟨r, hturn⟩ := turn_step P env a m
  generalize Actor.step P a (env, m) = a' at hturn ⊢
  cases hturn with
  | stopped m h => exact ⟨hinv, fun _ _ => rfl⟩
  | joinRefused c e h => exact ⟨hinv, fun _ _ => rfl⟩
  | joined c s hlive hstatus hroom hback hs =>
      subst hs
      refine ⟨hinv.mono rfl ?_, fun _ _ => rfl⟩
      rintro (hclosed | hout)
      · exact Or.inl hclosed
      · exact Or.inr (fun hin => hout (Core.mem_enter.mpr (Or.inr hin)))
  | hostReturned c s hlive hroom hhost hstatus hs =>
      subst hs
      refine ⟨frozenUnhosted_of_hosted (by simp) ?_, fun _ _ => by simp [Core.enter]⟩
      rw [Core.hostBack_members, Core.mem_enter, Core.hostBack_room]
      exact Or.inl hhost.symm
  | leaveIgnored id client h => exact ⟨hinv, fun _ _ => rfl⟩
  | left id client m hlive hm hclient hhost =>
      refine ⟨?_, fun _ _ => rfl⟩
      rintro (hclosed | hout)
      · exact hinv (Or.inl hclosed)
      · by_cases hid : id = a.room.hostUserID
        · subst hid
          cases hstatus : a.room.status with
          | OPEN => exact absurd ⟨rfl, hstatus⟩ hhost
          | HOST_DISCONNECTED =>
              intro hplaying
              exact hok ⟨hlive, Or.inr (Or.inl ⟨hplaying, hstatus, client, m, rfl, hm, hclient⟩)⟩
          | CLOSED => exact hinv (Or.inl hstatus)
        · refine hinv (Or.inr (fun hin => hout (Core.mem_remove.mpr ⟨?_, hin⟩)))
          exact fun h => hid h.symm
  | hostLeft id client m s hlive hm hclient hhost hstatus hs =>
      subst hs
      refine ⟨frozenUnhosted_of_phase (fun h => Phase.noConfusion h), ?_⟩
      rintro (hclosed | hout)
      · rw [hstatus] at hclosed
        exact RoomStatus.noConfusion hclosed
      · exact absurd (hhost ▸ AList.mem_of_lookup hm) hout
  | expireIgnored hostID store h => exact ⟨hinv, fun _ _ => rfl⟩
  | tookOver hostID next m candidate s hlive hstatus hhost hchosen hsome hnext
      hcand hid hm hguest hs =>
      subst hs
      refine ⟨frozenUnhosted_of_hosted (fun h => RoomStatus.noConfusion h) ?_, fun _ _ => rfl⟩
      exact AList.mem_of_lookup hm
  | command i c a' r hlive hturn =>
      obtain ⟨hfrozen, hkeep⟩ := frozen_commandTurn hinv hlive hok hturn
      refine ⟨hfrozen, ?_⟩
      intro hun hmedia
      exact hkeep hun (fun htype => hmedia ⟨i, c, rfl, htype⟩)
  | snapshot => exact ⟨hinv, fun _ _ => rfl⟩
  | readied id ready =>
      refine ⟨hinv.mono rfl ?_, fun _ _ => rfl⟩
      rintro (hclosed | hout)
      · exact Or.inl hclosed
      · exact Or.inr (fun hin => hout (Core.mem_withReady.mpr hin))
  | relayed e => exact ⟨hinv, fun _ _ => rfl⟩
  | checkpointSkipped h => exact ⟨hinv, fun _ _ => rfl⟩
  | checkpointed h => exact ⟨hinv, fun _ _ => rfl⟩
  | reopenIgnored h => exact ⟨hinv, fun _ _ => rfl⟩
  | reopenFailed e store h hP => exact ⟨hinv, fun _ _ => rfl⟩
  | reopened store h hP => exact ⟨hinv.mono rfl (fun _ => Or.inl h), fun _ _ => rfl⟩
  | renameFailed title e store hP => exact ⟨hinv, fun _ _ => rfl⟩
  | renamed title store hP => exact ⟨hinv.mono rfl (fun h => h), fun _ _ => rfl⟩
  | halted hlive =>
      refine ⟨hinv.mono (by simp) ?_, fun _ _ => by simp⟩
      unfold Unhosted
      simp

-- ============================================================================
-- Checkpoints
-- ============================================================================

/-- The checkpoints among the effects. -/
def checkpoints (es : List Effect) : List Checkpoint :=
  es.filterMap (fun x =>
    match x with
    | .saveCheckpoint cp => some cp
    | _ => none)

theorem checkpoints_append (es fs : List Effect) :
    checkpoints (es ++ fs) = checkpoints es ++ checkpoints fs :=
  List.filterMap_append

/-- Effects without a checkpoint, at the end. -/
theorem checkpoints_append_none {es fs : List Effect}
    (h : ∀ cp, Effect.saveCheckpoint cp ∉ fs) : checkpoints (es ++ fs) = checkpoints es := by
  rw [checkpoints_append]
  have hnil : checkpoints fs = [] := by
    rw [checkpoints]
    rw [List.filterMap_eq_nil_iff]
    intro x hx
    cases x with
    | saveCheckpoint cp => exact absurd hx (h cp)
    | _ => rfl
  rw [hnil, List.append_nil]

theorem notify_no_checkpoint (env : Env) (k : Nat) (event : Event) (revision : Nat) (s : Core)
    (cp : Checkpoint) : Effect.saveCheckpoint cp ∉ s.notify env k event revision := by
  intro hin
  obtain ⟨m, -, hin⟩ := List.mem_flatMap.mp hin
  rw [Actor.deliver] at hin
  split at hin <;> simp at hin

theorem supersede_no_checkpoint (c : Client) (s : Core) (cp : Checkpoint) :
    Effect.saveCheckpoint cp ∉ s.supersede c := by
  rw [Core.supersede]
  split <;> simp

theorem join_no_checkpoint (env : Env) (c : Client) (s t : Core) (cp : Checkpoint) :
    Effect.saveCheckpoint cp ∉ s.supersede c ++ t.welcome env c := by
  intro hin
  rcases List.mem_append.mp hin with hin | hin
  · exact supersede_no_checkpoint _ _ _ hin
  · rcases List.mem_cons.mp hin with hx | hin
    · exact absurd hx (by simp)
    · exact notify_no_checkpoint _ _ _ _ _ _ hin

/-- A join writes no checkpoint. -/
theorem checkpoints_join (P : Persistence σ) (a : Actor σ) (env : Env) (c : Client) :
    checkpoints (Actor.step P a (env, .join c)).out = checkpoints a.out := by
  obtain ⟨r, hturn⟩ := turn_step P env a (.join c)
  generalize Actor.step P a (env, .join c) = a' at hturn ⊢
  cases hturn with
  | stopped m h => rfl
  | joinRefused c e h => rfl
  | joined c s hlive hstatus hroom hback hs =>
      exact checkpoints_append_none (join_no_checkpoint env c a.toCore s)
  | hostReturned c s hlive hroom hhost hstatus hs =>
      exact checkpoints_append_none (join_no_checkpoint env c a.toCore s)

/-- While nobody hosts the room, no command but `cmd.room.media` writes a checkpoint; nor
    does a close, whether or not somebody hosts it. -/
theorem checkpoints_hostTurn {P : Persistence σ} {env : Env} {a a' : Actor σ} {i : Identity}
    {c : Command} {p : CommandPayload} {r : Except ActorError (Option PlaybackState)}
    (hlive : a.stopped = false) (hp : a.toCore.authorised i c = some p)
    (hok : ¬ Advances a.toCore (.command i c))
    (hcase : (Unhosted a.toCore ∧ c.type ≠ .roomMedia) ∨ c.type = .roomClose)
    (hturn : HostTurn P env a c.type p a' r) : checkpoints a'.out = checkpoints a.out := by
  cases hturn with
  | refused e => rfl
  | transferRefused m e store htype hm hguest hP => rfl
  | transferred m store htype hm hguest hP =>
      exact checkpoints_append_none (fun cp => notify_no_checkpoint _ _ _ _ _ cp)
  | kicked m htype hm hhost =>
      refine checkpoints_append_none (fun cp hin => ?_)
      rcases List.mem_cons.mp hin with hx | hin
      · exact absurd hx (by simp)
      · exact notify_no_checkpoint _ _ _ _ _ cp hin
  | closeFailed e store htype hP => rfl
  | closed store htype hP =>
      refine checkpoints_append_none (fun cp hin => ?_)
      rcases List.mem_append.mp hin with hin | hin
      · exact notify_no_checkpoint _ _ _ _ _ cp hin
      · exact absurd hin (by simp)
  | mediaRefused e store htype hid hP => rfl
  | mediaSet store htype hid hP =>
      rcases hcase with ⟨-, hmedia⟩ | hclose
      · exact absurd htype hmedia
      · exact absurd (htype.symm.trans hclose) (by decide)
  | playbackRefused t e hswitch => rfl
  | playbackKept t hswitch => rfl
  | playbackChanged t s hswitch hs =>
      rcases hcase with ⟨hun, -⟩ | hclose
      · obtain ⟨hhost, hm⟩ := authorised_playback hp (Timeline.playbackSwitch_isAdmin hswitch)
        exact absurd hun (host_drives hlive hok hhost hm
          (Or.inr (Timeline.playbackSwitch_isPlayback hswitch)))
      · have hplayback := Timeline.playbackSwitch_isPlayback hswitch
        rw [hclose] at hplayback
        exact absurd hplayback (by decide)

theorem checkpoints_commandTurn {P : Persistence σ} {env : Env} {a a' : Actor σ} {i : Identity}
    {c : Command} {r : Except ActorError (Option PlaybackState)} (hlive : a.stopped = false)
    (hok : ¬ Advances a.toCore (.command i c))
    (hcase : (Unhosted a.toCore ∧ c.type ≠ .roomMedia) ∨ c.type = .roomClose)
    (hturn : CommandTurn P env a i c a' r) : checkpoints a'.out = checkpoints a.out := by
  cases hturn with
  | refused e => rfl
  | ignored hm htype => rfl
  | readied p hm htype => rfl
  | measured p s hm htype hhost hs =>
      exact checkpoints_append_none (fun cp => notify_no_checkpoint _ _ _ _ _ cp)
  | host p a' r hp hturn => exact checkpoints_hostTurn hlive hp hok hcase hturn

/-- **Step lemma.**  While nobody hosts the room no checkpoint is written, but by
    `cmd.room.media` and by the shutdown of the actor. -/
theorem checkpoints_unhosted (P : Persistence σ) (a : Actor σ) (l : Env × Msg)
    (hinv : FrozenUnhosted a.toCore) (hok : ¬ Advances a.toCore l.2) (hun : Unhosted a.toCore)
    (hmedia : ¬ IsMediaCommand l.2) (hrunning : (Actor.step P a l).stopped = false) :
    checkpoints (Actor.step P a l).out = checkpoints a.out := by
  obtain ⟨env, m⟩ := l
  obtain ⟨r, hturn⟩ := turn_step P env a m
  generalize Actor.step P a (env, m) = a' at hturn hrunning ⊢
  cases hturn with
  | stopped m h => rfl
  | joinRefused c e h => rfl
  | joined c s hlive hstatus hroom hback hs =>
      exact checkpoints_append_none (join_no_checkpoint env c a.toCore s)
  | hostReturned c s hlive hroom hhost hstatus hs =>
      exact checkpoints_append_none (join_no_checkpoint env c a.toCore s)
  | leaveIgnored id client h => rfl
  | left id client m hlive hm hclient hhost =>
      exact checkpoints_append_none (fun cp => notify_no_checkpoint _ _ _ _ _ cp)
  | hostLeft id client m s hlive hm hclient hhost hstatus hs =>
      rcases hun with hclosed | hout
      · exact absurd (hstatus.symm.trans hclosed) (by decide)
      · exact absurd (hhost ▸ AList.mem_of_lookup hm) hout
  | expireIgnored hostID store h => rfl
  | tookOver hostID next m candidate s hlive hstatus hhost hchosen hsome hnext
      hcand hid hm hguest hs =>
      exact checkpoints_append_none (fun cp => notify_no_checkpoint _ _ _ _ _ cp)
  | command i c a' r hlive hturn =>
      exact checkpoints_commandTurn hlive hok
        (Or.inl ⟨hun, fun htype => hmedia ⟨i, c, rfl, htype⟩⟩) hturn
  | snapshot => rfl
  | readied id ready => rfl
  | relayed e => exact checkpoints_append_none (fun cp => notify_no_checkpoint _ _ _ _ _ cp)
  | checkpointSkipped h => rfl
  | checkpointed h => exact absurd h (hinv hun)
  | reopenIgnored h => rfl
  | reopenFailed e store h hP => rfl
  | reopened store h hP => rfl
  | renameFailed title e store hP => rfl
  | renamed title store hP =>
      exact checkpoints_append_none (fun cp => notify_no_checkpoint _ _ _ _ _ cp)
  | halted hlive => exact absurd hrunning (by simp [Core.halt])

-- ============================================================================
-- Stretches of a run that nobody hosts
-- ============================================================================

/-- In every state that the steps `ls` start from, nobody hosts the room, and none of
    them is a `cmd.room.media`. -/
def UnhostedStretch (P : Persistence σ) (a : Actor σ) (ls : List (Env × Msg)) : Prop :=
  EachStep (Actor.step P) (fun a l => Unhosted a.toCore ∧ ¬ IsMediaCommand l.2) a ls

theorem stopped_step (P : Persistence σ) (a : Actor σ) (l : Env × Msg) (h : a.stopped = true) :
    Actor.step P a l = a := by
  unfold Actor.step Actor.process
  rw [if_pos h]

theorem stopped_run (P : Persistence σ) {a : Actor σ} (h : a.stopped = true)
    (ls : List (Env × Msg)) : Actor.runActor P a ls = a := by
  induction ls with
  | nil => rfl
  | cons l ls ih =>
      rw [Actor.runActor] at ih ⊢
      rw [run_cons, stopped_step P a l h]
      exact ih

/-- **Stretch lemma.**  Over a stretch without host the playback state is kept, and no
    checkpoint is written unless the actor is shut down. -/
theorem unhosted_stretch (P : Persistence σ) {a : Actor σ} {ls : List (Env × Msg)}
    (hinv : FrozenUnhosted a.toCore) (hun : UnhostedStretch P a ls)
    (hok : EachStep (Actor.step P) (fun a l => ¬ Advances a.toCore l.2) a ls) :
    (Actor.runActor P a ls).playback = a.playback ∧
    ((Actor.runActor P a ls).stopped = false →
      checkpoints (Actor.runActor P a ls).out = checkpoints a.out) := by
  induction ls generalizing a with
  | nil => exact ⟨rfl, fun _ => rfl⟩
  | cons l ls ih =>
      obtain ⟨⟨hun₀, hmedia⟩, hunrest⟩ := eachStep_cons.mp hun
      obtain ⟨hok₀, hokrest⟩ := eachStep_cons.mp hok
      obtain ⟨hinv', hkeep⟩ := frozen_turn (P := P) a l hinv hok₀
      obtain ⟨hplayback, hcps⟩ := ih hinv' hunrest hokrest
      have hcons : Actor.runActor P a (l :: ls) = Actor.runActor P (Actor.step P a l) ls := rfl
      rw [hcons]
      refine ⟨hplayback.trans (hkeep hun₀ hmedia), ?_⟩
      intro hrunning
      have hlive : (Actor.step P a l).stopped = false := by
        by_contra hstopped
        have hsame := stopped_run P (Bool.not_eq_false _ ▸ hstopped) ls
        rw [hsame] at hrunning
        exact hstopped hrunning
      rw [hcps hrunning]
      exact checkpoints_unhosted P a l hinv hok₀ hun₀ hmedia hlive

-- ============================================================================
-- Every run
-- ============================================================================

/-- Over every stretch of the run that nobody hosts, ends included, the expected position
    is one and the same at all times. -/
def FrozenIntervals (P : Persistence σ) (a : Actor σ) (ls : List (Env × Msg)) : Prop :=
  ∀ pre mid post, ls = pre ++ (mid ++ post) →
    UnhostedStretch P (Actor.runActor P a pre) mid →
    Unhosted (Actor.runActor P a (pre ++ mid)).toCore →
    ∀ t t', (Actor.runActor P a (pre ++ mid)).playback.expected t'
      = (Actor.runActor P a pre).playback.expected t

/-- A leave that removes the host keeps, for all later times, the position expected when
    it is handled. -/
def KeepsPositionAtLeave (P : Persistence σ) (a : Actor σ) (l : Env × Msg) : Prop :=
  ∀ client, l.2 = .leave a.room.hostUserID client → a.room.hostUserID ∈ a.members →
    a.room.hostUserID ∉ (Actor.step P a l).members →
    ∀ t, (Actor.step P a l).playback.expected t = a.playback.expected (l.1.now 1)

/-- A close, and the next join of the host: from the reopen that follows the close, or
    over any stretch that nobody hosts, the joining connection is sent a snapshot whose
    expected position at any time is the one from before the close, and no checkpoint is
    written in between. -/
def FrozenOverClose (P : Persistence σ) (a : Actor σ) (ls : List (Env × Msg)) : Prop :=
  ∀ pre e₁ i c mid e₃ cl post,
    ls = pre ++ (e₁, .command i c) :: (mid ++ (e₃, .join cl) :: post) →
    let before := Actor.runActor P a pre
    let closed := Actor.step P before (e₁, .command i c)
    let waiting := Actor.runActor P closed mid
    let after := Actor.step P waiting (e₃, .join cl)
    c.type = .roomClose → (before.process P e₁ (.command i c)).2 = .command (.ok none) →
    ((∃ e₂, mid = [(e₂, .reopen)]) ∨ UnhostedStretch P closed mid) →
    cl.id = waiting.room.hostUserID → (waiting.process P e₃ (.join cl)).2 = .join (.ok ()) →
    (∃ e ok room p ms, Effect.send cl e ok ∈ after.out.drop waiting.out.length ∧
      e.event = .roomSnapshot room p ms ∧
      ∀ t₁ t₃, p.expected t₃ = before.playback.expected t₁) ∧
    checkpoints after.out = checkpoints before.out

theorem frozenUnhosted_step (P : Persistence σ) (a : Actor σ) (l : Env × Msg)
    (hinv : FrozenUnhosted a.toCore) (hok : ¬ Advances a.toCore l.2) :
    FrozenUnhosted (Actor.step P a l).toCore :=
  (frozen_turn a l hinv hok).1

theorem frozenIntervals {P : Persistence σ} {a : Actor σ} {ls : List (Env × Msg)}
    (hinit : FrozenUnhosted a.toCore)
    (hok : EachStep (Actor.step P) (fun a l => ¬ Advances a.toCore l.2) a ls) :
    FrozenIntervals P a ls := by
  intro pre mid post hls hstretch hun t t'
  rw [hls] at hok
  obtain ⟨hokpre, hokrest⟩ := eachStep_append.mp hok
  obtain ⟨hokmid, -⟩ := eachStep_append.mp hokrest
  have hinvPre : FrozenUnhosted (Actor.runActor P a pre).toCore :=
    run_invariant (frozenUnhosted_step P) hinit hokpre
  have hinvMid : FrozenUnhosted (Actor.runActor P (Actor.runActor P a pre) mid).toCore :=
    run_invariant (frozenUnhosted_step P) hinvPre hokmid
  have hsplit : Actor.runActor P a (pre ++ mid)
      = Actor.runActor P (Actor.runActor P a pre) mid := run_append _ _ _ _
  rw [hsplit] at hun ⊢
  obtain ⟨hkept, -⟩ := unhosted_stretch P hinvPre hstretch hokmid
  have hpaused := hinvMid hun
  rw [hkept] at hpaused ⊢
  rw [PlaybackState.expected_of_not_playing hpaused,
    PlaybackState.expected_of_not_playing hpaused]

theorem keepsPositionAtLeave (P : Persistence σ) (a : Actor σ) (l : Env × Msg)
    (hinv : FrozenUnhosted a.toCore) (hok : ¬ Advances a.toCore l.2) :
    KeepsPositionAtLeave P a l := by
  obtain ⟨env, m⟩ := l
  intro client hm hin hout t
  dsimp only at hm
  subst hm
  obtain ⟨r, hturn⟩ := turn_step P env a (.leave a.room.hostUserID client)
  generalize Actor.step P a (env, .leave a.room.hostUserID client) = a' at hturn hout ⊢
  generalize hid : a.room.hostUserID = id at hturn hin hout hok
  cases hturn with
  | stopped m h => exact absurd hin hout
  | leaveIgnored id client h => exact absurd hin hout
  | left id client m hlive hm hclient hhost =>
      have hpaused : a.playback.phase ≠ .playing := by
        cases hstatus : a.room.status with
        | OPEN => exact absurd ⟨hid.symm, hstatus⟩ hhost
        | HOST_DISCONNECTED =>
            intro hplaying
            subst hid
            exact hok ⟨hlive, Or.inr (Or.inl ⟨hplaying, hstatus, client, m, rfl, hm, hclient⟩)⟩
        | CLOSED => exact hinv (Or.inl hstatus)
      show a.playback.expected t = a.playback.expected (env.now 1)
      rw [PlaybackState.expected_of_not_playing hpaused,
        PlaybackState.expected_of_not_playing hpaused]
  | hostLeft id client m s hlive hm hclient hhost hstatus hs =>
      subst hs
      exact PlaybackState.expected_freeze a.playback (env.now 1) t
        (fun h => Phase.noConfusion h) rfl rfl

/-- A close that was carried out. -/
theorem close_accepted {P : Persistence σ} {env : Env} {a : Actor σ} {i : Identity} {c : Command}
    (htype : c.type = .roomClose)
    (hreply : (a.process P env (.command i c)).2 = .command (.ok none)) :
    a.stopped = false ∧ (∃ p, a.toCore.authorised i c = some p) ∧
    (Actor.step P a (env, .command i c)).room.status = .CLOSED ∧
    (Actor.step P a (env, .command i c)).playback = a.playback := by
  have hturn := turn P env a (.command i c)
  rw [hreply] at hturn
  rw [Actor.step]
  generalize (a.process P env (.command i c)).1 = a' at hturn ⊢
  cases hturn with
  | command i c a' r hlive hturn =>
      generalize hr : (Except.ok none : Except ActorError (Option PlaybackState)) = r at hturn
      cases hturn with
      | refused e => cases hr
      | ignored hm h =>
          rw [htype] at h
          exact absurd h (by decide)
      | readied p hm h => exact absurd (htype.symm.trans h) (by decide)
      | measured p s hm h hhost hs => exact absurd (htype.symm.trans h) (by decide)
      | host p a' r hp hturn =>
          refine ⟨hlive, ⟨p, hp⟩, ?_⟩
          cases hturn with
          | closed store h hP => exact ⟨rfl, rfl⟩
          | transferred m store h hm hguest hP => exact absurd (htype.symm.trans h) (by decide)
          | kicked m h hm hhost => exact absurd (htype.symm.trans h) (by decide)
          | mediaSet store h hid hP => exact absurd (htype.symm.trans h) (by decide)
          | playbackKept t hswitch =>
              have hplayback := Timeline.playbackSwitch_isPlayback hswitch
              rw [htype] at hplayback
              exact absurd hplayback (by decide)
          | playbackChanged t s hswitch hs => cases hr
          | _ => cases hr

theorem join_playback (P : Persistence σ) (a : Actor σ) (env : Env) (c : Client) :
    (Actor.step P a (env, .join c)).playback = a.playback := by
  obtain ⟨r, hturn⟩ := turn_step P env a (.join c)
  generalize Actor.step P a (env, .join c) = a' at hturn ⊢
  cases hturn with
  | stopped m h => rfl
  | joinRefused c e h => rfl
  | joined c s hlive hstatus hroom hback hs =>
      subst hs
      rfl
  | hostReturned c s hlive hroom hhost hstatus hs =>
      subst hs
      simp [Core.enter]

theorem frozenOverClose {P : Persistence σ} {a : Actor σ} {ls : List (Env × Msg)}
    (hinit : FrozenUnhosted a.toCore)
    (hok : EachStep (Actor.step P) (fun a l => ¬ Advances a.toCore l.2) a ls) :
    FrozenOverClose P a ls := by
  intro pre e₁ i c mid e₃ cl post hls before closed waiting after htype hreply hmid hid hjoin
  rw [hls] at hok
  obtain ⟨hokpre, hokrest⟩ := eachStep_append.mp hok
  obtain ⟨hokclose, hokrest⟩ := eachStep_cons.mp hokrest
  obtain ⟨hokmid, -⟩ := eachStep_append.mp hokrest
  have hinvBefore : FrozenUnhosted before.toCore :=
    run_invariant (frozenUnhosted_step P) hinit hokpre
  have hinvClosed : FrozenUnhosted closed.toCore :=
    frozenUnhosted_step P before _ hinvBefore hokclose
  obtain ⟨hlive, ⟨p, hp⟩, hstatus, hplayback⟩ := close_accepted htype hreply
  -- the close found the room paused
  have hpaused : before.playback.phase ≠ .playing := by
    intro hplaying
    exact hokclose ⟨hlive, Or.inl ⟨hplaying, i, c, p, rfl, hp, htype⟩⟩
  have hunClosed : Unhosted closed.toCore := Or.inl hstatus
  have hstretch : UnhostedStretch P closed mid := by
    rcases hmid with ⟨e₂, rfl⟩ | hstretch
    · refine eachStep_cons.mpr ⟨⟨hunClosed, ?_⟩, eachStep_nil _ _⟩
      rintro ⟨i, c, hm, -⟩
      cases hm
    · exact hstretch
  obtain ⟨hkept, hcps⟩ := unhosted_stretch P hinvClosed hstretch hokmid
  obtain ⟨pre', e, ok, post', hout, -, he⟩ := join_accepted hjoin
  have hafter : after.playback = before.playback :=
    (join_playback P waiting e₃ cl).trans (hkept.trans hplayback)
  refine ⟨⟨e, ok, after.room, after.playback, Actor.memberList after.toCore, ?_, he, ?_⟩, ?_⟩
  · show Effect.send cl e ok ∈ after.out.drop waiting.out.length
    rw [show after.out = _ from hout, List.drop_left]
    simp
  · intro t₁ t₃
    rw [hafter, PlaybackState.expected_of_not_playing hpaused,
      PlaybackState.expected_of_not_playing hpaused]
  · have hrunning : waiting.stopped = false := by
      by_contra hstopped
      rw [Actor.process] at hjoin
      rw [if_pos (Bool.not_eq_false _ ▸ hstopped)] at hjoin
      cases hjoin
    have hclose : checkpoints closed.out = checkpoints before.out := by
      have hturn := turn P e₁ before (.command i c)
      show checkpoints (before.process P e₁ (.command i c)).1.out = _
      generalize (before.process P e₁ (.command i c)).1 = a' at hturn ⊢
      generalize (before.process P e₁ (.command i c)).2 = r at hturn
      cases hturn with
      | stopped m h => rfl
      | command i c a' r hlive hturn =>
          exact checkpoints_commandTurn hlive hokclose (Or.inr htype) hturn
    rw [show checkpoints after.out = _ from checkpoints_join P waiting e₃ cl, hcps hrunning,
      hclose]

/-- **The timeline stands still while nobody hosts.**  In every run from `NewActor` none of
    whose steps advances a room without host, the expected position is constant over
    every stretch without host but for `cmd.room.media`, a leaving host keeps it, and a
    host that rejoins after a close and a reopen finds it where it was. -/
theorem timeline_frozen (P : Persistence σ) (room : Room) (checkpoint : Option Checkpoint)
    (store : σ) (grace : Nat) (ls : List (Env × Msg))
    (hok : EachStep (Actor.step P) (fun a l => ¬ Advances a.toCore l.2)
      (newActor room checkpoint store grace) ls) :
    FrozenIntervals P (newActor room checkpoint store grace) ls ∧
    EachStep (Actor.step P) (KeepsPositionAtLeave P) (newActor room checkpoint store grace) ls ∧
    FrozenOverClose P (newActor room checkpoint store grace) ls := by
  have hinit := frozenUnhosted_newActor room checkpoint store grace
  exact ⟨frozenIntervals hinit hok,
    eachStep_of_invariant (frozenUnhosted_step P) (keepsPositionAtLeave P) hinit hok,
    frozenOverClose hinit hok⟩

/-- The host plays from the start and leaves. -/
def leavePlayingRun : List (Env × Msg) :=
  [(Env.at 1000, .join (userClient 1 "h")),
   (Env.at 1000, .command (user "h") (hostCommand .playbackPlay "" 0 "")),
   (Env.at 2000, .leave "h" (some (userClient 1 "h"))),
   (Env.at 9000, .join (userClient 2 "h"))]

/-- A run of the good kind: the timeline stops where the host left. -/
theorem timeline_frozen_leavePlayingRun :
    EachStep (Actor.step (.answering (.ok ()) []))
      (KeepsPositionAtLeave (.answering (.ok ()) [])) (newActor (smallRoom "h") none () 60)
      leavePlayingRun := by
  refine (timeline_frozen (.answering (.ok ()) []) (smallRoom "h") none () 60 leavePlayingRun
    ?_).2.1
  rw [leavePlayingRun]
  simp only [eachStep_cons]
  refine ⟨?_, ?_, ?_, ?_, eachStep_nil _ _⟩
  · rintro ⟨-, ⟨hplaying, -⟩ | ⟨hplaying, -⟩ | ⟨hclosed, -⟩⟩
    · exact absurd hplaying (by decide)
    · exact absurd hplaying (by decide)
    · exact absurd hclosed (by decide)
  · rintro ⟨-, ⟨hplaying, -⟩ | ⟨hplaying, -⟩ | ⟨hclosed, -⟩⟩
    · exact absurd hplaying (by decide)
    · exact absurd hplaying (by decide)
    · exact absurd hclosed (by decide)
  · rintro ⟨-, ⟨-, i, c, p, hm, -⟩ | ⟨-, hstatus, -⟩ | ⟨hclosed, -⟩⟩
    · cases hm
    · exact absurd hstatus (by decide)
    · exact absurd hclosed (by decide)
  · rintro ⟨-, ⟨hplaying, -⟩ | ⟨hplaying, -⟩ | ⟨hclosed, -⟩⟩
    · exact absurd hplaying (by decide)
    · exact absurd hplaying (by decide)
    · exact absurd hclosed (by decide)

/-- The host closes the room while it plays; the ticker comes by, the room is reopened
    and the host is back at second ten. -/
def closePlayingRun : List (Env × Msg) :=
  [(Env.at 1000, .join (userClient 1 "h")),
   (Env.at 1000, .command (user "h") (hostCommand .playbackPlay "" 0 "")),
   (Env.at 2000, .command (user "h") (hostCommand .roomClose "" 0 "")),
   (Env.at 4000, .checkpoint),
   (Env.at 5000, .reopen),
   (Env.at 10000, .join (userClient 2 "h"))]

/-- The closed room of that run. -/
def closePlayingRoom (n : Nat) : Actor Unit :=
  Actor.runActor (.answering (.ok ()) []) (newActor (smallRoom "h") none () 60)
    (closePlayingRun.take n)

/-- The timeline runs on in the closed room: at the close it expected 650 ms, the ticker
    stores 2650 ms, and the host that rejoins is told 8650 ms. -/
theorem timeline_advances_after_close :
    (closePlayingRoom 2).playback.expected 2000 = 650 ∧
    (closePlayingRoom 3).room.status = .CLOSED ∧
    (checkpoints (closePlayingRoom 6).out).map (fun cp => cp.positionMs) = [0, 2650] ∧
    (closePlayingRoom 6).playback.expected 10000 = 8650 ∧
    ¬ FrozenIntervals (.answering (.ok ()) []) (newActor (smallRoom "h") none () 60)
        closePlayingRun := by
  refine ⟨by decide +kernel, by decide, by decide +kernel, by decide +kernel, ?_⟩
  intro h
  have hsame := h (closePlayingRun.take 3) [] (closePlayingRun.drop 3) rfl (eachStep_nil _ _)
    (Or.inl (by decide)) 2000 10000
  exact absurd hsame (by decide +kernel)

end WatchTogether.Rooms

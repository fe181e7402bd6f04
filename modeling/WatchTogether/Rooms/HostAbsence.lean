/-
  WatchTogether.Rooms.HostAbsence

  The relation between the host, the status and the membership of a room while
  every persistence call succeeds: a disconnected room has no host in it, a closed
  room has nobody in it, and a host that leaves an open room leaves it paused.

  One path breaks it.  `cmd.room.transfer_host` is a `cmd.room.*` command, so it
  reaches a disconnected room over HTTP from its absent host, and it changes the
  host without opening the room, which `TransferHost` does in the database and the
  expiry path does in memory.  Runs without that step are exactly the safe ones.
-/

import WatchTogether.Rooms.Turn

namespace WatchTogether.Rooms

open LabelledRun

variable {σ : Type}

-- ============================================================================
-- The property
-- ============================================================================

/-- In a disconnected room the current host is not a member. -/
def HostAbsent (s : Core) : Prop :=
  s.room.status = .HOST_DISCONNECTED → s.room.hostUserID ∉ s.members

/-- A leave that removes the host from a room that is not closed leaves the room
    disconnected and not playing. -/
def HostLeavePauses (s : Core) (m : Msg) (s' : Core) : Prop :=
  ∀ id client, m = .leave id client → id = s.room.hostUserID →
    id ∈ s.members → id ∉ s'.members → s.room.status ≠ .CLOSED →
    s'.playback.phase ≠ .playing ∧ s'.room.status = .HOST_DISCONNECTED

/-- Host-absence safety of a run from `a`: of every state it reaches and of every step. -/
def HostSafe (P : Persistence σ) (a : Actor σ) (ls : List (Env × Msg)) : Prop :=
  (∀ pre post, ls = pre ++ post → HostAbsent (Actor.runActor P a pre).toCore) ∧
  EachStep (Actor.step P)
    (fun a l => HostLeavePauses a.toCore l.2 (Actor.step P a l).toCore) a ls

/-- The message is a host transfer that `apply` carries out although the room is
    disconnected. -/
def TransfersAbsentHost (s : Core) (m : Msg) : Prop :=
  s.stopped = false ∧ s.room.status = .HOST_DISCONNECTED ∧
    ∃ i c p target, m = .command i c ∧ s.authorised i c = some p ∧
      c.type = .roomTransferHost ∧ s.members.lookup p.targetUserID = some target ∧
      target.identity.guest = false

-- ============================================================================
-- The invariant
-- ============================================================================

/-- What every step but an absent host's transfer keeps. -/
structure HostInvariant (s : Core) : Prop where
  disconnected : HostAbsent s
  closed : s.room.status = .CLOSED → ∀ id, id ∉ s.members

/-- A step that keeps host and status and adds no member keeps the invariant. -/
theorem HostInvariant.mono {s s' : Core} (h : HostInvariant s)
    (hhost : s'.room.hostUserID = s.room.hostUserID) (hstatus : s'.room.status = s.room.status)
    (hmem : ∀ id, id ∈ s'.members → id ∈ s.members) : HostInvariant s' := by
  refine ⟨?_, ?_⟩
  · intro hdis hin
    rw [hstatus] at hdis
    rw [hhost] at hin
    exact h.disconnected hdis (hmem _ hin)
  · intro hclosed id hin
    rw [hstatus] at hclosed
    exact h.closed hclosed id (hmem id hin)

/-- An open room satisfies the invariant, whoever is in it. -/
theorem HostInvariant.of_open {s : Core} (h : s.room.status = .OPEN) : HostInvariant s := by
  refine ⟨?_, ?_⟩
  · intro hdis
    rw [h] at hdis
    exact RoomStatus.noConfusion hdis
  · intro hclosed
    rw [h] at hclosed
    exact RoomStatus.noConfusion hclosed

/-- A room with nobody in it satisfies the invariant, whatever its status. -/
theorem HostInvariant.of_empty {s : Core} (h : ∀ id, id ∉ s.members) : HostInvariant s :=
  ⟨fun _ => h _, fun _ => h⟩

theorem hostInvariant_newActor (room : Room) (checkpoint : Option Checkpoint) (store : σ)
    (grace : Nat) : HostInvariant (newActor room checkpoint store grace).toCore :=
  HostInvariant.of_empty (fun id => AList.notMem_empty id)

theorem hostInvariant_hostTurn {P : Persistence σ} (hP : P.Succeeds) {env : Env} {a a' : Actor σ}
    {i : Identity} {c : Command} {p : CommandPayload}
    {r : Except ActorError (Option PlaybackState)} (hinv : HostInvariant a.toCore)
    (hlive : a.stopped = false) (hp : a.toCore.authorised i c = some p)
    (hok : ¬ TransfersAbsentHost a.toCore (.command i c))
    (hturn : HostTurn P env a c.type p a' r) : HostInvariant a'.toCore := by
  cases hturn with
  | refused e => exact hinv
  | transferRefused m e store htype hm hguest hfail =>
      have hsucc := hP.transferHost a.room.id a.room.hostUserID p.targetUserID (env.now 0) a.store
      rw [hfail] at hsucc
      exact absurd hsucc (by simp)
  | transferred m store htype hm hguest hdone =>
      have hstatus : a.room.status ≠ .HOST_DISCONNECTED := by
        intro hdis
        exact hok ⟨hlive, hdis, i, c, p, m, rfl, hp, htype, hm, hguest⟩
      refine ⟨fun hdis => absurd hdis hstatus, ?_⟩
      intro hclosed id
      exact hinv.closed hclosed id
  | kicked m htype hm hhost => exact hinv.mono rfl rfl (fun id hin => (Core.mem_remove.mp hin).2)
  | closeFailed e store htype hfail =>
      have hsucc := hP.closeRoom a.room.id (env.now 0) a.store
      rw [hfail] at hsucc
      exact absurd hsucc (by simp)
  | closed store htype hdone => exact HostInvariant.of_empty (fun id => AList.notMem_empty id)
  | mediaRefused e store htype hid hfail => exact hinv
  | mediaSet store htype hid hdone => exact hinv.mono rfl rfl (fun id hin => hin)
  | playbackRefused t e hswitch => exact hinv.mono rfl rfl (fun id hin => hin)
  | playbackKept t hswitch => exact hinv.mono rfl rfl (fun id hin => hin)
  | playbackChanged t s hswitch hs =>
      subst hs
      exact hinv.mono rfl rfl (fun id hin => hin)

theorem hostInvariant_commandTurn {P : Persistence σ} (hP : P.Succeeds) {env : Env}
    {a a' : Actor σ} {i : Identity} {c : Command} {r : Except ActorError (Option PlaybackState)}
    (hinv : HostInvariant a.toCore) (hlive : a.stopped = false)
    (hok : ¬ TransfersAbsentHost a.toCore (.command i c))
    (hturn : CommandTurn P env a i c a' r) : HostInvariant a'.toCore := by
  cases hturn with
  | refused e => exact hinv
  | ignored hm htype => exact hinv
  | readied p hm htype => exact hinv.mono rfl rfl (fun id hin => Core.mem_withReady.mp hin)
  | measured p s hm htype hhost hs =>
      subst hs
      exact hinv.mono rfl rfl (fun id hin => Core.mem_withReady.mp hin)
  | host p a' r hp hturn => exact hostInvariant_hostTurn hP hinv hlive hp hok hturn

/-- **Step lemma.**  Every step but an absent host's transfer keeps the invariant. -/
theorem hostInvariant_step {P : Persistence σ} (hP : P.Succeeds) (a : Actor σ) (l : Env × Msg)
    (hinv : HostInvariant a.toCore) (hok : ¬ TransfersAbsentHost a.toCore l.2) :
    HostInvariant (Actor.step P a l).toCore := by
  obtain ⟨env, m⟩ := l
  obtain ⟨r, hturn⟩ := turn_step P env a m
  generalize Actor.step P a (env, m) = a' at hturn ⊢
  cases hturn with
  | stopped m h => exact hinv
  | joinRefused c e h => exact hinv
  | joined c s hlive hstatus hroom hback hs =>
      subst hs
      refine ⟨?_, fun hclosed => absurd hclosed hstatus⟩
      intro hdis hin
      rcases Core.mem_enter.mp hin with h | h
      · exact hback ⟨h.symm, hdis⟩
      · exact hinv.disconnected hdis h
  | hostReturned c s hlive hroom hhost hstatus hs =>
      subst hs
      exact HostInvariant.of_open (by simp)
  | leaveIgnored id client h => exact hinv
  | left id client m hlive hm hclient hhost =>
      exact hinv.mono rfl rfl (fun x hin => (Core.mem_remove.mp hin).2)
  | hostLeft id client m s hlive hm hclient hhost hstatus hs =>
      subst hs
      refine ⟨?_, fun hclosed => RoomStatus.noConfusion hclosed⟩
      intro _ hin
      exact (Core.mem_remove.mp hin).1 hhost.symm
  | expireIgnored hostID store h => exact hinv
  | tookOver hostID next m candidate s hlive hstatus hhost hchosen hsome hnext
      hcand hid hm hguest hs =>
      subst hs
      exact HostInvariant.of_open rfl
  | command i c a' r hlive hturn => exact hostInvariant_commandTurn hP hinv hlive hok hturn
  | snapshot => exact hinv
  | readied id ready => exact hinv.mono rfl rfl (fun x hin => Core.mem_withReady.mp hin)
  | relayed e => exact hinv
  | checkpointSkipped h => exact hinv
  | checkpointed h => exact hinv
  | reopenIgnored h => exact hinv
  | reopenFailed e store h hfail => exact hinv
  | reopened store h hdone => exact HostInvariant.of_empty (fun id => hinv.closed h id)
  | renameFailed title e store hfail => exact hinv
  | renamed title store hdone => exact hinv.mono rfl rfl (fun id hin => hin)
  | halted hlive =>
      exact hinv.mono (by simp) (by simp) (fun id hin => by simpa using hin)

-- ============================================================================
-- Leaves and transfers
-- ============================================================================

/-- Under the invariant, a host that leaves a room leaves it paused. -/
theorem hostLeavePauses_step {P : Persistence σ} (a : Actor σ) (l : Env × Msg)
    (hinv : HostInvariant a.toCore) :
    HostLeavePauses a.toCore l.2 (Actor.step P a l).toCore := by
  obtain ⟨env, m⟩ := l
  intro id client hm hid hin hout hopen
  dsimp only at hm
  subst hm
  obtain ⟨r, hturn⟩ := turn_step P env a (.leave id client)
  generalize Actor.step P a (env, .leave id client) = a' at hturn hout ⊢
  cases hturn with
  | stopped m h => exact absurd hin hout
  | leaveIgnored id client h => exact absurd hin hout
  | left id client m hlive hm hclient hhost =>
      -- the host is in the room, so the room is neither disconnected nor, here, open
      have hstatus : a.room.status = .OPEN := by
        cases hs : a.room.status with
        | OPEN => rfl
        | HOST_DISCONNECTED => exact absurd (hid ▸ hin) (hinv.disconnected hs)
        | CLOSED => exact absurd hs hopen
      exact absurd ⟨hid, hstatus⟩ hhost
  | hostLeft id client m s hlive hm hclient hhost hstatus hs =>
      subst hs
      exact ⟨fun h => Phase.noConfusion h, rfl⟩

/-- A transfer from an absent host leaves the new host inside a disconnected room. -/
theorem hostPresent_of_transfersAbsentHost {P : Persistence σ} (hP : P.Succeeds) (a : Actor σ)
    (l : Env × Msg) (h : TransfersAbsentHost a.toCore l.2) :
    ¬ HostAbsent (Actor.step P a l).toCore := by
  obtain ⟨env, m⟩ := l
  obtain ⟨hlive, hdis, i, c, p, target, hm, hp, htype, htarget, hguest⟩ := h
  dsimp only at hm
  subst hm
  have hstep : (Actor.step P a (env, .command i c)).toCore
      = a.toCore.setHost p.targetUserID := by
    have hdone := hP.transferHost a.room.id a.room.hostUserID p.targetUserID (env.now 0) a.store
    have hcall : P.transferHost a.room.id a.room.hostUserID p.targetUserID (env.now 0) a.store
        = (.ok (), _) := Prod.ext hdone rfl
    exact (process_transferHost hlive hp htype htarget hguest hcall).1
  rw [hstep]
  intro habsent
  exact habsent hdis (AList.mem_of_lookup htarget)

-- ============================================================================
-- Every run
-- ============================================================================

/-- **Host absence.**  With every persistence call succeeding, a run is safe exactly
    when none of its steps transfers the host of a disconnected room. -/
theorem hostSafe_iff {P : Persistence σ} (hP : P.Succeeds) (room : Room)
    (checkpoint : Option Checkpoint) (store : σ) (grace : Nat) (ls : List (Env × Msg)) :
    HostSafe P (newActor room checkpoint store grace) ls ↔
    EachStep (Actor.step P) (fun a l => ¬ TransfersAbsentHost a.toCore l.2)
      (newActor room checkpoint store grace) ls := by
  have hinit := hostInvariant_newActor room checkpoint store grace
  constructor
  · rintro ⟨habsent, -⟩ pre l post hls hbad
    have hafter := habsent (pre ++ [l]) post (by rw [hls, List.append_assoc]; rfl)
    rw [Actor.runActor] at hafter
    rw [run_append] at hafter
    exact hostPresent_of_transfersAbsentHost hP _ l hbad hafter
  · intro hok
    refine ⟨?_, ?_⟩
    · intro pre post hls
      subst hls
      exact (run_invariant_before (hostInvariant_step hP) hinit hok).disconnected
    · exact eachStep_of_invariant (hostInvariant_step hP)
        (fun a l hinv _ => hostLeavePauses_step a l hinv) hinit hok

/-- The host `h` leaves, and hands the disconnected room over to `u` over HTTP; the new
    host plays and leaves. -/
def absentTransferRun : List (Env × Msg) :=
  [(Env.at 1, .join (userClient 1 "h")),
   (Env.at 2, .join (userClient 2 "u")),
   (Env.at 3, .leave "h" (some (userClient 1 "h"))),
   (Env.at 4, .command (user "h") (hostCommand .roomTransferHost "u" 0 "")),
   (Env.at 5, .command (user "u") (hostCommand .playbackPlay "" 0 "")),
   (Env.at 6, .leave "u" (some (userClient 2 "u")))]

/-- The actor of the room of `h`, over a store that accepts everything. -/
def absentTransferRoom : Actor Unit := newActor (smallRoom "h") none () 60

/-- Up to the transfer the run is safe. -/
theorem hostSafe_before_transfer :
    HostSafe (.answering (.ok ()) []) absentTransferRoom (absentTransferRun.take 3) := by
  refine (hostSafe_iff (Persistence.answering_succeeds []) (smallRoom "h") none () 60 _).mpr ?_
  have hnot : ∀ (s : Core) (m : Msg), (∀ i c, m ≠ .command i c) → ¬ TransfersAbsentHost s m := by
    rintro s m hm ⟨-, -, i, c, p, target, heq, -⟩
    exact hm i c heq
  rw [absentTransferRun]
  simp only [List.take, eachStep_cons]
  refine ⟨hnot _ _ ?_, hnot _ _ ?_, hnot _ _ ?_, eachStep_nil _ _⟩
  · intro i c h
    cases h
  · intro i c h
    cases h
  · intro i c h
    cases h

/-- The transfer puts the new host into a disconnected room, and when that host leaves,
    the room keeps playing with nobody to host it. -/
theorem hostSafe_fails_after_transfer :
    (Persistence.answering (.ok ()) []).Succeeds ∧
    ¬ HostSafe (.answering (.ok ()) []) absentTransferRoom absentTransferRun ∧
    ¬ HostAbsent
        (Actor.runActor (.answering (.ok ()) []) absentTransferRoom
          (absentTransferRun.take 4)).toCore ∧
    (Actor.runActor (.answering (.ok ()) []) absentTransferRoom
      absentTransferRun).playback.phase = .playing := by
  have habsent : ¬ HostAbsent
      (Actor.runActor (.answering (.ok ()) []) absentTransferRoom
        (absentTransferRun.take 4)).toCore := by
    intro h
    exact h (by decide) (by decide)
  refine ⟨Persistence.answering_succeeds [], ?_, habsent, by decide⟩
  rintro ⟨hall, -⟩
  exact habsent (hall _ (absentTransferRun.drop 4) rfl)

end WatchTogether.Rooms

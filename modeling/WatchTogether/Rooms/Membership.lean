/-
  WatchTogether.Rooms.Membership

  The member map of a room against the history of what happened to its membership.

  A run is seen as the list of its membership events: joins that were accepted,
  leaves that were handled, kicks and closes that were carried out.  A connection
  owns the entry of its identity *since* it joined, unless a later event displaced
  it.  The map holds exactly the owners, under their own ids; the counter counts
  them and the room's bound holds.
-/

import WatchTogether.Lib.History
import WatchTogether.Rooms.Turn

namespace WatchTogether.Rooms

open LabelledRun History

variable {σ : Type}

-- ============================================================================
-- Membership events
-- ============================================================================

/-- What can happen to the membership of a room. -/
inductive MemberEvent where
  /-- A join was accepted. -/
  | joined (c : Client)
  /-- `LeaveClient(c)` was handled. -/
  | leftClient (c : Client)
  /-- `Leave(id)` was handled. -/
  | left (id : String)
  /-- A kick was carried out. -/
  | kicked (id : String)
  /-- The room was closed. -/
  | closed
deriving DecidableEq

/-- The event gives the entry of `id` to the connection `c`. -/
def MemberEvent.Starts (id : String) (c : Client) : MemberEvent → Prop
  | .joined c' => c' = c ∧ c.id = id
  | _ => False

/-- The event does not take the entry of `id` away from the connection `c`.  A leave of
    another connection of the same identity does not. -/
def MemberEvent.Keeps (id : String) (c : Client) : MemberEvent → Prop
  | .joined c' => c'.id ≠ id
  | .leftClient c' => c' ≠ c
  | .left id' => id' ≠ id
  | .kicked id' => id' ≠ id
  | .closed => False

/-- `c` is the connection of the most recently accepted join for `id`, and neither its
    own leave, nor a leave or a kick of `id`, nor a close has followed. -/
def IsOwner (h : List MemberEvent) (id : String) (c : Client) : Prop :=
  Since (MemberEvent.Keeps id c) (MemberEvent.Starts id c) h

/-- The membership event of a message and its reply.  `LeaveClient(c)` enqueues the id of
    `c` itself, and no message is handled once the actor has stopped. -/
def memberEvents (stopped : Bool) : Msg → Reply → List MemberEvent
  | .join c, .join (.ok _) => [.joined c]
  | .leave id none, _ => if stopped then [] else [.left id]
  | .leave id (some c), _ => if stopped ∨ c.id ≠ id then [] else [.leftClient c]
  | .command _ c, .command (.ok _) =>
      match c.type, c.payload.asCommand with
      | .roomKick, some p => [.kicked p.targetUserID]
      | .roomClose, some _ => [.closed]
      | _, _ => []
  | _, _ => []

/-- The membership events of one step of the actor. -/
def seeMembers (P : Persistence σ) (a : Actor σ) (l : Env × Msg) : List MemberEvent :=
  memberEvents a.stopped l.2 (a.process P l.1 l.2).2

/-- Outside `cmd.room.*` a command is no membership event. -/
theorem memberEvents_of_not_admin {stopped : Bool} {i : Identity} {c : Command}
    {r : Except ActorError (Option PlaybackState)} (h : c.type.isAdmin = false) :
    memberEvents stopped (.command i c) (.command r) = [] := by
  cases r with
  | error e => rfl
  | ok v =>
      obtain ⟨type, payload⟩ := c
      cases type with
      | roomKick => exact Bool.noConfusion h
      | roomClose => exact Bool.noConfusion h
      | _ => rfl

-- ============================================================================
-- The invariant
-- ============================================================================

/-- `c` is the client of `members[id]`. -/
def Holds (s : Core) (id : String) (c : Client) : Prop :=
  ∃ m, s.members.lookup id = some m ∧ m.client = c

/-- The member map, the counter and the bound, after the history `h`. -/
structure Membership (h : List MemberEvent) (s : Core) : Prop where
  owner : ∀ id c, Holds s id c ↔ IsOwner h id c
  own : ∀ id m, s.members.lookup id = some m → m.client.id = id ∧ m.identity = m.client.identity
  counted : s.clients = s.members.size
  bounded : (s.members.size : Int) ≤ s.room.maxMembers

/-- A step that leaves members, counter and bound alone. -/
theorem Membership.frame {h : List MemberEvent} {s s' : Core} (hs : Membership h s)
    (hmembers : s'.members = s.members) (hclients : s'.clients = s.clients)
    (hmax : s'.room.maxMembers = s.room.maxMembers) : Membership h s' := by
  refine ⟨?_, ?_, ?_, ?_⟩
  · intro id c
    rw [Holds]
    rw [hmembers]
    exact hs.owner id c
  · rw [hmembers]
    exact hs.own
  · rw [hclients, hmembers]
    exact hs.counted
  · rw [hmembers, hmax]
    exact hs.bounded

/-- A step that is no event. -/
theorem Membership.quiet {h es : List MemberEvent} {s : Core} (hs : Membership h s)
    (hes : es = []) : Membership (h ++ es) s := by
  rw [hes, List.append_nil]
  exact hs

/-- A step that is no event and leaves members, counter and bound alone. -/
theorem Membership.unmoved {h es : List MemberEvent} {s s' : Core} (hs : Membership h s)
    (hes : es = []) (hmembers : s'.members = s.members) (hclients : s'.clients = s.clients)
    (hmax : s'.room.maxMembers = s.room.maxMembers) : Membership (h ++ es) s' :=
  (hs.frame hmembers hclients hmax).quiet hes

theorem lookup_withReady {k : String} {ready : Bool} {s : Core} {id : String}
    {m : RuntimeMember} (h : (s.withReady k ready).members.lookup id = some m) :
    ∃ m', s.members.lookup id = some m' ∧ m.client = m'.client ∧ m.identity = m'.identity := by
  have hlook : (s.withReady k ready).members.lookup id = _ := AList.lookup_modify _ s.members id
  rw [h] at hlook
  cases hm : s.members.lookup id with
  | none =>
      rw [hm] at hlook
      exact absurd hlook (by simp)
  | some m' =>
      rw [hm, Option.map_some, Option.some.injEq] at hlook
      refine ⟨m', rfl, ?_, ?_⟩
      · rw [hlook]
        split <;> rfl
      · rw [hlook]
        split <;> rfl

theorem holds_withReady {k : String} {ready : Bool} {s : Core} {id : String} {c : Client} :
    Holds (s.withReady k ready) id c ↔ Holds s id c := by
  constructor
  · rintro ⟨m, hm, rfl⟩
    obtain ⟨m', hm', hclient, -⟩ := lookup_withReady hm
    exact ⟨m', hm', hclient.symm⟩
  · rintro ⟨m, hm, rfl⟩
    have hmem : id ∈ (s.withReady k ready).members := by
      rw [Core.mem_withReady]
      exact AList.mem_of_lookup hm
    obtain ⟨m', hm'⟩ := AList.mem_iff_lookup.mp hmem
    obtain ⟨m'', hm'', hclient, -⟩ := lookup_withReady hm'
    rw [hm] at hm''
    rw [Option.some.injEq] at hm''
    exact ⟨m', hm', by rw [hclient, ← hm'']⟩

theorem Membership.ready {h : List MemberEvent} {s : Core} (hs : Membership h s) (k : String)
    (ready : Bool) : Membership h (s.withReady k ready) := by
  have hsize : (s.withReady k ready).members.size = s.members.size := AList.size_modify _ _
  refine ⟨?_, ?_, ?_, ?_⟩
  · intro id c
    rw [holds_withReady]
    exact hs.owner id c
  · intro id m hm
    obtain ⟨m', hm', hclient, hidentity⟩ := lookup_withReady hm
    rw [hclient, hidentity]
    exact hs.own id m' hm'
  · rw [hsize]
    exact hs.counted
  · rw [hsize]
    exact hs.bounded

theorem holds_enter {c : Client} {now : Int64} {s : Core} {id : String} {c' : Client} :
    Holds (s.enter c now) id c' ↔ (id = c.id ∧ c' = c) ∨ (id ≠ c.id ∧ Holds s id c') := by
  rw [Holds, Core.enter]
  constructor
  · rintro ⟨m, hm, rfl⟩
    rcases AList.lookup_insert_iff.mp hm with ⟨hid, rfl⟩ | ⟨hid, hm⟩
    · exact Or.inl ⟨hid, rfl⟩
    · exact Or.inr ⟨hid, m, hm, rfl⟩
  · rintro (⟨hid, rfl⟩ | ⟨hid, m, hm, rfl⟩)
    · exact ⟨_, AList.lookup_insert_iff.mpr (Or.inl ⟨hid, rfl⟩), rfl⟩
    · exact ⟨m, AList.lookup_insert_iff.mpr (Or.inr ⟨hid, hm⟩), rfl⟩

theorem Membership.enter {h : List MemberEvent} {s : Core} (hs : Membership h s) {c : Client}
    (hroom : c.id ∈ s.members ∨ (s.members.size : Int) < s.room.maxMembers) (now : Int64) :
    Membership (h ++ [.joined c]) (s.enter c now) := by
  refine ⟨?_, ?_, ?_, ?_⟩
  · intro id c'
    rw [IsOwner]
    rw [holds_enter, since_snoc]
    constructor
    · rintro (⟨hid, rfl⟩ | ⟨hid, hold⟩)
      · exact Or.inl ⟨rfl, hid.symm⟩
      · exact Or.inr ⟨(hs.owner id c').mp hold, fun h => hid h.symm⟩
    · rintro (⟨rfl, hid⟩ | ⟨hown, hkeep⟩)
      · exact Or.inl ⟨hid.symm, rfl⟩
      · exact Or.inr ⟨fun h => hkeep h.symm, (hs.owner id c').mpr hown⟩
  · intro id m hm
    rcases AList.lookup_insert_iff.mp hm with ⟨hid, rfl⟩ | ⟨-, hm⟩
    · exact ⟨hid.symm, rfl⟩
    · exact hs.own id m hm
  · show (if c.id ∈ s.members then s.clients else s.clients + 1)
      = (AList.insert c.id _ s.members).size
    by_cases hin : c.id ∈ s.members
    · rw [if_pos hin, AList.size_insert_of_mem hin]
      exact hs.counted
    · rw [if_neg hin, AList.size_insert_of_notMem hin, hs.counted]
      rfl
  · show ((AList.insert c.id _ s.members).size : Int) ≤ s.room.maxMembers
    have hbound := hs.bounded
    by_cases hin : c.id ∈ s.members
    · rw [AList.size_insert_of_mem hin]
      exact hbound
    · have hlt := hroom.resolve_left hin
      rw [AList.size_insert_of_notMem hin]
      omega

theorem holds_remove {k : String} {s : Core} {id : String} {c : Client} :
    Holds (s.remove k) id c ↔ id ≠ k ∧ Holds s id c := by
  rw [Holds, Core.remove]
  constructor
  · rintro ⟨m, hm, rfl⟩
    obtain ⟨hid, hm⟩ := AList.lookup_erase_iff.mp hm
    exact ⟨hid, m, hm, rfl⟩
  · rintro ⟨hid, m, hm, rfl⟩
    exact ⟨m, AList.lookup_erase_iff.mpr ⟨hid, hm⟩, rfl⟩

/-- The entry `k` goes with an event that displaces its holder and nobody else. -/
theorem Membership.remove {h : List MemberEvent} {s : Core} (hs : Membership h s) {k : String}
    (hk : k ∈ s.members) {e : MemberEvent} (hstart : ∀ id c, ¬ e.Starts id c)
    (hkeep : ∀ id c, Holds s id c → (e.Keeps id c ↔ id ≠ k)) :
    Membership (h ++ [e]) (s.remove k) := by
  have hsize : (s.remove k).members.size + 1 = s.members.size := AList.size_erase_of_mem hk
  refine ⟨?_, ?_, ?_, ?_⟩
  · intro id c
    rw [IsOwner]
    rw [holds_remove, since_snoc]
    constructor
    · rintro ⟨hid, hold⟩
      exact Or.inr ⟨(hs.owner id c).mp hold, (hkeep id c hold).mpr hid⟩
    · rintro (hst | ⟨hown, hke⟩)
      · exact absurd hst (hstart id c)
      · have hold := (hs.owner id c).mpr hown
        exact ⟨(hkeep id c hold).mp hke, hold⟩
  · intro id m hm
    exact hs.own id m (AList.lookup_erase_iff.mp hm).2
  · have hcounted := hs.counted
    show s.clients - 1 = (s.remove k).members.size
    omega
  · have hbound := hs.bounded
    show ((s.remove k).members.size : Int) ≤ s.room.maxMembers
    omega

/-- An event that displaces no holder leaves the map as it is. -/
theorem Membership.ignore {h : List MemberEvent} {s : Core} (hs : Membership h s)
    {e : MemberEvent} (hstart : ∀ id c, ¬ e.Starts id c)
    (hkeep : ∀ id c, Holds s id c → e.Keeps id c) : Membership (h ++ [e]) s := by
  refine ⟨?_, hs.own, hs.counted, hs.bounded⟩
  intro id c
  rw [IsOwner]
  rw [since_snoc]
  constructor
  · intro hold
    exact Or.inr ⟨(hs.owner id c).mp hold, hkeep id c hold⟩
  · rintro (hst | ⟨hown, -⟩)
    · exact absurd hst (hstart id c)
    · exact (hs.owner id c).mpr hown

theorem Membership.close {h : List MemberEvent} {s : Core} (hs : Membership h s) :
    Membership (h ++ [.closed]) s.empty := by
  have hbound := hs.bounded
  refine ⟨?_, ?_, rfl, ?_⟩
  · intro id c
    rw [IsOwner]
    rw [since_snoc]
    constructor
    · rintro ⟨m, hm, -⟩
      exact absurd hm (by simp [Core.empty])
    · rintro (hst | ⟨-, hke⟩)
      · exact hst.elim
      · exact hke.elim
  · intro id m hm
    exact absurd hm (by simp [Core.empty])
  · show (0 : Int) ≤ s.room.maxMembers
    omega

-- ============================================================================
-- One step
-- ============================================================================

/-- The leave that removes the entry of `id` is an event that displaces its holder and
    nobody else. -/
theorem memberEvents_left {h : List MemberEvent} {s : Core} (hs : Membership h s) {id : String}
    {client : Option Client} {m : RuntimeMember} (hm : s.members.lookup id = some m)
    (hclient : client = none ∨ client = some m.client) :
    ∃ e, memberEvents false (.leave id client) .none = [e] ∧
      (∀ id' c, ¬ e.Starts id' c) ∧ ∀ id' c, Holds s id' c → (e.Keeps id' c ↔ id' ≠ id) := by
  rcases hclient with rfl | rfl
  · refine ⟨.left id, rfl, fun _ _ hst => hst, ?_⟩
    intro id' c _
    exact ne_comm
  · have hid : m.client.id = id := (hs.own id m hm).1
    refine ⟨.leftClient m.client, by simp [memberEvents, hid], fun _ _ hst => hst, ?_⟩
    rintro id' c ⟨m', hm', rfl⟩
    have hid' : m'.client.id = id' := (hs.own id' m' hm').1
    constructor
    · rintro hne rfl
      rw [hm, Option.some.injEq] at hm'
      exact hne (by rw [hm'])
    · intro hne heq
      rw [← heq, hid] at hid'
      exact hne hid'.symm

/-- A leave that is ignored displaces nobody. -/
theorem membership_leaveIgnored {h : List MemberEvent} {s : Core} (hs : Membership h s)
    {id : String} {client : Option Client}
    (hignored : ∀ m, s.members.lookup id = some m → client ≠ none ∧ client ≠ some m.client)
    (stopped : Bool) : Membership (h ++ memberEvents stopped (.leave id client) .none) s := by
  cases client with
  | none =>
      show Membership (h ++ if stopped then [] else [.left id]) s
      split
      · rw [List.append_nil]
        exact hs
      · refine hs.ignore (fun _ _ hst => hst) ?_
        rintro id' c ⟨m, hm, -⟩ rfl
        exact (hignored m hm).1 rfl
  | some c =>
      show Membership (h ++ if stopped ∨ c.id ≠ id then [] else [.leftClient c]) s
      split
      · rw [List.append_nil]
        exact hs
      · rename_i hlive
        refine hs.ignore (fun _ _ hst => hst) ?_
        rintro id' c' ⟨m, hm, rfl⟩ heq
        have hown : m.client.id = id' := (hs.own id' m hm).1
        have hid : c.id = id := not_not.mp (fun hne => hlive (Or.inr hne))
        rw [← heq, hid] at hown
        subst hown
        exact (hignored m hm).2 (congrArg some heq)

theorem membership_hostTurn {P : Persistence σ} {env : Env} {a a' : Actor σ} {i : Identity}
    {c : Command} {p : CommandPayload} {r : Except ActorError (Option PlaybackState)}
    {h : List MemberEvent} (hs : Membership h a.toCore) (hp : a.toCore.authorised i c = some p)
    (hturn : HostTurn P env a c.type p a' r) (stopped : Bool) :
    Membership (h ++ memberEvents stopped (.command i c) (.command r)) a'.toCore := by
  have hpayload := (Core.authorised_eq_some.mp hp).2
  cases hturn with
  | refused e =>
      exact hs.quiet rfl
  | transferRefused m e store htype hm hguest hP =>
      exact hs.quiet rfl
  | transferred m store htype hm hguest hP =>
      simp only [memberEvents, htype, List.append_nil]
      exact hs.frame rfl rfl rfl
  | kicked m htype hm hhost =>
      simp only [memberEvents, htype, hpayload]
      refine hs.remove (AList.mem_of_lookup hm) (fun _ _ hst => hst) ?_
      intro id' c' _
      exact ne_comm
  | closeFailed e store htype hP =>
      exact hs.unmoved rfl rfl rfl rfl
  | closed store htype hP =>
      simp only [memberEvents, htype, hpayload]
      exact hs.close.frame rfl rfl rfl
  | mediaRefused e store htype hid hP =>
      exact hs.quiet rfl
  | mediaSet store htype hid hP =>
      simp only [memberEvents, htype, List.append_nil]
      exact hs.frame rfl rfl rfl
  | playbackRefused t e hswitch =>
      exact hs.unmoved rfl rfl rfl rfl
  | playbackKept t hswitch =>
      exact hs.unmoved (memberEvents_of_not_admin (Timeline.playbackSwitch_isAdmin hswitch))
        rfl rfl rfl
  | playbackChanged t s hswitch hs' =>
      subst hs'
      exact hs.unmoved (memberEvents_of_not_admin (Timeline.playbackSwitch_isAdmin hswitch))
        rfl rfl rfl

theorem membership_commandTurn {P : Persistence σ} {env : Env} {a a' : Actor σ} {i : Identity}
    {c : Command} {r : Except ActorError (Option PlaybackState)} {h : List MemberEvent}
    (hs : Membership h a.toCore) (hturn : CommandTurn P env a i c a' r) (stopped : Bool) :
    Membership (h ++ memberEvents stopped (.command i c) (.command r)) a'.toCore := by
  cases hturn with
  | refused e =>
      exact hs.quiet rfl
  | ignored hm htype =>
      have hadmin : c.type.isAdmin = false := by
        rcases htype with h | h <;> rw [h] <;> rfl
      exact hs.quiet (memberEvents_of_not_admin hadmin)
  | readied p hm htype =>
      exact (hs.ready i.id p.ready).quiet (memberEvents_of_not_admin (by rw [htype]; rfl))
  | measured p s hm htype hhost hs' =>
      subst hs'
      exact (hs.ready i.id p.ready).unmoved (memberEvents_of_not_admin (by rw [htype]; rfl))
        rfl rfl rfl
  | host p a' r hp hturn => exact membership_hostTurn hs hp hturn stopped

/-- **Step lemma.**  The map follows the history. -/
theorem membership_step (P : Persistence σ) (h : List MemberEvent) (a : Actor σ) (l : Env × Msg)
    (hs : Membership h a.toCore) :
    Membership (h ++ seeMembers P a l) (Actor.step P a l).toCore := by
  obtain ⟨env, m⟩ := l
  have hturn := turn P env a m
  rw [Actor.step, seeMembers]
  dsimp only
  generalize (a.process P env m).1 = a' at hturn ⊢
  generalize (a.process P env m).2 = r at hturn ⊢
  cases hturn with
  | stopped m hstopped =>
      have hnone : memberEvents a.stopped m .none = [] := by
        rw [hstopped]
        cases m with
        | leave id client => cases client <;> rfl
        | _ => rfl
      exact hs.quiet hnone
  | joinRefused c e h =>
      exact hs.quiet rfl
  | joined c s hlive hstatus hroom hback hs' =>
      subst hs'
      exact hs.enter hroom _
  | hostReturned c s hlive hroom hhost hstatus hs' =>
      subst hs'
      exact (hs.enter hroom (env.now 0)).frame (by simp) (by simp [Core.hostBack]) (by simp)
  | leaveIgnored id client hignored => exact membership_leaveIgnored hs hignored a.stopped
  | left id client m hlive hm hclient hhost =>
      obtain ⟨e, he, hstart, hkeep⟩ := memberEvents_left hs hm hclient
      rw [hlive, he]
      exact hs.remove (AList.mem_of_lookup hm) hstart hkeep
  | hostLeft id client m s hlive hm hclient hhost hstatus hs' =>
      subst hs'
      obtain ⟨e, he, hstart, hkeep⟩ := memberEvents_left hs hm hclient
      rw [hlive, he]
      exact (hs.remove (AList.mem_of_lookup hm) hstart hkeep).frame rfl rfl rfl
  | expireIgnored hostID store h =>
      exact hs.quiet rfl
  | tookOver hostID next m candidate s hlive hstatus hhost hchosen hsome hnext
      hcand hid hm hguest hs' =>
      subst hs'
      exact hs.unmoved rfl rfl rfl rfl
  | command i c a' r hlive hturn => exact membership_commandTurn hs hturn a.stopped
  | snapshot =>
      exact hs.quiet rfl
  | readied id ready =>
      exact (hs.ready id ready).quiet rfl
  | relayed e =>
      exact hs.quiet rfl
  | checkpointSkipped h =>
      exact hs.quiet rfl
  | checkpointed h =>
      exact hs.quiet rfl
  | reopenIgnored h =>
      exact hs.quiet rfl
  | reopenFailed e store h hP =>
      exact hs.quiet rfl
  | reopened store h hP =>
      exact hs.unmoved rfl rfl rfl rfl
  | renameFailed title e store hP =>
      exact hs.quiet rfl
  | renamed title store hP =>
      exact hs.unmoved rfl rfl rfl rfl
  | halted hlive =>
      exact hs.unmoved rfl (by simp) (by simp [Core.halt]) (by simp)

-- ============================================================================
-- Where an entry comes from
-- ============================================================================

/-- An entry of the member map after a turn: the turn let its connection in, or it was
    there before and the message does not make it leave. -/
inductive EntryOrigin (s : Core) (m : Msg) (r : Reply) (id : String) (e : RuntimeMember) : Prop
  | joined (c : Client) (hm : m = .join c) (hr : r = .join (.ok ())) (hid : c.id = id)
      (hclient : e.client = c) (hidentity : e.identity = c.identity)
  | kept (e₀ : RuntimeMember) (h : s.members.lookup id = some e₀)
      (hclient : e.client = e₀.client) (hidentity : e.identity = e₀.identity)
      (hstay : ∀ client, m = .leave id client → client ≠ none ∧ client ≠ some e₀.client)

theorem entryOrigin_enter {s : Core} {c : Client} {now : Int64} {id : String}
    {e : RuntimeMember} (h : (s.enter c now).members.lookup id = some e) :
    EntryOrigin s (.join c) (.join (.ok ())) id e := by
  rcases AList.lookup_insert_iff.mp h with ⟨hid, rfl⟩ | ⟨-, hold⟩
  · exact .joined c rfl rfl hid.symm rfl rfl
  · exact .kept e hold rfl rfl (fun client heq => Msg.noConfusion heq)

/-- A message that is no leave keeps an entry it found. -/
theorem EntryOrigin.same {s : Core} {m : Msg} {r : Reply} {id : String} {e : RuntimeMember}
    (h : s.members.lookup id = some e) (hm : ∀ client, m ≠ .leave id client) :
    EntryOrigin s m r id e :=
  .kept e h rfl rfl (fun client heq => absurd heq (hm client))

theorem entryOrigin_withReady {s : Core} {k : String} {ready : Bool} {m : Msg} {r : Reply}
    {id : String} {e : RuntimeMember} (h : (s.withReady k ready).members.lookup id = some e)
    (hm : ∀ client, m ≠ .leave id client) : EntryOrigin s m r id e := by
  obtain ⟨e₀, hold, hclient, hidentity⟩ := lookup_withReady h
  exact .kept e₀ hold hclient hidentity (fun client heq => absurd heq (hm client))

theorem entryOrigin_remove {s : Core} {k : String} {client : Option Client} {r : Reply}
    {id : String} {e : RuntimeMember} (h : (s.remove k).members.lookup id = some e) :
    EntryOrigin s (.leave k client) r id e := by
  obtain ⟨hid, hold⟩ := AList.lookup_erase_iff.mp h
  refine .kept e hold rfl rfl ?_
  intro client' heq
  exact absurd (Msg.leave.inj heq).1.symm hid

theorem entryOrigin_commandTurn {P : Persistence σ} {env : Env} {a a' : Actor σ} {i : Identity}
    {c : Command} {r : Except ActorError (Option PlaybackState)}
    (hturn : CommandTurn P env a i c a' r) {id : String} {e : RuntimeMember}
    (h : a'.members.lookup id = some e) :
    EntryOrigin a.toCore (.command i c) (.command r) id e := by
  have hm : ∀ client, Msg.command i c ≠ .leave id client := fun client heq => Msg.noConfusion heq
  cases hturn with
  | refused e => exact .same h hm
  | ignored hmem htype => exact .same h hm
  | readied p hmem htype => exact entryOrigin_withReady h hm
  | measured p s hmem htype hhost hs =>
      subst hs
      exact entryOrigin_withReady h hm
  | host p a' r hp hturn =>
      cases hturn with
      | refused e => exact .same h hm
      | transferRefused m e store htype hmem hguest hP => exact .same h hm
      | transferred m store htype hmem hguest hP => exact .same h hm
      | kicked m htype hmem hhost => exact .same (AList.lookup_erase_iff.mp h).2 hm
      | closeFailed e store htype hP => exact .same h hm
      | closed store htype hP => exact absurd h (by simp [Core.empty])
      | mediaRefused e store htype hid hP => exact .same h hm
      | mediaSet store htype hid hP => exact .same h hm
      | playbackRefused t e hswitch => exact .same h hm
      | playbackKept t hswitch => exact .same h hm
      | playbackChanged t s hswitch hs =>
          subst hs
          exact .same h hm

theorem entryOrigin {P : Persistence σ} {env : Env} {a a' : Actor σ} {m : Msg} {r : Reply}
    (hlive : a.stopped = false) (hturn : Turn P env a m a' r) {id : String} {e : RuntimeMember}
    (h : a'.members.lookup id = some e) : EntryOrigin a.toCore m r id e := by
  cases hturn with
  | stopped m hstopped =>
      rw [hlive] at hstopped
      exact Bool.noConfusion hstopped
  | joinRefused c e href => exact .same h (fun client heq => Msg.noConfusion heq)
  | joined c s hlive hstatus hroom hback hs =>
      subst hs
      exact entryOrigin_enter h
  | hostReturned c s hlive hroom hhost hstatus hs =>
      subst hs
      rw [Core.hostBack_members] at h
      exact entryOrigin_enter h
  | leaveIgnored k client hign =>
      refine .kept e h rfl rfl ?_
      intro client' heq
      obtain ⟨rfl, rfl⟩ := Msg.leave.inj heq
      exact hign e h
  | left k client m hlive hm hclient hhost => exact entryOrigin_remove h
  | hostLeft k client m s hlive hm hclient hhost hstatus hs =>
      subst hs
      exact entryOrigin_remove h
  | command i c a' r hlive hturn => exact entryOrigin_commandTurn hturn h
  | readied k ready => exact entryOrigin_withReady h (fun client heq => Msg.noConfusion heq)
  | tookOver hostID next m candidate s hlive hstatus hhost hchosen hsome hnext hcand hid hm hguest
      hs =>
      subst hs
      exact .same h (fun client heq => Msg.noConfusion heq)
  | halted hlive =>
      rw [Core.halt_members] at h
      exact .same h (fun client heq => Msg.noConfusion heq)
  | _ => exact .same h (fun client heq => Msg.noConfusion heq)

/-- Every entry stands under its own id, for the identity of its connection. -/
def Owned (s : Core) : Prop :=
  ∀ id m, s.members.lookup id = some m → m.client.id = id ∧ m.identity = m.client.identity

theorem owned_turn {P : Persistence σ} {env : Env} {a a' : Actor σ} {m : Msg} {r : Reply}
    (hlive : a.stopped = false) (hturn : Turn P env a m a' r) (hs : Owned a.toCore) :
    Owned a'.toCore := by
  intro id e h
  cases entryOrigin hlive hturn h with
  | joined c hm hr hid hclient hidentity =>
      rw [hidentity, hclient]
      exact ⟨hid, rfl⟩
  | kept e₀ hold hclient hidentity hstay =>
      rw [hidentity, hclient]
      exact hs id e₀ hold

-- ============================================================================
-- Every run
-- ============================================================================

/-- A room that nobody has entered yet. -/
theorem membership_empty {s : Core} (hempty : s.members = ∅) (hclients : s.clients = 0)
    (hmax : 1 ≤ s.room.maxMembers) : Membership [] s := by
  refine ⟨?_, ?_, ?_, ?_⟩
  · intro id c
    rw [Holds, IsOwner]
    simp [hempty]
  · intro id m hm
    exact absurd hm (AList.lookup_ne_of_empty hempty id m)
  · rw [hempty, hclients]
    rfl
  · rw [hempty]
    exact le_trans (by decide) hmax

/-- **Membership.**  From an empty room, in every state of every run: the client of an
    entry is the connection that joined last for its id and was not displaced since; an
    entry stands under the id of its own identity, so each identity has one at most;
    the counter counts the entries, and they are at most `MaxMembers`. -/
theorem membership_run (P : Persistence σ) (a : Actor σ) (hempty : a.members = ∅)
    (hclients : a.clients = 0) (hmax : 1 ≤ a.room.maxMembers) (ls : List (Env × Msg)) :
    let s := Actor.runActor P a ls
    let h := history (Actor.step P) (seeMembers P) a ls
    (∀ id c, (∃ m, s.members.lookup id = some m ∧ m.client = c) ↔ IsOwner h id c) ∧
    (∀ id m, s.members.lookup id = some m →
      m.client.id = id ∧ m.identity = m.client.identity) ∧
    (∀ id id' m m', s.members.lookup id = some m → s.members.lookup id' = some m' →
      m.identity.id = m'.identity.id → id = id') ∧
    s.clients = s.members.size ∧ (s.members.size : Int) ≤ s.room.maxMembers := by
  have hrun : Membership (history (Actor.step P) (seeMembers P) a ls)
      (Actor.runActor P a ls).toCore :=
    run_history_invariant (I := fun h (a : Actor σ) => Membership h a.toCore)
      (membership_step P) (membership_empty hempty hclients hmax) ls
  refine ⟨hrun.owner, hrun.own, ?_, hrun.counted, hrun.bounded⟩
  intro id id' m m' hm hm' hsame
  obtain ⟨hid, hidentity⟩ := hrun.own id m hm
  obtain ⟨hid', hidentity'⟩ := hrun.own id' m' hm'
  rw [hidentity, hidentity'] at hsame
  rw [← hid, ← hid']
  exact hsame

/-- A second connection of `h` supersedes the first, whose leave comes late. -/
def supersededRun : List (Env × Msg) :=
  [(Env.at 1, .join (userClient 1 "h")),
   (Env.at 2, .join (userClient 2 "h")),
   (Env.at 3, .leave "h" (some (userClient 1 "h")))]

/-- The late leave of the superseded connection does not evict its successor. -/
theorem membership_run_superseded :
    ∃ m, (Actor.runActor (.answering (.ok ()) []) (newActor (smallRoom "h") none () 60)
        supersededRun).members.lookup "h" = some m ∧ m.client = userClient 2 "h" := by
  have hrun := membership_run (.answering (.ok ()) []) (newActor (smallRoom "h") none () 60)
    rfl rfl (by decide) supersededRun
  refine (hrun.1 "h" (userClient 2 "h")).mpr ?_
  refine ⟨[.joined (userClient 1 "h")], .joined (userClient 2 "h"),
    [.leftClient (userClient 1 "h")], by decide, ⟨rfl, rfl⟩, ?_⟩
  intro e he
  rw [List.mem_singleton] at he
  subst he
  show userClient 1 "h" ≠ userClient 2 "h"
  decide

end WatchTogether.Rooms

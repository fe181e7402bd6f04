/-
  WatchTogether.Rooms.MemberList

  The member lists in the browsers beside the actor's own.

  A connection is sent the whole list when it joins and changes afterwards.  Who comes,
  goes, is removed or becomes host arrives in every list; but a member that comes is shown
  as a member, also where it is the host that comes back.
-/

import WatchTogether.Rooms.Membership
import WatchTogether.Rooms.Replication
import WatchTogether.Web.RoomView

namespace WatchTogether.Rooms

open LabelledRun Web

variable {σ : Type}

-- ============================================================================
-- The actor's list
-- ============================================================================

/-- The actor's own roster. -/
def roster (s : Core) : Roster where
  host := s.room.hostUserID
  kind := fun id => (s.members.lookup id).map (fun m => m.identity.guest)

/-- The view has each member once, and agrees with the actor's snapshot on ids, roles and
    kinds, and on the host. -/
structure Shows (s : Core) (v : RoomView) : Prop where
  once : (v.members.map (fun m => m.id)).Nodup
  same : ∀ f, f ∈ v.members.map face ↔ f ∈ (Actor.memberList s).map face
  host : v.room.map (fun r => r.hostUserID) = some s.room.hostUserID

theorem roster_congr {s s' : Core} (hmembers : s'.members = s.members)
    (hhost : s'.room.hostUserID = s.room.hostUserID) : roster s' = roster s := by
  rw [roster, roster, hmembers, hhost]

/-- The entry of a member in the snapshot. -/
def listed (s : Core) (m : RuntimeMember) : SnapshotMember where
  id := m.identity.id
  nickname := m.identity.nickname
  host := decide (m.identity.id = s.room.hostUserID)
  guest := m.identity.guest
  online := true
  ready := m.ready

theorem memberList_perm (s : Core) : (Actor.memberList s).Perm (s.members.rows.map (listed s)) :=
  List.filter_append_perm _ _

theorem mem_memberList {s : Core} (hown : Owned s) {id : String} {host guest : Bool} :
    (id, host, guest) ∈ (Actor.memberList s).map face ↔
      (roster s).kind id = some guest ∧ host = decide (id = (roster s).host) := by
  have hkey : ∀ k m, s.members.lookup k = some m → m.identity.id = k := by
    intro k m hm
    obtain ⟨hid, hidentity⟩ := hown k m hm
    rw [hidentity]
    exact hid
  rw [((memberList_perm s).map face).mem_iff, List.map_map, List.mem_map]
  constructor
  · rintro ⟨m, hm, heq⟩
    obtain ⟨k, hm⟩ := AList.mem_rows.mp hm
    obtain ⟨rfl, rfl, rfl⟩ := heq
    refine ⟨?_, rfl⟩
    show (s.members.lookup m.identity.id).map _ = some m.identity.guest
    rw [hkey k m hm, hm]
    rfl
  · rintro ⟨hkind, rfl⟩
    obtain ⟨m, hm, rfl⟩ := Option.map_eq_some_iff.mp hkind
    refine ⟨m, AList.mem_rows.mpr ⟨id, hm⟩, ?_⟩
    obtain rfl := hkey id m hm
    rfl

theorem shows_iff_lists {s : Core} (hown : Owned s) {v : RoomView} :
    Shows s v ↔ v.Lists (roster s) := by
  constructor
  · rintro ⟨honce, hsame, hhost⟩
    exact ⟨honce, fun id host guest => (hsame _).trans (mem_memberList hown), hhost⟩
  · rintro ⟨honce, hfaces, hhost⟩
    exact ⟨honce, fun f => (hfaces f.1 f.2.1 f.2.2).trans (mem_memberList hown).symm, hhost⟩

theorem nodup_memberList {s : Core} (hown : Owned s) :
    ((Actor.memberList s).map (fun m => m.id)).Nodup := by
  rw [((memberList_perm s).map _).nodup_iff, List.map_map, AList.rows, List.map_map]
  have hkeys : s.members.entries.map (((fun m : SnapshotMember => m.id) ∘ listed s) ∘ fun e => e.2)
      = s.members.entries.map Sigma.fst := by
    refine List.map_congr_left ?_
    rintro ⟨k, m⟩ he
    obtain ⟨hid, hidentity⟩ := hown k m (AList.mem_entries_iff.mp he)
    show m.identity.id = k
    rw [hidentity]
    exact hid
  rw [hkeys]
  exact s.members.nodupKeys

/-- Whoever is sent the snapshot has the actor's list. -/
theorem lists_snapshot {s : Core} (hown : Owned s) (v : RoomView) {e : Envelope}
    (he : e.event = Actor.snapshot s) : (v.receive e).Lists (roster s) := by
  rw [RoomView.receive, he]
  exact ⟨nodup_memberList hown, fun _ _ _ => mem_memberList hown, rfl⟩

theorem mem_iff_kind {s : Core} {id : String} : id ∈ s.members ↔ (roster s).kind id ≠ none := by
  show id ∈ s.members ↔ (s.members.lookup id).map _ ≠ none
  rw [AList.mem_iff_lookup, ne_eq, Option.map_eq_none_iff, ← ne_eq, Option.ne_none_iff_exists']

-- ============================================================================
-- What arrives of a broadcast
-- ============================================================================

/-- Effects that neither list nor unlist a member. -/
def Hushed (es : List Effect) : Prop :=
  ∀ c e ok, Effect.send c e ok ∈ es → RoomView.quiet e.event = true

theorem hushed_of_no_send {es : List Effect} (h : ∀ c e ok, Effect.send c e ok ∉ es) : Hushed es :=
  fun c e ok hin => absurd hin (h c e ok)

theorem hushed_append {es fs : List Effect} (hes : Hushed es) (hfs : Hushed fs) :
    Hushed (es ++ fs) := by
  intro c e ok hin
  rcases List.mem_append.mp hin with hin | hin
  · exact hes c e ok hin
  · exact hfs c e ok hin

theorem hushed_notify (env : Env) (k : Nat) {event : Event} (revision : Nat) (s : Core)
    (h : RoomView.quiet event = true) : Hushed (s.notify env k event revision) := by
  intro c e ok hin
  obtain ⟨m, -, hin⟩ := mem_notify.mp hin
  rcases mem_deliver.mp hin with ⟨-, hx⟩ | ⟨-, hx | hx⟩
  · cases hx
    exact h
  · cases hx
    exact h
  · cases hx

theorem hushed_announce (env : Env) (k : Nat) (s : Core) : Hushed (s.announce env k) :=
  hushed_notify env k _ s rfl

theorem mem_received {c : Client} {es : List Effect} {e : Envelope} (h : e ∈ received c es) :
    Effect.send c e true ∈ es := by
  obtain ⟨x, hx, heq⟩ := List.mem_filterMap.mp h
  match x with
  | .send c' e' true =>
      dsimp only at heq
      split at heq
      · rename_i hc
        obtain rfl := Option.some.inj heq
        rw [← hc]
        exact hx
      · exact absurd heq (by simp)
  | .send c' e' false => exact absurd heq (by simp)
  | .close c' code reason => exact absurd heq (by simp)
  | .saveCheckpoint cp => exact absurd heq (by simp)

theorem lists_hushed {es : List Effect} (hes : Hushed es) (c : Client) {v : RoomView} {r : Roster}
    (h : v.Lists r) : (RoomView.receiveAll c v es).Lists r := by
  have hquiet : ∀ e ∈ received c es, RoomView.quiet e.event = true :=
    fun e he => hes c e true (mem_received he)
  rw [RoomView.receiveAll]
  generalize received c es = l at hquiet
  induction l generalizing v with
  | nil => exact h
  | cons e l ih =>
      exact ih (h.quiet (hquiet e List.mem_cons_self))
        (fun e' he' => hquiet e' (List.mem_cons_of_mem e he'))

theorem received_of_no_send {es : List Effect} {c : Client}
    (h : ∀ e ok, Effect.send c e ok ∉ es) : received c es = [] :=
  List.eq_nil_iff_forall_not_mem.mpr (fun e he => h e true (mem_received he))

/-- A broadcast that reaches a member's connection arrives there, and nowhere else. -/
theorem receiveAll_notify (env : Env) (k : Nat) (event : Event) (revision : Nat) (t : Core)
    (c : Client) (v : RoomView)
    (hsent : ∀ e, Effect.send c e false ∉ t.notify env k event revision) :
    (IsClient t c → RoomView.receiveAll c v (t.notify env k event revision) =
      v.receive ⟨1, t.room.id, revision, env.now k, event⟩) ∧
    (¬ IsClient t c → RoomView.receiveAll c v (t.notify env k event revision) = v) := by
  rw [isClient_iff_rows]
  rw [Core.notify] at hsent ⊢
  generalize (⟨1, t.room.id, revision, env.now k, event⟩ : Envelope) = E at hsent ⊢
  generalize t.members.rows = ms at hsent ⊢
  induction ms generalizing v with
  | nil => exact ⟨by simp, fun _ => rfl⟩
  | cons m ms ih =>
      rw [List.flatMap_cons] at hsent ⊢
      obtain ⟨hin, hout⟩ := ih (RoomView.receiveAll c v (Actor.deliver env E m.client))
        (fun e h => hsent e (List.mem_append_right _ h))
      rw [RoomView.receiveAll_append]
      have hhead : RoomView.receiveAll c v (Actor.deliver env E m.client) =
          if m.client = c then v.receive E else v := by
        rw [Actor.deliver]
        split
        · by_cases hc : m.client = c
          · simp [RoomView.receiveAll, received, hc]
          · simp [RoomView.receiveAll, received, hc]
        · rename_i hfull
          have hne : m.client ≠ c := by
            intro hc
            refine hsent E (List.mem_append_left _ (mem_deliver.mpr (.inr ⟨by simpa using hfull, ?_⟩)))
            exact .inl (by rw [hc])
          rw [if_neg hne]
          rfl
      rw [hhead] at hin hout ⊢
      by_cases hc : m.client = c
      · rw [if_pos hc] at hin hout ⊢
        refine ⟨fun _ => ?_, fun hno => absurd ⟨m, List.mem_cons_self, hc⟩ hno⟩
        by_cases hrest : ∃ m' ∈ ms, m'.client = c
        · rw [hin hrest, RoomView.receive_twice]
        · exact hout hrest
      · rw [if_neg hc] at hin hout ⊢
        constructor
        · rintro ⟨m', hm', hc'⟩
          rcases List.mem_cons.mp hm' with rfl | hm'
          · exact absurd hc' hc
          · exact hin ⟨m', hm', hc'⟩
        · intro hno
          refine hout ?_
          rintro ⟨m', hm', hc'⟩
          exact hno ⟨m', List.mem_cons_of_mem m hm', hc'⟩

-- ============================================================================
-- One step
-- ============================================================================

/-- What a step that lets nobody in does to the roster, and which effects it has for it. -/
inductive RosterTurn (s s' : Core) : List Effect → Prop
  | kept (es : List Effect) (hroster : roster s' = roster s)
      (hclients : ∀ c, IsClient s' c → IsClient s c) (hes : Hushed es) : RosterTurn s s' es
  /-- Everybody is gone. -/
  | emptied (es : List Effect) (hs : s'.members = ∅) : RosterTurn s s' es
  | left (id : String) (kicked : Bool) (env : Env) (k : Nat) (t : Core) (pre post : List Effect)
      (ht : t.members = s'.members) (hroster : roster s' = (roster s).leave id)
      (hclients : ∀ c, IsClient s' c → IsClient s c) (hpre : Hushed pre) (hpost : Hushed post) :
      RosterTurn s s' (pre ++ (t.notify env k (.memberLeft id kicked) 0 ++ post))
  | hostMoved (id : String) (env : Env) (k : Nat) (t : Core) (ht : t.members = s'.members)
      (hroster : roster s' = { roster s with host := id })
      (hclients : ∀ c, IsClient s' c → IsClient s c) :
      RosterTurn s s' (t.notify env k (.hostChanged id) 0)

/-- The connection `x` is let in. -/
structure EntryTurn (x : Client) (s s' : Core) (es : List Effect) : Prop where
  effects : ∃ pre env, (∀ c e ok, Effect.send c e ok ∉ pre) ∧ es = pre ++ s'.welcome env x
  members : ∃ now, s'.members = (s.enter x now).members
  host : s'.room.hostUserID = s.room.hostUserID

theorem roster_remove (s : Core) (id : String) : roster (s.remove id) = (roster s).leave id := by
  rw [roster, roster, Roster.leave]
  congr 1
  funext k
  by_cases hk : k = id
  · subst hk
    simp [Core.remove]
  · simp [Core.remove, hk, AList.lookup_erase_ne hk]

theorem roster_withReady (s : Core) (id : String) (ready : Bool) :
    roster (s.withReady id ready) = roster s := by
  rw [roster, roster]
  congr 1
  funext k
  show ((Actor.setReady id ready s.members).lookup k).map _ = (s.members.lookup k).map _
  rw [Actor.setReady, AList.lookup_modify, Option.map_map]
  congr 1
  funext m
  dsimp only [Function.comp]
  split <;> rfl

theorem rosterTurn_nil {s s' : Core} (hroster : roster s' = roster s)
    (hclients : ∀ c, IsClient s' c → IsClient s c) : RosterTurn s s' [] :=
  .kept [] hroster hclients (hushed_of_no_send (by simp))

theorem rosterTurn_hostTurn {P : Persistence σ} {env : Env} {a a' : Actor σ} {type : CommandType}
    {p : CommandPayload} {r : Except ActorError (Option PlaybackState)}
    (hturn : HostTurn P env a type p a' r) :
    ∃ es, a'.out = a.out ++ es ∧ RosterTurn a.toCore a'.toCore es := by
  have hsave : ∀ cp : Checkpoint, Hushed [Effect.saveCheckpoint cp] :=
    fun cp => hushed_of_no_send (by simp)
  have hnil : ∃ es, a.out = a.out ++ es ∧ RosterTurn a.toCore a.toCore es :=
    ⟨[], (List.append_nil _).symm, rosterTurn_nil rfl (fun _ h => h)⟩
  cases hturn with
  | transferred m store htype hm hguest hP =>
      exact ⟨_, rfl, .hostMoved p.targetUserID env 1 _ rfl rfl (fun _ h => h)⟩
  | kicked m htype hm hhost =>
      refine ⟨_, rfl, ?_⟩
      have hturn : RosterTurn a.toCore (a.toCore.remove p.targetUserID) _ :=
        .left p.targetUserID true env 1 (a.toCore.remove p.targetUserID)
          [.close m.client 1008 "removed from room"] [] rfl (roster_remove _ _)
          (fun _ h => isClient_remove h) (hushed_of_no_send (by simp)) (hushed_of_no_send (by simp))
      rw [List.append_nil] at hturn
      exact hturn
  | closeFailed e store htype hP =>
      exact ⟨[], (List.append_nil _).symm, rosterTurn_nil rfl (fun _ h => h)⟩
  | closed store htype hP => exact ⟨_, rfl, .emptied _ rfl⟩
  | mediaSet store htype hid hP =>
      exact ⟨_, rfl, .kept _ rfl (fun _ h => h) (hushed_append (hushed_announce _ _ _) (hsave _))⟩
  | playbackRefused t e hswitch =>
      exact ⟨[], (List.append_nil _).symm, rosterTurn_nil rfl (fun _ h => h)⟩
  | playbackKept t hswitch =>
      exact ⟨[], (List.append_nil _).symm, rosterTurn_nil rfl (fun _ h => h)⟩
  | playbackChanged t s hswitch hs =>
      subst hs
      exact ⟨_, rfl, .kept _ rfl (fun _ h => h) (hushed_append (hushed_announce _ _ _) (hsave _))⟩
  | _ => exact hnil

theorem rosterTurn_commandTurn {P : Persistence σ} {env : Env} {a a' : Actor σ} {i : Identity}
    {c : Command} {r : Except ActorError (Option PlaybackState)}
    (hturn : CommandTurn P env a i c a' r) :
    ∃ es, a'.out = a.out ++ es ∧ RosterTurn a.toCore a'.toCore es := by
  cases hturn with
  | readied p hm htype =>
      exact ⟨[], (List.append_nil _).symm,
        rosterTurn_nil (roster_withReady _ _ _) (fun _ h => isClient_withReady h)⟩
  | measured p s hm htype hhost hs =>
      subst hs
      exact ⟨_, rfl, .kept _ (roster_withReady a.toCore i.id p.ready)
        (fun _ h => isClient_withReady h) (hushed_announce _ _ _)⟩
  | host p a' r hp hturn => exact rosterTurn_hostTurn hturn
  | _ => exact ⟨[], (List.append_nil _).symm, rosterTurn_nil rfl (fun _ h => h)⟩

theorem hushed_shutdown (env : Env) (ms : List RuntimeMember) :
    Hushed (ms.flatMap (fun m =>
      [Effect.send m.client ⟨0, "", 0, 0, .serverShutdown⟩
          (env.sendOk m.client ⟨0, "", 0, 0, .serverShutdown⟩),
        .close m.client 1001 "server shutdown"])) := by
  intro c e ok hin
  obtain ⟨m, -, hin⟩ := List.mem_flatMap.mp hin
  rcases List.mem_cons.mp hin with hx | hin
  · rw [Effect.send.injEq] at hx
    rw [hx.2.1]
    rfl
  · exact absurd hin (by simp)

/-- The turn of a message that is no join. -/
theorem RosterTurn.other {a a' : Actor σ} {m : Msg} {r : Reply} {es : List Effect}
    (hm : ∀ x, m ≠ .join x) (hout : a'.out = a.out ++ es)
    (hturn : RosterTurn a.toCore a'.toCore es) :
    ∃ es, a'.out = a.out ++ es ∧
      ((∃ x, m = .join x ∧ r = .join (.ok ()) ∧ EntryTurn x a.toCore a'.toCore es) ∨
        ((∀ x, m = .join x → r ≠ .join (.ok ())) ∧ RosterTurn a.toCore a'.toCore es)) :=
  ⟨es, hout, .inr ⟨fun x heq => absurd heq (hm x), hturn⟩⟩

/-- **Step lemma.**  A step lets a connection in, or does one of the things above. -/
theorem rosterTurn_step {P : Persistence σ} {env : Env} {a a' : Actor σ} {m : Msg} {r : Reply}
    (hturn : Turn P env a m a' r) :
    ∃ es, a'.out = a.out ++ es ∧
      ((∃ x, m = .join x ∧ r = .join (.ok ()) ∧ EntryTurn x a.toCore a'.toCore es) ∨
        ((∀ x, m = .join x → r ≠ .join (.ok ())) ∧ RosterTurn a.toCore a'.toCore es)) := by
  have hsave : ∀ cp : Checkpoint, Hushed [Effect.saveCheckpoint cp] :=
    fun cp => hushed_of_no_send (by simp)
  cases hturn with
  | stopped m h =>
      refine ⟨[], (List.append_nil _).symm, .inr ⟨fun x _ => by simp, rosterTurn_nil rfl ?_⟩⟩
      exact fun _ h => h
  | joinRefused c e h =>
      refine ⟨[], (List.append_nil _).symm, .inr ⟨fun x _ => by simp, rosterTurn_nil rfl ?_⟩⟩
      exact fun _ h => h
  | joined c s hlive hstatus hroom hback hs =>
      subst hs
      exact ⟨_, rfl, .inl ⟨c, rfl, rfl,
        ⟨_, env, fun c' e ok => supersede_no_send _ c c' e ok, rfl⟩, ⟨_, rfl⟩, rfl⟩⟩
  | hostReturned c s hlive hroom hhost hstatus hs =>
      subst hs
      refine ⟨_, rfl, .inl ⟨c, rfl, rfl,
        ⟨_, env, fun c' e ok => supersede_no_send _ c c' e ok, rfl⟩, ⟨env.now 0, by simp⟩, ?_⟩⟩
      rw [Core.hostBack_room]
      rfl
  | left id client m hlive hm hclient hhost =>
      refine RosterTurn.other (fun x => Msg.noConfusion) rfl ?_
      have hturn : RosterTurn a.toCore (a.toCore.remove id) _ :=
        .left id false env 0 (a.toCore.remove id) [] [] rfl (roster_remove _ _)
          (fun _ h => isClient_remove h) (hushed_of_no_send (by simp)) (hushed_of_no_send (by simp))
      rw [List.append_nil, List.nil_append] at hturn
      exact hturn
  | hostLeft id client m s hlive hm hclient hhost hstatus hs =>
      subst hs
      refine RosterTurn.other (fun x => Msg.noConfusion) rfl ?_
      refine .left id false env 0 (a.toCore.remove id) [] _ rfl (roster_remove a.toCore id)
        (fun _ h => isClient_remove h) (hushed_of_no_send (by simp)) ?_
      exact hushed_append (hushed_announce _ _ _) (hsave _)
  | tookOver hostID next m candidate s hlive hstatus hhost hchosen hsome hnext hcand hid hm hguest
      hs =>
      subst hs
      exact RosterTurn.other (fun x => Msg.noConfusion) rfl
        (.hostMoved next env 1 _ rfl rfl (fun _ h => h))
  | command i c a' r hlive hturn =>
      obtain ⟨es, hout, hroster⟩ := rosterTurn_commandTurn hturn
      exact hroster.other (fun x => Msg.noConfusion) hout
  | readied id ready =>
      exact RosterTurn.other (fun x => Msg.noConfusion) (List.append_nil _).symm
        (rosterTurn_nil (roster_withReady _ _ _) (fun _ h => isClient_withReady h))
  | relayed e =>
      exact RosterTurn.other (fun x => Msg.noConfusion) rfl
        (.kept _ rfl (fun _ h => h) (hushed_notify _ _ _ _ rfl))
  | checkpointed h =>
      exact RosterTurn.other (fun x => Msg.noConfusion) rfl
        (.kept _ rfl (fun _ h => h) (hsave _))
  | renamed title store hP =>
      exact RosterTurn.other (fun x => Msg.noConfusion) rfl
        (.kept _ rfl (fun _ h => h) (hushed_notify _ _ _ _ rfl))
  | halted hlive =>
      refine RosterTurn.other (fun x => Msg.noConfusion) rfl (.kept _ ?_ ?_ ?_)
      · exact roster_congr (by simp) (by simp)
      · rintro c ⟨id, m, hm, hc⟩
        rw [Core.halt_members] at hm
        exact ⟨id, m, hm, hc⟩
      · exact hushed_append (hushed_shutdown env _) (hsave _)
  | _ =>
      exact RosterTurn.other (fun x => Msg.noConfusion) (List.append_nil _).symm
        (rosterTurn_nil rfl (fun _ h => h))

-- ============================================================================
-- The view of one connection
-- ============================================================================

theorem isClient_congr {s t : Core} (h : t.members = s.members) {c : Client} :
    IsClient t c ↔ IsClient s c := by
  rw [IsClient, IsClient, h]

/-- A step that lets nobody in keeps the view. -/
theorem lists_rosterTurn {s s' : Core} {es : List Effect} (h : RosterTurn s s' es) {c : Client}
    (hsent : ∀ e, Effect.send c e false ∉ es) {v : RoomView}
    (hv : IsClient s c → v.Lists (roster s)) (hin : IsClient s' c) :
    (RoomView.receiveAll c v es).Lists (roster s') := by
  cases h with
  | kept es hroster hclients hes =>
      rw [hroster]
      exact lists_hushed hes c (hv (hclients c hin))
  | emptied es hs =>
      obtain ⟨id, m, hm, -⟩ := hin
      exact absurd hm (AList.lookup_ne_of_empty hs id m)
  | left id kicked env k t pre post ht hroster hclients hpre hpost =>
      have hmid : ∀ e, Effect.send c e false ∉ t.notify env k (.memberLeft id kicked) 0 :=
        fun e he => hsent e (List.mem_append_right _ (List.mem_append_left _ he))
      rw [RoomView.receiveAll_append, RoomView.receiveAll_append, hroster,
        (receiveAll_notify env k _ 0 t c _ hmid).1 ((isClient_congr ht).mpr hin)]
      refine lists_hushed hpost c ?_
      exact (lists_hushed hpre c (hv (hclients c hin))).left rfl
  | hostMoved id env k t ht hroster hclients =>
      rw [hroster, (receiveAll_notify env k _ 0 t c _ hsent).1 ((isClient_congr ht).mpr hin)]
      exact (hv (hclients c hin)).hostChanged rfl

/-- What the others are told of `x` is true: it does not come back as the host, and where it
    supersedes a connection it is of the same kind. -/
def Announced (s : Core) (x : Client) : Prop :=
  (x.id ∉ s.members → x.id ≠ s.room.hostUserID) ∧
    ∀ m, s.members.lookup x.id = some m → m.identity.guest = x.identity.guest

theorem announced_iff {s : Core} {x : Client} :
    Announced s x ↔ ((roster s).kind x.id = none → x.id ≠ (roster s).host) ∧
      ∀ g, (roster s).kind x.id = some g → g = x.identity.guest := by
  have hnone : x.id ∉ s.members ↔ (roster s).kind x.id = none := by
    rw [mem_iff_kind, not_not]
  rw [Announced, hnone]
  refine and_congr Iff.rfl ?_
  constructor
  · intro h g hg
    obtain ⟨m, hm, rfl⟩ := Option.map_eq_some_iff.mp hg
    exact h m hm
  · intro h m hm
    exact h _ (Option.map_eq_some_iff.mpr ⟨m, hm, rfl⟩)

theorem EntryTurn.roster {x : Client} {s s' : Core} {es : List Effect} (h : EntryTurn x s s' es) :
    roster s' = (Rooms.roster s).join x.id x.identity.guest := by
  obtain ⟨now, hmembers⟩ := h.members
  rw [Rooms.roster, Rooms.roster, Roster.join, h.host, hmembers]
  congr 1
  funext k
  by_cases hk : k = x.id
  · subst hk
    simp [Core.enter]
  · simp [Core.enter, hk, AList.lookup_insert_ne hk]

/-- The others stay, unless they are superseded. -/
theorem EntryTurn.isClient_iff {x : Client} {s s' : Core} {es : List Effect}
    (h : EntryTurn x s s' es) (hown : Owned s) {c : Client} (hne : c ≠ x) :
    IsClient s' c ↔ IsClient s c ∧ x.id ≠ c.id := by
  obtain ⟨now, hmembers⟩ := h.members
  rw [isClient_congr hmembers]
  constructor
  · rintro ⟨id, m, hm, rfl⟩
    rcases AList.lookup_insert_iff.mp hm with ⟨-, rfl⟩ | ⟨hid, hm⟩
    · exact absurd rfl hne
    · refine ⟨⟨id, m, hm, rfl⟩, ?_⟩
      rw [(hown id m hm).1]
      exact Ne.symm hid
  · rintro ⟨⟨id, m, hm, rfl⟩, hid⟩
    rw [(hown id m hm).1] at hid
    exact ⟨id, m, AList.lookup_insert_iff.mpr (.inr ⟨Ne.symm hid, hm⟩), rfl⟩

/-- What a connection that comes is sent: the snapshot, and then its own entry once more. -/
theorem lists_ownEntry {c : Client} {s s' : Core} {es : List Effect} (h : EntryTurn c s s' es)
    (hown' : Owned s') (hsent : ∀ e, Effect.send c e false ∉ es) (v : RoomView)
    (hin : IsClient s' c) : (RoomView.receiveAll c v es).Lists (roster s') := by
  have hjoin := h.roster
  obtain ⟨pre, env, hpre, rfl⟩ := h.effects
  rw [Core.welcome] at hsent ⊢
  have hnotify : ∀ e, Effect.send c e false ∉ s'.notify env 3 (.memberJoined c.identity) 0 :=
    fun e he => hsent e (List.mem_append_right _ (List.mem_cons_of_mem _ he))
  generalize hE : (⟨1, s'.room.id, s'.playback.revision, env.now 2, Actor.snapshot s'⟩ : Envelope)
    = E at hsent ⊢
  have hok : env.sendOk c E = true := by
    by_contra hfull
    refine hsent E (List.mem_append_right _ ?_)
    rw [Bool.not_eq_true] at hfull
    rw [hfull]
    exact List.mem_cons_self
  have hfirst : RoomView.receiveAll c (RoomView.receiveAll c v pre) [.send c E (env.sendOk c E)] =
      (RoomView.receiveAll c v pre).receive E := by
    rw [hok]
    simp [RoomView.receiveAll, received]
  rw [RoomView.receiveAll_append, ← List.singleton_append, RoomView.receiveAll_append, hfirst,
    (receiveAll_notify env 3 _ 0 s' c _ hnotify).1 hin]
  have hlists := lists_snapshot hown' (RoomView.receiveAll c v pre) (e := E) (by rw [← hE])
  have hkind : (roster s').kind c.id = some c.identity.guest := by
    rw [hjoin]
    exact if_pos rfl
  have hjoined := (hlists.joined_iff (e := ⟨1, s'.room.id, 0, env.now 3, .memberJoined c.identity⟩)
    rfl).mpr ⟨fun hnone => absurd (hkind.symm.trans hnone) (by simp), fun g hg =>
      (Option.some.inj (hkind.symm.trans hg)).symm⟩
  rw [← Roster.join_of_kind hkind]
  exact hjoined

/-- The others are shown a connection that comes rightly exactly if what they are told of it
    is true. -/
theorem lists_otherEntry {x : Client} {s s' : Core} {es : List Effect} (h : EntryTurn x s s' es)
    (hown : Owned s) {c : Client} (hc : c ≠ x) (hsent : ∀ e, Effect.send c e false ∉ es)
    {v : RoomView} (hv : IsClient s c → v.Lists (roster s)) :
    (IsClient s' c → (RoomView.receiveAll c v es).Lists (roster s')) ↔
      (IsClient s c → x.id ≠ c.id → Announced s x) := by
  have hjoin := h.roster
  have hclient := h.isClient_iff hown hc
  obtain ⟨pre, env, hpre, rfl⟩ := h.effects
  rw [Core.welcome] at hsent ⊢
  have hnotify : ∀ e, Effect.send c e false ∉ s'.notify env 3 (.memberJoined x.identity) 0 :=
    fun e he => hsent e (List.mem_append_right _ (List.mem_cons_of_mem _ he))
  rw [RoomView.receiveAll_append, ← List.singleton_append, RoomView.receiveAll_append]
  generalize (⟨1, s'.room.id, s'.playback.revision, env.now 2, Actor.snapshot s'⟩ : Envelope) = E
  have hskip : RoomView.receiveAll c v pre = v := by
    rw [RoomView.receiveAll, received_of_no_send (fun e ok => hpre c e ok)]
    rfl
  have hother : RoomView.receiveAll c v [.send x E (env.sendOk x E)] = v := by
    have hne : x ≠ c := fun heq => hc heq.symm
    cases env.sendOk x E <;> simp [RoomView.receiveAll, received, hne]
  have htold : ∀ hin : IsClient s' c,
      (RoomView.receiveAll c v (s'.notify env 3 (.memberJoined x.identity) 0)).Lists (roster s') ↔
        Announced s x := by
    intro hin
    rw [(receiveAll_notify env 3 _ 0 s' c v hnotify).1 hin, hjoin, announced_iff]
    exact (hv (hclient.mp hin).1).joined_iff rfl
  rw [hskip, hother]
  constructor
  · intro hall hin hne
    have hin' := hclient.mpr ⟨hin, hne⟩
    exact (htold hin').mp (hall hin')
  · intro hall hin'
    exact (htold hin').mpr (hall (hclient.mp hin').1 (hclient.mp hin').2)

-- ============================================================================
-- Every run
-- ============================================================================

/-- A join that is let in while `c` stays in the room is announced truly to `c`. -/
def AnnouncedTo (P : Persistence σ) (c : Client) (a : Actor σ) (l : Env × Msg) : Prop :=
  ∀ x, l.2 = .join x → (a.process P l.1 l.2).2 = .join (.ok ()) →
    IsClient a.toCore c → x.id ≠ c.id → Announced a.toCore x

theorem owned_step {P : Persistence σ} {a : Actor σ} (h : Owned a.toCore) (l : Env × Msg) :
    Owned (Actor.step P a l).toCore := by
  by_cases hlive : a.stopped = false
  · exact owned_turn hlive (turn P l.1 a l.2) h
  · have hstopped : a.stopped = true := by simpa using hlive
    show Owned (a.process P l.1 l.2).1.toCore
    unfold Actor.process
    rw [if_pos hstopped]
    exact h

theorem owned_run {P : Persistence σ} {a : Actor σ} (h : Owned a.toCore) (ls : List (Env × Msg)) :
    Owned (Actor.runActor P a ls).toCore := by
  induction ls generalizing a with
  | nil => exact h
  | cons l ls ih => exact ih (owned_step h l)

theorem out_step (P : Persistence σ) (a : Actor σ) (l : Env × Msg) :
    ∃ es, (Actor.step P a l).out = a.out ++ es := by
  obtain ⟨es, hout, -⟩ := rosterTurn_step (turn P l.1 a l.2)
  exact ⟨es, hout⟩

theorem out_run (P : Persistence σ) (ls : List (Env × Msg)) (a : Actor σ) :
    ∃ es, (Actor.runActor P a ls).out = a.out ++ es := by
  induction ls generalizing a with
  | nil => exact ⟨[], (List.append_nil _).symm⟩
  | cons l ls ih =>
      obtain ⟨es, hout⟩ := out_step P a l
      obtain ⟨fs, hrest⟩ := ih (Actor.step P a l)
      exact ⟨es ++ fs, by rw [Actor.runActor, run_cons, ← Actor.runActor, hrest, hout,
        List.append_assoc]⟩

/-- A step keeps a view that is right, exactly if what it announces is true. -/
theorem shows_step_iff (P : Persistence σ) {a : Actor σ} (hown : Owned a.toCore) (l : Env × Msg)
    {c : Client} {v : RoomView} (hv : IsClient a.toCore c → Shows a.toCore v) {es : List Effect}
    (hout : (Actor.step P a l).out = a.out ++ es) (hsent : ∀ e, Effect.send c e false ∉ es) :
    (IsClient (Actor.step P a l).toCore c →
      Shows (Actor.step P a l).toCore (RoomView.receiveAll c v es)) ↔ AnnouncedTo P c a l := by
  have hown' : Owned (Actor.step P a l).toCore := owned_step hown l
  have hlists : IsClient a.toCore c → v.Lists (roster a.toCore) :=
    fun hin => (shows_iff_lists hown).mp (hv hin)
  obtain ⟨fs, hout', hstep⟩ := rosterTurn_step (turn P l.1 a l.2)
  have hsame : fs = es := List.append_cancel_left (hout'.symm.trans hout)
  subst hsame
  have hshows : Shows (Actor.step P a l).toCore (RoomView.receiveAll c v fs) ↔
      (RoomView.receiveAll c v fs).Lists (roster (Actor.step P a l).toCore) := shows_iff_lists hown'
  rw [hshows]
  rcases hstep with ⟨x, hm, hr, hentry⟩ | ⟨hno, hroster⟩
  · by_cases hc : c = x
    · subst hc
      refine ⟨fun _ x' hm' _ _ hne => ?_, fun _ hin => lists_ownEntry hentry hown' hsent v hin⟩
      obtain rfl := Msg.join.inj (hm.symm.trans hm')
      exact absurd rfl hne
    · refine (lists_otherEntry hentry hown hc hsent hlists).trans ?_
      constructor
      · rintro hall x' hm' -
        obtain rfl := Msg.join.inj (hm.symm.trans hm')
        exact hall
      · exact fun hall => hall x hm hr
  · constructor
    · exact fun _ x hm hr => absurd hr (hno x hm)
    · exact fun _ hin => lists_rosterTurn hroster hsent hlists hin

/-- The same along a run. -/
theorem shows_run_iff (P : Persistence σ) (c : Client) (ls : List (Env × Msg)) (a : Actor σ)
    (hown : Owned a.toCore) (v : RoomView) (hv : IsClient a.toCore c → Shows a.toCore v)
    (hsent : ∀ e, Effect.send c e false ∉ (Actor.runActor P a ls).out.drop a.out.length) :
    (∀ xs ys, ls = xs ++ ys → IsClient (Actor.runActor P a xs).toCore c →
      Shows (Actor.runActor P a xs).toCore
        (RoomView.receiveAll c v ((Actor.runActor P a xs).out.drop a.out.length))) ↔
      EachStep (Actor.step P) (AnnouncedTo P c) a ls := by
  induction ls generalizing a v with
  | nil =>
      refine ⟨fun _ => eachStep_nil _ _, fun _ xs ys hls hin => ?_⟩
      obtain ⟨rfl, -⟩ := List.append_eq_nil_iff.mp hls.symm
      have hnone : (Actor.runActor P a []).out.drop a.out.length = [] := List.drop_length
      rw [hnone]
      exact hv hin
  | cons l ls ih =>
      obtain ⟨es, hout⟩ := out_step P a l
      have hrest : ∀ xs, ∃ fs, (Actor.runActor P (Actor.step P a l) xs).out.drop
          (Actor.step P a l).out.length = fs ∧
          (Actor.runActor P a (l :: xs)).out.drop a.out.length = es ++ fs := by
        intro xs
        obtain ⟨fs, hfs⟩ := out_run P xs (Actor.step P a l)
        refine ⟨fs, by rw [hfs, List.drop_left], ?_⟩
        rw [Actor.runActor, run_cons, ← Actor.runActor, hfs, hout, List.append_assoc,
          List.drop_left]
      obtain ⟨fs, hfs, hall⟩ := hrest ls
      rw [hall] at hsent
      have hfirst := shows_step_iff P hown l hv hout
        (fun e he => hsent e (List.mem_append_left _ he))
      have hlater : ∀ e, Effect.send c e false ∉ (Actor.runActor P (Actor.step P a l) ls).out.drop
          (Actor.step P a l).out.length := by
        rw [hfs]
        exact fun e he => hsent e (List.mem_append_right _ he)
      rw [eachStep_cons, ← hfirst]
      constructor
      · intro hshows
        have hnext : IsClient (Actor.step P a l).toCore c →
            Shows (Actor.step P a l).toCore (RoomView.receiveAll c v es) := by
          intro hin
          have hone := hshows [l] ls rfl hin
          have hdrop : (Actor.runActor P a [l]).out.drop a.out.length = es := by
            show (Actor.step P a l).out.drop a.out.length = es
            rw [hout, List.drop_left]
          rw [hdrop] at hone
          exact hone
        refine ⟨hnext, (ih _ (owned_step hown l) _ hnext hlater).mp ?_⟩
        intro xs ys hls hin
        obtain ⟨gs, hgs, hdrop⟩ := hrest xs
        have hlong := hshows (l :: xs) ys (by rw [hls, List.cons_append]) hin
        rw [hdrop, RoomView.receiveAll_append] at hlong
        rw [hgs]
        exact hlong
      · rintro ⟨hnext, hsteps⟩ xs ys hls hin
        cases xs with
        | nil =>
            have hnone : (Actor.runActor P a []).out.drop a.out.length = [] := List.drop_length
            rw [hnone]
            exact hv hin
        | cons x xs =>
            obtain ⟨rfl, hrestls⟩ := List.cons.inj hls
            obtain ⟨gs, hgs, hdrop⟩ := hrest xs
            have hlong := (ih _ (owned_step hown l) _ hnext hlater).mpr hsteps xs ys hrestls hin
            rw [hgs] at hlong
            rw [hdrop, RoomView.receiveAll_append]
            exact hlong

/-- **The replicated member list.**  In every run, as long as every send to a connection
    since its join has gone through, what the listener makes of its envelopes is the actor's
    list in every state in which it is a member's connection, exactly if every connection that
    was let in beside it was announced truly. -/
theorem member_list_replicated_iff (P : Persistence σ) (room : Room) (checkpoint : Option Checkpoint)
    (store : σ) (grace : Nat) (pre post : List (Env × Msg)) (env : Env) (c : Client) :
    let a₀ := Actor.runActor P (newActor room checkpoint store grace) pre
    let a₁ := Actor.step P a₀ (env, .join c)
    (a₀.process P env (.join c)).2 = .join (.ok ()) →
    (∀ e, Effect.send c e false ∉ (Actor.runActor P a₁ post).out.drop a₀.out.length) →
    ((∀ xs ys, post = xs ++ ys → IsClient (Actor.runActor P a₁ xs).toCore c →
        Shows (Actor.runActor P a₁ xs).toCore
          (RoomView.receiveAll c .initial ((Actor.runActor P a₁ xs).out.drop a₀.out.length))) ↔
      EachStep (Actor.step P) (AnnouncedTo P c) a₁ post) := by
  intro a₀ a₁ hjoin hsent
  have hown : Owned a₀.toCore := by
    refine owned_run ?_ pre
    intro id m hm
    exact absurd hm (AList.lookup_ne_of_empty rfl id m)
  have hown₁ : Owned a₁.toCore := owned_step hown _
  obtain ⟨es, hout, hstep⟩ := rosterTurn_step (turn P env a₀ (.join c))
  have hout₁ : a₁.out = a₀.out ++ es := hout
  have hdrop : ∀ xs, (Actor.runActor P a₁ xs).out.drop a₀.out.length =
      es ++ (Actor.runActor P a₁ xs).out.drop a₁.out.length := by
    intro xs
    obtain ⟨fs, hfs⟩ := out_run P xs a₁
    rw [hfs, List.drop_left, hout₁, List.append_assoc, List.drop_left]
  rw [hdrop post] at hsent
  have hfirst : IsClient a₁.toCore c → Shows a₁.toCore (RoomView.receiveAll c .initial es) := by
    intro hin
    rcases hstep with ⟨x, hm, -, hentry⟩ | ⟨hno, -⟩
    · obtain rfl := Msg.join.inj hm
      exact (shows_iff_lists hown₁).mpr (lists_ownEntry hentry hown₁
        (fun e he => hsent e (List.mem_append_left _ he)) .initial hin)
    · exact absurd hjoin (hno c rfl)
  have hrun := shows_run_iff P c post a₁ hown₁ _ hfirst
    (fun e he => hsent e (List.mem_append_right _ he))
  simp only [hdrop, RoomView.receiveAll_append]
  exact hrun

-- ============================================================================
-- The host comes back
-- ============================================================================

/-- A message that its client does not get. -/
def Effect.lost : Effect → Bool
  | .send _ _ ok => !ok
  | _ => false

theorem sent_of_none_lost {es : List Effect} (h : es.any Effect.lost = false) (c : Client) :
    ∀ e, Effect.send c e false ∉ es := by
  intro e he
  have hlost : es.any Effect.lost = true := List.any_eq_true.mpr ⟨.send c e false, he, rfl⟩
  rw [h] at hlost
  exact Bool.noConfusion hlost

/-- A store that answers every call. -/
def quietStore : Persistence Unit := .answering (.ok ()) []

/-- The host is there when `u` joins. -/
def beforeGuest : Actor Unit :=
  Actor.runActor quietStore (newActor (smallRoom "h") none () 60)
    [(Env.at 1, .join (userClient 1 "h"))]

/-- The actor when `u` has joined, too. -/
def withGuest : Actor Unit := Actor.step quietStore beforeGuest (Env.at 2, .join (userClient 2 "u"))

/-- The view of `u` after the messages. -/
def viewOfGuest (ls : List (Env × Msg)) : RoomView :=
  RoomView.receiveAll (userClient 2 "u") .initial
    ((Actor.runActor quietStore withGuest ls).out.drop beforeGuest.out.length)

/-- The host hands the room to `u`, leaves, and comes back as a member. -/
def handsOver : List (Env × Msg) :=
  [(Env.at 3, .command (user "h") (hostCommand .roomTransferHost "u" 0 "")),
   (Env.at 4, .leave "h" (some (userClient 1 "h"))), (Env.at 5, .join (userClient 3 "h"))]

theorem announced_handsOver :
    EachStep (Actor.step quietStore) (AnnouncedTo quietStore (userClient 2 "u")) withGuest
      handsOver := by
  refine eachStep_cons.mpr ⟨fun x hm => absurd hm (by simp), eachStep_cons.mpr
    ⟨fun x hm => absurd hm (by simp), eachStep_cons.mpr ⟨?_, eachStep_nil _ _⟩⟩⟩
  rintro x hm - - -
  obtain rfl := Msg.join.inj hm
  have hgone : (Actor.runActor quietStore withGuest (handsOver.take 2)).members.lookup "h" = none :=
    rfl
  exact ⟨fun _ => by decide, fun m hlook => absurd (hgone.symm.trans hlook) (by simp)⟩

theorem member_list_handsOver :
    Shows (Actor.runActor quietStore withGuest handsOver).toCore (viewOfGuest handsOver) := by
  have hshown := member_list_replicated_iff quietStore (smallRoom "h") none () 60
    [(Env.at 1, .join (userClient 1 "h"))] handsOver (Env.at 2) (userClient 2 "u") rfl
    (sent_of_none_lost (by decide) _)
  exact hshown.mpr announced_handsOver handsOver [] (List.append_nil _).symm ⟨"u", _, rfl, rfl⟩

/-- The host loses its connection and comes back. -/
def hostComesBack : List (Env × Msg) :=
  [(Env.at 3, .leave "h" (some (userClient 1 "h"))), (Env.at 4, .join (userClient 3 "h"))]

/-- `u`, all of whose envelopes have arrived, sees the host as a member. -/
theorem host_shown_as_member :
    (beforeGuest.process quietStore (Env.at 2) (.join (userClient 2 "u"))).2 = .join (.ok ()) ∧
    (∀ e, Effect.send (userClient 2 "u") e false ∉
      (Actor.runActor quietStore withGuest hostComesBack).out.drop beforeGuest.out.length) ∧
    IsClient (Actor.runActor quietStore withGuest hostComesBack).toCore (userClient 2 "u") ∧
    ¬ Shows (Actor.runActor quietStore withGuest hostComesBack).toCore
      (viewOfGuest hostComesBack) := by
  refine ⟨rfl, sent_of_none_lost (by decide) _, ⟨"u", _, rfl, rfl⟩, fun h => ?_⟩
  have hseen : ("h", false, false) ∈ (viewOfGuest hostComesBack).members.map face := by decide
  have hactor : ("h", false, false) ∉
      (Actor.memberList (Actor.runActor quietStore withGuest hostComesBack).toCore).map face := by
    decide
  exact hactor ((h.same _).mp hseen)

end WatchTogether.Rooms

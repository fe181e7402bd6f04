/-
  WatchTogether.Rooms.Authority

  What `Actor.apply` may do for whom, and what it leaves behind when it refuses.

  A caller who is not the host, and does not act with the super administrator's
  right to the `cmd.room.*` commands, changes nothing but its own ready flag.  A
  command that is answered with an error changes nothing that a client could see,
  with one exception: `cmd.room.close` writes the status before it calls
  `CloseRoom`, and a failing call leaves the room closed in memory.
-/

import WatchTogether.Rooms.Turn

namespace WatchTogether.Rooms

variable {σ : Type}

-- ============================================================================
-- Authority
-- ============================================================================

/-- Whoever gets a host command through is the host or acts as super administrator. -/
theorem authorised_caller {s : Core} {i : Identity} {c : Command} {p : CommandPayload}
    (h : s.authorised i c = some p) :
    i.id = s.room.hostUserID ∨ Actor.adminOverride i c.type = true := by
  obtain ⟨⟨-, -, -, -, hhost⟩, -⟩ := Core.authorised_eq_some.mp h
  exact hhost

/-- `adminOverride` in the words of the wire: the type string has the prefix
    `cmd.room.` and the caller is a super administrator, not a guest. -/
theorem adminOverride_ofString (i : Identity) (type : String) :
    Actor.adminOverride i (CommandType.ofString type) = true ↔
      hasRoomPrefix type = true ∧ i.guest = false ∧ i.role = .SUPER_ADMIN := by
  rw [Actor.adminOverride]
  rw [CommandType.isAdmin_ofString]
  simp [and_assoc]

/-- **Command authority.**  If the caller is neither the host nor a super administrator
    (not a guest) with a `cmd.room.*` command, then after `apply` everything is as it
    was, the store and what has been sent included, but for the caller's own ready
    flag.  If the caller is not a member either, nothing changes and an error comes
    back. -/
theorem apply_noninterference (P : Persistence σ) (env : Env) (a : Actor σ) (i : Identity)
    (type : String) (payload : Payload) (hhost : i.id ≠ a.room.hostUserID)
    (hadmin : ¬(hasRoomPrefix type = true ∧ i.guest = false ∧ i.role = .SUPER_ADMIN)) :
    (∃ members, (a.apply P env i ⟨CommandType.ofString type, payload⟩).1
          = { a with members := members } ∧
        (members = a.members ∨ ∃ ready, members = Actor.setReady i.id ready a.members)) ∧
    (i.id ∉ a.members →
      (a.apply P env i ⟨CommandType.ofString type, payload⟩).1 = a ∧
      ∃ e, (a.apply P env i ⟨CommandType.ofString type, payload⟩).2 = .error e) := by
  have hturn := commandTurn P env a i ⟨CommandType.ofString type, payload⟩
  generalize (a.apply P env i ⟨CommandType.ofString type, payload⟩).1 = a' at hturn ⊢
  generalize (a.apply P env i ⟨CommandType.ofString type, payload⟩).2 = r at hturn ⊢
  cases hturn with
  | refused e => exact ⟨⟨a.members, rfl, Or.inl rfl⟩, fun _ => ⟨rfl, e, rfl⟩⟩
  | ignored hm htype => exact ⟨⟨a.members, rfl, Or.inl rfl⟩, fun hnot => absurd hm hnot⟩
  | readied p hm htype =>
      refine ⟨⟨Actor.setReady i.id p.ready a.members, rfl, Or.inr ⟨p.ready, rfl⟩⟩, ?_⟩
      intro hnot
      exact absurd hm hnot
  | measured p s hm htype hi hs => exact absurd hi hhost
  | host p a' r hp hturn =>
      rcases authorised_caller hp with h | h
      · exact absurd h hhost
      · exact absurd ((adminOverride_ofString i type).mp h) hadmin

/-- The registered user `u` is not in the room of `h`, and cannot kick its host. -/
theorem apply_noninterference_stranger :
    ((newActor (smallRoom "h") none () 60).apply (.answering (.ok ()) []) (Env.at 1) (user "u")
        ⟨CommandType.ofString "cmd.room.kick", (hostCommand .roomKick "h" 0 "").payload⟩).1
      = newActor (smallRoom "h") none () 60 ∧
    ∃ e, ((newActor (smallRoom "h") none () 60).apply (.answering (.ok ()) []) (Env.at 1)
        (user "u")
        ⟨CommandType.ofString "cmd.room.kick", (hostCommand .roomKick "h" 0 "").payload⟩).2
      = .error e :=
  (apply_noninterference (.answering (.ok ()) []) (Env.at 1) (newActor (smallRoom "h") none () 60)
    (user "u") "cmd.room.kick" (hostCommand .roomKick "h" 0 "").payload (by decide)
    (by decide)).2 (by decide)

-- ============================================================================
-- Refused commands
-- ============================================================================

/-- Room, playback, members and client counter are the same, and nothing was sent. -/
structure Untouched (a a' : Actor σ) : Prop where
  room : a'.room = a.room
  playback : a'.playback = a.playback
  members : a'.members = a.members
  clients : a'.clients = a.clients
  out : a'.out = a.out

/-- The command is a `cmd.room.close` that gets through to a `CloseRoom` that fails, on
    a room that is not closed yet. -/
def ClosesUnpersisted (P : Persistence σ) (env : Env) (a : Actor σ) (i : Identity)
    (c : Command) : Prop :=
  (∃ p, a.toCore.authorised i c = some p) ∧ c.type = .roomClose ∧ a.room.status ≠ .CLOSED ∧
    ∃ e, (P.closeRoom a.room.id (env.now 0) a.store).1 = .error e

theorem untouched_refl (a : Actor σ) : Untouched a a := ⟨rfl, rfl, rfl, rfl, rfl⟩

/-- What an unpersisted close does: an error, and a closed room in memory. -/
theorem apply_closesUnpersisted {P : Persistence σ} {env : Env} {a : Actor σ} {i : Identity}
    {c : Command} (h : ClosesUnpersisted P env a i c) :
    (a.apply P env i c).1.room.status = .CLOSED ∧ ∃ e, (a.apply P env i c).2 = .error e := by
  obtain ⟨⟨p, hp⟩, htype, -, e, hfail⟩ := h
  rw [apply_authorised P env hp, htype]
  rw [Actor.applyHost, Actor.applyClose]
  rcases hP : P.closeRoom a.room.id (env.now 0) a.store with ⟨e' | u, store⟩
  · dsimp only
    exact ⟨rfl, _, rfl⟩
  · rw [hP] at hfail
    exact absurd hfail (by simp)

/-- **Refused commands.**  An error leaves room, playback, members and counter as they
    were and sends nothing, exactly when the command is not a close that the store
    fails to carry out. -/
theorem apply_error_untouched_iff (P : Persistence σ) (env : Env) (a : Actor σ) (i : Identity)
    (c : Command) :
    ((∃ e, (a.apply P env i c).2 = .error e) → Untouched a (a.apply P env i c).1) ↔
      ¬ ClosesUnpersisted P env a i c := by
  constructor
  · intro hatomic hbad
    obtain ⟨hclosed, herr⟩ := apply_closesUnpersisted hbad
    have hroom := (hatomic herr).room
    rw [hroom] at hclosed
    exact hbad.2.2.1 hclosed
  · rintro hok ⟨e, he⟩
    have hturn := commandTurn P env a i c
    rw [he] at hturn
    generalize (a.apply P env i c).1 = a' at hturn ⊢
    cases hturn with
    | refused => exact untouched_refl a
    | host p a' r hp hturn =>
        generalize hr : (Except.error e : Except ActorError (Option PlaybackState)) = r at hturn
        cases hturn with
        | refused e => exact untouched_refl a
        | transferRefused m e store htype hm hguest hP => exact ⟨rfl, rfl, rfl, rfl, rfl⟩
        | closeFailed e store htype hP =>
            -- the status is written already, so the room had to be closed before
            have hclosed : a.room.status = .CLOSED := by
              by_contra hopen
              exact hok ⟨⟨p, hp⟩, htype, hopen, e, by rw [hP]⟩
            refine ⟨?_, rfl, rfl, rfl, rfl⟩
            show { a.room with status := RoomStatus.CLOSED } = a.room
            rw [← hclosed]
        | mediaRefused e store htype hid hP => exact ⟨rfl, rfl, rfl, rfl, rfl⟩
        | playbackRefused t e hswitch =>
            exact ⟨rfl, Timeline.playbackSwitch_kept hswitch (by simp), rfl, rfl, rfl⟩
        | transferred => cases hr
        | kicked => cases hr
        | closed => cases hr
        | mediaSet => cases hr
        | playbackKept => cases hr
        | playbackChanged => cases hr

/-- The host closes its room while the database is out of reach: the command fails and
    the room is closed in memory. -/
theorem apply_error_touches_on_close :
    let a := newActor (smallRoom "h") none () 60
    let r := a.apply (.answering (.error (.failed "database is locked")) []) (Env.at 1) (user "h")
      (hostCommand .roomClose "" 0 "")
    (∃ e, r.2 = .error e) ∧ ¬ Untouched a r.1 := by
  refine ⟨⟨.store (.failed "database is locked"), by decide⟩, ?_⟩
  intro h
  exact absurd (congrArg Room.status h.room) (by decide)

end WatchTogether.Rooms

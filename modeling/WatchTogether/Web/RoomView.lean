/-
  WatchTogether.Web.RoomView

  What the page of a room shows of its members: the listener that `RoomPage` hands to the
  socket (`web/src/pages/RoomPage.tsx`), as far as it writes `room` and `members`.

  The server sends the whole list once and changes afterwards.  `Lists` compares the view
  with a roster, the members' kinds under their ids and the id of the host.
-/

import WatchTogether.Rooms.Actor

namespace WatchTogether.Web

open Rooms

-- ============================================================================
-- The listener
-- ============================================================================

/-- `room` and `members` of the page.  A member's `role` is "host" or "member", its `kind`
    "guest" or "user". -/
structure RoomView where
  room : Option Room
  members : List SnapshotMember
deriving DecidableEq

namespace RoomView

/-- The page before anything has arrived. -/
def initial : RoomView := ⟨none, []⟩

/-- What the listener does with an event. -/
def handle (v : RoomView) : Event → RoomView
  | .roomSnapshot room _ members => ⟨some room, members⟩
  | .memberJoined x =>
      if v.members.any (fun m => decide (m.id = x.id)) then v
      else { v with members := v.members ++ [⟨x.id, x.nickname, false, x.guest, true, false⟩] }
  | .memberLeft id _ => { v with members := v.members.filter (fun m => decide (m.id ≠ id)) }
  | .hostChanged id =>
      { room := v.room.map (fun r => { r with hostUserID := id })
        members := v.members.map (fun m => { m with host := decide (m.id = id) }) }
  | .roomUpdated title => { v with room := v.room.map (fun r => { r with title := title }) }
  | .roomClosed => { v with room := v.room.map (fun r => { r with status := .CLOSED }) }
  | _ => v

/-- The listener. -/
def receive (v : RoomView) (e : Envelope) : RoomView := v.handle e.event

/-- A second copy of an envelope changes nothing. -/
theorem receive_twice (v : RoomView) (e : Envelope) : (v.receive e).receive e = v.receive e := by
  rw [receive, receive]
  cases e.event with
  | memberJoined x =>
      simp only [handle]
      split
      · rfl
      · rw [if_pos (by simp)]
  | memberLeft id kicked => simp [handle, List.filter_filter]
  | hostChanged id => simp [handle, Function.comp_def]
  | roomUpdated title => simp [handle, Function.comp_def]
  | roomClosed => simp [handle, Function.comp_def]
  | _ => rfl

end RoomView

/-- The envelopes that were put into the queue of `c`, in order. -/
def received (c : Client) (es : List Effect) : List Envelope :=
  es.filterMap (fun x =>
    match x with
    | .send c' e true => if c' = c then some e else none
    | _ => none)

@[simp] theorem received_nil (c : Client) : received c [] = [] := rfl

@[simp] theorem received_append (c : Client) (es fs : List Effect) :
    received c (es ++ fs) = received c es ++ received c fs :=
  List.filterMap_append

/-- The view of the connection `c` after the effects. -/
def RoomView.receiveAll (c : Client) (v : RoomView) (es : List Effect) : RoomView :=
  (received c es).foldl RoomView.receive v

theorem RoomView.receiveAll_append (c : Client) (v : RoomView) (es fs : List Effect) :
    RoomView.receiveAll c v (es ++ fs) = RoomView.receiveAll c (RoomView.receiveAll c v es) fs := by
  rw [RoomView.receiveAll, received_append, List.foldl_append]
  rfl

-- ============================================================================
-- Rosters
-- ============================================================================

/-- Who is in a room: under the id of each member whether it is a guest, and the host. -/
structure Roster where
  host : String
  kind : String → Option Bool

namespace Roster

/-- The member is on the list. -/
def join (id : String) (guest : Bool) (r : Roster) : Roster :=
  { r with kind := fun k => if k = id then some guest else r.kind k }

/-- The member is off the list. -/
def leave (id : String) (r : Roster) : Roster :=
  { r with kind := fun k => if k = id then none else r.kind k }

/-- Who is there already does not come again. -/
theorem join_of_kind {r : Roster} {id : String} {guest : Bool} (h : r.kind id = some guest) :
    r.join id guest = r := by
  have hkind : (fun k => if k = id then some guest else r.kind k) = r.kind := by
    funext k
    split
    · rename_i hk
      rw [hk, h]
    · rfl
  rw [join, hkind]

end Roster

/-- Id, role and kind of an entry. -/
def face (m : SnapshotMember) : String × Bool × Bool := (m.id, m.host, m.guest)

/-- The view lists the roster: each member once, in its role and of its kind. -/
structure RoomView.Lists (v : RoomView) (r : Roster) : Prop where
  once : (v.members.map (fun m => m.id)).Nodup
  faces : ∀ id host guest, (id, host, guest) ∈ v.members.map face ↔
    r.kind id = some guest ∧ host = decide (id = r.host)
  host : v.room.map (fun r => r.hostUserID) = some r.host

namespace RoomView

theorem mem_faces {v : RoomView} {id : String} {host guest : Bool} :
    (id, host, guest) ∈ v.members.map face ↔
      ∃ m ∈ v.members, m.id = id ∧ m.host = host ∧ m.guest = guest := by
  simp [face]

/-- An id is listed exactly if it is in the roster. -/
theorem Lists.any_iff {v : RoomView} {r : Roster} (h : v.Lists r) (id : String) :
    v.members.any (fun m => decide (m.id = id)) = true ↔ ∃ g, r.kind id = some g := by
  rw [List.any_eq_true]
  constructor
  · rintro ⟨m, hm, hid⟩
    have hface : (m.id, m.host, m.guest) ∈ v.members.map face := List.mem_map_of_mem hm
    rw [of_decide_eq_true hid] at hface
    exact ⟨m.guest, ((h.faces id m.host m.guest).mp hface).1⟩
  · rintro ⟨g, hg⟩
    obtain ⟨m, hm, hid, -⟩ := mem_faces.mp ((h.faces id _ g).mpr ⟨hg, rfl⟩)
    exact ⟨m, hm, decide_eq_true hid⟩

/-- Events that neither list nor unlist a member. -/
def quiet : Event → Bool
  | .playbackState _ | .roomClosed | .roomUpdated _ | .serverShutdown | .chat _ => true
  | _ => false

theorem Lists.quiet {v : RoomView} {r : Roster} (h : v.Lists r) {e : Envelope}
    (he : RoomView.quiet e.event = true) : (v.receive e).Lists r := by
  rw [receive]
  revert he
  cases e.event with
  | roomClosed => exact fun _ => ⟨h.once, h.faces, by simpa [handle] using h.host⟩
  | roomUpdated title => exact fun _ => ⟨h.once, h.faces, by simpa [handle] using h.host⟩
  | playbackState p => exact fun _ => h
  | serverShutdown => exact fun _ => h
  | chat x => exact fun _ => h
  | _ => exact fun he => absurd he (by simp [RoomView.quiet])

theorem Lists.left {v : RoomView} {r : Roster} (h : v.Lists r) {e : Envelope} {id : String}
    {kicked : Bool} (he : e.event = .memberLeft id kicked) : (v.receive e).Lists (r.leave id) := by
  rw [receive, he, handle]
  refine ⟨?_, ?_, h.host⟩
  · exact h.once.sublist (List.Sublist.map _ List.filter_sublist)
  · intro k host guest
    rw [mem_faces]
    have hold := h.faces k host guest
    rw [mem_faces] at hold
    show _ ↔ (if k = id then none else r.kind k) = some guest ∧ host = decide (k = r.host)
    simp only [List.mem_filter, decide_eq_true_eq]
    by_cases hk : k = id
    · rw [if_pos hk]
      constructor
      · rintro ⟨m, ⟨-, hne⟩, hid, -⟩
        exact absurd (hid.trans hk) hne
      · exact fun hnone => absurd hnone.1 (by simp)
    · rw [if_neg hk, ← hold]
      constructor
      · rintro ⟨m, ⟨hm, -⟩, hrest⟩
        exact ⟨m, hm, hrest⟩
      · rintro ⟨m, hm, hid, hrest⟩
        exact ⟨m, ⟨hm, by rw [hid]; exact hk⟩, hid, hrest⟩

theorem Lists.hostChanged {v : RoomView} {r : Roster} (h : v.Lists r) {e : Envelope} {id : String}
    (he : e.event = .hostChanged id) : (v.receive e).Lists { r with host := id } := by
  rw [receive, he, handle]
  refine ⟨?_, ?_, ?_⟩
  · rw [List.map_map]
    exact h.once
  · intro k host guest
    rw [mem_faces]
    simp only [List.mem_map]
    constructor
    · rintro ⟨m', ⟨m, hm, rfl⟩, hid, hhost, hguest⟩
      have hold := (h.faces m.id m.host m.guest).mp (List.mem_map_of_mem hm)
      dsimp only at hid hhost hguest
      subst hid hguest
      exact ⟨hold.1, hhost.symm⟩
    · rintro ⟨hkind, rfl⟩
      obtain ⟨m, hm, rfl, -, rfl⟩ := mem_faces.mp ((h.faces k _ guest).mpr ⟨hkind, rfl⟩)
      exact ⟨_, ⟨m, hm, rfl⟩, rfl, rfl, rfl⟩
  · have hroom := h.host
    cases hr : v.room with
    | none =>
        rw [hr] at hroom
        exact absurd hroom (by simp)
    | some room => rfl

/-- A joined member is shown as a member that is not the host: the view is right exactly if
    it is not the host, or was listed before as what it is. -/
theorem Lists.joined_iff {v : RoomView} {r : Roster} (h : v.Lists r) {e : Envelope} {x : Identity}
    (he : e.event = .memberJoined x) :
    (v.receive e).Lists (r.join x.id x.guest) ↔
      (r.kind x.id = none → x.id ≠ r.host) ∧ ∀ g, r.kind x.id = some g → g = x.guest := by
  rw [receive, he, handle]
  cases hkind : r.kind x.id with
  | some g =>
      rw [if_pos ((h.any_iff x.id).mpr ⟨g, hkind⟩)]
      constructor
      · intro hnew
        refine ⟨fun hnone => absurd hnone (by simp), ?_⟩
        rintro g' hg'
        obtain rfl := Option.some.inj hg'
        have hface := (h.faces x.id _ g).mpr ⟨hkind, rfl⟩
        have hsame := ((hnew.faces x.id _ g).mp hface).1
        simp only [Roster.join, if_true] at hsame
        exact (Option.some.inj hsame).symm
      · rintro ⟨-, hsame⟩
        obtain rfl := hsame g rfl
        rw [Roster.join_of_kind hkind]
        exact h
  | none =>
      have habsent : ¬ v.members.any (fun m => decide (m.id = x.id)) = true := by
        rw [h.any_iff x.id, hkind]
        simp
      rw [if_neg habsent]
      have hnew : ∀ m ∈ v.members, m.id ≠ x.id := by
        intro m hm hid
        exact habsent (List.any_eq_true.mpr ⟨m, hm, decide_eq_true hid⟩)
      constructor
      · intro hjoined
        refine ⟨fun _ hhost => ?_, fun g hg => absurd hg (by simp)⟩
        have hface : (x.id, false, x.guest) ∈
            (v.members ++ [(⟨x.id, x.nickname, false, x.guest, true, false⟩ : SnapshotMember)]).map
            face := by
          simp [face]
        have hrole := ((hjoined.faces _ _ _).mp hface).2
        exact absurd hrole (by simp [Roster.join, hhost])
      · rintro ⟨hhost, -⟩
        have hother := hhost rfl
        refine ⟨?_, ?_, h.host⟩
        · rw [List.map_append]
          refine List.Nodup.append h.once (by simp) ?_
          simp only [List.disjoint_singleton, List.map_cons, List.map_nil, List.mem_map, not_exists,
            not_and]
          exact hnew
        · intro k host guest
          rw [List.map_append, List.mem_append, h.faces]
          show _ ↔ (if k = x.id then some x.guest else r.kind k) = some guest ∧
            host = decide (k = r.host)
          simp only [face, List.map_cons, List.map_nil, List.mem_singleton, Prod.mk.injEq]
          by_cases hk : k = x.id
          · subst hk
            rw [hkind]
            simp [hother, eq_comm, and_comm]
          · simp [hk]

end RoomView

end WatchTogether.Web

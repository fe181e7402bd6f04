/-
  WatchTogether.Web.RoomState

  What a browser keeps of a room's timeline: `acceptRevision` of
  `web/src/player/PlaybackModel.ts`, the two fields `SyncController.setRoomState`
  writes (`web/src/player/SyncController.ts`), and the envelopes that reach it
  (`web/src/pages/RoomPage.tsx`).
-/

import WatchTogether.Rooms.Actor

namespace WatchTogether.Web

open Rooms

/-- `acceptRevision`. -/
def acceptRevision (lastRevision nextRevision : Int) : Bool := decide (lastRevision < nextRevision)

/-- `SyncController`'s `lastRevision` and `state`. -/
structure RoomState where
  lastRevision : Int
  state : Option PlaybackState
deriving DecidableEq

namespace RoomState

/-- A controller that has seen nothing yet. -/
def initial : RoomState := ⟨-1, none⟩

/-- A controller that is up to date with `p`. -/
def synced (p : PlaybackState) : RoomState := ⟨p.revision, some p⟩

/-- `setRoomState`. -/
def setRoomState (v : RoomState) (next : PlaybackState) (force : Bool) : RoomState :=
  if force = false ∧ acceptRevision v.lastRevision next.revision = false then v
  else synced next

/-- The envelopes that carry a timeline; every other type leaves it alone. -/
def receive (v : RoomState) (e : Envelope) : RoomState :=
  match e.event with
  | .roomSnapshot _ playback _ => v.setRoomState playback true
  | .playbackState state => v.setRoomState state false
  | _ => v

/-- A forced state is taken unconditionally. -/
@[simp] theorem setRoomState_force (v : RoomState) (p : PlaybackState) :
    v.setRoomState p true = synced p := by
  simp [setRoomState]

theorem setRoomState_newer {v : RoomState} {p : PlaybackState} (h : v.lastRevision < p.revision) :
    v.setRoomState p false = synced p := by
  simp [setRoomState, acceptRevision, h]

/-- The same state a second time changes nothing. -/
theorem setRoomState_twice (v : RoomState) (p : PlaybackState) :
    (v.setRoomState p false).setRoomState p false = v.setRoomState p false := by
  by_cases h : v.lastRevision < p.revision
  · rw [setRoomState_newer h]
    simp [setRoomState, acceptRevision, synced]
  · simp [setRoomState, acceptRevision, h]

/-- The envelopes among `es` that were put into the queue of `c`, received in order. -/
def receiveAll (c : Client) (v : RoomState) (es : List Effect) : RoomState :=
  es.foldl (fun v x =>
    match x with
    | .send c' e true => if c' = c then v.receive e else v
    | _ => v) v

@[simp] theorem receiveAll_nil (c : Client) (v : RoomState) : receiveAll c v [] = v := rfl

theorem receiveAll_append (c : Client) (v : RoomState) (es fs : List Effect) :
    receiveAll c v (es ++ fs) = receiveAll c (receiveAll c v es) fs :=
  List.foldl_append ..

end RoomState

end WatchTogether.Web

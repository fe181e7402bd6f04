/-
  WatchTogether.Model

  The records of `internal/model/model.go` that the room subsystem reads and
  writes.  Ids, titles and nicknames are strings as in the source; columns that
  hold one of a fixed list of words (a role, a status, a phase) are enumerations.

  `int64` values are `Int64`, Go's `int` is `Int`.  A playback rate is a `float64`
  in the source and a rational here: products with it are taken exactly.
-/

import Mathlib.Data.Rat.Defs

namespace WatchTogether

/-- `model.RoleUser`, `model.RoleSuperAdmin`, and the empty role of a guest. -/
inductive Role where
  | unset
  | USER
  | SUPER_ADMIN
deriving DecidableEq, Repr

/-- `model.Identity`: who a request or a connection was authenticated as. -/
structure Identity where
  role : Role
  username : String
  id : String
  nickname : String
  roomID : String
  guest : Bool
deriving DecidableEq

/-- `rooms.status`. -/
inductive RoomStatus where
  | OPEN
  | HOST_DISCONNECTED
  | CLOSED
deriving DecidableEq, Repr

/-- `rooms.join_policy`. -/
inductive JoinPolicy where
  | INVITE
  | OPEN
deriving DecidableEq, Repr

/-- `model.Room`, a row of `rooms`. -/
structure Room where
  id : String
  code : String
  title : String
  hostUserID : String
  status : RoomStatus
  joinPolicy : JoinPolicy
  mediaID : Option String
  maxMembers : Int
  createdAtMs : Int64
  updatedAtMs : Int64
  closedAtMs : Option Int64
deriving DecidableEq

/-- `room_members.role`. -/
inductive MemberRole where
  | HOST
  | MEMBER
deriving DecidableEq, Repr

/-- `model.Member` as `Store.Members` returns it. -/
structure Member where
  id : String
  nickname : String
  role : MemberRole
  joinedAtMs : Int64
deriving DecidableEq

/-- The playback phases of `internal/rooms/state.go`. -/
inductive Phase where
  | noMedia
  | loading
  | paused
  | playing
  | buffering
  | ended
deriving DecidableEq, Repr

/-- `model.Checkpoint`, a row of `room_playback_checkpoints`. -/
structure Checkpoint where
  roomID : String
  mediaID : Option String
  positionMs : Int64
  playbackRate : ℚ
  phase : Phase
  updatedAtMs : Int64
deriving DecidableEq

/-- `model.ChatMessage`. -/
structure ChatMessage where
  id : String
  roomID : String
  senderID : String
  senderNickname : String
  senderGuest : Bool
  content : String
  mediaPositionMs : Option Int64
  createdAtMs : Int64
deriving DecidableEq

end WatchTogether

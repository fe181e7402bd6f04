/-
  WatchTogether.Chat.Messages

  The table `chat_messages`, `Store.SaveChat` and `Store.Messages` on it, and the handler
  of `GET …/messages`.

  `ORDER BY created_at_ms DESC` says nothing of rows with equal times, so the order in which
  the database gives them is a parameter of the query.
-/

import Mathlib.Data.List.Sort
import WatchTogether.Uploads.Service

namespace WatchTogether.Chat

open Repository
open Uploads (Response)

-- ============================================================================
-- The table
-- ============================================================================

/-- A row of `chat_messages`. -/
structure ChatRow where
  id : String
  roomID : String
  senderUserID : Option String
  senderGuestID : Option String
  senderNickname : String
  content : String
  mediaPositionMs : Option Int64
  createdAtMs : Int64
deriving DecidableEq

/-- The row that `SaveChat` inserts. -/
def saveRow (m : ChatMessage) : ChatRow where
  id := m.id
  roomID := m.roomID
  senderUserID := if m.senderGuest then none else some m.senderID
  senderGuestID := if m.senderGuest then some m.senderID else none
  senderNickname := m.senderNickname
  content := m.content
  mediaPositionMs := m.mediaPositionMs
  createdAtMs := m.createdAtMs

/-- `rows.Scan` into a message of the room: a `NULL` sender is an error. -/
def ChatRow.scan (roomID : String) (r : ChatRow) : Option ChatMessage :=
  (r.senderUserID.or r.senderGuestID).map fun sender =>
    { id := r.id, roomID := roomID, senderID := sender, senderNickname := r.senderNickname,
      senderGuest := r.senderGuestID.isSome, content := r.content,
      mediaPositionMs := r.mediaPositionMs, createdAtMs := r.createdAtMs }

/-- A saved message is read back as it was. -/
theorem scan_saveRow (m : ChatMessage) : (saveRow m).scan m.roomID = some m := by
  obtain ⟨id, roomID, senderID, nickname, guest, content, position, created⟩ := m
  cases guest
  · rfl
  · rfl

/-- The messages, each saved by `SaveChat`, under different ids. -/
structure ChatTable where
  saved : List ChatMessage
  primaryKey : (saved.map (fun m => m.id)).Nodup

/-- The rows of `chat_messages`. -/
def ChatTable.rows (t : ChatTable) : List ChatRow := t.saved.map saveRow

/-- `SaveChat`. -/
def saveChat (m : ChatMessage) (t : ChatTable) : Except Rooms.StoreError ChatTable :=
  if h : m.id ∈ t.saved.map (fun m => m.id) then .error uniqueFailed
  else
    .ok ⟨m :: t.saved, by rw [List.map_cons]; exact List.nodup_cons.mpr ⟨h, t.primaryKey⟩⟩

/-- The messages of the room. -/
def ChatTable.ofRoom (t : ChatTable) (roomID : String) : List ChatMessage :=
  t.saved.filter (fun m => decide (m.roomID = roomID))

-- ============================================================================
-- Queries
-- ============================================================================

/-- `ORDER BY created_at_ms DESC` of a query with the given room, `before` and limit. -/
structure OrderBy where
  sort : String → Int64 → Int64 → List ChatRow → List ChatRow
  perm : ∀ room before limit rows, (sort room before limit rows).Perm rows
  desc : ∀ room before limit rows, (sort room before limit rows).Pairwise
    (fun r r' => r'.createdAtMs.toInt ≤ r.createdAtMs.toInt)

/-- The order of the index `idx_chat_room_time`: time and id, descending. -/
def NewestFirst (r r' : ChatRow) : Prop :=
  r'.createdAtMs.toInt < r.createdAtMs.toInt ∨
    (r'.createdAtMs.toInt = r.createdAtMs.toInt ∧ r'.id ≤ r.id)

instance (r r' : ChatRow) : Decidable (NewestFirst r r') := by
  unfold NewestFirst
  infer_instance

theorem NewestFirst.time_le {r r' : ChatRow} (h : NewestFirst r r') :
    r'.createdAtMs.toInt ≤ r.createdAtMs.toInt := by
  rcases h with h | ⟨h, -⟩
  · omega
  · omega

instance : Std.Total NewestFirst where
  total a b := by
    rcases lt_trichotomy a.createdAtMs.toInt b.createdAtMs.toInt with h | h | h
    · exact Or.inr (Or.inl h)
    · rcases String.le_total a.id b.id with hid | hid
      · exact Or.inr (Or.inr ⟨h, hid⟩)
      · exact Or.inl (Or.inr ⟨h.symm, hid⟩)
    · exact Or.inl (Or.inl h)

instance : IsTrans ChatRow NewestFirst where
  trans a b c hab hbc := by
    rcases hab with hab | ⟨hab, hid⟩
    · rcases hbc with hbc | ⟨hbc, -⟩
      · exact Or.inl (hbc.trans hab)
      · exact Or.inl (hbc ▸ hab)
    · rcases hbc with hbc | ⟨hbc, hid'⟩
      · exact Or.inl (hab ▸ hbc)
      · exact Or.inr ⟨hbc.trans hab, String.le_trans hid' hid⟩

/-- The database walks the index. -/
def byIndex : OrderBy where
  sort _ _ _ rows := rows.insertionSort NewestFirst
  perm _ _ _ rows := List.perm_insertionSort NewestFirst rows
  desc _ _ _ rows := (List.pairwise_insertionSort NewestFirst rows).imp (fun h => h.time_le)

/-- The upper bound of the query. -/
def bound (before : Int64) : Int64 := if before = 0 then (1 : Int64) <<< (62 : Int64) else before

/-- The `WHERE` clause of the query. -/
def found (t : ChatTable) (roomID : String) (before : Int64) : List ChatRow :=
  t.rows.filter (fun r => decide (r.roomID = roomID) && decide (r.createdAtMs < before))

/-- `Store.Messages`.  A negative limit is none. -/
def messages (order : OrderBy) (t : ChatTable) (roomID : String) (before limit : Int64) :
    Option (List ChatMessage) :=
  let sorted := order.sort roomID (bound before) limit (found t roomID (bound before))
  (if limit < 0 then sorted else sorted.take limit.toInt.toNat).mapM (ChatRow.scan roomID)

-- ============================================================================
-- The request
-- ============================================================================

/-- The loop of `strconv.ParseUint` in base 10: `none` is `ErrSyntax`, and a value that does not
    fit is the largest one. -/
def parseDigits (n : Nat) : List Char → Option Nat
  | [] => some n
  | c :: cs =>
      if !c.isDigit then none
      else if 2 ^ 64 ≤ 10 * n + (c.toNat - '0'.toNat) then some (2 ^ 64 - 1)
      else parseDigits (10 * n + (c.toNat - '0'.toNat)) cs

/-- `strconv.ParseUint`, 0 on `ErrSyntax`. -/
def parseUint (s : List Char) : Nat := if s = [] then 0 else (parseDigits 0 s).getD 0

/-- The value that `strconv.ParseInt(s, 10, 64)`, and with it `strconv.Atoi`, returns, whatever
    the error. -/
def parseInt (s : String) : Int64 :=
  match s.toList with
  | '-' :: ds => Int64.ofIntClamp (-(parseUint ds))
  | '+' :: ds => Int64.ofIntClamp (parseUint ds)
  | ds => Int64.ofIntClamp (parseUint ds)

/-- The query parameters; an absent one is empty. -/
structure Query where
  limit : String
  before : String

/-- The page size that the handler makes of the parameter. -/
def pageLimit (limit : Int64) : Int64 :=
  let limit := if limit ≤ 0 then 50 else limit
  if 100 < limit then 100 else limit

/-- `Server.messages`: `caller` is what `Authenticate` found, `room` the id of the room that
    `GetFor` gave. -/
def messagesHandler (order : OrderBy) (t : ChatTable) (caller : Option Identity)
    (room : Option String) (q : Query) : Except Response (List ChatMessage) :=
  match caller, room with
  | none, _ => .error ⟨401, "UNAUTHORIZED", "Authentication required."⟩
  | some _, none => .error ⟨404, "ROOM_NOT_FOUND", "Room not found."⟩
  | some _, some room =>
      ((messages order t room (parseInt q.before) (pageLimit (parseInt q.limit))).map
        List.reverse).elim (.error ⟨500, "INTERNAL_ERROR", "Unable to load messages."⟩) .ok

end WatchTogether.Chat

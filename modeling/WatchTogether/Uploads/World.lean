/-
  WatchTogether.Uploads.World

  What the calls of the media service find and leave, for one upload: its two rows, its
  object, and its multipart upload in the object store.  The object store completes or
  aborts a multipart id once, and rejects every later attempt; `Delete` is idempotent.
-/

import WatchTogether.Uploads.Service

namespace WatchTogether.Uploads

open Rooms (StoreError)
open Repository (MediaStatus)

/-- The multipart upload of an id, as the object store has it. -/
inductive MultipartState where
  | inProgress
  | completed
  | aborted
deriving DecidableEq, Repr

/-- The rows of an upload and what the object store has of it.  `object` is the size of
    the object under the key of the media. -/
structure World where
  upload : Upload
  media : Media
  deletedAtMs : Option Int64
  object : Option Int64
  multipart : MultipartState
deriving DecidableEq

/-- The error of a row that is not there. -/
def noRows : StoreError := .failed "sql: no rows in result set"

/-- The error of a multipart upload that is over. -/
def noSuchUpload : StoreError := .failed "NoSuchUpload"

/-- The error of a part that was not uploaded. -/
def invalidPart : StoreError := .failed "InvalidPart"

/-- The error of an object that is not there. -/
def noSuchKey : StoreError := .failed "NotFound"

/-- The error of a call that fails. -/
def callFailed : StoreError := .failed "connection reset by peer"

namespace World

/-- The transaction of `CompleteUpload`. -/
def completed (w : World) (now : Int64) : World :=
  { w with
    upload := { w.upload with status := .COMPLETED }
    media := { w.media with status := .READY, updatedAtMs := now } }

/-- The transaction of `FailUpload`. -/
def failed (w : World) (now : Int64) : World :=
  { w with
    upload := { w.upload with status := .ABORTED }
    media := { w.media with status := .FAILED, updatedAtMs := now } }

/-- The media's status changes. -/
def withMediaStatus (w : World) (status : MediaStatus) (now : Int64) : World :=
  { w with media := { w.media with status := status, updatedAtMs := now } }

/-- The update of `SoftDeleteMedia`. -/
def softDeleted (w : World) (now : Int64) : World :=
  { w.withMediaStatus .DELETING now with deletedAtMs := some now }

/-- A multipart id of this upload. -/
def Owns (w : World) (key sid : String) : Prop :=
  key = w.media.objectKey ∧ w.upload.s3UploadID = some sid

instance (w : World) (key sid : String) : Decidable (w.Owns key sid) := by
  unfold Owns; infer_instance

end World

/-- What completing a multipart upload with these parts makes: the size of the object, or
    nothing where a part is invalid. -/
abbrev Assembly : Type := List CompletedPart → Option Int64

/-- A call that is served.  `used`: a room that is not closed shows the media. -/
def perform (assembly : Assembly) (used : Bool) : (c : Call) → World → c.Answer × World
  | .createMediaUpload m u, w =>
      if m.id = w.media.id ∨ u.id = w.upload.id then (.error Repository.uniqueFailed, w)
      else (.ok (), w)
  | .uploadByID id, w =>
      if id = w.upload.id then (.ok (w.upload, w.media), w) else (.error .notFound, w)
  | .completeUpload id now, w =>
      if id = w.upload.id then (.ok (), w.completed now) else (.error noRows, w)
  | .failUpload id now, w =>
      if id = w.upload.id then (.ok (), w.failed now) else (.error noRows, w)
  | .staleUploads now, w =>
      if w.upload.status = .OPEN ∧ w.upload.expiresAtMs ≤ now then (.ok [(w.upload, w.media)], w)
      else (.ok [], w)
  | .mediaByID id, w =>
      if id = w.media.id ∧ w.deletedAtMs = none then (.ok w.media, w) else (.error .notFound, w)
  | .mediaInUse id, w => (.ok (decide (id = w.media.id) && used), w)
  | .softDeleteMedia id owner now, w =>
      if id = w.media.id ∧ owner = w.media.ownerUserID ∧ w.deletedAtMs = none ∧
          w.media.status ≠ .UPLOADING ∧ used = false then
        (.ok (), w.softDeleted now)
      else (.error .notFound, w)
  | .setMediaDeleteStatus id status now, w =>
      if id = w.media.id then (.ok (), w.withMediaStatus status now) else (.ok (), w)
  | .pendingMediaDeletes, w =>
      if w.deletedAtMs ≠ none ∧ (w.media.status = .DELETING ∨ w.media.status = .DELETE_FAILED) then
        (.ok [w.media], w)
      else (.ok [], w)
  | .audit .., w => (.ok (), w)
  | .presignPut key .., w => (.ok key, w)
  | .createMultipart key _, w => (.ok key, w)
  | .presignPart key .., w => (.ok key, w)
  | .completeMultipart key sid parts, w =>
      if w.Owns key sid ∧ w.multipart = .inProgress then
        match assembly parts with
        | some size => (.ok (), { w with object := some size, multipart := .completed })
        | none => (.error invalidPart, w)
      else (.error noSuchUpload, w)
  | .abortMultipart key sid, w =>
      if w.Owns key sid ∧ w.multipart = .inProgress then
        (.ok (), { w with multipart := .aborted })
      else (.error noSuchUpload, w)
  | .head key, w =>
      if key = w.media.objectKey then
        match w.object with
        | some size => (.ok size, w)
        | none => (.error noSuchKey, w)
      else (.error noSuchKey, w)
  | .delete key, w =>
      if key = w.media.objectKey then (.ok (), { w with object := none }) else (.ok (), w)

/-- What becomes of a call: it is served, it fails before it has an effect, or it has its
    effect and the answer is lost. -/
inductive Fate where
  | served
  | failed
  | lost
deriving DecidableEq, Repr

/-- A call with its fate. -/
def exec (assembly : Assembly) (used : Bool) (fate : Fate) (c : Call) (w : World) :
    c.Answer × World :=
  match fate with
  | .served => perform assembly used c w
  | .failed => (.error callFailed, w)
  | .lost => (.error callFailed, (perform assembly used c w).2)

end WatchTogether.Uploads

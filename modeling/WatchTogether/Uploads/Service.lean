/-
  WatchTogether.Uploads.Service

  The life of an upload: `internal/media/service.go`, the two handlers that delete a
  media, and the hourly sweep of `main.go`.  Each is a program over the calls it makes of
  the store and of the object store; a call that goes wrong is answered with its error.

  Times and lifetimes are in milliseconds.
-/

import WatchTogether.Lib.Program
import WatchTogether.Repository.Store

namespace WatchTogether.Uploads

open Rooms (StoreError)
open Repository (MediaStatus)

/-- `partSizeBytes`. -/
def partSizeBytes : Int64 := 32 * 1024 * 1024

/-- `multipartThreshold`. -/
def multipartThreshold : Int64 := 64 * 1024 * 1024

-- ============================================================================
-- Records
-- ============================================================================

/-- `media_uploads.mode`. -/
inductive UploadMode where
  | single
  | multipart
deriving DecidableEq, Repr

/-- `media_uploads.status`. -/
inductive UploadStatus where
  | OPEN
  | COMPLETED
  | ABORTED
deriving DecidableEq, Repr

/-- `model.Upload`. -/
structure Upload where
  id : String
  mediaID : String
  mode : UploadMode
  status : UploadStatus
  s3UploadID : Option String
  createdAtMs : Int64
  expiresAtMs : Int64
deriving DecidableEq

/-- `model.Media`, as far as an upload reads and writes it. -/
structure Media where
  id : String
  ownerUserID : String
  objectKey : String
  originalFilename : String
  mimeType : String
  status : MediaStatus
  sizeBytes : Int64
  createdAtMs : Int64
  updatedAtMs : Int64
deriving DecidableEq

/-- `s3store.CompletedPart`. -/
structure CompletedPart where
  partNumber : Int32
  etag : String
deriving DecidableEq

/-- `InitResult`: what the browser needs for its upload. -/
structure InitResult where
  mediaID : String
  uploadID : String
  mode : UploadMode
  partSizeBytes : Int64
  url : String
  expiresAtMs : Int64
deriving DecidableEq

/-- `media.Service`; its clock and its stores are the answers to calls. -/
structure Service where
  maxSize : Int64
  uploadTTL : Int64

/-- The errors of the service; `store` is the error of a call. -/
inductive MediaError where
  | invalidFilename
  | invalidMediaSize
  | contentType
  | forbidden
  | invalidUpload
  | invalidParts
  | invalidPartNumber
  | closedOrExpired
  | expectedParts (n : Int64)
  | invalidCompletedPart
  | duplicateCompletedPart
  | sizeMismatch (expected got : Int64)
  | completedCannotBeAborted
  | store (e : StoreError)
deriving DecidableEq

/-- `Error()`. -/
def MediaError.text : MediaError → String
  | invalidFilename => "invalid filename"
  | invalidMediaSize => "invalid media size"
  | contentType => "content type must be video/*"
  | forbidden => "FORBIDDEN"
  | invalidUpload => "invalid upload"
  | invalidParts => "invalid parts"
  | invalidPartNumber => "invalid part number"
  | closedOrExpired => "upload is closed or expired"
  | expectedParts n => "expected " ++ toString n ++ " parts"
  | invalidCompletedPart => "invalid completed part"
  | duplicateCompletedPart => "duplicate completed part"
  | sizeMismatch expected got =>
      "size mismatch: expected " ++ toString expected ++ " got " ++ toString got
  | completedCannotBeAborted => "completed upload cannot be aborted"
  | store .notFound => "not found"
  | store (.failed message) => message

-- ============================================================================
-- Calls
-- ============================================================================

/-- The calls of the store and of the object store. -/
inductive Call where
  | createMediaUpload (m : Media) (u : Upload)
  | uploadByID (id : String)
  | completeUpload (id : String) (now : Int64)
  | failUpload (id : String) (now : Int64)
  | staleUploads (now : Int64)
  | mediaByID (id : String)
  | mediaInUse (id : String)
  | softDeleteMedia (id owner : String) (now : Int64)
  | setMediaDeleteStatus (id : String) (status : MediaStatus) (now : Int64)
  | pendingMediaDeletes
  | audit (userID event id : String)
  | presignPut (key contentType : String) (ttl : Int64)
  | createMultipart (key contentType : String)
  | presignPart (key uploadID : String) (part : Int32) (ttl : Int64)
  | completeMultipart (key uploadID : String) (parts : List CompletedPart)
  | abortMultipart (key uploadID : String)
  | head (key : String)
  | delete (key : String)
deriving DecidableEq

/-- What a call returns; of `Head`, the size. -/
abbrev Call.Value : Call → Type
  | uploadByID _ => Upload × Media
  | staleUploads _ => List (Upload × Media)
  | mediaByID _ => Media
  | mediaInUse _ => Bool
  | pendingMediaDeletes => List Media
  | presignPut .. => String
  | createMultipart .. => String
  | presignPart .. => String
  | head _ => Int64
  | _ => Unit

/-- What a call answers with. -/
abbrev Call.Answer (c : Call) : Type := Except StoreError c.Value

/-- Code of the media service. -/
abbrev Code (α : Type) : Type := Program Call Call.Answer α

open Program

-- ============================================================================
-- `Init`
-- ============================================================================

/-- `unicode.IsSpace`. -/
def isSpace (c : Char) : Bool :=
  let n := c.toNat
  (9 ≤ n && n ≤ 13) || n = 0x20 || n = 0x85 || n = 0xA0 || n = 0x1680 ||
    (0x2000 ≤ n && n ≤ 0x200A) || n = 0x2028 || n = 0x2029 || n = 0x202F || n = 0x205F || n = 0x3000

/-- `unicode.IsControl`. -/
def isControl (c : Char) : Bool :=
  let n := c.toNat
  n < 0x20 || (0x7F ≤ n && n < 0xA0)

/-- `strings.TrimSpace`. -/
def trimSpace (s : List Char) : List Char :=
  ((s.dropWhile isSpace).reverse.dropWhile isSpace).reverse

/-- `cleanFilename`. -/
def cleanFilename (v : String) : List Char :=
  trimSpace (v.toList.filter (fun c => !(isControl c || c = '/' || c = '\\')))

/-- `unicode.ToLower`, on ASCII and on the one other letter whose lower case is a letter
    of `video/`. -/
def toLower (c : Char) : Char := if c.toNat = 0x130 then 'i' else c.toLower

/-- `strings.HasPrefix(strings.ToLower(contentType), "video/")`. -/
def isVideo (contentType : String) : Bool :=
  ['v', 'i', 'd', 'e', 'o', '/'].isPrefixOf (contentType.toList.map toLower)

/-- A day, the life of an open upload. -/
def uploadLifeMs : Int64 := 24 * 60 * 60 * 1000

/-- The row of `media` that `Init` writes. -/
def newMedia (owner filename contentType : String) (size : Int64) (mediaID : String)
    (now : Int64) : Media where
  id := mediaID
  ownerUserID := owner
  objectKey := "media/" ++ owner ++ "/" ++ mediaID ++ "/source"
  originalFilename := String.ofList (cleanFilename filename)
  mimeType := contentType
  status := .UPLOADING
  sizeBytes := size
  createdAtMs := now
  updatedAtMs := now

/-- The mode `Init` chooses. -/
def uploadMode (size : Int64) : UploadMode :=
  if multipartThreshold ≤ size then .multipart else .single

/-- The row of `media_uploads` that `Init` writes. -/
def newUpload (size : Int64) (mediaID uploadID : String) (s3UploadID : Option String)
    (now : Int64) : Upload where
  id := uploadID
  mediaID := mediaID
  mode := uploadMode size
  status := .OPEN
  s3UploadID := s3UploadID
  createdAtMs := now
  expiresAtMs := now + uploadLifeMs

/-- `Service.Init`, with the two UUIDs it draws and the reading of its clock. -/
def Service.init (s : Service) (owner filename contentType : String) (size : Int64)
    (mediaID uploadID : String) (now : Int64) : Code (Except MediaError InitResult) :=
  if cleanFilename filename = [] ∨ 255 < (cleanFilename filename).length then
    done (.error .invalidFilename)
  else if size ≤ 0 ∨ s.maxSize < size then done (.error .invalidMediaSize)
  else if isVideo contentType = false then done (.error .contentType)
  else
    let m := newMedia owner filename contentType size mediaID now
    if uploadMode size = .single then
      call (.presignPut m.objectKey contentType s.uploadTTL) fun
        | .error e => done (.error (.store e))
        | .ok url =>
            call (.createMediaUpload m (newUpload size mediaID uploadID none now)) fun
              | .error e => done (.error (.store e))
              | .ok _ => done (.ok ⟨mediaID, uploadID, .single, 0, url, now + s.uploadTTL⟩)
    else
      call (.createMultipart m.objectKey contentType) fun
        | .error e => done (.error (.store e))
        | .ok sid =>
            call (.createMediaUpload m (newUpload size mediaID uploadID (some sid) now)) fun
              | .error e =>
                  call (.abortMultipart m.objectKey sid) fun _ => done (.error (.store e))
              | .ok _ =>
                  done (.ok
                    ⟨mediaID, uploadID, .multipart, partSizeBytes, "", now + s.uploadTTL⟩)

-- ============================================================================
-- `PartURLs`
-- ============================================================================

/-- The loop of `PartURLs`. -/
def presignParts (s : Service) (key sid : String) :
    List Int32 → List (Int32 × String) → Code (Except MediaError (List (Int32 × String)))
  | [], out => done (.ok out)
  | p :: parts, out =>
      if p < 1 ∨ 10000 < p then done (.error .invalidPartNumber)
      else
        call (.presignPart key sid p s.uploadTTL) fun
          | .error e => done (.error (.store e))
          | .ok url => presignParts s key sid parts (out ++ [(p, url)])

/-- `Service.PartURLs`. -/
def Service.partURLs (s : Service) (owner uploadID : String) (parts : List Int32) :
    Code (Except MediaError (List (Int32 × String))) :=
  call (.uploadByID uploadID) fun
    | .error e => done (.error (.store e))
    | .ok (u, m) =>
        if m.ownerUserID ≠ owner then done (.error .forbidden)
        else if u.mode ≠ .multipart ∨ u.status ≠ .OPEN then done (.error .invalidUpload)
        else
          match u.s3UploadID with
          | none => done (.error .invalidUpload)
          | some sid =>
              if parts = [] ∨ 100 < parts.length then done (.error .invalidParts)
              else presignParts s m.objectKey sid parts []

-- ============================================================================
-- `Complete`
-- ============================================================================

/-- `expectedParts`, with the wrap-around of the sum. -/
def expectedParts (m : Media) : Int64 := (m.sizeBytes + partSizeBytes - 1) / partSizeBytes

/-- The loop over the parts of a completion: the first one that is refused. -/
def checkParts (expected : Int64) : List Int32 → List CompletedPart → Option MediaError
  | _, [] => none
  | seen, part :: parts =>
      if part.partNumber < 1 ∨ expected.toInt < part.partNumber.toInt ∨
          trimSpace part.etag.toList = [] then
        some .invalidCompletedPart
      else if part.partNumber ∈ seen then some .duplicateCompletedPart
      else checkParts expected (part.partNumber :: seen) parts

/-- `slices.SortFunc`; the comparator is a difference of 32 bits, which can wrap around. -/
def sortParts (parts : List CompletedPart) : List CompletedPart :=
  parts.mergeSort (fun a b => decide (a.partNumber - b.partNumber ≤ 0))

/-- The end of `Complete`: the size of the object decides. -/
def verifyObject (uploadID : String) (m : Media) (now : Int64) : Code (Except MediaError Unit) :=
  call (.head m.objectKey) fun
    | .error e => done (.error (.store e))
    | .ok size =>
        if size ≠ m.sizeBytes then
          call (.delete m.objectKey) fun _ =>
            call (.failUpload uploadID now) fun _ =>
              done (.error (.sizeMismatch m.sizeBytes size))
        else
          call (.completeUpload uploadID now) fun
            | .error e => done (.error (.store e))
            | .ok _ => done (.ok ())

/-- `Service.Complete`: `now` is the reading of the clock that decides on the expiry,
    `written` the one that goes into the row. -/
def complete (owner uploadID : String) (parts : List CompletedPart) (now written : Int64) :
    Code (Except MediaError Unit) :=
  call (.uploadByID uploadID) fun
    | .error e => done (.error (.store e))
    | .ok (u, m) =>
        if m.ownerUserID ≠ owner then done (.error .forbidden)
        else if u.status = .COMPLETED ∧ m.status = .READY then done (.ok ())
        else if u.status ≠ .OPEN ∨ u.expiresAtMs ≤ now then done (.error .closedOrExpired)
        else if u.mode = .multipart then
          match u.s3UploadID with
          | none => done (.error .invalidUpload)
          | some sid =>
              if (parts.length : Int) ≠ (expectedParts m).toInt then
                done (.error (.expectedParts (expectedParts m)))
              else
                match checkParts (expectedParts m) [] parts with
                | some e => done (.error e)
                | none =>
                    call (.completeMultipart m.objectKey sid (sortParts parts)) fun
                      | .error e => done (.error (.store e))
                      | .ok _ => verifyObject uploadID m written
        else verifyObject uploadID m written

-- ============================================================================
-- `Abort`
-- ============================================================================

/-- The end of `Abort`. -/
def dropObject (uploadID : String) (m : Media) (now : Int64) : Code (Except MediaError Unit) :=
  call (.delete m.objectKey) fun
    | .error e => done (.error (.store e))
    | .ok _ =>
        call (.failUpload uploadID now) fun
          | .error e => done (.error (.store e))
          | .ok _ => done (.ok ())

/-- `Service.Abort`. -/
def abort (owner uploadID : String) (now : Int64) : Code (Except MediaError Unit) :=
  call (.uploadByID uploadID) fun
    | .error e => done (.error (.store e))
    | .ok (u, m) =>
        if m.ownerUserID ≠ owner then done (.error .forbidden)
        else if u.status = .COMPLETED ∨ m.status = .READY then
          done (.error .completedCannotBeAborted)
        else if u.status = .ABORTED then done (.ok ())
        else
          match u.s3UploadID with
          | some sid =>
              call (.abortMultipart m.objectKey sid) fun
                | .error e => done (.error (.store e))
                | .ok _ => dropObject uploadID m now
          | none => dropObject uploadID m now

-- ============================================================================
-- Deletion
-- ============================================================================

/-- What a handler answers: the status and, of an error, its code and message. -/
structure Response where
  status : Nat
  code : String
  message : String
deriving DecidableEq

/-- The request has been served. -/
def Response.ok : Response := ⟨200, "", ""⟩

/-- The object of a soft-deleted media is deleted, and the outcome is noted. -/
def deleteObject (mediaID : String) (m : Media) (now : Int64) (failure : Response) :
    Code Response :=
  call (.delete m.objectKey) fun
    | .error _ =>
        call (.setMediaDeleteStatus mediaID .DELETE_FAILED now) fun _ => done failure
    | .ok _ => call (.setMediaDeleteStatus mediaID .DELETED now) fun _ => done .ok

/-- `Server.deleteMedia`, for the user `userID`. -/
def deleteMedia (userID mediaID : String) (now written : Int64) : Code Response :=
  call (.mediaByID mediaID) fun
    | .error _ => done ⟨404, "MEDIA_NOT_FOUND", "Media not found."⟩
    | .ok m =>
        if m.ownerUserID ≠ userID then done ⟨404, "MEDIA_NOT_FOUND", "Media not found."⟩
        else
          call (.mediaInUse mediaID) fun used =>
            if used ≠ .ok false ∨ m.status = .UPLOADING then
              done ⟨409, "MEDIA_IN_USE", "Media is used by an open room."⟩
            else
              call (.softDeleteMedia mediaID userID now) fun
                | .error _ => done ⟨500, "INTERNAL_ERROR", "Unable to delete media."⟩
                | .ok _ =>
                    deleteObject mediaID m written
                      ⟨502, "MEDIA_DELETE_FAILED", "Object storage delete failed."⟩

/-- `Server.adminError`, for the errors of the calls below. -/
def adminError : StoreError → Response
  | .notFound => ⟨404, "NOT_FOUND", "资源不存在。"⟩
  | .failed _ => ⟨500, "INTERNAL_ERROR", "操作失败，请稍后重试。"⟩

/-- `Server.adminDeleteMedia`, for the administrator `adminID`. -/
def adminDeleteMedia (adminID mediaID : String) (now written : Int64) : Code Response :=
  call (.mediaByID mediaID) fun
    | .error e => done (adminError e)
    | .ok m =>
        if m.status = .UPLOADING then
          done ⟨409, "UPLOAD_IN_PROGRESS", "影片仍在上传，请等待上传结束或取消上传。"⟩
        else
          call (.mediaInUse mediaID) fun
            | .error e => done (adminError e)
            | .ok true =>
                done ⟨409, "MEDIA_IN_USE", "影片正在房间中使用，请先关闭关联房间或切换影片。"⟩
            | .ok false =>
                call (.softDeleteMedia mediaID m.ownerUserID now) fun
                  | .error e => done (adminError e)
                  | .ok _ =>
                      call (.audit adminID "admin.media.delete" mediaID) fun _ =>
                        deleteObject mediaID m written
                          ⟨502, "MEDIA_DELETE_FAILED",
                            "影片已移出片库，对象存储清理失败，系统将定期重试。"⟩

-- ============================================================================
-- The sweep
-- ============================================================================

/-- The loop over `PendingMediaDeletes`. -/
def sweepDeletes (now : Int64) : List Media → Code Unit
  | [] => done ()
  | m :: rest =>
      call (.delete m.objectKey) fun
        | .error _ =>
            call (.setMediaDeleteStatus m.id .DELETE_FAILED now) fun _ => sweepDeletes now rest
        | .ok _ => call (.setMediaDeleteStatus m.id .DELETED now) fun _ => sweepDeletes now rest

/-- The second half of a sweep. -/
def sweepPending (now : Int64) : Code Unit :=
  call .pendingMediaDeletes fun
    | .error _ => done ()
    | .ok deletes => sweepDeletes now deletes

/-- The loop over `StaleUploads`.  The results of `AbortMultipart` and `Delete` are
    discarded. -/
def sweepUploads (now : Int64) : List (Upload × Media) → Code Unit
  | [] => sweepPending now
  | (u, m) :: rest =>
      let drop : Code Unit :=
        call (.delete m.objectKey) fun _ =>
          call (.failUpload u.id now) fun _ => sweepUploads now rest
      match u.s3UploadID with
      | some sid => call (.abortMultipart m.objectKey sid) fun _ => drop
      | none => drop

/-- One tick of `maintenance`, at the time `now` of the ticker; `Store.Cleanup`, which comes
    first, touches neither uploads nor media. -/
def maintenance (now : Int64) : Code Unit :=
  call (.staleUploads now) fun
    | .error _ => sweepPending now
    | .ok stale => sweepUploads now stale

end WatchTogether.Uploads

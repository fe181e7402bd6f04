/-
  WatchTogether.Web.Upload

  `uploadMedia` (`web/src/api/upload.ts`), as a program over what it asks of the browser:
  requests to the service, PUTs to the object store, its progress callback and its abort
  signal.  Everything it awaits may throw, and the answers of the service are not trusted.

  The answers decide where the code stops; what it has sent until then follows a protocol,
  which is proved call by call as a contract over the exchanges so far.
-/

import WatchTogether.Lib.CallLog
import WatchTogether.Lib.Double
import WatchTogether.Uploads.Limits

namespace WatchTogether.Web.Upload

open Program Uploads

-- ============================================================================
-- What the code is given
-- ============================================================================

/-- Something thrown. -/
structure JSError where
  name : String
  message : String
deriving DecidableEq

/-- `new Error(message)`. -/
def newError (message : String) : JSError := ⟨"Error", message⟩

/-- The size of a `File` is a safe integer. -/
structure File where
  name : String
  type : String
  size : Nat
  safe : size < 2 ^ 53

/-- `UploadInit`; a field that is not there is `undefined`. -/
structure UploadInit where
  uploadId : Option String
  mode : Option String
  partSizeBytes : Option ℚ
  url : Option String

/-- `Part`; a `partNumber` that is no number is none. -/
structure Part where
  partNumber : Option ℚ
  url : Option String
deriving DecidableEq

/-- What a PUT answers with. -/
structure Response where
  ok : Bool
  status : Nat
  etag : Option String
deriving DecidableEq

/-- An element of `parts`. -/
structure SentPart where
  partNumber : ℚ
  etag : String
deriving DecidableEq

/-- What a PUT sends: the file, or `file.slice(start, stop)`. -/
inductive Body where
  | file
  | slice (start stop : ℚ)
deriving DecidableEq

/-- A string that is not `undefined` and not empty. -/
def truthy (s : Option String) : Option String := s.filter (fun x => decide (x ≠ ""))

-- ============================================================================
-- What the code asks of the browser
-- ============================================================================

/-- What `uploadMedia` asks of the browser. -/
inductive Call where
  /-- `progress(text)`. -/
  | progress (text : String)
  /-- POST `/api/v1/media/uploads`. -/
  | init (filename : String) (sizeBytes : Nat) (contentType : String)
  /-- POST `…/parts`. -/
  | sign (uploadId : String) (partNumbers : List Nat)
  /-- `fetch(url, { method: "PUT" })`. -/
  | put (url : String) (body : Body) (contentType : Option String)
  /-- `signal.throwIfAborted()`. -/
  | throwIfAborted
  /-- POST `…/complete`. -/
  | complete (uploadId : String) (parts : List SentPart)
  /-- The DELETE of the upload. -/
  | abort (uploadId : String)
  /-- `signal.aborted`. -/
  | aborted
deriving DecidableEq

/-- The list in the answer to `sign` is none if it cannot be iterated. -/
def Call.Answer : Call → Type
  | .progress _ | .throwIfAborted | .complete .. | .abort _ => Except JSError Unit
  | .init .. => Except JSError UploadInit
  | .sign .. => Except JSError (Option (List Part))
  | .put .. => Except JSError Response
  | .aborted => Bool

/-- Code that makes these calls, and may throw. -/
abbrev Code (α : Type) : Type := Program Call Call.Answer (Except JSError α)

/-- An exception skips the rest. -/
def andThen {α β : Type} (p : Code α) (f : α → Code β) : Code β :=
  p.bind (fun
    | .error e => done (.error e)
    | .ok a => f a)

/-- `throw new Error(message)`. -/
def throw {α : Type} (message : String) : Code α := done (.error (newError message))

/-- One call that may throw. -/
def progress (text : String) : Code Unit := call (.progress text) done

/-- The code goes on unless the upload is cancelled. -/
def throwIfAborted : Code Unit := call .throwIfAborted done

-- ============================================================================
-- `uploadMedia`
-- ============================================================================

/-- `file.type || "video/mp4"`. -/
def contentType (file : File) : String := if file.type = "" then "video/mp4" else file.type

/-- `put`. -/
def put (url : String) (body : Body) (contentType : Option String) : Code Response :=
  andThen (call (.put url body contentType) done) (fun response =>
    if response.ok = false then
      throw ("OSS 上传失败 (" ++ toString response.status ++ ")，请检查签名、权限和跨域配置")
    else done (.ok response))

/-- `Number.isSafeInteger`. -/
def isSafeInteger (x : ℚ) : Bool := decide (x.den = 1 ∧ x.num.natAbs < 2 ^ 53)

/-- `Math.ceil(file.size / size)`, in doubles. -/
def partTotal (file : File) (size : ℚ) : Int := ⌈Double.round (file.size / size)⌉

/-- `file.slice((n - 1) * size, Math.min(file.size, n * size))`, in doubles. -/
def slice (file : File) (size n : ℚ) : Body :=
  .slice (Double.round (Double.round (n - 1) * size)) (min (file.size : ℚ) (Double.round (n * size)))

/-- The comparison of the sort; a difference that is no number counts as none. -/
def precedes (a b : Part) : Bool :=
  match a.partNumber, b.partNumber with
  | some x, some y => decide (x ≤ y)
  | _, _ => true

/-- The sorted answer lists the batch, each part with a URL. -/
def lists (batch : List Nat) (ordered : List Part) : Bool :=
  decide (ordered.length = batch.length) &&
    (ordered.zip batch).all (fun x =>
      decide (x.1.partNumber = some (x.2 : ℚ)) && (truthy x.1.url).isSome)

/-- The PUTs of one batch; its check has left no part without number or URL. -/
def putParts (file : File) (size : ℚ) (count : Int) :
    List Part → List SentPart → Code (List SentPart)
  | [], parts => done (.ok parts)
  | p :: rest, parts =>
      andThen (progress ("上传分片 " ++ toString (parts.length + 1) ++ "/" ++ toString count ++
          "（已完成 " ++ toString parts.length ++ "）")) (fun _ =>
        andThen (put (p.url.getD "") (slice file size (p.partNumber.getD 0)) none) (fun response =>
          match truthy response.etag with
          | none => throw "对象存储 CORS 未暴露 ETag 响应头，请配置 ExposeHeaders: ETag"
          | some etag => putParts file size count rest (parts ++ [⟨p.partNumber.getD 0, etag⟩])))

/-- The loop over the batches. -/
def putBatches (file : File) (uploadId : String) (size : ℚ) (count : Int) :
    List (List Nat) → List SentPart → Code (List SentPart)
  | [], parts => done (.ok parts)
  | batch :: rest, parts =>
      andThen (call (.sign uploadId batch) done) (fun
        | none => done (.error ⟨"TypeError", "signed.parts is not iterable"⟩)
        | some signed =>
            let ordered := signed.mergeSort precedes
            if lists batch ordered = false then throw "上传服务返回的分片列表缺失或重复，已停止上传"
            else
              andThen (putParts file size count ordered parts) (fun parts =>
                putBatches file uploadId size count rest parts))

/-- The one PUT of a small file. -/
def putSingle (file : File) (init : UploadInit) : Code (List SentPart) :=
  match truthy init.url with
  | none => throw "上传服务未返回上传地址"
  | some url =>
      andThen (progress "正在直传对象存储…") (fun _ =>
        andThen (put url .file (some (contentType file))) (fun _ => done (.ok [])))

/-- The PUTs of a large file, batch by batch. -/
def putMultipart (file : File) (uploadId : String) (init : UploadInit) : Code (List SentPart) :=
  let size := init.partSizeBytes.getD 0
  if isSafeInteger size = false ∨ size ≤ 0 then throw "上传服务返回了无效的分片大小"
  else
    let count := partTotal file size
    if 10000 < count then throw "影片分片数量超过上限"
    else putBatches file uploadId size count (batches count.toNat) []

/-- From the upload id to the last check before the completion. -/
def transfer (file : File) (uploadId : String) (init : UploadInit) : Code (List SentPart) :=
  andThen
    (if init.mode = some "single" then putSingle file init
    else if init.mode = some "multipart" then putMultipart file uploadId init
    else throw "上传服务返回了无效的上传模式") (fun parts =>
      andThen throwIfAborted (fun _ =>
        andThen (progress "分片传输完成，正在合并并校验媒体…") (fun _ => done (.ok parts))))

/-- From `completing = true` on. -/
def finish (uploadId : String) (parts : List SentPart) : Code Unit :=
  andThen (call (.complete uploadId parts) done) (fun _ => progress "上传完成")

/-- What the `catch` throws. -/
def report (completing : Bool) (error : JSError) : Code Unit :=
  call .aborted (fun (aborted : Bool) =>
    let detail :=
      if aborted then "上传已取消"
      else if error.name = "TimeoutError" then "上传请求超时，请检查网络与 OSS 健康状态"
      else error.message
    throw (if completing then detail ++ "；合并结果未确认，请刷新影片列表确认状态，勿重复上传" else detail))

/-- The `catch`: an upload that is there and not being completed is deleted. -/
def failed (uploadId : Option String) (completing : Bool) (error : JSError) : Code Unit :=
  match uploadId with
  | none => report completing error
  | some id =>
      if completing then report completing error
      else call (.abort id) (fun _ => report completing error)

/-- `uploadMedia`, once `init` is answered. -/
def proceed (file : File) (init : UploadInit) : Code Unit :=
  match truthy init.uploadId with
  | none => failed none false (newError "上传服务返回了无效的上传编号")
  | some uploadId =>
      (transfer file uploadId init).bind (fun
        | .error e => failed (some uploadId) false e
        | .ok parts =>
            (finish uploadId parts).bind (fun
              | .error e => failed (some uploadId) true e
              | .ok _ => done (.ok ())))

/-- `uploadMedia`. -/
def uploadMedia (file : File) : Code Unit :=
  (progress "正在申请上传…").bind (fun
    | .error e => failed none false e
    | .ok _ =>
        call (.init file.name file.size (contentType file)) (fun
          | .error e => failed none false e
          | .ok init => proceed file init))

-- ============================================================================
-- The ranges of the parts
-- ============================================================================

/-- The first byte of part `i + 1`, and the first after it. -/
def partStart (P i : Nat) : Nat := i * P

/-- Where a part ends. -/
def partStop (S P i : Nat) : Nat := min S ((i + 1) * P)

/-- The bytes of a part. -/
def partRange (S P i : Nat) : Body := .slice (partStart P i) (partStop S P i)

/-- The size of the parts covers the file, and one part less does not. -/
theorem partCount_spec {S P : Nat} (hP : 0 < P) :
    S ≤ partCount S P * P ∧ ∀ i < partCount S P, i * P < S := by
  have hlow : partCount S P * P ≤ S + P - 1 := Nat.div_mul_le_self _ _
  have hhigh : S + P - 1 < (partCount S P + 1) * P :=
    Nat.lt_mul_of_div_lt (Nat.lt_succ_self _) hP
  rw [Nat.succ_mul] at hhigh
  refine ⟨by omega, ?_⟩
  intro i hi
  have hmul := Nat.mul_le_mul_right P (show i + 1 ≤ partCount S P by omega)
  rw [Nat.succ_mul] at hmul
  omega

/-- Each part has bytes. -/
theorem partStart_lt_partStop {S P i : Nat} (hP : 0 < P) (hi : i < partCount S P) :
    partStart P i < partStop S P i := by
  have hstart := (partCount_spec (S := S) hP).2 i hi
  rw [partStart, partStop, lt_min_iff, Nat.succ_mul]
  omega

/-- **Partition.**  Every byte of the file is in exactly one part. -/
theorem exists_unique_part {S P b : Nat} (hP : 0 < P) (hb : b < S) :
    ∃! i, i < partCount S P ∧ partStart P i ≤ b ∧ b < partStop S P i := by
  obtain ⟨hcover, -⟩ := partCount_spec (S := S) hP
  have hlow : b / P * P ≤ b := Nat.div_mul_le_self _ _
  have hhigh : b < (b / P + 1) * P := Nat.lt_mul_of_div_lt (Nat.lt_succ_self _) hP
  refine ⟨b / P, ⟨?_, hlow, lt_min hb hhigh⟩, ?_⟩
  · by_contra hmore
    have hmul := Nat.mul_le_mul_right P (not_lt.mp hmore)
    omega
  · rintro i ⟨-, hstart, hstop⟩
    have hnext : b < (i + 1) * P := (lt_min_iff.mp hstop).2
    have hle : i ≤ b / P := (Nat.le_div_iff_mul_le hP).mpr hstart
    have hlt : b / P < i + 1 := (Nat.div_lt_iff_lt_mul hP).mpr hnext
    omega

/-- The browser counts the parts in doubles, and counts them right. -/
theorem partTotal_eq (file : File) {P : Nat} (hP : 0 < P) :
    partTotal file P = partCount file.size P :=
  Double.ceil_round_div file.safe hP

/-- The slice of part `i + 1` is computed in doubles, and is exact; only the end of the last
    part may be rounded, and that is beyond the end of the file. -/
theorem slice_eq (file : File) {P i : Nat} (hP : 0 < P) (hi : i < partCount file.size P) :
    slice file P ((i + 1 : Nat) : ℚ) = partRange file.size P i := by
  have hsafe := file.safe
  have hstart : i * P < file.size := (partCount_spec hP).2 i hi
  have hi53 : i < 2 ^ 53 := by
    have hle : i * 1 ≤ i * P := Nat.mul_le_mul_left i hP
    omega
  have hfirst : Double.round (Double.round (((i + 1 : Nat) : ℚ) - 1) * P) = partStart P i := by
    have hpred : ((i + 1 : Nat) : ℚ) - 1 = (i : Nat) := by push_cast; ring
    have hprod : ((i : Nat) : ℚ) * P = ((i * P : Nat) : ℚ) := by push_cast; rfl
    rw [hpred, Double.round_natCast hi53, hprod, Double.round_natCast (by omega), partStart]
  have hlast : min (file.size : ℚ) (Double.round (((i + 1 : Nat) : ℚ) * P))
      = partStop file.size P i := by
    have hprod : ((i + 1 : Nat) : ℚ) * P = (((i + 1) * P : Nat) : ℚ) := by push_cast; rfl
    rw [hprod, partStop]
    rcases Nat.lt_or_ge ((i + 1) * P) file.size with hlt | hge
    · rw [Double.round_natCast (by omega), Nat.cast_min]
    · have hpos : (0 : ℚ) < (((i + 1) * P : Nat) : ℚ) := by
        exact_mod_cast Nat.mul_pos (Nat.succ_pos i) hP
      have hround : (file.size : ℚ) ≤ Double.round (((i + 1) * P : Nat) : ℚ) :=
        Double.le_round file.safe hpos (by exact_mod_cast hge)
      rw [min_eq_left hround, min_eq_left hge]
  rw [slice, hfirst, hlast, partRange]

-- ============================================================================
-- The batches
-- ============================================================================

/-- From part `k + 1` on, the batches list every part up to `n`, in order. -/
def Covers : Nat → List (List Nat) → Nat → Prop
  | k, [], n => k = n
  | k, batch :: rest, n =>
      batch = List.range' (k + 1) batch.length ∧ Covers (k + batch.length) rest n

/-- The induction is on the batches that are left, from the batch `j` on. -/
theorem covers_from (n m : Nat) : ∀ j, j + m = (n + 9) / 10 →
    Covers (min (10 * j) n) ((List.range' j m).map (fun j =>
      (List.range (min 10 (n - 10 * j))).map (fun i => 10 * j + i + 1))) n := by
  induction m with
  | zero =>
      intro j hj
      have hall : min (10 * j) n = n := by omega
      exact hall
  | succ m ih =>
      intro j hj
      have hfirst : min (10 * j) n = 10 * j := by omega
      rw [List.range'_succ, List.map_cons, hfirst]
      refine ⟨?_, ?_⟩
      · rw [List.length_map, List.length_range, List.range'_eq_map_range]
        refine List.map_congr_left (fun i _ => ?_)
        omega
      · have hnext : 10 * j + min 10 (n - 10 * j) = min (10 * (j + 1)) n := by omega
        rw [List.length_map, List.length_range, hnext]
        exact ih (j + 1) (by omega)

theorem covers_batches (n : Nat) : Covers 0 (batches n) n := by
  have hfrom := covers_from n ((n + 9) / 10) 0 (Nat.zero_add _)
  rw [Nat.mul_zero, Nat.zero_min, ← List.range_eq_range'] at hfrom
  exact hfrom

/-- A batch does not reach beyond the last part. -/
theorem Covers.le {k : Nat} {bs : List (List Nat)} {n : Nat} (h : Covers k bs n) : k ≤ n := by
  induction bs generalizing k with
  | nil => exact Nat.le_of_eq h
  | cons batch rest ih => exact Nat.le_trans (Nat.le_add_right _ _) (ih h.2)

end WatchTogether.Web.Upload

/-
  WatchTogether.Uploads.Limits

  The limits an upload meets on its way: the configured maximum size, the part size of
  the service, the part numbers that client and server allow, and the length of a request
  body.  A body that lists one part too many is refused after everything is uploaded.
-/

import WatchTogether.Lib.JsonText
import WatchTogether.Uploads.Service

namespace WatchTogether.Uploads

open Program

-- ============================================================================
-- The configured maximum
-- ============================================================================

/-- `config.env`: an unset or blank variable has the fallback. -/
def env (getenv : String → String) (key fallback : String) : List Char :=
  if trimSpace (getenv key).toList ≠ [] then trimSpace (getenv key).toList else fallback.toList

/-- The number that decimal digits stand for. -/
def parseDigits (s : List Char) : Option Nat :=
  if s ≠ [] ∧ s.all Char.isDigit = true then some (Nat.ofDigitChars 10 s 0) else none

/-- `strconv.ParseInt(s, 10, 64)`; out of range is an error. -/
def parseInt : List Char → Option Int64
  | '-' :: s => (parseDigits s).bind (fun n => if n ≤ 2 ^ 63 then some (Int64.ofInt (-n)) else none)
  | '+' :: s => (parseDigits s).bind (fun n => if n < 2 ^ 63 then some (Int64.ofNat n) else none)
  | s => (parseDigits s).bind (fun n => if n < 2 ^ 63 then some (Int64.ofNat n) else none)

/-- `config.integer64`. -/
def integer64 (getenv : String → String) (key : String) (fallback : Int64) : Int64 :=
  (parseInt (env getenv key (toString fallback))).getD fallback

/-- `Config.MaxMediaSize`; no check of `Load` looks at it. -/
def maxMediaSize (getenv : String → String) : Int64 :=
  integer64 getenv "MAX_MEDIA_SIZE_BYTES" (20 * 1024 * 1024 * 1024)

-- ============================================================================
-- The browser's side of a multipart upload
-- ============================================================================

/-- Where an upload fails. -/
inductive UploadFailure where
  | invalidPartSize
  | tooManyParts
  | partsRefused (e : MediaError)
  | partsMismatch
  | invalidRequest
  | completeRefused (e : MediaError)
deriving DecidableEq

/-- `Math.ceil(file.size / size)`. -/
def partCount (size partSize : Nat) : Nat := (size + partSize - 1) / partSize

/-- The part numbers of the batches, ten at a time. -/
def batches (count : Nat) : List (List Nat) :=
  (List.range ((count + 9) / 10)).map (fun j =>
    (List.range (min 10 (count - 10 * j))).map (fun i => 10 * j + i + 1))

/-- The URLs of every batch are requested, and checked against the batch. -/
def requestParts (answers : (c : Call) → c.Answer) (s : Service) (owner uploadID : String) :
    List (List Nat) → Except UploadFailure Unit
  | [] => .ok ()
  | batch :: rest =>
      match (s.partURLs owner uploadID (batch.map Int32.ofNat)).answered answers with
      | .error e => .error (.partsRefused e)
      | .ok urls =>
          if urls.map Prod.fst = batch.map Int32.ofNat ∧ urls.all (fun p => p.2 ≠ "") = true then
            requestParts answers s owner uploadID rest
          else .error .partsMismatch

/-- The entry of part `n` in the request. -/
def partText (etag : Nat → String) (n : Nat) : List Char :=
  JsonText.object [("partNumber", JsonText.number n), ("etag", JsonText.string (etag n).toList)]

/-- `json({ parts })`. -/
def completeBody (etag : Nat → String) (count : Nat) : List Char :=
  JsonText.object
    [("parts", JsonText.array ((List.range count).map (fun i => partText etag (i + 1))))]

/-- What `decode` reads of a request body. -/
def maxBodyBytes : Nat := 64 * 1024

/-- The decoded parts. -/
def sentParts (etag : Nat → String) (count : Nat) : List CompletedPart :=
  (List.range count).map (fun i => ⟨Int32.ofNat (i + 1), etag (i + 1)⟩)

/-- The multipart branch of `uploadMedia`, together with what the server makes of its
    requests: the file has `size` bytes, the object store answers the upload of part `n`
    with the ETag `etag n`, and the handler of the last request decodes it if it fits. -/
def uploadMedia (answers : (c : Call) → c.Answer) (s : Service) (owner : String)
    (init : InitResult) (size : Nat) (etag : Nat → String) (now written : Int64) :
    Except UploadFailure Unit :=
  let partSize := init.partSizeBytes.toInt.toNat
  if partSize = 0 ∨ 2 ^ 53 ≤ partSize then .error .invalidPartSize
  else
    let count := partCount size partSize
    if 10000 < count then .error .tooManyParts
    else
      match requestParts answers s owner init.uploadID (batches count) with
      | .error e => .error e
      | .ok _ =>
          if maxBodyBytes < JsonText.bytes (completeBody etag count) then .error .invalidRequest
          else
            match (complete owner init.uploadID (sentParts etag count) now written).answered
                answers with
            | .error e => .error (.completeRefused e)
            | .ok _ => .ok ()

-- ============================================================================
-- The length of the request
-- ============================================================================

/-- An ETag that is a quoted 32-digit hash. -/
def IsQuotedHash (etag : String) : Prop :=
  ∃ digits : List Char, digits.length = 32 ∧ (∀ c ∈ digits, c ∈ JsonText.hexDigits) ∧
    etag.toList = '"' :: digits ++ ['"']

theorem hexDigit_plain {c : Char} (h : c ∈ JsonText.hexDigits) :
    JsonText.escape c = [c] ∧ c.utf8Size = 1 := by
  have hall : JsonText.hexDigits.all
      (fun d => decide (JsonText.escape d = [d] ∧ d.utf8Size = 1)) = true := by decide
  exact of_decide_eq_true (List.all_eq_true.mp hall c h)

theorem bytes_string_quotedHash {etag : String} (h : IsQuotedHash etag) :
    JsonText.bytes (JsonText.string etag.toList) = 38 := by
  obtain ⟨digits, hlen, hhex, hetag⟩ := h
  have hescape : digits.flatMap JsonText.escape = digits :=
    JsonText.flatMap_escape_of_plain (fun c hc => (hexDigit_plain (hhex c hc)).1)
  have hbytes : JsonText.bytes digits = 32 := by
    rw [JsonText.bytes_of_ascii (fun c hc => (hexDigit_plain (hhex c hc)).2), hlen]
  have hquote : JsonText.bytes (JsonText.escape '"') = 2 := by decide
  have hmark : Char.utf8Size '"' = 1 := by decide
  rw [hetag, JsonText.string]
  simp only [List.cons_append, List.flatMap_cons, List.flatMap_append, List.flatMap_nil,
    List.append_nil, JsonText.bytes_cons, JsonText.bytes_append, JsonText.bytes_nil, hescape,
    hbytes, hquote, hmark]

/-- `{"partNumber":n,"etag":"\"…\""}` takes 61 bytes and the digits of `n`. -/
theorem bytes_partText {etag : Nat → String} (h : ∀ n, IsQuotedHash (etag n)) (n : Nat) :
    JsonText.bytes (partText etag n) = 61 + (Nat.toDigits 10 n).length := by
  have hnumber : JsonText.bytes (JsonText.string "partNumber".toList) = 12 := by decide
  have hetag : JsonText.bytes (JsonText.string "etag".toList) = 6 := by decide
  have hhash := bytes_string_quotedHash (h n)
  have hopen : Char.utf8Size (Char.ofNat 123) = 1 := by decide
  have hclose : JsonText.bytes [Char.ofNat 125] = 1 := by decide
  have hcolon : Char.utf8Size ':' = 1 := by decide
  rw [partText, JsonText.object, JsonText.bytes_append, JsonText.bytes_cons,
    JsonText.bytes_commas]
  simp only [List.map_cons, List.map_nil, List.sum_cons, List.sum_nil, List.length_cons,
    List.length_nil, JsonText.bytes_append, JsonText.bytes_cons, JsonText.bytes_number, hnumber,
    hetag, hhash, hopen, hclose, hcolon]
  omega

/-- The digits of `1`, …, `count`. -/
def digitsUpTo (count : Nat) : Nat :=
  ((List.range count).map (fun i => (Nat.toDigits 10 (i + 1)).length)).sum

theorem digitsUpTo_succ (count : Nat) :
    digitsUpTo (count + 1) = digitsUpTo count + (Nat.toDigits 10 (count + 1)).length := by
  simp [digitsUpTo, List.range_succ]

/-- The digits do not get fewer. -/
theorem digitsUpTo_mono {m n : Nat} (h : m ≤ n) : digitsUpTo m ≤ digitsUpTo n := by
  induction n with
  | zero =>
      have hm : m = 0 := by omega
      rw [hm]
  | succ n ih =>
      rcases Nat.lt_or_ge n m with hlt | hle
      · have hm : m = n + 1 := by omega
        rw [hm]
      · have hn := ih hle
        rw [digitsUpTo_succ]
        omega

/-- The request of `count` parts takes `11 + 62 * count` bytes and the digits. -/
theorem bytes_completeBody {etag : Nat → String} (h : ∀ n, IsQuotedHash (etag n)) {count : Nat}
    (hcount : 0 < count) :
    JsonText.bytes (completeBody etag count) = 11 + 62 * count + digitsUpTo count := by
  have hparts : JsonText.bytes (JsonText.string "parts".toList) = 7 := by decide
  have hopen : Char.utf8Size (Char.ofNat 123) = 1 := by decide
  have hclose : JsonText.bytes [Char.ofNat 125] = 1 := by decide
  have hcolon : Char.utf8Size ':' = 1 := by decide
  have hsum : ∀ n, (((List.range n).map (fun i => partText etag (i + 1))).map JsonText.bytes).sum
      = 61 * n + digitsUpTo n := by
    intro n
    induction n with
    | zero => rfl
    | succ n ih =>
        rw [List.range_succ, List.map_append, List.map_append, List.sum_append, ih,
          digitsUpTo_succ]
        simp only [List.map_cons, List.map_nil, List.sum_cons, List.sum_nil, bytes_partText h]
        omega
  rw [completeBody, JsonText.object, JsonText.bytes_append, JsonText.bytes_cons,
    JsonText.bytes_commas]
  simp only [List.map_cons, List.map_nil, List.sum_cons, List.sum_nil, List.length_cons,
    List.length_nil, JsonText.bytes_append, JsonText.bytes_cons, JsonText.bytes_array, hparts,
    hopen, hclose, hcolon, hsum, List.length_map, List.length_range]
  omega

/-- The request fits up to 1009 parts. -/
theorem completeBody_fits_iff {etag : Nat → String} (h : ∀ n, IsQuotedHash (etag n))
    {count : Nat} (hcount : 0 < count) :
    JsonText.bytes (completeBody etag count) ≤ maxBodyBytes ↔ count ≤ 1009 := by
  rw [bytes_completeBody h hcount, maxBodyBytes]
  have h1009 : digitsUpTo 1009 = 2929 := by decide +kernel
  constructor
  · intro hfits
    by_contra hmore
    have hdigits : digitsUpTo 1009 ≤ digitsUpTo count := digitsUpTo_mono (by omega)
    omega
  · intro hle
    have hdigits : digitsUpTo count ≤ digitsUpTo 1009 := digitsUpTo_mono hle
    omega

-- ============================================================================
-- The server's checks
-- ============================================================================

/-- The services are up, and know the upload `u` of the media `m`. -/
structure Healthy (answers : (c : Call) → c.Answer) (u : Upload) (m : Media) : Prop where
  uploadByID : ∀ id, answers (.uploadByID id) = .ok (u, m)
  presignPart : ∀ key sid part ttl, ∃ url, answers (.presignPart key sid part ttl) = .ok url ∧
    url ≠ ""
  completeMultipart : ∀ key sid parts, answers (.completeMultipart key sid parts) = .ok ()
  head : ∀ key, answers (.head key) = .ok m.sizeBytes
  completeUpload : ∀ id now, answers (.completeUpload id now) = .ok ()

/-- An accepted multipart `Init`. -/
theorem init_multipart {s : Service} {owner filename contentType mediaID uploadID : String}
    {size now : Int64} {init : InitResult}
    (h : (s.init owner filename contentType size mediaID uploadID now).MayReturn (.ok init))
    (hmode : init.mode = .multipart) :
    0 < size ∧ size ≤ s.maxSize ∧ uploadMode size = .multipart ∧
      init.partSizeBytes = partSizeBytes ∧ init.uploadID = uploadID := by
  rw [Service.init] at h
  split at h
  · exact absurd h (by simp [MayReturn])
  split at h
  · exact absurd h (by simp [MayReturn])
  rename_i hsize
  obtain ⟨hpos, hmax⟩ := not_or.mp hsize
  split at h
  · exact absurd h (by simp [MayReturn])
  dsimp only at h
  split at h
  · -- a single upload
    obtain ⟨_ | url, h⟩ := h
    · exact absurd h (by simp [MayReturn])
    obtain ⟨_ | _, h⟩ := h
    · exact absurd h (by simp [MayReturn])
    · have hinit : _ = init := Except.ok.inj h
      rw [← hinit] at hmode
      exact absurd hmode (by simp)
  · rename_i hsingle
    obtain ⟨_ | sid, h⟩ := h
    · exact absurd h (by simp [MayReturn])
    obtain ⟨_ | _, h⟩ := h
    · obtain ⟨_, h⟩ := h
      exact absurd h (by simp [MayReturn])
    · have hinit : _ = init := Except.ok.inj h
      have hmultipart : uploadMode size = .multipart := by
        cases hu : uploadMode size with
        | single => exact absurd hu hsingle
        | multipart => rfl
      rw [← hinit]
      exact ⟨Int64.not_le.mp hpos, Int64.not_lt.mp hmax, hmultipart, rfl, rfl⟩

theorem toInt_ofNat_part {n : Nat} (h : n ≤ 10000) : (Int32.ofNat n).toInt = n :=
  Int32.toInt_ofNat_of_lt (by omega)

/-- Part numbers up to 10000 are presigned, in their order. -/
theorem presignParts_answered {answers : (c : Call) → c.Answer} {u : Upload} {m : Media}
    (h : Healthy answers u m) (s : Service) (key sid : String) (parts : List Nat)
    (out : List (Int32 × String)) (hparts : ∀ n ∈ parts, 1 ≤ n ∧ n ≤ 10000)
    (hout : out.all (fun p => p.2 ≠ "") = true) :
    ∃ urls, (presignParts s key sid (parts.map Int32.ofNat) out).answered answers = .ok urls ∧
      urls.map Prod.fst = out.map Prod.fst ++ parts.map Int32.ofNat ∧
      urls.all (fun p => p.2 ≠ "") = true := by
  induction parts generalizing out with
  | nil => exact ⟨out, rfl, by simp, hout⟩
  | cons n parts ih =>
      obtain ⟨hn1, hn⟩ := hparts n (by simp)
      have hvalid : ¬(Int32.ofNat n < 1 ∨ 10000 < Int32.ofNat n) := by
        rw [Int32.lt_iff_toInt_lt, Int32.lt_iff_toInt_lt, toInt_ofNat_part hn]
        have h1 : (1 : Int32).toInt = 1 := by decide
        have h10000 : (10000 : Int32).toInt = 10000 := by decide
        omega
      obtain ⟨url, hurl, hne⟩ := h.presignPart key sid (Int32.ofNat n) s.uploadTTL
      rw [List.map_cons, presignParts, if_neg hvalid, answered_call, hurl]
      obtain ⟨urls, hurls, hfst, hall⟩ := ih (out ++ [(Int32.ofNat n, url)])
        (fun k hk => hparts k (List.mem_cons_of_mem n hk)) (by
          rw [List.all_append, hout]
          simpa using hne)
      exact ⟨urls, hurls, by simpa using hfst, hall⟩

/-- Every batch holds at least one and at most ten part numbers from `1` to `count`. -/
theorem batches_spec {count : Nat} {batch : List Nat} (h : batch ∈ batches count) :
    batch ≠ [] ∧ batch.length ≤ 10 ∧ ∀ n ∈ batch, 1 ≤ n ∧ n ≤ count := by
  rw [batches, List.mem_map] at h
  obtain ⟨j, hj, rfl⟩ := h
  rw [List.mem_range] at hj
  refine ⟨?_, ?_, ?_⟩
  · intro hnil
    have hlen := congrArg List.length hnil
    simp only [List.length_map, List.length_range, List.length_nil] at hlen
    omega
  · simp only [List.length_map, List.length_range]
    omega
  · intro n hn
    rw [List.mem_map] at hn
    obtain ⟨i, hi, rfl⟩ := hn
    rw [List.mem_range] at hi
    omega

theorem requestParts_answered {answers : (c : Call) → c.Answer} {u : Upload} {m : Media}
    (h : Healthy answers u m) (s : Service) {owner sid : String} (uploadID : String)
    (howner : m.ownerUserID = owner) (hmode : u.mode = .multipart) (hstatus : u.status = .OPEN)
    (hsid : u.s3UploadID = some sid) (bs : List (List Nat))
    (hbs : ∀ batch ∈ bs, batch ≠ [] ∧ batch.length ≤ 10 ∧ ∀ n ∈ batch, 1 ≤ n ∧ n ≤ 10000) :
    requestParts answers s owner uploadID bs = .ok () := by
  induction bs with
  | nil => rfl
  | cons batch bs ih =>
      obtain ⟨hne, hlen, hnum⟩ := hbs batch (by simp)
      have hparts : ¬(batch.map Int32.ofNat = [] ∨ 100 < (batch.map Int32.ofNat).length) := by
        rw [List.map_eq_nil_iff, List.length_map]
        rintro (hnil | hmany)
        · exact hne hnil
        · omega
      obtain ⟨urls, hurls, hfst, hall⟩ :=
        presignParts_answered h s m.objectKey sid batch [] hnum rfl
      rw [requestParts, Service.partURLs, answered_call, h.uploadByID]
      dsimp only
      rw [if_neg (not_not.mpr howner), if_neg (by simp [hmode, hstatus]), hsid]
      dsimp only
      rw [if_neg hparts, hurls]
      dsimp only
      rw [if_pos ⟨by simpa using hfst, hall⟩]
      exact ih (fun b hb => hbs b (List.mem_cons_of_mem batch hb))

/-- A quoted hash is not blank. -/
theorem trimSpace_quotedHash {etag : String} (h : IsQuotedHash etag) :
    trimSpace etag.toList ≠ [] := by
  obtain ⟨digits, -, -, hetag⟩ := h
  have hspace : isSpace '"' = false := by decide
  rw [hetag, trimSpace, List.cons_append, List.dropWhile_cons_of_neg (by simp [hspace])]
  simp [hspace]

/-- Valid parts in ascending order are none of them refused. -/
theorem checkParts_ascending {expected : Int64} (parts : List CompletedPart) (seen : List Int32)
    (hvalid : ∀ p ∈ parts, 1 ≤ p.partNumber.toInt ∧ p.partNumber.toInt ≤ expected.toInt ∧
      trimSpace p.etag.toList ≠ [])
    (hsorted : parts.Pairwise (fun p q => p.partNumber.toInt < q.partNumber.toInt))
    (hseen : ∀ p ∈ parts, p.partNumber ∉ seen) : checkParts expected seen parts = none := by
  induction parts generalizing seen with
  | nil => rfl
  | cons p parts ih =>
      obtain ⟨hlow, hhigh, hblank⟩ := hvalid p (by simp)
      obtain ⟨hfirst, hrest⟩ := List.pairwise_cons.mp hsorted
      have hp : ¬(p.partNumber < 1 ∨ expected.toInt < p.partNumber.toInt ∨
          trimSpace p.etag.toList = []) := by
        have h1 : (1 : Int32).toInt = 1 := by decide
        rw [Int32.lt_iff_toInt_lt]
        rintro (h | h | h)
        · omega
        · omega
        · exact hblank h
      rw [checkParts, if_neg hp, if_neg (hseen p (by simp))]
      refine ih (p.partNumber :: seen) (fun q hq => hvalid q (List.mem_cons_of_mem p hq)) hrest ?_
      intro q hq
      rw [List.mem_cons]
      rintro (heq | hin)
      · have hlt := hfirst q hq
        rw [heq] at hlt
        exact lt_irrefl _ hlt
      · exact hseen q (List.mem_cons_of_mem p hq) hin

/-- Parts in ascending order are none of them refused. -/
theorem checkParts_sentParts {etag : Nat → String} (h : ∀ n, IsQuotedHash (etag n))
    {expected : Int64} (parts : List Nat)
    (hbound : ∀ n ∈ parts, 1 ≤ n ∧ n ≤ 10000 ∧ (n : Int) ≤ expected.toInt)
    (hsorted : parts.Pairwise (· < ·)) :
    checkParts expected [] (parts.map (fun n => ⟨Int32.ofNat n, etag n⟩)) = none := by
  refine checkParts_ascending _ [] ?_ ?_ (by simp)
  · intro p hp
    obtain ⟨n, hn, rfl⟩ := List.mem_map.mp hp
    obtain ⟨hn1, hmax, hexpected⟩ := hbound n hn
    have hint : (Int32.ofNat n).toInt = n := toInt_ofNat_part hmax
    rw [hint]
    exact ⟨by omega, hexpected, trimSpace_quotedHash (h n)⟩
  · rw [List.pairwise_map]
    refine hsorted.imp_of_mem ?_
    intro m n hm hn hlt
    rw [toInt_ofNat_part (hbound m hm).2.1, toInt_ofNat_part (hbound n hn).2.1]
    omega

/-- The server expects as many parts as the browser sends; up to `2 ^ 62` bytes nothing
    overflows. -/
theorem expectedParts_toInt {m : Media} (hpos : 0 < m.sizeBytes)
    (hsize : m.sizeBytes.toInt ≤ 2 ^ 62) :
    (expectedParts m).toInt
      = ((m.sizeBytes.toInt.toNat + 33554432 - 1) / 33554432 : Nat) := by
  have hpart : partSizeBytes.toInt = 33554432 := by decide
  have hone : (1 : Int64).toInt = 1 := by decide
  rw [Int64.lt_iff_toInt_lt] at hpos
  have hzero : (0 : Int64).toInt = 0 := by decide
  have hsum : (m.sizeBytes + partSizeBytes).toInt = m.sizeBytes.toInt + 33554432 := by
    rw [Int64.toInt_add, hpart]
    exact Int.bmod_eq_of_le (by omega) (by omega)
  have hdiff : (m.sizeBytes + partSizeBytes - 1).toInt = m.sizeBytes.toInt + 33554432 - 1 := by
    rw [Int64.toInt_sub, hsum, hone]
    exact Int.bmod_eq_of_le (by omega) (by omega)
  rw [expectedParts, Int64.toInt_div_of_ne_right _ _ (by decide), hdiff, hpart]
  rw [Int.tdiv_eq_ediv_of_nonneg (by omega)]
  omega

theorem complete_answered {answers : (c : Call) → c.Answer} {u : Upload} {m : Media}
    (h : Healthy answers u m) {owner uploadID sid : String} (howner : m.ownerUserID = owner)
    (hmode : u.mode = .multipart) (hstatus : u.status = .OPEN) (hsid : u.s3UploadID = some sid)
    {parts : List CompletedPart} {now written : Int64} (hnow : now < u.expiresAtMs)
    (hcount : (parts.length : Int) = (expectedParts m).toInt)
    (hparts : checkParts (expectedParts m) [] parts = none) :
    (complete owner uploadID parts now written).answered answers = .ok () := by
  have hopen : ¬(u.status ≠ .OPEN ∨ u.expiresAtMs ≤ now) := by
    rintro (hclosed | hexpired)
    · exact hclosed hstatus
    · exact Int64.not_le.mpr hnow hexpired
  rw [complete, answered_call, h.uploadByID]
  dsimp only
  rw [if_neg (not_not.mpr howner), if_neg (by simp [hstatus]), if_neg hopen, if_pos hmode, hsid]
  dsimp only
  rw [if_neg (not_not.mpr hcount), hparts]
  dsimp only
  rw [answered_call, h.completeMultipart]
  dsimp only
  rw [verifyObject, answered_call, h.head]
  dsimp only
  rw [if_neg (not_not.mpr rfl), answered_call, h.completeUpload]
  rfl

-- ============================================================================
-- Which uploads can be finished
-- ============================================================================

theorem partSizeBytes_toNat : partSizeBytes.toInt.toNat = 33554432 := by decide

/-- Up to 1009 parts of 32 MiB. -/
theorem partCount_le_iff (size : Int64) :
    partCount size.toInt.toNat partSizeBytes.toInt.toNat ≤ 1009 ↔
      size ≤ 1009 * partSizeBytes := by
  have hmax : (1009 * partSizeBytes).toInt = 33856421888 := by decide
  rw [Int64.le_iff_toInt_le, hmax, partCount, partSizeBytes_toNat]
  omega

theorem partCount_pos {size : Int64} (hpos : 0 < size) :
    0 < partCount size.toInt.toNat partSizeBytes.toInt.toNat := by
  have hzero : (0 : Int64).toInt = 0 := by decide
  rw [Int64.lt_iff_toInt_lt] at hpos
  rw [partCount, partSizeBytes_toNat]
  omega

/-- The two limits on the request: the part numbers and the length of the body. -/
theorem request_fits_iff {size : Int64} (hpos : 0 < size) {etag : Nat → String}
    (hetag : ∀ n, IsQuotedHash (etag n)) :
    (partCount size.toInt.toNat partSizeBytes.toInt.toNat ≤ 10000 ∧
      JsonText.bytes (completeBody etag (partCount size.toInt.toNat partSizeBytes.toInt.toNat))
        ≤ maxBodyBytes) ↔ size ≤ 1009 * partSizeBytes := by
  rw [completeBody_fits_iff hetag (partCount_pos hpos), ← partCount_le_iff size]
  omega

/-- With all services up, an upload whose request fits is finished, and one whose request
    does not fit is refused at the end. -/
theorem uploadMedia_healthy {answers : (c : Call) → c.Answer} {u : Upload} {m : Media}
    (h : Healthy answers u m) (s : Service) {owner sid : String} (init : InitResult)
    (howner : m.ownerUserID = owner) (hmode : u.mode = .multipart) (hstatus : u.status = .OPEN)
    (hsid : u.s3UploadID = some sid) (hpart : init.partSizeBytes = partSizeBytes)
    (hpos : 0 < m.sizeBytes) {etag : Nat → String} (hetag : ∀ n, IsQuotedHash (etag n))
    {now written : Int64} (hnow : now < u.expiresAtMs)
    (hcount : partCount m.sizeBytes.toInt.toNat partSizeBytes.toInt.toNat ≤ 10000) :
    uploadMedia answers s owner init m.sizeBytes.toInt.toNat etag now written
      = if m.sizeBytes ≤ 1009 * partSizeBytes then .ok () else .error .invalidRequest := by
  have hrequests := requestParts_answered h s init.uploadID howner hmode hstatus hsid
    (batches (partCount m.sizeBytes.toInt.toNat partSizeBytes.toInt.toNat)) (by
      intro batch hbatch
      obtain ⟨hne, hlen, hnum⟩ := batches_spec hbatch
      refine ⟨hne, hlen, ?_⟩
      intro n hn
      have hn' := hnum n hn
      omega)
  have hsize : ¬(partSizeBytes.toInt.toNat = 0 ∨ 2 ^ 53 ≤ partSizeBytes.toInt.toNat) := by decide
  rw [uploadMedia]
  dsimp only
  rw [hpart, if_neg hsize, if_neg (by omega), hrequests]
  dsimp only
  by_cases hfits : m.sizeBytes ≤ 1009 * partSizeBytes
  · have hbody := ((request_fits_iff hpos hetag).mpr hfits).2
    have hexpected := expectedParts_toInt hpos (by
      have hmax : (1009 * partSizeBytes).toInt = 33856421888 := by decide
      rw [Int64.le_iff_toInt_le, hmax] at hfits
      omega)
    have hcheck : checkParts (expectedParts m) []
        (sentParts etag (partCount m.sizeBytes.toInt.toNat partSizeBytes.toInt.toNat)) = none := by
      have hlist : sentParts etag (partCount m.sizeBytes.toInt.toNat partSizeBytes.toInt.toNat)
          = ((List.range (partCount m.sizeBytes.toInt.toNat partSizeBytes.toInt.toNat)).map
              (fun i => i + 1)).map (fun n => ⟨Int32.ofNat n, etag n⟩) := by
        simp [sentParts]
      rw [hlist]
      refine checkParts_sentParts hetag _ ?_ ?_
      · intro n hn
        rw [List.mem_map] at hn
        obtain ⟨i, hi, rfl⟩ := hn
        rw [List.mem_range] at hi
        rw [partCount, partSizeBytes_toNat] at hi
        rw [partCount, partSizeBytes_toNat] at hcount
        omega
      · exact List.Pairwise.map _ (fun a b hab => Nat.succ_lt_succ hab) List.pairwise_lt_range
    have hlength : ((sentParts etag (partCount m.sizeBytes.toInt.toNat
        partSizeBytes.toInt.toNat)).length : Int) = (expectedParts m).toInt := by
      rw [hexpected, sentParts, List.length_map, List.length_range, partCount,
        partSizeBytes_toNat]
    rw [if_pos hfits, if_neg (by omega),
      complete_answered h howner hmode hstatus hsid hnow hlength hcheck]
  · have hbody : maxBodyBytes < JsonText.bytes (completeBody etag
        (partCount m.sizeBytes.toInt.toNat partSizeBytes.toInt.toNat)) := by
      by_contra hbody
      exact hfits ((request_fits_iff hpos hetag).mp ⟨hcount, by omega⟩)
    rw [if_neg hfits, if_pos hbody]

/-- A finished upload passed the limit on the part numbers. -/
theorem partCount_of_uploadMedia {answers : (c : Call) → c.Answer} {s : Service} {owner : String}
    {init : InitResult} {size : Nat} {etag : Nat → String} {now written : Int64}
    (h : uploadMedia answers s owner init size etag now written = .ok ()) :
    partCount size init.partSizeBytes.toInt.toNat ≤ 10000 := by
  rw [uploadMedia] at h
  dsimp only at h
  split at h
  · exact absurd h (by simp)
  split at h
  · exact absurd h (by simp)
  · omega

/-- **Accepted uploads that can be finished.**  Of the multipart uploads `Init` accepts,
    the browser's request to complete one passes the limits exactly up to 1009 parts; with
    all services up and before the upload expires, the whole upload succeeds exactly
    then. -/
theorem upload_finishes_iff (s : Service) (owner filename contentType : String) (size : Int64)
    (mediaID uploadID : String) (created : Int64) (init : InitResult)
    (hinit : (s.init owner filename contentType size mediaID uploadID created).MayReturn (.ok init))
    (hmode : init.mode = .multipart) (etag : Nat → String)
    (hetag : ∀ n, IsQuotedHash (etag n)) :
    ((partCount size.toInt.toNat init.partSizeBytes.toInt.toNat ≤ 10000 ∧
      JsonText.bytes (completeBody etag
        (partCount size.toInt.toNat init.partSizeBytes.toInt.toNat)) ≤ maxBodyBytes) ↔
      size ≤ 1009 * partSizeBytes) ∧
    ∀ (answers : (c : Call) → c.Answer) (sid : String) (now written : Int64),
      Healthy answers (newUpload size mediaID uploadID (some sid) created)
        (newMedia owner filename contentType size mediaID created) →
      now < created + uploadLifeMs →
      (uploadMedia answers s owner init size.toInt.toNat etag now written = .ok () ↔
        size ≤ 1009 * partSizeBytes) := by
  obtain ⟨hpos, -, hmultipart, hpart, -⟩ := init_multipart hinit hmode
  refine ⟨by rw [hpart]; exact request_fits_iff hpos hetag, ?_⟩
  intro answers sid now written hhealthy hnow
  have houtcome : partCount size.toInt.toNat partSizeBytes.toInt.toNat ≤ 10000 →
      uploadMedia answers s owner init size.toInt.toNat etag now written
        = if size ≤ 1009 * partSizeBytes then .ok () else .error .invalidRequest :=
    uploadMedia_healthy hhealthy s init rfl hmultipart rfl rfl hpart hpos hetag hnow
  constructor
  · intro hok
    have hcount := partCount_of_uploadMedia hok
    rw [hpart] at hcount
    rw [houtcome hcount] at hok
    by_contra hfits
    rw [if_neg hfits] at hok
    exact absurd hok (by simp)
  · intro hfits
    have hcount := ((request_fits_iff hpos hetag).mpr hfits).1
    rw [houtcome hcount, if_pos hfits]

/-- Every service is up. -/
def allUp (u : Upload) (m : Media) : (c : Call) → c.Answer
  | .createMediaUpload .. => .ok ()
  | .uploadByID _ => .ok (u, m)
  | .completeUpload .. => .ok ()
  | .failUpload .. => .ok ()
  | .staleUploads _ => .ok []
  | .mediaByID _ => .ok m
  | .mediaInUse _ => .ok false
  | .softDeleteMedia .. => .ok ()
  | .setMediaDeleteStatus .. => .ok ()
  | .pendingMediaDeletes => .ok []
  | .audit .. => .ok ()
  | .presignPut .. => .ok "https://objects.test/put"
  | .createMultipart .. => .ok "s3-upload"
  | .presignPart .. => .ok "https://objects.test/part"
  | .completeMultipart .. => .ok ()
  | .abortMultipart .. => .ok ()
  | .head _ => .ok m.sizeBytes
  | .delete _ => .ok ()

theorem healthy_allUp (u : Upload) (m : Media) : Healthy (allUp u m) u m where
  uploadByID _ := rfl
  presignPart _ _ _ _ := ⟨"https://objects.test/part", rfl, by simp⟩
  completeMultipart _ _ _ := rfl
  head _ := rfl
  completeUpload _ _ := rfl

/-- An operator allows 32 GiB. -/
def largeMax (key : String) : String :=
  if key = "MAX_MEDIA_SIZE_BYTES" then "34359738368" else ""

/-- A service for large files. -/
def largeService : Service := ⟨maxMediaSize largeMax, 3600000⟩

/-- An ETag of 34 characters. -/
def someETag (_ : Nat) : String := "\"d41d8cd98f00b204e9800998ecf8427e\""

theorem isQuotedHash_someETag (n : Nat) : IsQuotedHash (someETag n) := by
  have hall : "d41d8cd98f00b204e9800998ecf8427e".toList.all
      (fun c => decide (c ∈ JsonText.hexDigits)) = true := by decide
  refine ⟨"d41d8cd98f00b204e9800998ecf8427e".toList, by decide, ?_, ?_⟩
  · exact fun c hc => of_decide_eq_true (List.all_eq_true.mp hall c hc)
  · show (someETag 0).toList = _
    decide

/-- The answer of `Init` to a multipart upload. -/
def multipartInit : InitResult := ⟨"m", "u", .multipart, partSizeBytes, "", 3600000⟩

theorem init_largeService (size : Int64) (hmode : uploadMode size = .multipart)
    (hsize : ¬(size ≤ 0 ∨ largeService.maxSize < size)) :
    (largeService.init "owner" "movie.mp4" "video/mp4" size "m" "u" 0).MayReturn
      (.ok multipartInit) := by
  rw [Service.init, if_neg (by decide), if_neg hsize, if_neg (by decide)]
  dsimp only
  rw [if_neg (by rw [hmode]; decide)]
  refine ⟨.ok "s3-upload", .ok (), ?_⟩
  rfl

/-- 31 GiB are 992 parts. -/
theorem upload_finishes_31GiB :
    uploadMedia
      (allUp (newUpload 33285996544 "m" "u" (some "s3-upload") 0)
        (newMedia "owner" "movie.mp4" "video/mp4" 33285996544 "m" 0))
      largeService "owner" multipartInit 33285996544 someETag 7200000 7200000 = .ok () := by
  have hinit := init_largeService 33285996544 (by decide) (by decide)
  exact ((upload_finishes_iff largeService "owner" "movie.mp4" "video/mp4" 33285996544 "m" "u" 0
    multipartInit hinit rfl someETag isQuotedHash_someETag).2 _ "s3-upload" 7200000 7200000
    (healthy_allUp _ _) (by decide)).mpr (by decide)

/-- 32 GiB are 1024 parts: `Init` accepts the upload, every part is uploaded, and the
    request to complete it is not read. -/
theorem upload_stuck_32GiB :
    (largeService.init "owner" "movie.mp4" "video/mp4" 34359738368 "m" "u" 0).MayReturn
      (.ok multipartInit) ∧
    uploadMedia
      (allUp (newUpload 34359738368 "m" "u" (some "s3-upload") 0)
        (newMedia "owner" "movie.mp4" "video/mp4" 34359738368 "m" 0))
      largeService "owner" multipartInit 34359738368 someETag 7200000 7200000
      = .error .invalidRequest ∧
    ¬(partCount 34359738368 partSizeBytes.toInt.toNat ≤ 10000 ∧
      JsonText.bytes (completeBody someETag (partCount 34359738368 partSizeBytes.toInt.toNat))
        ≤ maxBodyBytes) := by
  refine ⟨init_largeService 34359738368 (by decide) (by decide), ?_, ?_⟩
  · exact uploadMedia_healthy
      (m := newMedia "owner" "movie.mp4" "video/mp4" 34359738368 "m" 0)
      (u := newUpload 34359738368 "m" "u" (some "s3-upload") 0) (healthy_allUp _ _) largeService
      multipartInit rfl rfl rfl rfl rfl (by decide) isQuotedHash_someETag (by decide) (by decide)
  · intro hfits
    have hle := (request_fits_iff (show (0 : Int64) < 34359738368 by decide)
      isQuotedHash_someETag).mp hfits
    exact absurd hle (by decide)

end WatchTogether.Uploads

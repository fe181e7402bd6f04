/-
  WatchTogether.Uploads.Retry

  What a second, healthy call of `Complete` or `Abort` makes of an upload whose first
  call went wrong on the way.  A multipart id is used up by the first call that reaches
  the object store; the row does not say so, and the retry uses the id again.
-/

import WatchTogether.Uploads.World

namespace WatchTogether.Uploads

open Program

variable (assembly : Assembly) (used : Bool)

-- ============================================================================
-- Calls with fates
-- ============================================================================

/-- `Complete`, each of whose calls has its fate. -/
def callComplete (fate : Call → Fate) (w : World) (owner uploadID : String)
    (parts : List CompletedPart) (now written : Int64) : Except MediaError Unit × World :=
  (complete owner uploadID parts now written).run (fun c => exec assembly used (fate c) c) w

/-- `Abort`, each of whose calls has its fate. -/
def callAbort (fate : Call → Fate) (w : World) (owner uploadID : String) (now : Int64) :
    Except MediaError Unit × World :=
  (abort owner uploadID now).run (fun c => exec assembly used (fate c) c) w

/-- Every call is served. -/
def healthy (_ : Call) : Fate := .served

@[simp] theorem healthy_apply (c : Call) : healthy c = .served := rfl

/-- The parts are valid for the media: as many as expected, well formed, and making an
    object of the declared size. -/
structure ValidParts (m : Media) (parts : List CompletedPart) : Prop where
  count : (parts.length : Int) = (expectedParts m).toInt
  checked : checkParts (expectedParts m) [] parts = none
  assembled : assembly (sortParts parts) = some m.sizeBytes

/-- An open upload that waits to be completed with these parts; of a single upload, the
    object is there. -/
structure Completable (w : World) (owner : String) (parts : List CompletedPart) : Prop where
  owner : w.media.ownerUserID = owner
  status : w.upload.status = .OPEN
  single : w.upload.mode = .single → w.object = some w.media.sizeBytes
  multipart : w.upload.mode = .multipart →
    w.multipart = .inProgress ∧ (∃ sid, w.upload.s3UploadID = some sid) ∧
      ValidParts assembly w.media parts

/-- An upload that is completed. -/
structure IsCompleted (w : World) (owner : String) : Prop where
  owner : w.media.ownerUserID = owner
  upload : w.upload.status = .COMPLETED
  media : w.media.status = .READY

/-- An open upload that waits to be aborted. -/
structure Abortable (w : World) (owner : String) : Prop where
  owner : w.media.ownerUserID = owner
  status : w.upload.status = .OPEN
  media : w.media.status ≠ .READY
  multipart : w.upload.s3UploadID ≠ none → w.multipart = .inProgress

/-- An upload that is aborted. -/
structure IsAborted (w : World) (owner : String) : Prop where
  owner : w.media.ownerUserID = owner
  upload : w.upload.status = .ABORTED
  media : w.media.status = .FAILED

/-- A healthy `Complete` returns nil and leaves the media ready. -/
def Finishes (w : World) (owner uploadID : String) (parts : List CompletedPart)
    (now written : Int64) : Prop :=
  (callComplete assembly used healthy w owner uploadID parts now written).1 = .ok () ∧
  (callComplete assembly used healthy w owner uploadID parts now written).2.media.status = .READY

/-- A healthy `Abort` returns nil and leaves the upload aborted and the media failed. -/
def Aborts (w : World) (owner uploadID : String) (now : Int64) : Prop :=
  (callAbort assembly used healthy w owner uploadID now).1 = .ok () ∧
  (callAbort assembly used healthy w owner uploadID now).2.upload.status = .ABORTED ∧
  (callAbort assembly used healthy w owner uploadID now).2.media.status = .FAILED

/-- The object store has put the parts together. -/
def World.assembled (w : World) : World :=
  { w with object := some w.media.sizeBytes, multipart := .completed }

/-- The object store has dropped the parts. -/
def World.dropped (w : World) : World := { w with multipart := .aborted }

-- ============================================================================
-- `Complete`
-- ============================================================================

/-- The end of `Complete` on an object of the declared size. -/
theorem verifyObject_run (fate : Call → Fate) {w : World} {uploadID : String} {m : Media}
    (hid : w.upload.id = uploadID) (hm : w.media = m) (hobject : w.object = some m.sizeBytes)
    (written : Int64) :
    (verifyObject uploadID m written).run (fun c => exec assembly used (fate c) c) w =
      if fate (.head m.objectKey) = .served then
        match fate (.completeUpload uploadID written) with
        | .served => (.ok (), w.completed written)
        | .failed => (.error (.store callFailed), w)
        | .lost => (.error (.store callFailed), w.completed written)
      else (.error (.store callFailed), w) := by
  subst hid hm
  rw [verifyObject, run_call]
  cases hhead : fate (.head w.media.objectKey) with
  | served =>
      rw [if_pos rfl]
      simp only [exec, perform, hobject, if_true]
      rw [if_neg (not_not.mpr rfl), run_call]
      cases hwrite : fate (.completeUpload w.upload.id written) with
      | served => simp [exec, perform]
      | failed => simp [exec]
      | lost => simp [exec, perform]
  | failed => simp [exec]
  | lost => simp [exec, perform, hobject]

theorem callComplete_single (fate : Call → Fate) {w : World} {owner : String}
    {parts : List CompletedPart} (h : Completable assembly w owner parts)
    (hmode : w.upload.mode = .single) {now : Int64} (hnow : now < w.upload.expiresAtMs)
    (written : Int64) :
    callComplete assembly used fate w owner w.upload.id parts now written =
      if fate (.uploadByID w.upload.id) = .served then
        (verifyObject w.upload.id w.media written).run (fun c => exec assembly used (fate c) c) w
      else (.error (.store callFailed), w) := by
  have hopen : ¬(w.upload.status ≠ .OPEN ∨ w.upload.expiresAtMs ≤ now) := by
    rintro (hclosed | hexpired)
    · exact hclosed h.status
    · exact Int64.not_le.mpr hnow hexpired
  rw [callComplete, complete, run_call]
  cases hread : fate (.uploadByID w.upload.id) with
  | served =>
      rw [if_pos rfl]
      simp only [exec, perform, if_true]
      rw [if_neg (not_not.mpr h.owner), if_neg (by simp [h.status]), if_neg hopen,
        if_neg (by simp [hmode])]
  | failed => simp [exec]
  | lost => simp [exec, perform]

theorem callComplete_multipart (fate : Call → Fate) {w : World} {owner sid : String}
    {parts : List CompletedPart} (h : Completable assembly w owner parts)
    (hmode : w.upload.mode = .multipart) (hsid : w.upload.s3UploadID = some sid)
    {now : Int64} (hnow : now < w.upload.expiresAtMs) (written : Int64) :
    callComplete assembly used fate w owner w.upload.id parts now written =
      if fate (.uploadByID w.upload.id) = .served then
        match fate (.completeMultipart w.media.objectKey sid (sortParts parts)) with
        | .served =>
            (verifyObject w.upload.id w.media written).run
              (fun c => exec assembly used (fate c) c) w.assembled
        | .failed => (.error (.store callFailed), w)
        | .lost => (.error (.store callFailed), w.assembled)
      else (.error (.store callFailed), w) := by
  obtain ⟨hprogress, -, hvalid⟩ := h.multipart hmode
  have hopen : ¬(w.upload.status ≠ .OPEN ∨ w.upload.expiresAtMs ≤ now) := by
    rintro (hclosed | hexpired)
    · exact hclosed h.status
    · exact Int64.not_le.mpr hnow hexpired
  have howns : w.Owns w.media.objectKey sid ∧ w.multipart = .inProgress := ⟨⟨rfl, hsid⟩, hprogress⟩
  rw [callComplete, complete, run_call]
  cases hread : fate (.uploadByID w.upload.id) with
  | served =>
      rw [if_pos rfl]
      simp only [exec, perform, if_true]
      rw [if_neg (not_not.mpr h.owner), if_neg (by simp [h.status]), if_neg hopen, if_pos hmode,
        hsid]
      dsimp only
      rw [if_neg (not_not.mpr hvalid.count), hvalid.checked]
      dsimp only
      rw [run_call]
      cases hassemble : fate (.completeMultipart w.media.objectKey sid (sortParts parts)) with
      | served => simp [exec, perform, howns, hvalid.assembled, World.assembled]
      | failed => simp [exec]
      | lost => simp [exec, perform, howns, hvalid.assembled, World.assembled]
  | failed => simp [exec]
  | lost => simp [exec, perform]

/-- A completed upload is completed once more, without a call that writes. -/
theorem callComplete_isCompleted {w : World} {owner : String} (h : IsCompleted w owner)
    (parts : List CompletedPart) (now written : Int64) :
    callComplete assembly used healthy w owner w.upload.id parts now written = (.ok (), w) := by
  rw [callComplete, complete, run_call]
  simp only [exec, healthy, perform, if_true]
  rw [if_neg (not_not.mpr h.owner), if_pos ⟨h.upload, h.media⟩, run_done]

/-- The used multipart id is rejected. -/
theorem callComplete_used {w : World} {owner sid : String} {parts : List CompletedPart}
    (howner : w.media.ownerUserID = owner) (hstatus : w.upload.status = .OPEN)
    (hmode : w.upload.mode = .multipart) (hsid : w.upload.s3UploadID = some sid)
    (hvalid : ValidParts assembly w.media parts) (hused : w.multipart ≠ .inProgress)
    {now : Int64} (hnow : now < w.upload.expiresAtMs) (written : Int64) :
    callComplete assembly used healthy w owner w.upload.id parts now written
      = (.error (.store noSuchUpload), w) := by
  have hopen : ¬(w.upload.status ≠ .OPEN ∨ w.upload.expiresAtMs ≤ now) := by
    rintro (hclosed | hexpired)
    · exact hclosed hstatus
    · exact Int64.not_le.mpr hnow hexpired
  rw [callComplete, complete, run_call]
  simp only [exec, healthy, perform, if_true]
  rw [if_neg (not_not.mpr howner), if_neg (by simp [hstatus]), if_neg hopen, if_pos hmode, hsid]
  dsimp only
  rw [if_neg (not_not.mpr hvalid.count), hvalid.checked]
  dsimp only
  rw [run_call]
  simp [exec, perform, hused]

/-- A healthy call completes an upload that waits for it. -/
theorem callComplete_healthy {w : World} {owner : String} {parts : List CompletedPart}
    (h : Completable assembly w owner parts) {now : Int64} (hnow : now < w.upload.expiresAtMs)
    (written : Int64) : Finishes assembly used w owner w.upload.id parts now written := by
  rw [Finishes]
  cases hmode : w.upload.mode with
  | single =>
      rw [callComplete_single assembly used healthy h hmode hnow, healthy_apply, if_pos rfl,
        verifyObject_run assembly used healthy rfl rfl (h.single hmode), healthy_apply, if_pos rfl]
      exact ⟨rfl, rfl⟩
  | multipart =>
      obtain ⟨-, ⟨sid, hsid⟩, -⟩ := h.multipart hmode
      have hverify : (verifyObject w.upload.id w.media written).run
          (fun c => exec assembly used (healthy c) c) w.assembled
          = (.ok (), w.assembled.completed written) :=
        verifyObject_run assembly used (w := w.assembled) healthy rfl rfl rfl written
      have hcall : callComplete assembly used healthy w owner w.upload.id parts now written
          = (.ok (), w.assembled.completed written) :=
        (callComplete_multipart assembly used healthy h hmode hsid hnow written).trans hverify
      rw [hcall]
      exact ⟨rfl, rfl⟩

/-- A first call that uses the multipart id up and does not get as far as the row. -/
def StrandsComplete (fate : Call → Fate) (w : World) (parts : List CompletedPart)
    (written : Int64) : Prop :=
  w.upload.status = .OPEN ∧ w.upload.mode = .multipart ∧
    ∃ sid, w.upload.s3UploadID = some sid ∧ fate (.uploadByID w.upload.id) = .served ∧
      (fate (.completeMultipart w.media.objectKey sid (sortParts parts)) = .lost ∨
        fate (.completeMultipart w.media.objectKey sid (sortParts parts)) = .served ∧
          (fate (.head w.media.objectKey) ≠ .served ∨
            fate (.completeUpload w.upload.id written) = .failed))

/-- An upload as a first call found it, or completed. -/
def DoneOrAsBefore (w w' : World) : Prop :=
  w' = w ∨ (w'.upload.id = w.upload.id ∧ w'.media.ownerUserID = w.media.ownerUserID ∧
    w'.upload.status = .COMPLETED ∧ w'.media.status = .READY)

/-- The end of `Complete` changes the row or nothing. -/
theorem verifyObject_leaves (fate : Call → Fate) {w : World}
    (hobject : w.object = some w.media.sizeBytes) (written : Int64) :
    ((verifyObject w.upload.id w.media written).run
      (fun c => exec assembly used (fate c) c) w).2 =
      if fate (.head w.media.objectKey) ≠ .served ∨
          fate (.completeUpload w.upload.id written) = .failed then w
      else w.completed written := by
  rw [verifyObject_run assembly used fate rfl rfl hobject]
  by_cases hhead : fate (.head w.media.objectKey) = .served
  · rw [if_pos hhead]
    cases hwrite : fate (.completeUpload w.upload.id written) with
    | served => simp [hhead]
    | failed => simp
    | lost => simp [hhead]
  · rw [if_neg hhead, if_pos (Or.inl hhead)]

theorem doneOrAsBefore_single (fate : Call → Fate) {w : World} {owner : String}
    {parts : List CompletedPart} (h : Completable assembly w owner parts)
    (hmode : w.upload.mode = .single) {now : Int64} (hnow : now < w.upload.expiresAtMs)
    (written : Int64) :
    DoneOrAsBefore w
      (callComplete assembly used fate w owner w.upload.id parts now written).2 := by
  rw [callComplete_single assembly used fate h hmode hnow]
  split
  · rw [verifyObject_leaves assembly used fate (h.single hmode)]
    split
    · exact Or.inl rfl
    · exact Or.inr ⟨rfl, rfl, rfl, rfl⟩
  · exact Or.inl rfl

/-- A first call on a multipart upload leaves the object without the row exactly if it
    strands the upload. -/
theorem callComplete_leaves (fate : Call → Fate) {w : World} {owner : String}
    {parts : List CompletedPart} (h : Completable assembly w owner parts)
    (hmode : w.upload.mode = .multipart) {now : Int64} (hnow : now < w.upload.expiresAtMs)
    (written : Int64) :
    (StrandsComplete fate w parts written →
      (callComplete assembly used fate w owner w.upload.id parts now written).2 = w.assembled) ∧
    (¬StrandsComplete fate w parts written → DoneOrAsBefore w
      (callComplete assembly used fate w owner w.upload.id parts now written).2) := by
  obtain ⟨-, ⟨sid, hsid⟩, -⟩ := h.multipart hmode
  have hverify : ((verifyObject w.upload.id w.media written).run
      (fun c => exec assembly used (fate c) c) w.assembled).2 =
      if fate (.head w.media.objectKey) ≠ .served ∨
          fate (.completeUpload w.upload.id written) = .failed then w.assembled
      else w.assembled.completed written :=
    verifyObject_leaves assembly used (w := w.assembled) fate rfl written
  rw [callComplete_multipart assembly used fate h hmode hsid hnow]
  constructor
  · rintro ⟨-, -, sid', hsid', hread, hstrand⟩
    obtain rfl : sid = sid' := Option.some.inj (hsid.symm.trans hsid')
    rw [if_pos hread]
    rcases hstrand with hlost | ⟨hserved, hlate⟩
    · rw [hlost]
    · rw [hserved]
      dsimp only
      rw [hverify, if_pos hlate]
  · intro hsafe
    by_cases hread : fate (.uploadByID w.upload.id) = .served
    · rw [if_pos hread]
      cases hassemble : fate (.completeMultipart w.media.objectKey sid (sortParts parts)) with
      | served =>
          dsimp only
          have hwritten : ¬(fate (.head w.media.objectKey) ≠ .served ∨
              fate (.completeUpload w.upload.id written) = .failed) := fun hlate =>
            hsafe ⟨h.status, hmode, sid, hsid, hread, Or.inr ⟨hassemble, hlate⟩⟩
          rw [hverify, if_neg hwritten]
          exact Or.inr ⟨rfl, rfl, rfl, rfl⟩
      | failed => exact Or.inl rfl
      | lost =>
          exact absurd ⟨h.status, hmode, sid, hsid, hread, Or.inl hassemble⟩ hsafe
    · rw [if_neg hread]
      exact Or.inl rfl

/-- Nothing is called on a completed upload but the read of its rows. -/
theorem callComplete_isCompleted_world (fate : Call → Fate) {w : World} {owner : String}
    (h : IsCompleted w owner) (parts : List CompletedPart) (now written : Int64) :
    (callComplete assembly used fate w owner w.upload.id parts now written).2 = w := by
  rw [callComplete, complete, run_call]
  cases hread : fate (.uploadByID w.upload.id) with
  | served =>
      simp only [exec, perform, if_true]
      rw [if_neg (not_not.mpr h.owner), if_pos ⟨h.upload, h.media⟩, run_done]
  | failed => simp [exec]
  | lost => simp [exec, perform]

/-- The second call finishes an upload that the first one completed or left alone. -/
theorem retried_of_doneOrAsBefore {w w' : World} {owner : String} {parts : List CompletedPart}
    (h : Completable assembly w owner parts) (hw' : DoneOrAsBefore w w') {now : Int64}
    (hnow : now < w.upload.expiresAtMs) (written : Int64) :
    Finishes assembly used w' owner w.upload.id parts now written := by
  rcases hw' with rfl | ⟨hid, howner, hupload, hmedia⟩
  · exact callComplete_healthy assembly used h hnow written
  · have hdone : IsCompleted w' owner := ⟨howner.trans h.owner, hupload, hmedia⟩
    rw [← hid, Finishes, callComplete_isCompleted assembly used hdone]
    exact ⟨rfl, hmedia⟩

/-- `Complete`, called again. -/
theorem complete_retry_iff (fate : Call → Fate) {w : World} {owner : String}
    {parts : List CompletedPart} (h : Completable assembly w owner parts ∨ IsCompleted w owner)
    {now later : Int64} (hlater : now ≤ later) (hexpiry : later < w.upload.expiresAtMs)
    (written rewritten : Int64) :
    Finishes assembly used
        (callComplete assembly used fate w owner w.upload.id parts now written).2
        owner w.upload.id parts later rewritten ↔
      ¬StrandsComplete fate w parts written := by
  have hnow : now < w.upload.expiresAtMs := Int64.lt_of_le_of_lt hlater hexpiry
  rcases h with h | h
  · cases hmode : w.upload.mode with
    | single =>
        have hleaves : DoneOrAsBefore w _ :=
          doneOrAsBefore_single assembly used fate h hmode hnow written
        constructor
        · rintro - ⟨-, hmultipart, -⟩
          rw [hmode] at hmultipart
          exact absurd hmultipart (by decide)
        · intro _
          exact retried_of_doneOrAsBefore assembly used h hleaves hexpiry rewritten
    | multipart =>
        obtain ⟨-, ⟨sid, hsid⟩, hvalid⟩ := h.multipart hmode
        obtain ⟨hstranded, hsafe⟩ :=
          callComplete_leaves assembly used fate h hmode hnow written
        constructor
        · rintro ⟨hok, -⟩ hstrands
          have hused := callComplete_used assembly used (w := w.assembled) h.owner h.status hmode
            hsid hvalid (by simp [World.assembled]) hexpiry rewritten
          rw [hstranded hstrands] at hok
          have hok' := (congrArg Prod.fst hused).symm.trans hok
          exact absurd hok' (by simp)
        · intro hnot
          exact retried_of_doneOrAsBefore assembly used h (hsafe hnot) hexpiry rewritten
  · rw [callComplete_isCompleted_world assembly used fate h, Finishes,
      callComplete_isCompleted assembly used h]
    constructor
    · rintro - ⟨hopen, -⟩
      rw [h.upload] at hopen
      exact absurd hopen (by decide)
    · intro _
      exact ⟨rfl, h.media⟩

-- ============================================================================
-- `Abort`
-- ============================================================================

/-- A first call that uses the multipart id up and does not get as far as the row. -/
def StrandsAbort (fate : Call → Fate) (w : World) (now : Int64) : Prop :=
  w.upload.status = .OPEN ∧
    ∃ sid, w.upload.s3UploadID = some sid ∧ fate (.uploadByID w.upload.id) = .served ∧
      (fate (.abortMultipart w.media.objectKey sid) = .lost ∨
        fate (.abortMultipart w.media.objectKey sid) = .served ∧
          (fate (.delete w.media.objectKey) ≠ .served ∨
            fate (.failUpload w.upload.id now) = .failed))

/-- The upload `w` with its rows as they are, whatever has become of the object. -/
def SameRows (w w' : World) : Prop :=
  w'.upload = w.upload ∧ w'.media = w.media ∧ w'.multipart = w.multipart

/-- The end of `Abort` writes the row, or leaves both rows alone. -/
theorem dropObject_run (fate : Call → Fate) (w : World) (now : Int64) :
    let r := (dropObject w.upload.id w.media now).run (fun c => exec assembly used (fate c) c) w
    (r.1 = .ok () → r.2.upload.status = .ABORTED ∧ r.2.media.status = .FAILED) ∧
    (fate (.delete w.media.objectKey) ≠ .served ∨ fate (.failUpload w.upload.id now) = .failed →
      SameRows w r.2) ∧
    (¬(fate (.delete w.media.objectKey) ≠ .served ∨
        fate (.failUpload w.upload.id now) = .failed) →
      r.2.upload.id = w.upload.id ∧ r.2.media.ownerUserID = w.media.ownerUserID ∧
      r.2.upload.status = .ABORTED ∧ r.2.media.status = .FAILED) ∧
    (fate (.delete w.media.objectKey) = .served → fate (.failUpload w.upload.id now) = .served →
      r.1 = .ok ()) := by
  dsimp only
  rw [dropObject, run_call]
  cases hdelete : fate (.delete w.media.objectKey) with
  | served =>
      simp only [exec, perform, if_true, run_call]
      cases hwrite : fate (.failUpload w.upload.id now) with
      | served => simp [World.failed]
      | failed => simp [SameRows]
      | lost => simp [World.failed]
  | failed => simp [exec, SameRows]
  | lost => simp [exec, perform, SameRows]

theorem callAbort_open (fate : Call → Fate) {w : World} {owner : String} (h : Abortable w owner)
    (now : Int64) :
    callAbort assembly used fate w owner w.upload.id now =
      if fate (.uploadByID w.upload.id) = .served then
        match w.upload.s3UploadID with
        | none =>
            (dropObject w.upload.id w.media now).run (fun c => exec assembly used (fate c) c) w
        | some sid =>
            match fate (.abortMultipart w.media.objectKey sid) with
            | .served =>
                (dropObject w.upload.id w.media now).run
                  (fun c => exec assembly used (fate c) c) w.dropped
            | .failed => (.error (.store callFailed), w)
            | .lost => (.error (.store callFailed), w.dropped)
      else (.error (.store callFailed), w) := by
  have hcompleted : ¬(w.upload.status = .COMPLETED ∨ w.media.status = .READY) := by
    rintro (hupload | hmedia)
    · rw [h.status] at hupload
      exact absurd hupload (by decide)
    · exact h.media hmedia
  rw [callAbort, abort, run_call]
  cases hread : fate (.uploadByID w.upload.id) with
  | served =>
      rw [if_pos rfl]
      simp only [exec, perform, if_true]
      rw [if_neg (not_not.mpr h.owner), if_neg hcompleted, if_neg (by simp [h.status])]
      cases hsid : w.upload.s3UploadID with
      | none => rfl
      | some sid =>
          have howns : w.Owns w.media.objectKey sid ∧ w.multipart = .inProgress :=
            ⟨⟨rfl, hsid⟩, h.multipart (by simp [hsid])⟩
          dsimp only
          rw [run_call]
          cases habort : fate (.abortMultipart w.media.objectKey sid) with
          | served => simp [exec, perform, howns, World.dropped]
          | failed => simp [exec]
          | lost => simp [exec, perform, howns, World.dropped]
  | failed => simp [exec]
  | lost => simp [exec, perform]

/-- A healthy call aborts an upload that waits for it. -/
theorem callAbort_healthy {w : World} {owner : String} (h : Abortable w owner) (now : Int64) :
    Aborts assembly used w owner w.upload.id now := by
  rw [Aborts, callAbort_open assembly used healthy h, healthy_apply, if_pos rfl]
  cases hsid : w.upload.s3UploadID with
  | none =>
      obtain ⟨hrows, -, -, hok⟩ :=
        dropObject_run assembly used healthy w now
      exact ⟨hok rfl rfl, hrows (hok rfl rfl)⟩
  | some sid =>
      obtain ⟨hrows, -, -, hok⟩ :=
        dropObject_run assembly used healthy w.dropped now
      exact ⟨hok rfl rfl, hrows (hok rfl rfl)⟩

/-- An aborted upload is aborted once more, without a call that writes. -/
theorem callAbort_isAborted (fate : Call → Fate) {w : World} {owner : String}
    (h : IsAborted w owner) (now : Int64) :
    (callAbort assembly used fate w owner w.upload.id now).2 = w ∧
    (fate (.uploadByID w.upload.id) = .served →
      (callAbort assembly used fate w owner w.upload.id now).1 = .ok ()) := by
  rw [callAbort, abort, run_call]
  cases hread : fate (.uploadByID w.upload.id) with
  | served =>
      simp only [exec, perform, if_true]
      rw [if_neg (not_not.mpr h.owner), if_neg (by simp [h.upload, h.media]), if_pos h.upload]
      simp
  | failed => simp [exec]
  | lost => simp [exec, perform]

/-- The used multipart id is rejected. -/
theorem callAbort_used {w : World} {owner sid : String} (howner : w.media.ownerUserID = owner)
    (hstatus : w.upload.status = .OPEN) (hmedia : w.media.status ≠ .READY)
    (hsid : w.upload.s3UploadID = some sid) (hused : w.multipart ≠ .inProgress) (now : Int64) :
    (callAbort assembly used healthy w owner w.upload.id now).1 = .error (.store noSuchUpload) := by
  rw [callAbort, abort, run_call]
  simp only [exec, healthy_apply, perform, if_true]
  rw [if_neg (not_not.mpr howner), if_neg (by simp [hstatus, hmedia]), if_neg (by simp [hstatus]),
    hsid]
  dsimp only
  rw [run_call]
  simp [exec, perform, hused]

/-- What a first call leaves: an upload that still waits to be aborted or is aborted, or
    one whose multipart id is used up. -/
theorem callAbort_leaves (fate : Call → Fate) {w : World} {owner : String}
    (h : Abortable w owner) (now : Int64) :
    let w' := (callAbort assembly used fate w owner w.upload.id now).2
    w'.upload.id = w.upload.id ∧
    (StrandsAbort fate w now → w'.media.ownerUserID = owner ∧ w'.upload.status = .OPEN ∧
      w'.media.status ≠ .READY ∧ w'.upload.s3UploadID = w.upload.s3UploadID ∧
      w'.multipart = .aborted) ∧
    (¬StrandsAbort fate w now → Abortable w' owner ∨ IsAborted w' owner) := by
  dsimp only
  rw [callAbort_open assembly used fate h]
  by_cases hread : fate (.uploadByID w.upload.id) = .served
  · rw [if_pos hread]
    cases hsid : w.upload.s3UploadID with
    | none =>
        obtain ⟨-, hsame, hwritten, -⟩ :=
          dropObject_run assembly used fate w now
        dsimp only
        by_cases hlate : fate (.delete w.media.objectKey) ≠ .served ∨
            fate (.failUpload w.upload.id now) = .failed
        · obtain ⟨hupload, hmedia, hmultipart⟩ := hsame hlate
          refine ⟨by rw [hupload], ?_, ?_⟩
          · rintro ⟨-, sid, hsid', -⟩
            rw [hsid] at hsid'
            exact absurd hsid' (by simp)
          · intro _
            refine Or.inl ⟨?_, ?_, ?_, ?_⟩
            · rw [hmedia, h.owner]
            · rw [hupload, h.status]
            · rw [hmedia]
              exact h.media
            · rw [hupload, hmultipart]
              exact h.multipart
        · obtain ⟨hid, howner, hupload, hmedia⟩ := hwritten hlate
          refine ⟨hid, ?_, ?_⟩
          · rintro ⟨-, sid, hsid', -⟩
            rw [hsid] at hsid'
            exact absurd hsid' (by simp)
          · intro _
            exact Or.inr ⟨howner.trans h.owner, hupload, hmedia⟩
    | some sid =>
        dsimp only
        obtain ⟨-, hsame, hwritten, -⟩ :=
          dropObject_run assembly used fate w.dropped now
        cases habort : fate (.abortMultipart w.media.objectKey sid) with
        | served =>
            dsimp only
            by_cases hlate : fate (.delete w.media.objectKey) ≠ .served ∨
                fate (.failUpload w.upload.id now) = .failed
            · obtain ⟨hupload, hmedia, hmultipart⟩ := hsame hlate
              refine ⟨congrArg Upload.id hupload, ?_, ?_⟩
              · intro _
                refine ⟨(congrArg Media.ownerUserID hmedia).trans h.owner,
                  (congrArg Upload.status hupload).trans h.status, ?_,
                  (congrArg Upload.s3UploadID hupload).trans hsid, hmultipart⟩
                have hstatus := congrArg Media.status hmedia
                exact fun hready => h.media (hstatus.symm.trans hready)
              · intro hnot
                exact absurd ⟨h.status, sid, hsid, hread, Or.inr ⟨habort, hlate⟩⟩ hnot
            · obtain ⟨hid, howner, hupload, hmedia⟩ := hwritten hlate
              refine ⟨hid, ?_, ?_⟩
              · rintro ⟨-, sid', hsid', -, hstrand⟩
                obtain rfl : sid = sid' := Option.some.inj (hsid.symm.trans hsid')
                rw [habort] at hstrand
                rcases hstrand with hlost | ⟨-, hlate'⟩
                · exact absurd hlost (by decide)
                · exact absurd hlate' hlate
              · intro _
                exact Or.inr ⟨howner.trans h.owner, hupload, hmedia⟩
        | failed =>
            refine ⟨rfl, ?_, fun _ => Or.inl h⟩
            rintro ⟨-, sid', hsid', -, hstrand⟩
            obtain rfl : sid = sid' := Option.some.inj (hsid.symm.trans hsid')
            rw [habort] at hstrand
            rcases hstrand with hlost | ⟨hserved, -⟩
            · exact absurd hlost (by decide)
            · exact absurd hserved (by decide)
        | lost =>
            refine ⟨rfl, fun _ => ⟨h.owner, h.status, h.media, hsid, rfl⟩, ?_⟩
            intro hnot
            exact absurd ⟨h.status, sid, hsid, hread, Or.inl habort⟩ hnot
  · rw [if_neg hread]
    refine ⟨rfl, ?_, fun _ => Or.inl h⟩
    rintro ⟨-, sid, -, hread', -⟩
    exact absurd hread' hread

/-- `Abort`, called again. -/
theorem abort_retry_iff (fate : Call → Fate) {w : World} {owner : String}
    (h : Abortable w owner ∨ IsAborted w owner) (now later : Int64) :
    Aborts assembly used (callAbort assembly used fate w owner w.upload.id now).2 owner
        w.upload.id later ↔
      ¬StrandsAbort fate w now := by
  have haborted : ∀ w' : World, IsAborted w' owner →
      Aborts assembly used w' owner w'.upload.id later := by
    intro w' h'
    obtain ⟨hworld, hok⟩ := callAbort_isAborted assembly used healthy h' later
    rw [Aborts, hworld]
    exact ⟨hok rfl, h'.upload, h'.media⟩
  rcases h with h | h
  · obtain ⟨hid, hstranded, hsafe⟩ :=
      callAbort_leaves assembly used fate h now
    generalize (callAbort assembly used fate w owner w.upload.id now).2 = w' at hid hstranded hsafe ⊢
    rw [← hid]
    constructor
    · rintro ⟨hok, -⟩ hstrands
      obtain ⟨howner, hstatus, hmedia, hsid, hmultipart⟩ := hstranded hstrands
      obtain ⟨-, sid, hsid', -⟩ := hstrands
      have hused := callAbort_used assembly used howner hstatus hmedia
        (hsid.trans hsid') (by rw [hmultipart]; decide) later
      exact absurd (hused.symm.trans hok) (by simp)
    · intro hnot
      rcases hsafe hnot with habortable | hdone
      · exact callAbort_healthy assembly used habortable later
      · exact haborted _ hdone
  · rw [(callAbort_isAborted assembly used fate h now).1]
    constructor
    · rintro - ⟨hopen, -⟩
      rw [h.upload] at hopen
      exact absurd hopen (by decide)
    · intro _
      exact haborted w h

-- ============================================================================
-- Retries
-- ============================================================================

/-- **Retries.**  Whatever becomes of the calls of the first `Complete` or `Abort`, a
    healthy second one ends the upload exactly if the first has not used its multipart id
    up and stopped before the row was written. -/
theorem retry_iff (fate : Call → Fate) :
    (∀ (w : World) (owner : String) (parts : List CompletedPart)
        (now later written rewritten : Int64),
      Completable assembly w owner parts ∨ IsCompleted w owner →
      now ≤ later → later < w.upload.expiresAtMs →
      (Finishes assembly used
          (callComplete assembly used fate w owner w.upload.id parts now written).2
          owner w.upload.id parts later rewritten ↔
        ¬StrandsComplete fate w parts written)) ∧
    ∀ (w : World) (owner : String) (now later : Int64), Abortable w owner ∨ IsAborted w owner →
      (Aborts assembly used (callAbort assembly used fate w owner w.upload.id now).2 owner
          w.upload.id later ↔
        ¬StrandsAbort fate w now) :=
  ⟨fun _ _ _ _ _ written rewritten h hlater hexpiry =>
      complete_retry_iff assembly used fate h hlater hexpiry written rewritten,
    fun _ _ now later h => abort_retry_iff assembly used fate h now later⟩

/-- An upload of two parts that waits to be completed. -/
def twoPartUpload : World where
  upload := ⟨"u", "m", .multipart, .OPEN, some "s3-upload", 0, 86400000⟩
  media := ⟨"m", "owner", "media/owner/m/source", "movie.mp4", "video/mp4", .UPLOADING, 67108864,
    0, 0⟩
  deletedAtMs := none
  object := none
  multipart := .inProgress

/-- The two parts of the upload. -/
def twoParts : List CompletedPart := [⟨1, "first"⟩, ⟨2, "second"⟩]

/-- Two parts make an object of 64 MiB. -/
def twoPartAssembly : Assembly := fun parts => if parts.length = 2 then some 67108864 else none

/-- One call has this fate. -/
def oneCall (c : Call) (fate : Fate) (x : Call) : Fate := if x = c then fate else .served

theorem completable_twoPartUpload :
    Completable twoPartAssembly twoPartUpload "owner" twoParts where
  owner := rfl
  status := rfl
  single := fun h => absurd h (by decide)
  multipart := fun _ => ⟨rfl, ⟨"s3-upload", rfl⟩, by decide, by decide, by
    simp [twoPartAssembly, sortParts, twoParts, twoPartUpload]⟩

theorem abortable_twoPartUpload : Abortable twoPartUpload "owner" where
  owner := rfl
  status := rfl
  media := by decide
  multipart := fun _ => rfl

/-- The answer of `CompleteUpload` is lost after its transaction: the retry succeeds. -/
theorem retry_twoPartUpload :
    Finishes twoPartAssembly false
      (callComplete twoPartAssembly false (oneCall (.completeUpload "u" 1000) .lost) twoPartUpload
        "owner" "u" twoParts 1000 1000).2 "owner" "u" twoParts 2000 2000 := by
  refine ((retry_iff twoPartAssembly false (oneCall (.completeUpload "u" 1000) .lost)).1
    twoPartUpload "owner" twoParts 1000 2000 1000 2000 (Or.inl completable_twoPartUpload)
    (by decide) (by decide)).mpr ?_
  rintro ⟨-, -, sid, -, -, hlost | ⟨-, hhead | hwrite⟩⟩
  · exact absurd hlost (by simp [oneCall])
  · exact absurd hhead (by simp [oneCall])
  · exact absurd hwrite (by decide)

/-- `CompleteUpload` fails, or the `Delete` of an `Abort`: no retry ends the upload. -/
theorem twoPartUpload_stranded :
    ¬Finishes twoPartAssembly false
      (callComplete twoPartAssembly false (oneCall (.completeUpload "u" 1000) .failed)
        twoPartUpload "owner" "u" twoParts 1000 1000).2 "owner" "u" twoParts 2000 2000 ∧
    ¬Aborts twoPartAssembly false
      (callAbort twoPartAssembly false (oneCall (.delete "media/owner/m/source") .failed)
        twoPartUpload "owner" "u" 1000).2 "owner" "u" 2000 := by
  constructor
  · intro hfinishes
    refine (complete_retry_iff twoPartAssembly false (oneCall (.completeUpload "u" 1000) .failed)
      (Or.inl completable_twoPartUpload) (show (1000 : Int64) ≤ 2000 by decide)
      (show (2000 : Int64) < 86400000 by decide) 1000 2000).mp hfinishes ?_
    exact ⟨rfl, rfl, "s3-upload", rfl, rfl, Or.inr ⟨by simp [oneCall], Or.inr rfl⟩⟩
  · intro haborts
    refine (abort_retry_iff twoPartAssembly false
      (oneCall (.delete "media/owner/m/source") .failed) (Or.inl abortable_twoPartUpload)
      1000 2000).mp haborts ?_
    exact ⟨rfl, "s3-upload", rfl, rfl, Or.inr ⟨rfl, Or.inl (by decide)⟩⟩

end WatchTogether.Uploads

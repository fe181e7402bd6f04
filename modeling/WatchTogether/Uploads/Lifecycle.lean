/-
  WatchTogether.Uploads.Lifecycle

  One upload under any number of completions, aborts, deletions and sweeps at once.  A
  step is one call of one of them; the rows are checked at the beginning of an operation
  and written at its end, and everything may happen in between.
-/

import WatchTogether.Lib.LabelledRun
import WatchTogether.Lib.Pool
import WatchTogether.Uploads.World

namespace WatchTogether.Uploads

open LabelledRun
open Repository (MediaStatus)

-- ============================================================================
-- Operations on an upload
-- ============================================================================

/-- The operations, with what they are called with and the readings of their clocks. -/
inductive Operation where
  | complete (owner uploadID : String) (parts : List CompletedPart) (now written : Int64)
  | abort (owner uploadID : String) (now : Int64)
  | deleteMedia (userID mediaID : String) (now written : Int64)
  | adminDeleteMedia (adminID mediaID : String) (now written : Int64)
  | maintenance (now : Int64)

namespace Operation

/-- The code of the operation. -/
def code : Operation → Code Unit
  | complete owner uploadID parts now written =>
      (Uploads.complete owner uploadID parts now written).void
  | abort owner uploadID now => (Uploads.abort owner uploadID now).void
  | deleteMedia userID mediaID now written => (Uploads.deleteMedia userID mediaID now written).void
  | adminDeleteMedia adminID mediaID now written =>
      (Uploads.adminDeleteMedia adminID mediaID now written).void
  | maintenance now => Uploads.maintenance now

/-- The user's or the administrator's deletion. -/
def isDeletion : Operation → Bool
  | deleteMedia .. | adminDeleteMedia .. => true
  | _ => false

end Operation

/-- What comes of a call: its fate, and whether a room that is not closed shows the media
    then. -/
structure Outcome where
  fate : Fate
  used : Bool

/-- An upload in its world; `matched`: a `Head` has found the declared size. -/
structure Shared where
  toWorld : World
  matched : Bool

/-- A call of a shared upload. -/
def Shared.exec (assembly : Assembly) (o : Outcome) (c : Call) (s : Shared) : c.Answer × Shared :=
  let r := Uploads.exec assembly o.used o.fate c s.toWorld
  (r.1, ⟨r.2, s.matched || (c == .head s.toWorld.media.objectKey && o.fate == .served &&
    s.toWorld.object == some s.toWorld.media.sizeBytes)⟩)

/-- The browser puts an object of this size under the key of a single upload. -/
def Shared.put (size : Int64) (s : Shared) : Shared :=
  { s with toWorld := { s.toWorld with object := some size } }

/-- Operations on one upload. -/
abbrev Uploading : Type := Pool Operation Call Call.Answer Shared

/-- A call of an operation, the start of one, or a write of the browser. -/
abbrev Step : Type := Pool.Move Operation Outcome Int64

/-- One call of an operation, the start of one, or a write of the browser. -/
def Uploading.step (assembly : Assembly) (s : Uploading) (l : Step) : Uploading :=
  Pool.step Operation.code (Shared.exec assembly) Shared.put s l

/-- A media that is neither deleted nor anything but ready. -/
def World.Live (w : World) : Prop := w.media.status = .READY ∧ w.deletedAtMs = none

/-- The upload has come to its end. -/
def World.Settled (w : World) : Prop :=
  (w.upload.status = .COMPLETED ∧ w.media.status = .READY) ∨
    (w.upload.status = .ABORTED ∧ w.media.status = .FAILED)

/-- What an operation may do to the upload in a step. -/
structure Lawful (assembly : Assembly) (s : Uploading) (l : Step) : Prop where
  /-- No completion, abort or sweep changes an upload that has come to its end. -/
  settled : ∀ i o t c, l = .advance i o → s.pending i = some (t, c) → t.isDeletion = false →
    s.world.toWorld.Settled →
    (s.step assembly l).world.toWorld.upload.status = s.world.toWorld.upload.status ∧
    (s.step assembly l).world.toWorld.media.status = s.world.toWorld.media.status
  /-- A deleted media is neither ready nor failed. -/
  deleted : (s.step assembly l).world.toWorld.deletedAtMs ≠ none →
    (s.step assembly l).world.toWorld.media.status ≠ .READY ∧
    (s.step assembly l).world.toWorld.media.status ≠ .FAILED
  /-- A live media has its object. -/
  object : (s.step assembly l).world.toWorld.Live →
    (s.step assembly l).world.toWorld.object
      = some (s.step assembly l).world.toWorld.media.sizeBytes

/-- The assumption on the browser: nobody overwrites the object after a `Head` has found
    the declared size. -/
def NoOverwrite (s : Uploading) (l : Step) : Prop :=
  ∀ size, l = .disturb size → s.world.matched = false

/-- A write that comes too late: the upload has been ended by another operation since
    the writer looked. -/
def ComesLate (w : World) : Call → Prop
  | .completeUpload id _ =>
      id = w.upload.id ∧
        (w.upload.status = .ABORTED ∨ w.deletedAtMs ≠ none ∨ w.object ≠ some w.media.sizeBytes)
  | .failUpload id _ =>
      id = w.upload.id ∧ (w.upload.status = .COMPLETED ∨ w.deletedAtMs ≠ none)
  | .delete key => key = w.media.objectKey ∧ w.Live
  | _ => False

instance (w : World) (c : Call) : Decidable (ComesLate w c) := by
  cases c <;> unfold ComesLate <;> unfold World.Live <;> infer_instance

/-- The step makes a write that comes too late. -/
def LateWrite (s : Uploading) (l : Step) : Prop :=
  ∃ i o t c, l = .advance i o ∧ s.pending i = some (t, c) ∧ o.fate ≠ .failed ∧
    ComesLate s.world.toWorld c

-- ============================================================================
-- What a call does to the upload
-- ============================================================================

/-- The change of a call, with its guard. -/
inductive Effect (w : World) : Call → World → Prop
  | none (c : Call) : Effect w c w
  | completed (id : String) (now : Int64) (hid : id = w.upload.id) :
      Effect w (.completeUpload id now) (w.completed now)
  | failed (id : String) (now : Int64) (hid : id = w.upload.id) :
      Effect w (.failUpload id now) (w.failed now)
  | softDeleted (id owner : String) (now : Int64) (hlive : w.deletedAtMs = none)
      (hstatus : w.media.status ≠ .UPLOADING) :
      Effect w (.softDeleteMedia id owner now) (w.softDeleted now)
  | statusSet (id : String) (status : MediaStatus) (now : Int64) :
      Effect w (.setMediaDeleteStatus id status now) (w.withMediaStatus status now)
  | assembled (key sid : String) (parts : List CompletedPart) (size : Int64)
      (hprogress : w.multipart = .inProgress) :
      Effect w (.completeMultipart key sid parts)
        { w with object := some size, multipart := .completed }
  | dropped (key sid : String) :
      Effect w (.abortMultipart key sid) { w with multipart := .aborted }
  | deleted (key : String) (hkey : key = w.media.objectKey) :
      Effect w (.delete key) { w with object := Option.none }

theorem perform_effect (assembly : Assembly) (used : Bool) (c : Call) (w : World) :
    Effect w c (perform assembly used c w).2 := by
  cases c with
  | completeUpload id now =>
      rw [perform]
      split
      · rename_i hid
        exact .completed id now hid
      · exact .none _
  | failUpload id now =>
      rw [perform]
      split
      · rename_i hid
        exact .failed id now hid
      · exact .none _
  | softDeleteMedia id owner now =>
      rw [perform]
      split
      · rename_i hguard
        exact .softDeleted id owner now hguard.2.2.1 hguard.2.2.2.1
      · exact .none _
  | setMediaDeleteStatus id status now =>
      rw [perform]
      split
      · exact .statusSet id status now
      · exact .none _
  | completeMultipart key sid parts =>
      rw [perform]
      split
      · rename_i hguard
        split
        · exact .assembled key sid parts _ hguard.2
        · exact .none _
      · exact .none _
  | abortMultipart key sid =>
      rw [perform]
      split
      · exact .dropped key sid
      · exact .none _
  | delete key =>
      rw [perform]
      split
      · rename_i hkey
        exact .deleted key hkey
      · exact .none _
  | _ =>
      rw [perform]
      repeat' split
      all_goals exact .none _

/-- A call that fails has no effect, and any other its own. -/
theorem exec_effect (assembly : Assembly) (o : Outcome) (c : Call) (w : World) :
    Effect w c (exec assembly o.used o.fate c w).2 := by
  obtain ⟨fate, used⟩ := o
  cases fate with
  | served => exact perform_effect assembly used c w
  | failed => exact .none c
  | lost => exact perform_effect assembly used c w

namespace Effect

variable {w w' : World} {c : Call}

theorem mode (h : Effect w c w') : w'.upload.mode = w.upload.mode := by cases h <;> rfl

theorem sizeBytes (h : Effect w c w') : w'.media.sizeBytes = w.media.sizeBytes := by
  cases h <;> rfl

/-- A media stays deleted. -/
theorem deletedAtMs (h : Effect w c w') (hdeleted : w.deletedAtMs ≠ Option.none) :
    w'.deletedAtMs ≠ Option.none := by
  cases h with
  | softDeleted => simp [World.softDeleted]
  | _ => exact hdeleted

/-- A multipart id stays used up. -/
theorem multipart (h : Effect w c w') (hused : w.multipart ≠ .inProgress) :
    w'.multipart ≠ .inProgress := by
  cases h with
  | assembled => simp
  | dropped => simp
  | _ => exact hused

end Effect

-- ============================================================================
-- What an operation knows
-- ============================================================================

/-- What an operation has learned: the media is deleted, a `Head` has found the declared
    size, the multipart id is used up. -/
structure Facts where
  deleted : Bool
  matched : Bool
  closed : Bool

/-- Nothing has happened yet. -/
def Facts.start : Facts := ⟨false, false, false⟩

/-- The facts after an answer, of an upload of this size. -/
def Facts.gain (size : Int64) (f : Facts) : (c : Call) → c.Answer → Facts
  | .softDeleteMedia .., .ok _ => { f with deleted := true }
  | .pendingMediaDeletes, .ok (_ :: _) => { f with deleted := true }
  | .head _, .ok n => if n = size then { f with matched := true } else f
  | .completeMultipart .., .ok _ => { f with closed := true }
  | _, _ => f

/-- What an operation knows of an upload of this mode and size, and needs to write. -/
def discipline (mode : UploadMode) (size : Int64) :
    Discipline Operation Call Call.Answer Shared where
  Facts := Facts
  holds f s :=
    (f.deleted = true → s.toWorld.deletedAtMs ≠ none) ∧ (f.matched = true → s.matched = true) ∧
      (f.closed = true → s.toWorld.multipart ≠ .inProgress)
  possible
    | .uploadByID _, .ok (u, m) => u.mode = mode ∧ m.sizeBytes = size
    | _, _ => True
  pre t f
    | .completeUpload .. =>
        t.isDeletion = false ∧ f.matched = true ∧ (mode = .multipart → f.closed = true)
    | .failUpload .. => t.isDeletion = false
    | .softDeleteMedia .. => t.isDeletion = true
    | .setMediaDeleteStatus _ status _ =>
        f.deleted = true ∧ (status = .DELETE_FAILED ∨ status = .DELETED)
    | .completeMultipart .. => mode = .multipart
    | _ => True
  gain := Facts.gain size

section Programs

variable (mode : UploadMode) (size : Int64)

theorem respects_verifyObject {t : Operation} (ht : t.isDeletion = false) (uploadID : String)
    {m : Media} (hm : m.sizeBytes = size) (written : Int64) {f : Facts}
    (hclosed : mode = .multipart → f.closed = true) :
    (discipline mode size).Respects t (verifyObject uploadID m written) f := by
  refine ⟨trivial, ?_⟩
  rintro (e | n) -
  · trivial
  · show (discipline mode size).Respects t (if n ≠ m.sizeBytes then _ else _) _
    split
    · refine ⟨trivial, fun _ _ => ⟨ht, fun _ _ => trivial⟩⟩
    · rename_i hn
      have hn : n = size := (not_not.mp hn).trans hm
      refine ⟨⟨ht, ?_, ?_⟩, ?_⟩
      · show (Facts.gain size f (.head m.objectKey) (.ok n)).matched = true
        simp [Facts.gain, hn]
      · intro hmode
        show (Facts.gain size f (.head m.objectKey) (.ok n)).closed = true
        simp [Facts.gain, hn, hclosed hmode]
      · rintro (_ | _) - <;> trivial

theorem respects_complete {t : Operation} (ht : t.isDeletion = false) (owner uploadID : String)
    (parts : List CompletedPart) (now written : Int64) (f : Facts) :
    (discipline mode size).Respects t (complete owner uploadID parts now written) f := by
  refine ⟨trivial, ?_⟩
  rintro (e | ⟨u, m⟩) hpossible
  · trivial
  · obtain ⟨hmode, hm⟩ := hpossible
    dsimp only
    split
    · trivial
    split
    · trivial
    split
    · trivial
    split
    · rename_i hmultipart
      split
      · trivial
      split
      · trivial
      split
      · trivial
      refine ⟨hmode.symm.trans hmultipart, ?_⟩
      rintro (e | _) -
      · trivial
      · exact respects_verifyObject mode size ht uploadID hm written (fun _ => rfl)
    · rename_i hsingle
      refine respects_verifyObject mode size ht uploadID hm written ?_
      intro hmultipart
      exact absurd (hmode.trans hmultipart) hsingle

theorem respects_dropObject {t : Operation} (ht : t.isDeletion = false) (uploadID : String)
    (m : Media) (now : Int64) (f : Facts) :
    (discipline mode size).Respects t (dropObject uploadID m now) f := by
  refine ⟨trivial, ?_⟩
  rintro (e | _) -
  · trivial
  · refine ⟨ht, ?_⟩
    rintro (e | _) - <;> trivial

theorem respects_abort {t : Operation} (ht : t.isDeletion = false) (owner uploadID : String)
    (now : Int64) (f : Facts) :
    (discipline mode size).Respects t (abort owner uploadID now) f := by
  refine ⟨trivial, ?_⟩
  rintro (e | ⟨u, m⟩) -
  · trivial
  · dsimp only
    split
    · trivial
    split
    · trivial
    split
    · trivial
    split
    · refine ⟨trivial, ?_⟩
      rintro (e | _) -
      · trivial
      · exact respects_dropObject mode size ht uploadID m now _
    · exact respects_dropObject mode size ht uploadID m now _

theorem respects_deleteObject (t : Operation) (mediaID : String) (m : Media) (now : Int64)
    (failure : Response) {f : Facts} (hdeleted : f.deleted = true) :
    (discipline mode size).Respects t (deleteObject mediaID m now failure) f := by
  refine ⟨trivial, ?_⟩
  rintro (e | _) -
  · exact ⟨⟨hdeleted, Or.inl rfl⟩, fun _ _ => trivial⟩
  · exact ⟨⟨hdeleted, Or.inr rfl⟩, fun _ _ => trivial⟩

theorem respects_deleteMedia {t : Operation} (ht : t.isDeletion = true) (userID mediaID : String)
    (now written : Int64) (f : Facts) :
    (discipline mode size).Respects t (deleteMedia userID mediaID now written) f := by
  refine ⟨trivial, ?_⟩
  rintro (e | m) -
  · trivial
  · dsimp only
    split
    · trivial
    refine ⟨trivial, fun used _ => ?_⟩
    dsimp only
    split
    · trivial
    refine ⟨ht, ?_⟩
    rintro (e | _) -
    · trivial
    · exact respects_deleteObject mode size t mediaID m written _ rfl

theorem respects_adminDeleteMedia {t : Operation} (ht : t.isDeletion = true)
    (adminID mediaID : String) (now written : Int64) (f : Facts) :
    (discipline mode size).Respects t (adminDeleteMedia adminID mediaID now written) f := by
  refine ⟨trivial, ?_⟩
  rintro (e | m) -
  · trivial
  · dsimp only
    split
    · trivial
    refine ⟨trivial, ?_⟩
    rintro (e | _ | _) -
    · trivial
    · refine ⟨ht, ?_⟩
      rintro (e | _) -
      · trivial
      · exact ⟨trivial, fun _ _ => respects_deleteObject mode size t mediaID m written _ rfl⟩
    · trivial

theorem respects_sweepDeletes (t : Operation) (now : Int64) (deletes : List Media) {f : Facts}
    (hdeleted : f.deleted = true) :
    (discipline mode size).Respects t (sweepDeletes now deletes) f := by
  induction deletes generalizing f with
  | nil => trivial
  | cons m rest ih =>
      refine ⟨trivial, ?_⟩
      rintro (e | _) -
      · exact ⟨⟨hdeleted, Or.inl rfl⟩, fun _ _ => ih hdeleted⟩
      · exact ⟨⟨hdeleted, Or.inr rfl⟩, fun _ _ => ih hdeleted⟩

theorem respects_sweepPending (t : Operation) (now : Int64) (f : Facts) :
    (discipline mode size).Respects t (sweepPending now) f := by
  refine ⟨trivial, ?_⟩
  rintro (e | deletes) -
  · trivial
  · cases deletes with
    | nil => trivial
    | cons m rest => exact respects_sweepDeletes mode size t now (m :: rest) rfl

theorem respects_sweepUploads {t : Operation} (ht : t.isDeletion = false) (now : Int64)
    (stale : List (Upload × Media)) (f : Facts) :
    (discipline mode size).Respects t (sweepUploads now stale) f := by
  induction stale generalizing f with
  | nil => exact respects_sweepPending mode size t now f
  | cons um rest ih =>
      obtain ⟨u, m⟩ := um
      rw [sweepUploads]
      split
      · exact ⟨trivial, fun _ _ => ⟨trivial, fun _ _ => ⟨ht, fun _ _ => ih _⟩⟩⟩
      · exact ⟨trivial, fun _ _ => ⟨ht, fun _ _ => ih _⟩⟩

theorem respects_maintenance {t : Operation} (ht : t.isDeletion = false) (now : Int64)
    (f : Facts) : (discipline mode size).Respects t (maintenance now) f := by
  refine ⟨trivial, ?_⟩
  rintro (e | stale) -
  · exact respects_sweepPending mode size t now _
  · exact respects_sweepUploads mode size ht now stale _

/-- Every operation keeps to the discipline, knowing nothing when it starts. -/
theorem respects_code (t : Operation) :
    (discipline mode size).Respects t t.code Facts.start := by
  cases t with
  | complete owner uploadID parts now written =>
      exact Discipline.respects_void _ _ _ _
        (respects_complete mode size rfl owner uploadID parts now written _)
  | abort owner uploadID now =>
      exact Discipline.respects_void _ _ _ _ (respects_abort mode size rfl owner uploadID now _)
  | deleteMedia userID mediaID now written =>
      exact Discipline.respects_void _ _ _ _
        (respects_deleteMedia mode size rfl userID mediaID now written _)
  | adminDeleteMedia adminID mediaID now written =>
      exact Discipline.respects_void _ _ _ _
        (respects_adminDeleteMedia mode size rfl adminID mediaID now written _)
  | maintenance now => exact respects_maintenance mode size rfl now _

end Programs

-- ============================================================================
-- The facts are kept
-- ============================================================================

section Facts

variable (assembly : Assembly) {mode : UploadMode} {size : Int64}

theorem shared_effect (o : Outcome) (c : Call) (s : Shared) :
    Effect s.toWorld c (s.exec assembly o c).2.toWorld :=
  exec_effect assembly o c s.toWorld

theorem matched_exec (o : Outcome) (c : Call) {s : Shared} (h : s.matched = true) :
    (s.exec assembly o c).2.matched = true := by
  simp [Shared.exec, h]

/-- No call takes a fact away. -/
theorem holds_stable (o : Outcome) (c : Call) {s : Shared} {f : Facts}
    (hf : (discipline mode size).holds f s) :
    (discipline mode size).holds f (s.exec assembly o c).2 := by
  obtain ⟨hdeleted, hmatched, hclosed⟩ := hf
  have heffect := shared_effect assembly o c s
  exact ⟨fun h => heffect.deletedAtMs (hdeleted h), fun h => matched_exec assembly o c (hmatched h),
    fun h => heffect.multipart (hclosed h)⟩

/-- The answers are those of the one upload there is. -/
theorem possible_exec (o : Outcome) (c : Call) {s : Shared}
    (hmode : s.toWorld.upload.mode = mode) (hsize : s.toWorld.media.sizeBytes = size) :
    (discipline mode size).possible c (s.exec assembly o c).1 := by
  obtain ⟨fate, used⟩ := o
  cases c with
  | uploadByID id =>
      cases fate with
      | served =>
          simp only [Shared.exec, exec, perform]
          split
          · exact ⟨hmode, hsize⟩
          · trivial
      | failed => trivial
      | lost => trivial
  | _ => trivial

/-- What an operation learns from an answer is so. -/
theorem holds_gain (o : Outcome) (c : Call) {s : Shared} {f : Facts}
    (hsize : s.toWorld.media.sizeBytes = size) (hf : (discipline mode size).holds f s) :
    (discipline mode size).holds (Facts.gain size f c (s.exec assembly o c).1)
      (s.exec assembly o c).2 := by
  have hstable := holds_stable assembly o c hf
  obtain ⟨fate, used⟩ := o
  cases c with
  | softDeleteMedia id owner now =>
      cases fate with
      | served =>
          simp only [Shared.exec, exec, perform] at hstable ⊢
          split
          · rename_i hguard
            rw [if_pos hguard] at hstable
            exact ⟨fun _ => by simp [World.softDeleted], hstable.2.1, hstable.2.2⟩
          · rename_i hguard
            rw [if_neg hguard] at hstable
            exact hstable
      | failed => exact hstable
      | lost => exact hstable
  | pendingMediaDeletes =>
      cases fate with
      | served =>
          simp only [Shared.exec, exec, perform] at hstable ⊢
          split
          · rename_i hpending
            rw [if_pos hpending] at hstable
            exact ⟨fun _ => hpending.1, hstable.2.1, hstable.2.2⟩
          · rename_i hpending
            rw [if_neg hpending] at hstable
            exact hstable
      | failed => exact hstable
      | lost => exact hstable
  | head key =>
      cases fate with
      | served =>
          simp only [Shared.exec, exec, perform] at hstable ⊢
          split
          · rename_i hkey
            rw [if_pos hkey] at hstable
            cases hobject : s.toWorld.object with
            | none =>
                rw [hobject] at hstable
                exact hstable
            | some n =>
                rw [hobject] at hstable
                dsimp only [Facts.gain]
                split
                · rename_i hn
                  refine ⟨hstable.1, fun _ => ?_, hstable.2.2⟩
                  simp [hkey, hn, hsize]
                · exact hstable
          · rename_i hkey
            rw [if_neg hkey] at hstable
            exact hstable
      | failed => exact hstable
      | lost => exact hstable
  | completeMultipart key sid parts =>
      cases fate with
      | served =>
          simp only [Shared.exec, exec, perform] at hstable ⊢
          split
          · rename_i hguard
            rw [if_pos hguard] at hstable
            cases hassembly : assembly parts with
            | some n =>
                rw [hassembly] at hstable
                exact ⟨hstable.1, hstable.2.1, fun _ => by simp⟩
            | none =>
                rw [hassembly] at hstable
                exact hstable
          · rename_i hguard
            rw [if_neg hguard] at hstable
            exact hstable
      | failed => exact hstable
      | lost => exact hstable
  | _ => exact hstable

end Facts

-- ============================================================================
-- The rows
-- ============================================================================

/-- The status of a media whose upload has this status. -/
def endStatus : UploadStatus → MediaStatus
  | .OPEN => .UPLOADING
  | .COMPLETED => .READY
  | .ABORTED => .FAILED

/-- The statuses agree, until the media is deleted. -/
def World.Rows (w : World) : Prop :=
  (w.deletedAtMs = none ∧ w.media.status = endStatus w.upload.status) ∨
    (w.deletedAtMs ≠ none ∧ w.upload.status ≠ .OPEN ∧
      (w.media.status = .DELETING ∨ w.media.status = .DELETE_FAILED ∨ w.media.status = .DELETED))

/-- The invariant of an upload of this mode and size. -/
structure Inv (mode : UploadMode) (size : Int64) (s : Uploading) : Prop where
  known : s.Known (discipline mode size)
  rows : s.world.toWorld.Rows
  object : s.world.toWorld.Live → s.world.toWorld.object = some size ∧ s.world.matched = true ∧
    (mode = .multipart → s.world.toWorld.multipart ≠ .inProgress)
  sameMode : s.world.toWorld.upload.mode = mode
  sameSize : s.world.toWorld.media.sizeBytes = size

theorem World.Rows.status {w : World} (h : w.Rows) (hlive : w.deletedAtMs = none) :
    w.media.status = endStatus w.upload.status := by
  rcases h with ⟨-, h⟩ | ⟨hdeleted, -⟩
  · exact h
  · exact absurd hlive hdeleted

theorem World.Rows.deleted {w : World} (h : w.Rows) (hdeleted : w.deletedAtMs ≠ none) :
    w.upload.status ≠ .OPEN ∧ w.media.status ≠ .READY ∧ w.media.status ≠ .FAILED := by
  rcases h with ⟨hlive, -⟩ | ⟨-, hopen, hstatus⟩
  · exact absurd hlive hdeleted
  · refine ⟨hopen, ?_, ?_⟩
    · rcases hstatus with h | h | h <;> rw [h] <;> decide
    · rcases hstatus with h | h | h <;> rw [h] <;> decide

-- ============================================================================
-- Steps
-- ============================================================================

/-- What a call of the operation `t` has to leave. -/
structure Kept (mode : UploadMode) (size : Int64) (s : Uploading) (t : Operation) (w' : World) :
    Prop where
  rows : w'.Rows
  object : w'.Live → w'.object = some size ∧ s.world.matched = true ∧
    (mode = .multipart → w'.multipart ≠ .inProgress)
  settled : t.isDeletion = false → s.world.toWorld.Settled →
    w'.upload.status = s.world.toWorld.upload.status ∧
    w'.media.status = s.world.toWorld.media.status

theorem kept_refl {mode : UploadMode} {size : Int64} {s : Uploading} (h : Inv mode size s)
    (t : Operation) : Kept mode size s t s.world.toWorld :=
  ⟨h.rows, h.object, fun _ _ => ⟨rfl, rfl⟩⟩

/-- A call that is not late, made with the facts it needs, keeps the rows and the object
    in agreement, and an upload that has come to its end as it is. -/
theorem kept_of_effect {mode : UploadMode} {size : Int64} {s : Uploading} (h : Inv mode size s)
    {t : Operation} {f : Facts} {c : Call} {w' : World} (heffect : Effect s.world.toWorld c w')
    (hholds : (discipline mode size).holds f s.world) (hpre : (discipline mode size).pre t f c)
    (hlate : ¬ComesLate s.world.toWorld c) : Kept mode size s t w' := by
  obtain ⟨hdeleted, hmatched, hclosed⟩ := hholds
  cases heffect with
  | none c => exact kept_refl h t
  | completed id now hid =>
      obtain ⟨-, hm, hc⟩ := hpre
      have hopen : s.world.toWorld.upload.status ≠ .ABORTED := fun ha => hlate ⟨hid, Or.inl ha⟩
      have hlive : s.world.toWorld.deletedAtMs = none := by
        by_contra hd
        exact hlate ⟨hid, Or.inr (Or.inl hd)⟩
      have hobject : s.world.toWorld.object = some s.world.toWorld.media.sizeBytes := by
        by_contra ho
        exact hlate ⟨hid, Or.inr (Or.inr ho)⟩
      refine ⟨Or.inl ⟨hlive, rfl⟩, ?_, ?_⟩
      · intro _
        exact ⟨hobject.trans (congrArg some h.sameSize), hmatched hm, fun hmode =>
          hclosed (hc hmode)⟩
      · rintro - (⟨hu, hmedia⟩ | ⟨hu, -⟩)
        · exact ⟨hu.symm, hmedia.symm⟩
        · exact absurd hu hopen
  | failed id now hid =>
      have hopen : s.world.toWorld.upload.status ≠ .COMPLETED := fun hc => hlate ⟨hid, Or.inl hc⟩
      have hlive : s.world.toWorld.deletedAtMs = none := by
        by_contra hd
        exact hlate ⟨hid, Or.inr hd⟩
      refine ⟨Or.inl ⟨hlive, rfl⟩, ?_, ?_⟩
      · rintro ⟨hready, -⟩
        exact absurd hready (by simp [World.failed])
      · rintro - (⟨hu, -⟩ | ⟨hu, hmedia⟩)
        · exact absurd hu hopen
        · exact ⟨hu.symm, hmedia.symm⟩
  | softDeleted id owner now hlive hstatus =>
      have hopen : s.world.toWorld.upload.status ≠ .OPEN := by
        intro hopen
        have hrows := h.rows.status hlive
        rw [hopen] at hrows
        exact hstatus hrows
      refine ⟨Or.inr ⟨by simp [World.softDeleted], hopen, Or.inl rfl⟩, ?_, ?_⟩
      · rintro ⟨-, hnone⟩
        exact absurd hnone (by simp [World.softDeleted])
      · intro hdeletion
        exact absurd (hpre.symm.trans hdeletion) (by decide)
  | statusSet id status now =>
      obtain ⟨hd, hstatus⟩ := hpre
      have hgone := hdeleted hd
      obtain ⟨hopen, hready, hfailed⟩ := h.rows.deleted hgone
      refine ⟨Or.inr ⟨hgone, hopen, Or.inr hstatus⟩, ?_, ?_⟩
      · rintro ⟨-, hnone⟩
        exact absurd hnone hgone
      · rintro - (⟨-, hmedia⟩ | ⟨-, hmedia⟩)
        · exact absurd hmedia hready
        · exact absurd hmedia hfailed
  | assembled key sid parts n hprogress =>
      refine ⟨h.rows, ?_, fun _ _ => ⟨rfl, rfl⟩⟩
      intro hlive
      exact absurd hprogress ((h.object hlive).2.2 hpre)
  | dropped key sid =>
      refine ⟨h.rows, ?_, fun _ _ => ⟨rfl, rfl⟩⟩
      intro hlive
      obtain ⟨hobject, hm, -⟩ := h.object hlive
      exact ⟨hobject, hm, fun _ => by simp⟩
  | deleted key hkey =>
      refine ⟨h.rows, ?_, fun _ _ => ⟨rfl, rfl⟩⟩
      intro hlive
      exact absurd ⟨hkey, hlive⟩ hlate

/-- A call that fails is never late. -/
theorem failed_effect (assembly : Assembly) {o : Outcome} (hfate : o.fate = .failed) (c : Call)
    (s : Shared) : (s.exec assembly o c).2.toWorld = s.toWorld := by
  simp [Shared.exec, exec, hfate]

/-- A call that is no late write. -/
theorem kept_exec (assembly : Assembly) {mode : UploadMode} {size : Int64} {s : Uploading}
    (h : Inv mode size s) {i : Nat} {o : Outcome} {t : Operation} {c : Call}
    (hpending : s.pending i = some (t, c)) (hok : ¬LateWrite s (.advance i o)) :
    Kept mode size s t (s.world.exec assembly o c).2.toWorld := by
  obtain ⟨f, hholds, hpre⟩ := h.known.pre hpending
  by_cases hfate : o.fate = .failed
  · rw [failed_effect assembly hfate]
    exact kept_refl h t
  · exact kept_of_effect h (shared_effect assembly o c s.world) hholds hpre
      (fun hlate => hok ⟨i, o, t, c, rfl, hpending, hfate, hlate⟩)

/-- A step without a late write keeps the invariant, and is lawful. -/
theorem inv_step {assembly : Assembly} {mode : UploadMode} {size : Int64} (s : Uploading)
    (l : Step) (h : Inv mode size s) (hput : NoOverwrite s l) (hok : ¬LateWrite s l) :
    Inv mode size (s.step assembly l) ∧ Lawful assembly s l := by
  cases l with
  | start t =>
      refine ⟨⟨?_, h.rows, h.object, h.sameMode, h.sameSize⟩, ⟨?_, ?_, ?_⟩⟩
      · exact h.known.start ⟨fun hf => absurd hf (by decide), fun hf => absurd hf (by decide),
          fun hf => absurd hf (by decide)⟩ (respects_code mode size t)
      · intro i o t c hl
        exact absurd hl (by simp)
      · exact fun hdeleted => (h.rows.deleted hdeleted).2
      · exact fun hlive => (h.object hlive).1.trans (congrArg some h.sameSize.symm)
  | disturb n =>
      have hunmatched := hput n rfl
      have hdead : ¬s.world.toWorld.Live := by
        intro hlive
        have hm := (h.object hlive).2.1
        rw [hunmatched] at hm
        exact absurd hm (by decide)
      refine ⟨⟨?_, h.rows, fun hl => absurd hl hdead, h.sameMode, h.sameSize⟩, ⟨?_, ?_, ?_⟩⟩
      · exact h.known.disturb (fun f hf => hf)
      · intro i o t c hl
        exact absurd hl (by simp)
      · exact fun hdeleted => (h.rows.deleted hdeleted).2
      · exact fun hlive => absurd hlive hdead
  | advance i o =>
      cases hpending : s.pending i with
      | none =>
          have hstay : s.step assembly (.advance i o) = s := Pool.step_advance_none hpending o
          refine ⟨by rw [hstay]; exact h, ⟨?_, ?_, ?_⟩⟩
          · intro i' o' t c hl hpending'
            cases hl
            rw [hpending] at hpending'
            exact absurd hpending' (by simp)
          · rw [hstay]
            exact fun hdeleted => (h.rows.deleted hdeleted).2
          · rw [hstay]
            exact fun hlive => (h.object hlive).1.trans (congrArg some h.sameSize.symm)
      | some tc =>
          obtain ⟨t, c⟩ := tc
          have hworld : (s.step assembly (.advance i o)).world = (s.world.exec assembly o c).2 :=
            Pool.step_advance_world hpending o
          have hkept := kept_exec assembly h hpending hok
          have heffect := shared_effect assembly o c s.world
          have hsize := heffect.sizeBytes.trans h.sameSize
          refine ⟨⟨?_, ?_, ?_, ?_, ?_⟩, ⟨?_, ?_, ?_⟩⟩
          · exact h.known.advance i o
              (fun c => possible_exec assembly o c h.sameMode h.sameSize)
              (fun f c hf => holds_stable assembly o c hf)
              (fun f c hf => holds_gain assembly o c h.sameSize hf)
          · rw [hworld]
            exact hkept.rows
          · rw [hworld]
            intro hlive
            obtain ⟨hobject, hm, hclosed⟩ := hkept.object hlive
            exact ⟨hobject, matched_exec assembly o c hm, hclosed⟩
          · rw [hworld]
            exact heffect.mode.trans h.sameMode
          · rw [hworld]
            exact hsize
          · intro i' o' t' c' hl hpending'
            cases hl
            obtain ⟨rfl, rfl⟩ := Prod.mk.inj (Option.some.inj (hpending.symm.trans hpending'))
            rw [hworld]
            exact hkept.settled
          · rw [hworld]
            exact fun hdeleted => (hkept.rows.deleted hdeleted).2
          · rw [hworld]
            exact fun hlive => (hkept.object hlive).1.trans (congrArg some hsize.symm)

/-- A call that has its effect. -/
theorem exec_world (assembly : Assembly) {o : Outcome} (hfate : o.fate ≠ .failed) (c : Call)
    (s : Shared) :
    (s.exec assembly o c).2.toWorld = (perform assembly o.used c s.toWorld).2 := by
  obtain ⟨fate, used⟩ := o
  cases fate with
  | served => rfl
  | failed => exact absurd rfl hfate
  | lost => rfl

/-- A late write is not lawful. -/
theorem not_lawful_of_lateWrite {assembly : Assembly} {mode : UploadMode} {size : Int64}
    (s : Uploading) (l : Step) (h : Inv mode size s) (hlate : LateWrite s l) :
    ¬Lawful assembly s l := by
  obtain ⟨i, o, t, c, rfl, hpending, hfate, hlate⟩ := hlate
  obtain ⟨f, -, hpre⟩ := h.known.pre hpending
  have hworld : (s.step assembly (.advance i o)).world.toWorld
      = (perform assembly o.used c s.world.toWorld).2 :=
    (congrArg Shared.toWorld (Pool.step_advance_world hpending o)).trans
      (exec_world assembly hfate c s.world)
  rintro ⟨hsettled, hdeleted, hobject⟩
  have hsettled := hsettled i o t c rfl hpending
  rw [hworld] at hsettled hdeleted hobject
  cases c with
  | completeUpload id now =>
      obtain ⟨hid, hcause⟩ := hlate
      have hafter : (perform assembly o.used (.completeUpload id now) s.world.toWorld).2
          = s.world.toWorld.completed now := by
        rw [perform, if_pos hid]
      rw [hafter] at hsettled hdeleted hobject
      by_cases hlive : s.world.toWorld.deletedAtMs = none
      · rcases hcause with haborted | hgone | hmissing
        · have hfailed := h.rows.status hlive
          rw [haborted] at hfailed
          have hstays := (hsettled hpre.1 (Or.inr ⟨haborted, hfailed⟩)).1
          rw [haborted] at hstays
          exact absurd hstays (by simp [World.completed])
        · exact hgone hlive
        · exact hmissing (hobject ⟨rfl, hlive⟩)
      · exact (hdeleted hlive).1 rfl
  | failUpload id now =>
      obtain ⟨hid, hcause⟩ := hlate
      have hafter : (perform assembly o.used (.failUpload id now) s.world.toWorld).2
          = s.world.toWorld.failed now := by
        rw [perform, if_pos hid]
      rw [hafter] at hsettled hdeleted
      by_cases hlive : s.world.toWorld.deletedAtMs = none
      · rcases hcause with hcompleted | hgone
        · have hready := h.rows.status hlive
          rw [hcompleted] at hready
          have hstays := (hsettled hpre (Or.inl ⟨hcompleted, hready⟩)).1
          rw [hcompleted] at hstays
          exact absurd hstays (by simp [World.failed])
        · exact hgone hlive
      · exact (hdeleted hlive).2 rfl
  | delete key =>
      obtain ⟨hkey, hlive⟩ := hlate
      have hafter : (perform assembly o.used (.delete key) s.world.toWorld).2
          = { s.world.toWorld with object := none } := by
        rw [perform, if_pos hkey]
      rw [hafter] at hobject
      exact absurd (hobject hlive) (by simp)
  | _ => exact hlate

-- ============================================================================
-- Runs
-- ============================================================================

/-- An upload that `Init` has just created. -/
structure World.Fresh (w : World) : Prop where
  upload : w.upload.status = .OPEN
  media : w.media.status = .UPLOADING
  deletedAtMs : w.deletedAtMs = none

/-- The upload, and nobody working on it. -/
def Uploading.start (w : World) : Uploading := ⟨⟨w, false⟩, []⟩

theorem inv_start {w : World} (h : w.Fresh) :
    Inv w.upload.mode w.media.sizeBytes (Uploading.start w) where
  known := fun x hx => absurd hx (by simp [Uploading.start])
  rows := Or.inl ⟨h.deletedAtMs, by
    show w.media.status = endStatus w.upload.status
    rw [h.upload, h.media]
    rfl⟩
  object := by
    rintro ⟨hready, -⟩
    exact absurd (h.media.symm.trans hready) (by decide)
  sameMode := rfl
  sameSize := rfl

/-- **Upload lifecycle.**  In any interleaving of any operations on an upload, in which
    nobody overwrites the object after a `Head` has found it, every step is lawful exactly
    if none is a late write. -/
theorem lawful_iff (assembly : Assembly) (w : World) (hfresh : w.Fresh) (ls : List Step)
    (hput : EachStep (Uploading.step assembly) NoOverwrite (Uploading.start w) ls) :
    EachStep (Uploading.step assembly) (Lawful assembly) (Uploading.start w) ls ↔
      EachStep (Uploading.step assembly) (fun s l => ¬LateWrite s l) (Uploading.start w) ls :=
  eachStep_iff (fun s l h hl hok => inv_step s l h hl hok)
    (fun s l h _ hbad => not_lawful_of_lateWrite s l h (not_not.mp hbad)) (inv_start hfresh) hput

theorem not_lateWrite_of_quiet {s : Uploading} {l : Step} (h : ∀ i o, l ≠ .advance i o) :
    ¬LateWrite s l := by
  rintro ⟨i, o, t, c, hl, -⟩
  exact h i o hl

theorem not_lateWrite_of_pending {s : Uploading} {i : Nat} {t : Operation} {c : Call}
    (hpending : s.pending i = some (t, c)) (h : ¬ComesLate s.world.toWorld c) (o : Outcome) :
    ¬LateWrite s (.advance i o) := by
  rintro ⟨i', o', t', c', hl, hpending', -, hlate⟩
  cases hl
  obtain ⟨rfl, rfl⟩ := Prod.mk.inj (Option.some.inj (hpending.symm.trans hpending'))
  exact h hlate

/-- A single upload of 1024 bytes, open until `86400000`. -/
def smallUpload : World where
  upload := ⟨"u", "m", .single, .OPEN, none, 0, 86400000⟩
  media := ⟨"m", "owner", "media/owner/m/source", "movie.mp4", "video/mp4", .UPLOADING, 1024, 0, 0⟩
  deletedAtMs := none
  object := none
  multipart := .inProgress

/-- Thread `i` makes its next call, and all is well. -/
def next (i : Nat) : Step := .advance i ⟨.served, false⟩

/-- The browser uploads the object and completes the upload.  A sweep runs between the calls of
    the completion, and an abort that begins before its last one looks at the upload after it. -/
def uploadRun : List Step :=
  [.disturb 1024, .start (.complete "owner" "u" [] 1000 1000), next 0, .start (.maintenance 1000),
    next 1, next 0, .start (.abort "owner" "u" 1001), next 1, next 0, next 2]

theorem lawful_uploadRun :
    EachStep (Uploading.step (fun _ => none)) (Lawful (fun _ => none))
      (Uploading.start smallUpload) uploadRun ∧
    (run (Uploading.step (fun _ => none)) (Uploading.start smallUpload)
      uploadRun).world.toWorld.Settled := by
  refine ⟨(lawful_iff (fun _ => none) smallUpload ⟨rfl, rfl, rfl⟩ uploadRun ?_).mpr ?_,
    Or.inl ⟨by rfl, by rfl⟩⟩
  · rw [uploadRun]
    simp only [eachStep_cons]
    refine ⟨fun _ _ => rfl, ?_, ?_, ?_, ?_, ?_, ?_, ?_, ?_, ?_, eachStep_nil _ _⟩ <;>
      exact fun n hn => absurd hn (by simp [next])
  · rw [uploadRun]
    simp only [eachStep_cons]
    refine ⟨?_, ?_, ?_, ?_, ?_, ?_, ?_, ?_, ?_, ?_, eachStep_nil _ _⟩
    · exact not_lateWrite_of_quiet (by simp)
    · exact not_lateWrite_of_quiet (by simp)
    · exact not_lateWrite_of_pending (c := .uploadByID "u") rfl (by decide) _
    · exact not_lateWrite_of_quiet (by simp)
    · exact not_lateWrite_of_pending (c := .staleUploads 1000) rfl (by decide) _
    · exact not_lateWrite_of_pending (c := .head "media/owner/m/source") rfl (by decide) _
    · exact not_lateWrite_of_quiet (by simp)
    · exact not_lateWrite_of_pending (c := .pendingMediaDeletes) rfl (by decide) _
    · exact not_lateWrite_of_pending (c := .completeUpload "u" 1000) rfl (by decide) _
    · exact not_lateWrite_of_pending (c := .uploadByID "u") rfl (by decide) _

/-- A completion that began before the expiry is overtaken by the sweep after it. -/
def overtakenRun : List Step :=
  [.disturb 1024, .start (.complete "owner" "u" [] 86399999 86400002), next 0, next 0,
    .start (.maintenance 86400001), next 1, next 1, next 1]

/-- The sweep has deleted the object and failed the upload; the completion makes it ready
    again. -/
theorem overtaken_completes :
    EachStep (Uploading.step (fun _ => none)) NoOverwrite (Uploading.start smallUpload)
      (overtakenRun ++ [next 0]) ∧
    (let w := (run (Uploading.step (fun _ => none)) (Uploading.start smallUpload)
      overtakenRun).world.toWorld
     w.upload.status = .ABORTED ∧ w.media.status = .FAILED ∧ w.object = none) ∧
    (let w := (run (Uploading.step (fun _ => none)) (Uploading.start smallUpload)
      (overtakenRun ++ [next 0])).world.toWorld
     w.upload.status = .COMPLETED ∧ w.media.status = .READY ∧ w.object = none) ∧
    ¬EachStep (Uploading.step (fun _ => none)) (Lawful (fun _ => none))
      (Uploading.start smallUpload) (overtakenRun ++ [next 0]) := by
  refine ⟨?_, ⟨by rfl, by rfl, by rfl⟩, ⟨by rfl, by rfl, by rfl⟩, ?_⟩
  · rw [overtakenRun]
    simp only [List.cons_append, List.nil_append, eachStep_cons]
    refine ⟨fun _ _ => rfl, ?_, ?_, ?_, ?_, ?_, ?_, ?_, ?_, eachStep_nil _ _⟩ <;>
      exact fun n hn => absurd hn (by simp [next])
  · intro hall
    have hlawful := hall overtakenRun (next 0) [] rfl
    have hobject := hlawful.object ⟨by rfl, by rfl⟩
    exact absurd hobject (by decide)

end WatchTogether.Uploads

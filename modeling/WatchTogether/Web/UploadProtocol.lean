/-
  WatchTogether.Web.UploadProtocol

  What `uploadMedia` has sent at any moment of a multipart upload, whatever it is answered:
  PUTs of the parts in order, at most one completion, after all of them, and an abort
  exactly where it fails before that.
-/

import Mathlib.Data.List.TakeWhile
import WatchTogether.Web.Upload

namespace WatchTogether.Web.Upload

open Program Uploads

-- ============================================================================
-- What has been sent
-- ============================================================================

/-- A call, with its answer. -/
abbrev Sent : Type := Exchange Call Call.Answer

/-- A PUT, its URL and what it sends. -/
def putOf : Sent → Option (String × Body)
  | ⟨.put url body _, _⟩ => some (url, body)
  | _ => none

/-- The ETag that the answer to a PUT exposes. -/
def tagOf : Sent → Option String
  | ⟨.put .., .ok response⟩ => response.etag
  | _ => none

/-- A completion. -/
def completeOf : Sent → Option (String × List SentPart)
  | ⟨.complete id parts, _⟩ => some (id, parts)
  | _ => none

/-- A cancellation. -/
def abortOf : Sent → Option String
  | ⟨.abort id, _⟩ => some id
  | _ => none

/-- The PUTs. -/
def puts (es : List Sent) : List (String × Body) := es.filterMap putOf

/-- The ETags. -/
def tags (es : List Sent) : List String := es.filterMap tagOf

/-- The completions. -/
def completes (es : List Sent) : List (String × List SentPart) := es.filterMap completeOf

/-- The cancellations. -/
def aborts (es : List Sent) : List String := es.filterMap abortOf

/-- An answered batch has the URL for the part `n`. -/
def Signed (es : List Sent) (n : Nat) (url : String) : Prop :=
  ∃ id batch signed p, (⟨.sign id batch, .ok (some signed)⟩ : Sent) ∈ es ∧ p ∈ signed ∧
    p.partNumber = some (n : ℚ) ∧ p.url = some url

/-- Neither completed nor aborted. -/
def Quiet (es : List Sent) : Prop := completes es = [] ∧ aborts es = []

/-- The parts that `parts` lists have been sent, and nothing else. -/
structure Going (S P : Nat) (es : List Sent) (parts : List SentPart) : Prop where
  bodies : (puts es).map Prod.snd = (List.range parts.length).map (partRange S P)
  numbers : parts.map (fun p => p.partNumber)
    = (List.range' 1 parts.length).map (fun n : Nat => (n : ℚ))
  tagged : parts.map (fun p => p.etag) = tags es
  quiet : Quiet es

/-- The contract of a multipart upload of `S` bytes in parts of `P`. -/
def Permit (S P : Nat) (id : String) (es : List Sent) : Call → Prop
  | .put url body _ => ∃ k < partCount S P,
      (puts es).map Prod.snd = (List.range k).map (partRange S P) ∧
      body = partRange S P k ∧ Signed es (k + 1) url ∧ Quiet es
  | .complete id' parts => id' = id ∧ Going S P es parts ∧ parts.length = partCount S P
  | .abort id' => id' = id ∧ Quiet es
  | _ => True

-- ============================================================================
-- One more exchange
-- ============================================================================

theorem filterMap_snoc {α : Type} (f : Sent → Option α) (es : List Sent) (e : Sent) :
    (es ++ [e]).filterMap f = es.filterMap f ++ (f e).toList := by
  rw [List.filterMap_append]
  cases h : f e <;> simp [h]

@[simp] theorem puts_snoc (es : List Sent) (e : Sent) :
    puts (es ++ [e]) = puts es ++ (putOf e).toList := filterMap_snoc putOf es e

@[simp] theorem tags_snoc (es : List Sent) (e : Sent) :
    tags (es ++ [e]) = tags es ++ (tagOf e).toList := filterMap_snoc tagOf es e

@[simp] theorem completes_snoc (es : List Sent) (e : Sent) :
    completes (es ++ [e]) = completes es ++ (completeOf e).toList := filterMap_snoc completeOf es e

@[simp] theorem aborts_snoc (es : List Sent) (e : Sent) :
    aborts (es ++ [e]) = aborts es ++ (abortOf e).toList := filterMap_snoc abortOf es e

theorem Signed.mono {es es' : List Sent} {n : Nat} {url : String} (h : Signed es n url) :
    Signed (es ++ es') n url := by
  obtain ⟨id, batch, signed, p, hmem, hp⟩ := h
  exact ⟨id, batch, signed, p, List.mem_append_left _ hmem, hp⟩

/-- Nothing that counts is sent. -/
def Silent (e : Sent) : Prop :=
  putOf e = none ∧ tagOf e = none ∧ completeOf e = none ∧ abortOf e = none

theorem Silent.unseen {e : Sent} (he : Silent e) (es : List Sent) :
    puts (es ++ [e]) = puts es ∧ tags (es ++ [e]) = tags es ∧
      completes (es ++ [e]) = completes es ∧ aborts (es ++ [e]) = aborts es := by
  obtain ⟨hput, htag, hcomplete, habort⟩ := he
  simp [hput, htag, hcomplete, habort]

theorem Quiet.silent {es : List Sent} (h : Quiet es) {e : Sent} (he : Silent e) :
    Quiet (es ++ [e]) := by
  obtain ⟨-, -, hcompletes, haborts⟩ := he.unseen es
  exact ⟨hcompletes.trans h.1, haborts.trans h.2⟩

theorem Quiet.put {es : List Sent} (h : Quiet es) (url : String) (body : Body)
    (ct : Option String) (answer : Call.Answer (.put url body ct)) :
    Quiet (es ++ [⟨.put url body ct, answer⟩]) := by
  obtain ⟨hcompletes, haborts⟩ := h
  constructor
  · simpa [completeOf] using hcompletes
  · simpa [abortOf] using haborts

theorem Going.silent {S P : Nat} {es : List Sent} {parts : List SentPart}
    (h : Going S P es parts) {e : Sent} (he : Silent e) : Going S P (es ++ [e]) parts := by
  obtain ⟨hputs, htags, -, -⟩ := he.unseen es
  refine ⟨?_, h.numbers, ?_, h.quiet.silent he⟩
  · rw [hputs]
    exact h.bodies
  · rw [htags]
    exact h.tagged

/-- The part after those that have been sent, and its ETag. -/
theorem Going.put {S P : Nat} {es : List Sent} {parts : List SentPart} (h : Going S P es parts)
    (url : String) (ct : Option String) {etag : String} {response : Response}
    (hetag : response.etag = some etag) :
    Going S P (es ++ [⟨.put url (partRange S P parts.length) ct, .ok response⟩])
      (parts ++ [⟨((parts.length + 1 : Nat) : ℚ), etag⟩]) := by
  have hputs : puts (es ++ [⟨.put url (partRange S P parts.length) ct, .ok response⟩])
      = puts es ++ [(url, partRange S P parts.length)] := by
    simp [putOf]
  have htags : tags (es ++ [⟨.put url (partRange S P parts.length) ct, .ok response⟩])
      = tags es ++ [etag] := by
    simp [tagOf, hetag]
  refine ⟨?_, ?_, ?_, ?_⟩
  · rw [hputs, List.map_append, h.bodies, List.length_append, List.length_singleton,
      List.range_succ, List.map_append]
    rfl
  · rw [List.map_append, h.numbers, List.length_append, List.length_singleton,
      List.range'_concat, List.map_append]
    simp [Nat.add_comm]
  · rw [htags, List.map_append, h.tagged]
    rfl
  · exact h.quiet.put url _ ct _

-- ============================================================================
-- The code meets the contract
-- ============================================================================

section Contract

variable {S P : Nat} {id : String} {es : List Sent}

theorem meets_andThen {α β : Type} {Q : List Sent → Except JSError α → Prop}
    {R : List Sent → Except JSError β → Prop} {p : Code α} {f : α → Code β}
    (hp : Meets (Permit S P id) Q p es) (herror : ∀ es e, Q es (.error e) → R es (.error e))
    (hok : ∀ es a, Q es (.ok a) → Meets (Permit S P id) R (f a) es) :
    Meets (Permit S P id) R (andThen p f) es := by
  refine hp.bind ?_
  intro es' r hr
  cases r with
  | error e => exact .done (herror es' e hr)
  | ok a => exact hok es' a hr

theorem meets_progress (text : String) :
    Meets (Permit S P id) (fun es' r => es' = es ++ [⟨.progress text, r⟩]) (progress text) es :=
  .call trivial (fun _ => .done rfl)

theorem meets_throwIfAborted :
    Meets (Permit S P id) (fun es' r => es' = es ++ [⟨.throwIfAborted, r⟩]) throwIfAborted es :=
  .call trivial (fun _ => .done rfl)

/-- A PUT returns its response, unless that is no success. -/
theorem meets_put {url : String} {body : Body} {ct : Option String}
    (h : Permit S P id es (.put url body ct)) :
    Meets (Permit S P id)
      (fun es' r => ∃ answer : Call.Answer (.put url body ct),
        es' = es ++ [⟨.put url body ct, answer⟩] ∧ ∀ response, r = .ok response → answer = r)
      (put url body ct) es := by
  refine .call h ?_
  intro answer
  cases answer with
  | error e => exact .done ⟨.error e, rfl, fun _ hr => absurd hr (by simp)⟩
  | ok response =>
      show Meets _ _ (if response.ok = false then throw _ else done (.ok response)) _
      split
      · exact .done ⟨.ok response, rfl, fun _ hr => absurd hr (by simp)⟩
      · exact .done ⟨.ok response, rfl, fun _ _ => rfl⟩

/-- The uploading code has stopped: with an error, or with the parts up to `k` sent. -/
def Transferred (S P k : Nat) (es : List Sent) (r : Except JSError (List SentPart)) : Prop :=
  Quiet es ∧ ∀ parts, r = .ok parts → Going S P es parts ∧ parts.length = k

theorem Transferred.error {k : Nat} (h : Quiet es) (e : JSError) :
    Transferred S P k es (.error e) :=
  ⟨h, fun _ hr => absurd hr (by simp)⟩

theorem Transferred.ok {parts : List SentPart} (h : Going S P es parts) :
    Transferred S P parts.length es (.ok parts) := by
  refine ⟨h.quiet, ?_⟩
  intro parts' hr
  obtain rfl := Except.ok.inj hr
  exact ⟨h, rfl⟩

/-- From part `k + 1` on, the answered parts are the next ones, each with its URL. -/
def Listed (es : List Sent) : Nat → List Part → Prop
  | _, [] => True
  | k, p :: rest =>
      p.partNumber = some ((k + 1 : Nat) : ℚ) ∧
        (∃ url, p.url = some url ∧ Signed es (k + 1) url) ∧ Listed es (k + 1) rest

theorem Listed.mono {es' : List Sent} {k : Nat} {rest : List Part} (h : Listed es k rest) :
    Listed (es ++ es') k rest := by
  induction rest generalizing k with
  | nil => trivial
  | cons p rest ih =>
      obtain ⟨hnumber, ⟨url, hurl, hsigned⟩, hrest⟩ := h
      exact ⟨hnumber, ⟨url, hurl, hsigned.mono⟩, ih hrest⟩

theorem silent_progress (text : String) (r : Except JSError Unit) :
    Silent ⟨.progress text, r⟩ := ⟨rfl, rfl, rfl, rfl⟩

theorem silent_sign (uploadId : String) (batch : List Nat)
    (r : Except JSError (Option (List Part))) : Silent ⟨.sign uploadId batch, r⟩ :=
  ⟨rfl, rfl, rfl, rfl⟩

theorem silent_throwIfAborted (r : Except JSError Unit) : Silent ⟨.throwIfAborted, r⟩ :=
  ⟨rfl, rfl, rfl, rfl⟩

/-- **One batch.**  The induction is on the parts of the batch that are left. -/
theorem meets_putParts (file : File) (hP : 0 < P) (count : Int) {rest : List Part}
    {parts : List SentPart} (hgoing : Going file.size P es parts)
    (hlisted : Listed es parts.length rest)
    (hroom : parts.length + rest.length ≤ partCount file.size P) :
    Meets (Permit file.size P id) (Transferred file.size P (parts.length + rest.length))
      (putParts file P count rest parts) es := by
  induction rest generalizing es parts with
  | nil => exact .done (.ok hgoing)
  | cons p rest ih =>
      obtain ⟨hnumber, ⟨url, hurl, hsigned⟩, hrest⟩ := hlisted
      have hlt : parts.length < partCount file.size P := by
        rw [List.length_cons] at hroom
        omega
      have hslice : slice file P (p.partNumber.getD 0) = partRange file.size P parts.length := by
        rw [hnumber]
        exact slice_eq file hP hlt
      rw [putParts]
      refine meets_andThen (meets_progress _) ?_ ?_
      · rintro es' e rfl
        exact .error (hgoing.quiet.silent (silent_progress _ _)) e
      intro es' _ hes
      have hgoing' : Going file.size P es' parts := by
        rw [hes]
        exact hgoing.silent (silent_progress _ _)
      have hsigned' : Signed es' (parts.length + 1) url := by
        rw [hes]
        exact hsigned.mono
      have hrest' : Listed es' (parts.length + 1) rest := by
        rw [hes]
        exact hrest.mono
      rw [hslice, hurl]
      have hpermit : Permit file.size P id es'
          (.put url (partRange file.size P parts.length) none) :=
        ⟨parts.length, hlt, hgoing'.bodies, rfl, hsigned', hgoing'.quiet⟩
      refine meets_andThen (meets_put hpermit) ?_ ?_
      · rintro es'' e ⟨answer, rfl, -⟩
        exact .error (hgoing'.quiet.put _ _ _ _) e
      rintro es'' response ⟨answer, rfl, hanswer⟩
      obtain rfl := hanswer response rfl
      split
      · exact .done (.error (hgoing'.quiet.put _ _ _ _) _)
      rename_i etag hetag
      have htag : response.etag = some etag := (Option.filter_eq_some_iff.mp hetag).1
      rw [hnumber]
      have hmeets := ih (hgoing'.put url none htag) (by
        rw [List.length_append]
        exact hrest'.mono) (by
        rw [List.length_append, List.length_singleton]
        rw [List.length_cons] at hroom
        omega)
      have hlength (sent : SentPart) : (parts ++ [sent]).length + rest.length
          = parts.length + (p :: rest).length := by
        rw [List.length_append, List.length_singleton, List.length_cons]
        omega
      rw [hlength] at hmeets
      exact hmeets

/-- The check of an answer: what it lets through is the batch. -/
theorem listed_of_lists {k : Nat} {batch : List Nat} {ordered : List Part}
    (hbatch : batch = List.range' (k + 1) batch.length) (h : lists batch ordered = true)
    (hsigned : ∀ p ∈ ordered, ∀ n url, p.partNumber = some ((n : Nat) : ℚ) → p.url = some url →
      Signed es n url) : Listed es k ordered ∧ ordered.length = batch.length := by
  rw [lists, Bool.and_eq_true, decide_eq_true_eq] at h
  obtain ⟨hlength, hall⟩ := h
  refine ⟨?_, hlength⟩
  induction ordered generalizing batch k with
  | nil => trivial
  | cons p rest ih =>
      cases batch with
      | nil => exact absurd hlength (by simp)
      | cons n batch =>
          rw [List.length_cons, List.range'_succ] at hbatch
          obtain ⟨rfl, hrest⟩ := List.cons.inj hbatch
          rw [List.zip_cons_cons, List.all_cons, Bool.and_eq_true, Bool.and_eq_true,
            decide_eq_true_eq, Option.isSome_iff_exists] at hall
          obtain ⟨⟨hnumber, url, hurl⟩, hall⟩ := hall
          have hurl' : p.url = some url := (Option.filter_eq_some_iff.mp hurl).1
          refine ⟨hnumber, ⟨url, hurl', hsigned p (by simp) _ url hnumber hurl'⟩, ?_⟩
          exact ih hrest (fun p' hp' => hsigned p' (List.mem_cons_of_mem p hp'))
            (Nat.succ.inj hlength) hall

/-- **All batches.**  The induction is on the batches that are left. -/
theorem meets_putBatches (file : File) (hP : 0 < P) (count : Int) {bs : List (List Nat)}
    {parts : List SentPart} (hgoing : Going file.size P es parts)
    (hcovers : Covers parts.length bs (partCount file.size P)) :
    Meets (Permit file.size P id) (Transferred file.size P (partCount file.size P))
      (putBatches file id P count bs parts) es := by
  induction bs generalizing es parts with
  | nil =>
      have hlength : parts.length = partCount file.size P := hcovers
      rw [← hlength]
      exact .done (.ok hgoing)
  | cons batch rest ih =>
      obtain ⟨hbatch, hrest⟩ := hcovers
      rw [putBatches]
      refine .call trivial ?_
      intro answer
      have hgoing' := hgoing.silent (silent_sign id batch answer)
      cases answer with
      | error e => exact .done (.error hgoing'.quiet e)
      | ok answer =>
          cases answer with
          | none => exact .done (.error hgoing'.quiet _)
          | some signed =>
              show Meets _ _ (if lists batch (signed.mergeSort precedes) = false then throw _
                else andThen _ _) _
              split
              · exact .done (.error hgoing'.quiet _)
              rename_i hlists
              have hsigned : ∀ p ∈ signed.mergeSort precedes, ∀ n url,
                  p.partNumber = some ((n : Nat) : ℚ) → p.url = some url →
                  Signed (es ++ [⟨.sign id batch, .ok (some signed)⟩]) n url := by
                intro p hp n url hnumber hurl
                exact ⟨id, batch, signed, p, List.mem_append_right _ (List.mem_singleton_self _),
                  List.mem_mergeSort.mp hp, hnumber, hurl⟩
              obtain ⟨hlisted, hlength⟩ :=
                listed_of_lists hbatch (Bool.not_eq_false _ ▸ hlists) hsigned
              have hroom := hrest.le
              rw [← hlength] at hroom hrest
              refine meets_andThen (meets_putParts file hP count hgoing' hlisted hroom) ?_ ?_
              · rintro es' e ⟨hquiet, -⟩
                exact .error hquiet e
              · rintro es' parts' ⟨-, hok⟩
                obtain ⟨hgoing'', hlength''⟩ := hok parts' rfl
                rw [← hlength''] at hrest
                exact ih hgoing'' hrest

theorem meets_transfer (file : File) {init : UploadInit} (hmode : init.mode = some "multipart")
    (hpart : init.partSizeBytes = some (P : ℚ)) (hP : 0 < P) (hP53 : P < 2 ^ 53)
    (hcount : partCount file.size P ≤ 10000) (hgoing : Going file.size P es []) :
    Meets (Permit file.size P id) (Transferred file.size P (partCount file.size P))
      (transfer file id init) es := by
  have hsize : ¬(isSafeInteger (P : ℚ) = false ∨ (P : ℚ) ≤ 0) := by
    have hsafe : isSafeInteger (P : ℚ) = true := by
      refine decide_eq_true ⟨Rat.den_natCast P, ?_⟩
      rw [Rat.num_natCast, Int.natAbs_natCast]
      exact hP53
    have hpos : (0 : ℚ) < P := by exact_mod_cast hP
    rintro (hodd | hnone)
    · exact absurd (hsafe.symm.trans hodd) (by decide)
    · exact absurd hpos (not_lt.mpr hnone)
  have htotal : ¬(10000 : Int) < partTotal file P := by
    rw [partTotal_eq file hP]
    exact_mod_cast not_lt.mpr hcount
  rw [transfer, if_neg (by rw [hmode]; decide), if_pos hmode, putMultipart]
  dsimp only
  rw [hpart, Option.getD_some, if_neg hsize, if_neg htotal, partTotal_eq file hP, Int.toNat_natCast]
  refine meets_andThen (meets_putBatches file hP _ hgoing (covers_batches _)) ?_ ?_
  · rintro es' e ⟨hquiet, -⟩
    exact .error hquiet e
  rintro es' parts ⟨-, hok⟩
  obtain ⟨hgoing', hlength⟩ := hok parts rfl
  rw [← hlength]
  refine meets_andThen meets_throwIfAborted ?_ ?_
  · rintro es'' e rfl
    exact .error (hgoing'.quiet.silent (silent_throwIfAborted _)) e
  rintro es'' u rfl
  have hgoing'' := hgoing'.silent (silent_throwIfAborted (.ok u))
  refine meets_andThen (meets_progress _) ?_ ?_
  · rintro es₃ e rfl
    exact .error (hgoing''.quiet.silent (silent_progress _ _)) e
  · rintro es₃ u' rfl
    exact .done (.ok (hgoing''.silent (silent_progress _ _)))

/-- A run that has come to its end: aborted, exactly if it failed and was not completed. -/
def Ended (es : List Sent) (r : Except JSError Unit) : Prop :=
  aborts es ≠ [] ↔ (∃ e, r = .error e) ∧ completes es = []

/-- The completion has been sent, and no abort. -/
def Completed (es : List Sent) : Prop := completes es ≠ [] ∧ aborts es = []

theorem Completed.silent (h : Completed es) {e : Sent} (he : Silent e) :
    Completed (es ++ [e]) := by
  obtain ⟨-, -, hcompletes, haborts⟩ := he.unseen es
  exact ⟨hcompletes.trans_ne h.1, haborts.trans h.2⟩

theorem Completed.ended (h : Completed es) (r : Except JSError Unit) : Ended es r :=
  ⟨fun haborts => absurd h.2 haborts, fun hr => absurd hr.2 h.1⟩

theorem meets_finish {parts : List SentPart} (hgoing : Going S P es parts)
    (hall : parts.length = partCount S P) :
    Meets (Permit S P id) (fun es' _ => Completed es') (finish id parts) es := by
  refine .call ⟨rfl, hgoing, hall⟩ ?_
  intro answer
  have hcompleted : Completed (es ++ [⟨.complete id parts, answer⟩]) := by
    constructor
    · simp [completeOf]
    · simpa [abortOf] using hgoing.quiet.2
  cases answer with
  | error e => exact .done hcompleted
  | ok u => exact .call trivial (fun r => .done (hcompleted.silent (silent_progress _ r)))

theorem silent_aborted (r : Bool) : Silent ⟨.aborted, r⟩ := ⟨rfl, rfl, rfl, rfl⟩

theorem meets_failed_completing (hcompleted : Completed es) (error : JSError) :
    Meets (Permit S P id) Ended (failed (some id) true error) es :=
  .call trivial (fun r => .done ((hcompleted.silent (silent_aborted r)).ended _))

theorem meets_failed (hquiet : Quiet es) (error : JSError) :
    Meets (Permit S P id) Ended (failed (some id) false error) es := by
  refine .call ⟨rfl, hquiet⟩ ?_
  intro answer
  refine .call trivial ?_
  intro r
  refine .done ?_
  have haborts : aborts (es ++ [⟨.abort id, answer⟩] ++ [⟨.aborted, r⟩]) ≠ [] := by
    rw [aborts_snoc, aborts_snoc]
    simp [abortOf]
  have hcompletes : completes (es ++ [⟨.abort id, answer⟩] ++ [⟨.aborted, r⟩]) = [] := by
    rw [completes_snoc, completes_snoc, hquiet.1]
    rfl
  exact ⟨fun _ => ⟨⟨_, rfl⟩, hcompletes⟩, fun _ => haborts⟩

/-- **The code after `init`** meets the contract of the upload. -/
theorem meets_proceed (file : File) {init : UploadInit} (hid : truthy init.uploadId = some id)
    (hmode : init.mode = some "multipart") (hpart : init.partSizeBytes = some (P : ℚ))
    (hP : 0 < P) (hP53 : P < 2 ^ 53) (hcount : partCount file.size P ≤ 10000)
    (hgoing : Going file.size P es []) :
    Meets (Permit file.size P id) Ended (proceed file init) es := by
  rw [proceed, hid]
  refine (meets_transfer file hmode hpart hP hP53 hcount hgoing).bind ?_
  rintro es' r ⟨hquiet, hok⟩
  cases r with
  | error e => exact meets_failed hquiet e
  | ok parts =>
      obtain ⟨hgoing', hlength⟩ := hok parts rfl
      refine (meets_finish hgoing' hlength).bind ?_
      intro es'' r hcompleted
      cases r with
      | error e => exact meets_failed_completing hcompleted e
      | ok u => exact .done (hcompleted.ended _)

end Contract

-- ============================================================================
-- What holds of everything that has been sent
-- ============================================================================

/-- What an upload of `S` bytes in parts of `P` has sent at any moment. -/
structure Protocol (S P : Nat) (uploadId : Option String) (es : List Sent) : Prop where
  /-- The PUTs are those of the first parts, in order and each once. -/
  ranges : ∃ k ≤ partCount S P, (puts es).map Prod.snd = (List.range k).map (partRange S P)
  /-- Each goes where the service wants that part. -/
  signed : ∀ i url body, (puts es)[i]? = some (url, body) → Signed es (i + 1) url
  once : (completes es).length ≤ 1
  /-- A completion comes after all PUTs, and lists the ETag of each. -/
  completed : ∀ id parts, (id, parts) ∈ completes es →
    uploadId = some id ∧ (puts es).length = partCount S P ∧
      parts.map (fun p => p.partNumber)
        = (List.range' 1 (partCount S P)).map (fun n : Nat => (n : ℚ)) ∧
      parts.map (fun p => p.etag) = tags es
  /-- An abort is sent once, for this upload, and not after a completion. -/
  aborted : aborts es = [] ∨ ∃ id, uploadId = some id ∧ aborts es = [id] ∧ completes es = []

theorem Protocol.of_unsent {S P : Nat} {uploadId : Option String} {es : List Sent}
    (hputs : puts es = []) (hquiet : Quiet es) : Protocol S P uploadId es := by
  obtain ⟨hcompletes, haborts⟩ := hquiet
  refine ⟨⟨0, Nat.zero_le _, by simp [hputs]⟩, ?_, by simp [hcompletes], ?_, .inl haborts⟩
  · intro i url body hput
    rw [hputs] at hput
    exact absurd hput (by simp)
  · intro id parts hmem
    rw [hcompletes] at hmem
    exact absurd hmem (by simp)

section Keeps

variable {S P : Nat} {id : String} {es : List Sent}

theorem Protocol.silent (h : Protocol S P (some id) es) {e : Sent} (he : Silent e) :
    Protocol S P (some id) (es ++ [e]) := by
  obtain ⟨hputs, htags, hcompletes, haborts⟩ := he.unseen es
  refine ⟨?_, ?_, ?_, ?_, ?_⟩
  · rw [hputs]
    exact h.ranges
  · intro i url body hget
    rw [hputs] at hget
    exact (h.signed i url body hget).mono
  · rw [hcompletes]
    exact h.once
  · rw [hcompletes, hputs, htags]
    exact h.completed
  · rw [hcompletes, haborts]
    exact h.aborted

theorem Protocol.put (h : Protocol S P (some id) es) {url : String} {body : Body}
    {ct : Option String} (hpermit : Permit S P id es (.put url body ct))
    (answer : Call.Answer (.put url body ct)) :
    Protocol S P (some id) (es ++ [⟨.put url body ct, answer⟩]) := by
  obtain ⟨k, hk, hbodies, rfl, hsigned, hquiet⟩ := hpermit
  have hputs : puts (es ++ [⟨.put url (partRange S P k) ct, answer⟩])
      = puts es ++ [(url, partRange S P k)] := by
    simp [putOf]
  have hlength : (puts es).length = k := by
    have hlen := congrArg List.length hbodies
    rw [List.length_map, List.length_map, List.length_range] at hlen
    exact hlen
  obtain ⟨hcompletes, haborts⟩ := hquiet.put url (partRange S P k) ct answer
  refine ⟨⟨k + 1, hk, ?_⟩, ?_, by simp [hcompletes], ?_, .inl haborts⟩
  · rw [hputs, List.map_append, hbodies, List.range_succ, List.map_append]
    rfl
  · intro i url' body hget
    rw [hputs] at hget
    rcases Nat.lt_or_ge i (puts es).length with hlt | hge
    · rw [List.getElem?_append_left hlt] at hget
      exact (h.signed i url' body hget).mono
    · have hi : i = k := by
        have hbound := (List.getElem?_eq_some_iff.mp hget).1
        rw [List.length_append, List.length_singleton] at hbound
        omega
      rw [hi, ← hlength, List.getElem?_concat_length] at hget
      obtain ⟨rfl, -⟩ := Prod.mk.inj (Option.some.inj hget)
      rw [hi]
      exact hsigned.mono
  · intro id' parts hmem
    rw [hcompletes] at hmem
    exact absurd hmem (by simp)

theorem Protocol.complete (h : Protocol S P (some id) es) {id' : String} {parts : List SentPart}
    (hpermit : Permit S P id es (.complete id' parts))
    (answer : Call.Answer (.complete id' parts)) :
    Protocol S P (some id) (es ++ [⟨.complete id' parts, answer⟩]) := by
  obtain ⟨rfl, hgoing, hall⟩ := hpermit
  obtain ⟨hquiet, haborts⟩ := hgoing.quiet
  have hputs : puts (es ++ [⟨.complete id' parts, answer⟩]) = puts es := by
    simp [putOf]
  have htags : tags (es ++ [⟨.complete id' parts, answer⟩]) = tags es := by
    simp [tagOf]
  have hcompletes : completes (es ++ [⟨.complete id' parts, answer⟩]) = [(id', parts)] := by
    simp [completeOf] at hquiet ⊢
    exact hquiet
  have haborts' : aborts (es ++ [⟨.complete id' parts, answer⟩]) = [] := by
    simpa [abortOf] using haborts
  have hlength : (puts es).length = partCount S P := by
    have hlen := congrArg List.length hgoing.bodies
    rw [List.length_map, List.length_map, List.length_range] at hlen
    exact hlen.trans hall
  refine ⟨?_, ?_, by simp [hcompletes], ?_, .inl haborts'⟩
  · rw [hputs]
    exact h.ranges
  · intro i url body hget
    rw [hputs] at hget
    exact (h.signed i url body hget).mono
  · intro id'' parts' hmem
    rw [hcompletes, List.mem_singleton] at hmem
    obtain ⟨rfl, rfl⟩ := Prod.mk.inj hmem
    rw [hputs, htags, ← hall]
    exact ⟨rfl, hlength.trans hall.symm, hgoing.numbers, hgoing.tagged⟩

theorem Protocol.abort (h : Protocol S P (some id) es) {id' : String}
    (hpermit : Permit S P id es (.abort id')) (answer : Call.Answer (.abort id')) :
    Protocol S P (some id) (es ++ [⟨.abort id', answer⟩]) := by
  obtain ⟨rfl, hcompletes, haborts⟩ := hpermit
  have hputs : puts (es ++ [⟨.abort id', answer⟩]) = puts es := by
    simp [putOf]
  have hcompletes' : completes (es ++ [⟨.abort id', answer⟩]) = [] := by
    simpa [completeOf] using hcompletes
  have haborts' : aborts (es ++ [⟨.abort id', answer⟩]) = [id'] := by
    simp [abortOf] at haborts ⊢
    exact haborts
  refine ⟨?_, ?_, by simp [hcompletes'], ?_, .inr ⟨id', rfl, haborts', hcompletes'⟩⟩
  · rw [hputs]
    exact h.ranges
  · intro i url body hget
    rw [hputs] at hget
    exact (h.signed i url body hget).mono
  · intro id'' parts hmem
    rw [hcompletes'] at hmem
    exact absurd hmem (by simp)

/-- Every exchange whose call the contract permits keeps the protocol. -/
theorem Protocol.keep (c : Call) (r : c.Answer) (hpermit : Permit S P id es c)
    (h : Protocol S P (some id) es) : Protocol S P (some id) (es ++ [⟨c, r⟩]) := by
  cases c with
  | put url body ct => exact h.put hpermit r
  | complete id' parts => exact h.complete hpermit r
  | abort id' => exact h.abort hpermit r
  | progress text => exact h.silent ⟨rfl, rfl, rfl, rfl⟩
  | init filename sizeBytes contentType => exact h.silent ⟨rfl, rfl, rfl, rfl⟩
  | sign uploadId batch => exact h.silent ⟨rfl, rfl, rfl, rfl⟩
  | throwIfAborted => exact h.silent ⟨rfl, rfl, rfl, rfl⟩
  | aborted => exact h.silent ⟨rfl, rfl, rfl, rfl⟩

end Keeps

-- ============================================================================
-- Every run
-- ============================================================================

/-- A run whose second exchange is the answer to `init` goes on as `proceed`. -/
theorem follows_proceed {file : File} {init : UploadInit} {es : List Sent} {q : Code Unit}
    (h : (uploadMedia file).Follows es q)
    (hinit : es[1]? = some ⟨.init file.name file.size (contentType file), .ok init⟩) :
    ∃ r rest, es = [⟨.progress "正在申请上传…", r⟩,
        ⟨.init file.name file.size (contentType file), .ok init⟩] ++ rest ∧
      (proceed file init).Follows rest q := by
  cases h with
  | nil p => exact absurd hinit (by simp)
  | cons c k r h =>
      cases r with
      | error e =>
          cases h with
          | nil p => exact absurd hinit (by simp)
          | cons c' k' r' h' =>
              obtain ⟨hc, -⟩ := Sigma.mk.inj (Option.some.inj hinit)
              exact Call.noConfusion hc
      | ok u =>
          cases h with
          | nil p => exact absurd hinit (by simp)
          | cons c' k' r' h' =>
              obtain ⟨-, hr⟩ := Sigma.mk.inj (Option.some.inj hinit)
              obtain rfl := eq_of_heq hr
              exact ⟨.ok u, _, rfl, h'⟩

/-- The quotient of the sizes, rounded up. -/
theorem natCeil_eq_partCount {S P : Nat} (hP : 0 < P) : ⌈(S : ℚ) / P⌉₊ = partCount S P := by
  obtain ⟨hcover, hbelow⟩ := partCount_spec (S := S) hP
  have hP' : (0 : ℚ) < P := by exact_mod_cast hP
  refine le_antisymm ?_ ?_
  · rw [Nat.ceil_le, div_le_iff₀ hP']
    exact_mod_cast hcover
  · rcases Nat.eq_zero_or_pos (partCount S P) with hzero | hpos
    · rw [hzero]
      exact Nat.zero_le _
    · have hlast := hbelow (partCount S P - 1) (by omega)
      have hlt : partCount S P - 1 < ⌈(S : ℚ) / P⌉₊ := by
        rw [Nat.lt_ceil, lt_div_iff₀ hP']
        exact_mod_cast hlast
      omega

/-- An element of the request, as `json.Unmarshal` reads it. -/
def SentPart.decode (p : SentPart) : CompletedPart := ⟨Int32.ofInt p.partNumber.num, p.etag⟩

/-- An entity tag is quoted. -/
def EntityTag (etag : String) : Prop := '"' ∈ etag.toList

/-- The checks of `Complete` on the parts of a request. -/
def PassesComplete (m : Media) (parts : List CompletedPart) : Prop :=
  (parts.length : Int) = (expectedParts m).toInt ∧ checkParts (expectedParts m) [] parts = none

/-- What is not only white space is not trimmed away. -/
theorem trimSpace_ne_nil {s : List Char} {c : Char} (hc : c ∈ s) (hspace : isSpace c = false) :
    trimSpace s ≠ [] := by
  intro hnil
  have hkept : c ∈ s.dropWhile isSpace := by
    rw [← List.takeWhile_append_dropWhile (p := isSpace) (l := s)] at hc
    rcases List.mem_append.mp hc with htaken | hdropped
    · have htrue := List.mem_takeWhile_imp htaken
      rw [hspace] at htrue
      exact absurd htrue (by decide)
    · exact hdropped
  rw [trimSpace, List.reverse_eq_nil_iff, List.dropWhile_eq_nil_iff] at hnil
  have htrue := hnil c (List.mem_reverse.mpr hkept)
  rw [hspace] at htrue
  exact absurd htrue (by decide)

/-- **The server's check.**  Parts `1`, …, `n` with entity tags are what `Complete` expects of
    a media of the size of the file. -/
theorem passesComplete {S P n : Nat} (hS : 0 < S) (hP : P = 33554432) (hn : partCount S P = n)
    (hcount : n ≤ 10000) {parts : List SentPart}
    (hnumbers : parts.map (fun p => p.partNumber)
      = (List.range' 1 n).map (fun n : Nat => (n : ℚ)))
    (htags : ∀ p ∈ parts, EntityTag p.etag) {m : Media} (hm : m.sizeBytes.toInt = S) :
    PassesComplete m (parts.map SentPart.decode) := by
  have hlength : parts.length = n := by
    have hlen := congrArg List.length hnumbers
    rw [List.length_map, List.length_map, List.length_range'] at hlen
    exact hlen
  have hsize : S ≤ 10000 * P := by
    have hcover := (partCount_spec (S := S) (P := P) (by omega)).1
    rw [hn] at hcover
    exact Nat.le_trans hcover (Nat.mul_le_mul_right P hcount)
  have hexpected : (expectedParts m).toInt = n := by
    have hpos : 0 < m.sizeBytes := by
      rw [Int64.lt_iff_toInt_lt, hm]
      have hzero : (0 : Int64).toInt = 0 := by decide
      omega
    have hmax : m.sizeBytes.toInt ≤ 2 ^ 62 := by
      rw [hm]
      norm_num
      omega
    have hserver := expectedParts_toInt hpos hmax
    rw [hm, Int.toNat_natCast] at hserver
    rw [hserver, ← hn, partCount, hP]
  have hdecoded : (parts.map SentPart.decode).map (fun p => p.partNumber.toInt)
      = (List.range' 1 n).map (fun n : Nat => (n : Int)) := by
    have hmap := congrArg (List.map (fun x : ℚ => (Int32.ofInt x.num).toInt)) hnumbers
    rw [List.map_map, List.map_map] at hmap
    rw [List.map_map]
    refine hmap.trans (List.map_congr_left ?_)
    intro n hn
    rw [List.mem_range'_1] at hn
    have hnum : (Int32.ofInt (n : Int)).toInt = n := Int32.toInt_ofInt_of_le (by omega) (by omega)
    rw [Function.comp_apply, Rat.num_natCast]
    exact hnum
  refine ⟨by rw [List.length_map, hlength, hexpected], checkParts_ascending _ [] ?_ ?_ (by simp)⟩
  · intro p hp
    have hmem : p.partNumber.toInt ∈ (parts.map SentPart.decode).map (fun p => p.partNumber.toInt) :=
      List.mem_map_of_mem hp
    rw [hdecoded] at hmem
    obtain ⟨n, hn, hpn⟩ := List.mem_map.mp hmem
    rw [List.mem_range'_1] at hn
    obtain ⟨sent, hsent, rfl⟩ := List.mem_map.mp hp
    rw [hexpected]
    exact ⟨by omega, by omega, trimSpace_ne_nil (htags sent hsent) (by decide)⟩
  · rw [← List.pairwise_map (f := fun p : CompletedPart => p.partNumber.toInt)
      (R := fun x y : Int => x < y), hdecoded, List.pairwise_map]
    have hascending : (List.range' 1 n).Pairwise (· < ·) := List.pairwise_lt_range'
    exact hascending.imp (fun hlt => by exact_mod_cast hlt)

/-- Without an upload id there is nothing to send. -/
theorem unsent_of_none {file : File} {init : UploadInit} (hid : truthy init.uploadId = none)
    {text filename contentType : String} {size : Nat} {r : Except JSError Unit}
    {r' : Except JSError UploadInit} {rest : List Sent} {q : Code Unit}
    (h : (proceed file init).Follows rest q) :
    puts ([⟨.progress text, r⟩, ⟨.init filename size contentType, r'⟩] ++ rest) = [] ∧
      Quiet ([⟨.progress text, r⟩, ⟨.init filename size contentType, r'⟩] ++ rest) := by
  rw [proceed, hid] at h
  cases h with
  | nil p => exact ⟨rfl, rfl, rfl⟩
  | cons c k r h =>
      cases h with
      | nil p => exact ⟨rfl, rfl, rfl⟩

/-- **Uploads.**  At any moment of a run whose `init` answer is a multipart upload in at most
    10000 parts, what has been sent follows the protocol: the PUTs are those of the first
    parts in order, a completion is sent once and after all of them, and passes the checks of
    the server; and a run that has ended has aborted the upload exactly if it failed with an
    upload id and without having sent the completion. -/
theorem upload_protocol {file : File} (hsize : 0 < file.size) {init : UploadInit} {P : Nat}
    (hmode : init.mode = some "multipart") (hpart : init.partSizeBytes = some (P : ℚ))
    (hP : 0 < P) (hP53 : P < 2 ^ 53) (hcount : ⌈(file.size : ℚ) / P⌉₊ ≤ 10000)
    {es : List Sent} {q : Code Unit} (h : (uploadMedia file).Follows es q)
    (hinit : es[1]? = some ⟨.init file.name file.size (contentType file), .ok init⟩) :
    Protocol file.size P (truthy init.uploadId) es ∧
    (∀ i < ⌈(file.size : ℚ) / P⌉₊, partStart P i < partStop file.size P i) ∧
    (∀ b < file.size, ∃! i, i < ⌈(file.size : ℚ) / P⌉₊ ∧ partStart P i ≤ b ∧
      b < partStop file.size P i) ∧
    (∀ id parts, (id, parts) ∈ completes es → (puts es).length = ⌈(file.size : ℚ) / P⌉₊ ∧
      ((P : Int) = partSizeBytes.toInt → (∀ tag ∈ tags es, EntityTag tag) →
        ∀ m : Media, m.sizeBytes.toInt = file.size →
          PassesComplete m (parts.map SentPart.decode))) ∧
    (∀ r, q = done r → (aborts es ≠ [] ↔
      (∃ e, r = .error e) ∧ truthy init.uploadId ≠ none ∧ completes es = [])) := by
  rw [natCeil_eq_partCount hP] at hcount ⊢
  have hprotocol : Protocol file.size P (truthy init.uploadId) es ∧
      ∀ r, q = done r → (aborts es ≠ [] ↔
        (∃ e, r = .error e) ∧ truthy init.uploadId ≠ none ∧ completes es = []) := by
    obtain ⟨r₀, rest, rfl, hrest⟩ := follows_proceed h hinit
    cases hid : truthy init.uploadId with
    | none =>
        obtain ⟨hputs, hquiet⟩ := unsent_of_none hid hrest
        refine ⟨.of_unsent hputs hquiet, ?_⟩
        intro r _
        exact ⟨fun haborts => absurd hquiet.2 haborts, fun hr => absurd rfl hr.2.1⟩
    | some id =>
        have hgoing : Going file.size P [⟨.progress "正在申请上传…", r₀⟩,
            ⟨.init file.name file.size (contentType file), .ok init⟩] [] :=
          ⟨rfl, rfl, rfl, rfl, rfl⟩
        have hmeets := meets_proceed file hid hmode hpart hP hP53 hcount hgoing
        refine ⟨hmeets.keeps (fun es c r hc hes => Protocol.keep c r hc hes)
          (.of_unsent rfl ⟨rfl, rfl⟩) hrest, ?_⟩
        rintro r rfl
        have hended := (hmeets.follows hrest).result
        rw [Ended] at hended
        rw [hended]
        simp
  refine ⟨hprotocol.1, fun i hi => partStart_lt_partStop hP hi,
    fun b hb => exists_unique_part hP hb, ?_, hprotocol.2⟩
  intro id parts hmem
  obtain ⟨-, hall, hnumbers, htagged⟩ := hprotocol.1.completed id parts hmem
  refine ⟨hall, ?_⟩
  intro hserver htags m hm
  have hpart' : partSizeBytes.toInt = 33554432 := by decide
  refine passesComplete hsize (by omega) rfl hcount hnumbers ?_ hm
  intro p hp
  refine htags p.etag ?_
  rw [← htagged]
  exact List.mem_map_of_mem hp

/-! ## A run -/

/-- Three bytes, in parts of two. -/
def smallFile : File := ⟨"movie.mp4", "video/mp4", 3, by decide⟩

/-- The server's answer for a file of two parts. -/
def smallInit : UploadInit := ⟨some "upload", some "multipart", some ((2 : Nat) : ℚ), none⟩

/-- The answer lists the two parts in reverse. -/
def reversed : List Part := [⟨some 2, some "second"⟩, ⟨some 1, some "first"⟩]

/-- The second PUT is answered without an ETag. -/
def smallRun : List Sent :=
  [ ⟨.progress "正在申请上传…", .ok ()⟩,
    ⟨.init "movie.mp4" 3 "video/mp4", .ok smallInit⟩,
    ⟨.sign "upload" [1, 2], .ok (some reversed)⟩,
    ⟨.progress "上传分片 1/2（已完成 0）", .ok ()⟩,
    ⟨.put "first" (slice smallFile (2 : Nat) 1) none, .ok ⟨true, 200, some "\"a\""⟩⟩,
    ⟨.progress "上传分片 2/2（已完成 1）", .ok ()⟩,
    ⟨.put "second" (slice smallFile (2 : Nat) 2) none, .ok ⟨true, 200, none⟩⟩,
    ⟨.abort "upload", .ok ()⟩, ⟨.aborted, false⟩]

/-- The batch as it is sorted. -/
theorem reversed_ordered :
    reversed.mergeSort precedes = [⟨some 1, some "first"⟩, ⟨some 2, some "second"⟩] := by
  simp [reversed, List.mergeSort, List.MergeSort.Internal.splitInTwo, precedes]

theorem smallRun_follows :
    (uploadMedia smallFile).Follows smallRun
      (done (.error (newError "对象存储 CORS 未暴露 ETag 响应头，请配置 ExposeHeaders: ETag"))) := by
  have htotal : partTotal smallFile (2 : Nat) = 2 := partTotal_eq smallFile (by decide)
  have hsize : ¬(isSafeInteger ((2 : Nat) : ℚ) = false ∨ ((2 : Nat) : ℚ) ≤ 0) := by decide
  have hput : putMultipart smallFile "upload" smallInit
      = putBatches smallFile "upload" ((2 : Nat) : ℚ) 2 [[1, 2]] [] := by
    rw [putMultipart]
    dsimp only
    rw [show smallInit.partSizeBytes = some ((2 : Nat) : ℚ) from rfl, Option.getD_some, if_neg hsize, htotal, if_neg (by decide)]
    rfl
  refine .cons _ _ _ (.cons _ _ _ ?_)
  show (proceed smallFile smallInit).Follows _ _
  have hid : truthy smallInit.uploadId = some "upload" := by decide
  rw [proceed, hid]
  dsimp only
  rw [transfer, if_neg (by decide), if_pos (show smallInit.mode = some "multipart" from rfl), hput,
    putBatches]
  refine .cons _ _ _ ?_
  have hlists : lists [1, 2] [⟨some 1, some "first"⟩, ⟨some 2, some "second"⟩] = true := by decide
  show Follows (((if lists [1, 2] (reversed.mergeSort precedes) = false then throw _
    else andThen _ _).bind _).bind _) _ _
  rw [reversed_ordered, if_neg (by rw [hlists]; decide)]
  exact .cons _ _ _ (.cons _ _ _ (.cons _ _ _ (.cons _ _ _ (.cons _ _ _ (.cons _ _ _
    (.nil _))))))

/-- The upload has been aborted, and the completion not sent. -/
theorem upload_protocol_smallRun :
    Protocol smallFile.size 2 (some "upload") smallRun ∧ aborts smallRun = ["upload"] := by
  have hcount : ⌈(smallFile.size : ℚ) / (2 : Nat)⌉₊ ≤ 10000 := by
    rw [natCeil_eq_partCount (by decide)]
    decide
  have hprotocol := upload_protocol (P := 2) (show 0 < smallFile.size by decide)
    (show smallInit.mode = some "multipart" from rfl) rfl (by decide) (by decide) hcount
    smallRun_follows rfl
  exact ⟨hprotocol.1, rfl⟩

end WatchTogether.Web.Upload

/-
  WatchTogether.Uploads.Completion

  Which lists of parts `Service.Complete` hands on to the object store, and in which order.
  The checks count, bound and compare the part numbers; that they leave exactly the lists of
  all parts is the pigeonhole principle.
-/

import WatchTogether.Lib.CallLog
import WatchTogether.Uploads.Limits

namespace WatchTogether.Uploads

open Program

-- ============================================================================
-- What the loop accepts
-- ============================================================================

/-- The number of the part is in range, and its ETag is not blank. -/
def CompletedPart.Valid (expected : Int64) (p : CompletedPart) : Prop :=
  1 ≤ p.partNumber.toInt ∧ p.partNumber.toInt ≤ expected.toInt ∧ trimSpace p.etag.toList ≠ []

theorem valid_iff {expected : Int64} {p : CompletedPart} :
    p.Valid expected ↔ ¬(p.partNumber < 1 ∨ expected.toInt < p.partNumber.toInt ∨
      trimSpace p.etag.toList = []) := by
  have hone : (1 : Int32).toInt = 1 := by decide
  rw [Int32.lt_iff_toInt_lt, hone, not_or, not_or, not_lt, not_lt]
  exact Iff.rfl

/-- The loop accepts valid parts with different numbers, and no others. -/
theorem checkParts_eq_none_iff {expected : Int64} {seen : List Int32}
    {parts : List CompletedPart} :
    checkParts expected seen parts = none ↔
      (∀ p ∈ parts, p.Valid expected ∧ p.partNumber ∉ seen) ∧
        (parts.map (fun p => p.partNumber)).Nodup := by
  induction parts generalizing seen with
  | nil => simp [checkParts]
  | cons p parts ih =>
      rw [checkParts, List.map_cons, List.nodup_cons, List.forall_mem_cons]
      by_cases hvalid : p.Valid expected
      · rw [if_neg (valid_iff.mp hvalid)]
        by_cases hseen : p.partNumber ∈ seen
        · rw [if_pos hseen]
          constructor
          · intro h
            cases h
          · rintro ⟨⟨⟨-, hnew⟩, -⟩, -⟩
            exact absurd hseen hnew
        · rw [if_neg hseen, ih]
          constructor
          · rintro ⟨hrest, hnodup⟩
            refine ⟨⟨⟨hvalid, hseen⟩, fun q hq => ?_⟩, ?_, hnodup⟩
            · obtain ⟨hq', hnew⟩ := hrest q hq
              exact ⟨hq', fun h => hnew (List.mem_cons_of_mem _ h)⟩
            · intro hmem
              obtain ⟨q, hq, heq⟩ := List.mem_map.mp hmem
              exact (hrest q hq).2 (heq ▸ List.mem_cons_self)
          · rintro ⟨⟨-, hrest⟩, hfirst, hnodup⟩
            refine ⟨fun q hq => ⟨(hrest q hq).1, ?_⟩, hnodup⟩
            rw [List.mem_cons]
            rintro (heq | hold)
            · exact hfirst (List.mem_map.mpr ⟨q, hq, heq⟩)
            · exact (hrest q hq).2 hold
      · rw [if_pos (not_not.mp (fun h => hvalid (valid_iff.mpr h)))]
        constructor
        · intro h
          cases h
        · rintro ⟨⟨⟨h, -⟩, -⟩, -⟩
          exact absurd h hvalid

-- ============================================================================
-- All parts of an upload
-- ============================================================================

/-- `ceil(size / PartSizeBytes)`. -/
def Media.partCount (m : Media) : Nat :=
  Uploads.partCount m.sizeBytes.toInt.toNat partSizeBytes.toInt.toNat

/-- The numbers from one to `n`. -/
def numbers (n : Nat) : List Int := (List.range' 1 n).map Int.ofNat

theorem mem_numbers {n : Nat} {x : Int} : x ∈ numbers n ↔ 1 ≤ x ∧ x ≤ n := by
  unfold numbers
  rw [List.mem_map]
  constructor
  · rintro ⟨k, hk, rfl⟩
    rw [List.mem_range'_1] at hk
    change 1 ≤ (k : Int) ∧ (k : Int) ≤ n
    omega
  · rintro ⟨hlow, hhigh⟩
    refine ⟨x.toNat, ?_, ?_⟩
    · rw [List.mem_range'_1]
      omega
    · exact Int.toNat_of_nonneg (by omega)

theorem nodup_numbers (n : Nat) : (numbers n).Nodup :=
  (List.nodup_range' 1).map Int.ofNat_injective

theorem sorted_numbers (n : Nat) : (numbers n).Pairwise (· ≤ ·) := by
  unfold numbers
  rw [List.pairwise_map]
  refine (List.pairwise_lt_range' 1).imp ?_
  intro a b hlt
  exact Int.ofNat_le.mpr hlt.le

@[simp] theorem length_numbers (n : Nat) : (numbers n).length = n := by simp [numbers]

/-- The part numbers of the list. -/
def partNumbers (parts : List CompletedPart) : List Int :=
  parts.map (fun p => p.partNumber.toInt)

/-- The parts are those of the whole upload, in some order, and no ETag is blank. -/
def Whole (m : Media) (parts : List CompletedPart) : Prop :=
  (partNumbers parts).Perm (numbers m.partCount) ∧ ∀ p ∈ parts, trimSpace p.etag.toList ≠ []

/-- **Pigeonhole.**  As many different numbers as there are parts, all in range, are the
    numbers of all parts. -/
theorem perm_numbers_iff {n : Nat} {xs : List Int} :
    xs.Perm (numbers n) ↔ xs.length = n ∧ (∀ x ∈ xs, 1 ≤ x ∧ x ≤ n) ∧ xs.Nodup := by
  constructor
  · intro h
    refine ⟨h.length_eq.trans (length_numbers n), fun x hx => ?_, h.nodup_iff.mpr (nodup_numbers n)⟩
    exact mem_numbers.mp (h.mem_iff.mp hx)
  · rintro ⟨hlength, hrange, hnodup⟩
    have hsub : xs.Subperm (numbers n) :=
      hnodup.subperm fun x hx => mem_numbers.mpr (hrange x hx)
    exact hsub.perm_of_length_le (by rw [length_numbers, hlength])

-- ============================================================================
-- The number of parts
-- ============================================================================

/-- Sizes whose sum with the part size does not fit are negative behind it. -/
theorem expectedParts_cases {m : Media} (hsize : 0 ≤ m.sizeBytes) :
    (m.partCount < 2 ^ 31 ∧ (expectedParts m).toInt = m.partCount) ∨
      (2 ^ 31 ≤ m.partCount ∧
        ((expectedParts m).toInt = m.partCount ∨ (expectedParts m).toInt < 0)) := by
  have hpart : partSizeBytes.toInt = 33554432 := by decide
  have hone : (1 : Int64).toInt = 1 := by decide
  have hzero : (0 : Int64).toInt = 0 := by decide
  rw [Int64.le_iff_toInt_le, hzero] at hsize
  have hlt := m.sizeBytes.toInt_lt
  have hcount : m.partCount = (m.sizeBytes.toInt.toNat + 33554432 - 1) / 33554432 := by
    unfold Media.partCount partCount
    rw [partSizeBytes_toNat]
  have hdiff : (m.sizeBytes + partSizeBytes - 1).toInt
      = (m.sizeBytes.toInt + 33554431).bmod (2 ^ 64) := by
    rw [Int64.toInt_sub, Int64.toInt_add, hpart, hone, Int.bmod_sub_bmod]
    congr 1
    omega
  have hdiv : (expectedParts m).toInt
      = ((m.sizeBytes.toInt + 33554431).bmod (2 ^ 64)).tdiv 33554432 := by
    rw [expectedParts, Int64.toInt_div_of_ne_right _ _ (by decide), hdiff, hpart]
  rcases lt_or_ge (m.sizeBytes.toInt + 33554431) (2 ^ 63) with hfits | hwraps
  · rw [Int.bmod_eq_of_le (by omega) (by omega), Int.tdiv_eq_ediv_of_nonneg (by omega)] at hdiv
    have heq : (expectedParts m).toInt = m.partCount := by omega
    rcases lt_or_ge m.partCount (2 ^ 31) with hsmall | hlarge
    · exact .inl ⟨hsmall, heq⟩
    · exact .inr ⟨hlarge, .inl heq⟩
  · -- the sum has gone past the largest number
    have hneg : (m.sizeBytes.toInt + 33554431).bmod (2 ^ 64)
        = -(2 ^ 64 - (m.sizeBytes.toInt + 33554431)) := by
      rw [← Int.sub_bmod_right, Int.bmod_eq_of_le (by omega) (by omega)]
      omega
    rw [hneg, Int.neg_tdiv, Int.tdiv_eq_ediv_of_nonneg (by omega)] at hdiv
    exact .inr ⟨by omega, .inr (by omega)⟩

-- ============================================================================
-- What passes the checks
-- ============================================================================

theorem nodup_partNumbers_iff {parts : List CompletedPart} :
    (parts.map (fun p => p.partNumber)).Nodup ↔ (partNumbers parts).Nodup := by
  have hmap : partNumbers parts = (parts.map (fun p => p.partNumber)).map Int32.toInt := by
    unfold partNumbers
    rw [List.map_map]
    rfl
  rw [hmap]
  exact (List.nodup_map_iff fun _ _ => Int32.toInt_inj.mp).symm

/-- A whole upload has no more parts than there are part numbers. -/
theorem Whole.lt {m : Media} {parts : List CompletedPart} (h : Whole m parts) :
    m.partCount < 2 ^ 31 := by
  by_contra hlarge
  have hmem : (2 ^ 31 : Int) ∈ partNumbers parts :=
    h.1.mem_iff.mpr (mem_numbers.mpr ⟨by decide, by omega⟩)
  obtain ⟨p, -, heq⟩ := List.mem_map.mp hmem
  have hlt := p.partNumber.toInt_lt
  omega

theorem checks_iff_whole {m : Media} (hsize : 0 ≤ m.sizeBytes) {parts : List CompletedPart} :
    ((parts.length : Int) = (expectedParts m).toInt ∧
      checkParts (expectedParts m) [] parts = none) ↔ Whole m parts := by
  have hlength : (partNumbers parts).length = parts.length := List.length_map ..
  have hexact : (expectedParts m).toInt = m.partCount →
      (((parts.length : Int) = (expectedParts m).toInt ∧
        checkParts (expectedParts m) [] parts = none) ↔ Whole m parts) := by
    intro hcount
    unfold Whole
    rw [checkParts_eq_none_iff, perm_numbers_iff, nodup_partNumbers_iff, hlength, hcount]
    constructor
    · rintro ⟨hmany, hvalid, hnodup⟩
      refine ⟨⟨by omega, ?_, hnodup⟩, fun p hp => (hvalid p hp).1.2.2⟩
      intro x hx
      obtain ⟨p, hp, rfl⟩ := List.mem_map.mp hx
      obtain ⟨⟨hlow, hhigh, -⟩, -⟩ := hvalid p hp
      exact ⟨hlow, hcount ▸ hhigh⟩
    · rintro ⟨⟨hmany, hrange, hnodup⟩, hetag⟩
      refine ⟨by omega, fun p hp => ⟨?_, List.not_mem_nil⟩, hnodup⟩
      obtain ⟨hlow, hhigh⟩ := hrange p.partNumber.toInt (List.mem_map.mpr ⟨p, hp, rfl⟩)
      exact ⟨hlow, hcount ▸ hhigh, hetag p hp⟩
  rcases expectedParts_cases hsize with ⟨-, hcount⟩ | ⟨hlarge, hcount | hneg⟩
  · exact hexact hcount
  · exact hexact hcount
  · constructor
    · rintro ⟨hmany, -⟩
      omega
    · intro hwhole
      exact absurd hwhole.lt (by omega)

-- ============================================================================
-- The order
-- ============================================================================

/-- The comparator does not wrap around on positive numbers. -/
theorem comparator_eq {a b : CompletedPart} (ha : 1 ≤ a.partNumber.toInt)
    (hb : 1 ≤ b.partNumber.toInt) :
    decide (a.partNumber - b.partNumber ≤ 0)
      = decide (a.partNumber.toInt ≤ b.partNumber.toInt) := by
  have hlt := a.partNumber.toInt_lt
  have hlt' := b.partNumber.toInt_lt
  have hzero : (0 : Int32).toInt = 0 := by decide
  have hdiff : (a.partNumber - b.partNumber).toInt
      = a.partNumber.toInt - b.partNumber.toInt := by
    rw [Int32.toInt_sub]
    exact Int.bmod_eq_of_le (by omega) (by omega)
  rw [decide_eq_decide, Int32.le_iff_toInt_le, hzero, hdiff]
  omega

theorem sortParts_perm (parts : List CompletedPart) : (sortParts parts).Perm parts :=
  List.mergeSort_perm _ _

/-- The parts of a whole upload are put in ascending order. -/
theorem partNumbers_sortParts {n : Nat} {parts : List CompletedPart}
    (h : (partNumbers parts).Perm (numbers n)) : partNumbers (sortParts parts) = numbers n := by
  have hpos : ∀ p ∈ parts, 1 ≤ p.partNumber.toInt := fun p hp =>
    (mem_numbers.mp (h.mem_iff.mp (List.mem_map.mpr ⟨p, hp, rfl⟩))).1
  have hsort : partNumbers (sortParts parts)
      = (partNumbers parts).mergeSort (fun a b => decide (a ≤ b)) :=
    List.map_mergeSort fun a ha b hb => comparator_eq (hpos a ha) (hpos b hb)
  have hsorted : ((partNumbers parts).mergeSort (fun a b => decide (a ≤ b))).Pairwise
      (fun a b => decide (a ≤ b) = true) := by
    refine List.pairwise_mergeSort ?_ ?_ (partNumbers parts)
    · intro a b c hab hbc
      exact decide_eq_true ((of_decide_eq_true hab).trans (of_decide_eq_true hbc))
    · intro a b
      simpa using le_total a b
  rw [hsort]
  refine List.Perm.eq_of_pairwise ?_ (hsorted.imp of_decide_eq_true) (sorted_numbers n) ?_
  · exact fun a b _ _ hab hba => le_antisymm hab hba
  · exact (List.mergeSort_perm _ _).trans h

-- ============================================================================
-- `Complete`
-- ============================================================================

/-- What `Complete` does with the parts: it hands on those of the whole upload, in ascending
    order, and refuses every other list at once. -/
structure CompletesExactly (m : Media) (sid : String) (parts : List CompletedPart)
    (rest : Code (Except MediaError Unit)) : Prop where
  reached : (∃ sent k, rest = call (.completeMultipart m.objectKey sid sent) k) ↔ Whole m parts
  sent : ∀ sent k, rest = call (.completeMultipart m.objectKey sid sent) k →
    sent.Perm parts ∧ partNumbers sent = numbers m.partCount
  refused : ¬Whole m parts → ∃ e, rest = done (.error e)

/-- What follows the look-up of an open and unexpired multipart upload of the owner. -/
theorem completesExactly_of_follows {owner uploadID sid : String} {parts : List CompletedPart}
    {now written : Int64} {u : Upload} {m : Media} {rest : Code (Except MediaError Unit)}
    (howner : m.ownerUserID = owner) (hopen : u.status = .OPEN) (hnow : now < u.expiresAtMs)
    (hmode : u.mode = .multipart) (hsid : u.s3UploadID = some sid) (hsize : 0 ≤ m.sizeBytes)
    (hrest : (complete owner uploadID parts now written).Follows
      [⟨.uploadByID uploadID, .ok (u, m)⟩] rest) :
    CompletesExactly m sid parts rest := by
  have hrunning : ¬(u.status ≠ .OPEN ∨ u.expiresAtMs ≤ now) := by
    rintro (hclosed | hexpired)
    · exact hclosed hopen
    · exact Int64.not_le.mpr hnow hexpired
  have hbody := hrest.call_eq
  dsimp only at hbody
  rw [if_neg (not_not.mpr howner), if_neg (by simp [hopen]), if_neg hrunning, if_pos hmode,
    hsid] at hbody
  dsimp only at hbody
  by_cases hwhole : Whole m parts
  · obtain ⟨hcount, hcheck⟩ := (checks_iff_whole hsize).mpr hwhole
    rw [if_neg (not_not.mpr hcount), hcheck] at hbody
    dsimp only at hbody
    refine ⟨iff_of_true ⟨_, _, hbody⟩ hwhole, ?_, fun h => absurd hwhole h⟩
    intro sent k heq
    obtain ⟨hcall, -⟩ := Program.call.inj (hbody.symm.trans heq)
    obtain ⟨-, -, rfl⟩ := Call.completeMultipart.inj hcall
    exact ⟨sortParts_perm parts, partNumbers_sortParts hwhole.1⟩
  · have herror : ∃ e, rest = done (.error e) := by
      by_cases hcount : (parts.length : Int) = (expectedParts m).toInt
      · rw [if_neg (not_not.mpr hcount)] at hbody
        cases hcheck : checkParts (expectedParts m) [] parts with
        | none => exact absurd ((checks_iff_whole hsize).mp ⟨hcount, hcheck⟩) hwhole
        | some e =>
            rw [hcheck] at hbody
            exact ⟨e, hbody⟩
      · rw [if_pos hcount] at hbody
        exact ⟨_, hbody⟩
    obtain ⟨e, he⟩ := herror
    refine ⟨iff_of_false ?_ hwhole, ?_, fun _ => ⟨e, he⟩⟩
    · rintro ⟨sent, k, heq⟩
      cases he.symm.trans heq
    · intro sent k heq
      cases he.symm.trans heq

/-- **Multipart completion.**  With the look-up of an open and unexpired multipart upload of the
    owner, `Complete` hands on exactly the whole uploads. -/
theorem complete_exactly {owner uploadID sid : String} (parts : List CompletedPart)
    {now written : Int64} {u : Upload} {m : Media} (howner : m.ownerUserID = owner)
    (hopen : u.status = .OPEN) (hnow : now < u.expiresAtMs) (hmode : u.mode = .multipart)
    (hsid : u.s3UploadID = some sid) (hsize : 0 ≤ m.sizeBytes) :
    ∃ rest, (complete owner uploadID parts now written).Follows
      [⟨.uploadByID uploadID, .ok (u, m)⟩] rest ∧ CompletesExactly m sid parts rest := by
  refine ⟨_, .cons _ _ _ (.nil _), ?_⟩
  exact completesExactly_of_follows howner hopen hnow hmode hsid hsize (.cons _ _ _ (.nil _))

/-- An upload of two parts. -/
def pairUpload : Upload := ⟨"u", "m", .multipart, .OPEN, some "s", 0, 1000⟩

/-- A film of 64 MiB. -/
def pairMedia : Media := ⟨"m", "o", "key", "film.mp4", "video/mp4", .UPLOADING, 67108864, 0, 0⟩

/-- Its two parts, in the wrong order. -/
def pairParts : List CompletedPart := [⟨2, "\"b\""⟩, ⟨1, "\"a\""⟩]

/-- The browser has sent the second part first. -/
theorem complete_exactly_pair : Whole pairMedia pairParts ∧
    ∃ rest, (complete "o" "u" pairParts 0 0).Follows
      [⟨.uploadByID "u", .ok (pairUpload, pairMedia)⟩] rest ∧
        CompletesExactly pairMedia "s" pairParts rest := by
  refine ⟨(checks_iff_whole (by decide)).mp (by decide +kernel), ?_⟩
  exact complete_exactly pairParts rfl rfl (by decide) rfl rfl (by decide)

end WatchTogether.Uploads

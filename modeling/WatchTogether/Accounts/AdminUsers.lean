/-
  WatchTogether.Accounts.AdminUsers

  The search for users in the administration: `pagination` (`internal/httpapi/admin.go`) and
  `Store.AdminUsers` (`internal/repository/admin.go`).

  The text becomes a pattern of `LIKE` as it is: what it has of `%` and `_` are wildcards.  A
  pattern of a request has at most 102 letters, which is within what `LIKE` takes.
-/

import Mathlib.Data.List.TakeWhile
import Mathlib.Data.Prod.Lex
import Mathlib.Data.String.Basic
import WatchTogether.Chat.Paging
import WatchTogether.Lib.OffsetPaging
import WatchTogether.Lib.Wildcard
import WatchTogether.Repository.Database
import WatchTogether.Uploads.Service

namespace WatchTogether.Accounts

open Repository

-- ============================================================================
-- The request
-- ============================================================================

/-- The query parameters; an absent one is empty. -/
structure AdminQuery where
  q : String
  page : String
  perPage : String

/-- `pagination`. -/
def pagination (query : AdminQuery) : String × Int64 × Int64 :=
  let page := Chat.parseInt query.page
  let per := Chat.parseInt query.perPage
  let page := if page < 1 then 1 else page
  let page := if 1000000 < page then 1000000 else page
  let per := if per < 1 then 20 else per
  let per := if 100 < per then 100 else per
  let q := Uploads.trimSpace query.q.toList
  let q := if 100 < q.length then q.take 100 else q
  (String.ofList q, page, per)

-- ============================================================================
-- `LIKE`
-- ============================================================================

/-- A letter of a pattern, without `ESCAPE`. -/
def wildcard (c : Char) : Wildcard Char :=
  if c = '%' then .many else if c = '_' then .one else .lit c

/-- Letters are compared without the case of ASCII. -/
def sameLetter (c d : Char) : Bool := c.toLower = d.toLower

/-- A letter as `LIKE` decodes it: U+FFFE and U+FFFF become U+FFFD. -/
def readLetter (c : Char) : Char := if c.toNat = 65534 ∨ c.toNat = 65535 then '\ufffd' else c

/-- What `LIKE` reads of a text, which ends for it at U+0000. -/
def cText (s : String) : List Char := (s.toList.takeWhile (fun c => c.toNat ≠ 0)).map readLetter

/-- `text LIKE pattern`. -/
def like (text pattern : String) : Bool :=
  Wildcard.Matches sameLetter ((cText pattern).map wildcard) (cText text)

example : like "\ufffd" "%\ufffe%" = true := by decide +kernel

-- ============================================================================
-- `AdminUsers`
-- ============================================================================

/-- `AdminUser`: a row of the list. -/
structure AdminUser where
  user : User
  roomCount : Nat
  mediaCount : Nat
deriving DecidableEq

/-- `Page`: a page of a list, with the number of all its items. -/
structure Page (α : Type) where
  items : List α
  total : Nat
  page : Int
  perPage : Int

/-- `username LIKE ? OR nickname LIKE ?`. -/
def Hit (q : String) (u : AccountRow) : Bool :=
  like u.username ("%" ++ q ++ "%") || like u.nickname ("%" ++ q ++ "%")

/-- The columns of a user: also the rooms that are hosted, and the films that are not deleted. -/
def adminUser (d : Database) (id : String) (u : AccountRow) : AdminUser where
  user := u.toUser id
  roomCount := (d.rooms.rows.filter (fun r => r.hostUserID = id)).length
  mediaCount := (d.media.rows.filter (fun m => m.ownerUserID = id ∧ m.deletedAtMs = none)).length

/-- The users that satisfy a condition. -/
def found (p : AccountRow → Bool) (d : Database) : List AdminUser :=
  (d.users.entries.filter (fun e => p e.2)).map (fun e => adminUser d e.1 e.2)

/-- `ORDER BY u.role='SUPER_ADMIN' DESC,u.created_at_ms DESC,u.id`. -/
def AdminUser.orderBy (u : AdminUser) : Bool ×ₗ Int ×ₗ String :=
  toLex (u.user.role ≠ .SUPER_ADMIN, toLex (-u.user.createdAtMs.toInt, u.user.id))

/-- The order of the list. -/
def NotAfter (a b : AdminUser) : Prop := a.orderBy ≤ b.orderBy

instance (a b : AdminUser) : Decidable (NotAfter a b) :=
  inferInstanceAs (Decidable (a.orderBy ≤ b.orderBy))

instance : Std.Total NotAfter where
  total a b := le_total a.orderBy b.orderBy

instance : IsTrans AdminUser NotAfter where
  trans _ _ _ := le_trans

/-- `LIMIT`: a negative one is none. -/
def limit {α : Type} (n : Int) (rows : List α) : List α := if n < 0 then rows else rows.take n.toNat

/-- `Store.AdminUsers`, where the database answers. -/
def adminUsers (q : String) (page per : Int) (d : Database) : Page AdminUser where
  items := limit per (((found (Hit q) d).insertionSort NotAfter).drop ((page - 1) * per).toNat)
  total := (d.users.entries.filter (fun e => Hit q e.2)).length
  page := page
  perPage := per

-- ============================================================================
-- What is searched for
-- ============================================================================

/-- The text is a part of the name, apart from the case of ASCII. -/
def Contains (q name : String) : Bool := decide (q.toList.map Char.toLower <:+: name.toList.map Char.toLower)

/-- The username or the nickname contains the text. -/
def Named (q : String) (u : AccountRow) : Bool := Contains q u.username || Contains q u.nickname

/-- The total is the number of the users with the text in a name, and the pages up to the first
    empty one have exactly these, each once, in order. -/
structure SearchExact (q : String) (per : Int) (d : Database) : Prop where
  total : ∀ page, (adminUsers q page per d).total = (found (Named q) d).length
  pages : ∃ fuel ps,
    OffsetPaging.request (fun k => (adminUsers q k per d).items) fuel 1 = some ps ∧
      ps.flatten.Perm (found (Named q) d) ∧ ps.flatten.Pairwise NotAfter

/-- For every user, the wildcards of the text find no more than the text, and nothing is cut
    off. -/
def Literal (q : String) (d : Database) : Prop :=
  ∀ id u, d.users.lookup id = some u → (Hit q u = true ↔ Named q u = true)

/-- A letter that `LIKE` does not read as it is. -/
def misread (c : Char) : Bool := c.toNat = 0 || c.toNat = 65534 || c.toNat = 65535

/-- A letter that `LIKE` does not take for itself in a pattern. -/
def special (c : Char) : Bool := c = '%' || c = '_' || misread c

/-- No letter of the text is special. -/
def Plain (q : String) : Prop := ∀ c ∈ q.toList, special c = false

/-- `LIKE` reads every name as it is. -/
def Printable (d : Database) : Prop :=
  ∀ id u, d.users.lookup id = some u →
    (∀ c ∈ u.username.toList, misread c = false) ∧ ∀ c ∈ u.nickname.toList, misread c = false

-- ============================================================================
-- The handler
-- ============================================================================

/-- The handler hands on what is trimmed, short and in range. -/
theorem pagination_eq {q : String} {page per : Int64}
    (htrim : Uploads.trimSpace q.toList = q.toList) (hshort : q.toList.length ≤ 100)
    (hpage : 1 ≤ page ∧ page ≤ 1000000) (hper : 1 ≤ per ∧ per ≤ 100) :
    pagination ⟨q, toString page.toInt, toString per.toInt⟩ = (q, page, per) := by
  have hle : ∀ {a b : Int64}, a ≤ b → ¬b < a := by
    intro a b h
    rw [Int64.lt_iff_toInt_lt]
    rw [Int64.le_iff_toInt_le] at h
    omega
  simp only [pagination, Chat.parseInt_toString, htrim]
  rw [if_neg (hle hpage.1), if_neg (hle hpage.2), if_neg (hle hper.1), if_neg (hle hper.2),
    if_neg (by omega), String.ofList_toList]

/-- The page size that is handed on. -/
theorem pagination_per {query : AdminQuery} {q : String} {page per : Int64}
    (h : pagination query = (q, page, per)) : 0 < per.toInt := by
  obtain rfl : (pagination query).2.2 = per := by rw [h]
  have hone : (1 : Int64).toInt = 1 := by decide
  simp only [pagination]
  split_ifs with hlow hhigh hhigh
  all_goals first | decide | skip
  rw [Int64.lt_iff_toInt_lt, hone] at hlow
  omega

-- ============================================================================
-- Letters
-- ============================================================================

theorem misread_iff {c : Char} :
    misread c = true ↔ c.toNat = 0 ∨ c.toNat = 65534 ∨ c.toNat = 65535 := by
  rw [misread, Bool.or_eq_true, Bool.or_eq_true, decide_eq_true_eq, decide_eq_true_eq,
    decide_eq_true_eq, or_assoc]

theorem special_iff {c : Char} :
    special c = true ↔
      c.toNat = 37 ∨ c.toNat = 95 ∨ c.toNat = 0 ∨ c.toNat = 65534 ∨ c.toNat = 65535 := by
  have hpercent : c = '%' ↔ c.toNat = 37 :=
    ⟨fun h => h ▸ rfl, fun h => Char.toNat_inj.mp h⟩
  have hunderscore : c = '_' ↔ c.toNat = 95 :=
    ⟨fun h => h ▸ rfl, fun h => Char.toNat_inj.mp h⟩
  rw [special, Bool.or_eq_true, Bool.or_eq_true, decide_eq_true_eq, decide_eq_true_eq,
    misread_iff, hpercent, hunderscore, or_assoc]

/-- A lower-case letter comes from a letter. -/
theorem toNat_toLower (c : Char) :
    c.toLower = c ∨ (65 ≤ c.toNat ∧ c.toNat ≤ 90 ∧ c.toLower.toNat = c.toNat + 32) := by
  by_cases h : c.val ≥ 'A'.val ∧ c.val ≤ 'Z'.val
  · have hlo : 65 ≤ c.toNat := h.1
    have hhi : c.toNat ≤ 90 := h.2
    refine .inr ⟨hlo, hhi, ?_⟩
    have hval : c.toLower.val = c.val + ('a'.val - 'A'.val) := congrArg Char.val (dif_pos h)
    show c.toLower.val.toNat = c.val.toNat + 32
    rw [hval]
    rw [UInt32.toNat_add]
    exact Nat.mod_eq_of_lt (by
      show c.toNat + 32 < 2 ^ 32
      omega)
  · exact .inl (dif_neg h)

/-- Without its case a letter is as special as with it. -/
theorem special_toLower (c : Char) : special c.toLower = special c := by
  rw [Bool.eq_iff_iff, special_iff, special_iff]
  rcases toNat_toLower c with h | ⟨hlo, hhi, hnat⟩
  · rw [h]
  · omega

theorem wildcard_plain {c : Char} (h : special c = false) : wildcard c = .lit c := by
  have hnot : ¬(c.toNat = 37 ∨ c.toNat = 95 ∨ c.toNat = 0 ∨ c.toNat = 65534 ∨ c.toNat = 65535) := by
    rw [← special_iff, h]
    exact Bool.false_ne_true
  rw [wildcard, if_neg, if_neg]
  · rintro rfl
    exact hnot (.inr (.inl rfl))
  · rintro rfl
    exact hnot (.inl rfl)

theorem misread_of_plain {c : Char} (h : special c = false) : misread c = false := by
  rw [special, Bool.or_eq_false_iff] at h
  exact h.2

theorem ne_zero_of_read {c : Char} (h : misread c = false) : c.toNat ≠ 0 := by
  intro hzero
  rw [misread_iff.mpr (.inl hzero)] at h
  cases h

theorem readLetter_eq {c : Char} (h : misread c = false) : readLetter c = c := by
  have hnot : ¬(c.toNat = 0 ∨ c.toNat = 65534 ∨ c.toNat = 65535) := by
    rw [← misread_iff, h]
    exact Bool.false_ne_true
  exact if_neg (fun hread => hnot (.inr hread))

/-- What is read would be read as it is. -/
theorem misread_readLetter {c : Char} (h : c.toNat ≠ 0) : misread (readLetter c) = false := by
  rw [readLetter]
  split_ifs with hread
  · decide
  · rw [← Bool.not_eq_true, misread_iff]
    exact fun hmis => hmis.elim h hread

/-- A text of letters that `LIKE` reads as they are is read as it is. -/
theorem cText_eq {s : String} (h : ∀ c ∈ s.toList, misread c = false) : cText s = s.toList := by
  have hwhole : s.toList.takeWhile (fun c => c.toNat ≠ 0) = s.toList := by
    rw [List.takeWhile_eq_self_iff]
    intro c hc
    exact decide_eq_true (ne_zero_of_read (h c hc))
  rw [cText, hwhole, List.map_congr_left (fun c hc => readLetter_eq (h c hc)), List.map_id']

/-- Everything that is read of a text would be read as it is. -/
theorem misread_of_mem_cText {s : String} {c : Char} (h : c ∈ cText s) : misread c = false := by
  obtain ⟨x, hx, rfl⟩ := List.mem_map.mp h
  have hnul := List.mem_takeWhile_imp hx
  exact misread_readLetter (of_decide_eq_true hnul)

-- ============================================================================
-- Pages
-- ============================================================================

variable {q : String} {d : Database} {per : Int}

theorem mem_found {p : AccountRow → Bool} {id : String} {u : AccountRow}
    (hu : d.users.lookup id = some u) : adminUser d id u ∈ found p d ↔ p u = true := by
  rw [found, List.mem_map]
  constructor
  · rintro ⟨⟨id', u'⟩, hmem, heq⟩
    obtain ⟨hentry, hp⟩ := List.mem_filter.mp hmem
    have hid : id' = id := congrArg (fun x => x.user.id) heq
    subst hid
    rw [AList.mem_entries_iff, hu] at hentry
    obtain rfl := Option.some.inj hentry
    exact hp
  · intro hp
    exact ⟨⟨id, u⟩, List.mem_filter.mpr ⟨AList.mem_entries_iff.mpr hu, hp⟩, rfl⟩

theorem found_congr {p p' : AccountRow → Bool}
    (h : ∀ id u, d.users.lookup id = some u → (p u = true ↔ p' u = true)) :
    found p d = found p' d := by
  rw [found, found]
  refine congrArg _ (List.filter_congr ?_)
  rintro ⟨id, u⟩ hmem
  exact Bool.eq_iff_iff.mpr (h id u (AList.mem_entries_iff.mp hmem))

/-- The users that are found, in order. -/
def foundInOrder (q : String) (d : Database) : List AdminUser :=
  (found (Hit q) d).insertionSort NotAfter

theorem items_eq (hper : 0 < per) (k : Nat) :
    (adminUsers q k per d).items = OffsetPaging.page (foundInOrder q d) per.toNat k := by
  have hoffset : (((k : Int) - 1) * per).toNat = (k - 1) * per.toNat := by
    obtain ⟨n, rfl⟩ := Int.eq_ofNat_of_zero_le hper.le
    cases k with
    | zero =>
        rw [Nat.zero_sub, Nat.zero_mul, Int.toNat_of_nonpos]
        simp only [Nat.cast_zero, Int.zero_sub, Int.neg_mul, Int.one_mul]
        omega
    | succ k =>
        rw [Nat.cast_succ, Int.add_sub_cancel, ← Int.natCast_mul, Int.toNat_natCast,
          Nat.add_sub_cancel, Int.toNat_natCast]
  rw [adminUsers, limit, if_neg (by omega), hoffset, OffsetPaging.page, foundInOrder]

/-- The requests are pages of the users that are found. -/
theorem pages_eq (hper : 0 < per) : (fun k : Nat => (adminUsers q k per d).items) =
    OffsetPaging.page (foundInOrder q d) per.toNat := funext (items_eq hper)

/-- The requests have all users that are found, in order. -/
theorem requests_eq (hper : 0 < per) :
    ∃ fuel ps, OffsetPaging.request (fun k => (adminUsers q k per d).items) fuel 1 = some ps := by
  have hends : ∃ ps, OffsetPaging.request (OffsetPaging.page (foundInOrder q d) per.toNat)
      ((foundInOrder q d).length + 1) 1 = some ps :=
    OffsetPaging.request_ends (by omega) Nat.one_pos (by omega)
  rw [pages_eq hper]
  exact ⟨_, hends⟩

theorem flatten_requests (hper : 0 < per) {fuel : Nat} {ps : List (List AdminUser)}
    (h : OffsetPaging.request (fun k => (adminUsers q k per d).items) fuel 1 = some ps) :
    ps.flatten = foundInOrder q d := by
  rw [pages_eq hper] at h
  have hflatten := OffsetPaging.flatten_request (by omega) Nat.one_pos h
  rw [Nat.sub_self, Nat.zero_mul, List.drop_zero] at hflatten
  exact hflatten

/-- **One table.**  The search is exact where `LIKE` finds the users with the text in a name. -/
theorem searchExact_iff (hper : 0 < per) : SearchExact q per d ↔ Literal q d := by
  constructor
  · rintro ⟨-, fuel, ps, hps, hperm, -⟩ id u hu
    rw [flatten_requests hper hps] at hperm
    have hsame := ((List.perm_insertionSort _ _).symm.trans hperm).mem_iff
      (a := adminUser d id u)
    rw [mem_found hu, mem_found hu] at hsame
    exact hsame
  · intro h
    have hfound : found (Hit q) d = found (Named q) d := found_congr h
    obtain ⟨fuel, ps, hps⟩ := requests_eq hper (q := q) (d := d)
    refine ⟨?_, fuel, ps, hps, ?_, ?_⟩
    · intro page
      rw [← hfound, found, List.length_map]
      rfl
    · rw [flatten_requests hper hps, ← hfound]
      exact List.perm_insertionSort _ _
    · rw [flatten_requests hper hps]
      exact List.pairwise_insertionSort _ _

-- ============================================================================
-- Texts without wildcards
-- ============================================================================

theorem toList_pattern (q : String) :
    ("%" ++ q ++ "%").toList = '%' :: (q.toList ++ ['%']) := by
  rw [String.toList_append, String.toList_append]
  rfl

/-- The pattern of a text that is read as it is. -/
theorem pattern_eq (h : ∀ c ∈ q.toList, misread c = false) :
    (cText ("%" ++ q ++ "%")).map wildcard =
      .many :: (q.toList.map wildcard ++ [.many]) := by
  have hall : ∀ c ∈ ("%" ++ q ++ "%").toList, misread c = false := by
    rw [toList_pattern]
    intro c hc
    rcases List.mem_cons.mp hc with rfl | hc
    · decide
    · rcases List.mem_append.mp hc with hc | hc
      · exact h c hc
      · obtain rfl := List.mem_singleton.mp hc
        decide
  rw [cText_eq hall, toList_pattern, List.map_cons, List.map_append]
  rfl

/-- Letters that are the same, one by one. -/
theorem forall₂_sameLetter {as bs : List Char} :
    List.Forall₂ (fun a b => sameLetter a b = true) as bs ↔
      as.map Char.toLower = bs.map Char.toLower := by
  rw [← List.forall₂_eq_eq_eq, List.forall₂_map_left_iff, List.forall₂_map_right_iff]
  simp only [sameLetter, decide_eq_true_eq]

/-- Without wildcards `LIKE` finds the text. -/
theorem like_iff_contains (hq : Plain q) {name : String}
    (hname : ∀ c ∈ name.toList, misread c = false) :
    like name ("%" ++ q ++ "%") = true ↔ Contains q name = true := by
  have hlits : q.toList.map wildcard = q.toList.map Wildcard.lit :=
    List.map_congr_left (fun c hc => wildcard_plain (hq c hc))
  rw [like, pattern_eq (fun c hc => misread_of_plain (hq c hc)), cText_eq hname, hlits,
    Wildcard.matches_between, Contains, decide_eq_true_eq, List.infix_map_iff]
  refine exists_congr (fun w => and_congr_right (fun _ => ?_))
  rw [Wildcard.matches_lits, forall₂_sameLetter]

theorem literal_of_plain (hq : Plain q) (hd : Printable d) : Literal q d := by
  intro id u hu
  obtain ⟨husername, hnickname⟩ := hd id u hu
  rw [Hit, Named, Bool.or_eq_true, Bool.or_eq_true, like_iff_contains hq husername,
    like_iff_contains hq hnickname]

-- ============================================================================
-- Texts with wildcards
-- ============================================================================

/-- What a letter of a pattern stands for, without a wildcard. -/
def expandLetter (c : Char) : List Char := if c = '%' then [] else if c = '_' then ['a'] else [c]

/-- A name that the text stands for, as far as `LIKE` reads it. -/
def expand (q : String) : String := String.ofList ((cText q).flatMap expandLetter)

theorem matches_expand (l : List Char) :
    Wildcard.Matches sameLetter (l.map wildcard) (l.flatMap expandLetter) = true := by
  induction l with
  | nil => rfl
  | cons c l ih =>
      rw [List.map_cons, List.flatMap_cons, wildcard, expandLetter]
      split_ifs
      · exact Wildcard.matches_many_cons.mpr ⟨_, List.suffix_refl _, ih⟩
      · exact Wildcard.matches_one_cons.mpr ⟨_, _, rfl, ih⟩
      · exact Wildcard.matches_lit_cons.mpr ⟨_, _, rfl, decide_eq_true rfl, ih⟩

theorem expand_plain (q : String) : Plain (expand q) := by
  intro c hc
  rw [expand, String.toList_ofList, List.mem_flatMap] at hc
  obtain ⟨x, hx, hc⟩ := hc
  have hread := misread_of_mem_cText hx
  rw [expandLetter] at hc
  split_ifs at hc with hpercent hunderscore
  · exact absurd hc List.not_mem_nil
  · obtain rfl := List.mem_singleton.mp hc
    decide
  · obtain rfl := List.mem_singleton.mp hc
    rw [special, decide_eq_false hpercent, decide_eq_false hunderscore, hread]
    rfl

/-- The pattern of any text: it may end early, and then has no second wildcard. -/
theorem cText_pattern (q : String) :
    ∃ rest, cText ("%" ++ q ++ "%") = '%' :: (cText q ++ rest) ∧ (rest = [] ∨ rest = ['%']) := by
  have hhead : cText ("%" ++ q ++ "%") =
      '%' :: ((q.toList ++ ['%']).takeWhile (fun c => c.toNat ≠ 0)).map readLetter := by
    rw [cText, toList_pattern, List.takeWhile_cons, if_pos (by decide)]
    rfl
  rw [hhead, List.takeWhile_append]
  split_ifs with hwhole
  · have hall : q.toList.takeWhile (fun c => c.toNat ≠ 0) = q.toList :=
      List.takeWhile_prefix _ |>.eq_of_length hwhole
    refine ⟨['%'], ?_, .inr rfl⟩
    rw [List.map_append, cText, hall]
    rfl
  · exact ⟨[], by rw [List.append_nil]; rfl, .inl rfl⟩

/-- `LIKE` finds the name. -/
theorem like_expand (q : String) : like (expand q) ("%" ++ q ++ "%") = true := by
  have hname : cText (expand q) = (cText q).flatMap expandLetter := by
    rw [cText_eq (fun c hc => misread_of_plain (expand_plain q c hc)), expand, String.toList_ofList]
  obtain ⟨rest, hpattern, hrest⟩ := cText_pattern q
  have hnothing : Wildcard.Matches sameLetter (rest.map wildcard) [] = true := by
    rcases hrest with rfl | rfl
    · rfl
    · exact Wildcard.matches_many
  rw [like, hname, hpattern, List.map_cons, List.map_append]
  refine Wildcard.matches_many_cons.mpr ⟨_, List.suffix_refl _, ?_⟩
  exact Wildcard.matches_append.mpr
    ⟨_, [], (List.append_nil _).symm, matches_expand (cText q), hnothing⟩

/-- The name does not contain a text with a special letter. -/
theorem not_contains_expand (hq : ¬Plain q) : Contains q (expand q) = false := by
  rw [Contains, decide_eq_false_iff_not]
  intro hpart
  refine hq ?_
  intro c hc
  obtain ⟨x, hx, heq⟩ := List.mem_map.mp (hpart.subset (List.mem_map_of_mem hc))
  rw [← special_toLower c, ← heq, special_toLower x]
  exact expand_plain q x hx

/-- A table of one user with the name. -/
def oneUser (name : String) : Database :=
  { Database.empty with
    users := (∅ : KeyedTable String AccountRow).insert "u" ⟨name, "", name, 1, 1, .USER, false⟩ }

theorem lookup_oneUser {name id : String} {u : AccountRow}
    (h : (oneUser name).users.lookup id = some u) : u.username = name ∧ u.nickname = name := by
  rcases AList.lookup_insert_iff.mp h with ⟨-, rfl⟩ | ⟨-, hnone⟩
  · exact ⟨rfl, rfl⟩
  · rw [AList.lookup_empty] at hnone
    cases hnone

/-- The text of a request is exact on every table of names that are read as they are exactly if
    it has no special letter. -/
theorem searchExact_iff_plain (hper : 0 < per) :
    (∀ d, Printable d → SearchExact q per d) ↔ Plain q := by
  constructor
  · intro hall
    by_contra hq
    have hprintable : Printable (oneUser (expand q)) := by
      intro id u hu
      obtain ⟨husername, hnickname⟩ := lookup_oneUser hu
      rw [husername, hnickname]
      exact ⟨fun c hc => misread_of_plain (expand_plain q c hc),
        fun c hc => misread_of_plain (expand_plain q c hc)⟩
    have hliteral := (searchExact_iff hper).mp (hall _ hprintable)
    have hhit : Hit q ⟨expand q, "", expand q, 1, 1, .USER, false⟩ = true := by
      rw [Hit, like_expand]
      rfl
    have hnamed := (hliteral "u" _ (AList.lookup_insert _)).mp hhit
    rw [Named, not_contains_expand hq] at hnamed
    cases hnamed
  · intro hq d hd
    exact (searchExact_iff hper).mpr (literal_of_plain hq hd)

end WatchTogether.Accounts

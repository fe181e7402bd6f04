/-
  WatchTogether.Lib.KeysetPaging

  Rows read newest first in pages of `n`, each page below the smallest key of the one before.

  A page leaves behind the rows that share the key of its last row and did not fit. The pages
  yield every row exactly when no key has rows on both sides of a multiple of `n`, counted
  from the newest row.
-/

import Mathlib.Data.List.Perm.Subperm
import Mathlib.Order.Lattice

namespace KeysetPaging

variable {ρ κ : Type*} [LinearOrder κ] (key : ρ → κ) (n : Nat)

-- ============================================================================
-- Pages
-- ============================================================================

/-- The rows below the key `k`. -/
def below (k : κ) (rows : List ρ) : List ρ := rows.filter (fun r => decide (key r < k))

/-- `p` is a list of the newest `n` rows, in some order of the rows that share a key. -/
def IsPage (rows p : List ρ) : Prop :=
  ∃ rest, (p ++ rest).Perm rows ∧ (p ++ rest).Pairwise (fun r r' => key r' ≤ key r) ∧
    p.length = min n rows.length

/-- The pages that are read until one is empty. -/
inductive Pages : List ρ → List (List ρ) → Prop where
  | done : Pages [] []
  | more {rows p : List ρ} {o : ρ} {ps : List (List ρ)} (hp : IsPage key n rows p)
      (ho : p.getLast? = some o) (hps : Pages (below key (key o) rows) ps) : Pages rows (p :: ps)

/-- How many rows have a larger key. -/
def newer (k : κ) (rows : List ρ) : Nat := rows.countP (fun r => decide (k < key r))

/-- How many rows have at least this key. -/
def reached (k : κ) (rows : List ρ) : Nat := rows.countP (fun r => decide (k ≤ key r))

/-- The rows of each key fall into one page of `n`. -/
def Untorn (rows : List ρ) : Prop :=
  ∀ r ∈ rows, newer key (key r) rows / n = (reached key (key r) rows - 1) / n

/-- The rows of the key `k` are the last ones of a page of `n`. -/
def Ends (k : κ) (rows : List ρ) : Prop :=
  (∃ r ∈ rows, key r = k) ∧ (n ∣ reached key k rows ∨ reached key k rows = rows.length)

variable {key n} {rows p : List ρ} {o : ρ} {k : κ}

theorem mem_below {r : ρ} : r ∈ below key k rows ↔ r ∈ rows ∧ key r < k := by
  simp [below]

theorem below_perm_below {rows' : List ρ} (h : rows.Perm rows') :
    (below key k rows).Perm (below key k rows') := h.filter _

theorem newer_append (xs ys : List ρ) : newer key k (xs ++ ys) = newer key k xs + newer key k ys :=
  List.countP_append

theorem reached_append (xs ys : List ρ) :
    reached key k (xs ++ ys) = reached key k xs + reached key k ys := List.countP_append

theorem reached_le : reached key k rows ≤ rows.length := List.countP_le_length

theorem reached_pos {r : ρ} (h : r ∈ rows) (hk : k ≤ key r) : 0 < reached key k rows :=
  List.countP_pos_iff.mpr ⟨r, h, by simpa using hk⟩

theorem reached_eq_zero (h : ∀ r ∈ rows, key r < k) : reached key k rows = 0 := by
  refine List.countP_eq_zero.mpr (fun r hr => ?_)
  have hlt := h r hr
  simpa using hlt

theorem newer_eq_zero (h : ∀ r ∈ rows, key r ≤ k) : newer key k rows = 0 := by
  refine List.countP_eq_zero.mpr (fun r hr => ?_)
  have hle := h r hr
  simpa using hle

theorem newer_eq_length (h : ∀ r ∈ rows, k < key r) : newer key k rows = rows.length := by
  refine List.countP_eq_length.mpr (fun r hr => ?_)
  have hlt := h r hr
  simpa using hlt

theorem reached_eq_length (h : ∀ r ∈ rows, k ≤ key r) : reached key k rows = rows.length := by
  refine List.countP_eq_length.mpr (fun r hr => ?_)
  have hle := h r hr
  simpa using hle

/-- A row of the key is reached, and not newer. -/
theorem newer_lt_reached {r : ρ} (h : r ∈ rows) : newer key (key r) rows < reached key (key r) rows := by
  have hmono : ∀ xs : List ρ, newer key (key r) xs ≤ reached key (key r) xs := fun xs =>
    List.countP_mono_left (fun x _ hx => by simpa using le_of_lt (by simpa using hx))
  obtain ⟨xs, ys, rfl⟩ := List.append_of_mem h
  have hx := hmono xs
  have hy := hmono ys
  have hn : newer key (key r) (r :: ys) = newer key (key r) ys := by simp [newer]
  have hr : reached key (key r) (r :: ys) = reached key (key r) ys + 1 := by simp [reached]
  rw [newer_append, reached_append, hn, hr]
  omega

-- ============================================================================
-- One page
-- ============================================================================

/-- What a page whose last row is `o` leaves behind. -/
structure Cut (key : ρ → κ) (n : Nat) (rows p rest : List ρ) (o : ρ) : Prop where
  perm : (p ++ rest).Perm rows
  last : o ∈ p
  least : ∀ r ∈ p, key o ≤ key r
  most : ∀ r ∈ rest, key r ≤ key o
  length_le : p.length ≤ n
  full : rest ≠ [] → p.length = n

theorem IsPage.cut (hp : IsPage key n rows p) (ho : p.getLast? = some o) :
    ∃ rest, Cut key n rows p rest o := by
  obtain ⟨rest, hperm, hsorted, hlength⟩ := hp
  obtain ⟨hpp, -, hcross⟩ := List.pairwise_append.mp hsorted
  obtain ⟨q, rfl⟩ := List.getLast?_eq_some_iff.mp ho
  have hmem : o ∈ q ++ [o] := List.mem_append_right _ List.mem_cons_self
  have hlen := hperm.length_eq
  rw [List.length_append] at hlen
  refine ⟨rest, hperm, hmem, fun r hr => ?_, fun r hr => hcross o hmem r hr, by omega,
    fun hne => ?_⟩
  · rcases List.mem_append.mp hr with hr | hr
    · exact (List.pairwise_append.mp hpp).2.2 r hr o List.mem_cons_self
    · rw [List.mem_singleton.mp hr]
  · have hpos := List.length_pos_iff.mpr hne
    omega

theorem IsPage.sorted (hp : IsPage key n rows p) : p.Pairwise (fun r r' => key r' ≤ key r) := by
  obtain ⟨rest, -, hsorted, -⟩ := hp
  exact (List.pairwise_append.mp hsorted).1

/-- With a positive page size only an empty list has an empty page. -/
theorem IsPage.nil_iff (hn : 0 < n) (hp : IsPage key n rows p) : p = [] ↔ rows = [] := by
  obtain ⟨rest, -, -, hlength⟩ := hp
  rw [← List.length_eq_zero_iff, ← List.length_eq_zero_iff, hlength]
  omega

namespace Cut

variable {rest : List ρ}

/-- The rows below the page are those left behind with a smaller key. -/
theorem below_perm (h : Cut key n rows p rest o) :
    (below key (key o) rows).Perm (below key (key o) rest) := by
  have hp : below key (key o) p = [] := by
    refine List.filter_eq_nil_iff.mpr (fun r hr => ?_)
    have hle := h.least r hr
    simpa using hle
  have happ : below key (key o) (p ++ rest) = below key (key o) p ++ below key (key o) rest :=
    List.filter_append ..
  rw [hp, List.nil_append] at happ
  rw [← happ]
  exact below_perm_below h.perm.symm

theorem newer_eq (h : Cut key n rows p rest o) (t : κ) :
    newer key t rows = newer key t p + newer key t rest := by
  rw [← newer_append]
  exact (h.perm.countP_eq _).symm

theorem reached_eq (h : Cut key n rows p rest o) (t : κ) :
    reached key t rows = reached key t p + reached key t rest := by
  rw [← reached_append]
  exact (h.perm.countP_eq _).symm

theorem length_eq (h : Cut key n rows p rest o) : rows.length = p.length + rest.length := by
  rw [← List.length_append, h.perm.length_eq]

/-- The page loses no row when all that it leaves behind have a smaller key. -/
theorem rest_perm (h : Cut key n rows p rest o) (hlow : ∀ r ∈ rest, key r < key o) :
    (below key (key o) rows).Perm rest := by
  have hself : below key (key o) rest = rest :=
    List.filter_eq_self.mpr (fun r hr => by simpa using hlow r hr)
  rw [← hself]
  exact h.below_perm

/-- Below a page that loses nothing the counts go on from `n`. -/
theorem counts_below (h : Cut key n rows p rest o) (hlow : ∀ r ∈ rest, key r < key o)
    (hne : rest ≠ []) {t : κ} (ht : t < key o) :
    newer key t rows = n + newer key t (below key (key o) rows) ∧
      reached key t rows = n + reached key t (below key (key o) rows) := by
  have hperm := h.rest_perm hlow
  have hnew : newer key t p = n := by
    rw [newer_eq_length (fun r hr => lt_of_lt_of_le ht (h.least r hr)), h.full hne]
  have hreach : reached key t p = n := by
    rw [reached_eq_length (fun r hr => (lt_of_lt_of_le ht (h.least r hr)).le), h.full hne]
  refine ⟨?_, ?_⟩
  · rw [h.newer_eq, hnew]
    congr 1
    exact (hperm.countP_eq _).symm
  · rw [h.reached_eq, hreach]
    congr 1
    exact (hperm.countP_eq _).symm

/-- The rows of a key that the page shows are reached within it. -/
theorem reached_page (h : Cut key n rows p rest o) (hlow : ∀ r ∈ rest, key r < key o) {t : κ}
    (ht : key o ≤ t) : reached key t rows = reached key t p := by
  rw [h.reached_eq, reached_eq_zero (fun r hr => lt_of_lt_of_le (hlow r hr) ht), Nat.add_zero]

/-- A row that the page loses tears its key. -/
theorem low_of_untorn (hn : 0 < n) (h : Cut key n rows p rest o) (hu : Untorn key n rows) :
    ∀ r ∈ rest, key r < key o := by
  intro r hr
  rcases lt_or_eq_of_le (h.most r hr) with hlt | heq
  · exact hlt
  · have hne : rest ≠ [] := List.ne_nil_of_mem hr
    have hfull := h.full hne
    have ho : o ∈ rows := h.perm.mem_iff.mp (List.mem_append_left _ h.last)
    have hpage : newer key (key o) rows < n := by
      have hzero : newer key (key o) rest = 0 := newer_eq_zero h.most
      have hlt : newer key (key o) p < reached key (key o) p := newer_lt_reached h.last
      have hle : reached key (key o) p ≤ p.length := reached_le
      rw [h.newer_eq, hzero]
      omega
    have hover : n < reached key (key o) rows := by
      have hall : reached key (key o) p = p.length := reached_eq_length h.least
      have hpos : 0 < reached key (key o) rest := reached_pos hr heq.ge
      rw [h.reached_eq, hall]
      omega
    have huo := hu o ho
    rw [Nat.div_eq_of_lt hpage] at huo
    have hone : 1 ≤ (reached key (key o) rows - 1) / n := by
      rw [Nat.le_div_iff_mul_le hn]
      omega
    omega

theorem untorn_iff (hn : 0 < n) (h : Cut key n rows p rest o) :
    Untorn key n rows ↔
      (∀ r ∈ rest, key r < key o) ∧ Untorn key n (below key (key o) rows) := by
  -- below a page that loses nothing, both counts of a row have grown by one page
  have hshift : ∀ r ∈ below key (key o) rows, (∀ r ∈ rest, key r < key o) →
      (newer key (key r) rows / n = (reached key (key r) rows - 1) / n ↔
        newer key (key r) (below key (key o) rows) / n =
          (reached key (key r) (below key (key o) rows) - 1) / n) := by
    intro r hr hlow
    have hne : rest ≠ [] := List.ne_nil_of_mem ((h.rest_perm hlow).mem_iff.mp hr)
    obtain ⟨hnew, hreach⟩ := h.counts_below hlow hne (mem_below.mp hr).2
    have hpos : 0 < reached key (key r) (below key (key o) rows) := reached_pos hr le_rfl
    have hpred : n + reached key (key r) (below key (key o) rows) - 1 =
        n + (reached key (key r) (below key (key o) rows) - 1) := by omega
    rw [hnew, hreach, hpred, Nat.add_div_left _ hn, Nat.add_div_left _ hn]
    omega
  constructor
  · intro hu
    have hlow := h.low_of_untorn hn hu
    exact ⟨hlow, fun r hr => (hshift r hr hlow).mp (hu r (mem_below.mp hr).1)⟩
  · rintro ⟨hlow, hu⟩ r hr
    rcases List.mem_append.mp (h.perm.mem_iff.mpr hr) with hmem | hmem
    · have hlt : newer key (key r) rows < reached key (key r) rows := newer_lt_reached hr
      have hle : reached key (key r) rows ≤ n := by
        rw [h.reached_page hlow (h.least r hmem)]
        exact Nat.le_trans reached_le h.length_le
      rw [Nat.div_eq_of_lt (by omega), Nat.div_eq_of_lt (by omega)]
    · have hb := (h.rest_perm hlow).mem_iff.mpr hmem
      exact (hshift r hb hlow).mpr (hu r hb)

/-- The keys at the ends of pages: that of this page, and those below it. -/
theorem ends_iff (h : Cut key n rows p rest o) (hlow : ∀ r ∈ rest, key r < key o) {t : κ} :
    Ends key n t rows ↔ key o = t ∨ Ends key n t (below key (key o) rows) := by
  have ho : o ∈ rows := h.perm.mem_iff.mp (List.mem_append_left _ h.last)
  have hlength := h.length_eq
  rcases lt_trichotomy t (key o) with hlt | heq | hgt
  · have hmem : (∃ r ∈ rows, key r = t) ↔ ∃ r ∈ below key (key o) rows, key r = t := by
      constructor
      · rintro ⟨r, hr, rfl⟩
        exact ⟨r, mem_below.mpr ⟨hr, hlt⟩, rfl⟩
      · rintro ⟨r, hr, rfl⟩
        exact ⟨r, (mem_below.mp hr).1, rfl⟩
    constructor
    · rintro ⟨hex, hend⟩
      obtain ⟨r, hr, hrt⟩ := hmem.mp hex
      have hperm := h.rest_perm hlow
      have hne : rest ≠ [] := List.ne_nil_of_mem (hperm.mem_iff.mp hr)
      obtain ⟨-, hreach⟩ := h.counts_below hlow hne hlt
      have hfull := h.full hne
      have hblen := hperm.length_eq
      refine Or.inr ⟨⟨r, hr, hrt⟩, ?_⟩
      rw [hreach] at hend
      rcases hend with hdvd | hall
      · exact Or.inl ((Nat.dvd_add_right (Nat.dvd_refl n)).mp hdvd)
      · right
        omega
    · rintro (heq | ⟨hex, hend⟩)
      · exact absurd heq hlt.ne'
      · obtain ⟨r, hr, hrt⟩ := hex
        have hperm := h.rest_perm hlow
        have hne : rest ≠ [] := List.ne_nil_of_mem (hperm.mem_iff.mp hr)
        obtain ⟨-, hreach⟩ := h.counts_below hlow hne hlt
        have hfull := h.full hne
        have hblen := hperm.length_eq
        refine ⟨hmem.mpr ⟨r, hr, hrt⟩, ?_⟩
        rw [hreach]
        rcases hend with hdvd | hall
        · exact Or.inl ((Nat.dvd_add_right (Nat.dvd_refl n)).mpr hdvd)
        · right
          omega
  · have hreach : reached key t rows = p.length := by
      rw [h.reached_page hlow heq.ge]
      exact reached_eq_length (fun r hr => heq.trans_le (h.least r hr))
    refine ⟨fun _ => Or.inl heq.symm, fun _ => ⟨⟨o, ho, heq.symm⟩, ?_⟩⟩
    rw [hreach]
    by_cases hnil : rest = []
    · right
      rw [hlength, hnil, List.length_nil, Nat.add_zero]
    · left
      exact (h.full hnil) ▸ Nat.dvd_refl _
  · -- a key inside the page is followed by the page's last row
    constructor
    · rintro ⟨⟨r, hr, rfl⟩, hend⟩
      have hpos : 0 < reached key (key r) rows := reached_pos hr le_rfl
      have hreach := h.reached_page hlow hgt.le
      have hlt : reached key (key r) p < p.length := by
        refine Nat.lt_of_le_of_ne reached_le (fun hall => ?_)
        have hmem := List.countP_eq_length.mp hall o h.last
        exact absurd hgt (not_lt.mpr (by simpa using hmem))
      have hle := h.length_le
      rcases hend with hdvd | hall
      · exact absurd (Nat.le_of_dvd hpos hdvd) (by omega)
      · omega
    · rintro (heq | ⟨⟨r, hr, rfl⟩, -⟩)
      · exact absurd heq hgt.ne
      · exact absurd (mem_below.mp hr).2 hgt.not_gt

end Cut

-- ============================================================================
-- All pages
-- ============================================================================

/-- No row is read twice. -/
theorem Pages.subperm {ps : List (List ρ)} (h : Pages key n rows ps) : ps.flatten.Subperm rows := by
  induction h with
  | done => exact List.Subperm.refl _
  | @more rows p o ps hp ho _ ih =>
      obtain ⟨rest, hcut⟩ := hp.cut ho
      rw [List.flatten_cons]
      have hrest : (KeysetPaging.below key (key o) rest).Sublist rest := List.filter_sublist
      have hsub := (ih.trans hcut.below_perm.subperm).trans hrest.subperm
      exact ((List.Subperm.refl _).append hsub).trans hcut.perm.subperm

/-- The pages come newest first. -/
theorem Pages.sorted {ps : List (List ρ)} (h : Pages key n rows ps) :
    ps.flatten.Pairwise (fun r r' => key r' ≤ key r) := by
  induction h with
  | done => exact List.Pairwise.nil
  | more hp ho hps ih =>
      obtain ⟨rest, hcut⟩ := hp.cut ho
      rw [List.flatten_cons]
      refine List.pairwise_append.mpr ⟨hp.sorted, ih, fun r hr r' hr' => ?_⟩
      have hlt := (mem_below.mp (hps.subperm.subset hr')).2
      exact hlt.le.trans (hcut.least r hr)

/-- Every row is read exactly when no key is torn between two pages. -/
theorem Pages.perm_iff {ps : List (List ρ)} (hn : 0 < n) (h : Pages key n rows ps) :
    ps.flatten.Perm rows ↔ Untorn key n rows := by
  induction h with
  | done => exact ⟨fun _ r hr => absurd hr List.not_mem_nil, fun _ => List.Perm.refl _⟩
  | @more rows p o ps hp ho hps ih =>
      obtain ⟨rest, hcut⟩ := hp.cut ho
      rw [hcut.untorn_iff hn, ← ih, List.flatten_cons]
      constructor
      · intro hall
        have hlen : ps.flatten.length = rest.length := by
          have := hall.length_eq
          rw [hcut.length_eq, List.length_append] at this
          omega
        have hbelow := hps.subperm.length_le
        have hsub : (KeysetPaging.below key (key o) rest).Sublist rest := List.filter_sublist
        rw [hcut.below_perm.length_eq, hlen] at hbelow
        have hself : KeysetPaging.below key (key o) rest = rest :=
          hsub.eq_of_length (Nat.le_antisymm hsub.length_le hbelow)
        refine ⟨fun r hr => ?_, hps.subperm.perm_of_length_le ?_⟩
        · rw [← hself] at hr
          exact (mem_below.mp hr).2
        · exact Nat.le_of_eq (by rw [hcut.below_perm.length_eq, hself, hlen])
      · rintro ⟨hlow, hperm⟩
        exact ((hperm.trans (hcut.rest_perm hlow)).append_left p).trans hcut.perm

/-- The keys of the pages' last rows. -/
theorem Pages.ends_iff {ps : List (List ρ)} (hn : 0 < n) (h : Pages key n rows ps)
    (hu : Untorn key n rows) {t : κ} :
    Ends key n t rows ↔ ∃ p ∈ ps, ∃ o, p.getLast? = some o ∧ key o = t := by
  induction h with
  | done =>
      constructor
      · rintro ⟨⟨r, hr, -⟩, -⟩
        exact absurd hr List.not_mem_nil
      · rintro ⟨p, hp, -⟩
        exact absurd hp List.not_mem_nil
  | @more rows p o ps hp ho hps ih =>
      obtain ⟨rest, hcut⟩ := hp.cut ho
      obtain ⟨hlow, hbelow⟩ := (hcut.untorn_iff hn).mp hu
      rw [hcut.ends_iff hlow, ih hbelow]
      constructor
      · rintro (heq | ⟨q, hq, x, hx, heq⟩)
        · exact ⟨p, List.mem_cons_self, o, ho, heq⟩
        · exact ⟨q, List.mem_cons_of_mem _ hq, x, hx, heq⟩
      · rintro ⟨q, hq, x, hx, heq⟩
        rcases List.mem_cons.mp hq with rfl | hq
        · rw [ho] at hx
          cases hx
          exact Or.inl heq
        · exact Or.inr ⟨q, hq, x, hx, heq⟩

end KeysetPaging

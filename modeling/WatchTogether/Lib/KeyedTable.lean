/-
  WatchTogether.Lib.KeyedTable

  Finite tables with a primary key: Mathlib's association lists without
  duplicate keys, at a fixed row type.  One table serves both a map held in
  memory and a table of a relational database, so the operations added here are
  the ones these need: `modify` rewrites rows in place (an `UPDATE`), `update` the
  row under one key, `restrict` keeps the rows that satisfy a condition (a `DELETE`),
  `size` counts the rows.
-/

import Mathlib.Data.List.AList

/-- A finite table of rows `ρ` under the key `κ`. -/
abbrev KeyedTable (κ ρ : Type) : Type := AList (fun _ : κ => ρ)

namespace AList

variable {κ ρ : Type}

/-- The number of rows. -/
def size (t : KeyedTable κ ρ) : Nat := t.entries.length

/-- The rows, without their keys. -/
def rows (t : KeyedTable κ ρ) : List ρ := t.entries.map (fun e => e.2)

/-- Rewrite every row in place. -/
def modify (g : κ → ρ → ρ) (t : KeyedTable κ ρ) : KeyedTable κ ρ where
  entries := t.entries.map (fun e => ⟨e.1, g e.1 e.2⟩)
  nodupKeys := by
    have h : (t.entries.map (fun e => (⟨e.1, g e.1 e.2⟩ : Sigma fun _ : κ => ρ))).keys
        = t.entries.keys := by
      simp [List.keys, Function.comp_def]
    rw [List.NodupKeys]
    rw [h]
    exact t.nodupKeys

/-- Keep the rows that satisfy `p`. -/
def restrict (p : κ → ρ → Bool) (t : KeyedTable κ ρ) : KeyedTable κ ρ where
  entries := t.entries.filter (fun e => p e.1 e.2)
  nodupKeys := List.Nodup.sublist (List.Sublist.map _ List.filter_sublist) t.nodupKeys

/-- Rewrite every row as a row of another type. -/
def mapRows {ρ' : Type} (g : ρ → ρ') (t : KeyedTable κ ρ) : KeyedTable κ ρ' where
  entries := t.entries.map (fun e => ⟨e.1, g e.2⟩)
  nodupKeys := by
    have h : (t.entries.map (fun e => (⟨e.1, g e.2⟩ : Sigma fun _ : κ => ρ'))).keys
        = t.entries.keys := by
      simp [List.keys, Function.comp_def]
    rw [List.NodupKeys]
    rw [h]
    exact t.nodupKeys

@[simp] theorem mem_mapRows {ρ' : Type} {g : ρ → ρ'} {t : KeyedTable κ ρ} {k : κ} :
    k ∈ t.mapRows g ↔ k ∈ t := by
  rw [mem_keys, mem_keys]
  simp [keys, mapRows, List.keys, Function.comp_def]

/-! ## Sizes -/

@[simp] theorem size_empty : size (∅ : KeyedTable κ ρ) = 0 := rfl

@[simp] theorem size_modify (g : κ → ρ → ρ) (t : KeyedTable κ ρ) :
    (t.modify g).size = t.size := by
  simp [size, modify]

theorem size_eq_keys (t : KeyedTable κ ρ) : t.size = t.keys.length := by
  simp [size, keys, List.keys]

variable [DecidableEq κ]

theorem size_erase_of_mem {k : κ} {t : KeyedTable κ ρ} (h : k ∈ t) :
    size (t.erase k) + 1 = size t := by
  rw [size_eq_keys, size_eq_keys, keys_erase]
  exact List.length_erase_add_one (mem_keys.mp h)

theorem size_insert_of_mem {k : κ} {r : ρ} {t : KeyedTable κ ρ} (h : k ∈ t) :
    size (t.insert k r) = size t := by
  rw [size_eq_keys, size_eq_keys, keys_insert, List.length_cons]
  exact List.length_erase_add_one (mem_keys.mp h)

theorem size_insert_of_notMem {k : κ} {r : ρ} {t : KeyedTable κ ρ} (h : k ∉ t) :
    size (t.insert k r) = size t + 1 := by
  rw [size_eq_keys, size_eq_keys, keys_insert, List.length_cons,
    List.erase_of_not_mem (fun hk => h (mem_keys.mpr hk))]

/-! ## Lookups -/

theorem mem_iff_lookup {k : κ} {t : KeyedTable κ ρ} : k ∈ t ↔ ∃ r, t.lookup k = some r := by
  rw [← lookup_isSome, Option.isSome_iff_exists]

theorem mem_of_lookup {k : κ} {r : ρ} {t : KeyedTable κ ρ} (h : t.lookup k = some r) : k ∈ t :=
  mem_iff_lookup.mpr ⟨r, h⟩

theorem lookup_ne_of_empty {t : KeyedTable κ ρ} (h : t = ∅) (k : κ) (r : ρ) :
    t.lookup k ≠ some r := by
  rw [h, AList.lookup_empty]
  exact Option.some_ne_none r ∘ Eq.symm

@[simp] theorem lookup_modify (g : κ → ρ → ρ) (t : KeyedTable κ ρ) (k : κ) :
    (t.modify g).lookup k = (t.lookup k).map (g k) := by
  obtain ⟨l, hl⟩ := t
  simp only [lookup, modify]
  clear hl
  induction l with
  | nil => rfl
  | cons e l ih =>
      obtain ⟨k', r⟩ := e
      by_cases hk : k = k'
      · subst hk
        simp
      · simp only [List.map_cons]
        rw [List.dlookup_cons_ne _ _ hk, List.dlookup_cons_ne _ _ hk, ih]

@[simp] theorem mem_modify {g : κ → ρ → ρ} {t : KeyedTable κ ρ} {k : κ} :
    k ∈ t.modify g ↔ k ∈ t := by
  rw [mem_iff_lookup, mem_iff_lookup, lookup_modify]
  simp

/-- Rewrite the row under `k`, if there is one. -/
def update (k : κ) (g : ρ → ρ) (t : KeyedTable κ ρ) : KeyedTable κ ρ :=
  t.modify (fun k' r => if k' = k then g r else r)

theorem lookup_update (k : κ) (g : ρ → ρ) (t : KeyedTable κ ρ) (k' : κ) :
    (t.update k g).lookup k' = if k' = k then (t.lookup k).map g else t.lookup k' := by
  rw [update]
  rw [lookup_modify]
  by_cases h : k' = k
  · subst h
    simp
  · simp [h]

@[simp] theorem lookup_update_self (k : κ) (g : ρ → ρ) (t : KeyedTable κ ρ) :
    (t.update k g).lookup k = (t.lookup k).map g := by
  rw [lookup_update, if_pos rfl]

theorem lookup_update_ne {k k' : κ} (h : k' ≠ k) (g : ρ → ρ) (t : KeyedTable κ ρ) :
    (t.update k g).lookup k' = t.lookup k' := by
  rw [lookup_update, if_neg h]

theorem mem_entries_iff {k : κ} {r : ρ} {t : KeyedTable κ ρ} :
    (⟨k, r⟩ : Sigma fun _ : κ => ρ) ∈ t.entries ↔ t.lookup k = some r :=
  mem_lookup_iff.symm

theorem lookup_restrict (p : κ → ρ → Bool) (t : KeyedTable κ ρ) (k : κ) :
    (t.restrict p).lookup k = (t.lookup k).filter (p k) := by
  ext r
  rw [← mem_entries_iff, restrict, List.mem_filter, mem_entries_iff,
    Option.filter_eq_some_iff]

theorem mem_rows {r : ρ} {t : KeyedTable κ ρ} : r ∈ t.rows ↔ ∃ k, t.lookup k = some r := by
  simp only [rows, List.mem_map]
  constructor
  · rintro ⟨⟨k, r'⟩, h, rfl⟩
    exact ⟨k, mem_entries_iff.mp h⟩
  · rintro ⟨k, h⟩
    exact ⟨⟨k, r⟩, mem_entries_iff.mpr h, rfl⟩

theorem lookup_insert_iff {k k' : κ} {r r' : ρ} {t : KeyedTable κ ρ} :
    (t.insert k r).lookup k' = some r' ↔
      (k' = k ∧ r' = r) ∨ (k' ≠ k ∧ t.lookup k' = some r') := by
  by_cases h : k' = k
  · subst h
    simp [eq_comm]
  · simp [lookup_insert_ne h, h]

theorem lookup_erase_iff {k k' : κ} {r' : ρ} {t : KeyedTable κ ρ} :
    (t.erase k).lookup k' = some r' ↔ k' ≠ k ∧ t.lookup k' = some r' := by
  by_cases h : k' = k
  · subst h
    simp
  · simp [lookup_erase_ne h, h]

end AList

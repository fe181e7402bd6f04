/-
  WatchTogether.Lib.Wildcard

  Patterns of letters and wildcards: one that stands for any text, one that stands for any
  letter.  A letter of a pattern stands for the letters that are the `same`.

  A pattern without wildcards, put between two that stand for any text, is the search for a
  substring.
-/

import Mathlib.Data.List.Forall2
import Mathlib.Data.List.Infix

/-- An element of a pattern: one letter, any letter, or any letters. -/
inductive Wildcard (α : Type*) where
  /-- Any text. -/
  | many
  /-- Any letter. -/
  | one
  | lit (a : α)

namespace Wildcard

variable {α : Type*}

/-- The whole text is one the pattern stands for. -/
def Matches (same : α → α → Bool) : List (Wildcard α) → List α → Bool
  | [], s => s.isEmpty
  | many :: p, s => s.tails.any (Matches same p)
  | one :: p, s =>
      match s with
      | [] => false
      | _ :: s => Matches same p s
  | lit a :: p, s =>
      match s with
      | [] => false
      | b :: s => same a b && Matches same p s

variable {same : α → α → Bool}

@[simp] theorem matches_nil {s : List α} : Matches same [] s = true ↔ s = [] := by
  rw [Matches, List.isEmpty_iff]

theorem matches_many_cons {p : List (Wildcard α)} {s : List α} :
    Matches same (many :: p) s = true ↔ ∃ v, v <:+ s ∧ Matches same p v = true := by
  rw [Matches, List.any_eq_true]
  constructor
  · rintro ⟨v, hv, hp⟩
    exact ⟨v, (List.mem_tails _ _).mp hv, hp⟩
  · rintro ⟨v, hv, hp⟩
    exact ⟨v, (List.mem_tails _ _).mpr hv, hp⟩

theorem matches_one_cons {p : List (Wildcard α)} {s : List α} :
    Matches same (one :: p) s = true ↔ ∃ b v, s = b :: v ∧ Matches same p v = true := by
  cases s with
  | nil => simp [Matches]
  | cons b v => simp [Matches]

theorem matches_lit_cons {a : α} {p : List (Wildcard α)} {s : List α} :
    Matches same (lit a :: p) s = true ↔
      ∃ b v, s = b :: v ∧ same a b = true ∧ Matches same p v = true := by
  cases s with
  | nil => simp [Matches]
  | cons b v => simp [Matches]

/-- **Concatenation.**  A pattern in two parts stands for the texts in two parts. -/
theorem matches_append {p q : List (Wildcard α)} {s : List α} :
    Matches same (p ++ q) s = true ↔
      ∃ u v, s = u ++ v ∧ Matches same p u = true ∧ Matches same q v = true := by
  induction p generalizing s with
  | nil =>
      constructor
      · intro h
        exact ⟨[], s, rfl, matches_nil.mpr rfl, h⟩
      · rintro ⟨u, v, rfl, hu, hv⟩
        obtain rfl := matches_nil.mp hu
        exact hv
  | cons x p ih =>
      rw [List.cons_append]
      cases x with
      | many =>
          rw [matches_many_cons]
          constructor
          · rintro ⟨w, ⟨t, rfl⟩, hw⟩
            obtain ⟨u, v, rfl, hu, hv⟩ := ih.mp hw
            exact ⟨t ++ u, v, (List.append_assoc t u v).symm,
              matches_many_cons.mpr ⟨u, List.suffix_append t u, hu⟩, hv⟩
          · rintro ⟨u, v, rfl, hu, hv⟩
            obtain ⟨w, ⟨t, rfl⟩, hw⟩ := matches_many_cons.mp hu
            refine ⟨w ++ v, ⟨t, (List.append_assoc t w v).symm⟩, ?_⟩
            exact ih.mpr ⟨w, v, rfl, hw, hv⟩
      | one =>
          rw [matches_one_cons]
          constructor
          · rintro ⟨b, w, rfl, hw⟩
            obtain ⟨u, v, rfl, hu, hv⟩ := ih.mp hw
            exact ⟨b :: u, v, rfl, matches_one_cons.mpr ⟨b, u, rfl, hu⟩, hv⟩
          · rintro ⟨u, v, rfl, hu, hv⟩
            obtain ⟨b, w, rfl, hw⟩ := matches_one_cons.mp hu
            exact ⟨b, w ++ v, rfl, ih.mpr ⟨w, v, rfl, hw, hv⟩⟩
      | lit a =>
          rw [matches_lit_cons]
          constructor
          · rintro ⟨b, w, rfl, hab, hw⟩
            obtain ⟨u, v, rfl, hu, hv⟩ := ih.mp hw
            exact ⟨b :: u, v, rfl, matches_lit_cons.mpr ⟨b, u, rfl, hab, hu⟩, hv⟩
          · rintro ⟨u, v, rfl, hu, hv⟩
            obtain ⟨b, w, rfl, hab, hw⟩ := matches_lit_cons.mp hu
            exact ⟨b, w ++ v, rfl, hab, ih.mpr ⟨w, v, rfl, hw, hv⟩⟩

@[simp] theorem matches_many {s : List α} : Matches same [many] s = true :=
  matches_many_cons.mpr ⟨[], List.nil_suffix, matches_nil.mpr rfl⟩

/-- Between two wildcards a pattern stands for the texts with a matching part. -/
theorem matches_between {p : List (Wildcard α)} {s : List α} :
    Matches same (many :: (p ++ [many])) s = true ↔
      ∃ w, w <:+: s ∧ Matches same p w = true := by
  rw [matches_many_cons]
  constructor
  · rintro ⟨v, ⟨t, rfl⟩, hv⟩
    obtain ⟨w, r, rfl, hw, -⟩ := matches_append.mp hv
    exact ⟨w, ⟨t, r, List.append_assoc t w r⟩, hw⟩
  · rintro ⟨w, ⟨t, r, rfl⟩, hw⟩
    refine ⟨w ++ r, ⟨t, (List.append_assoc t w r).symm⟩, ?_⟩
    exact matches_append.mpr ⟨w, r, rfl, hw, matches_many⟩

/-- Letters stand for the same letters. -/
theorem matches_lits {as s : List α} :
    Matches same (as.map lit) s = true ↔ List.Forall₂ (fun a b => same a b = true) as s := by
  induction as generalizing s with
  | nil => rw [List.map_nil, matches_nil, List.forall₂_nil_left_iff]
  | cons a as ih =>
      rw [List.map_cons, matches_lit_cons, List.forall₂_cons_left_iff]
      constructor
      · rintro ⟨b, v, rfl, hab, hv⟩
        exact ⟨b, v, hab, ih.mp hv, rfl⟩
      · rintro ⟨b, v, hab, hv, rfl⟩
        exact ⟨b, v, rfl, hab, ih.mpr hv⟩

end Wildcard

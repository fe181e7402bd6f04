/-
  WatchTogether.Lib.OffsetPaging

  Paging by offset: page `k` of `n` of a list, counted from 1, and the client that requests page
  after page until an empty one.
-/

import Mathlib.Data.List.Basic

namespace OffsetPaging

variable {α : Type*}

/-- Page `k` of `n`. -/
def page (l : List α) (n k : Nat) : List α := (l.drop ((k - 1) * n)).take n

/-- The pages from `k` to the first empty one. -/
def request (pages : Nat → List α) : Nat → Nat → Option (List (List α))
  | 0, _ => none
  | fuel + 1, k =>
      if (pages k).isEmpty then some []
      else (request pages fuel (k + 1)).map (fun ps => pages k :: ps)

variable {l : List α} {n : Nat}

theorem page_isEmpty (hn : 0 < n) (k : Nat) :
    (page l n k).isEmpty = true ↔ l.length ≤ (k - 1) * n := by
  rw [List.isEmpty_iff, page, List.take_eq_nil_iff, List.drop_eq_nil_iff]
  constructor
  · intro h
    exact h.resolve_left (by omega)
  · exact .inr

/-- A page, and what is behind it. -/
theorem page_append {k : Nat} (hk : 0 < k) :
    page l n k ++ l.drop (k * n) = l.drop ((k - 1) * n) := by
  have hnext : k * n = (k - 1) * n + n := by
    obtain ⟨j, rfl⟩ : ∃ j, k = j + 1 := ⟨k - 1, by omega⟩
    rw [Nat.add_sub_cancel, Nat.succ_mul]
  rw [page, hnext, ← List.drop_drop]
  exact List.take_append_drop n _

/-- The requests that come to an end have everything from their first page on. -/
theorem flatten_request (hn : 0 < n) {fuel k : Nat} (hk : 0 < k) {ps : List (List α)}
    (h : request (page l n) fuel k = some ps) : ps.flatten = l.drop ((k - 1) * n) := by
  induction fuel generalizing k ps with
  | zero => cases h
  | succ fuel ih =>
      rw [request] at h
      split_ifs at h with hempty
      · obtain rfl := Option.some.inj h
        rw [List.flatten_nil, eq_comm, List.drop_eq_nil_iff]
        exact (page_isEmpty hn k).mp hempty
      · obtain ⟨rest, hrest, rfl⟩ := Option.map_eq_some_iff.mp h
        rw [List.flatten_cons, ih (Nat.succ_pos k) hrest, Nat.succ_sub_one]
        exact page_append hk

/-- The requests come to an end. -/
theorem request_ends (hn : 0 < n) {fuel k : Nat} (hk : 0 < k)
    (hfuel : l.length ≤ fuel + (k - 1)) : ∃ ps, request (page l n) (fuel + 1) k = some ps := by
  have hmul : k - 1 ≤ (k - 1) * n := Nat.le_mul_of_pos_right _ hn
  induction fuel generalizing k with
  | zero =>
      have hempty : (page l n k).isEmpty = true := (page_isEmpty hn k).mpr (by omega)
      exact ⟨[], by rw [request, if_pos hempty]⟩
  | succ fuel ih =>
      by_cases hempty : (page l n k).isEmpty = true
      · exact ⟨[], by rw [request, if_pos hempty]⟩
      · have hmore : (k - 1) * n < l.length := by
          rw [page_isEmpty hn k] at hempty
          omega
        obtain ⟨ps, hps⟩ := ih (Nat.succ_pos k) (by omega) (Nat.le_mul_of_pos_right _ hn)
        exact ⟨page l n k :: ps, by rw [request, if_neg hempty, hps, Option.map_some]⟩

end OffsetPaging

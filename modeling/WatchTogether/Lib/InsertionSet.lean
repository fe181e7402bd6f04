/-
  WatchTogether.Lib.InsertionSet

  Sets that are iterated in the order of insertion.  An element that is added again keeps its
  place.  A set that drops its oldest element whenever it has grown beyond a limit holds the
  last elements of the log of additions.
-/

import Mathlib.Data.List.DropRight
import Mathlib.Data.List.Nodup

/-- A set in the order of insertion, oldest element first. -/
structure InsertionSet (α : Type*) where
  elems : List α
  nodup : elems.Nodup

namespace InsertionSet

variable {α : Type*} {s : InsertionSet α} {a b : α} {n : Nat} {log : List α}

instance : Membership α (InsertionSet α) := ⟨fun s a => a ∈ s.elems⟩

instance : EmptyCollection (InsertionSet α) := ⟨⟨[], List.nodup_nil⟩⟩

theorem mem_iff : a ∈ s ↔ a ∈ s.elems := Iff.rfl

@[simp] theorem elems_empty : (∅ : InsertionSet α).elems = [] := rfl

instance [DecidableEq α] (a : α) (s : InsertionSet α) : Decidable (a ∈ s) :=
  inferInstanceAs (Decidable (a ∈ s.elems))

/-- The number of elements. -/
def size (s : InsertionSet α) : Nat := s.elems.length

/-- The oldest element. -/
def first (s : InsertionSet α) : Option α := s.elems.head?

/-- The set holds the last `n` entries of the log. -/
def IsWindow (n : Nat) (log : List α) (s : InsertionSet α) : Prop := s.elems = log.rtake n

theorem isWindow_nil (n : Nat) : (∅ : InsertionSet α).IsWindow n [] := by
  rw [IsWindow, List.rtake_nil, elems_empty]

theorem IsWindow.mem_iff (h : s.IsWindow n log) : a ∈ s ↔ a ∈ log.rtake n := by
  rw [InsertionSet.mem_iff, h]

theorem IsWindow.size_le (h : s.IsWindow n log) : s.size ≤ n := by
  rw [size, h, List.rtake, List.length_drop]
  omega

variable [DecidableEq α]

/-- The set with the element, which keeps its place if it was there. -/
def add (a : α) (s : InsertionSet α) : InsertionSet α :=
  if h : a ∈ s.elems then s
  else
    ⟨s.elems ++ [a], List.nodup_append.mpr ⟨s.nodup, List.nodup_singleton a, by
      intro x hx y hy hxy
      obtain rfl := List.mem_singleton.mp hy
      exact h (hxy ▸ hx)⟩⟩

/-- The set without the element. -/
def delete (a : α) (s : InsertionSet α) : InsertionSet α :=
  ⟨s.elems.erase a, s.nodup.erase a⟩

@[simp] theorem mem_add : b ∈ s.add a ↔ b ∈ s ∨ b = a := by
  unfold add
  split_ifs with h
  · refine ⟨Or.inl, ?_⟩
    rintro (hb | rfl)
    · exact hb
    · exact h
  · exact List.mem_append.trans (or_congr Iff.rfl List.mem_singleton)

@[simp] theorem mem_delete : b ∈ s.delete a ↔ b ≠ a ∧ b ∈ s :=
  s.nodup.mem_erase_iff

theorem elems_add (h : a ∉ s) : (s.add a).elems = s.elems ++ [a] :=
  congrArg elems (dif_neg h)

/-- The calls that a loop over the set makes for one element. -/
theorem filter_elems (a : α) (s : InsertionSet α) :
    s.elems.filter (fun x => x = a) = if a ∈ s then [a] else [] := by
  have hcount : s.elems.count a = if a ∈ s then 1 else 0 := by
    split_ifs with h
    · exact List.count_eq_one_of_mem s.nodup h
    · exact List.count_eq_zero_of_not_mem h
  have hfilter : s.elems.filter (fun x => x = a) = List.replicate (s.elems.count a) a := by
    rw [← List.filter_beq]
    rfl
  rw [hfilter, hcount]
  split_ifs <;> rfl

/-- `a` is added, and the oldest element goes when there are more than `n`. -/
def addBounded (n : Nat) (a : α) (s : InsertionSet α) : InsertionSet α :=
  if n < (s.add a).size then
    match (s.add a).first with
    | some b => (s.add a).delete b
    | none => s.add a
  else s.add a

/-- The list behind it: the new element at the end, the oldest one gone when it is too long. -/
theorem elems_addBounded (h : a ∉ s) :
    (s.addBounded n a).elems =
      if n < (s.elems ++ [a]).length then (s.elems ++ [a]).tail else s.elems ++ [a] := by
  have helems : (s.add a).elems = s.elems ++ [a] := elems_add h
  unfold addBounded size first
  rw [helems]
  split_ifs
  · cases hcase : s.elems ++ [a] with
    | nil => exact absurd hcase (by simp)
    | cons b rest =>
        show (s.add a).elems.erase b = rest
        rw [helems, hcase, List.erase_cons_head]
  · exact helems

/-- **The window moves.**  An element that is not in the window becomes its last entry. -/
theorem IsWindow.addBounded (h : s.IsWindow n log) (ha : a ∉ s) :
    (s.addBounded n a).IsWindow n (log ++ [a]) := by
  have hlength : (log.rtake n ++ [a]).length = log.length - (log.length - n) + 1 := by
    rw [List.rtake, List.length_append, List.length_drop, List.length_singleton]
  unfold IsWindow
  rw [elems_addBounded ha, h, hlength]
  by_cases hfull : n ≤ log.length
  · -- the window is full, and its first entry goes
    have hsplit : (log ++ [a]).rtake (n + 1) = log.rtake n ++ [a] := List.rtake_concat_succ ..
    rw [if_pos (by omega), ← hsplit, List.rtake, List.rtake, List.length_append,
      List.length_singleton, List.tail_drop]
    congr 1
    omega
  · have hall : log.rtake n = log := by
      rw [List.rtake, show log.length - n = 0 by omega, List.drop_zero]
    rw [if_neg (by omega), hall, List.rtake, List.length_append, List.length_singleton,
      show log.length + 1 - n = 0 by omega, List.drop_zero]

end InsertionSet

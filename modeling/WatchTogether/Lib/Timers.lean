/-
  WatchTogether.Lib.Timers

  The timer table of an event loop.  `set` arms a callback for an instant under a
  number that was never given out before, `clear` disarms a number whether or not it is
  armed, `rearm` moves an interval to its next instant.  Since numbers are not reused, a
  holder of an old number can at worst clear a timer that has already fired.
-/

import Mathlib.Logic.Function.Basic

/-- The armed timers: the instant each is due at, and its callback. -/
structure Timers (T K : Type*) where
  /-- The next number to give out. -/
  next : Nat
  live : Nat → Option (T × K)
  fresh : ∀ id, next ≤ id → live id = none

namespace Timers

variable {T K : Type*}

/-- Nothing is armed. -/
def empty : Timers T K := ⟨0, fun _ => none, fun _ _ => rfl⟩

/-- Arm `callback` for `due`, under the number `q.next`. -/
def set (q : Timers T K) (due : T) (callback : K) : Timers T K where
  next := q.next + 1
  live := Function.update q.live q.next (some (due, callback))
  fresh := by
    intro id hid
    have hne : id ≠ q.next := by omega
    rw [Function.update_of_ne hne]
    exact q.fresh id (by omega)

/-- The timers without this one. -/
def clear (q : Timers T K) (id : Nat) : Timers T K where
  next := q.next
  live := Function.update q.live id none
  fresh := by
    intro id' hid
    by_cases h : id' = id
    · rw [h, Function.update_self]
    · rw [Function.update_of_ne h]
      exact q.fresh id' hid

/-- Clear the timer a variable holds, if it holds one. -/
def clearHeld (q : Timers T K) : Option Nat → Timers T K
  | none => q
  | some id => q.clear id

/-- The timers without these. -/
def clearAll (q : Timers T K) (ids : List Nat) : Timers T K := ids.foldl clear q

/-- Arm several callbacks, one after another. -/
def setAll (q : Timers T K) (timers : List (T × K)) : Timers T K :=
  timers.foldl (fun q x => q.set x.1 x.2) q

/-- Move the timer `id` to another instant; a timer that is not armed stays so. -/
def rearm (q : Timers T K) (id : Nat) (due : T) : Timers T K where
  next := q.next
  live := Function.update q.live id ((q.live id).map (fun x => (due, x.2)))
  fresh := by
    intro id' hid
    by_cases h : id' = id
    · rw [h, Function.update_self, q.fresh id (h ▸ hid)]
      rfl
    · rw [Function.update_of_ne h]
      exact q.fresh id' hid

variable {q : Timers T K} {id id' : Nat} {due due' : T} {k k' : K}

/-! ## What is armed -/

@[simp] theorem live_empty : (empty : Timers T K).live id = none := rfl

theorem live_set : (q.set due k).live = Function.update q.live q.next (some (due, k)) := rfl

theorem live_clear : (q.clear id).live = Function.update q.live id none := rfl

theorem live_rearm : (q.rearm id due).live =
    Function.update q.live id ((q.live id).map (fun x => (due, x.2))) := rfl

@[simp] theorem next_set : (q.set due k).next = q.next + 1 := rfl

@[simp] theorem next_clear : (q.clear id).next = q.next := rfl

@[simp] theorem next_rearm : (q.rearm id due).next = q.next := rfl

theorem live_set_iff : (q.set due k).live id = some (due', k') ↔
    (id = q.next ∧ due' = due ∧ k' = k) ∨ q.live id = some (due', k') := by
  by_cases h : id = q.next
  · subst h
    have hnone : q.live q.next = none := q.fresh _ (Nat.le_refl _)
    rw [live_set, Function.update_self, hnone]
    simp [eq_comm]
  · rw [live_set, Function.update_of_ne h]
    simp [h]

/-- Setting a timer leaves the armed ones armed. -/
theorem live_set_of_live (h : q.live id = some (due', k')) :
    (q.set due k).live id = some (due', k') :=
  live_set_iff.mpr (Or.inr h)

@[simp] theorem live_set_self : (q.set due k).live q.next = some (due, k) :=
  live_set_iff.mpr (Or.inl ⟨rfl, rfl, rfl⟩)

theorem live_clear_iff : (q.clear id).live id' = some (due, k) ↔
    id' ≠ id ∧ q.live id' = some (due, k) := by
  by_cases h : id' = id
  · subst h
    rw [live_clear, Function.update_self]
    simp
  · rw [live_clear, Function.update_of_ne h]
    simp [h]

@[simp] theorem live_clear_self : (q.clear id).live id = none := Function.update_self ..

theorem live_rearm_iff : (q.rearm id due').live id' = some (due, k) ↔
    (id' = id ∧ due = due' ∧ ∃ d, q.live id = some (d, k)) ∨
      (id' ≠ id ∧ q.live id' = some (due, k)) := by
  by_cases h : id' = id
  · subst h
    rw [live_rearm, Function.update_self]
    rcases q.live id' with _ | ⟨d, k'⟩
    · simp
    · simp [eq_comm]
  · rw [live_rearm, Function.update_of_ne h]
    simp [h]

@[simp] theorem next_clearHeld {held : Option Nat} : (q.clearHeld held).next = q.next := by
  cases held <;> rfl

theorem live_clearHeld_iff {held : Option Nat} : (q.clearHeld held).live id = some (due, k) ↔
    held ≠ some id ∧ q.live id = some (due, k) := by
  cases held with
  | none => simp [clearHeld]
  | some t =>
      rw [clearHeld, live_clear_iff]
      simp [eq_comm]

@[simp] theorem next_clearAll {ids : List Nat} : (q.clearAll ids).next = q.next := by
  induction ids generalizing q with
  | nil => rfl
  | cons t ids ih => exact ih (q := q.clear t)

theorem live_clearAll_iff {ids : List Nat} : (q.clearAll ids).live id = some (due, k) ↔
    id ∉ ids ∧ q.live id = some (due, k) := by
  induction ids generalizing q with
  | nil => simp [clearAll]
  | cons t ids ih =>
      have hcons : q.clearAll (t :: ids) = (q.clear t).clearAll ids := rfl
      rw [hcons, ih, live_clear_iff, List.mem_cons, not_or]
      exact ⟨fun ⟨h, h', h''⟩ => ⟨⟨h', h⟩, h''⟩, fun ⟨⟨h', h⟩, h''⟩ => ⟨h, h', h''⟩⟩

/-- Arming several callbacks gives out new numbers only, and disarms nothing. -/
theorem next_le_setAll (timers : List (T × K)) : q.next ≤ (q.setAll timers).next := by
  induction timers generalizing q with
  | nil => exact Nat.le_refl _
  | cons x timers ih =>
      have hstep := ih (q := q.set x.1 x.2)
      have hcons : q.setAll (x :: timers) = (q.set x.1 x.2).setAll timers := rfl
      rw [next_set] at hstep
      rw [hcons]
      omega

theorem live_setAll_of_live {timers : List (T × K)} (h : q.live id = some (due, k)) :
    (q.setAll timers).live id = some (due, k) := by
  induction timers generalizing q with
  | nil => exact h
  | cons x timers ih =>
      exact ih (live_set_of_live h)

theorem live_of_setAll {timers : List (T × K)} (h : (q.setAll timers).live id = some (due, k)) :
    q.live id = some (due, k) ∨ (q.next ≤ id ∧ (due, k) ∈ timers) := by
  induction timers generalizing q with
  | nil => exact Or.inl h
  | cons x timers ih =>
      rcases ih (q := q.set x.1 x.2) h with hlive | ⟨hle, hmem⟩
      · rcases live_set_iff.mp hlive with ⟨hid, hdue, hk⟩ | hlive
        · refine Or.inr ⟨by omega, ?_⟩
          rw [hdue, hk]
          exact List.mem_cons_self
        · exact Or.inl hlive
      · rw [next_set] at hle
        exact Or.inr ⟨by omega, List.mem_cons_of_mem _ hmem⟩

/-! ## Timers held in variables -/

/-- `held` names a timer of the kind `P`, or one that is no longer armed. -/
def Owns (q : Timers T K) (held : Option Nat) (P : K → Prop) : Prop :=
  ∀ t, held = some t → t < q.next ∧ ∀ due k, q.live t = some (due, k) → P k

theorem owns_none (P : K → Prop) : q.Owns none P := fun _ h => absurd h (by simp)

/-- The timer just set, held in a variable. -/
theorem owns_set {P : K → Prop} (h : P k) : (q.set due k).Owns (some q.next) P := by
  rintro t ⟨rfl⟩
  refine ⟨by rw [next_set]; omega, fun due' k' hlive => ?_⟩
  rw [live_set_self] at hlive
  cases hlive
  exact h

/-- A table whose timers are among those of `q`, or new, leaves what a variable owns. -/
theorem Owns.mono {q' : Timers T K} {held : Option Nat} {P : K → Prop} (h : q.Owns held P)
    (hnext : q.next ≤ q'.next)
    (hlive : ∀ t, t < q.next → ∀ due k, q'.live t = some (due, k) →
      ∃ d, q.live t = some (d, k)) : q'.Owns held P := by
  intro t ht
  obtain ⟨hlt, hkind⟩ := h t ht
  refine ⟨by omega, fun due k hq => ?_⟩
  obtain ⟨d, hd⟩ := hlive t hlt due k hq
  exact hkind d k hd

/-- Setting one more timer takes no variable's timer away. -/
theorem Owns.set {held : Option Nat} {P : K → Prop} (h : q.Owns held P) :
    (q.set due k).Owns held P := by
  refine h.mono (Nat.le_succ _) ?_
  intro t ht due' k' hlive
  rcases live_set_iff.mp hlive with ⟨hid, -, -⟩ | hold
  · omega
  · exact ⟨due', hold⟩

/-- Clearing what a variable holds disarms timers of its own kind only. -/
theorem live_clearHeld_of_owns {held : Option Nat} {P : K → Prop} (h : q.Owns held P)
    (hk : ¬P k) : (q.clearHeld held).live id = some (due, k) ↔ q.live id = some (due, k) := by
  rw [live_clearHeld_iff]
  constructor
  · exact fun h' => h'.2
  · intro hlive
    refine ⟨?_, hlive⟩
    intro hheld
    exact hk ((h id hheld).2 due k hlive)

end Timers

/-
  WatchTogether.Lib.Mutex

  Threads around one lock.  Thread `i` is at the stage `stage i`, some of the stages are
  critical, and `lock` names the thread that has the lock, if one has it.
-/

import Mathlib.Logic.Function.Basic

namespace Mutex

variable {ι S : Type*} {critical : S → Prop} {stage : ι → S} {lock : Option ι} {i j : ι} {x : S}

/-- Whoever is at a critical stage has the lock. -/
def Exclusive (critical : S → Prop) (stage : ι → S) (lock : Option ι) : Prop :=
  ∀ i, critical (stage i) → lock = some i

namespace Exclusive

theorem unique (h : Exclusive critical stage lock) (hi : critical (stage i))
    (hj : critical (stage j)) : j = i :=
  Option.some.inj ((h j hj).symm.trans (h i hi))

/-- While one thread is at a critical stage, no other is. -/
theorem others (h : Exclusive critical stage lock) (hi : critical (stage i)) (hj : j ≠ i) :
    ¬critical (stage j) :=
  fun hc => hj (h.unique hi hc)

/-- Nobody is at a critical stage while the lock is free. -/
theorem free (h : Exclusive critical stage none) (j : ι) : ¬critical (stage j) :=
  fun hc => absurd (h j hc) (by simp)

variable [DecidableEq ι]

/-- A thread goes on to a stage that is critical only if the last one was. -/
theorem move (h : Exclusive critical stage lock) (hx : critical x → critical (stage i)) :
    Exclusive critical (Function.update stage i x) lock := by
  intro j hj
  by_cases hji : j = i
  · subst hji
    rw [Function.update_self] at hj
    exact h j (hx hj)
  · rw [Function.update_of_ne hji] at hj
    exact h j hj

/-- A thread takes the free lock. -/
theorem acquire (h : Exclusive critical stage none) (x : S) :
    Exclusive critical (Function.update stage i x) (some i) := by
  intro j hj
  by_cases hji : j = i
  · rw [hji]
  · rw [Function.update_of_ne hji] at hj
    exact absurd hj (h.free j)

/-- A thread leaves its critical stages and gives the lock back. -/
theorem release (h : Exclusive critical stage lock) (hi : critical (stage i))
    (hx : ¬critical x) : Exclusive critical (Function.update stage i x) none := by
  intro j hj
  by_cases hji : j = i
  · subst hji
    rw [Function.update_self] at hj
    exact absurd hj hx
  · rw [Function.update_of_ne hji] at hj
    exact absurd hj (h.others hi hji)

end Exclusive

end Mutex

/-
  WatchTogether.Lib.History

  The past-time operator "since" over a finite history: some event of the history
  was a `start`, and every event after it `keep`s what it started.  It is the
  declarative form of a cell that one kind of event writes and another kind clears:
  the rule for one more event at the end, `since_snoc`, is the write rule of such a
  cell, and the definition is what its content means.
-/

import Mathlib.Data.List.Basic

namespace History

variable {E : Type*}

/-- An event of `h` satisfies `start` and all later events satisfy `keep`. -/
def Since (keep start : E → Prop) (h : List E) : Prop :=
  ∃ pre e post, h = pre ++ e :: post ∧ start e ∧ ∀ x ∈ post, keep x

variable {keep start : E → Prop}

@[simp] theorem since_nil : ¬ Since keep start [] := by
  rintro ⟨pre, e, post, h, -, -⟩
  simp at h

/-- One more event either starts, or keeps what was started before it. -/
theorem since_snoc {h : List E} {e : E} :
    Since keep start (h ++ [e]) ↔ start e ∨ (Since keep start h ∧ keep e) := by
  constructor
  · rintro ⟨pre, x, post, heq, hstart, hkeep⟩
    rcases List.eq_nil_or_concat post with rfl | ⟨post, y, rfl⟩
    · have hlast := (List.append_inj' heq rfl).2
      rw [List.singleton_inj.mp hlast]
      exact Or.inl hstart
    · rw [List.concat_eq_append, ← List.cons_append, ← List.append_assoc] at heq
      obtain ⟨hpre, hlast⟩ := List.append_inj' heq rfl
      rw [List.singleton_inj.mp hlast]
      refine Or.inr ⟨⟨pre, x, post, hpre, hstart, ?_⟩, ?_⟩
      · intro z hz
        exact hkeep z (by simp [hz])
      · exact hkeep y (by simp)
  · rintro (hstart | ⟨⟨pre, x, post, rfl, hstart, hkeep⟩, he⟩)
    · exact ⟨h, e, [], rfl, hstart, by simp⟩
    · refine ⟨pre, x, post ++ [e], by simp, hstart, ?_⟩
      intro z hz
      rcases List.mem_append.mp hz with hz | hz
      · exact hkeep z hz
      · rw [List.mem_singleton.mp hz]
        exact he

end History

/-
  WatchTogether.Lib.Pool

  Programs beside each other.  A pool is a shared world and the threads that call it, one
  call a step, in any order; threads start at any time, and the world is disturbed from
  outside.

  `Discipline` is what a thread may rely on and has to respect: the facts it has learned
  from its answers, which no step of another thread takes away, and which of them it
  needs to make a call.
-/

import WatchTogether.Lib.Program

namespace Program

variable {C : Type*} {A : C → Type*} {α : Type*}

/-- The program without its result. -/
def void : Program C A α → Program C A Unit
  | done _ => done ()
  | call c k => call c (fun r => (k r).void)

end Program

/-- What threads of the kinds `T` know and need. -/
structure Discipline (T C : Type*) (A : C → Type*) (W : Type*) where
  /-- What a thread can have learned. -/
  Facts : Type
  /-- Facts that hold of the world. -/
  holds : Facts → W → Prop
  /-- The answers the world can give. -/
  possible : (c : C) → A c → Prop
  /-- The facts that a thread needs to make the call. -/
  pre : T → Facts → C → Prop
  /-- The facts after the answer. -/
  gain : Facts → (c : C) → A c → Facts

/-- The program makes only calls for which it has the facts. -/
def Discipline.Respects {T C : Type*} {A : C → Type*} {W α : Type*} (D : Discipline T C A W)
    (t : T) : Program C A α → D.Facts → Prop
  | .done _, _ => True
  | .call c k, f => D.pre t f c ∧ ∀ r, D.possible c r → D.Respects t (k r) (D.gain f c r)

theorem Discipline.respects_void {T C : Type*} {A : C → Type*} {W α : Type*}
    (D : Discipline T C A W) (t : T) (p : Program C A α) (f : D.Facts) (h : D.Respects t p f) :
    D.Respects t p.void f := by
  induction p generalizing f with
  | done a => trivial
  | call c k ih => exact ⟨h.1, fun r hr => ih r (D.gain f c r) (h.2 r hr)⟩

/-- A world, and the threads that call it with their kinds. -/
structure Pool (T C : Type*) (A : C → Type*) (W : Type*) where
  world : W
  threads : List (T × Program C A Unit)

namespace Pool

variable {T C : Type*} {A : C → Type*} {W O E : Type*}

/-- A step of a pool. -/
inductive Move (T O E : Type*) where
  | start (t : T)
  /-- Thread `i` makes its next call, with the outcome `o`. -/
  | advance (i : Nat) (o : O)
  | disturb (e : E)

/-- The next call of thread `i`. -/
def pending (s : Pool T C A W) (i : Nat) : Option (T × C) :=
  match s.threads[i]? with
  | some (t, .call c _) => some (t, c)
  | _ => none

variable (code : T → Program C A Unit) (exec : O → (c : C) → W → A c × W) (env : E → W → W)

/-- One step of the pool. -/
def step (s : Pool T C A W) : Move T O E → Pool T C A W
  | .start t => ⟨s.world, s.threads ++ [(t, code t)]⟩
  | .advance i o =>
      match s.threads[i]? with
      | some (t, .call c k) =>
          ⟨(exec o c s.world).2, s.threads.set i (t, k (exec o c s.world).1)⟩
      | _ => s
  | .disturb e => ⟨env e s.world, s.threads⟩

variable {code exec env}

/-- A thread that has returned makes no step. -/
theorem step_advance_none {s : Pool T C A W} {i : Nat} (h : s.pending i = none) (o : O) :
    s.step code exec env (.advance i o) = s := by
  rw [pending] at h
  rw [step]
  split
  · rename_i t c k hthread
    rw [hthread] at h
    exact absurd h (by simp)
  · rfl

theorem step_advance_world {s : Pool T C A W} {i : Nat} {t : T} {c : C}
    (h : s.pending i = some (t, c)) (o : O) :
    (s.step code exec env (.advance i o)).world = (exec o c s.world).2 := by
  rw [pending] at h
  rw [step]
  split
  · rename_i t' c' k hthread
    rw [hthread] at h
    obtain ⟨-, rfl⟩ := Prod.mk.inj (Option.some.inj h)
    rfl
  · rename_i hnone
    split at h
    · rename_i t' c' k hthread
      exact absurd hthread (hnone t' c' k)
    · exact absurd h (by simp)

variable (D : Discipline T C A W)

/-- Every thread keeps to the discipline, with facts that hold. -/
def Known (s : Pool T C A W) : Prop :=
  ∀ x ∈ s.threads, ∃ f, D.holds f s.world ∧ D.Respects x.1 x.2 f

variable {D}

/-- A thread has the facts its next call needs. -/
theorem Known.pre {s : Pool T C A W} (h : s.Known D) {i : Nat} {t : T} {c : C}
    (hpending : s.pending i = some (t, c)) : ∃ f, D.holds f s.world ∧ D.pre t f c := by
  rw [pending] at hpending
  split at hpending
  · rename_i t' c' k hthread
    obtain ⟨rfl, rfl⟩ := Prod.mk.inj (Option.some.inj hpending)
    obtain ⟨f, hf, hrespects⟩ := h _ (List.mem_of_getElem? hthread)
    exact ⟨f, hf, hrespects.1⟩
  · exact absurd hpending (by simp)

theorem Known.start {s : Pool T C A W} (h : s.Known D) {t : T} {f : D.Facts}
    (hf : D.holds f s.world) (ht : D.Respects t (code t) f) :
    (s.step code exec env (.start t)).Known D := by
  intro x hx
  rw [step, List.mem_append, List.mem_singleton] at hx
  rcases hx with hx | rfl
  · exact h x hx
  · exact ⟨f, hf, ht⟩

theorem Known.disturb {s : Pool T C A W} (h : s.Known D) {e : E}
    (hstable : ∀ f, D.holds f s.world → D.holds f (env e s.world)) :
    (s.step code exec env (.disturb e)).Known D := by
  intro x hx
  obtain ⟨f, hf, hrespects⟩ := h x hx
  exact ⟨f, hstable f hf, hrespects⟩

/-- **Non-interference.**  If answers are possible and facts survive the call, every
    thread still has its facts after one of them has made its call, and that one those it
    has gained. -/
theorem Known.advance {s : Pool T C A W} (h : s.Known D) (i : Nat) (o : O)
    (hpossible : ∀ c, D.possible c (exec o c s.world).1)
    (hstable : ∀ f c, D.holds f s.world → D.holds f (exec o c s.world).2)
    (hgain : ∀ f c, D.holds f s.world →
      D.holds (D.gain f c (exec o c s.world).1) (exec o c s.world).2) :
    (s.step code exec env (.advance i o)).Known D := by
  rw [step]
  split
  · rename_i t c k hthread
    intro x hx
    obtain ⟨f, hf, hrespects⟩ := h _ (List.mem_of_getElem? hthread)
    rcases List.mem_or_eq_of_mem_set hx with hold | rfl
    · obtain ⟨g, hg, hx'⟩ := h x hold
      exact ⟨g, hstable g c hg, hx'⟩
    · exact ⟨D.gain f c _, hgain f c hf, hrespects.2 _ (hpossible c)⟩
  · exact h

end Pool

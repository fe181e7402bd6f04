/-
  WatchTogether.Lib.Interrupted

  A program that is interrupted and started again.  One process at a time runs it, on a world
  that outlives the process: between two calls the process may be lost, and the world goes back
  to what it keeps.

  `Throughout P Q p w` is the rule of such code: however its calls are answered, `P` holds before
  each of them and `Q` at the end.  Where `P` is enough to recover from, every run of the process
  keeps to it.
-/

import WatchTogether.Lib.LabelledRun
import WatchTogether.Lib.Program

namespace Program

variable {C : Type*} {A : C → Type*} {α β W O : Type*}
variable (exec : O → (c : C) → W → A c × W)

/-- However the calls are answered, `P` holds before each of them, and `Q` of the result. -/
def Throughout (P : C → W → Prop) (Q : α → W → Prop) : Program C A α → W → Prop
  | done a, w => Q a w
  | call c k, w => P c w ∧ ∀ o, (k (exec o c w).1).Throughout P Q (exec o c w).2

variable {exec} {P : C → W → Prop} {Q : α → W → Prop} {R : β → W → Prop}

/-- The rule of sequence. -/
theorem Throughout.bind {p : Program C A α} {f : α → Program C A β} {w : W}
    (hp : p.Throughout exec P Q w)
    (hf : ∀ a w', Q a w' → (f a).Throughout exec P R w') :
    (p.bind f).Throughout exec P R w := by
  induction p generalizing w with
  | done a => exact hf a w hp
  | call c k ih =>
      refine ⟨hp.1, ?_⟩
      intro o
      exact ih (exec o c w).1 (hp.2 o)

end Program

/-- A world, and the process that runs on it. -/
structure Process (C : Type*) (A : C → Type*) (W α : Type*) where
  world : W
  program : Option (Program C A α)

namespace Process

variable {C : Type*} {A : C → Type*} {W α O E : Type*}

/-- What may happen to a process. -/
inductive Event (O : Type*) where
  /-- The program is started, unless it runs. -/
  | start
  /-- The program makes its next call, with the outcome `o`. -/
  | advance (o : O)
  | crash

section Steps

variable (code : Program C A α) (exec : O → (c : C) → W → A c × W) (recover : W → W)

/-- One step. -/
def step (s : Process C A W α) : Event O → Process C A W α
  | .start =>
      match s.program with
      | some (.call _ _) => s
      | _ => ⟨s.world, some code⟩
  | .advance o =>
      match s.program with
      | some (.call c k) => ⟨(exec o c s.world).2, some (k (exec o c s.world).1)⟩
      | _ => s
  | .crash => ⟨recover s.world, none⟩

/-- What an observer of the calls sees of a step. -/
def observe (see : O → C → W → List E) (s : Process C A W α) : Event O → List E
  | .advance o =>
      match s.program with
      | some (.call c _) => see o c s.world
      | _ => []
  | .start | .crash => []

end Steps

variable {code : Program C A α} {exec : O → (c : C) → W → A c × W} {recover : W → W}

/-- The process keeps to the rule; without a process the world is one to start from. -/
def Sound (exec : O → (c : C) → W → A c × W) (I : W → Prop) (P : C → W → Prop)
    (Q : α → W → Prop) (s : Process C A W α) : Prop :=
  match s.program with
  | none => I s.world
  | some p => p.Throughout exec P Q s.world

variable {I : W → Prop} {P : C → W → Prop} {Q : α → W → Prop}

/-- The conditions of a program that may be interrupted. -/
structure Interruptible (code : Program C A α) (exec : O → (c : C) → W → A c × W)
    (recover : W → W) (I : W → Prop) (P : C → W → Prop) (Q : α → W → Prop) : Prop where
  code : ∀ w, I w → code.Throughout exec P Q w
  returned : ∀ a w, Q a w → I w
  idle : ∀ w, I w → I (recover w)
  called : ∀ c w, P c w → I (recover w)

/-- The step lemma. -/
theorem sound_step (h : Interruptible code exec recover I P Q) {s : Process C A W α}
    (hs : s.Sound exec I P Q) (l : Event O) : (s.step code exec recover l).Sound exec I P Q := by
  obtain ⟨w, program⟩ := s
  cases l with
  | start =>
      cases program with
      | none => exact h.code w hs
      | some p =>
          cases p with
          | done a => exact h.code w (h.returned a w hs)
          | call c k => exact hs
  | advance o =>
      cases program with
      | none => exact hs
      | some p =>
          cases p with
          | done a => exact hs
          | call c k => exact hs.2 o
  | crash =>
      cases program with
      | none => exact h.idle w hs
      | some p =>
          cases p with
          | done a => exact h.idle w (h.returned a w hs)
          | call c k => exact h.called c w hs.1

/-- The run lemma. -/
theorem sound_run (h : Interruptible code exec recover I P Q) {s : Process C A W α}
    (hs : s.Sound exec I P Q) (ls : List (Event O)) :
    (LabelledRun.run (step code exec recover) s ls).Sound exec I P Q := by
  have hall : LabelledRun.EachStep (step code exec recover) (fun _ _ => True) s ls :=
    fun _ _ _ _ => trivial
  have hstep : ∀ (s : Process C A W α) (l : Event O), s.Sound exec I P Q → True →
      (s.step code exec recover l).Sound exec I P Q := fun s l hs _ => sound_step h hs l
  exact LabelledRun.run_invariant hstep hs hall

/-- What is seen of a step is seen of a call before which the rule holds. -/
theorem mem_observe {see : O → C → W → List E} {s : Process C A W α} (hs : s.Sound exec I P Q)
    {l : Event O} {e : E} (he : e ∈ observe see s l) :
    ∃ o c, P c s.world ∧ e ∈ see o c s.world := by
  obtain ⟨w, program⟩ := s
  cases l with
  | start => exact absurd he List.not_mem_nil
  | crash => exact absurd he List.not_mem_nil
  | advance o =>
      cases program with
      | none => exact absurd he List.not_mem_nil
      | some p =>
          cases p with
          | done a => exact absurd he List.not_mem_nil
          | call c k => exact ⟨o, c, hs.1, he⟩

/-- **Histories of interrupted programs.**  What every call keeps, where the rule holds before
    it, and every recovery, is kept by every run. -/
theorem history_run (h : Interruptible code exec recover I P Q) {see : O → C → W → List E}
    {J : List E → W → Prop}
    (hcall : ∀ es o c w, P c w → J es w → J (es ++ see o c w) (exec o c w).2)
    (hrecover : ∀ es w, J es w → J es (recover w)) {s : Process C A W α}
    (hs : s.Sound exec I P Q) (hinit : J [] s.world) (ls : List (Event O)) :
    J (LabelledRun.history (step code exec recover) (observe see) s ls)
      (LabelledRun.run (step code exec recover) s ls).world := by
  have hstep : ∀ es (s : Process C A W α) (l : Event O),
      s.Sound exec I P Q ∧ J es s.world →
      (s.step code exec recover l).Sound exec I P Q ∧
        J (es ++ observe see s l) (s.step code exec recover l).world := by
    rintro es s l ⟨hsound, hJ⟩
    refine ⟨sound_step h hsound l, ?_⟩
    obtain ⟨w, program⟩ := s
    cases l with
    | start =>
        rw [observe, List.append_nil]
        cases program with
        | none => exact hJ
        | some p => cases p <;> exact hJ
    | advance o =>
        cases program with
        | none =>
            rw [observe, List.append_nil]
            exact hJ
        | some p =>
            cases p with
            | done a =>
                rw [observe, List.append_nil]
                exact hJ
            | call c k => exact hcall es o c w hsound.1 hJ
    | crash =>
        rw [observe, List.append_nil]
        exact hrecover es w hJ
  have hall := LabelledRun.run_history_invariant
    (I := fun es (s : Process C A W α) => s.Sound exec I P Q ∧ J es s.world) hstep ⟨hs, hinit⟩ ls
  exact hall.2

end Process

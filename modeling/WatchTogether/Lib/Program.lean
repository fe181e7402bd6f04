/-
  WatchTogether.Lib.Program

  Sequential code whose only effects are calls: a tree of calls `c : C` with answers in
  `A c`.  Everything between two calls is a function, so a call is the step of such code,
  alone or beside others.
-/

import Mathlib.Data.List.Basic

/-- Code that makes calls and returns an `α`. -/
inductive Program (C : Type*) (A : C → Type*) (α : Type*) where
  | done (a : α)
  | call (c : C) (k : A c → Program C A α)

namespace Program

variable {C : Type*} {A : C → Type*} {α β W : Type*}

/-- One program after another. -/
def bind : Program C A α → (α → Program C A β) → Program C A β
  | done a, f => f a
  | call c k, f => call c (fun r => (k r).bind f)

@[simp] theorem bind_done (a : α) (f : α → Program C A β) : (done a).bind f = f a := rfl

@[simp] theorem bind_call (c : C) (k : A c → Program C A α) (f : α → Program C A β) :
    (call c k).bind f = call c (fun r => (k r).bind f) := rfl

/-- The program returns `a` for some answers to its calls. -/
def MayReturn : Program C A α → α → Prop
  | done b, a => b = a
  | call _ k, a => ∃ r, (k r).MayReturn a

/-- What the program returns when every call `c` is answered by `f c`. -/
def answered (f : (c : C) → A c) : Program C A α → α
  | done a => a
  | call c k => (k (f c)).answered f

/-- The program runs alone. -/
def run (exec : (c : C) → W → A c × W) : Program C A α → W → α × W
  | done a, w => (a, w)
  | call c k, w => (k (exec c w).1).run exec (exec c w).2

@[simp] theorem answered_done (f : (c : C) → A c) (a : α) :
    (done a : Program C A α).answered f = a := rfl

@[simp] theorem answered_call (f : (c : C) → A c) (c : C) (k : A c → Program C A α) :
    (call c k).answered f = (k (f c)).answered f := rfl

@[simp] theorem run_done (exec : (c : C) → W → A c × W) (a : α) (w : W) :
    (done a : Program C A α).run exec w = (a, w) := rfl

@[simp] theorem run_call (exec : (c : C) → W → A c × W) (c : C) (k : A c → Program C A α)
    (w : W) : (call c k).run exec w = (k (exec c w).1).run exec (exec c w).2 := rfl

/-- A program runs to its end, and then the rest. -/
theorem run_bind (exec : (c : C) → W → A c × W) (p : Program C A α) (f : α → Program C A β)
    (w : W) : (p.bind f).run exec w = (f (p.run exec w).1).run exec (p.run exec w).2 := by
  induction p generalizing w with
  | done a => rfl
  | call c k ih => exact ih (exec c w).1 (exec c w).2

end Program

/-
  WatchTogether.Lib.CallLog

  Contracts of programs over what they have called so far.  `Meets P Q p es`: after the
  exchanges `es`, every call the program `p` makes satisfies `P`, and what it returns
  satisfies `Q`; both may look back at the exchanges.

  A pool keeps a log of the exchanges of all its threads.  A contract that the code of
  every thread meets holds, at every moment of every run, of a thread's own part of the
  log.
-/

import Mathlib.Algebra.BigOperators.Group.Finset.Piecewise
import Mathlib.Algebra.Order.BigOperators.Group.Finset
import Mathlib.Algebra.Order.BigOperators.Group.List
import WatchTogether.Lib.LabelledRun
import WatchTogether.Lib.Pool

/-- A call with its answer. -/
abbrev Exchange (C : Type*) (A : C → Type*) := Σ c : C, A c

namespace Program

variable {C : Type*} {A : C → Type*} {α : Type*}

/-- `p` becomes `q` by the exchanges. -/
inductive Follows : Program C A α → List (Exchange C A) → Program C A α → Prop
  | nil (p : Program C A α) : Follows p [] p
  | cons (c : C) (k : A c → Program C A α) (r : A c) {es : List (Exchange C A)}
      {q : Program C A α} (h : Follows (k r) es q) : Follows (call c k) (⟨c, r⟩ :: es) q

theorem Follows.nil_eq {p q : Program C A α} (h : p.Follows [] q) : q = p := by
  cases h
  rfl

/-- One exchange leads to what the program does with the answer. -/
theorem Follows.call_eq {c : C} {k : A c → Program C A α} {r : A c} {q : Program C A α}
    (h : (Program.call c k).Follows [⟨c, r⟩] q) : q = k r := by
  cases h with
  | cons _ _ _ h => exact h.nil_eq

/-- After the exchanges, every call of the program satisfies `P` and its result `Q`. -/
inductive Meets (P : List (Exchange C A) → C → Prop) (Q : List (Exchange C A) → α → Prop) :
    Program C A α → List (Exchange C A) → Prop
  | done {a : α} {es : List (Exchange C A)} (h : Q es a) : Meets P Q (done a) es
  | call {c : C} {k : A c → Program C A α} {es : List (Exchange C A)} (h : P es c)
      (hk : ∀ r, Meets P Q (k r) (es ++ [⟨c, r⟩])) : Meets P Q (call c k) es

variable {P : List (Exchange C A) → C → Prop} {Q : List (Exchange C A) → α → Prop}

theorem Meets.head {c : C} {k : A c → Program C A α} {es : List (Exchange C A)}
    (h : Meets P Q (Program.call c k) es) : P es c := by
  cases h with
  | call h hk => exact h

theorem Meets.tail {c : C} {k : A c → Program C A α} {es : List (Exchange C A)}
    (h : Meets P Q (Program.call c k) es) (r : A c) : Meets P Q (k r) (es ++ [⟨c, r⟩]) := by
  cases h with
  | call h hk => exact hk r

/-- The contract of a program is met by what becomes of it. -/
theorem Meets.follows {p q : Program C A α} {es es' : List (Exchange C A)}
    (h : Meets P Q p es) (hfollows : p.Follows es' q) : Meets P Q q (es ++ es') := by
  induction hfollows generalizing es with
  | nil p =>
      rw [List.append_nil]
      exact h
  | cons c k r _ ih =>
      have hnext := ih (h.tail r)
      rw [List.append_assoc] at hnext
      exact hnext

/-- Every exchange of a program that meets a contract was made by a call that
    satisfies it. -/
theorem Meets.made {p q : Program C A α} {es pre post : List (Exchange C A)}
    {e : Exchange C A} (h : Meets P Q p es) (hfollows : p.Follows (pre ++ e :: post) q) :
    P (es ++ pre) e.1 := by
  induction pre generalizing p es with
  | nil =>
      cases hfollows with
      | cons c k r hrest =>
          rw [List.append_nil]
          exact h.head
  | cons x pre ih =>
      cases hfollows with
      | cons c k r hrest =>
          have hmade := ih (h.tail r) hrest
          rw [List.append_assoc] at hmade
          exact hmade

/-- What a program guarantees of its result is what the next one starts with. -/
theorem Meets.bind {β : Type*} {R : List (Exchange C A) → β → Prop} {p : Program C A α}
    {f : α → Program C A β} {es : List (Exchange C A)} (h : Meets P Q p es)
    (hf : ∀ es a, Q es a → Meets P R (f a) es) : Meets P R (p.bind f) es := by
  induction h with
  | done h => exact hf _ _ h
  | call h _ ih => exact .call h ih

/-- What a program that meets a contract has returned. -/
theorem Meets.result {a : α} {es : List (Exchange C A)} (h : Meets P Q (Program.done a) es) :
    Q es a := by
  cases h with
  | done h => exact h

/-- A property of the exchanges that every exchange keeps whose call satisfies the contract,
    holds of whatever the program has exchanged. -/
theorem Meets.keeps {J : List (Exchange C A) → Prop}
    (hkeep : ∀ es c r, P es c → J es → J (es ++ [⟨c, r⟩])) {p q : Program C A α}
    {es es' : List (Exchange C A)} (h : Meets P Q p es) (hJ : J es)
    (hfollows : p.Follows es' q) : J (es ++ es') := by
  induction hfollows generalizing es with
  | nil p =>
      rw [List.append_nil]
      exact hJ
  | cons c k r _ ih =>
      have hnext := ih (h.tail r) (hkeep es c r h.head hJ)
      rw [List.append_assoc] at hnext
      exact hnext

theorem Meets.void {p : Program C A α} {es : List (Exchange C A)} (h : Meets P Q p es) :
    Meets P (fun _ _ => True) p.void es := by
  induction h with
  | done _ => exact .done trivial
  | call h _ ih => exact .call h ih

end Program

namespace Pool

variable {T C : Type*} {A : C → Type*} {W O E : Type*}

/-- The exchange that a move makes, with its thread. -/
def see (exec : O → (c : C) → W → A c × W) (s : Pool T C A W) :
    Move T O E → List (Nat × Exchange C A)
  | .advance i o =>
      match s.threads[i]? with
      | some (_, .call c _) => [(i, ⟨c, (exec o c s.world).1⟩)]
      | _ => []
  | _ => []

variable (code : T → Program C A Unit) (exec : O → (c : C) → W → A c × W) (env : E → W → W)

/-- All exchanges of a run. -/
def log (s : Pool T C A W) (ls : List (Move T O E)) : List (Nat × Exchange C A) :=
  LabelledRun.history (step code exec env) (see exec) s ls

/-- The exchanges of thread `i`. -/
def own (i : Nat) (h : List (Nat × Exchange C A)) : List (Exchange C A) :=
  (h.filter (fun x => decide (x.1 = i))).map Prod.snd

variable {code exec env}

@[simp] theorem own_nil (i : Nat) : own i ([] : List (Nat × Exchange C A)) = [] := rfl

theorem own_append (i : Nat) (h h' : List (Nat × Exchange C A)) :
    own i (h ++ h') = own i h ++ own i h' := by
  simp [own]

theorem own_see_ne {i j : Nat} (hne : j ≠ i) (s : Pool T C A W) (o : O) :
    own i (see (E := E) exec s (.advance j o)) = [] := by
  rw [see]
  split
  · simp [own, hne]
  · rfl

theorem own_see_self {i : Nat} {s : Pool T C A W} {t : T} {c : C} {k : A c → Program C A Unit}
    (hthread : s.threads[i]? = some (t, .call c k)) (o : O) :
    own i (see (E := E) exec s (.advance i o)) = [⟨c, (exec o c s.world).1⟩] := by
  simp [see, hthread, own]

theorem thread_of_pending {i : Nat} {s : Pool T C A W} {t : T} {c : C}
    (h : s.pending i = some (t, c)) : ∃ k, s.threads[i]? = some (t, .call c k) := by
  rw [pending] at h
  split at h
  · rename_i t' c' k hthread
    obtain ⟨rfl, rfl⟩ := Prod.mk.inj (Option.some.inj h)
    exact ⟨k, hthread⟩
  · exact absurd h (by simp)

theorem own_see_done {i : Nat} {s : Pool T C A W} (hdone : s.pending i = none) (o : O) :
    see (E := E) exec s (.advance i o) = [] := by
  rw [pending] at hdone
  rw [see]
  split
  · rename_i t c k hthread
    rw [hthread] at hdone
    exact absurd hdone (by simp)
  · rfl

theorem mem_own {i : Nat} {e : Exchange C A} {h : List (Nat × Exchange C A)} :
    e ∈ own i h ↔ (i, e) ∈ h := by
  simp [own]

/-! ## Contracts in a pool -/

section Contract

variable {P : T → List (Exchange C A) → C → Prop} {Q : T → List (Exchange C A) → Unit → Prop}

/-- Every thread meets its contract after its own exchanges, and a thread that is not
    there has made none. -/
def MeetsAll (P : T → List (Exchange C A) → C → Prop)
    (Q : T → List (Exchange C A) → Unit → Prop) (h : List (Nat × Exchange C A))
    (s : Pool T C A W) : Prop :=
  (∀ i t (p : Program C A Unit), s.threads[i]? = some (t, p) →
    Program.Meets (P t) (Q t) p (own i h)) ∧
    ∀ i, s.threads.length ≤ i → own i h = []

theorem MeetsAll.step (hcode : ∀ t, Program.Meets (P t) (Q t) (code t) [])
    {h : List (Nat × Exchange C A)} {s : Pool T C A W} (hs : MeetsAll P Q h s)
    (l : Move T O E) : MeetsAll P Q (h ++ see exec s l) (s.step code exec env l) := by
  obtain ⟨hmeets, hfresh⟩ := hs
  cases l with
  | start t =>
      simp only [see, List.append_nil, Pool.step]
      constructor
      · intro i t' p hthread
        by_cases hi : i < s.threads.length
        · rw [List.getElem?_append_left hi] at hthread
          exact hmeets i t' p hthread
        · have hlast : i = s.threads.length := by
            have hbound := (List.getElem?_eq_some_iff.mp hthread).1
            rw [List.length_append, List.length_singleton] at hbound
            omega
          subst hlast
          rw [List.getElem?_concat_length] at hthread
          obtain ⟨rfl, rfl⟩ := Prod.mk.inj (Option.some.inj hthread)
          rw [hfresh _ (le_refl _)]
          exact hcode t
      · intro i hi
        rw [List.length_append, List.length_singleton] at hi
        exact hfresh i (by omega)
  | disturb e =>
      simp only [see, List.append_nil, Pool.step]
      exact ⟨hmeets, hfresh⟩
  | advance j o =>
      by_cases hpending : s.pending j = none
      · rw [step_advance_none hpending, own_see_done hpending, List.append_nil]
        exact ⟨hmeets, hfresh⟩
      · obtain ⟨⟨t, c⟩, hsome⟩ := Option.ne_none_iff_exists'.mp hpending
        obtain ⟨k, hj⟩ := thread_of_pending hsome
        have hlt : j < s.threads.length := (List.getElem?_eq_some_iff.mp hj).1
        constructor
        · intro i t' p hthread
          rw [own_append]
          by_cases hi : j = i
          · subst hi
            rw [own_see_self hj]
            simp only [Pool.step, hj, List.getElem?_set_self hlt, Option.some.injEq,
              Prod.mk.injEq] at hthread
            obtain ⟨rfl, rfl⟩ := hthread
            exact (hmeets j t _ hj).tail _
          · rw [own_see_ne hi, List.append_nil]
            simp only [Pool.step, hj, List.getElem?_set_ne hi] at hthread
            exact hmeets i t' p hthread
        · intro i hi
          simp only [Pool.step, hj, List.length_set] at hi
          rw [own_append, own_see_ne (by omega), hfresh i hi, List.append_nil]

theorem MeetsAll.init {s : Pool T C A W} (hs : s.threads = []) : MeetsAll P Q [] s := by
  refine ⟨?_, fun i _ => rfl⟩
  intro i t p hthread
  rw [hs] at hthread
  exact absurd hthread (by simp)

/-- **Contracts hold in a pool.**  In every run of a pool that starts without threads, what
    is left of a thread meets its contract after the exchanges it has made. -/
theorem meets_run (hcode : ∀ t, Program.Meets (P t) (Q t) (code t) []) {s : Pool T C A W}
    (hs : s.threads = []) (ls : List (Move T O E)) :
    MeetsAll P Q (log code exec env s ls) (LabelledRun.run (step code exec env) s ls) := by
  have hrun : MeetsAll P Q ([] ++ log code exec env s ls)
      (LabelledRun.run (step code exec env) s ls) :=
    LabelledRun.run_history_invariant (I := MeetsAll P Q)
      (fun h s l hh => MeetsAll.step hcode hh l) (MeetsAll.init hs) ls
  rw [List.nil_append] at hrun
  exact hrun

/-- The next call of a thread satisfies its contract. -/
theorem MeetsAll.pending {h : List (Nat × Exchange C A)} {s : Pool T C A W}
    (hs : MeetsAll P Q h s) {i : Nat} {t : T} {c : C} (hpending : s.pending i = some (t, c)) :
    P t (own i h) c := by
  obtain ⟨k, hthread⟩ := thread_of_pending hpending
  exact (hs.1 i t _ hthread).head

/-- A property of the exchanges of a thread that every exchange keeps whose call satisfies
    the contract. -/
theorem MeetsAll.own_step {h : List (Nat × Exchange C A)} {s : Pool T C A W}
    (hs : MeetsAll P Q h s) {J : List (Exchange C A) → Prop}
    (hkeep : ∀ t es c r, P t es c → J es → J (es ++ [⟨c, r⟩])) (hJ : ∀ i, J (own i h))
    (l : Move T O E) : ∀ i, J (own i (h ++ see exec s l)) := by
  intro i
  rw [own_append]
  cases l with
  | start t =>
      simp only [see, own_nil, List.append_nil]
      exact hJ i
  | disturb e =>
      simp only [see, own_nil, List.append_nil]
      exact hJ i
  | advance j o =>
      by_cases hi : j = i
      · subst hi
        cases hpending : s.pending j with
        | none =>
            rw [own_see_done hpending, own_nil, List.append_nil]
            exact hJ j
        | some x =>
            obtain ⟨k, hthread⟩ := thread_of_pending hpending
            rw [own_see_self hthread]
            exact hkeep x.1 _ x.2 _ (hs.pending hpending) (hJ j)
      · rw [own_see_ne hi, List.append_nil]
        exact hJ i

/-- **Own exchanges.**  Such a property holds of the exchanges of every thread at the end of
    every run. -/
theorem own_run (hcode : ∀ t, Program.Meets (P t) (Q t) (code t) [])
    {J : List (Exchange C A) → Prop} (hkeep : ∀ t es c r, P t es c → J es → J (es ++ [⟨c, r⟩]))
    (hinit : J []) {s : Pool T C A W} (hs : s.threads = []) (ls : List (Move T O E)) (i : Nat) :
    J (own i (log code exec env s ls)) := by
  have hrun : MeetsAll P Q ([] ++ log code exec env s ls)
        (LabelledRun.run (step code exec env) s ls) ∧
      ∀ i, J (own i ([] ++ log code exec env s ls)) :=
    LabelledRun.run_history_invariant
      (I := fun h s => MeetsAll P Q h s ∧ ∀ i, J (own i h))
      (fun h s l hh => ⟨MeetsAll.step hcode hh.1 l, hh.1.own_step hkeep hh.2 l⟩)
      ⟨MeetsAll.init hs, fun _ => hinit⟩ ls
  exact hrun.2 i

/-- **Invariants of the world.**  What every call that satisfies its contract keeps, and
    every disturbance, holds of the world at the end of every run. -/
theorem MeetsAll.world (hcode : ∀ t, Program.Meets (P t) (Q t) (code t) [])
    {h : List (Nat × Exchange C A)} {s : Pool T C A W} (hs : MeetsAll P Q h s) {I : W → Prop}
    (hcall : ∀ t es c o w, P t es c → I w → I (exec o c w).2)
    (hdisturb : ∀ e w, I w → I (env e w)) (hinit : I s.world) (ls : List (Move T O E)) :
    I (LabelledRun.run (Pool.step code exec env) s ls).world := by
  induction ls generalizing h s with
  | nil => exact hinit
  | cons l ls ih =>
      refine ih (MeetsAll.step hcode hs l) ?_
      cases l with
      | start t => exact hinit
      | disturb e => exact hdisturb e s.world hinit
      | advance i o =>
          cases hpending : s.pending i with
          | none =>
              rw [step_advance_none hpending]
              exact hinit
          | some x =>
              obtain ⟨t, c⟩ := x
              rw [step_advance_world hpending]
              exact hcall t _ c o s.world (hs.pending hpending) hinit

end Contract

/-! ## The log -/

theorem log_cons (s : Pool T C A W) (l : Move T O E) (ls : List (Move T O E)) :
    log code exec env s (l :: ls)
      = see exec s l ++ log code exec env (step code exec env s l) ls := rfl

theorem log_append (s : Pool T C A W) (xs ys : List (Move T O E)) :
    log code exec env s (xs ++ ys)
      = log code exec env s xs
        ++ log code exec env (LabelledRun.run (step code exec env) s xs) ys :=
  LabelledRun.history_append _ s xs ys

/-- An exchange of the log was made at a state of the run, by a call that a thread had
    pending there, with the answer of the world there. -/
theorem log_split {s : Pool T C A W} {ls : List (Move T O E)} {h₁ h₂ : List (Nat × Exchange C A)}
    {i : Nat} {e : Exchange C A} (hlog : log code exec env s ls = h₁ ++ (i, e) :: h₂) :
    ∃ pre o post t, ls = pre ++ .advance i o :: post ∧ log code exec env s pre = h₁ ∧
      (LabelledRun.run (step code exec env) s pre).pending i = some (t, e.1) ∧
      e.2 = (exec o e.1 (LabelledRun.run (step code exec env) s pre).world).1 := by
  induction ls generalizing s h₁ with
  | nil => exact absurd (congrArg List.length hlog) (by simp [log, LabelledRun.history])
  | cons l ls ih =>
      rw [log_cons] at hlog
      have hstep : see exec s l = [] ∨ ∃ j o t c, l = .advance j o ∧ s.pending j = some (t, c) ∧
          see exec s l = [(j, ⟨c, (exec o c s.world).1⟩)] := by
        cases l with
        | start t => exact .inl rfl
        | disturb e => exact .inl rfl
        | advance j o =>
            rw [see]
            split
            · rename_i t c k hthread
              exact .inr ⟨j, o, t, c, rfl, by simp [pending, hthread], rfl⟩
            · exact .inl rfl
      rcases hstep with hnone | ⟨j, o, t, c, rfl, hpending, hsee⟩
      · rw [hnone, List.nil_append] at hlog
        obtain ⟨pre, o, post, t, rfl, hpre, hrest⟩ := ih hlog
        refine ⟨l :: pre, o, post, t, rfl, ?_, hrest⟩
        rw [log_cons, hnone, List.nil_append, hpre]
      · rw [hsee, List.singleton_append] at hlog
        cases h₁ with
        | nil =>
            obtain ⟨hhead, -⟩ := List.cons.inj hlog
            obtain ⟨rfl, rfl⟩ := Prod.mk.inj hhead
            exact ⟨[], o, ls, t, rfl, rfl, hpending, rfl⟩
        | cons x h₁ =>
            obtain ⟨rfl, htail⟩ := List.cons.inj hlog
            obtain ⟨pre, o', post, t', rfl, hpre, hrest⟩ := ih htail
            refine ⟨.advance j o :: pre, o', post, t', rfl, ?_, hrest⟩
            rw [log_cons, hsee, List.singleton_append, hpre]

/-- An exchange of the log, with the state it was made at. -/
theorem mem_log {s : Pool T C A W} {ls : List (Move T O E)} {i : Nat} {e : Exchange C A}
    (hmem : (i, e) ∈ log code exec env s ls) :
    ∃ pre o post t, ls = pre ++ .advance i o :: post ∧
      (LabelledRun.run (step code exec env) s pre).pending i = some (t, e.1) ∧
      e.2 = (exec o e.1 (LabelledRun.run (step code exec env) s pre).world).1 := by
  obtain ⟨h₁, h₂, hlog⟩ := List.append_of_mem hmem
  obtain ⟨pre, o, post, t, hls, -, hrest⟩ := log_split hlog
  exact ⟨pre, o, post, t, hls, hrest⟩

/-! ## When a thread was started -/

theorem lt_of_pending {s : Pool T C A W} {i : Nat} {x : T × C} (h : s.pending i = some x) :
    i < s.threads.length := by
  obtain ⟨k, hthread⟩ := thread_of_pending h
  exact (List.getElem?_eq_some_iff.mp hthread).1

/-- Threads stay. -/
theorem length_threads_step (s : Pool T C A W) (l : Move T O E) :
    s.threads.length ≤ (step code exec env s l).threads.length := by
  cases l with
  | start t =>
      rw [step, List.length_append]
      exact Nat.le_add_right _ _
  | disturb e => exact Nat.le_refl _
  | advance i o =>
      rw [step]
      split
      · rw [List.length_set]
      · exact Nat.le_refl _

theorem length_threads_run (s : Pool T C A W) (ls : List (Move T O E)) :
    s.threads.length ≤ (LabelledRun.run (step code exec env) s ls).threads.length := by
  induction ls generalizing s with
  | nil => exact Nat.le_refl _
  | cons l ls ih => exact Nat.le_trans (length_threads_step s l) (ih _)

/-- A thread makes no call before it is started. -/
theorem started_before {s : Pool T C A W} {pre rest pre' rest' : List (Move T O E)}
    (hls : pre ++ rest = pre' ++ rest') {i : Nat} {x : T × C}
    (hstart : (LabelledRun.run (step code exec env) s pre).threads.length ≤ i)
    (hpending : (LabelledRun.run (step code exec env) s pre').pending i = some x) :
    ∃ mid, pre' = pre ++ mid := by
  rcases List.append_eq_append_iff.mp hls with ⟨mid, hmid, -⟩ | ⟨mid, hmid, -⟩
  · exact ⟨mid, hmid⟩
  · have hlen : (LabelledRun.run (step code exec env) s pre').threads.length ≤
        (LabelledRun.run (step code exec env) (LabelledRun.run (step code exec env) s pre')
          mid).threads.length := length_threads_run _ mid
    rw [← LabelledRun.run_append, ← hmid] at hlen
    have hlt := lt_of_pending hpending
    omega

/-! ## Counting -/

/-- The exchanges of the log are those of its threads. -/
theorem countP_own (q : Exchange C A → Bool) {n : Nat} (h : List (Nat × Exchange C A))
    (hn : ∀ x ∈ h, x.1 < n) :
    h.countP (fun x => q x.2) = ∑ i ∈ Finset.range n, (own i h).countP q := by
  induction h with
  | nil => simp [own]
  | cons x h ih =>
      have hx : x.1 < n := hn x (by simp)
      have hsplit : ∀ i, (own i (x :: h)).countP q
          = (own i h).countP q + if i = x.1 then (if q x.2 then 1 else 0) else 0 := by
        intro i
        by_cases hi : x.1 = i
        · subst hi
          simp [own, List.countP_cons]
        · simp [own, hi, Ne.symm hi]
      rw [List.countP_cons, ih (fun y hy => hn y (List.mem_cons_of_mem _ hy)),
        Finset.sum_congr rfl (fun i _ => hsplit i), Finset.sum_add_distrib,
        Finset.sum_ite_eq' (Finset.range n) x.1, if_pos (Finset.mem_range.mpr hx)]

/-- What no thread has made more often than something else, has not been made more often
    by all of them. -/
theorem countP_le_of_own {a b : Exchange C A → Bool} {h : List (Nat × Exchange C A)}
    (hle : ∀ i, (own i h).countP a ≤ (own i h).countP b) :
    h.countP (fun x => a x.2) ≤ h.countP (fun x => b x.2) := by
  obtain ⟨n, hn⟩ : ∃ n, ∀ x ∈ h, x.1 < n := by
    refine ⟨(h.map Prod.fst).sum + 1, fun x hx => ?_⟩
    have hsum := List.single_le_sum (fun _ _ => Nat.zero_le _) x.1 (List.mem_map_of_mem hx)
    omega
  rw [countP_own a h hn, countP_own b h hn]
  exact Finset.sum_le_sum (fun i _ => hle i)

end Pool

/-
  WatchTogether.Lib.LabelledRun

  Runs of a deterministic labelled machine `step : S → L → S`.

  Everything nondeterministic (the order of messages, clock readings, failing
  calls) sits in the label, so a run is a list of labels and the state it
  reaches is a fold.  A property of a *step* is a predicate on the state before
  it and its label; `EachStep` says it of every step of a run, and
  `run_invariant` is the induction every safety result of a run goes through.
-/

import Mathlib.Data.List.Basic

namespace LabelledRun

variable {S L : Type*} (step : S → L → S)

/-- The state reached from `s` by the labels `ls`. -/
def run (s : S) (ls : List L) : S := ls.foldl step s

@[simp] theorem run_nil (s : S) : run step s [] = s := rfl

@[simp] theorem run_cons (s : S) (l : L) (ls : List L) :
    run step s (l :: ls) = run step (step s l) ls := rfl

@[simp] theorem run_append (s : S) (xs ys : List L) :
    run step s (xs ++ ys) = run step (run step s xs) ys :=
  List.foldl_append ..

/-- `Q` holds of every step of the run: of the state before it and its label. -/
def EachStep (Q : S → L → Prop) (s : S) (ls : List L) : Prop :=
  ∀ pre l post, ls = pre ++ l :: post → Q (run step s pre) l

variable {step}

theorem eachStep_nil (Q : S → L → Prop) (s : S) : EachStep step Q s [] := by
  intro pre l post h
  simp at h

theorem eachStep_cons {Q : S → L → Prop} {s : S} {l : L} {ls : List L} :
    EachStep step Q s (l :: ls) ↔ Q s l ∧ EachStep step Q (step s l) ls := by
  constructor
  · intro h
    refine ⟨h [] l ls rfl, ?_⟩
    intro pre m post hls
    exact h (l :: pre) m post (by rw [hls, List.cons_append])
  · rintro ⟨h0, h⟩ pre m post hls
    cases pre with
    | nil =>
        obtain ⟨rfl, rfl⟩ := List.cons.inj hls
        exact h0
    | cons x pre =>
        obtain ⟨rfl, hrest⟩ := List.cons.inj hls
        exact h pre m post hrest

/-- A step property that can be decided can be decided of a run. -/
instance decidableEachStep {Q : S → L → Prop} [∀ s l, Decidable (Q s l)] :
    (s : S) → (ls : List L) → Decidable (EachStep step Q s ls)
  | s, [] => isTrue (eachStep_nil Q s)
  | s, l :: ls =>
      haveI := decidableEachStep (Q := Q) (step s l) ls
      decidable_of_iff (Q s l ∧ EachStep step Q (step s l) ls) eachStep_cons.symm

theorem eachStep_append {Q : S → L → Prop} {s : S} {xs ys : List L} :
    EachStep step Q s (xs ++ ys) ↔
      EachStep step Q s xs ∧ EachStep step Q (run step s xs) ys := by
  induction xs generalizing s with
  | nil => simp [eachStep_nil]
  | cons x xs ih =>
      rw [List.cons_append, eachStep_cons, eachStep_cons, ih, run_cons, and_assoc]

/-- A property of labels alone. -/
theorem eachStep_of_forall {ok : L → Prop} {s : S} {ls : List L} (h : ∀ l ∈ ls, ok l) :
    EachStep step (fun _ l => ok l) s ls := by
  rintro pre l post rfl
  exact h l (by simp)

/-- The steps before a given one also satisfy the step property. -/
theorem EachStep.before {Q : S → L → Prop} {s : S} {pre : List L} {l : L} {post : List L}
    (h : EachStep step Q s (pre ++ l :: post)) : EachStep step Q s pre :=
  (eachStep_append.mp h).1

/-- The given step of a run satisfies the step property. -/
theorem EachStep.at {Q : S → L → Prop} {s : S} {pre : List L} {l : L} {post : List L}
    (h : EachStep step Q s (pre ++ l :: post)) : Q (run step s pre) l :=
  h pre l post rfl

/-- **Run invariant.**  An invariant kept by every step that satisfies `ok` holds
    at the end of every run all of whose steps satisfy `ok`. -/
theorem run_invariant {Inv : S → Prop} {ok : S → L → Prop}
    (hstep : ∀ s l, Inv s → ok s l → Inv (step s l)) {s : S} (hinit : Inv s)
    {ls : List L} (hok : EachStep step ok s ls) : Inv (run step s ls) := by
  induction ls generalizing s with
  | nil => exact hinit
  | cons l ls ih =>
      obtain ⟨h0, hrest⟩ := eachStep_cons.mp hok
      exact ih (hstep s l hinit h0) hrest

/-- An invariant kept by every step that satisfies `ok` holds in every state of a run
    all of whose steps satisfy `ok`. -/
theorem run_invariant_before {Inv : S → Prop} {ok : S → L → Prop}
    (hstep : ∀ s l, Inv s → ok s l → Inv (step s l)) {s : S} (hinit : Inv s)
    {pre post : List L} (hok : EachStep step ok s (pre ++ post)) : Inv (run step s pre) :=
  run_invariant hstep hinit (eachStep_append.mp hok).1

/-- A property of single steps that follows from an invariant holds of every step
    of a run whose steps satisfy `ok`. -/
theorem eachStep_of_invariant {Inv : S → Prop} {ok Q : S → L → Prop}
    (hstep : ∀ s l, Inv s → ok s l → Inv (step s l))
    (hQ : ∀ s l, Inv s → ok s l → Q s l) {s : S} (hinit : Inv s) {ls : List L}
    (hok : EachStep step ok s ls) : EachStep step Q s ls := by
  intro pre l post hls
  subst hls
  exact hQ _ _ (run_invariant hstep hinit hok.before) hok.at

/-- Where a step that satisfies `ok` keeps the invariant `I`, and one that does not breaks
    the weaker `J`, `J` holds in every state of a run exactly if every step satisfies
    `ok`. -/
theorem run_breaks_iff {I J : S → Prop} {ok : S → L → Prop}
    (hstep : ∀ s l, I s → ok s l → I (step s l)) (hbad : ∀ s l, I s → ¬ok s l → ¬J (step s l))
    (hweak : ∀ s, I s → J s) {s : S} (hinit : I s) {ls : List L} :
    (∀ pre post, ls = pre ++ post → J (run step s pre)) ↔ EachStep step ok s ls := by
  constructor
  · induction ls generalizing s with
    | nil => exact fun _ => eachStep_nil _ _
    | cons l ls ih =>
        intro hall
        have hok : ok s l := by
          by_contra hok
          exact hbad s l hinit hok (hall [l] ls rfl)
        refine eachStep_cons.mpr ⟨hok, ih (hstep s l hinit hok) ?_⟩
        intro pre post hls
        exact hall (l :: pre) post (by rw [hls, List.cons_append])
  · intro hok pre post hls
    subst hls
    exact hweak _ (run_invariant_before hstep hinit hok)

/-- Where a step that satisfies `ok` keeps the invariant and has the property `Q`, and one
    that does not has not, every step of a run has the property exactly if every step
    satisfies `ok`; `rely` is what the steps are assumed to be. -/
theorem eachStep_iff {I : S → Prop} {rely ok Q : S → L → Prop}
    (hstep : ∀ s l, I s → rely s l → ok s l → I (step s l) ∧ Q s l)
    (hbad : ∀ s l, I s → rely s l → ¬ok s l → ¬Q s l) {s : S} (hinit : I s) {ls : List L}
    (hrely : EachStep step rely s ls) : EachStep step Q s ls ↔ EachStep step ok s ls := by
  induction ls generalizing s with
  | nil => exact ⟨fun _ => eachStep_nil _ _, fun _ => eachStep_nil _ _⟩
  | cons l ls ih =>
      obtain ⟨hl, hrest⟩ := eachStep_cons.mp hrely
      rw [eachStep_cons, eachStep_cons]
      constructor
      · rintro ⟨hQ, hQs⟩
        have hok : ok s l := by
          by_contra hok
          exact hbad s l hinit hl hok hQ
        exact ⟨hok, (ih (hstep s l hinit hl hok).1 hrest).mp hQs⟩
      · rintro ⟨hok, hoks⟩
        obtain ⟨hnext, hQ⟩ := hstep s l hinit hl hok
        exact ⟨hQ, (ih hnext hrest).mpr hoks⟩

/-- Where a step keeps the invariant exactly if it satisfies `ok`, the invariant holds in
    every state of a run exactly if every step of the run satisfies `ok`. -/
theorem run_invariant_iff {I : S → Prop} {ok : S → L → Prop}
    (hstep : ∀ s l, I s → (I (step s l) ↔ ok s l)) {s : S} (hinit : I s) {ls : List L} :
    (∀ pre post, ls = pre ++ post → I (run step s pre)) ↔ EachStep step ok s ls :=
  run_breaks_iff (fun s l hs hl => (hstep s l hs).mpr hl)
    (fun s l hs hbad h => hbad ((hstep s l hs).mp h)) (fun _ hs => hs) hinit

/-! ## Histories -/

variable {E : Type*}

/-- What the steps of a run let an observer see, in order. -/
def history (step : S → L → S) (see : S → L → List E) : S → List L → List E
  | _, [] => []
  | s, l :: ls => see s l ++ history step see (step s l) ls

theorem history_append (see : S → L → List E) (s : S) (xs ys : List L) :
    history step see s (xs ++ ys) = history step see s xs ++ history step see (run step s xs) ys := by
  induction xs generalizing s with
  | nil => rfl
  | cons x xs ih =>
      rw [List.cons_append, history, history, ih, List.append_assoc]
      rfl

/-- **Invariant over state and history.**  A relation between the history so far and
    the state that every step keeps holds at the end of every run. -/
theorem run_history_invariant {see : S → L → List E} {I : List E → S → Prop}
    (hstep : ∀ h s l, I h s → I (h ++ see s l) (step s l)) {h : List E} {s : S}
    (hinit : I h s) (ls : List L) : I (h ++ history step see s ls) (run step s ls) := by
  induction ls generalizing h s with
  | nil =>
      rw [history, List.append_nil]
      exact hinit
  | cons l ls ih =>
      rw [history, ← List.append_assoc]
      exact ih (hstep h s l hinit)

end LabelledRun

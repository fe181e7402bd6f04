/-
  WatchTogether.Rooms.OneActor

  One actor for a room.  An actor that runs is in the map, or about to be put there by the
  `Get` that holds the lock, or on the list of a `Shutdown` that will stop it.  What breaks
  this is a `Get` that starts an actor after a `Shutdown` has taken the map: nobody will
  stop it, and the actor that was taken may still run.
-/

import WatchTogether.Realtime.Removal
import WatchTogether.Rooms.Registry

namespace WatchTogether.Rooms.Registry

open LabelledRun Repository

variable {s s' : Registry} {i : Nat}

-- ============================================================================
-- What must hold
-- ============================================================================

/-- An actor of the room is running. -/
def Runs (s : Registry) (h : Nat) (id : String) : Prop :=
  ∃ c, s.cells[h]? = some c ∧ c.core.stopped = false ∧ c.core.room.id = id

/-- No two actors of a room run. -/
def OnePerRoom (s : Registry) : Prop :=
  ∀ id h h', s.Runs h id → s.Runs h' id → h = h'

/-- A `Shutdown` has returned, and so have all other calls. -/
def Settled (s : Registry) : Prop :=
  (∃ i, s.calls i = .returned .shutdown .done) ∧ ∀ i, (s.calls i).over = true

/-- No two actors of a room run, and none runs when all is over. -/
structure OneActor (s : Registry) : Prop where
  single : OnePerRoom s
  settled : Settled s → ∀ h id, ¬s.Runs h id

/-- A `Get` starts an actor, and a `Shutdown` has taken the map. -/
def startsLate (s : Registry) : Label → Bool
  | .advance i _ =>
      match s.calls i with
      | .starting .. => s.down
      | _ => false
  | _ => false

-- ============================================================================
-- The invariant
-- ============================================================================

/-- The actor `h` is one of the room. -/
def Serves (s : Registry) (h : Nat) (id : String) : Prop :=
  ∃ c, s.cells[h]? = some c ∧ c.core.room.id = id

/-- What a goroutine knows at its stage. -/
def Fits (s : Registry) : Stage → Prop
  | .reading id | .deleting id => s.actors.lookup id = none
  | .loading id room | .starting id room _ => s.actors.lookup id = none ∧ room.id = id
  | .storing id h => s.actors.lookup id = none ∧ s.Serves h id
  | .stopping id h | .awaiting id h => s.actors.lookup id = some h
  | .dropping id => ∃ h, s.actors.lookup id = some h ∧ s.stopped h = true
  | _ => True

/-- Who will stop the actor. -/
inductive Kept (s : Registry) (h : Nat) (id : String) : Prop
  | mapped (hmap : s.actors.lookup id = some h)
  | storing (i : Nat) (hi : s.calls i = .storing id h)
  | doomed (i : Nat) (hi : h ∈ (s.calls i).doomed)

/-- What holds in every state. -/
structure Inv (s : Registry) : Prop where
  exclusive : Mutex.Exclusive (fun x : Stage => x.critical = true) s.calls s.lock
  fits : ∀ i, Fits s (s.calls i)
  mapped : ∀ id h, s.actors.lookup id = some h → s.Serves h id
  kept : ∀ h id, s.Runs h id → Kept s h id
  single : OnePerRoom s
  past : ∀ i, (s.calls i).past = true → s.down = true
  emptied : s.down = true → s.actors = ∅ ∧ ∀ i id h, s.calls i ≠ .storing id h

theorem inv_boot (d : Database) (used : List String) : Inv (boot d used) := by
  have hruns : ∀ h id, ¬(boot d used).Runs h id := by
    rintro h id ⟨c, hc, -⟩
    cases hc
  refine ⟨fun i hi => Bool.noConfusion hi, fun i => trivial, ?_, ?_, ?_, ?_, ?_⟩
  · intro id h hmap
    cases hmap
  · intro h id hrun
    exact absurd hrun (hruns h id)
  · intro id h h' hrun _
    exact absurd hrun (hruns h id)
  · intro i hi
    exact Bool.noConfusion hi
  · intro hdown
    exact Bool.noConfusion hdown

-- ============================================================================
-- Actors move, goroutines do not
-- ============================================================================

theorem serves_of_leads (hl : Leads s s') {h : Nat} {id : String} (hs : s.Serves h id) :
    s'.Serves h id := by
  obtain ⟨c, hc, hroom⟩ := hs
  obtain ⟨c', hc', hlead⟩ := hl h c hc
  exact ⟨c', hc', hlead.room.trans hroom⟩

theorem stopped_of_leads (hl : Leads s s') {h : Nat} {id : String} (hs : s.Serves h id)
    (hstopped : s.stopped h = true) : s'.stopped h = true := by
  obtain ⟨c, hc, -⟩ := hs
  obtain ⟨c', hc', hlead⟩ := hl h c hc
  unfold stopped at hstopped ⊢
  rw [hc] at hstopped
  rw [hc', Option.all_some, (hlead.halted hstopped).1]
  exact hstopped

/-- An actor that runs and is no new one has been running before. -/
theorem runs_of_leads (hl : Leads s s') {h : Nat} {id : String} (hrun : s'.Runs h id)
    (hlt : h < s.cells.length) : s.Runs h id := by
  obtain ⟨c', hc', hlive, hroom⟩ := hrun
  obtain ⟨c, hc⟩ : ∃ c, s.cells[h]? = some c := ⟨_, List.getElem?_eq_getElem hlt⟩
  obtain ⟨c'', hc'', hlead⟩ := hl h c hc
  obtain rfl := Option.some.inj (hc'.symm.trans hc'')
  refine ⟨c, hc, ?_, hlead.room.symm.trans hroom⟩
  by_contra hstopped
  have hsame := (hlead.halted (by simpa using hstopped)).1
  rw [hsame] at hlive
  exact hstopped hlive

theorem Runs.lt {h : Nat} {id : String} (hrun : s.Runs h id) : h < s.cells.length := by
  obtain ⟨c, hc, -⟩ := hrun
  exact (List.getElem?_eq_some_iff.mp hc).1

theorem Runs.not_stopped {h : Nat} {id : String} (hrun : s.Runs h id) : s.stopped h = false := by
  obtain ⟨c, hc, hlive, -⟩ := hrun
  unfold stopped
  rw [hc, Option.all_some]
  exact hlive

theorem fits_of_leads (hl : Leads s s') (hactors : s'.actors = s.actors)
    (hmapped : ∀ id h, s.actors.lookup id = some h → s.Serves h id) {x : Stage}
    (hx : Fits s x) : Fits s' x := by
  unfold Fits at hx ⊢
  rw [hactors]
  cases x with
  | storing id h => exact ⟨hx.1, serves_of_leads hl hx.2⟩
  | dropping id =>
      obtain ⟨h, hmap, hstopped⟩ := hx
      exact ⟨h, hmap, stopped_of_leads hl (hmapped id h hmap) hstopped⟩
  | _ => exact hx

/-- A message or a turn. -/
theorem Inv.leads (hinv : Inv s) (hl : Leads s s') (hlen : s'.cells.length = s.cells.length)
    (hcalls : s'.calls = s.calls) (hlock : s'.lock = s.lock) (hactors : s'.actors = s.actors)
    (hdown : s'.down = s.down) : Inv s' := by
  have hruns : ∀ h id, s'.Runs h id → s.Runs h id := by
    intro h id hrun
    exact runs_of_leads hl hrun (hlen ▸ hrun.lt)
  refine ⟨by rw [hcalls, hlock]; exact hinv.exclusive, ?_, ?_, ?_, ?_, ?_, ?_⟩
  · intro i
    rw [hcalls]
    exact fits_of_leads hl hactors hinv.mapped (hinv.fits i)
  · intro id h hmap
    rw [hactors] at hmap
    exact serves_of_leads hl (hinv.mapped id h hmap)
  · intro h id hrun
    cases hinv.kept h id (hruns h id hrun) with
    | mapped hmap => exact .mapped (by rw [hactors]; exact hmap)
    | storing i hi => exact .storing i (by rw [hcalls]; exact hi)
    | doomed i hi => exact .doomed i (by rw [hcalls]; exact hi)
  · intro id h h' hrun hrun'
    exact hinv.single id h h' (hruns h id hrun) (hruns h' id hrun')
  · intro i hi
    rw [hcalls] at hi
    exact hdown ▸ hinv.past i hi
  · intro hd
    rw [hactors, hcalls]
    exact hinv.emptied (hdown ▸ hd)

theorem Inv.push (hinv : Inv s) (h : Nat) (m : Msg) : Inv (s.push h m) :=
  hinv.leads (leads_push h m s) (List.length_modify ..) rfl rfl rfl rfl

/-- A turn keeps the room of the actor, and only `closeReq` ends the loop. -/
theorem leads_takeTurn (h : Nat) (env : Env) (fates : List Fate) (s : Registry) :
    Leads s (s.takeTurn h env fates) := by
  unfold takeTurn
  cases hturn : s.deliver h env fates with
  | none => exact .of_cells rfl
  | some t =>
      obtain ⟨m, a, r⟩ := t
      obtain ⟨c, rest, hc, hq, hlive, hprocess⟩ := deliver_eq_some hturn
      refine .modify rfl ?_
      intro c' hc'
      obtain rfl := Option.some.inj (hc.symm.trans hc')
      refine ⟨?_, fun hstopped => absurd (hlive.symm.trans hstopped) (by decide)⟩
      have hroom := Realtime.turn_roomID (turn Backend.persistence env ⟨c.core, ⟨s.db, fates⟩, []⟩ m)
      rw [hprocess] at hroom
      exact hroom

theorem Inv.takeTurn (hinv : Inv s) (h : Nat) (env : Env) (fates : List Fate) :
    Inv (s.takeTurn h env fates) := by
  have hl := leads_takeTurn h env fates s
  unfold Registry.takeTurn at hl ⊢
  cases hturn : s.deliver h env fates with
  | none => exact hinv
  | some t =>
      simp only [hturn] at hl
      exact hinv.leads hl (List.length_modify ..) rfl rfl rfl rfl

theorem Inv.setDB (hinv : Inv s) (db : Database) : Inv (s.setDB db) :=
  hinv.leads (.of_cells rfl) rfl rfl rfl rfl rfl

-- ============================================================================
-- One goroutine moves
-- ============================================================================

theorem fits_of_not_critical {x : Stage} (hx : x.critical = false) : Fits s x := by
  cases x with
  | reading | deleting | loading | starting | storing | stopping | awaiting | dropping =>
      exact Bool.noConfusion hx
  | _ => trivial

theorem past_of_mem_doomed {x : Stage} {h : Nat} (hx : h ∈ x.doomed) : x.past = true := by
  cases x with
  | taken | halting | draining => rfl
  | _ => exact absurd hx List.not_mem_nil

/-- The others are outside, so that what the mover does to the map does not concern them. -/
theorem Inv.fits_others (hinv : Inv s) (hi : (s.calls i).critical = true) {j : Nat} (hj : j ≠ i) :
    Fits s' (s.calls j) :=
  fits_of_not_critical (Bool.not_eq_true _ ▸ hinv.exclusive.others hi hj)

theorem Inv.past_goto (hinv : Inv s) {x : Stage} (hx : x.past = true → s.down = true)
    (ht : s'.calls = s.calls) (j : Nat) : ((s'.goto i x).calls j).past = true → s.down = true :=
  forall_goto (Q := fun y => y.past = true → s.down = true) hx
    (fun j _ => by rw [ht]; exact hinv.past j) j

/-- Who is not about to store an actor moves without storing one. -/
theorem storing_goto {j h : Nat} {id : String} (hi : s.calls i ≠ .storing id h)
    (hj : s.calls j = .storing id h) (x : Stage) : (s.goto i x).calls j = .storing id h := by
  have hji : j ≠ i := by
    rintro rfl
    exact hi hj
  exact (goto_calls_ne hji ..).trans hj

/-- Who has no actor to stop moves without leaving one. -/
theorem doomed_goto {j h : Nat} (hi : (s.calls i).doomed = []) (hj : h ∈ (s.calls j).doomed)
    (x : Stage) : h ∈ ((s.goto i x).calls j).doomed := by
  have hji : j ≠ i := by
    rintro rfl
    rw [hi] at hj
    exact absurd hj List.not_mem_nil
  rw [goto_calls_ne hji]
  exact hj

/-- A goroutine goes to the stage `x`; it may take the lock or give it back. -/
theorem Inv.move (hinv : Inv s) {x : Stage} {lock : Option Nat}
    (hex : Mutex.Exclusive (fun x : Stage => x.critical = true)
      (Function.update s.calls i x) lock)
    (hfits : Fits s x) (hold : ∀ id h, s.calls i ≠ .storing id h) (hnew : ∀ id h, x ≠ .storing id h)
    (hdoomed : ∀ h ∈ (s.calls i).doomed, h ∈ x.doomed ∨ s.stopped h = true)
    (hpast : x.past = true → s.down = true) : Inv ((s.setLock lock).goto i x) := by
  have hself := goto_calls_self i x (s.setLock lock)
  refine ⟨hex, forall_goto hfits (fun j _ => hinv.fits j), hinv.mapped, ?_, hinv.single,
    hinv.past_goto hpast rfl, ?_⟩
  · intro h id hrun
    cases hinv.kept h id hrun with
    | mapped hmap => exact .mapped hmap
    | storing j hj =>
        have hji : j ≠ i := fun heq => hold id h (heq ▸ hj)
        exact .storing j ((goto_calls_ne hji ..).trans hj)
    | doomed j hj =>
        by_cases hji : j = i
        · subst hji
          rcases hdoomed h hj with hx | hstopped
          · exact .doomed j (by rw [hself]; exact hx)
          · exact absurd (hrun.not_stopped.symm.trans hstopped) (by decide)
        · exact .doomed j (by rw [goto_calls_ne hji]; exact hj)
  · intro hdown
    exact ⟨(hinv.emptied hdown).1, forall_goto (Q := fun y => ∀ id h, y ≠ .storing id h) hnew
      (fun j _ => (hinv.emptied hdown).2 j)⟩

/-- A goroutine goes on without touching the lock. -/
theorem Inv.goto (hinv : Inv s) {x : Stage} (hcrit : x.critical = true → (s.calls i).critical = true)
    (hfits : Fits s x) (hold : ∀ id h, s.calls i ≠ .storing id h)
    (hnew : ∀ id h, x ≠ .storing id h)
    (hdoomed : ∀ h ∈ (s.calls i).doomed, h ∈ x.doomed ∨ s.stopped h = true)
    (hpast : x.past = true → s.down = true) : Inv (s.goto i x) :=
  hinv.move (hinv.exclusive.move hcrit) hfits hold hnew hdoomed hpast

/-- Between `Lock` and `Unlock`. -/
theorem Inv.within (hinv : Inv s) {x : Stage} (hcrit : (s.calls i).critical = true)
    (hfits : Fits s x) (hold : ∀ id h, s.calls i ≠ .storing id h)
    (hnew : ∀ id h, x ≠ .storing id h) (hdoomed : (s.calls i).doomed = [])
    (hpast : x.past = false) : Inv (s.goto i x) := by
  refine hinv.goto (fun _ => hcrit) hfits hold hnew ?_ ?_
  · intro h hh
    rw [hdoomed] at hh
    exact absurd hh List.not_mem_nil
  · intro hx
    exact absurd (hpast.symm.trans hx) (by decide)

/-- `NewActor`, while no actor of the room is running. -/
theorem Inv.spawn (hinv : Inv s) {id : String} {room : Room} {cp : Option Checkpoint}
    (hi : s.calls i = .starting id room cp) (hdown : s.down = false) {core : Core}
    (hid : core.room.id = id) : Inv ((s.spawn core).goto i (.storing id s.cells.length)) := by
  have hcrit : (s.calls i).critical = true := by rw [hi]; rfl
  have hfits := hinv.fits i
  rw [hi] at hfits
  have hnone : s.actors.lookup id = none := hfits.1
  have hl := leads_spawn core s
  have hnew : (s.spawn core).cells[s.cells.length]? = some ⟨core, []⟩ := List.getElem?_concat_length
  have hserves : (s.spawn core).Serves s.cells.length id := ⟨_, hnew, hid⟩
  -- a running actor is an old one or the new one
  have hruns : ∀ h k, (s.spawn core).Runs h k → s.Runs h k ∨ (h = s.cells.length ∧ k = id) := by
    intro h k hrun
    by_cases hlt : h < s.cells.length
    · exact .inl (runs_of_leads hl hrun hlt)
    · have hlen := hrun.lt
      have heq : h = s.cells.length := by
        simp only [Registry.spawn, List.length_append, List.length_singleton] at hlen
        omega
      obtain ⟨c, hc, -, hroom⟩ := hrun
      rw [heq, hnew] at hc
      obtain rfl := Option.some.inj hc
      exact .inr ⟨heq, hroom.symm.trans hid⟩
  -- the lock keeps other goroutines from storing, and there is no `Shutdown`
  have hfree : ∀ h, ¬s.Runs h id := by
    intro h hrun
    cases hinv.kept h id hrun with
    | mapped hmap => exact absurd (hnone.symm.trans hmap) (by simp)
    | storing j hj =>
        have hji : j = i := hinv.exclusive.unique hcrit (by rw [hj]; rfl)
        subst hji
        exact absurd (hi.symm.trans hj) (by simp)
    | doomed j hj =>
        have hd := hinv.past j (past_of_mem_doomed hj)
        exact absurd (hdown.symm.trans hd) (by decide)
  refine ⟨hinv.exclusive.move (fun _ => hcrit),
    forall_goto ⟨hnone, hserves⟩ (fun j hj => hinv.fits_others hcrit hj), ?_, ?_, ?_,
    hinv.past_goto (fun hx => Bool.noConfusion hx) rfl, ?_⟩
  · intro k h hmap
    exact serves_of_leads hl (hinv.mapped k h hmap)
  · intro h k hrun
    rcases hruns h k hrun with hold | ⟨rfl, rfl⟩
    · cases hinv.kept h k hold with
      | mapped hmap => exact .mapped hmap
      | storing j hj =>
          exact .storing j (storing_goto (by simp [hi]) hj _)
      | doomed j hj =>
          exact .doomed j (doomed_goto (by rw [hi]; rfl) hj _)
    · exact .storing i (goto_calls_self ..)
  · intro k h h' hrun hrun'
    rcases hruns h k hrun with hold | ⟨hh, rfl⟩
    · rcases hruns h' k hrun' with hold' | ⟨-, rfl⟩
      · exact hinv.single k h h' hold hold'
      · exact absurd hold (hfree h)
    · rcases hruns h' k hrun' with hold' | ⟨hh', -⟩
      · exact absurd hold' (hfree h')
      · exact hh.trans hh'.symm
  · intro hd
    exact absurd (hdown.symm.trans hd) (by decide)

/-- `r.actors[id] = a`. -/
theorem Inv.store (hinv : Inv s) {id : String} {h : Nat} (hi : s.calls i = .storing id h)
    (r : Result) :
    Inv ((s.setActors (s.actors.insert id h)).goto i (.unlocking (.get id) r)) := by
  have hcrit : (s.calls i).critical = true := by rw [hi]; rfl
  have hfits := hinv.fits i
  rw [hi] at hfits
  obtain ⟨hnone, hserves⟩ := hfits
  have hdown : s.down ≠ true := fun hd => (hinv.emptied hd).2 i id h hi
  have hmap : (s.actors.insert id h).lookup id = some h := AList.lookup_insert ..
  refine ⟨hinv.exclusive.move (fun _ => hcrit),
    forall_goto trivial (fun j hj => hinv.fits_others hcrit hj), ?_, ?_, hinv.single,
    hinv.past_goto (fun hx => Bool.noConfusion hx) rfl,
    fun hd => absurd hd hdown⟩
  · intro k h' hk
    rcases AList.lookup_insert_iff.mp hk with ⟨rfl, rfl⟩ | ⟨-, hold⟩
    · exact hserves
    · exact hinv.mapped k h' hold
  · intro h' k hrun
    cases hinv.kept h' k hrun with
    | mapped hold =>
        have hk : k ≠ id := by
          rintro rfl
          exact absurd (hnone.symm.trans hold) (by simp)
        exact .mapped ((AList.lookup_insert_ne hk).trans hold)
    | storing j hj =>
        by_cases hji : j = i
        · subst hji
          obtain ⟨rfl, rfl⟩ := Stage.storing.inj (hi.symm.trans hj)
          exact .mapped hmap
        · exact .storing j ((goto_calls_ne hji ..).trans hj)
    | doomed j hj =>
        exact .doomed j (doomed_goto (by rw [hi]; rfl) hj _)

/-- `delete(r.actors, id)`, after the actor has stopped. -/
theorem Inv.drop (hinv : Inv s) {id : String} (hi : s.calls i = .dropping id) :
    Inv ((s.setActors (s.actors.erase id)).goto i (.deleting id)) := by
  have hcrit : (s.calls i).critical = true := by rw [hi]; rfl
  have hfits := hinv.fits i
  rw [hi] at hfits
  obtain ⟨h₀, hmap, hstopped⟩ := hfits
  have hdown : s.down ≠ true := by
    intro hd
    rw [(hinv.emptied hd).1] at hmap
    cases hmap
  refine ⟨hinv.exclusive.move (fun _ => hcrit),
    forall_goto (AList.lookup_erase ..) (fun j hj => hinv.fits_others hcrit hj), ?_, ?_,
    hinv.single, hinv.past_goto (fun hx => Bool.noConfusion hx) rfl,
    fun hd => absurd hd hdown⟩
  · intro k h hk
    exact hinv.mapped k h (AList.lookup_erase_iff.mp hk).2
  · intro h k hrun
    cases hinv.kept h k hrun with
    | mapped hold =>
        have hk : k ≠ id := by
          rintro rfl
          obtain rfl := Option.some.inj (hmap.symm.trans hold)
          exact absurd (hrun.not_stopped.symm.trans hstopped) (by decide)
        exact .mapped ((AList.lookup_erase_ne hk).trans hold)
    | storing j hj =>
        exact .storing j (storing_goto (by simp [hi]) hj _)
    | doomed j hj =>
        exact .doomed j (doomed_goto (by rw [hi]; rfl) hj _)

/-- A `Shutdown` takes the map: what was in it is doomed. -/
theorem Inv.takeMap (hinv : Inv s) (hi : s.calls i = .held .shutdown) :
    Inv (s.takeMap.goto i (.taken s.actors.rows)) := by
  have hcrit : (s.calls i).critical = true := by rw [hi]; rfl
  refine ⟨hinv.exclusive.move (fun _ => hcrit),
    forall_goto trivial (fun j hj => hinv.fits_others hcrit hj), ?_, ?_, hinv.single,
    fun _ _ => rfl, fun _ => ⟨rfl, forall_goto (Q := fun y => ∀ id h, y ≠ .storing id h) ?_ ?_⟩⟩
  · intro k h hk
    cases hk
  · intro h k hrun
    cases hinv.kept h k hrun with
    | mapped hmap =>
        refine .doomed i ?_
        rw [goto_calls_self]
        exact AList.mem_rows.mpr ⟨k, hmap⟩
    | storing j hj =>
        have hji : j = i := hinv.exclusive.unique hcrit (by rw [hj]; rfl)
        subst hji
        exact absurd (hi.symm.trans hj) (by simp)
    | doomed j hj =>
        exact .doomed j (doomed_goto (by rw [hi]; rfl) hj _)
  · intro id h heq
    cases heq
  · intro j hj id h heq
    exact hinv.exclusive.others hcrit hj (by rw [show s.calls j = _ from heq]; rfl)

theorem Inv.stop (hinv : Inv s) {h : Nat} {sends : Bool} {sent done : Stage}
    (hsent : Inv (s.push h .close) → Inv ((s.push h .close).goto i sent))
    (hdone : s.stopped h = true → Inv (s.goto i done)) : Inv (s.stop i h sends sent done) := by
  unfold Registry.stop
  split_ifs with _ _ hstopped
  · exact hsent (hinv.push h .close)
  · exact hinv
  · exact hdone hstopped
  · exact hinv

theorem roomByID_id {id : String} {fault : Option String} {room : Room}
    (h : s.roomByID id fault = .ok room) : room.id = id := by
  unfold roomByID at h
  cases fault with
  | some e => cases h
  | none =>
      simp only [Store.roomByID] at h
      split at h
      · obtain rfl := Except.ok.inj h
        rfl
      · cases h

/-- `Get`, unless it starts an actor late. -/
theorem inv_stepGet (hinv : Inv s) (grace : Nat) (x : Answer)
    (hlate : ∀ id room cp, s.calls i = .starting id room cp → s.down = false) :
    Inv (s.stepGet grace i x (s.calls i)) := by
  have hfits := hinv.fits i
  cases hi : s.calls i with
  | held c =>
      cases c with
      | get id =>
          simp only [stepGet]
          split
          · exact hinv.within (by rw [hi]; rfl) trivial (by simp [hi]) (by simp) (by rw [hi]; rfl) rfl
          · rename_i hnone
            exact hinv.within (by rw [hi]; rfl) hnone (by simp [hi]) (by simp) (by rw [hi]; rfl) rfl
      | _ => exact hinv
  | reading id =>
      rw [hi] at hfits
      simp only [stepGet]
      split
      · exact hinv.within (by rw [hi]; rfl) trivial (by simp [hi]) (by simp) (by rw [hi]; rfl) rfl
      · rename_i room hroom
        exact hinv.within (by rw [hi]; rfl) ⟨hfits, roomByID_id hroom⟩ (by simp [hi]) (by simp)
          (by rw [hi]; rfl) rfl
  | loading id room =>
      rw [hi] at hfits
      exact hinv.within (by rw [hi]; rfl) hfits (by simp [hi]) (by simp) (by rw [hi]; rfl) rfl
  | starting id room cp =>
      rw [hi] at hfits
      refine hinv.spawn hi (hlate id room cp hi) ?_
      cases cp <;> exact hfits.2
  | storing id h => exact hinv.store hi (.actor h)
  | _ => exact hinv

theorem inv_stepDelete (hinv : Inv s) (x : Answer) : Inv (s.stepDelete i x (s.calls i)) := by
  have hfits := hinv.fits i
  cases hi : s.calls i with
  | held c =>
      have hin : ∀ {x : Stage}, Fits s x → (∀ id h, x ≠ .storing id h) → x.past = false →
          Inv (s.goto i x) := fun hx hnew hpast =>
        hinv.within (by rw [hi]; rfl) hx (by simp [hi]) hnew (by rw [hi]; rfl) hpast
      cases c with
      | delete id =>
          simp only [stepDelete]
          split
          · exact hin trivial (by simp) rfl
          · split_ifs
            · exact hin trivial (by simp) rfl
            · exact hin trivial (by simp) rfl
      | _ => exact hinv
  | evicting id =>
      simp only [stepDelete]
      split
      · rename_i h hmap
        exact hinv.within (by rw [hi]; rfl) hmap (by simp [hi]) (by simp) (by rw [hi]; rfl) rfl
      · rename_i hnone
        exact hinv.within (by rw [hi]; rfl) hnone (by simp [hi]) (by simp) (by rw [hi]; rfl) rfl
  | stopping id h =>
      rw [hi] at hfits
      refine hinv.stop ?_ ?_
      · intro hpush
        have hcalls : (s.push h .close).calls i = .stopping id h := hi
        exact hpush.within (by rw [hcalls]; rfl) hfits (by simp [hcalls]) (by simp)
          (by rw [hcalls]; rfl) rfl
      · intro hstopped
        exact hinv.within (by rw [hi]; rfl) ⟨h, hfits, hstopped⟩ (by simp [hi]) (by simp)
          (by rw [hi]; rfl) rfl
  | awaiting id h =>
      rw [hi] at hfits
      simp only [stepDelete]
      split_ifs with hstopped
      · exact hinv.within (by rw [hi]; rfl) ⟨h, hfits, hstopped⟩ (by simp [hi]) (by simp)
          (by rw [hi]; rfl) rfl
      · exact hinv
  | dropping id => exact hinv.drop hi
  | deleting id =>
      have hset := hinv.setDB (s.deleteRoom id x.fault).2
      have hcalls : (s.setDB (s.deleteRoom id x.fault).2).calls i = .deleting id := hi
      exact hset.within (by rw [hcalls]; rfl) trivial (by simp [hcalls]) (by simp)
        (by rw [hcalls]; rfl) rfl
  | _ => exact hinv

theorem inv_stepShutdown (hinv : Inv s) (x : Answer) : Inv (s.stepShutdown i x (s.calls i)) := by
  have hpast := hinv.past i
  cases hi : s.calls i with
  | held c =>
      cases c with
      | shutdown => exact hinv.takeMap hi
      | _ => exact hinv
  | taken hs =>
      rw [hi] at hpast
      refine hinv.move (hinv.exclusive.release (by rw [hi]; rfl) (by simp [Stage.critical])) trivial
        (by simp [hi]) (by simp) ?_ (fun _ => hpast rfl)
      intro h hh
      rw [hi] at hh
      exact .inl hh
  | halting hs =>
      rw [hi] at hpast
      cases hs with
      | nil =>
          refine hinv.goto (by simp [Stage.critical]) trivial (by simp [hi]) (by simp) ?_
            (fun _ => hpast rfl)
          intro h hh
          rw [hi] at hh
          exact absurd hh List.not_mem_nil
      | cons h₀ hs =>
          simp only [stepShutdown]
          split_ifs with hnext
          · refine hinv.stop ?_ ?_
            · intro hpush
              refine hpush.goto (by simp [Stage.critical]) trivial (by simp [Registry.push, hi])
                (by simp) ?_ (fun _ => hpast rfl)
              intro h hh
              rw [show (s.push x.next .close).calls i = _ from hi] at hh
              by_cases hx : h = x.next
              · exact .inl (List.mem_cons.mpr (.inl hx))
              · exact .inl (List.mem_cons_of_mem _ ((List.mem_erase_of_ne hx).mpr hh))
            · intro hstopped
              refine hinv.goto (by simp [Stage.critical]) trivial (by simp [hi]) (by simp) ?_
                (fun _ => hpast rfl)
              intro h hh
              rw [hi] at hh
              by_cases hx : h = x.next
              · exact .inr (hx ▸ hstopped)
              · exact .inl ((List.mem_erase_of_ne hx).mpr hh)
          · exact hinv
  | draining h₀ hs =>
      rw [hi] at hpast
      simp only [stepShutdown]
      split_ifs with hstopped
      · refine hinv.goto (by simp [Stage.critical]) trivial (by simp [hi]) (by simp) ?_
          (fun _ => hpast rfl)
        intro h hh
        rw [hi] at hh
        rcases List.mem_cons.mp hh with rfl | hrest
        · exact .inr hstopped
        · exact .inl hrest
      · exact hinv
  | _ => exact hinv

/-- **Goroutines.**  Unless it starts an actor late, a step of a goroutine keeps the
    invariant. -/
theorem inv_advance (hinv : Inv s) (grace : Nat) (x : Answer)
    (hlate : ∀ id room cp, s.calls i = .starting id room cp → s.down = false) :
    Inv (s.advance grace i x) := by
  have hget := inv_stepGet hinv grace x hlate
  have hdelete := inv_stepDelete (i := i) hinv x
  have hshutdown := inv_stepShutdown (i := i) hinv x
  unfold advance
  cases hi : s.calls i with
  | locking c =>
      simp only
      split_ifs with hfree
      · have hex := hinv.exclusive
        rw [hfree] at hex
        refine hinv.move (hex.acquire _) trivial (by simp [hi]) (by simp) ?_
          (fun hx => Bool.noConfusion hx)
        intro h hh
        rw [hi] at hh
        exact absurd hh List.not_mem_nil
      · exact hinv
  | unlocking c r =>
      refine hinv.move (hinv.exclusive.release (by rw [hi]; rfl) (by simp [Stage.critical])) trivial
        (by simp [hi]) (by simp) ?_ ?_
      · intro h hh
        rw [hi] at hh
        exact absurd hh List.not_mem_nil
      · have hpast := hinv.past i
        rw [hi] at hpast
        exact hpast
  | held c =>
      rw [hi] at hget hdelete hshutdown
      cases c with
      | get id => exact hget
      | delete id => exact hdelete
      | shutdown => exact hshutdown
  | reading | loading | starting | storing =>
      rw [hi] at hget
      exact hget
  | evicting | stopping | awaiting | dropping | deleting =>
      rw [hi] at hdelete
      exact hdelete
  | taken | halting | draining =>
      rw [hi] at hshutdown
      exact hshutdown
  | idle => exact hinv
  | returned c r => exact hinv

-- ============================================================================
-- Every run
-- ============================================================================

theorem inv_step (grace : Nat) (s : Registry) (l : Label) (hinv : Inv s)
    (hlate : startsLate s l = false) : Inv (step grace s l) := by
  cases l with
  | call i c =>
      simp only [step]
      split_ifs with hidle
      · refine hinv.goto (fun hx => Bool.noConfusion hx) trivial (by simp [hidle]) (by simp) ?_
          (fun hx => Bool.noConfusion hx)
        intro h hh
        rw [hidle] at hh
        exact absurd hh List.not_mem_nil
      · exact hinv
  | advance i x =>
      refine inv_advance hinv grace x ?_
      intro id room cp hi
      simpa only [startsLate, hi] using hlate
  | post h m =>
      simp only [step]
      split_ifs
      · exact hinv.push h m
      · exact hinv
  | turn h env fates => exact hinv.takeTurn h env fates
  | create r now =>
      simp only [step]
      split_ifs
      · exact hinv
      · exact hinv.leads (.of_cells rfl) rfl rfl rfl rfl rfl
  | write st => exact hinv.setDB _

theorem Inv.oneActor (hinv : Inv s) : OneActor s := by
  refine ⟨hinv.single, ?_⟩
  rintro ⟨⟨i, hi⟩, hover⟩ h id hrun
  have hdown : s.down = true := hinv.past i (by rw [hi]; rfl)
  cases hinv.kept h id hrun with
  | mapped hmap =>
      rw [(hinv.emptied hdown).1] at hmap
      cases hmap
  | storing j hj => exact (hinv.emptied hdown).2 j id h hj
  | doomed j hj =>
      have hj' := hover j
      cases hs : s.calls j with
      | taken | halting | draining =>
          rw [hs] at hj'
          exact Bool.noConfusion hj'
      | _ =>
          rw [hs] at hj
          exact absurd hj List.not_mem_nil

/-- **One actor for a room.**  In a run in which no `Get` starts an actor after a `Shutdown`
    has taken the map, no room ever has two running actors; and once a `Shutdown` and all
    other calls have returned, no actor is running. -/
theorem one_actor_per_room (grace : Nat) (d : Database) (ls : List Label)
    (hls : EachStep (step grace) (fun s l => startsLate s l = false) (start d) ls) :
    ∀ pre post, ls = pre ++ post → OneActor (run (step grace) (start d) pre) := by
  rintro pre post rfl
  exact (run_invariant_before (inv_step grace) (inv_boot d d.rooms.keys) hls).oneActor

-- ============================================================================
-- A request while the server goes down
-- ============================================================================

theorem stop_calls_ne {j : Nat} (hj : j ≠ i) (h : Nat) (sends : Bool) (sent done : Stage)
    (s : Registry) : (s.stop i h sends sent done).calls j = s.calls j := by
  unfold Registry.stop
  split_ifs
  · exact goto_calls_ne hj sent (s.push h .close)
  · rfl
  · exact goto_calls_ne hj done s
  · rfl

/-- A goroutine moves only itself. -/
theorem advance_calls_ne {j : Nat} (hj : j ≠ i) (grace : Nat) (x : Answer) (s : Registry) :
    (s.advance grace i x).calls j = s.calls j := by
  unfold advance stepGet stepDelete stepShutdown
  repeat' split
  all_goals
    first
    | rfl
    | exact goto_calls_ne hj _ _
    | exact stop_calls_ne hj _ _ _ _ _

/-- The goroutine that a step belongs to. -/
def Label.goroutine : Label → Option Nat
  | .call i _ | .advance i _ => some i
  | _ => none

theorem step_calls_ne {j : Nat} (grace : Nat) (s : Registry) {l : Label}
    (hl : l.goroutine ≠ some j) : (step grace s l).calls j = s.calls j := by
  cases l with
  | call i c =>
      have hj : j ≠ i := fun heq => hl (congrArg some heq.symm)
      simp only [step]
      split_ifs
      · exact goto_calls_ne hj ..
      · rfl
  | advance i x => exact advance_calls_ne (fun heq => hl (congrArg some heq.symm)) grace x s
  | post h m =>
      simp only [step]
      split_ifs <;> rfl
  | turn h env fates =>
      simp only [step, Registry.takeTurn]
      split <;> rfl
  | create r now =>
      simp only [step]
      split_ifs <;> rfl
  | write st => rfl

/-- Who takes no step stays where he is. -/
theorem run_calls_ne {j : Nat} (grace : Nat) {ls : List Label}
    (hls : ∀ l ∈ ls, l.goroutine ≠ some j) (s : Registry) :
    (run (step grace) s ls).calls j = s.calls j := by
  induction ls generalizing s with
  | nil => rfl
  | cons l ls ih =>
      rw [run_cons, ih (fun l' hl' => hls l' (List.mem_cons_of_mem _ hl'))]
      exact step_calls_ne grace s (hls l List.mem_cons_self)

theorem runs_iff {h : Nat} {id : String} :
    s.Runs h id ↔
      s.cells[h]?.any (fun c => !c.core.stopped && decide (c.core.room.id = id)) = true := by
  simp [Runs, Option.any_eq_true]

instance (s : Registry) (h : Nat) (id : String) : Decidable (s.Runs h id) :=
  decidable_of_iff _ runs_iff.symm

/-- The host's room, and nothing else. -/
def oneRoom : Database :=
  { Database.empty with rooms := (∅ : KeyedTable String Room).insert "r" (smallRoom "h") }

/-- A goroutine calls, and takes its next `n` steps. -/
def calling (i : Nat) (c : Call) (n : Nat) : List Label :=
  .call i c :: List.replicate n (.advance i ⟨none, true, 0⟩)

/-- A `Shutdown` stops the actor of the room; what reads the room after it finds it gone. -/
def orderly : List Label :=
  calling 0 (.get "r") 7 ++ calling 1 .shutdown 4 ++ [.turn 0 (Env.at 1) []] ++
    List.replicate 2 (.advance 1 ⟨none, true, 0⟩)

theorem one_actor_orderly : OneActor (run (step 60) (start oneRoom) orderly) :=
  one_actor_per_room 60 oneRoom orderly (by decide +kernel) _ [] (List.append_nil _).symm

/-- A `Shutdown` has taken the map when a second `Get` of the room comes. -/
def lateGet : List Label :=
  calling 0 (.get "r") 7 ++ calling 1 .shutdown 3 ++ calling 2 (.get "r") 7

/-- The `Shutdown` ends. -/
def lateEnd : List Label :=
  [.advance 1 ⟨none, true, 0⟩, .turn 0 (Env.at 1) []] ++
    List.replicate 2 (.advance 1 ⟨none, true, 0⟩)

/-- The room has two actors, and one of them is left running. -/
theorem late_actor_left_running :
    ¬OnePerRoom (run (step 60) (start oneRoom) lateGet) ∧
      ¬OneActor (run (step 60) (start oneRoom) (lateGet ++ lateEnd)) := by
  constructor
  · intro h
    exact absurd (h "r" 0 1 (by decide +kernel) (by decide +kernel)) (by decide)
  · intro h
    have hover : ∀ i, ((run (step 60) (start oneRoom) (lateGet ++ lateEnd)).calls i).over = true := by
      intro i
      rcases i with _ | _ | _ | i
      · decide +kernel
      · decide +kernel
      · decide +kernel
      · rw [run_calls_ne 60 (by simp [lateGet, lateEnd, calling, Label.goroutine])]
        rfl
    exact h.settled ⟨⟨1, by decide +kernel⟩, hover⟩ 1 "r" (by decide +kernel)

end WatchTogether.Rooms.Registry

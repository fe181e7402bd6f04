/-
  WatchTogether.Realtime.Wiring

  Which room the actor of a connection serves.  `Get` hands out actors of the room that it was
  asked for, so whoever waits on the channel of an actor, or is in its map, is a connection of
  the actor's room.  The proof follows an actor from the goroutine of `Get` to the connection,
  and a connection from its `Join` to the map.
-/

import WatchTogether.Realtime.Closes

namespace WatchTogether.Rooms.Registry

-- ============================================================================
-- What a `Get` hands out
-- ============================================================================

/-- The room that a `Get` was asked for, and the actor that it hands out. -/
def Call.hands : Call → Result → Option (String × Nat)
  | .get id, .actor h => some (id, h)
  | _, _ => none

/-- What the call at this stage hands out. -/
def Stage.hands : Stage → Option (String × Nat)
  | .unlocking c r | .returned c r => c.hands r
  | _ => none

/-- Every actor that is handed out is one of the room that was asked for. -/
def Handed (s : Registry) : Prop :=
  ∀ i id h, (s.calls i).hands = some (id, h) → s.Serves h id

variable {s s' : Registry} {i : Nat}

theorem Handed.of_leads (hh : Handed s) (hl : Leads s s') (hcalls : s'.calls = s.calls) :
    Handed s' := by
  intro i id h hi
  rw [hcalls] at hi
  exact serves_of_leads hl (hh i id h hi)

/-- A goroutine hands out the actor of the map, or the one that it has stored. -/
theorem advance_hands (grace : Nat) (x : Answer) {id : String} {h : Nat}
    (hi : ((s.advance grace i x).calls i).hands = some (id, h)) :
    (s.calls i).hands = some (id, h) ∨ s.actors.lookup id = some h ∨
      s.calls i = .storing id h := by
  cases hc : s.calls i with
  | held c =>
      cases c with
      | get k =>
          unfold advance stepGet at hi
          rw [hc] at hi
          simp only at hi
          split at hi
          · rename_i h' hmap
            rw [goto_calls_self] at hi
            obtain ⟨rfl, rfl⟩ := Prod.mk.inj (Option.some.inj hi)
            exact .inr (.inl hmap)
          · rw [goto_calls_self] at hi
            cases hi
      | _ =>
          rcases next_advance (i := i) grace x s with heq | hnext
          · rw [heq, hc] at hi
            cases hi
          · rw [hc] at hnext
            generalize (s.advance grace i x).calls i = y at hnext hi
            cases hnext <;> cases hi
  | storing k h' =>
      unfold advance stepGet at hi
      rw [hc] at hi
      simp only at hi
      rw [goto_calls_self] at hi
      obtain ⟨rfl, rfl⟩ := Prod.mk.inj (Option.some.inj hi)
      exact .inr (.inr rfl)
  | _ =>
      rcases next_advance (i := i) grace x s with heq | hnext
      · rw [heq, hc] at hi
        exact .inl hi
      · rw [hc] at hnext
        generalize (s.advance grace i x).calls i = y at hnext hi
        cases hnext <;> exact .inl hi

theorem handed_step (grace : Nat) (hinv : Inv s) (hh : Handed s) (l : Label) :
    Handed (step grace s l) := by
  have hleads := leads_step grace s l
  intro j id h hj
  refine serves_of_leads hleads ?_
  by_cases hl : l.goroutine = some j
  · cases l with
    | call i c =>
        obtain rfl := Option.some.inj hl
        simp only [step] at hj
        split_ifs at hj
        · rw [goto_calls_self] at hj
          cases hj
        · exact hh _ id h hj
    | advance i x =>
        obtain rfl := Option.some.inj hl
        rcases advance_hands grace x hj with hold | hmap | hstoring
        · exact hh _ id h hold
        · exact hinv.mapped id h hmap
        · have hfits := hinv.fits i
          rw [hstoring] at hfits
          exact hfits.2
    | _ => cases hl
  · rw [step_calls_ne grace s hl] at hj
    exact hh j id h hj

-- ============================================================================
-- Steps that let nobody in
-- ============================================================================

/-- Nobody has come in, and nobody has asked to. -/
def Calm (s s' : Registry) : Prop :=
  ∀ (h : Nat) (c' : Cell), s'.cells[h]? = some c' →
    (∃ c, s.cells[h]? = some c ∧ c'.core = c.core ∧
      ∀ cl, .join cl ∈ c'.queue → .join cl ∈ c.queue) ∨
    (c'.core.members = ∅ ∧ c'.queue = [])

theorem Calm.of_cells (h : s'.cells = s.cells) : Calm s s' := by
  intro k c' hc'
  exact .inl ⟨c', h ▸ hc', rfl, fun _ hcl => hcl⟩

theorem calm_push (h : Nat) {m : Msg} (hm : ∀ cl, m ≠ .join cl) (s : Registry) :
    Calm s (s.push h m) := by
  intro k c' hc'
  obtain ⟨c, hc, heq | ⟨-, heq⟩⟩ := push_cells hc'
  · rw [heq]
    exact .inl ⟨c, hc, rfl, fun _ hcl => hcl⟩
  · rw [heq]
    refine .inl ⟨c, hc, rfl, ?_⟩
    intro cl hcl
    rcases List.mem_append.mp hcl with hold | hnew
    · exact hold
    · exact absurd (List.mem_singleton.mp hnew).symm (hm cl)

theorem calm_advance_cells (grace : Nat) (x : Answer) (s : Registry) :
    Calm s (s.advance grace i x) := by
  intro h c' hc'
  rcases advance_cells grace x hc' with ⟨c, hc, hcore, hqueue⟩ | ⟨id, room, cp, -, heq⟩
  · refine .inl ⟨c, hc, hcore, ?_⟩
    intro cl hcl
    rcases hqueue with hsame | hclose
    · rw [hsame] at hcl
      exact hcl
    · rw [hclose] at hcl
      rcases List.mem_append.mp hcl with hold | hnew
      · exact hold
      · cases List.mem_singleton.mp hnew
  · rw [heq]
    exact .inr ⟨by cases cp <;> rfl, rfl⟩

theorem calm_step (grace : Nat) {l : Label} (hl : Realtime.Endings.World.outside l = true)
    (s : Registry) : Calm s (step grace s l) := by
  cases l with
  | call i c =>
      simp only [step]
      split_ifs <;> exact .of_cells rfl
  | advance i x => exact calm_advance_cells grace x s
  | post h m =>
      simp only [step]
      split_ifs
      · refine calm_push h ?_ s
        rintro cl rfl
        cases hl
      · exact .of_cells rfl
  | turn h env fates => cases hl
  | create r now =>
      simp only [step]
      split_ifs <;> exact .of_cells rfl
  | write st => exact .of_cells rfl

end WatchTogether.Rooms.Registry

namespace WatchTogether.Realtime.Endings

open LabelledRun Repository Rooms Rooms.Registry World

-- ============================================================================
-- Connections and their actors
-- ============================================================================

/-- Every connection has an actor of its room, waits on the channel of one, and is in the map of
    one. -/
structure Wired (s : World) : Prop where
  handed : Handed s.registry
  held : ∀ (n : Nat) (c : Conn) (h : Nat), s.conns[n]? = some c → c.phase.actor = some h →
    s.registry.Serves h c.roomID
  queued : ∀ (h : Nat) (c : Cell) (cl : Client), s.registry.cells[h]? = some c →
    .join cl ∈ c.queue → s.roomOf cl.conn = some c.core.room.id
  inside : ∀ (h : Nat) (c : Cell) (id : String) (m : RuntimeMember),
    s.registry.cells[h]? = some c → c.core.members.lookup id = some m →
    s.roomOf m.client.conn = some c.core.room.id

variable {s s' : World}

/-- Whoever has an actor had it before, or it is one of the room. -/
def ActorsKept (s s' : World) : Prop :=
  ∀ (n : Nat) (c' : Conn) (h : Nat), s'.conns[n]? = some c' → c'.phase.actor = some h →
    s'.registry.Serves h c'.roomID ∨
      ∃ c, s.conns[n]? = some c ∧ c.roomID = c'.roomID ∧ c.phase.actor = some h

theorem ActorsKept.of_conns (h : s'.conns = s.conns) : ActorsKept s s' := by
  intro n c' k hc' hk
  exact .inr ⟨c', h ▸ hc', rfl, hk⟩

theorem ActorsKept.setConn (r : Registry) (n : Nat) {f : Conn → Conn}
    (hf : ∀ c, s.conns[n]? = some c → (f c).roomID = c.roomID ∧
      ∀ h, (f c).phase.actor = some h → r.Serves h c.roomID ∨ c.phase.actor = some h) :
    ActorsKept s ((s.setRegistry r).setConn n f) := by
  intro n' c' h hc' hh
  by_cases hn : n' = n
  · subst hn
    cases hc : s.conns[n']? with
    | none =>
        have hnone : ((s.setRegistry r).setConn n' f).conns[n']? = none := by
          show (s.conns.modify n' f)[n']? = none
          rw [List.getElem?_modify_eq, hc]
          rfl
        rw [hnone] at hc'
        cases hc'
    | some c =>
        rw [setConn_get (s := s.setRegistry r) hc f] at hc'
        obtain rfl := Option.some.inj hc'
        obtain ⟨hroom, hactor⟩ := hf c hc
        rw [hroom]
        exact (hactor h hh).imp id (fun hold => ⟨c, rfl, rfl, hold⟩)
  · rw [setConn_get_ne hn] at hc'
    exact .inr ⟨c', hc', rfl, hh⟩

theorem Wired.held_next (hw : Wired s) (hleads : Leads s.registry s'.registry)
    (hactors : ActorsKept s s') (n : Nat) (c' : Conn) (h : Nat) (hc' : s'.conns[n]? = some c')
    (hh : c'.phase.actor = some h) : s'.registry.Serves h c'.roomID := by
  rcases hactors n c' h hc' hh with hnew | ⟨c, hc, hroom, hold⟩
  · exact hnew
  · rw [← hroom]
    exact serves_of_leads hleads (hw.held n c h hc hold)

/-- A step that lets nobody in. -/
theorem Wired.calm (hw : Wired s) (hleads : Leads s.registry s'.registry)
    (hhanded : Handed s'.registry) (hcalm : Calm s.registry s'.registry) (hconns : ConnsLead s s')
    (hactors : ActorsKept s s') : Wired s' := by
  refine ⟨hhanded, hw.held_next hleads hactors, ?_, ?_⟩
  · intro h c' cl hc' hcl
    rcases hcalm h c' hc' with ⟨c, hc, hcore, hqueue⟩ | ⟨-, hempty⟩
    · rw [hcore]
      exact roomOf_mono hconns (hw.queued h c cl hc (hqueue cl hcl))
    · rw [hempty] at hcl
      exact absurd hcl List.not_mem_nil
  · intro h c' id m hc' hm
    rcases hcalm h c' hc' with ⟨c, hc, hcore, -⟩ | ⟨hempty, -⟩
    · rw [hcore] at hm ⊢
      exact roomOf_mono hconns (hw.inside h c id m hc hm)
    · rw [hempty, AList.lookup_empty] at hm
      cases hm

/-- A `Join` sends its request. -/
theorem Wired.submit (hw : Wired s) {n h : Nat} {c : Conn} (hc : s.conns[n]? = some c)
    (hphase : c.phase = .joining h) (hconns : ConnsLead s ((s.setRegistry
      (s.registry.push h (.join (asClient n c)))).setConn n
        (fun c => { c with phase := .waiting h, reply := none }))) :
    Wired ((s.setRegistry (s.registry.push h (.join (asClient n c)))).setConn n
      (fun c => { c with phase := .waiting h, reply := none })) := by
  have hleads := leads_push h (.join (asClient n c)) s.registry
  have hserves := hw.held n c h hc (by rw [hphase]; rfl)
  refine ⟨hw.handed.of_leads hleads rfl, hw.held_next hleads ?_, ?_, ?_⟩
  · refine .setConn (s.registry.push h (.join (asClient n c))) n ?_
    intro c₁ hc₁
    obtain rfl := Option.some.inj (hc.symm.trans hc₁)
    refine ⟨rfl, ?_⟩
    intro k hk
    obtain rfl := Option.some.inj hk
    exact .inr (by rw [hphase]; rfl)
  · intro k c' cl hc' hcl
    obtain ⟨c₀, hc₀, heq | ⟨rfl, heq⟩⟩ := push_cells hc'
    · rw [heq] at hcl ⊢
      exact roomOf_mono hconns (hw.queued k c₀ cl hc₀ hcl)
    · rw [heq] at hcl ⊢
      rcases List.mem_append.mp hcl with hold | hnew
      · exact roomOf_mono hconns (hw.queued _ c₀ cl hc₀ hold)
      · obtain rfl := Msg.join.inj (List.mem_singleton.mp hnew)
        obtain ⟨c₁, hc₁, hroom⟩ := hserves
        obtain rfl := Option.some.inj (hc₀.symm.trans hc₁)
        refine roomOf_mono hconns ?_
        show s.conns[n]?.map (fun c => c.roomID) = _
        rw [hc, Option.map_some, hroom]
  · intro k c' id m hc' hm
    obtain ⟨c₀, hc₀, heq | ⟨-, heq⟩⟩ := push_cells hc'
    · rw [heq] at hm ⊢
      exact roomOf_mono hconns (hw.inside k c₀ id m hc₀ hm)
    · rw [heq] at hm ⊢
      exact roomOf_mono hconns (hw.inside k c₀ id m hc₀ hm)

theorem Wired.mover (hw : Wired s) (grace : Nat) {n : Nat} {c : Conn} {l : Label}
    (hc : s.conns[n]? = some c) (hturn : ConnTurn grace s n c l s') (hinv : Inv s.registry) :
    Wired s' := by
  have hconns := hturn.leads
  -- a step of the connection alone, to a phase without an actor or with the one it has
  have halone : ∀ {f : Conn → Conn}, ConnsLead s (s.setConn n f) → (f c).roomID = c.roomID →
      (∀ h, (f c).phase.actor = some h → s.registry.Serves h c.roomID ∨ c.phase.actor = some h) →
      Wired (s.setConn n f) := by
    intro f hlead hroom hactor
    refine hw.calm (.of_cells rfl) hw.handed (.of_cells rfl) hlead ?_
    refine ActorsKept.setConn s.registry n ?_
    intro c₁ hc₁
    obtain rfl := Option.some.inj (hc.symm.trans hc₁)
    exact ⟨hroom, hactor⟩
  cases hturn with
  | idle => exact hw
  | closed code reason phase hreason hphase =>
      refine halone hconns (c.leads_close code reason).roomID ?_
      intro h hh
      rcases hphase with hnone | hsame
      · exact absurd (hnone.symm.trans hh) (by simp)
      · exact .inr (hsame ▸ hh)
  | revoked =>
      refine halone hconns (c.leads_close _ _).roomID ?_
      intro h hh
      rw [Conn.phase_close] at hh
      exact .inr hh
  | asked i =>
      refine hw.calm (leads_step grace s.registry _) (handed_step grace hinv hw.handed _)
        (calm_step grace (l := .call i (.get c.roomID)) rfl s.registry) hconns ?_
      refine ActorsKept.setConn _ n ?_
      intro c₁ hc₁
      exact ⟨rfl, fun h hh => by cases hh⟩
  | got i h hcall =>
      refine halone hconns rfl ?_
      intro k hk
      obtain rfl := Option.some.inj hk
      exact .inl (hw.handed i c.roomID _ (by rw [hcall]; rfl))
  | cancelled => exact halone hconns rfl (fun h hh => .inr hh)
  | submitted h hphase => exact hw.submit hc hphase hconns
  | moved phase hphase =>
      refine halone hconns rfl ?_
      intro h hh
      rcases hphase with hnone | hsame
      · exact absurd (hnone.symm.trans hh) (by simp)
      · exact .inr (hsame ▸ hh)
  | left h =>
      refine hw.calm (leads_push h _ s.registry)
        (hw.handed.of_leads (leads_push h _ s.registry) rfl)
        (calm_push h (fun cl heq => Msg.noConfusion heq) s.registry) hconns ?_
      refine ActorsKept.setConn _ n ?_
      intro c₁ hc₁
      exact ⟨rfl, fun h hh => by cases hh⟩

/-- An actor takes a turn. -/
theorem Wired.turn (hw : Wired s) {h : Nat} {env : Env} {fates : List Registry.Fate} {m : Msg}
    {a : Actor Backend} {r : Reply} (hdeliver : s.registry.deliver h env fates = some (m, a, r))
    (hregistry : s'.registry = s.registry.takeTurn h env fates)
    (hconns : s'.conns = perform a.out (answer m r s.conns)) : Wired s' := by
  obtain ⟨c, rest, hc, hq, hlive, hprocess⟩ := deliver_eq_some hdeliver
  have hturn := Rooms.turn Backend.persistence env ⟨c.core, ⟨s.registry.db, fates⟩, []⟩ m
  rw [hprocess] at hturn
  have hroom : a.room.id = c.core.room.id := Realtime.turn_roomID hturn
  have hcalls : s'.registry.calls = s.registry.calls := by
    rw [hregistry, takeTurn, hdeliver]
  have hcells : s'.registry.cells =
      s.registry.cells.modify h (fun c => ⟨a.toCore, c.queue.tail⟩) := by
    rw [hregistry, takeTurn, hdeliver]
  have hleads : Leads s.registry s'.registry := by
    rw [hregistry]
    exact leads_takeTurn h env fates s.registry
  have hlead : ConnsLead s s' := by
    intro n c hc
    obtain ⟨g, hg, hprops⟩ := turn_get a.out m r s.conns n
    refine ⟨g c, ?_, (hprops c).1⟩
    rw [hconns, hg, hc]
    rfl
  refine ⟨hw.handed.of_leads hleads hcalls, hw.held_next hleads ?_, ?_, ?_⟩
  · intro n c' k hc' hk
    obtain ⟨g, hg, hprops⟩ := turn_get a.out m r s.conns n
    rw [hconns, hg] at hc'
    obtain ⟨c₁, hc₁, rfl⟩ := Option.map_eq_some_iff.mp hc'
    refine .inr ⟨c₁, hc₁, (hprops c₁).1.roomID.symm, ?_⟩
    rw [← (hprops c₁).2.1]
    exact hk
  · intro k c' cl hc' hcl
    rw [hcells] at hc'
    by_cases hk : h = k
    · subst hk
      rw [List.getElem?_modify_eq, hc] at hc'
      obtain rfl := Option.some.inj hc'
      rw [show (⟨a.toCore, c.queue.tail⟩ : Cell).core.room.id = c.core.room.id from hroom]
      exact roomOf_mono hlead (hw.queued h c cl hc (List.mem_of_mem_tail hcl))
    · rw [List.getElem?_modify_ne _ _ hk] at hc'
      exact roomOf_mono hlead (hw.queued k c' cl hc' hcl)
  · intro k c' id e hc' he
    rw [hcells] at hc'
    by_cases hk : h = k
    · subst hk
      rw [List.getElem?_modify_eq, hc] at hc'
      obtain rfl := Option.some.inj hc'
      rw [show (⟨a.toCore, c.queue.tail⟩ : Cell).core.room.id = c.core.room.id from hroom]
      refine roomOf_mono hlead ?_
      cases entryOrigin hlive hturn he with
      | joined cl hm hr hid hclient hidentity =>
          rw [hclient]
          refine hw.queued h c cl hc ?_
          rw [hq, hm]
          exact List.mem_cons_self
      | kept e₀ hold hclient hidentity hstay =>
          rw [hclient]
          exact hw.inside h c id e₀ hc hold
    · rw [List.getElem?_modify_ne _ _ hk] at hc'
      exact roomOf_mono hlead (hw.inside k c' id e hc' he)

theorem Stepped.wired {grace : Nat} {uuid : Nat → Nat ↪ String} {lost : String → Bool}
    {l : Label} (h : Stepped grace uuid lost s l s') (hw : Wired s) (hinv : Inv s.registry) :
    Wired s' := by
  have hconns := h.leads
  cases h with
  | idle => exact hw
  | moved _ n c _ hl hc hturn => exact hw.mover grace hc hturn hinv
  | accepted k socket roomID identity =>
      refine hw.calm (.of_cells rfl) hw.handed (.of_cells rfl) hconns ?_
      intro n c' h hc' hh
      rw [List.getElem?_append] at hc'
      split_ifs at hc' with hlt
      · exact .inr ⟨c', hc', rfl, hh⟩
      · obtain rfl := List.mem_singleton.mp (List.mem_of_getElem? hc')
        cases hh
  | outside l hout =>
      exact hw.calm (leads_step grace s.registry l) (handed_step grace hinv hw.handed l)
        (calm_step grace hout s.registry) hconns (.of_conns rfl)
  | turned h env fates m a r hdeliver => exact hw.turn hdeliver rfl rfl
  | restarted =>
      have hcalls : ∀ i id h, ((Registry.boot s.registry.db s.registry.used).calls i).hands ≠
          some (id, h) := by
        intro i id h hi
        cases hi
      refine ⟨fun i id h hi => absurd hi (hcalls i id h), ?_, ?_, ?_⟩
      · intro n c' h hc' hh
        have hmap : (s.conns.map (Conn.goto .returned))[n]? = some c' := hc'
        rw [List.getElem?_map] at hmap
        obtain ⟨c, -, rfl⟩ := Option.map_eq_some_iff.mp hmap
        cases hh
      · intro h c' cl hc'
        cases hc'
      · intro h c' id m hc'
        cases hc'
  | paged => exact ⟨hw.handed, hw.held, hw.queued, hw.inside⟩

/-- The step lemma of the wiring. -/
theorem wired_step (grace : Nat) (uuid : Nat → Nat ↪ String) (lost : String → Bool)
    (hw : Wired s) (hinv : Inv s.registry) (l : Label) :
    Wired (World.step grace uuid lost s l) :=
  (stepped grace uuid lost s l).wired hw hinv

theorem wired_start (d : Database) (dates : Nat → ℚ) : Wired (World.start d dates) := by
  refine ⟨?_, ?_, ?_, ?_⟩
  · intro i id h hi
    cases hi
  · intro n c h hc
    cases hc
  · intro h c cl hc
    cases hc
  · intro h c id m hc
    cases hc

end WatchTogether.Realtime.Endings

/-
  WatchTogether.Accounts.Credentials

  The two credentials of a request against the database: which row answers a lookup, and
  that a row which no longer answers does not come back.
-/

import WatchTogether.Lib.LabelledRun
import WatchTogether.Accounts.Service

namespace WatchTogether.Accounts

open LabelledRun Repository

-- ============================================================================
-- Lookups
-- ============================================================================

/-- The UNIQUE constraints on the two `token_hash` columns. -/
structure TokensUnique (d : Database) : Prop where
  session : ∀ k k' s s', d.sessions.lookup k = some s → d.sessions.lookup k' = some s' →
    s.tokenHash = s'.tokenHash → k = k'
  guest : ∀ k k' g g', d.guestSessions.lookup k = some g → d.guestSessions.lookup k' = some g' →
    g.tokenHash = g'.tokenHash → k = k'

/-- The identity of a session's user. -/
def identityOf (s : SessionRow) (u : AccountRow) : Identity :=
  ⟨u.role, u.username, s.userID, u.nickname, "", false⟩

/-- The identity of a guest session. -/
def guestIdentityOf (id : String) (g : GuestRow) : Identity :=
  ⟨.unset, "", id, g.nickname, g.roomID, true⟩

/-- The session and the user that answer `SessionIdentity`. -/
theorem sessionIdentity_some {d : Database} {h : String} {now : Int64} {x : Identity × String}
    (hx : d.sessionIdentity h now = some x) :
    ∃ k s u, d.sessions.lookup k = some s ∧ s.tokenHash = h ∧ now < s.expiresAtMs ∧
      d.users.lookup s.userID = some u ∧ u.disabled = false ∧ x = (identityOf s u, s.csrfHash) := by
  obtain ⟨s, hmem, howner⟩ := List.exists_of_findSome?_eq_some hx
  obtain ⟨k, hk⟩ := AList.mem_rows.mp hmem
  rw [Database.sessionOwner] at howner
  split at howner
  · rename_i hlive
    split at howner
    · rename_i u hu
      split at howner
      · exact absurd howner (by simp)
      · rename_i henabled
        refine ⟨k, s, u, hk, hlive.1, hlive.2, hu, by simpa using henabled, ?_⟩
        exact (Option.some.inj howner).symm
    · exact absurd howner (by simp)
  · exact absurd howner (by simp)

/-- Where every session of the token has expired, `SessionIdentity` finds nothing. -/
theorem sessionIdentity_none {d : Database} {h : String} {now : Int64}
    (hdead : ∀ k s, d.sessions.lookup k = some s → s.tokenHash = h → ¬now < s.expiresAtMs) :
    d.sessionIdentity h now = none := by
  cases hx : d.sessionIdentity h now with
  | none => rfl
  | some x =>
      obtain ⟨k, s, u, hk, htoken, hlive, -⟩ := sessionIdentity_some hx
      exact absurd hlive (hdead k s hk htoken)

/-- The guest session that answers `GuestIdentity`. -/
theorem guestIdentity_some {d : Database} {h : String} {now : Int64} {x : Identity × String}
    (hx : d.guestIdentity h now = some x) :
    ∃ k g, d.guestSessions.lookup k = some g ∧ g.tokenHash = h ∧ now < g.expiresAtMs ∧
      x = (guestIdentityOf k g, g.csrfHash) := by
  obtain ⟨e, hfind, rfl⟩ := Option.map_eq_some_iff.mp hx
  have hmem := List.mem_of_find?_eq_some hfind
  have hlive := List.find?_some hfind
  simp only [Bool.and_eq_true, decide_eq_true_eq] at hlive
  exact ⟨e.1, e.2, AList.mem_entries_iff.mp hmem, hlive.1, hlive.2, rfl⟩

theorem guestIdentity_none_iff {d : Database} {h : String} {now : Int64} :
    d.guestIdentity h now = none ↔
      ∀ k g, d.guestSessions.lookup k = some g → g.tokenHash = h → ¬now < g.expiresAtMs := by
  rw [Database.guestIdentity, Option.map_eq_none_iff, List.find?_eq_none]
  constructor
  · intro hnone k g hg htoken hlive
    exact hnone ⟨k, g⟩ (AList.mem_entries_iff.mpr hg) (by simp [htoken, hlive])
  · rintro hdead ⟨k, g⟩ hmem hlive
    simp only [Bool.and_eq_true, decide_eq_true_eq] at hlive
    exact hdead k g (AList.mem_entries_iff.mp hmem) hlive.1 hlive.2

/-- `last_seen_at_ms` is not read. -/
theorem sessionIdentity_touchSession (d : Database) (h h' : String) (now seen : Int64) :
    (d.touchSession h' seen).sessionIdentity h now = d.sessionIdentity h now := by
  have hrows : (d.touchSession h' seen).sessions.rows = d.sessions.rows.map (fun s =>
      if s.tokenHash = h' then { s with lastSeenAtMs := seen } else s) := by
    simp [Database.touchSession, AList.rows, AList.modify, Function.comp_def]
  rw [Database.sessionIdentity, hrows, List.findSome?_map, Database.sessionIdentity]
  congr 1
  funext s
  simp only [Function.comp_def]
  split <;> rfl

-- ============================================================================
-- Dead credentials
-- ============================================================================

/-- No session with the hash `h`. -/
def SessionGone (h : String) (d : Database) : Prop :=
  ∀ k s, d.sessions.lookup k = some s → s.tokenHash ≠ h

/-- Every guest session with the hash `h` has expired. -/
def GuestExpired (h : String) (now : Int64) (d : Database) : Prop :=
  ∀ k g, d.guestSessions.lookup k = some g → g.tokenHash = h → ¬now < g.expiresAtMs

/-- The statement creates a session or a guest session with a token of the request. -/
def Recreates (s : AuthService) (r : Request) (st : Statement) : Bool :=
  st.newSession.any (fun x => r.session.any (fun t => s.tokenHash t = x.2.tokenHash)) ||
    st.newGuestSession.any (fun x => r.guest.any (fun t => s.tokenHash t = x.2.tokenHash))

/-- A statement is carried out. -/
def applyStatement (d : Database) (st : Statement) : Database := (st.perform d).2

/-- A session that is gone stays gone. -/
theorem sessionGone_perform {s : AuthService} {r : Request} {t : String}
    (ht : r.session = some t) {st : Statement} (hst : Recreates s r st = false) {d : Database}
    (hgone : SessionGone (s.tokenHash t) d) :
    SessionGone (s.tokenHash t) (applyStatement d st) := by
  intro k row hrow
  obtain ⟨hnew, -⟩ | ⟨old, hold, hsame, -⟩ := session_perform hrow
  · intro heq
    rw [Recreates, hnew, ht] at hst
    simp [heq] at hst
  · rw [hsame]
    exact hgone k old hold

/-- A guest session that has expired stays so. -/
theorem guestExpired_perform {s : AuthService} {r : Request} {t : String}
    (ht : r.guest = some t) {st : Statement} (hst : Recreates s r st = false) {d : Database}
    {now : Int64} (hdead : GuestExpired (s.tokenHash t) now d) :
    GuestExpired (s.tokenHash t) now (applyStatement d st) := by
  intro k g hg htoken
  obtain ⟨hnew, -⟩ | hold := guest_perform hg
  · rw [Recreates, hnew, ht] at hst
    simp [htoken] at hst
  · exact hdead k g hold htoken

-- ============================================================================
-- What the credentials of a request are backed by
-- ============================================================================

/-- The UNIQUE constraints, and the foreign key of the sessions. -/
structure Sound (d : Database) : Prop where
  tokens : TokensUnique d
  owner : ∀ k row, d.sessions.lookup k = some row → row.userID ∈ d.users

/-- Every statement keeps the constraints. -/
theorem sound_perform {d : Database} (hd : Sound d) (st : Statement) :
    Sound (applyStatement d st) := by
  refine ⟨⟨?_, ?_⟩, ?_⟩
  · intro k k' row row' hrow hrow' htoken
    obtain ⟨hnew, hmade⟩ | ⟨old, hold, hsame, -⟩ := session_perform hrow
    · obtain ⟨hnew', -⟩ | ⟨old', hold', hsame', -⟩ := session_perform hrow'
      · have hboth := Option.some.inj (hnew.symm.trans hnew')
        exact congrArg Prod.fst hboth
      · have htaken : old'.tokenHash = row.tokenHash := by rw [htoken, hsame']
        exact absurd htaken (hmade.token old' (AList.mem_rows.mpr ⟨k', hold'⟩))
    · obtain ⟨-, hmade'⟩ | ⟨old', hold', hsame', -⟩ := session_perform hrow'
      · have htaken : old.tokenHash = row'.tokenHash := by rw [← htoken, hsame]
        exact absurd htaken (hmade'.token old (AList.mem_rows.mpr ⟨k, hold⟩))
      · apply hd.tokens.session k k' old old' hold hold'
        rw [hsame, hsame'] at htoken
        exact htoken
  · intro k k' g g' hg hg' htoken
    obtain ⟨hnew, hfree⟩ | hold := guest_perform hg
    · obtain ⟨hnew', -⟩ | hold' := guest_perform hg'
      · have hboth := Option.some.inj (hnew.symm.trans hnew')
        exact congrArg Prod.fst hboth
      · exact absurd htoken.symm (hfree g' (AList.mem_rows.mpr ⟨k', hold'⟩))
    · obtain ⟨-, hfree'⟩ | hold' := guest_perform hg'
      · exact absurd htoken (hfree' g (AList.mem_rows.mpr ⟨k, hold⟩))
      · exact hd.tokens.guest k k' g g' hold hold' htoken
  · intro k row hrow
    obtain ⟨-, hmade⟩ | ⟨old, hold, hsame, husers⟩ := session_perform hrow
    · show row.userID ∈ (st.perform d).2.users
      rw [hmade.users]
      exact hmade.user
    · obtain ⟨u, hu⟩ := AList.mem_iff_lookup.mp (hd.owner k old hold)
      rw [hsame]
      exact AList.mem_of_lookup (husers u hu)

/-- Every session with the token of the request, with the user it belongs to, satisfies
    `A`. -/
def Backed (s : AuthService) (r : Request) (A : SessionRow → AccountRow → Prop)
    (d : Database) : Prop :=
  ∀ t, r.session = some t → ∀ k row, d.sessions.lookup k = some row →
    row.tokenHash = s.tokenHash t → ∃ u, d.users.lookup row.userID = some u ∧ A row u

/-- Every guest session with the token of the request satisfies `A`. -/
def GuestBacked (s : AuthService) (r : Request) (A : String → GuestRow → Prop)
    (d : Database) : Prop :=
  ∀ t, r.guest = some t → ∀ k g, d.guestSessions.lookup k = some g →
    g.tokenHash = s.tokenHash t → A k g

theorem Backed.imp {s : AuthService} {r : Request} {A B : SessionRow → AccountRow → Prop}
    {d : Database} (h : Backed s r A d) (himp : ∀ row u, A row u → B row u) :
    Backed s r B d := by
  intro t ht k row hrow htoken
  obtain ⟨u, hu, hA⟩ := h t ht k row hrow htoken
  exact ⟨u, hu, himp row u hA⟩

/-- A statement that creates no session for the request leaves what its sessions are. -/
theorem backed_perform {s : AuthService} {r : Request} {A : SessionRow → AccountRow → Prop}
    (hA : ∀ row u seen, A row u → A { row with lastSeenAtMs := seen } u) {st : Statement}
    (hst : Recreates s r st = false) {d : Database} (h : Backed s r A d) :
    Backed s r A (applyStatement d st) := by
  intro t ht k row hrow htoken
  obtain ⟨hnew, -⟩ | ⟨old, hold, hsame, husers⟩ := session_perform hrow
  · rw [Recreates, hnew, ht] at hst
    simp [htoken] at hst
  · rw [hsame] at htoken ⊢
    obtain ⟨u, hu, hold⟩ := h t ht k old hold htoken
    exact ⟨u, husers u hu, hA old u _ hold⟩

theorem guestBacked_perform {s : AuthService} {r : Request} {A : String → GuestRow → Prop}
    {st : Statement} (hst : Recreates s r st = false) {d : Database}
    (h : GuestBacked s r A d) : GuestBacked s r A (applyStatement d st) := by
  intro t ht k g hg htoken
  obtain ⟨hnew, -⟩ | hold := guest_perform hg
  · rw [Recreates, hnew, ht] at hst
    simp [htoken] at hst
  · exact h t ht k g hold htoken

/-- The session that authenticates a request is the only one with its token. -/
theorem backed_of_sessionOf {s : AuthService} {r : Request} {now : Int64} {d : Database}
    (hd : Sound d) {i : Identity} {csrf : String} (h : s.sessionOf r now d = some (i, csrf)) :
    i.guest = false ∧ Backed s r (fun row u => identityOf row u = i) d := by
  obtain ⟨t, ht, hfound⟩ := Option.bind_eq_some_iff.mp h
  obtain ⟨k, row, u, hk, htoken, -, hu, -, heq⟩ := sessionIdentity_some hfound
  have hi : i = identityOf row u := congrArg Prod.fst heq
  refine ⟨by rw [hi]; rfl, ?_⟩
  intro t' ht' k' row' hk' htoken'
  obtain rfl := Option.some.inj (ht.symm.trans ht')
  obtain rfl := hd.tokens.session k k' row row' hk hk' (htoken.trans htoken'.symm)
  obtain rfl := Option.some.inj (hk.symm.trans hk')
  exact ⟨u, hu, hi.symm⟩

theorem guestBacked_of_guestOf {s : AuthService} {r : Request} {now : Int64} {d : Database}
    (hd : Sound d) {i : Identity} {csrf : String} (h : s.guestOf r now d = some (i, csrf)) :
    i.guest = true ∧ GuestBacked s r (fun k g => guestIdentityOf k g = i) d := by
  obtain ⟨t, ht, hfound⟩ := Option.bind_eq_some_iff.mp h
  obtain ⟨k, g, hk, htoken, -, heq⟩ := guestIdentity_some hfound
  have hi : i = guestIdentityOf k g := congrArg Prod.fst heq
  refine ⟨by rw [hi]; rfl, ?_⟩
  intro t' ht' k' g' hk' htoken'
  obtain rfl := Option.some.inj (ht.symm.trans ht')
  obtain rfl := hd.tokens.guest k k' g g' hk hk' (htoken.trans htoken'.symm)
  obtain rfl := Option.some.inj (hk.symm.trans hk')
  exact hi.symm

/-- The session authenticates nobody at `now` or later. -/
def Dead (now : Int64) (row : SessionRow) (u : AccountRow) : Prop :=
  u.disabled = true ∨ ¬now < row.expiresAtMs

theorem le_max (now t : Int64) : now ≤ max now t := by
  show now ≤ if now ≤ t then t else now
  split
  · assumption
  · exact Int64.le_refl now

theorem Dead.later {now now' : Int64} (hnow : now ≤ now') {row : SessionRow} {u : AccountRow}
    (h : Dead now row u) : Dead now' row u := by
  obtain hdisabled | hexpired := h
  · exact .inl hdisabled
  · exact .inr (fun hlive => hexpired (Int64.lt_of_le_of_lt hnow hlive))

theorem backed_dead_iff {s : AuthService} {r : Request} {now : Int64} {d : Database}
    (hd : Sound d) : s.sessionOf r now d = none ↔ Backed s r (Dead now) d := by
  constructor
  · intro hnone t ht k row hrow htoken
    rw [AuthService.sessionOf, ht, Option.bind_some, Database.sessionIdentity,
      List.findSome?_eq_none_iff] at hnone
    obtain ⟨u, hu⟩ := AList.mem_iff_lookup.mp (hd.owner k row hrow)
    refine ⟨u, hu, ?_⟩
    by_cases hlive : now < row.expiresAtMs
    · have howner := hnone row (AList.mem_rows.mpr ⟨k, hrow⟩)
      rw [Database.sessionOwner, if_pos ⟨htoken, hlive⟩, hu] at howner
      refine .inl ?_
      by_contra henabled
      simp [henabled] at howner
    · exact .inr hlive
  · intro hdead
    cases h : s.sessionOf r now d with
    | none => rfl
    | some x =>
        obtain ⟨t, ht, hfound⟩ := Option.bind_eq_some_iff.mp h
        obtain ⟨k, row, u, hk, htoken, hlive, hu, henabled, -⟩ := sessionIdentity_some hfound
        obtain ⟨u', hu', hrow⟩ := hdead t ht k row hk htoken
        obtain rfl := Option.some.inj (hu.symm.trans hu')
        obtain hdisabled | hexpired := hrow
        · rw [henabled] at hdisabled
          exact absurd hdisabled (by simp)
        · exact absurd hlive hexpired

/-- `touch` is a `TouchSession`, or nothing. -/
theorem touch_eq (s : AuthService) (r : Request) (now : Int64) (d : Database) :
    s.touch r now d = d ∨ ∃ h, s.touch r now d = applyStatement d (.touchSession h now) := by
  rw [AuthService.touch]
  split
  · exact .inr ⟨_, rfl⟩
  · exact .inl rfl

end WatchTogether.Accounts

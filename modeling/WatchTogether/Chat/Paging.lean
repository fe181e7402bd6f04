/-
  WatchTogether.Chat.Paging

  The whole history of a room, requested page by page with the smallest time of a page as the
  next `before`.

  The cursor is a time: it passes over the messages that share it, and 0 is no cursor at all.
-/

import WatchTogether.Chat.Messages
import WatchTogether.Lib.KeysetPaging

namespace WatchTogether.Chat

open KeysetPaging

-- ============================================================================
-- The client
-- ============================================================================

/-- The requests of the member `i` for pages of `n`, from the page at `before` to the first empty
    one, with the smallest `createdAtMs` of each page as the next `before`. -/
def requestPages (order : OrderBy) (t : ChatTable) (i : Identity) (room : String) (n : Nat) :
    Nat → String → Option (List (List ChatMessage))
  | 0, _ => none
  | fuel + 1, before =>
      (messagesHandler order t (some i) (some room) ⟨toString n, before⟩).toOption.bind
        fun page => (page.map (fun m => m.createdAtMs.toInt)).min?.elim (some [])
          fun oldest => (requestPages order t i room n fuel (toString oldest)).map
            (fun ps => page :: ps)

/-- The requests come to an end, and the pages, each put in front of the ones before it, are all
    messages of the room in the order of their times. -/
def HistoryWhole (order : OrderBy) (t : ChatTable) (i : Identity) (room : String) (n : Nat) :
    Prop :=
  ∃ fuel pages, requestPages order t i room n fuel "" = some pages ∧
    pages.reverse.flatten.Perm (t.ofRoom room) ∧
    pages.reverse.flatten.Pairwise (fun m m' => m.createdAtMs ≤ m'.createdAtMs)

/-- The time that messages are ordered by. -/
def time (m : ChatMessage) : Int := m.createdAtMs.toInt

/-- No message is at `2^62` or later, the messages of each time fall into one page of `n` when
    counted from the newest, and the messages at time 0 are not the last ones of a page. -/
structure Pageable (n : Nat) (ms : List ChatMessage) : Prop where
  early : ∀ m ∈ ms, time m < 2 ^ 62
  untorn : Untorn time n ms
  nonzero : ¬Ends time n 0 ms

-- ============================================================================
-- Numbers in the query
-- ============================================================================

theorem le_ofDigitChars (ds : List Char) (n : Nat) : n ≤ Nat.ofDigitChars 10 ds n := by
  induction ds generalizing n with
  | nil => rw [Nat.ofDigitChars_nil]
  | cons c ds ih =>
      rw [Nat.ofDigitChars_cons]
      have hrest := ih (10 * n + (c.toNat - '0'.toNat))
      omega

theorem parseDigits_eq {ds : List Char} (hds : ∀ c ∈ ds, c.isDigit = true) {n : Nat}
    (hfit : Nat.ofDigitChars 10 ds n < 2 ^ 64) :
    parseDigits n ds = some (Nat.ofDigitChars 10 ds n) := by
  induction ds generalizing n with
  | nil => rw [Nat.ofDigitChars_nil, parseDigits]
  | cons c ds ih =>
      obtain ⟨hc, hrest⟩ := List.forall_mem_cons.mp hds
      rw [Nat.ofDigitChars_cons] at hfit ⊢
      have hle := le_ofDigitChars ds (10 * n + (c.toNat - '0'.toNat))
      rw [parseDigits, hc, if_neg (by decide), if_neg (by omega)]
      exact ih hrest hfit

theorem parseUint_toDigits {n : Nat} (hn : n < 2 ^ 64) : parseUint (Nat.toDigits 10 n) = n := by
  have hdigits : ∀ c ∈ Nat.toDigits 10 n, c.isDigit = true := fun c hc =>
    Nat.isDigit_of_mem_toDigits (by decide) (by decide) hc
  have hvalue : Nat.ofDigitChars 10 (Nat.toDigits 10 n) 0 = n := Nat.ofDigitChars_ten_toDigits
  rw [parseUint, if_neg Nat.toDigits_ne_nil, parseDigits_eq hdigits (by rw [hvalue]; exact hn),
    hvalue, Option.getD_some]

theorem parseInt_natCast {n : Nat} (hn : n < 2 ^ 64) :
    parseInt (toString n) = Int64.ofIntClamp n := by
  have hdigit : ∀ c ∈ Nat.toDigits 10 n, c.isDigit = true := fun c hc =>
    Nat.isDigit_of_mem_toDigits (by decide) (by decide) hc
  rw [parseInt, Nat.toString_eq_ofList_toDigits, String.toList_ofList]
  split
  · next ds heq =>
      have h := hdigit '-' (by rw [heq]; exact List.mem_cons_self)
      exact absurd h (by decide)
  · next ds heq =>
      have h := hdigit '+' (by rw [heq]; exact List.mem_cons_self)
      exact absurd h (by decide)
  · rw [parseUint_toDigits hn]

/-- A time that a page shows is read back from the query. -/
theorem parseInt_toString (k : Int64) : parseInt (toString k.toInt) = k := by
  have hlo := Int64.le_toInt k
  have hhi := Int64.toInt_lt k
  have hback : Int64.ofIntClamp k.toInt = k := by
    apply Int64.toInt_inj.mp
    exact Int64.toInt_ofIntClamp (Int64.minValue_le_toInt k) (Int64.toInt_le k)
  rcases hk : k.toInt with n | n
  · have hfit : n < 2 ^ 64 := by
      rw [hk, Int.ofNat_eq_natCast] at hhi
      omega
    rw [hk] at hback
    exact (parseInt_natCast hfit).trans hback
  · have hfit : n + 1 < 2 ^ 64 := by
      rw [hk, Int.negSucc_eq] at hlo
      omega
    have htext : toString (Int.negSucc n) = "-" ++ toString (n + 1) := rfl
    have hlist : (toString (Int.negSucc n)).toList = '-' :: Nat.toDigits 10 (n + 1) := by
      have hdigits : (toString (n + 1)).toList = Nat.toDigits 10 (n + 1) := by
        rw [Nat.toString_eq_ofList_toDigits, String.toList_ofList]
      rw [htext, String.toList_append, hdigits]
      rfl
    have hneg : -((n + 1 : Nat) : Int) = Int.negSucc n := rfl
    rw [parseInt, hlist]
    simp only
    rw [parseUint_toDigits hfit, hneg, ← hk, hback]

-- ============================================================================
-- One page
-- ============================================================================

/-- The message of a row, as `Scan` reads it. -/
def ofRow (room : String) (r : ChatRow) : ChatMessage :=
  (r.scan room).getD ⟨r.id, room, "", r.senderNickname, false, r.content, r.mediaPositionMs,
    r.createdAtMs⟩

theorem ofRow_saveRow {room : String} {m : ChatMessage} (h : m.roomID = room) :
    ofRow room (saveRow m) = m := by
  rw [ofRow, ← h, scan_saveRow, Option.getD_some]

theorem bound_zero : (bound 0).toInt = 2 ^ 62 := by decide

theorem bound_of_ne {before : Int64} (h : before ≠ 0) : bound before = before := if_neg h

/-- The messages of the room before a cursor. -/
def messagesBelow (t : ChatTable) (room : String) (before : Int64) : List ChatMessage :=
  below time (bound before).toInt (t.ofRoom room)

/-- The page at a cursor, newest message first. -/
def pageAt (order : OrderBy) (t : ChatTable) (room : String) (n : Nat) (before : Int64) :
    List ChatMessage :=
  ((order.sort room (bound before) (Int64.ofNat n)
    ((messagesBelow t room before).map saveRow)).take n).map (ofRow room)

section

variable {order : OrderBy} {t : ChatTable} {i : Identity} {room : String} {n : Nat}

theorem roomID_of_mem_below {before : Int64} {m : ChatMessage}
    (h : m ∈ messagesBelow t room before) : m.roomID = room := by
  have hroom := (mem_below.mp h).1
  exact of_decide_eq_true (List.mem_filter.mp hroom).2

/-- The rows that the query finds are those of the messages before the cursor. -/
theorem found_rows (t : ChatTable) (room : String) (before : Int64) :
    found t room (bound before) = (messagesBelow t room before).map saveRow := by
  rw [found, ChatTable.rows, List.filter_map, messagesBelow, below, ChatTable.ofRoom, List.filter_filter]
  congr 1
  apply List.filter_congr
  intro m _
  have htime : (m.createdAtMs < bound before) = (time m < (bound before).toInt) :=
    propext Int64.lt_iff_toInt_lt
  change (decide (m.roomID = room) && decide (m.createdAtMs < bound before)) = _
  rw [Bool.and_comm]
  simp only [htime]

theorem isPage_pageAt (order : OrderBy) (t : ChatTable) (room : String) (n : Nat)
    (before : Int64) :
    IsPage time n (messagesBelow t room before) (pageAt order t room n before) := by
  have hperm := order.perm room (bound before) (Int64.ofNat n)
    ((messagesBelow t room before).map saveRow)
  have hdesc := order.desc room (bound before) (Int64.ofNat n)
    ((messagesBelow t room before).map saveRow)
  have hback : ((messagesBelow t room before).map saveRow).map (ofRow room) =
      messagesBelow t room before := by
    rw [List.map_map]
    exact (List.map_congr_left (fun m hm => ofRow_saveRow (roomID_of_mem_below hm))).trans
      (List.map_id _)
  have htime : ∀ r : ChatRow, time (ofRow room r) = r.createdAtMs.toInt := by
    intro r
    rw [ofRow, ChatRow.scan]
    cases r.senderUserID.or r.senderGuestID
    · rfl
    · rfl
  unfold pageAt
  generalize order.sort room (bound before) (Int64.ofNat n)
    ((messagesBelow t room before).map saveRow) = sorted at hperm hdesc ⊢
  have hall : (sorted.take n).map (ofRow room) ++ (sorted.drop n).map (ofRow room) =
      sorted.map (ofRow room) := by
    rw [← List.map_append, List.take_append_drop]
  refine ⟨(sorted.drop n).map (ofRow room), ?_, ?_, ?_⟩
  · have hmap := hperm.map (ofRow room)
    rw [hback] at hmap
    rw [hall]
    exact hmap
  · rw [hall]
    refine List.pairwise_map.mpr (hdesc.imp (fun h => ?_))
    rw [htime, htime]
    exact h
  · rw [List.length_map, List.length_take, hperm.length_eq, List.length_map]

theorem toInt_pageSize (h100 : n ≤ 100) : (Int64.ofNat n).toInt = n := by
  have hfit : n < 2 ^ 63 := by omega
  exact Int64.toInt_ofNat_of_lt hfit

theorem pageLimit_toString (h1 : 1 ≤ n) (h100 : n ≤ 100) :
    pageLimit (parseInt (toString n)) = Int64.ofNat n := by
  have hvalue := toInt_pageSize h100
  have hparse : parseInt (toString n) = Int64.ofNat n := by
    have h := parseInt_toString (Int64.ofNat n)
    rw [hvalue] at h
    exact h
  have hlow : ¬Int64.ofNat n ≤ 0 := by
    rw [Int64.le_iff_toInt_le, hvalue]
    have hzero : (0 : Int64).toInt = 0 := by decide
    omega
  have hhigh : ¬(100 : Int64) < Int64.ofNat n := by
    rw [Int64.lt_iff_toInt_lt, hvalue]
    have hhundred : (100 : Int64).toInt = 100 := by decide
    omega
  rw [hparse, pageLimit, if_neg hlow, if_neg hhigh]

theorem mapM_scan {rows : List ChatRow} (h : ∀ r ∈ rows, r.scan room = some (ofRow room r)) :
    rows.mapM (ChatRow.scan room) = some (rows.map (ofRow room)) := by
  induction rows with
  | nil => rfl
  | cons r rows ih =>
      obtain ⟨hr, hrows⟩ := List.forall_mem_cons.mp h
      rw [List.mapM_cons, hr, ih hrows]
      rfl

/-- Every row was written by `SaveChat`, so the query has no error. -/
theorem messages_eq (h100 : n ≤ 100) (before : Int64) :
    messages order t room before (Int64.ofNat n) = some (pageAt order t room n before) := by
  have hvalue := toInt_pageSize h100
  have hlimit : ¬Int64.ofNat n < 0 := by
    rw [Int64.lt_iff_toInt_lt, hvalue]
    have hzero : (0 : Int64).toInt = 0 := by decide
    omega
  have hperm := order.perm room (bound before) (Int64.ofNat n)
    ((messagesBelow t room before).map saveRow)
  rw [messages, found_rows, if_neg hlimit, hvalue, Int.toNat_natCast, pageAt]
  apply mapM_scan
  intro r hr
  obtain ⟨m, hm, rfl⟩ := List.mem_map.mp (hperm.mem_iff.mp (List.mem_of_mem_take hr))
  have hroom := roomID_of_mem_below hm
  rw [ofRow_saveRow hroom, ← hroom, scan_saveRow]

/-- The answer to a request of the member is the page at its cursor, oldest message first. -/
theorem messagesHandler_eq (h1 : 1 ≤ n) (h100 : n ≤ 100) (before : String) :
    messagesHandler order t (some i) (some room) ⟨toString n, before⟩ =
      .ok (pageAt order t room n (parseInt before)).reverse := by
  have hread : messages order t room (parseInt before) (pageLimit (parseInt (toString n))) =
      some (pageAt order t room n (parseInt before)) := by
    rw [pageLimit_toString h1 h100]
    exact messages_eq h100 _
  rw [messagesHandler, hread]
  rfl

/-- The smallest time of a page is that of its last message from the newest on. -/
theorem min_times {p : List ChatMessage} (h : p.Pairwise (fun m m' => time m' ≤ time m)) :
    (p.reverse.map (fun m => m.createdAtMs.toInt)).min? = p.getLast?.map time := by
  rcases hlast : p.getLast? with _ | o
  · rw [List.getLast?_eq_none_iff.mp hlast]
    rfl
  · obtain ⟨q, rfl⟩ := List.getLast?_eq_some_iff.mp hlast
    rw [Option.map_some, List.min?_eq_some_iff]
    refine ⟨List.mem_map.mpr ⟨o, by simp, rfl⟩, fun b hb => ?_⟩
    obtain ⟨m, hm, rfl⟩ := List.mem_map.mp hb
    rcases List.mem_append.mp (List.mem_reverse.mp hm) with hm | hm
    · exact (List.pairwise_append.mp h).2.2 m hm o List.mem_cons_self
    · rw [List.mem_singleton.mp hm]
      exact le_refl _

-- ============================================================================
-- The run of requests
-- ============================================================================

theorem requestPages_succ (h1 : 1 ≤ n) (h100 : n ≤ 100) (fuel : Nat) (before : String) :
    requestPages order t i room n (fuel + 1) before =
      (pageAt order t room n (parseInt before)).getLast?.elim (some []) fun o =>
        (requestPages order t i room n fuel (toString (time o))).map
          (fun ps => (pageAt order t room n (parseInt before)).reverse :: ps) := by
  have hmin := min_times (isPage_pageAt order t room n (parseInt before)).sorted
  rw [requestPages, messagesHandler_eq h1 h100]
  change ((pageAt order t room n (parseInt before)).reverse.map _).min?.elim _ _ = _
  rw [hmin]
  cases (pageAt order t room n (parseInt before)).getLast?
  · rfl
  · rfl

/-- One request of a run that ends. -/
theorem requestPages_some (h1 : 1 ≤ n) (h100 : n ≤ 100) {fuel : Nat} {before : String}
    {ps : List (List ChatMessage)} (h : requestPages order t i room n fuel before = some ps) :
    ∃ f, fuel = f + 1 ∧
      ((pageAt order t room n (parseInt before) = [] ∧ ps = []) ∨
        ∃ o rest, (pageAt order t room n (parseInt before)).getLast? = some o ∧
          requestPages order t i room n f (toString (time o)) = some rest ∧
          ps = (pageAt order t room n (parseInt before)).reverse :: rest) := by
  cases fuel with
  | zero => cases h
  | succ f =>
      refine ⟨f, rfl, ?_⟩
      rw [requestPages_succ h1 h100] at h
      rcases hlast : (pageAt order t room n (parseInt before)).getLast? with _ | o
      · rw [hlast] at h
        cases h
        exact Or.inl ⟨List.getLast?_eq_none_iff.mp hlast, rfl⟩
      · rw [hlast] at h
        obtain ⟨rest, hrest, rfl⟩ := Option.map_eq_some_iff.mp h
        exact Or.inr ⟨o, rest, rfl, hrest, rfl⟩

/-- More fuel changes nothing. -/
theorem requestPages_mono (h1 : 1 ≤ n) (h100 : n ≤ 100) {fuel fuel' : Nat} {before : String}
    {ps : List (List ChatMessage)} (h : requestPages order t i room n fuel before = some ps)
    (hle : fuel ≤ fuel') : requestPages order t i room n fuel' before = some ps := by
  induction fuel generalizing before ps fuel' with
  | zero => cases h
  | succ f ih =>
      obtain ⟨f', rfl⟩ : ∃ f', fuel' = f' + 1 := ⟨fuel' - 1, by omega⟩
      rw [requestPages_succ h1 h100] at h ⊢
      cases hlast : (pageAt order t room n (parseInt before)).getLast? with
      | none =>
          rw [hlast] at h
          exact h
      | some o =>
          rw [hlast] at h
          obtain ⟨rest, hrest, hps⟩ := Option.map_eq_some_iff.mp h
          exact Option.map_eq_some_iff.mpr ⟨rest, ih hrest (by omega), hps⟩

/-- A page whose smallest time is 0 is followed by the run from the newest page. -/
theorem restarts (h1 : 1 ≤ n) (h100 : n ≤ 100) {fuel : Nat} {before : String}
    {ps : List (List ChatMessage)} (h : requestPages order t i room n fuel before = some ps)
    {p : List ChatMessage} (hp : p ∈ ps) {o : ChatMessage} (ho : p.reverse.getLast? = some o)
    (hzero : time o = 0) :
    ∃ f rest, f ≤ fuel ∧ requestPages order t i room n f (toString (0 : Int)) = some rest ∧
      rest.length < ps.length := by
  induction fuel generalizing before ps with
  | zero => cases h
  | succ f ih =>
      obtain ⟨f', hf, ⟨-, rfl⟩ | ⟨o', rest, ho', hrest, rfl⟩⟩ := requestPages_some h1 h100 h
      · exact absurd hp List.not_mem_nil
      · cases hf
        rcases List.mem_cons.mp hp with rfl | hp
        · rw [List.reverse_reverse, ho'] at ho
          cases ho
          rw [hzero] at hrest
          exact ⟨f, rest, by omega, hrest, Nat.lt_succ_self _⟩
        · obtain ⟨g, rest', hg, hrun, hlt⟩ := ih hrest hp
          exact ⟨g, rest', by omega, hrun, Nat.lt_succ_of_lt hlt⟩

/-- No page of a run that ends has the smallest time 0. -/
theorem last_ne_zero (h1 : 1 ≤ n) (h100 : n ≤ 100) {fuel : Nat} {ps : List (List ChatMessage)}
    (h : requestPages order t i room n fuel "" = some ps) {p : List ChatMessage} (hp : p ∈ ps)
    {o : ChatMessage} (ho : p.reverse.getLast? = some o) : time o ≠ 0 := by
  intro hzero
  obtain ⟨f, rest, hf, hrun, hlt⟩ := restarts h1 h100 h hp ho hzero
  -- an absent parameter and 0 are the same cursor
  have hsame : requestPages order t i room n f "" = some rest := by
    cases f with
    | zero => cases hrun
    | succ f =>
        have hcursor : parseInt "" = parseInt (toString (0 : Int)) := by decide
        rw [requestPages_succ h1 h100] at hrun ⊢
        rw [hcursor]
        exact hrun
  have heq := (requestPages_mono h1 h100 hsame hf).symm.trans h
  cases heq
  exact absurd hlt (Nat.lt_irrefl _)

/-- Below the last message of a page: the cursor that it makes. -/
theorem messagesBelow_last {before : Int64} {o : ChatMessage}
    (ho : (pageAt order t room n before).getLast? = some o) (hzero : time o ≠ 0) :
    messagesBelow t room (parseInt (toString (time o))) =
      below time (time o) (messagesBelow t room before) := by
  obtain ⟨rest, hcut⟩ := (isPage_pageAt order t room n before).cut ho
  have hlt : time o < (bound before).toInt :=
    (mem_below.mp (hcut.perm.mem_iff.mp (List.mem_append_left _ hcut.last))).2
  have hne : o.createdAtMs ≠ 0 := by
    intro h
    rw [time, h] at hzero
    exact hzero (by decide)
  have hcursor : parseInt (toString (time o)) = o.createdAtMs := parseInt_toString o.createdAtMs
  rw [hcursor, messagesBelow, bound_of_ne hne, messagesBelow, below, below, below,
    List.filter_filter]
  apply List.filter_congr
  intro m _
  change decide (time m < time o) = _
  by_cases hm : time m < time o
  · have hbefore : time m < (bound before).toInt := hm.trans hlt
    simp only [hm, hbefore, decide_true, Bool.and_true]
  · simp only [hm, decide_false, Bool.false_and]

/-- A run that ends without a cursor 0 reads keyset pages. -/
theorem pages_of_run (h1 : 1 ≤ n) (h100 : n ≤ 100) {fuel : Nat} {before : String}
    {ps : List (List ChatMessage)} (h : requestPages order t i room n fuel before = some ps)
    (hzero : ∀ p ∈ ps, ∀ o, p.reverse.getLast? = some o → time o ≠ 0) :
    Pages time n (messagesBelow t room (parseInt before)) (ps.map List.reverse) := by
  induction fuel generalizing before ps with
  | zero => cases h
  | succ f ih =>
      have hpage := isPage_pageAt order t room n (parseInt before)
      obtain ⟨f', hf, ⟨hnil, rfl⟩ | ⟨o, rest, ho, hrest, rfl⟩⟩ := requestPages_some h1 h100 h
      · rw [(hpage.nil_iff h1).mp hnil]
        exact Pages.done
      · cases hf
        obtain ⟨hfirst, hlater⟩ := List.forall_mem_cons.mp hzero
        rw [List.reverse_reverse] at hfirst
        have hbelow := ih hrest hlater
        rw [messagesBelow_last ho (hfirst o ho)] at hbelow
        rw [List.map_cons, List.reverse_reverse]
        exact Pages.more hpage ho hbelow

/-- The requests come to an end when no time is torn and 0 does not end a page. -/
theorem run_ends (h1 : 1 ≤ n) (h100 : n ≤ 100) {before : String}
    (hu : Untorn time n (messagesBelow t room (parseInt before)))
    (hz : ¬Ends time n 0 (messagesBelow t room (parseInt before))) :
    ∃ fuel ps, requestPages order t i room n fuel before = some ps := by
  induction hN : (messagesBelow t room (parseInt before)).length using Nat.strong_induction_on
    generalizing before with
  | _ N ih =>
      rcases hlast : (pageAt order t room n (parseInt before)).getLast? with _ | o
      · refine ⟨1, [], ?_⟩
        rw [requestPages_succ h1 h100, hlast, Option.elim_none]
      · obtain ⟨rest, hcut⟩ := (isPage_pageAt order t room n (parseInt before)).cut hlast
        obtain ⟨hlow, hbelow⟩ := (hcut.untorn_iff h1).mp hu
        have hends := mt (hcut.ends_iff hlow).mpr hz
        rw [not_or] at hends
        have hcursor := messagesBelow_last hlast hends.1
        have hfewer : (messagesBelow t room (parseInt (toString (time o)))).length < N := by
          have hpos := List.length_pos_of_mem hcut.last
          rw [hcursor, (hcut.rest_perm hlow).length_eq, ← hN, hcut.length_eq]
          omega
        rw [← hcursor] at hbelow hends
        obtain ⟨fuel, ps, hrun⟩ := ih _ hfewer hbelow hends.2 rfl
        refine ⟨fuel + 1, (pageAt order t room n (parseInt before)).reverse :: ps, ?_⟩
        rw [requestPages_succ h1 h100, hlast]
        exact Option.map_eq_some_iff.mpr ⟨ps, hrun, rfl⟩

/-- Without a cursor the requests start below `2^62`. -/
theorem messagesBelow_start (t : ChatTable) (room : String) :
    messagesBelow t room (parseInt "") = below time (2 ^ 62) (t.ofRoom room) := by
  have hcursor : parseInt "" = 0 := by decide
  rw [messagesBelow, hcursor, bound_zero]

theorem below_eq_self {ms : List ChatMessage} (h : ∀ m ∈ ms, time m < 2 ^ 62) :
    below time (2 ^ 62) ms = ms :=
  List.filter_eq_self.mpr (fun m hm => decide_eq_true (h m hm))

/-- Each page in front of the ones before it: the messages from the newest on, reversed. -/
theorem flatten_pages (ps : List (List ChatMessage)) :
    (ps.map List.reverse).flatten.reverse = ps.reverse.flatten := by
  rw [List.reverse_flatten, List.map_map]
  have hid : List.reverse ∘ (List.reverse : List ChatMessage → List ChatMessage) = id := by
    funext p
    exact List.reverse_reverse p
  rw [hid, List.map_id]

/-- Paging yields every message once and in order exactly for messages that can be paged. -/
theorem history_whole_iff (order : OrderBy) (t : ChatTable) (i : Identity) (room : String)
    (n : Nat) (h1 : 1 ≤ n) (h100 : n ≤ 100) :
    HistoryWhole order t i room n ↔ Pageable n (t.ofRoom room) := by
  constructor
  · rintro ⟨fuel, ps, hrun, hperm, -⟩
    have hne : ∀ p ∈ ps, ∀ o, p.reverse.getLast? = some o → time o ≠ 0 :=
      fun p hp o ho => last_ne_zero h1 h100 hrun hp ho
    have hpages := pages_of_run h1 h100 hrun hne
    rw [messagesBelow_start] at hpages
    have hall : (ps.map List.reverse).flatten.Perm (t.ofRoom room) := by
      rw [← flatten_pages] at hperm
      exact (List.reverse_perm _).symm.trans hperm
    have hearly : ∀ m ∈ t.ofRoom room, time m < 2 ^ 62 := fun m hm =>
      (mem_below.mp (hpages.subperm.subset (hall.mem_iff.mpr hm))).2
    rw [below_eq_self hearly] at hpages
    have hu := (hpages.perm_iff h1).mp hall
    refine ⟨hearly, hu, fun hends => ?_⟩
    obtain ⟨q, hq, o, ho, hzero⟩ := (hpages.ends_iff h1 hu).mp hends
    obtain ⟨p, hp, rfl⟩ := List.mem_map.mp hq
    exact hne p hp o ho hzero
  · rintro ⟨hearly, hu, hz⟩
    have hstart : messagesBelow t room (parseInt "") = t.ofRoom room := by
      rw [messagesBelow_start, below_eq_self hearly]
    obtain ⟨fuel, ps, hrun⟩ := run_ends h1 h100 (hstart ▸ hu) (hstart ▸ hz)
    have hpages := pages_of_run h1 h100 hrun (fun p hp o ho => last_ne_zero h1 h100 hrun hp ho)
    rw [hstart] at hpages
    refine ⟨fuel, ps, hrun, ?_, ?_⟩
    · rw [← flatten_pages]
      exact (List.reverse_perm _).trans ((hpages.perm_iff h1).mpr hu)
    · rw [← flatten_pages]
      refine List.pairwise_reverse.mpr (hpages.sorted.imp (fun h => ?_))
      exact Int64.le_iff_toInt_le.mpr h

end

-- ============================================================================
-- Two messages
-- ============================================================================

/-- The user who reads the history. -/
def viewer : Identity := ⟨.USER, "ann", "ann", "Ann", "", false⟩

/-- A message of this time. -/
def chatAt (id : String) (createdAtMs : Int64) : ChatMessage :=
  ⟨id, "r", "ann", "Ann", false, "hi", none, createdAtMs⟩

/-- Two messages at different times. -/
def spaced : ChatTable := ⟨[chatAt "a" 1000, chatAt "b" 1001], by decide⟩

/-- Two messages at one time. -/
def tied : ChatTable := ⟨[chatAt "a" 1000, chatAt "b" 1000], by decide⟩

theorem history_whole_spaced : HistoryWhole byIndex spaced viewer "r" 1 := by
  refine (history_whole_iff byIndex spaced viewer "r" 1 (by decide) (by decide)).mpr ?_
  refine ⟨by decide, ?_, ?_⟩
  · unfold Untorn
    decide
  · unfold Ends
    decide

/-- Two messages of one millisecond in pages of one: the second is never shown. -/
theorem history_loses_tied : ¬HistoryWhole byIndex tied viewer "r" 1 := by
  rintro ⟨fuel, pages, hrun, hperm, -⟩
  have hknown : requestPages byIndex tied viewer "r" 1 2 "" = some [[chatAt "b" 1000]] := by
    decide +kernel
  have hpages : pages = [[chatAt "b" 1000]] := by
    have h := requestPages_mono (by decide) (by decide) hrun (Nat.le_add_right fuel 2)
    have h' := requestPages_mono (by decide) (by decide) hknown (Nat.le_add_left 2 fuel)
    exact Option.some_inj.mp (h.symm.trans h')
  rw [hpages] at hperm
  exact absurd hperm.length_eq (by decide)

end WatchTogether.Chat

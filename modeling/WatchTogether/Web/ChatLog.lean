/-
  WatchTogether.Web.ChatLog

  The list of messages of `RoomPage`, written by the answer to its history request and by the
  live deliveries.

  The answer is merged by id; a live message is appended when the `RoomBroadcastStream` has not
  received its id before, and the stream knows nothing of the answer.
-/

import Mathlib.Data.Finset.Card
import Mathlib.Data.Finset.Dedup
import WatchTogether.Chat.Paging
import WatchTogether.Lib.LabelledRun

namespace WatchTogether.Web

open Chat LabelledRun

-- ============================================================================
-- The page
-- ============================================================================

/-- `RECENT_IDS_LIMIT`. -/
def recentIDsLimit : Nat := 4096

/-- `items.slice(-n)`. -/
@[irreducible] def sliceLast {α : Type} (n : Nat) (items : List α) : List α := items.drop (items.length - n)

/-- `RoomBroadcastStream.receive`, on the ids in `seen` in the order of their insertion: whether
    the message is new, and the ids then. -/
def receiveID (seen : List String) (id : String) : Bool × List String :=
  if id ∈ seen then (false, seen)
  else
    let seen := seen ++ [id]
    (true, if recentIDsLimit < seen.length then seen.tail else seen)

/-- `merged.set(message.id, message)`: an id that is there keeps its place. -/
def setMessage (merged : List ChatMessage) (m : ChatMessage) : List ChatMessage :=
  if m.id ∈ merged.map (fun x => x.id) then merged.map (fun x => if x.id = m.id then m else x)
  else merged ++ [m]

/-- What the page keeps of the chat: the state `messages` and the stream's `seen`. -/
structure ChatPage where
  messages : List ChatMessage
  seen : List String
deriving DecidableEq

/-- The values of the map filled from the answer and then from the list, in order of time. -/
def mergeByID (history current : List ChatMessage) : List ChatMessage :=
  (current.foldl setMessage (history.foldl setMessage [])).insertionSort
    (fun a b => a.createdAtMs.toInt ≤ b.createdAtMs.toInt)

/-- The answer to the history request arrives. -/
def ChatPage.mergeHistory (p : ChatPage) (history : List ChatMessage) : ChatPage :=
  { p with messages := sliceLast 300 (mergeByID history p.messages) }

/-- An `event.chat.message` arrives. -/
def ChatPage.receive (p : ChatPage) (m : ChatMessage) : ChatPage :=
  let received := receiveID p.seen m.id
  { messages := if received.1 then sliceLast 300 (p.messages ++ [m]) else p.messages,
    seen := received.2 }

-- ============================================================================
-- A visit
-- ============================================================================

/-- The table of the server, the answers on their way to the page, the page, and every message
    that has reached it. -/
structure Visit where
  table : ChatTable
  answers : List (List ChatMessage)
  page : ChatPage
  known : List ChatMessage

/-- The page is opened on a room. -/
def Visit.start (t : ChatTable) : Visit := ⟨t, [], ⟨[], []⟩, []⟩

/-- What reaches the log of the chat. -/
inductive ChatEvent where
  /-- `Service.Send` saves the message; its broadcast is delivered at any time after that. -/
  | send (m : ChatMessage)
  /-- The server answers the history request. -/
  | query
  /-- The answer with this number arrives. -/
  | history (k : Nat)
  /-- A live delivery of a saved message of the room, for the first time or again. -/
  | live (m : ChatMessage)

/-- One event, on the page of the member `i` in the room. -/
def Visit.step (order : OrderBy) (i : Identity) (room : String) (s : Visit) : ChatEvent → Visit
  | .send m =>
      match saveChat m s.table with
      | .error _ => s
      | .ok t => { s with table := t }
  | .query =>
      match messagesHandler order s.table (some i) (some room) ⟨"", ""⟩ with
      | .error _ => s
      | .ok list => { s with answers := s.answers ++ [list] }
  | .history k =>
      match s.answers[k]? with
      | none => s
      | some list =>
          { s with answers := s.answers.eraseIdx k, page := s.page.mergeHistory list,
                   known := s.known ++ list }
  | .live m =>
      if m ∈ s.table.ofRoom room then
        { s with page := s.page.receive m, known := s.known ++ [m] }
      else s

/-- No id is shown twice, and of at most 300 known messages all are shown. -/
def LogWhole (s : Visit) : Prop :=
  (s.page.messages.map (fun m => m.id)).Nodup ∧
    (s.known.toFinset.card ≤ 300 → ∀ m ∈ s.known, m ∈ s.page.messages)

/-- A live message that the stream has not received is not among the last 299 of the list. -/
def NewToLog (room : String) (s : Visit) : ChatEvent → Prop
  | .live m => m ∈ s.table.ofRoom room → m.id ∉ s.page.seen →
      m.id ∉ (sliceLast 299 s.page.messages).map (fun x => x.id)
  | _ => True

-- ============================================================================
-- Lists of messages
-- ============================================================================

/-- A saved message is known by its id. -/
theorem eq_of_id {t : ChatTable} {room : String} {m m' : ChatMessage} (h : m ∈ t.ofRoom room)
    (h' : m' ∈ t.ofRoom room) (hid : m.id = m'.id) : m = m' :=
  List.inj_on_of_nodup_map t.primaryKey (List.mem_of_mem_filter h) (List.mem_of_mem_filter h') hid

theorem map_id_setMessage (merged : List ChatMessage) (m : ChatMessage) :
    (setMessage merged m).map (fun x => x.id) =
      if m.id ∈ merged.map (fun x => x.id) then merged.map (fun x => x.id)
      else merged.map (fun x => x.id) ++ [m.id] := by
  rw [setMessage]
  split
  · rw [List.map_map]
    apply List.map_congr_left
    intro x _
    change (if x.id = m.id then m else x).id = x.id
    split
    · next heq => exact heq.symm
    · rfl
  · rw [List.map_append]
    rfl

theorem nodup_setMessage {merged : List ChatMessage} (m : ChatMessage)
    (h : (merged.map (fun x => x.id)).Nodup) :
    ((setMessage merged m).map (fun x => x.id)).Nodup := by
  rw [map_id_setMessage]
  split
  · exact h
  · next hnew => exact List.nodup_append.mpr ⟨h, List.nodup_singleton _, fun x hx y hy heq =>
      hnew ((List.mem_singleton.mp hy) ▸ heq ▸ hx)⟩

/-- A map filled from a list has every id once, whatever the list. -/
theorem nodup_foldl_setMessage {merged : List ChatMessage} (ms : List ChatMessage)
    (h : (merged.map (fun x => x.id)).Nodup) :
    ((ms.foldl setMessage merged).map (fun x => x.id)).Nodup := by
  induction ms generalizing merged with
  | nil => exact h
  | cons m ms ih => exact ih (nodup_setMessage m h)

/-- Among saved messages, `set` adds the message. -/
theorem mem_setMessage {t : ChatTable} {room : String} {merged : List ChatMessage}
    {m x : ChatMessage} (hmerged : ∀ y ∈ merged, y ∈ t.ofRoom room) (hm : m ∈ t.ofRoom room) :
    x ∈ setMessage merged m ↔ x ∈ merged ∨ x = m := by
  rw [setMessage]
  split
  · next hid =>
      obtain ⟨y, hy, hym⟩ := List.mem_map.mp hid
      have heq : y = m := eq_of_id (hmerged y hy) hm hym
      have hself : merged.map (fun x => if x.id = m.id then m else x) = merged := by
        refine (List.map_congr_left (fun z hz => ?_)).trans (List.map_id merged)
        change (if z.id = m.id then m else z) = z
        split
        · next hz' => exact (eq_of_id (hmerged z hz) hm hz').symm
        · rfl
      rw [hself]
      constructor
      · exact Or.inl
      · rintro (hx | rfl)
        · exact hx
        · exact heq ▸ hy
  · rw [List.mem_append, List.mem_singleton]

theorem mem_foldl_setMessage {t : ChatTable} {room : String} {merged ms : List ChatMessage}
    {x : ChatMessage} (hmerged : ∀ y ∈ merged, y ∈ t.ofRoom room)
    (hms : ∀ y ∈ ms, y ∈ t.ofRoom room) :
    x ∈ ms.foldl setMessage merged ↔ x ∈ merged ∨ x ∈ ms := by
  induction ms generalizing merged with
  | nil => simp
  | cons m ms ih =>
      obtain ⟨hm, hrest⟩ := List.forall_mem_cons.mp hms
      have hset : ∀ y ∈ setMessage merged m, y ∈ t.ofRoom room := by
        intro y hy
        rcases (mem_setMessage hmerged hm).mp hy with hy | rfl
        · exact hmerged y hy
        · exact hm
      rw [List.foldl_cons, ih hset hrest, mem_setMessage hmerged hm, List.mem_cons, or_assoc]

theorem sliceLast_sublist {α : Type} (n : Nat) (items : List α) :
    (sliceLast n items).Sublist items := by
  rw [sliceLast]
  exact List.drop_sublist _ _

theorem sliceLast_eq_self {α : Type} {n : Nat} {items : List α} (h : items.length ≤ n) :
    sliceLast n items = items := by
  rw [sliceLast, Nat.sub_eq_zero_of_le h, List.drop_zero]

theorem sliceLast_snoc {α : Type} (n : Nat) (items : List α) (x : α) :
    sliceLast (n + 1) (items ++ [x]) = sliceLast n items ++ [x] := by
  have hlen : (items ++ [x]).length - (n + 1) = items.length - n := by
    rw [List.length_append, List.length_singleton]
    omega
  rw [sliceLast, hlen, List.drop_append_of_le_length (Nat.sub_le _ _), sliceLast]

/-- Different messages are no more than the known ones. -/
theorem length_le_card {ms known : List ChatMessage} (h : ms.Nodup) (hsub : ∀ m ∈ ms, m ∈ known) :
    ms.length ≤ known.toFinset.card := by
  rw [← List.toFinset_card_of_nodup h]
  exact Finset.card_le_card (fun m hm => List.mem_toFinset.mpr (hsub m (List.mem_toFinset.mp hm)))

theorem card_le_append (xs ys : List ChatMessage) :
    xs.toFinset.card ≤ (xs ++ ys).toFinset.card :=
  Finset.card_le_card (fun _ hm => List.mem_toFinset.mpr
    (List.mem_append_left _ (List.mem_toFinset.mp hm)))

-- ============================================================================
-- One event
-- ============================================================================

section

variable {t : ChatTable} {room : String} {known : List ChatMessage} {p : ChatPage}

theorem nodup_mergeByID (history current : List ChatMessage) :
    ((mergeByID history current).map (fun m => m.id)).Nodup :=
  ((List.perm_insertionSort _ _).map _).nodup_iff.mpr
    (nodup_foldl_setMessage _ (nodup_foldl_setMessage _ List.nodup_nil))

theorem mem_mergeByID {history current : List ChatMessage} (hh : ∀ m ∈ history, m ∈ t.ofRoom room)
    (hc : ∀ m ∈ current, m ∈ t.ofRoom room) {m : ChatMessage} :
    m ∈ mergeByID history current ↔ m ∈ current ∨ m ∈ history := by
  have hnil : ∀ y ∈ ([] : List ChatMessage), y ∈ t.ofRoom room := fun y hy =>
    absurd hy List.not_mem_nil
  have hfirst : ∀ y, y ∈ history.foldl setMessage [] ↔ y ∈ history := fun y => by
    rw [mem_foldl_setMessage hnil hh]
    exact or_iff_right List.not_mem_nil
  rw [mergeByID, List.mem_insertionSort,
    mem_foldl_setMessage (fun y hy => hh y ((hfirst y).mp hy)) hc, hfirst, or_comm]

theorem mergeHistory_sublist (p : ChatPage) (history : List ChatMessage) :
    (p.mergeHistory history).messages.Sublist (mergeByID history p.messages) := by
  rw [ChatPage.mergeHistory]
  exact sliceLast_sublist _ _

/-- No more than 300 known messages are all kept by the merge. -/
theorem mergeHistory_whole {history : List ChatMessage} (hh : ∀ m ∈ history, m ∈ t.ofRoom room)
    (hp : ∀ m ∈ p.messages, m ∈ t.ofRoom room) (hsub : ∀ m ∈ p.messages, m ∈ known)
    (hcard : (known ++ history).toFinset.card ≤ 300) :
    ∀ m, m ∈ p.messages ∨ m ∈ history → m ∈ (p.mergeHistory history).messages := by
  intro m hm
  have hknown : ∀ y ∈ mergeByID history p.messages, y ∈ known ++ history := by
    intro y hy
    rcases (mem_mergeByID hh hp).mp hy with hy | hy
    · exact List.mem_append_left _ (hsub y hy)
    · exact List.mem_append_right _ hy
  have hlen := Nat.le_trans (length_le_card (List.Nodup.of_map _ (nodup_mergeByID _ _)) hknown) hcard
  rw [ChatPage.mergeHistory, sliceLast_eq_self hlen]
  exact (mem_mergeByID hh hp).mpr hm

/-- A message that the stream has received leaves the page as it was. -/
theorem receive_of_seen {m : ChatMessage} (h : m.id ∈ p.seen) : p.receive m = p := by
  have hid : receiveID p.seen m.id = (false, p.seen) := if_pos h
  rw [ChatPage.receive, hid]
  rfl

/-- A message that the stream has not received is appended. -/
theorem receive_messages {m : ChatMessage} (h : m.id ∉ p.seen) :
    (p.receive m).messages = sliceLast 299 p.messages ++ [m] := by
  have hid : (receiveID p.seen m.id).1 = true := by
    rw [receiveID, if_neg h]
  have hsnoc : sliceLast 300 (p.messages ++ [m]) = sliceLast 299 p.messages ++ [m] :=
    sliceLast_snoc 299 p.messages m
  change (if (receiveID p.seen m.id).1 then sliceLast 300 (p.messages ++ [m])
    else p.messages) = _
  rw [hid, if_pos rfl, hsnoc]

theorem mem_receive_seen {m : ChatMessage} {x : String} (h : x ∈ (p.receive m).seen) :
    x ∈ p.seen ∨ x = m.id := by
  change x ∈ (receiveID p.seen m.id).2 at h
  rw [receiveID] at h
  by_cases hseen : m.id ∈ p.seen
  · rw [if_pos hseen] at h
    exact Or.inl h
  · rw [if_neg hseen] at h
    have hmem : x ∈ p.seen ++ [m.id] := by
      by_cases hfull : recentIDsLimit < (p.seen ++ [m.id]).length
      · simp only [if_pos hfull] at h
        exact List.mem_of_mem_tail h
      · simp only [if_neg hfull] at h
        exact h
    rcases List.mem_append.mp hmem with hmem | hmem
    · exact Or.inl hmem
    · exact Or.inr (List.mem_singleton.mp hmem)

/-- An appended message pushes out none of at most 300. -/
theorem receive_whole {m : ChatMessage} (hnew : m.id ∉ p.seen)
    (hid : m.id ∉ (sliceLast 299 p.messages).map (fun x => x.id))
    (hnodup : (p.messages.map (fun x => x.id)).Nodup) (hsub : ∀ x ∈ p.messages, x ∈ known)
    (hcard : (known ++ [m]).toFinset.card ≤ 300) :
    ∀ x, x ∈ p.messages ∨ x = m → x ∈ (p.receive m).messages := by
  rw [receive_messages hnew]
  intro x hx
  have hdistinct : p.messages.Nodup := List.Nodup.of_map _ hnodup
  rw [List.mem_append, List.mem_singleton]
  by_cases hin : m ∈ p.messages
  · -- the message is there and not among the last 299: it is the first of 300, and comes last
    obtain ⟨xs, ys, hsplit⟩ := List.append_of_mem hin
    have hlen : p.messages.length ≤ 300 :=
      Nat.le_trans (length_le_card hdistinct hsub)
        (Nat.le_trans (card_le_append known [m]) hcard)
    have hxs : xs = [] := by
      by_contra hne
      have hpos := List.length_pos_iff.mpr hne
      have hlate : m ∈ sliceLast 299 p.messages := by
        rw [hsplit, List.length_append] at hlen
        rw [sliceLast, hsplit, List.length_append,
          List.drop_append_of_le_length (by omega)]
        exact List.mem_append_right _ List.mem_cons_self
      exact hid (List.mem_map.mpr ⟨m, hlate, rfl⟩)
    rw [hxs, List.nil_append] at hsplit
    rcases hx with hx | rfl
    · rw [hsplit] at hx
      rcases List.mem_cons.mp hx with rfl | hx
      · exact Or.inr rfl
      · left
        rw [sliceLast, hsplit]
        rw [hsplit, List.length_cons] at hlen
        by_cases hfull : ys.length < 299
        · rw [Nat.sub_eq_zero_of_le (by rw [List.length_cons]; omega), List.drop_zero]
          exact List.mem_cons_of_mem _ hx
        · have hone : (m :: ys).length - 299 = 1 := by
            rw [List.length_cons]
            omega
          rw [hone]
          exact hx
    · exact Or.inr rfl
  · have hall : (p.messages ++ [m]).Nodup :=
      List.nodup_append.mpr ⟨hdistinct, List.nodup_singleton _, fun x hx y hy heq =>
        hin ((List.mem_singleton.mp hy) ▸ heq ▸ hx)⟩
    have hlen : (p.messages ++ [m]).length ≤ 300 := by
      refine Nat.le_trans (length_le_card hall (fun y hy => ?_)) hcard
      rcases List.mem_append.mp hy with hy | hy
      · exact List.mem_append_left _ (hsub y hy)
      · exact List.mem_append_right _ hy
    rw [List.length_append, List.length_singleton] at hlen
    rw [sliceLast_eq_self (by omega)]
    exact hx

/-- The answer to the page's history request holds messages of the room. -/
theorem mem_of_answer {order : OrderBy} {i : Identity} {list : List ChatMessage}
    (h : messagesHandler order t (some i) (some room) ⟨"", ""⟩ = .ok list) :
    ∀ m ∈ list, m ∈ t.ofRoom room := by
  intro m hm
  have hlimit : pageLimit (parseInt "") = Int64.ofNat 50 := by decide
  rw [messagesHandler, hlimit, messages_eq (by decide)] at h
  cases h
  obtain ⟨rest, hperm, -⟩ := isPage_pageAt order t room 50 (parseInt "")
  have hbelow : m ∈ messagesBelow t room (parseInt "") :=
    hperm.mem_iff.mp (List.mem_append_left _ (List.mem_reverse.mp hm))
  exact (KeysetPaging.mem_below.mp hbelow).1

/-- Saving keeps the messages of the room. -/
theorem saveChat_ofRoom {t' : ChatTable} {m x : ChatMessage} (h : saveChat m t = .ok t')
    (hx : x ∈ t.ofRoom room) : x ∈ t'.ofRoom room := by
  rw [saveChat] at h
  split at h
  · cases h
  · cases h
    obtain ⟨hmem, hroom⟩ := List.mem_filter.mp hx
    exact List.mem_filter.mpr ⟨List.mem_cons_of_mem _ hmem, hroom⟩

end

-- ============================================================================
-- The invariant of a visit
-- ============================================================================

/-- What is known was saved, what is shown and received is known, and the log is whole. -/
structure Kept (room : String) (s : Visit) : Prop where
  answers_saved : ∀ list ∈ s.answers, ∀ m ∈ list, m ∈ s.table.ofRoom room
  known_saved : ∀ m ∈ s.known, m ∈ s.table.ofRoom room
  shown_known : ∀ m ∈ s.page.messages, m ∈ s.known
  seen_known : ∀ x ∈ s.page.seen, ∃ m ∈ s.known, m.id = x
  whole : LogWhole s

theorem Kept.shown_saved {room : String} {s : Visit} (h : Kept room s) :
    ∀ m ∈ s.page.messages, m ∈ s.table.ofRoom room :=
  fun m hm => h.known_saved m (h.shown_known m hm)

theorem kept_start (room : String) (t : ChatTable) : Kept room (Visit.start t) where
  answers_saved _ h := absurd h List.not_mem_nil
  known_saved _ h := absurd h List.not_mem_nil
  shown_known _ h := absurd h List.not_mem_nil
  seen_known _ h := absurd h List.not_mem_nil
  whole := ⟨List.nodup_nil, fun _ _ h => h⟩

theorem Kept.send {room : String} {s : Visit} (h : Kept room s) {m : ChatMessage} {t : ChatTable}
    (hsave : saveChat m s.table = .ok t) : Kept room { s with table := t } where
  answers_saved list hl x hx := saveChat_ofRoom hsave (h.answers_saved list hl x hx)
  known_saved x hx := saveChat_ofRoom hsave (h.known_saved x hx)
  shown_known := h.shown_known
  seen_known := h.seen_known
  whole := h.whole

theorem Kept.query {room : String} {s : Visit} (h : Kept room s) {list : List ChatMessage}
    (hlist : ∀ m ∈ list, m ∈ s.table.ofRoom room) :
    Kept room { s with answers := s.answers ++ [list] } where
  answers_saved l hl := by
    rcases List.mem_append.mp hl with hl | hl
    · exact h.answers_saved l hl
    · exact (List.mem_singleton.mp hl) ▸ hlist
  known_saved := h.known_saved
  shown_known := h.shown_known
  seen_known := h.seen_known
  whole := h.whole

theorem Kept.history {room : String} {s : Visit} (h : Kept room s) {k : Nat}
    {list : List ChatMessage} (hlist : s.answers[k]? = some list) :
    Kept room { s with answers := s.answers.eraseIdx k, page := s.page.mergeHistory list,
                       known := s.known ++ list } := by
  have hsaved := h.answers_saved list (List.mem_of_getElem? hlist)
  have hmem : ∀ m ∈ (s.page.mergeHistory list).messages, m ∈ s.page.messages ∨ m ∈ list := by
    intro m hm
    exact (mem_mergeByID hsaved h.shown_saved).mp ((mergeHistory_sublist _ _).mem hm)
  refine ⟨fun l hl => h.answers_saved l (List.mem_of_mem_eraseIdx hl), ?_, ?_, ?_, ?_, ?_⟩
  · intro m hm
    rcases List.mem_append.mp hm with hm | hm
    · exact h.known_saved m hm
    · exact hsaved m hm
  · intro m hm
    rcases hmem m hm with hm | hm
    · exact List.mem_append_left _ (h.shown_known m hm)
    · exact List.mem_append_right _ hm
  · intro x hx
    obtain ⟨m, hm, hid⟩ := h.seen_known x hx
    exact ⟨m, List.mem_append_left _ hm, hid⟩
  · exact (nodup_mergeByID list s.page.messages).sublist
      ((mergeHistory_sublist _ _).map (fun m => m.id))
  · intro hcard m hm
    have hold := h.whole.2 (Nat.le_trans (card_le_append s.known list) hcard)
    refine mergeHistory_whole hsaved h.shown_saved h.shown_known hcard m ?_
    rcases List.mem_append.mp hm with hm | hm
    · exact Or.inl (hold m hm)
    · exact Or.inr hm

theorem Kept.live {room : String} {s : Visit} (h : Kept room s) {m : ChatMessage}
    (hm : m ∈ s.table.ofRoom room)
    (hnew : m.id ∉ s.page.seen → m.id ∉ (sliceLast 299 s.page.messages).map (fun x => x.id)) :
    Kept room { s with page := s.page.receive m, known := s.known ++ [m] } := by
  have hknown : ∀ x ∈ s.known ++ [m], x ∈ s.table.ofRoom room := by
    intro x hx
    rcases List.mem_append.mp hx with hx | hx
    · exact h.known_saved x hx
    · exact (List.mem_singleton.mp hx) ▸ hm
  have hseen : ∀ x ∈ (s.page.receive m).seen, ∃ y ∈ s.known ++ [m], y.id = x := by
    intro x hx
    rcases mem_receive_seen hx with hx | rfl
    · obtain ⟨y, hy, hid⟩ := h.seen_known x hx
      exact ⟨y, List.mem_append_left _ hy, hid⟩
    · exact ⟨m, List.mem_append_right _ List.mem_cons_self, rfl⟩
  by_cases hold : m.id ∈ s.page.seen
  · -- the message has reached the page before, so it is among the known ones
    obtain ⟨y, hy, hid⟩ := h.seen_known m.id hold
    have hym : y = m := eq_of_id (h.known_saved y hy) hm hid
    have hsame := receive_of_seen hold
    refine ⟨h.answers_saved, hknown, ?_, hseen, ?_, ?_⟩
    · intro x hx
      rw [hsame] at hx
      exact List.mem_append_left _ (h.shown_known x hx)
    · change ((s.page.receive m).messages.map (fun x => x.id)).Nodup
      rw [hsame]
      exact h.whole.1
    · intro hcard x hx
      change x ∈ (s.page.receive m).messages
      rw [hsame]
      have hall := h.whole.2 (Nat.le_trans (card_le_append s.known [m]) hcard)
      rcases List.mem_append.mp hx with hx | hx
      · exact hall x hx
      · exact (List.mem_singleton.mp hx) ▸ hall m (hym ▸ hy)
  · have hmsgs := receive_messages hold
    refine ⟨h.answers_saved, hknown, ?_, hseen, ?_, ?_⟩
    · intro x hx
      rw [hmsgs] at hx
      rcases List.mem_append.mp hx with hx | hx
      · exact List.mem_append_left _ (h.shown_known x ((sliceLast_sublist 299 _).mem hx))
      · exact List.mem_append_right _ hx
    · change ((s.page.receive m).messages.map (fun x => x.id)).Nodup
      rw [hmsgs, List.map_append]
      refine List.nodup_append.mpr ⟨h.whole.1.sublist ((sliceLast_sublist 299 _).map _),
        List.nodup_singleton _, fun x hx y hy heq => ?_⟩
      have hym : x = m.id := heq.trans (List.mem_singleton.mp hy)
      exact hnew hold (hym ▸ hx)
    · intro hcard x hx
      have hall := h.whole.2 (Nat.le_trans (card_le_append s.known [m]) hcard)
      refine receive_whole hold (hnew hold) h.whole.1 h.shown_known hcard x ?_
      rcases List.mem_append.mp hx with hx | hx
      · exact Or.inl (hall x hx)
      · exact Or.inr (List.mem_singleton.mp hx)

theorem kept_step (order : OrderBy) (i : Identity) (room : String) (s : Visit) (e : ChatEvent)
    (h : Kept room s) (hok : NewToLog room s e) : Kept room (s.step order i room e) := by
  cases e with
  | send m =>
      rw [Visit.step]
      split
      · exact h
      · next t hsave => exact h.send hsave
  | query =>
      rw [Visit.step]
      split
      · exact h
      · next list hlist => exact h.query (mem_of_answer hlist)
  | history k =>
      rw [Visit.step]
      split
      · exact h
      · next list hlist => exact h.history hlist
  | live m =>
      rw [Visit.step]
      split
      · next hm => exact h.live hm (hok hm)
      · exact h

/-- A live message that the list shows but the stream has not received is shown twice. -/
theorem shown_twice (order : OrderBy) (i : Identity) (room : String) (s : Visit) (e : ChatEvent)
    (hbad : ¬NewToLog room s e) : ¬LogWhole (s.step order i room e) := by
  cases e with
  | send m => exact absurd trivial hbad
  | query => exact absurd trivial hbad
  | history k => exact absurd trivial hbad
  | live m =>
      have hbad' : m ∈ s.table.ofRoom room ∧ m.id ∉ s.page.seen ∧
          m.id ∈ (sliceLast 299 s.page.messages).map (fun x => x.id) := by
        by_contra hcon
        exact hbad (fun hm hnew hin => hcon ⟨hm, hnew, hin⟩)
      obtain ⟨hm, hnew, hin⟩ := hbad'
      rintro ⟨hnodup, -⟩
      rw [Visit.step, if_pos hm] at hnodup
      change ((s.page.receive m).messages.map (fun x => x.id)).Nodup at hnodup
      rw [receive_messages hnew, List.map_append] at hnodup
      exact (List.nodup_append.mp hnodup).2.2 m.id hin m.id List.mem_cons_self rfl

/-- The log is whole in every state of a visit exactly if every live message that the stream
    lets through is new to the list. -/
theorem chat_log_whole_iff (order : OrderBy) (i : Identity) (room : String) (t : ChatTable)
    (es : List ChatEvent) :
    (∀ pre post, es = pre ++ post →
        LogWhole (run (Visit.step order i room) (Visit.start t) pre)) ↔
      EachStep (Visit.step order i room) (NewToLog room) (Visit.start t) es :=
  run_breaks_iff (fun s e h hok => kept_step order i room s e h hok)
    (fun s e _ hbad => shown_twice order i room s e hbad) (fun _ h => h.whole)
    (kept_start room t)

/-- A message in the answer to the history request is delivered live after it. -/
theorem delivered_after_history :
    ¬LogWhole (run (Visit.step byIndex viewer "r") (Visit.start ⟨[], by decide⟩)
      [.send (chatAt "a" 1000), .query, .history 0, .live (chatAt "a" 1000)]) := by
  have hshown : (run (Visit.step byIndex viewer "r") (Visit.start ⟨[], by decide⟩)
      [.send (chatAt "a" 1000), .query, .history 0, .live (chatAt "a" 1000)]).page.messages.map
        (fun m => m.id) = ["a", "a"] := by
    decide +kernel
  rintro ⟨hnodup, -⟩
  rw [hshown] at hnodup
  exact absurd hnodup (by decide)

end WatchTogether.Web

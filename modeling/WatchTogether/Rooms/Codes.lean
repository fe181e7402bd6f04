/-
  WatchTogether.Rooms.Codes

  The codes of rooms (`internal/rooms/service.go`): `roomCode` draws one, and `Service.room`
  takes a reference to a room for an id if `uuid.Parse` does, and for a code otherwise.
-/

import Mathlib.Data.Fintype.BigOperators
import WatchTogether.Repository.Database

namespace WatchTogether.Rooms

open Repository

-- ============================================================================
-- `roomCode`
-- ============================================================================

/-- `alphabet`: without `I`, `O`, `0` and `1`. -/
def alphabet : List Char :=
  ['A', 'B', 'C', 'D', 'E', 'F', 'G', 'H', 'J', 'K', 'L', 'M', 'N', 'P', 'Q', 'R',
    'S', 'T', 'U', 'V', 'W', 'X', 'Y', 'Z', '2', '3', '4', '5', '6', '7', '8', '9']

/-- `alphabet[int(raw[i]) % len(alphabet)]`. -/
def letter (b : Fin 256) : Char := alphabet.get ⟨b.val % alphabet.length, Nat.mod_lt _ (by decide)⟩

/-- The bytes that `rand.Read` gives. -/
abbrev Raw : Type := Fin 8 → Fin 256

/-- `roomCode`. -/
def roomCode (raw : Raw) : String := String.ofList (List.ofFn fun i => letter (raw i))

/-- Eight letters of the alphabet. -/
def IsCode (code : String) : Prop := code.toList.length = 8 ∧ ∀ c ∈ code.toList, c ∈ alphabet

instance (code : String) : Decidable (IsCode code) :=
  inferInstanceAs (Decidable (_ ∧ ∀ c ∈ code.toList, c ∈ alphabet))

theorem letter_mem (b : Fin 256) : letter b ∈ alphabet := List.get_mem ..

theorem isCode_roomCode (raw : Raw) : IsCode (roomCode raw) := by
  rw [IsCode, roomCode, String.toList_ofList, List.length_ofFn]
  refine ⟨rfl, fun c hc => ?_⟩
  obtain ⟨i, rfl⟩ := List.mem_ofFn.mp hc
  exact letter_mem (raw i)

/-- 256 is a multiple of the length of the alphabet, so no letter is favoured. -/
theorem card_letter (i : Fin alphabet.length) :
    Fintype.card { b : Fin 256 // letter b = alphabet.get i } = 8 := by
  revert i
  decide +kernel

/-- The choices of a point of each fibre. -/
theorem card_pointwise {ι α β : Type*} [Fintype ι] [DecidableEq ι] (g : α → β) (h : ι → β)
    [Fintype { f : ι → α // ∀ i, g (f i) = h i }] [∀ i, Fintype { a : α // g a = h i }] :
    Fintype.card { f : ι → α // ∀ i, g (f i) = h i }
      = ∏ i, Fintype.card { a : α // g a = h i } := by
  rw [Fintype.card_congr (Equiv.subtypePiEquivPi (p := fun i a => g a = h i)), Fintype.card_pi]

/-- The bytes that give a code are those that give each of its letters. -/
theorem roomCode_eq_iff {code : String} (h : code.toList.length = 8) (raw : Raw) :
    roomCode raw = code ↔ ∀ i : Fin 8, letter (raw i) = code.toList.get (i.cast h.symm) := by
  have hlist : code.toList = List.ofFn (fun i : Fin 8 => code.toList.get (i.cast h.symm)) := by
    apply List.ext_get
    · rw [List.length_ofFn, h]
    · intro n hn hn'
      rw [List.get_ofFn]
      rfl
  constructor
  · rintro hcode i
    have hofFn : List.ofFn (fun i => letter (raw i))
        = List.ofFn (fun i : Fin 8 => code.toList.get (i.cast h.symm)) := by
      rw [← hlist, ← hcode, roomCode, String.toList_ofList]
    exact congrFun (List.ofFn_injective hofFn) i
  · intro hletters
    rw [← String.ofList_toList (s := code), hlist, roomCode]
    exact congrArg _ (congrArg _ (funext hletters))

/-- **No code is favoured.**  Of the byte strings that `rand.Read` can give, equally many give
    each of the codes, and none gives another text. -/
theorem roomCode_uniform (code : String) :
    Fintype.card { raw : Raw // roomCode raw = code } = if IsCode code then 8 ^ 8 else 0 := by
  split
  · rename_i hcode
    obtain ⟨hlength, halphabet⟩ := hcode
    have hfibres : ∀ i : Fin 8, Fintype.card
        { b : Fin 256 // letter b = code.toList.get (i.cast hlength.symm) } = 8 := by
      intro i
      obtain ⟨j, hj⟩ := List.get_of_mem (halphabet _ (List.get_mem code.toList (i.cast hlength.symm)))
      rw [← hj]
      exact card_letter j
    calc Fintype.card { raw : Raw // roomCode raw = code }
        = Fintype.card { raw : Raw // ∀ i, letter (raw i) = code.toList.get (i.cast hlength.symm) } :=
          Fintype.card_congr (Equiv.subtypeEquivRight (roomCode_eq_iff hlength))
      _ = ∏ i : Fin 8, Fintype.card { b // letter b = code.toList.get (i.cast hlength.symm) } :=
          card_pointwise letter _
      _ = ∏ _i : Fin 8, 8 := Finset.prod_congr rfl (fun i _ => hfibres i)
      _ = 8 ^ 8 := by rw [Finset.prod_const, Finset.card_univ, Fintype.card_fin]
  · rename_i hcode
    rw [Fintype.card_eq_zero_iff]
    exact ⟨fun raw => hcode (raw.2 ▸ isCode_roomCode raw.1)⟩

-- ============================================================================
-- `Service.room`
-- ============================================================================

/-- `unicode.ToUpper`, on ASCII and on the two other letters whose upper case is in ASCII. -/
def toUpperRune (c : Char) : Char :=
  if c.toNat = 0x131 then 'I' else if c.toNat = 0x17F then 'S' else c.toUpper

/-- `strings.ToUpper`. -/
def toUpper (s : String) : String := String.ofList (s.toList.map toUpperRune)

/-- `RoomByCode`. -/
def roomByCode (code : String) (d : Database) : Except StoreError Room :=
  match d.rooms.entries.find? (fun e => e.2.code = toUpper code) with
  | some e => .ok { e.2 with id := e.1 }
  | none => .error .notFound

/-- What `uuid.Parse` takes: the forms of 32, 36, 38 and 45 characters. -/
structure UUIDs where
  parses : String → Bool
  long : ∀ s, parses s = true → 32 ≤ s.toList.length

/-- `Service.room`. -/
def Service.room (u : UUIDs) (ref : String) (d : Database) : Except StoreError Room :=
  if u.parses ref then Store.roomByID ref d.toDB else roomByCode (toUpper ref) d

/-- An upper-case letter comes from a letter. -/
theorem toNat_toUpper (c : Char) :
    (c.toUpper = c ∧ ¬(97 ≤ c.toNat ∧ c.toNat ≤ 122)) ∨
      (97 ≤ c.toNat ∧ c.toNat ≤ 122 ∧ c.toUpper.toNat + 32 = c.toNat) := by
  by_cases h : 'a'.val ≤ c.val ∧ c.val ≤ 'z'.val
  · have hlo : 97 ≤ c.toNat := h.1
    have hhi : c.toNat ≤ 122 := h.2
    refine .inr ⟨hlo, hhi, ?_⟩
    have hval : c.toUpper.val = c.val + ('A'.val - 'a'.val) := by
      have hupper : c.toUpper = _ := dif_pos h
      rw [hupper]
    show c.toUpper.val.toNat + 32 = c.val.toNat
    rw [hval, UInt32.toNat_add, show ('A'.val - 'a'.val).toNat = 4294967264 by decide]
    have hc : c.val.toNat = c.toNat := rfl
    omega
  · exact .inl ⟨dif_neg h, h⟩

theorem toUpperRune_toUpperRune (c : Char) : toUpperRune (toUpperRune c) = toUpperRune c := by
  unfold toUpperRune
  by_cases hi : c.toNat = 0x131
  · simp only [if_pos hi]
    rfl
  by_cases hs : c.toNat = 0x17F
  · simp only [if_neg hi, if_pos hs]
    rfl
  simp only [if_neg hi, if_neg hs]
  rcases toNat_toUpper c with ⟨hsame, -⟩ | ⟨hlo, hhi, hnat⟩
  · rw [hsame, if_neg hi, if_neg hs, hsame]
  · rw [if_neg (by omega), if_neg (by omega)]
    rcases toNat_toUpper c.toUpper with ⟨hsame, -⟩ | ⟨hlo', -, -⟩
    · exact hsame
    · omega

theorem toUpper_toUpper (s : String) : toUpper (toUpper s) = toUpper s := by
  rw [toUpper, toUpper, String.toList_ofList, List.map_map]
  exact congrArg _ (List.map_congr_left fun c _ => toUpperRune_toUpperRune c)

theorem length_toUpper (s : String) : (toUpper s).toList.length = s.toList.length := by
  rw [toUpper, String.toList_ofList, List.length_map]

-- ============================================================================
-- The rows of `rooms`
-- ============================================================================

/-- Every row is under its id, a UUID, and has a code of its own. -/
structure Catalogue (u : UUIDs) (d : Database) : Prop where
  id : ∀ k r, d.rooms.lookup k = some r → r.id = k
  uuid : ∀ k r, d.rooms.lookup k = some r → u.parses k = true
  code : ∀ k r, d.rooms.lookup k = some r → IsCode r.code
  unique : ∀ k k' r r', d.rooms.lookup k = some r → d.rooms.lookup k' = some r' →
    r.code = r'.code → k = k'

/-- What `CreateRoom` inserts. -/
def createdRow (r : Room) (now : Int64) : Room :=
  { r with createdAtMs := now, updatedAtMs := now, closedAtMs := none }

/-- `CreateRoom` inserts the row, or leaves the database as it is. -/
theorem createRoom_cases (r : Room) (now : Int64) (d : Database) :
    ((∀ x ∈ d.rooms.rows, x.code ≠ r.code) ∧
      d.createRoom r now = (.ok (),
        { d with
          rooms := d.rooms.insert r.id (createdRow r now)
          roomMembers := d.roomMembers.insert (r.id, r.hostUserID) ⟨.HOST, now, none⟩ })) ∨
    ∃ e, d.createRoom r now = (.error e, d) := by
  rw [Database.createRoom]
  split
  · exact .inr ⟨_, rfl⟩
  rename_i hfree
  split
  · rw [not_or, not_or] at hfree
    refine .inl ⟨?_, rfl⟩
    intro x hx hcode
    exact hfree.2.1 (List.any_eq_true.mpr ⟨x, hx, decide_eq_true hcode⟩)
  · exact .inr ⟨_, rfl⟩

/-- The row that an update leaves under `k`. -/
theorem same_of_update {t : KeyedTable String Room} {roomID k : String} {g : Room → Room}
    {r' : Room} (h : (t.update roomID g).lookup k = some r')
    (hg : ∀ r, (g r).id = r.id ∧ (g r).code = r.code) :
    ∃ r, t.lookup k = some r ∧ r'.id = r.id ∧ r'.code = r.code := by
  rw [AList.lookup_update] at h
  split at h
  · rename_i hk
    obtain ⟨r, hr, rfl⟩ := Option.map_eq_some_iff.mp h
    exact ⟨r, hk ▸ hr, hg r⟩
  · exact ⟨r', h, rfl, rfl⟩

/-- A row after a statement is the one that `CreateRoom` has inserted, or one from before with
    its id and code. -/
theorem room_perform {st : Statement} {d : Database} {k : String} {r' : Room}
    (h : (st.perform d).2.rooms.lookup k = some r') :
    (∃ r now, st = .createRoom r now ∧ k = r.id ∧ r' = createdRow r now ∧
      ∀ x ∈ d.rooms.rows, x.code ≠ r.code) ∨
    ∃ r, d.rooms.lookup k = some r ∧ r'.id = r.id ∧ r'.code = r.code := by
  by_cases hst : st.onRooms = false
  · rw [rooms_perform hst] at h
    exact .inr ⟨r', h, rfl, rfl⟩
  cases st with
  | createRoom r now =>
      rw [Statement.perform] at h
      obtain ⟨hcode, hrooms⟩ | ⟨e, hsame⟩ := createRoom_cases r now d
      · rw [hrooms] at h
        obtain ⟨rfl, rfl⟩ | ⟨-, hold⟩ := AList.lookup_insert_iff.mp h
        · exact .inl ⟨r, now, rfl, rfl, rfl, hcode⟩
        · exact .inr ⟨r', hold, rfl, rfl⟩
      · rw [hsame] at h
        exact .inr ⟨r', h, rfl, rfl⟩
  | deleteRoom id =>
      simp only [Statement.perform, Database.deleteRoom] at h
      split at h
      · obtain ⟨-, hold⟩ := AList.lookup_erase_iff.mp h
        exact .inr ⟨r', hold, rfl, rfl⟩
      · exact .inr ⟨r', h, rfl, rfl⟩
  | transferHost roomID old new now =>
      simp only [Statement.perform, Database.lift, Store.transferHost] at h
      split at h
      · refine .inr (same_of_update h (fun r => ?_))
        split
        · exact ⟨rfl, rfl⟩
        · exact ⟨rfl, rfl⟩
      · exact .inr ⟨r', h, rfl, rfl⟩
  | closeRoom roomID now => exact .inr (same_of_update h (fun r => ⟨rfl, rfl⟩))
  | reopenRoom roomID now =>
      simp only [Statement.perform, Database.lift, Store.reopenRoom] at h
      split at h
      · exact .inr (same_of_update h (fun r => ⟨rfl, rfl⟩))
      · exact .inr ⟨r', h, rfl, rfl⟩
  | setRoomMedia roomID mediaID now =>
      simp only [Statement.perform, Database.lift, Store.setRoomMedia] at h
      split at h
      · exact .inr (same_of_update h (fun r => ⟨rfl, rfl⟩))
      · exact .inr ⟨r', h, rfl, rfl⟩
  | updateRoomTitle roomID title now => exact .inr (same_of_update h (fun r => ⟨rfl, rfl⟩))
  | updateRoomStatus roomID status now => exact .inr (same_of_update h (fun r => ⟨rfl, rfl⟩))
  | _ => exact absurd rfl hst

/-- **Statement.**  A statement keeps the catalogue, if the room it may create has a UUID and a
    code. -/
theorem Catalogue.perform {u : UUIDs} {d : Database} (h : Catalogue u d) (st : Statement)
    (hst : ∀ r now, st = .createRoom r now → u.parses r.id = true ∧ IsCode r.code) :
    Catalogue u (st.perform d).2 := by
  -- of two different rows at most one is new
  have hclash : ∀ k k' r r', k ≠ k' → (st.perform d).2.rooms.lookup k = some r →
      (st.perform d).2.rooms.lookup k' = some r' → r.code ≠ r'.code := by
    intro k k' r r' hne hr hr' hcode
    obtain ⟨n, now, rfl, rfl, rfl, hnew⟩ | ⟨o, ho, -, hco⟩ := room_perform hr
    · obtain ⟨n', now', heq, rfl, -, -⟩ | ⟨o', ho', -, hco'⟩ := room_perform hr'
      · obtain ⟨rfl, -⟩ := Statement.createRoom.inj heq
        exact hne rfl
      · exact hnew o' (AList.mem_rows.mpr ⟨k', ho'⟩) (hco'.symm.trans hcode.symm)
    · obtain ⟨n', now', rfl, rfl, rfl, hnew⟩ | ⟨o', ho', -, hco'⟩ := room_perform hr'
      · exact hnew o (AList.mem_rows.mpr ⟨k, ho⟩) (hco.symm.trans hcode)
      · exact hne (h.unique k k' o o' ho ho' (by rw [← hco, ← hco', hcode]))
  refine ⟨?_, ?_, ?_, ?_⟩
  · intro k r hr
    obtain ⟨n, now, rfl, rfl, rfl, -⟩ | ⟨o, ho, hid, -⟩ := room_perform hr
    · rfl
    · rw [hid, h.id k o ho]
  · intro k r hr
    obtain ⟨n, now, rfl, rfl, rfl, -⟩ | ⟨o, ho, -, -⟩ := room_perform hr
    · exact (hst n now rfl).1
    · exact h.uuid k o ho
  · intro k r hr
    obtain ⟨n, now, rfl, rfl, rfl, -⟩ | ⟨o, ho, -, hcode⟩ := room_perform hr
    · exact (hst n now rfl).2
    · rw [hcode]
      exact h.code k o ho
  · intro k k' r r' hr hr' hcode
    by_contra hne
    exact hclash k k' r r' hne hr hr' hcode

/-- A reference leads to the room whose id it is, or whose code it is in any letter case. -/
theorem Catalogue.room_eq_iff {u : UUIDs} {d : Database} (h : Catalogue u d) (ref : String)
    (r : Room) : Service.room u ref d = .ok r ↔
      d.rooms.lookup r.id = some r ∧ (ref = r.id ∨ toUpper ref = r.code) := by
  constructor
  · intro hroom
    rw [Service.room] at hroom
    split at hroom
    · rw [Store.roomByID] at hroom
      split at hroom
      · rename_i r' hr
        obtain rfl := Except.ok.inj hroom
        have hid : r'.id = ref := h.id ref r' hr
        subst hid
        exact ⟨hr, .inl rfl⟩
      · exact absurd hroom (by simp)
    · rw [roomByCode, toUpper_toUpper] at hroom
      split at hroom
      · rename_i e hfind
        obtain rfl := Except.ok.inj hroom
        have hrow : d.rooms.lookup e.1 = some e.2 :=
          AList.mem_entries_iff.mp (List.mem_of_find?_eq_some hfind)
        have hcode : e.2.code = toUpper ref := by simpa using List.find?_some hfind
        have hid : e.2.id = e.1 := h.id e.1 e.2 hrow
        refine ⟨?_, .inr hcode.symm⟩
        show d.rooms.lookup e.1 = _
        rw [hrow, ← hid]
      · exact absurd hroom (by simp)
  · rintro ⟨hrow, hby⟩
    have hcode : (r.code).toList.length = 8 := (h.code r.id r hrow).1
    rw [Service.room]
    rcases hby with rfl | hby
    · rw [if_pos (h.uuid r.id r hrow), Store.roomByID, show d.toDB.rooms = d.rooms from rfl, hrow]
    · have hlength := length_toUpper ref
      rw [hby, hcode] at hlength
      rw [if_neg (fun hparses => absurd (u.long ref hparses) (by omega)), roomByCode,
        toUpper_toUpper]
      have hfound : ∃ e, d.rooms.entries.find? (fun e => e.2.code = toUpper ref) = some e := by
        rw [← Option.isSome_iff_exists, List.find?_isSome]
        exact ⟨⟨r.id, r⟩, AList.mem_entries_iff.mpr hrow, decide_eq_true hby.symm⟩
      obtain ⟨e, hfind⟩ := hfound
      rw [hfind]
      have hrow' : d.rooms.lookup e.1 = some e.2 :=
        AList.mem_entries_iff.mp (List.mem_of_find?_eq_some hfind)
      have hcode' : e.2.code = toUpper ref := by simpa using List.find?_some hfind
      have hid : e.1 = r.id := h.unique e.1 r.id e.2 r hrow' hrow (hcode'.trans hby)
      have hsame : e.2 = r := by
        rw [hid, hrow] at hrow'
        exact (Option.some.inj hrow').symm
      show Except.ok { e.2 with id := e.1 } = Except.ok r
      rw [hid, hsame]

end WatchTogether.Rooms

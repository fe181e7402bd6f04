/-
  WatchTogether.Lib.Base64

  Base64 without padding.  `encode` writes six bits a character, three bytes in four
  characters and what is left of them in two or three.  `decode` reads what `encode` writes;
  like common decoders it skips line ends and does not look at the bits that a last character
  has too many.
-/

import Mathlib.Data.List.Basic
import Mathlib.Data.List.Nodup
import Mathlib.Data.Option.Basic

/-- The characters of an encoding. -/
structure Base64 where
  alphabet : List Char
  length : alphabet.length = 64
  nodup : alphabet.Nodup
  noLineEnd : '\r' ∉ alphabet ∧ '\n' ∉ alphabet

namespace Base64

-- ============================================================================
-- Bytes and digits
-- ============================================================================

/-- The digits of the bytes, six bits each. -/
def digits : List UInt8 → List Nat
  | a :: b :: c :: rest =>
      let n := a.toNat * 65536 + b.toNat * 256 + c.toNat
      n / 262144 :: n / 4096 % 64 :: n / 64 % 64 :: n % 64 :: digits rest
  | [a, b] =>
      let n := a.toNat * 65536 + b.toNat * 256
      [n / 262144, n / 4096 % 64, n / 64 % 64]
  | [a] => [a.toNat / 4, a.toNat % 4 * 16]
  | [] => []

/-- The bytes of the digits; a digit alone is none. -/
def bytes : List Nat → Option (List UInt8)
  | p :: q :: r :: s :: rest =>
      let n := p * 262144 + q * 4096 + r * 64 + s
      (bytes rest).map fun bs =>
        UInt8.ofNat (n / 65536) :: UInt8.ofNat (n / 256 % 256) :: UInt8.ofNat (n % 256) :: bs
  | [p, q, r] =>
      let n := p * 262144 + q * 4096 + r * 64
      some [UInt8.ofNat (n / 65536), UInt8.ofNat (n / 256 % 256)]
  | [p, q] => some [UInt8.ofNat ((p * 262144 + q * 4096) / 65536)]
  | [_] => none
  | [] => some []

theorem ofNat_eq {a : UInt8} {n : Nat} (h : n = a.toNat) : UInt8.ofNat n = a := by
  rw [h, UInt8.ofNat_toNat]

theorem bytes_digits (bs : List UInt8) : bytes (digits bs) = some bs := by
  fun_induction digits bs with
  | case1 a b c rest n ih =>
      have ha := a.toNat_lt
      have hb := b.toNat_lt
      have hc := c.toNat_lt
      have hsum : n / 262144 * 262144 + n / 4096 % 64 * 4096 + n / 64 % 64 * 64 + n % 64 = n := by
        omega
      have hn : n = a.toNat * 65536 + b.toNat * 256 + c.toNat := rfl
      rw [bytes, ih, hsum, Option.map_some, ofNat_eq (a := a) (by omega),
        ofNat_eq (a := b) (by omega), ofNat_eq (a := c) (by omega)]
  | case2 a b n =>
      have ha := a.toNat_lt
      have hb := b.toNat_lt
      have hn : n = a.toNat * 65536 + b.toNat * 256 := rfl
      clear_value n
      have hsum : n / 262144 * 262144 + n / 4096 % 64 * 4096 + n / 64 % 64 * 64 = n := by
        omega
      have hlast : n / 65536 = a.toNat ∧ n / 256 % 256 = b.toNat := by omega
      simp only [bytes, hsum, hlast, UInt8.ofNat_toNat]
  | case3 a =>
      have ha := a.toNat_lt
      have hsum : (a.toNat / 4 * 262144 + a.toNat % 4 * 16 * 4096) / 65536 = a.toNat := by omega
      simp only [bytes, hsum, UInt8.ofNat_toNat]
  | case4 => rfl

theorem digits_lt (bs : List UInt8) : ∀ d ∈ digits bs, d < 64 := by
  fun_induction digits bs with
  | case1 a b c rest n ih =>
      have ha := a.toNat_lt
      have hb := b.toNat_lt
      have hc := c.toNat_lt
      have hn : n = a.toNat * 65536 + b.toNat * 256 + c.toNat := rfl
      simp only [List.mem_cons, forall_eq_or_imp]
      exact ⟨by omega, by omega, by omega, by omega, ih⟩
  | case2 a b n =>
      have ha := a.toNat_lt
      have hb := b.toNat_lt
      have hn : n = a.toNat * 65536 + b.toNat * 256 := rfl
      simp only [List.mem_cons, forall_eq_or_imp, List.not_mem_nil, false_imp_iff, implies_true,
        and_true]
      exact ⟨by omega, by omega, by omega⟩
  | case3 a =>
      have ha := a.toNat_lt
      simp only [List.mem_cons, forall_eq_or_imp, List.not_mem_nil, false_imp_iff, implies_true,
        and_true]
      exact ⟨by omega, by omega⟩
  | case4 => simp

-- ============================================================================
-- Texts
-- ============================================================================

variable (e : Base64)

/-- The character of a digit. -/
def char (d : Nat) : Char := e.alphabet.getD d 'A'

/-- The digit of a character. -/
def digit (c : Char) : Option Nat := e.alphabet.idxOf? c

/-- The text of the bytes. -/
def encode (bs : List UInt8) : List Char := (digits bs).map e.char

/-- A character that a decoder skips. -/
def lineEnd (c : Char) : Bool := c = '\r' || c = '\n'

/-- The bytes of a text, if it has any. -/
def decode (s : List Char) : Option (List UInt8) :=
  ((s.filter (fun c => !lineEnd c)).mapM e.digit).bind bytes

variable {e}

theorem char_eq {d : Nat} (h : d < 64) : ∃ hd, e.char d = e.alphabet.get ⟨d, hd⟩ := by
  have hd : d < e.alphabet.length := by
    rw [e.length]
    exact h
  refine ⟨hd, ?_⟩
  rw [char, List.getD_eq_getElem?_getD, List.getElem?_eq_getElem hd]
  rfl

/-- The character of a digit is its own. -/
theorem digit_char {d : Nat} (h : d < 64) : e.digit (e.char d) = some d := by
  obtain ⟨hd, hchar⟩ := char_eq (e := e) h
  rw [digit, hchar, List.idxOf?_eq_some_iff]
  refine ⟨hd, rfl, ?_⟩
  intro j hj
  exact fun heq => absurd ((e.nodup.getElem_inj_iff).mp heq) (by omega)

theorem char_mem {d : Nat} (h : d < 64) : e.char d ∈ e.alphabet := by
  obtain ⟨hd, hchar⟩ := char_eq (e := e) h
  rw [hchar]
  exact List.getElem_mem hd

/-- An encoded text is of the alphabet. -/
theorem mem_encode {bs : List UInt8} {c : Char} (h : c ∈ e.encode bs) : c ∈ e.alphabet := by
  obtain ⟨d, hd, rfl⟩ := List.mem_map.mp h
  exact char_mem (digits_lt bs d hd)

theorem filter_encode (bs : List UInt8) :
    (e.encode bs).filter (fun c => !lineEnd c) = e.encode bs := by
  rw [List.filter_eq_self]
  intro c hc
  have hmem := mem_encode hc
  have hr : c ≠ '\r' := fun heq => e.noLineEnd.1 (heq ▸ hmem)
  have hn : c ≠ '\n' := fun heq => e.noLineEnd.2 (heq ▸ hmem)
  simp [lineEnd, hr, hn]

theorem mapM_digit {ds : List Nat} (h : ∀ d ∈ ds, d < 64) : (ds.map e.char).mapM e.digit = some ds := by
  induction ds with
  | nil => rfl
  | cons d ds ih =>
      rw [List.map_cons, List.mapM_cons, digit_char (h d (List.mem_cons_self ..)),
        ih (fun x hx => h x (List.mem_cons_of_mem _ hx))]
      rfl

/-- **Round trip.** -/
theorem decode_encode (bs : List UInt8) : e.decode (e.encode bs) = some bs := by
  rw [decode, filter_encode, encode, mapM_digit (digits_lt bs), Option.bind_some, bytes_digits]

end Base64

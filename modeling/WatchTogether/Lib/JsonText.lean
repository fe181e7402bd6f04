/-
  WatchTogether.Lib.JsonText

  The texts `JSON.stringify` makes of objects, arrays, strings and natural numbers, and
  how many bytes they take in UTF-8.
-/

import Mathlib.Algebra.BigOperators.Group.List.Basic
import Mathlib.Algebra.GroupWithZero.Nat

namespace JsonText

/-- The digits of `\u` escapes. -/
def hexDigits : List Char := ['0', '1', '2', '3', '4', '5', '6', '7', '8', '9', 'a', 'b',
  'c', 'd', 'e', 'f']

/-- `QuoteJSONString` on one character. -/
def escape (c : Char) : List Char :=
  if c = '"' then ['\\', '"']
  else if c = '\\' then ['\\', '\\']
  else if c.val = 8 then ['\\', 'b']
  else if c.val = 9 then ['\\', 't']
  else if c.val = 10 then ['\\', 'n']
  else if c.val = 12 then ['\\', 'f']
  else if c.val = 13 then ['\\', 'r']
  else if c.val < 32 then
    ['\\', 'u', '0', '0', hexDigits.getD (c.toNat / 16) '0', hexDigits.getD (c.toNat % 16) '0']
  else [c]

/-- The text of a string. -/
def string (s : List Char) : List Char := '"' :: s.flatMap escape ++ ['"']

/-- The text of a natural number. -/
def number (n : Nat) : List Char := Nat.toDigits 10 n

/-- The texts `xs`, with commas between them. -/
def commas (xs : List (List Char)) : List Char := (xs.intersperse [',']).flatten

/-- The text of an array of these texts. -/
def array (xs : List (List Char)) : List Char := '[' :: commas xs ++ [']']

/-- The text of an object with these fields. -/
def object (fields : List (String × List Char)) : List Char :=
  Char.ofNat 123 :: commas (fields.map (fun f => string f.1.toList ++ ':' :: f.2)) ++
    [Char.ofNat 125]

/-- The length in UTF-8. -/
def bytes (s : List Char) : Nat := (s.map Char.utf8Size).sum

/-! ## Lengths -/

@[simp] theorem bytes_nil : bytes [] = 0 := rfl

@[simp] theorem bytes_cons (c : Char) (s : List Char) : bytes (c :: s) = c.utf8Size + bytes s := rfl

@[simp] theorem bytes_append (s t : List Char) : bytes (s ++ t) = bytes s + bytes t := by
  simp [bytes]

/-- ASCII text takes one byte a character. -/
theorem bytes_of_ascii {s : List Char} (h : ∀ c ∈ s, c.utf8Size = 1) : bytes s = s.length := by
  induction s with
  | nil => rfl
  | cons c s ih =>
      have hc := h c (by simp)
      have hs := ih (fun d hd => h d (List.mem_cons_of_mem c hd))
      rw [bytes_cons, hc, hs, List.length_cons]
      omega

theorem flatMap_escape_of_plain {s : List Char} (h : ∀ c ∈ s, escape c = [c]) :
    s.flatMap escape = s := by
  induction s with
  | nil => rfl
  | cons c s ih =>
      have hc := h c (by simp)
      have hs := ih (fun d hd => h d (List.mem_cons_of_mem c hd))
      rw [List.flatMap_cons, hc, hs, List.singleton_append]

theorem commas_cons_cons (x y : List Char) (xs : List (List Char)) :
    commas (x :: y :: xs) = x ++ ',' :: commas (y :: xs) := by
  simp [commas]

/-- A comma follows every text but the last. -/
theorem bytes_commas (xs : List (List Char)) :
    bytes (commas xs) = (xs.map bytes).sum + (xs.length - 1) := by
  induction xs with
  | nil => rfl
  | cons x xs ih =>
      cases xs with
      | nil => simp [commas]
      | cons y xs =>
          rw [commas_cons_cons, bytes_append, bytes_cons, ih]
          simp only [List.map_cons, List.sum_cons, List.length_cons]
          have hcomma : Char.utf8Size ',' = 1 := by decide
          omega

theorem bytes_array (xs : List (List Char)) :
    bytes (array xs) = (xs.map bytes).sum + (xs.length - 1) + 2 := by
  rw [array, bytes_append, bytes_cons, bytes_commas]
  have hopen : Char.utf8Size '[' = 1 := by decide
  have hclose : bytes [']'] = 1 := by decide
  omega

/-- A decimal number takes one byte a digit. -/
theorem bytes_number (n : Nat) : bytes (number n) = (Nat.toDigits 10 n).length := by
  apply bytes_of_ascii
  intro c hc
  have hdigit : c.isDigit = true := Nat.isDigit_of_mem_toDigits (by omega) (by omega) hc
  rw [Char.isDigit, Bool.and_eq_true, decide_eq_true_eq, decide_eq_true_eq] at hdigit
  rw [Char.utf8Size_eq_one_iff]
  have h57 : c.val ≤ 57 := hdigit.2
  exact UInt32.le_trans h57 (by decide)

end JsonText

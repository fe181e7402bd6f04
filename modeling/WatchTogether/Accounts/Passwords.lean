/-
  WatchTogether.Accounts.Passwords

  The texts of `internal/auth/auth.go`: what `HashPassword` stores and `VerifyPassword` reads,
  and the tokens of sessions.  Argon2 is a parameter, with what its documentation says.
-/

import WatchTogether.Accounts.Service
import WatchTogether.Lib.Base64

namespace WatchTogether.Accounts

open Uploads (isSpace)

-- ============================================================================
-- Encodings
-- ============================================================================

/-- Letters and digits, and two more characters. -/
def alphanumeric (c d : Char) : List Char :=
  ['A', 'B', 'C', 'D', 'E', 'F', 'G', 'H', 'I', 'J', 'K', 'L', 'M', 'N', 'O', 'P',
    'Q', 'R', 'S', 'T', 'U', 'V', 'W', 'X', 'Y', 'Z', 'a', 'b', 'c', 'd', 'e', 'f',
    'g', 'h', 'i', 'j', 'k', 'l', 'm', 'n', 'o', 'p', 'q', 'r', 's', 't', 'u', 'v',
    'w', 'x', 'y', 'z', '0', '1', '2', '3', '4', '5', '6', '7', '8', '9', c, d]

/-- `base64.RawStdEncoding`. -/
def rawStd : Base64 := ⟨alphanumeric '+' '/', rfl, by decide +kernel, by decide +kernel⟩

/-- `[]byte(s)`. -/
def utf8 (s : String) : List UInt8 := s.toUTF8.data.toList

-- ============================================================================
-- `Sscanf`
-- ============================================================================

/-- A literal of the format. -/
def scanText : List Char → List Char → Option (List Char)
  | [], s => some s
  | c :: cs, d :: s => if c = d then scanText cs s else none
  | _ :: _, [] => none

/-- `SkipSpace`, to which a line feed is an error. -/
def skipSpace (s : List Char) : Option (List Char) :=
  if '\n' ∈ s.takeWhile isSpace then none else some (s.dropWhile isSpace)

/-- `%d` into an unsigned integer of so many bits. -/
def scanUint (bits : Nat) (s : List Char) : Option (Nat × List Char) :=
  (skipSpace s).bind fun s =>
    let token := s.takeWhile Char.isDigit
    let n := Nat.ofDigitChars 10 token 0
    if token = [] ∨ 2 ^ bits ≤ n then none else some (n, s.dropWhile Char.isDigit)

/-- `Sscanf` with the format `m=%d,t=%d,p=%d`, into two `uint32` and a `uint8`. -/
def scanParams (s : List Char) : Option (Nat × Nat × Nat) :=
  (scanText ['m', '='] s).bind fun s =>
    (scanUint 32 s).bind fun (memory, s) =>
      (scanText [',', 't', '='] s).bind fun s =>
        (scanUint 32 s).bind fun (iterations, s) =>
          (scanText [',', 'p', '='] s).bind fun s =>
            (scanUint 8 s).map fun (parallelism, _) => (memory, iterations, parallelism)

-- ============================================================================
-- Passwords
-- ============================================================================

/-- `argon2.IDKey`, which panics without passes or threads; otherwise its result has the
    length asked for. -/
structure Argon2 where
  idKey : (password salt : List UInt8) → (time memory threads keyLen : Nat) → List UInt8
  length : ∀ p s t m n k, 1 ≤ t → 1 ≤ n → (idKey p s t m n k).length = k

/-- The key that `HashPassword` derives. -/
def Argon2.derive (a : Argon2) (password : String) (salt : List UInt8) : List UInt8 :=
  a.idKey (utf8 password) salt 3 (64 * 1024) 2 32

/-- `HashPassword`, with the salt that `rand.Read` gives. -/
def hashPassword (a : Argon2) (password : String) (salt : List UInt8) : String :=
  hashPrefix ++ String.ofList (rawStd.encode salt) ++ "$" ++
    String.ofList (rawStd.encode (a.derive password salt))

/-- What comes of `VerifyPassword`. -/
inductive Verdict where
  | error
  | panic
  | ok (b : Bool)
deriving DecidableEq, Repr

/-- The name of the algorithm in a hash. -/
def argon2id : List Char := ['a', 'r', 'g', 'o', 'n', '2', 'i', 'd']

/-- `VerifyPassword`. -/
def verifyPassword (a : Argon2) (password encoded : String) : Verdict :=
  match encoded.toList.splitOn '$' with
  | [_, algorithm, _, params, salt, key] =>
      if algorithm ≠ argon2id then .error
      else
        match scanParams params with
        | none => .error
        | some (memory, iterations, parallelism) =>
            match rawStd.decode salt, rawStd.decode key with
            | some salt, some expected =>
                if iterations < 1 ∨ parallelism < 1 then .panic
                else
                  .ok (decide (a.idKey (utf8 password) salt iterations memory parallelism
                    expected.length = expected))
            | _, _ => .error
  | _ => .error

-- ============================================================================
-- Round trip
-- ============================================================================

/-- The fields between the dollar signs. -/
def fields (salt key : List UInt8) : List (List Char) :=
  [[], argon2id, ['v', '=', '1', '9'],
    ['m', '=', '6', '5', '5', '3', '6', ',', 't', '=', '3', ',', 'p', '=', '2'],
    rawStd.encode salt, rawStd.encode key]

theorem hashPrefix_fields (salt key : List UInt8) :
    (hashPrefix ++ String.ofList (rawStd.encode salt) ++ "$" ++
      String.ofList (rawStd.encode key)).toList = ['$'].intercalate (fields salt key) := by
  have hprefix : hashPrefix.toList = ['$'].intercalate [[], argon2id, ['v', '=', '1', '9'],
      ['m', '=', '6', '5', '5', '3', '6', ',', 't', '=', '3', ',', 'p', '=', '2'], []] := by
    decide +kernel
  have hdollar : "$".toList = ['$'] := by decide +kernel
  simp only [String.toList_append, String.toList_ofList, hprefix, hdollar]
  simp [fields, List.intercalate]

theorem dollar_not_mem (bs : List UInt8) : '$' ∉ rawStd.encode bs := by
  intro h
  have halphabet : '$' ∉ rawStd.alphabet := by decide +kernel
  exact halphabet (Base64.mem_encode h)

theorem splitOn_hash (salt key : List UInt8) :
    (hashPrefix ++ String.ofList (rawStd.encode salt) ++ "$" ++
      String.ofList (rawStd.encode key)).toList.splitOn '$' = fields salt key := by
  rw [hashPrefix_fields]
  refine List.splitOn_intercalate '$' ?_ (by simp [fields])
  intro l hl
  simp only [fields, List.mem_cons, List.not_mem_nil, or_false] at hl
  rcases hl with rfl | rfl | rfl | rfl | rfl | rfl
  · decide +kernel
  · decide +kernel
  · decide +kernel
  · decide +kernel
  · exact dollar_not_mem salt
  · exact dollar_not_mem key

theorem scanParams_hash : scanParams
    ['m', '=', '6', '5', '5', '3', '6', ',', 't', '=', '3', ',', 'p', '=', '2'] =
      some (65536, 3, 2) := by
  decide +kernel

variable (a : Argon2)

/-- **Round trip.**  What `HashPassword` writes `VerifyPassword` reads, and accepts the
    passwords of the same key. -/
theorem verify_hash (other password : String) (salt : List UInt8) :
    verifyPassword a other (hashPassword a password salt)
      = .ok (decide (a.derive other salt = a.derive password salt)) := by
  have hlength : (a.derive password salt).length = 32 :=
    a.length _ _ _ _ _ _ (by decide) (by decide)
  rw [verifyPassword, hashPassword, splitOn_hash]
  simp only [fields, scanParams_hash, Base64.decode_encode, hlength, ne_eq, not_true_eq_false,
    if_false]
  rfl

theorem hashPassword_ne_empty (password : String) (salt : List UInt8) :
    hashPassword a password salt ≠ "" := by
  intro h
  have hfields := congrArg List.length (splitOn_hash salt (a.derive password salt))
  rw [← hashPassword, h] at hfields
  have hempty : ("".toList.splitOn '$').length = 1 := by decide +kernel
  rw [hempty] at hfields
  simp [fields] at hfields

-- ============================================================================
-- The service
-- ============================================================================

/-- A salt as it stands in the text. -/
def saltText (salt : List UInt8) : String := String.ofList (rawStd.encode salt)

/-- The text of the key, with the salt as it stands in the text. -/
def Argon2.key (password salt : String) : String :=
  match rawStd.decode salt.toList with
  | some salt => String.ofList (rawStd.encode (a.derive password salt))
  | none => ""

/-- The answer of `VerifyPassword`, if there is one. -/
def Argon2.verify (password encoded : String) : Option Bool :=
  match verifyPassword a password encoded with
  | .ok b => some b
  | .error | .panic => none

/-- The service with this Argon2. -/
def Argon2.service (ttl : Int64) (tokenHash : String → String) : AuthService :=
  ⟨ttl, tokenHash, a.key, a.verify⟩

theorem service_hashPassword (ttl : Int64) (tokenHash : String → String) (password : String)
    (salt : List UInt8) : (a.service ttl tokenHash).hashPassword password (saltText salt)
      = hashPassword a password salt := by
  have hkey : a.key password (saltText salt)
      = String.ofList (rawStd.encode (a.derive password salt)) := by
    rw [Argon2.key, saltText, String.toList_ofList, Base64.decode_encode]
  show hashPrefix ++ saltText salt ++ "$" ++ a.key password (saltText salt) = _
  rw [hkey]
  rfl

theorem verify_service (ttl : Int64) (tokenHash : String → String) (other password : String)
    (salt : List UInt8) : (a.service ttl tokenHash).verify other (hashPassword a password salt)
      = some (decide (a.derive other salt = a.derive password salt)) := by
  show a.verify other (hashPassword a password salt) = _
  rw [Argon2.verify, verify_hash]

end WatchTogether.Accounts

/-
  WatchTogether.Accounts.RemoteIP

  `RemoteIP` of `internal/auth`, which names the bucket of the login limiter, behind the
  proxy of `deploy/nginx.conf.example`.

  The proxy appends the peer to what the client sends as X-Forwarded-For, and `RemoteIP`
  reads the first element: the client chooses its bucket.  Without a header of its own the
  peer is read, but an IPv6 address whose last group has decimal digits only loses it as if
  it were a port.
-/

import WatchTogether.Accounts.Service

namespace WatchTogether.Accounts

open Uploads (isSpace trimSpace)

/-- A string of a request, letter by letter. -/
abbrev Text : Type := List Char

-- ============================================================================
-- The library functions
-- ============================================================================

/-- `strings.LastIndex` of a character; `none` for -1. -/
def lastIndex (c : Char) : Text → Option Nat
  | [] => none
  | x :: s =>
      match lastIndex c s with
      | some i => some (i + 1)
      | none => if x = c then some 0 else none

/-- A decimal digit. -/
def isDigit (c : Char) : Bool := decide ('0' ≤ c) && decide (c ≤ '9')

/-- The number that decimal digits stand for. -/
def digitsValue (s : Text) : Int := s.foldl (fun n c => 10 * n + (c.toNat - 48)) 0

/-- The digits of a number that fits into an `int`. -/
def atoiDigits (negative : Bool) (s : Text) : Option Int :=
  if s = [] ∨ s.all isDigit = false then none
  else
    let n := if negative then -digitsValue s else digitsValue s
    if -2 ^ 63 ≤ n ∧ n < 2 ^ 63 then some n else none

/-- `strconv.Atoi`. -/
def atoi : Text → Option Int
  | '-' :: s => atoiDigits true s
  | '+' :: s => atoiDigits false s
  | s => atoiDigits false s

/-- `strings.Trim(s, "[]")`. -/
def trimBrackets (s : Text) : Text :=
  ((s.dropWhile (fun c => c = '[' ∨ c = ']')).reverse.dropWhile
    (fun c => c = '[' ∨ c = ']')).reverse

-- ============================================================================
-- The address of a request
-- ============================================================================

/-- The end of `RemoteIP`: what follows the last colon goes if it is a number. -/
def stripPort (v : Text) : Text :=
  match lastIndex ':' v with
  | some i => if 0 < i ∧ (atoi (v.drop (i + 1))).isSome then trimBrackets (v.take i) else v
  | none => v

/-- `RemoteIP` of a request with this `RemoteAddr` and X-Forwarded-For header. -/
def remoteIP (remoteAddr forwarded : Text) : Text :=
  stripPort (if forwarded ≠ [] then trimSpace (forwarded.takeWhile (fun c => c ≠ ','))
    else remoteAddr)

/-- `login`'s key of the limiter. -/
def loginKey (remoteAddr forwarded : Text) : Text :=
  ['l', 'o', 'g', 'i', 'n', ':'] ++ remoteIP remoteAddr forwarded

/-- `$proxy_add_x_forwarded_for`: the client's header, if any, and the peer. -/
def proxyAddXForwardedFor (header : Option Text) (peer : Text) : Text :=
  match header with
  | some h => h ++ ", ".toList ++ peer
  | none => peer

/-- The characters of the textual forms of addresses: hexadecimal digits, dots, colons. -/
def addressChar (c : Char) : Bool :=
  isDigit c || (decide ('a' ≤ c) && decide (c ≤ 'f')) || (decide ('A' ≤ c) && decide (c ≤ 'F')) ||
    c = '.' || c = ':'

/-- An address in textual IPv4 or IPv6 form, as the proxy writes it: without brackets. -/
structure PeerAddress where
  text : Text
  nonempty : text ≠ []
  chars : ∀ c ∈ text, addressChar c = true

/-- The text is `host:port`. -/
structure HostPort (v host port : Text) : Prop where
  eq : v = host ++ ':' :: port
  host : host ≠ []
  last : ':' ∉ port
  number : (atoi port).isSome = true

/-- What the first element of the client's header says is the peer: its address, or its
    address with a port, perhaps in brackets. -/
def Names (v : Text) (a : PeerAddress) : Prop :=
  (v = a.text ∧ ∀ host port, ¬ HostPort v host port) ∨
    ∃ host port, HostPort v host port ∧ trimBrackets host = a.text

/-- The request shows its peer: the client sends no such header, and the address does not end
    in a number after a colon; or the header names the peer in its first element. -/
def ShowsPeer (header : Option Text) (a : PeerAddress) : Prop :=
  match header with
  | none => ∀ host port, ¬ HostPort a.text host port
  | some h => Names (trimSpace (h.takeWhile (fun c => c ≠ ','))) a

-- ============================================================================
-- The last colon
-- ============================================================================

theorem lastIndex_eq_none {c : Char} {s : Text} (h : c ∉ s) : lastIndex c s = none := by
  induction s with
  | nil => rfl
  | cons x s ih =>
      rw [lastIndex, ih (fun hs => h (List.mem_cons_of_mem x hs))]
      exact if_neg (fun hx => h (by rw [hx]; exact List.mem_cons_self))

theorem lastIndex_append {c : Char} {p : Text} (h : c ∉ p) (w : Text) :
    lastIndex c (w ++ c :: p) = some w.length := by
  induction w with
  | nil =>
      rw [List.nil_append, lastIndex, lastIndex_eq_none h]
      exact if_pos rfl
  | cons x w ih => rw [List.cons_append, lastIndex, ih, List.length_cons]

/-- A text with a colon splits at the last one. -/
theorem split_last {c : Char} {s : Text} (h : c ∈ s) : ∃ w p, s = w ++ c :: p ∧ c ∉ p := by
  induction s with
  | nil => exact absurd h (by simp)
  | cons x s ih =>
      by_cases hs : c ∈ s
      · obtain ⟨w, p, rfl, hp⟩ := ih hs
        exact ⟨x :: w, p, rfl, hp⟩
      · obtain rfl := (List.mem_cons.mp h).resolve_right hs
        exact ⟨[], s, rfl, hs⟩

theorem stripPort_of_hostPort {v host port : Text} (h : HostPort v host port) :
    stripPort v = trimBrackets host := by
  have hpos : 0 < host.length := List.length_pos_iff.mpr h.host
  rw [stripPort, h.eq, lastIndex_append h.last]
  have hdrop : (host ++ ':' :: port).drop (host.length + 1) = port := by simp
  have htake : (host ++ ':' :: port).take host.length = host := by simp
  dsimp only
  rw [hdrop, htake, if_pos ⟨hpos, h.number⟩]

theorem stripPort_of_not {v : Text} (h : ∀ host port, ¬ HostPort v host port) :
    stripPort v = v := by
  by_cases hcolon : ':' ∈ v
  · obtain ⟨w, p, rfl, hp⟩ := split_last hcolon
    have hdrop : (w ++ ':' :: p).drop (w.length + 1) = p := by simp
    rw [stripPort, lastIndex_append hp]
    dsimp only
    rw [hdrop, if_neg]
    rintro ⟨hpos, hnumber⟩
    exact h w p ⟨rfl, List.length_pos_iff.mp hpos, hp, hnumber⟩
  · rw [stripPort, lastIndex_eq_none hcolon]

theorem stripPort_eq_iff {v : Text} {a : PeerAddress} : stripPort v = a.text ↔ Names v a := by
  by_cases hport : ∃ host port, HostPort v host port
  · obtain ⟨host, port, h⟩ := hport
    rw [stripPort_of_hostPort h]
    constructor
    · exact fun heq => .inr ⟨host, port, h, heq⟩
    · rintro (⟨-, hnone⟩ | ⟨host', port', h', heq⟩)
      · exact absurd h (hnone host port)
      · rw [← heq, ← stripPort_of_hostPort h', ← stripPort_of_hostPort h]
  · have hnone : ∀ host port, ¬ HostPort v host port := fun host port h => hport ⟨host, port, h⟩
    rw [stripPort_of_not hnone]
    constructor
    · exact fun heq => .inl ⟨heq, hnone⟩
    · rintro (⟨heq, -⟩ | ⟨host, port, h, -⟩)
      · exact heq
      · exact absurd h (hnone host port)

-- ============================================================================
-- The texts of addresses
-- ============================================================================

theorem addressChar_plain {c : Char} (h : addressChar c = true) : c ≠ ',' ∧ isSpace c = false := by
  have hrange : 46 ≤ c.toNat ∧ c.toNat ≤ 102 := by
    simp only [addressChar, isDigit, Bool.or_eq_true, Bool.and_eq_true, decide_eq_true_eq] at h
    obtain (((⟨hlo, hhi⟩ | ⟨hlo, hhi⟩) | ⟨hlo, hhi⟩) | rfl) | rfl := h
    · exact ⟨le_trans (by decide) (Char.le_def.mp hlo), le_trans (Char.le_def.mp hhi) (by decide)⟩
    · exact ⟨le_trans (by decide) (Char.le_def.mp hlo), le_trans (Char.le_def.mp hhi) (by decide)⟩
    · exact ⟨le_trans (by decide) (Char.le_def.mp hlo), le_trans (Char.le_def.mp hhi) (by decide)⟩
    · decide
    · decide
  refine ⟨?_, ?_⟩
  · rintro rfl
    exact absurd hrange.1 (by decide)
  · simp only [isSpace, Bool.or_eq_false_iff, Bool.and_eq_false_iff, decide_eq_false_iff_not]
    omega

/-- The proxy's own text is read as it is. -/
theorem first_of_address (a : PeerAddress) :
    trimSpace (a.text.takeWhile (fun c => c ≠ ',')) = a.text := by
  have hall : a.text.takeWhile (fun c => decide (c ≠ ',')) = a.text := by
    rw [List.takeWhile_eq_self_iff]
    intro c hc
    exact decide_eq_true (addressChar_plain (a.chars c hc)).1
  rw [hall]
  exact trimSpace_of_plain (fun c hc => (addressChar_plain (a.chars c hc)).2)

theorem length_trimBrackets_le (s : Text) : (trimBrackets s).length ≤ s.length := by
  rw [trimBrackets, List.length_reverse]
  refine le_trans (List.length_dropWhile_le _ _) ?_
  rw [List.length_reverse]
  exact List.length_dropWhile_le _ _

/-- Stripping a port leaves less. -/
theorem names_self_iff {a : PeerAddress} :
    Names a.text a ↔ ∀ host port, ¬ HostPort a.text host port := by
  constructor
  · rintro (⟨-, hnone⟩ | ⟨host, port, h, heq⟩)
    · exact hnone
    · have hlen := length_trimBrackets_le host
      rw [heq, h.eq, List.length_append, List.length_cons] at hlen
      omega
  · exact fun hnone => .inl ⟨rfl, hnone⟩

/-- The first element before the comma is the client's. -/
theorem first_of_header (h peer : Text) :
    (h ++ ", ".toList ++ peer).takeWhile (fun c => c ≠ ',') = h.takeWhile (fun c => c ≠ ',') := by
  induction h with
  | nil => rfl
  | cons c h ih =>
      by_cases hc : c = ','
      · simp [hc]
      · have hcons : ∀ l : Text, (c :: l).takeWhile (fun c => decide (c ≠ ',')) =
            c :: l.takeWhile (fun c => decide (c ≠ ',')) := by
          intro l
          rw [List.takeWhile_cons, if_pos (by simpa using hc)]
        rw [List.cons_append, List.cons_append, hcons, hcons]
        exact congrArg (c :: ·) ih

theorem remoteIP_eq_iff (proxy : Text) (header : Option Text) (a : PeerAddress) :
    remoteIP proxy (proxyAddXForwardedFor header a.text) = a.text ↔ ShowsPeer header a := by
  cases header with
  | none =>
      rw [remoteIP, proxyAddXForwardedFor, if_pos a.nonempty, first_of_address, stripPort_eq_iff]
      exact names_self_iff
  | some h =>
      have hsome : h ++ ", ".toList ++ a.text ≠ [] := by simp
      rw [remoteIP, proxyAddXForwardedFor, if_pos hsome, first_of_header, stripPort_eq_iff]
      exact Iff.rfl

/-- **The address behind the limiter.**  `RemoteIP` is the peer exactly if the request shows
    it; so the attempts that do share a bucket if and only if they come from one address. -/
theorem remoteIP_is_peer_iff (proxy : Text) :
    (∀ header a, remoteIP proxy (proxyAddXForwardedFor header a.text) = a.text ↔
      ShowsPeer header a) ∧
    ∀ header a header' a', ShowsPeer header a → ShowsPeer header' a' →
      (loginKey proxy (proxyAddXForwardedFor header a.text) =
        loginKey proxy (proxyAddXForwardedFor header' a'.text) ↔ a.text = a'.text) := by
  refine ⟨remoteIP_eq_iff proxy, ?_⟩
  intro header a header' a' h h'
  rw [loginKey, loginKey, (remoteIP_eq_iff proxy header a).mpr h,
    (remoteIP_eq_iff proxy header' a').mpr h']
  exact List.append_right_inj _

-- ============================================================================
-- Other people's buckets
-- ============================================================================

/-- A peer with an IPv4 address. -/
def peerV4 : PeerAddress :=
  ⟨"203.0.113.7".toList, by decide, List.all_eq_true.mp (by decide)⟩

/-- A peer with an IPv6 address. -/
def peerV6 : PeerAddress :=
  ⟨"2001:db8::1".toList, by decide, List.all_eq_true.mp (by decide)⟩

/-- A client that sends a header of its own is counted under it, and an IPv6 client loses the
    last group of its address. -/
theorem client_chooses_bucket :
    remoteIP [] (proxyAddXForwardedFor (some "198.51.100.1".toList) peerV4.text) =
      "198.51.100.1".toList ∧
    remoteIP [] (proxyAddXForwardedFor none peerV6.text) = "2001:db8:".toList ∧
    ¬ ∀ (header : Option Text) (a : PeerAddress), remoteIP [] (proxyAddXForwardedFor header a.text) = a.text := by
  refine ⟨by decide, by decide, fun h => ?_⟩
  exact absurd (h none peerV6) (by decide)

end WatchTogether.Accounts

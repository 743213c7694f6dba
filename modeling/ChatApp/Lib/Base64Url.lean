/-
  The base64 encoding of RFC 4648 with the alphabet for URLs, without padding. A decoder takes four
  digits at a time, and of the two or three digits at the end it refuses those with bits that stand
  for nothing.
-/
import Mathlib.Data.List.Basic
import ChatApp.Lib.Base64

namespace ChatApp.Lib.Base64

/-- `+` and `/` have other signs in the alphabet for URLs. -/
def urlSign (c : UInt8) : UInt8 := if c = 43 then 45 else if c = 47 then 95 else c

def encodeUrl (x : List UInt8) : List UInt8 := (encode x).map urlSign

/-- A letter, a digit, `-` or `_` -/
def UrlSafe (c : UInt8) : Prop :=
  48 ≤ c.toNat ∧ c.toNat ≤ 57 ∨ 65 ≤ c.toNat ∧ c.toNat ≤ 90 ∨ 97 ≤ c.toNat ∧ c.toNat ≤ 122 ∨
    c.toNat = 45 ∨ c.toNat = 95

instance (c : UInt8) : Decidable (UrlSafe c) := inferInstanceAs (Decidable (_ ∨ _))

/-- The six bits that a digit stands for -/
def urlValue (c : UInt8) : Option Nat :=
  if 65 ≤ c.toNat ∧ c.toNat ≤ 90 then some (c.toNat - 65)
  else if 97 ≤ c.toNat ∧ c.toNat ≤ 122 then some (c.toNat - 71)
  else if 48 ≤ c.toNat ∧ c.toNat ≤ 57 then some (c.toNat + 4)
  else if c.toNat = 45 then some 62
  else if c.toNat = 95 then some 63
  else none

def decodeUrl : List UInt8 → Option (List UInt8)
  | a :: b :: c :: d :: rest => do
    let a ← urlValue a
    let b ← urlValue b
    let c ← urlValue c
    let d ← urlValue d
    let rest ← decodeUrl rest
    return .ofNat (a * 4 + b / 16) :: .ofNat (b % 16 * 16 + c / 4) :: .ofNat (c % 4 * 64 + d) ::
      rest
  | [a, b, c] => do
    let a ← urlValue a
    let b ← urlValue b
    let c ← urlValue c
    if c % 4 = 0 then some [.ofNat (a * 4 + b / 16), .ofNat (b % 16 * 16 + c / 4)] else none
  | [a, b] => do
    let a ← urlValue a
    let b ← urlValue b
    if b % 16 = 0 then some [.ofNat (a * 4 + b / 16)] else none
  | [_] => none
  | [] => some []

theorem urlSafe_digit : ∀ n < 64, UrlSafe (urlSign (digit n)) := by
  decide +kernel

theorem urlValue_digit : ∀ n < 64, urlValue (urlSign (digit n)) = some n := by
  decide +kernel

/-- Padding is no digit, in either alphabet. -/
theorem digit_ne_pad : ∀ n < 64, urlSign (digit n) ≠ pad := by
  decide +kernel

/-- What holds of each digit holds of everything that is written. -/
theorem forall_encodeUrl {p : UInt8 → Prop} (h : ∀ n < 64, p (urlSign (digit n)))
    (x : List UInt8) : ∀ c ∈ encodeUrl x, p c := by
  unfold encodeUrl
  fun_induction encode x with
  | case1 a b c rest ih =>
    have ha := a.toNat_lt
    have hb := b.toNat_lt
    have hc := c.toNat_lt
    simp only [List.map_cons, List.forall_mem_cons]
    exact ⟨h _ (by omega), h _ (by omega), h _ (by omega), h _ (by omega), ih⟩
  | case2 a b =>
    have ha := a.toNat_lt
    have hb := b.toNat_lt
    simp only [List.map_cons, List.map_nil, List.forall_mem_cons]
    exact ⟨h _ (by omega), h _ (by omega), h _ (by omega), fun _ h => absurd h List.not_mem_nil⟩
  | case3 a =>
    have ha := a.toNat_lt
    simp only [List.map_cons, List.map_nil, List.forall_mem_cons]
    exact ⟨h _ (by omega), h _ (by omega), fun _ h => absurd h List.not_mem_nil⟩
  | case4 => exact fun _ h => absurd h List.not_mem_nil

theorem urlSafe_encodeUrl (x : List UInt8) : ∀ c ∈ encodeUrl x, UrlSafe c :=
  forall_encodeUrl urlSafe_digit x

theorem ofNat_eq_of {n : Nat} {b : UInt8} (h : n = b.toNat) : UInt8.ofNat n = b := by
  rw [h, UInt8.ofNat_toNat]

/-- Decoding undoes encoding. -/
theorem decodeUrl_encodeUrl (x : List UInt8) : decodeUrl (encodeUrl x) = some x := by
  unfold encodeUrl
  fun_induction encode x with
  | case1 a b c rest ih =>
    have ha := a.toNat_lt
    have hb := b.toNat_lt
    have hc := c.toNat_lt
    simp only [List.map_cons, decodeUrl]
    rw [urlValue_digit _ (by omega), urlValue_digit _ (by omega), urlValue_digit _ (by omega),
      urlValue_digit _ (by omega), ih]
    show some (_ :: _ :: _ :: rest) = _
    rw [ofNat_eq_of (b := a) (by omega), ofNat_eq_of (b := b) (by omega),
      ofNat_eq_of (b := c) (by omega)]
  | case2 a b =>
    have ha := a.toNat_lt
    have hb := b.toNat_lt
    simp only [List.map_cons, List.map_nil, decodeUrl]
    rw [urlValue_digit _ (by omega), urlValue_digit _ (by omega), urlValue_digit _ (by omega)]
    show (if b.toNat % 16 * 4 % 4 = 0 then some [_, _] else none) = _
    rw [if_pos (by omega), ofNat_eq_of (b := a) (by omega), ofNat_eq_of (b := b) (by omega)]
  | case3 a =>
    have ha := a.toNat_lt
    simp only [List.map_cons, List.map_nil, decodeUrl]
    rw [urlValue_digit _ (by omega), urlValue_digit _ (by omega)]
    show (if a.toNat % 4 * 16 % 16 = 0 then some [_] else none) = _
    rw [if_pos (by omega), ofNat_eq_of (b := a) (by omega)]
  | case4 => rfl

/-- The signs are replaced in the padded encoding, and the padding is removed. -/
theorem encodePadded_url (x : List UInt8) :
    ((encodePadded x).map urlSign).filter (· ≠ pad) = encodeUrl x := by
  have hdigits : (encodeUrl x).filter (· ≠ pad) = encodeUrl x :=
    List.filter_eq_self.2 fun c hc =>
      decide_eq_true (forall_encodeUrl (p := (· ≠ pad)) digit_ne_pad x c hc)
  have hpads : ∀ n, ((List.replicate n pad).map urlSign).filter (· ≠ pad) = [] := by
    intro n
    rw [List.map_replicate, List.filter_eq_nil_iff]
    intro c hc
    obtain rfl := List.eq_of_mem_replicate hc
    decide
  rw [encodePadded, List.map_append, List.filter_append, hpads, List.append_nil]
  exact hdigits

end ChatApp.Lib.Base64

/-
  The standard base64 encoding, with and without padding: three bytes are four digits, and one or
  two bytes that are left are two or three.
-/
import Mathlib.Data.List.Basic

namespace ChatApp.Lib.Base64

/-- The digit for six bits. -/
def digit (n : Nat) : UInt8 :=
  if n < 26 then .ofNat (n + 65)
  else if n < 52 then .ofNat (n + 71)
  else if n < 62 then .ofNat (n - 4)
  else if n = 62 then 43
  else 47

/-- Without padding. -/
def encode : List UInt8 → List UInt8
  | a :: b :: c :: rest =>
    digit (a.toNat / 4) :: digit (a.toNat % 4 * 16 + b.toNat / 16) ::
      digit (b.toNat % 16 * 4 + c.toNat / 64) :: digit (c.toNat % 64) :: encode rest
  | [a, b] =>
    [digit (a.toNat / 4), digit (a.toNat % 4 * 16 + b.toNat / 16), digit (b.toNat % 16 * 4)]
  | [a] => [digit (a.toNat / 4), digit (a.toNat % 4 * 16)]
  | [] => []

/-- `=` -/
def pad : UInt8 := 61

/-- With padding, to a multiple of four. -/
def encodePadded (x : List UInt8) : List UInt8 :=
  encode x ++ List.replicate ((3 - x.length % 3) % 3) pad

theorem digit_toNat_lt (n : Nat) : (digit n).toNat < 128 := by
  unfold digit
  repeat' split
  all_goals first | decide | (rw [UInt8.toNat_ofNat']; omega)

theorem encode_ascii (x : List UInt8) : ∀ c ∈ encode x, c.toNat < 128 := by
  fun_induction encode x with
  | case1 a b c rest ih =>
    intro d hd
    simp only [List.mem_cons] at hd
    rcases hd with rfl | rfl | rfl | rfl | hd
    · exact digit_toNat_lt _
    · exact digit_toNat_lt _
    · exact digit_toNat_lt _
    · exact digit_toNat_lt _
    · exact ih d hd
  | case2 a b => simp [digit_toNat_lt]
  | case3 a => simp [digit_toNat_lt]
  | case4 => simp

theorem encodePadded_ascii (x : List UInt8) : ∀ c ∈ encodePadded x, c.toNat < 128 := by
  intro c hc
  rcases List.mem_append.1 hc with hc | hc
  · exact encode_ascii x c hc
  · obtain rfl := List.eq_of_mem_replicate hc
    decide

theorem encode_length (x : List UInt8) : (encode x).length = (4 * x.length + 2) / 3 := by
  fun_induction encode x with
  | case1 a b c rest ih =>
    simp only [List.length_cons, ih]
    omega
  | case2 a b => simp
  | case3 a => simp
  | case4 => rfl

/-- Four digits for every three bytes that are begun. -/
theorem encodePadded_length (x : List UInt8) :
    (encodePadded x).length = 4 * ((x.length + 2) / 3) := by
  rw [encodePadded, List.length_append, encode_length, List.length_replicate]
  omega

end ChatApp.Lib.Base64

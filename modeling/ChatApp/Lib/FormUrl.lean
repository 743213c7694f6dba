/-
  The body of a POST request of the type `application/x-www-form-urlencoded`, as a server decodes
  it. Names and values of plain characters stand for themselves (`decode_join`).
-/
import Mathlib.Data.List.Basic

namespace ChatApp.Lib.FormUrl

/-- A hexadecimal digit -/
def hexDigit? (c : UInt8) : Option Nat :=
  if 48 ≤ c.toNat ∧ c.toNat ≤ 57 then some (c.toNat - 48)
  else if 65 ≤ c.toNat ∧ c.toNat ≤ 70 then some (c.toNat - 55)
  else if 97 ≤ c.toNat ∧ c.toNat ≤ 102 then some (c.toNat - 87)
  else none

/-- A plus sign is a space, and `%` stands before the two digits of a byte. -/
def decodePart : List UInt8 → List UInt8
  | [] => []
  | c :: s =>
    if c = 43 then 32 :: decodePart s
    else if c = 37 then
      match s with
      | a :: b :: s' =>
        match hexDigit? a, hexDigit? b with
        | some high, some low => .ofNat (high * 16 + low) :: decodePart s'
        | _, _ => 37 :: decodePart (a :: b :: s')
      | s => 37 :: decodePart s
    else c :: decodePart s

/-- The name and the value of a field -/
def decodeField (s : List UInt8) : List UInt8 × List UInt8 :=
  (decodePart (s.takeWhile (· ≠ 61)), decodePart ((s.dropWhile (· ≠ 61)).drop 1))

/-- The fields are divided by `&`. -/
def decode (body : List UInt8) : List (List UInt8 × List UInt8) :=
  (body.splitOn 38).map decodeField

/-- Fields that are written without escapes -/
def join (fields : List (List UInt8 × List UInt8)) : List UInt8 :=
  [38].intercalate (fields.map fun f => f.1 ++ 61 :: f.2)

/-- It stands for itself in a name or a value. -/
def Plain (c : UInt8) : Prop := c ≠ 43 ∧ c ≠ 37 ∧ c ≠ 38 ∧ c ≠ 61

instance (c : UInt8) : Decidable (Plain c) := inferInstanceAs (Decidable (_ ∧ _))

variable {s name value : List UInt8}

theorem decodePart_plain (h : ∀ c ∈ s, Plain c) : decodePart s = s := by
  induction s with
  | nil => rw [decodePart]
  | cons c s ih =>
    obtain ⟨⟨hplus, hpercent, -⟩, hs⟩ := List.forall_mem_cons.1 h
    unfold decodePart
    rw [if_neg hplus, if_neg hpercent, ih hs]

theorem decodeField_plain (hname : ∀ c ∈ name, Plain c) (hvalue : ∀ c ∈ value, Plain c) :
    decodeField (name ++ 61 :: value) = (name, value) := by
  have hne : ∀ c ∈ name, decide (c ≠ 61) = true := fun c hc => decide_eq_true (hname c hc).2.2.2
  have htake : (name ++ 61 :: value).takeWhile (· ≠ 61) = name := by
    rw [List.takeWhile_append_of_pos hne, List.takeWhile_cons_of_neg (by decide), List.append_nil]
  have hdrop : (name ++ 61 :: value).dropWhile (· ≠ 61) = 61 :: value := by
    rw [List.dropWhile_append_of_pos hne, List.dropWhile_cons_of_neg (by decide)]
  rw [decodeField, htake, hdrop]
  exact Prod.ext (decodePart_plain hname) (decodePart_plain hvalue)

theorem decode_join {fields : List (List UInt8 × List UInt8)} (hne : fields ≠ [])
    (h : ∀ f ∈ fields, (∀ c ∈ f.1, Plain c) ∧ ∀ c ∈ f.2, Plain c) :
    decode (join fields) = fields := by
  have hsep : ∀ l ∈ fields.map fun f => f.1 ++ 61 :: f.2, (38 : UInt8) ∉ l := by
    intro l hl hmem
    obtain ⟨f, hf, rfl⟩ := List.mem_map.1 hl
    rcases List.mem_append.1 hmem with hmem | hmem
    · exact ((h f hf).1 _ hmem).2.2.1 rfl
    · rcases List.mem_cons.1 hmem with heq | hmem
      · exact absurd heq (by decide)
      · exact ((h f hf).2 _ hmem).2.2.1 rfl
  rw [decode, join, List.splitOn_intercalate _ hsep (by rwa [ne_eq, List.map_eq_nil_iff]),
    List.map_map]
  calc fields.map _ = fields.map id :=
        List.map_congr_left fun f hf => decodeField_plain (h f hf).1 (h f hf).2
    _ = fields := List.map_id _

end ChatApp.Lib.FormUrl

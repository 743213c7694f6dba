/-
  The two base64 decoders: `base64_decode` of the session, and the one in
  `HttpGateway::handle_upload`. Both shift every digit into an `int` that is never masked, so it
  wraps around; what they write depends on its low bits only (`decodeLoop_low`).
-/
import Mathlib.Data.Int.ModEq
import Mathlib.Tactic.IntervalCases
import Mathlib.Tactic.Positivity
import ChatApp.Lib.Base64
import ChatApp.Session.Handlers

namespace ChatApp.Media

open ChatApp.Lib ChatApp.Protocol ChatApp.Session

/-! ## Decoders -/

/-- `decode_table` of the session -/
def sessionTable (c : UInt8) : Int :=
  match Session.base64Value c with
  | some v => v
  | none => -1

/-- `decode_table` of the gateway -/
def gatewayTable (c : UInt8) : Int := [
  -1,-1,-1,-1,-1,-1,-1,-1,-1,-1,-1,-1,-1,-1,-1,-1,
  -1,-1,-1,-1,-1,-1,-1,-1,-1,-1,-1,-1,-1,-1,-1,-1,
  -1,-1,-1,-1,-1,-1,-1,-1,-1,-1,-1,62,-1,-1,-1,63,
  52,53,54,55,56,57,58,59,60,61,-1,-1,-1,-1,-1,-1,
  -1, 0, 1, 2, 3, 4, 5, 6, 7, 8, 9,10,11,12,13,14,
  15,16,17,18,19,20,21,22,23,24,25,-1,-1,-1,-1,-1,
  -1,26,27,28,29,30,31,32,33,34,35,36,37,38,39,40,
  41,42,43,44,45,46,47,48,49,50,51,-1,-1,-1,-1,-1,
  -1,-1,-1,-1,-1,-1,-1,-1,-1,-1,-1,-1,-1,-1,-1,-1,
  -1,-1,-1,-1,-1,-1,-1,-1,-1,-1,-1,-1,-1,-1,-1,-1,
  -1,-1,-1,-1,-1,-1,-1,-1,-1,-1,-1,-1,-1,-1,-1,-1,
  -1,-1,-1,-1,-1,-1,-1,-1,-1,-1,-1,-1,-1,-1,-1,-1,
  -1,-1,-1,-1,-1,-1,-1,-1,-1,-1,-1,-1,-1,-1,-1,-1,
  -1,-1,-1,-1,-1,-1,-1,-1,-1,-1,-1,-1,-1,-1,-1,-1,
  -1,-1,-1,-1,-1,-1,-1,-1,-1,-1,-1,-1,-1,-1,-1,-1,
  -1,-1,-1,-1,-1,-1,-1,-1,-1,-1,-1,-1,-1,-1,-1,-1].getD c.toNat (-1)

/-- The loop of both decoders, on `int`s. -/
def decodeLoop (table : UInt8 → Int) : List UInt8 → Int → Int → List UInt8
  | [], _, _ => []
  | c :: cs, val, valb =>
    if table c = -1 then []
    else
      let val := toInt32 (toInt32 (val <<< (6 : Nat)) + table c)
      let valb := valb + 6
      if 0 ≤ valb then
        .ofNat ((val >>> valb.toNat) % 256).toNat :: decodeLoop table cs val (valb - 8)
      else decodeLoop table cs val valb

def sessionDecode (encoded : List UInt8) : List UInt8 := decodeLoop sessionTable encoded 0 (-8)

def gatewayDecode (encoded : List UInt8) : List UInt8 := decodeLoop gatewayTable encoded 0 (-8)

theorem tables_eq : gatewayTable = sessionTable := by
  funext c
  unfold gatewayTable
  -- entry by entry, so that the kernel does not look up 256 numbers
  refine (congrArg (·.getD c.toNat (-1))
    (?_ : _ = (List.range 256).map fun n => sessionTable (.ofNat n))).trans ?_
  · decide +kernel
  · have hc : c.toNat < 256 := c.toNat_lt
    rw [List.getD_eq_getElem?_getD, List.getElem?_map, List.getElem?_range hc, Option.map_some,
      Option.getD_some, UInt8.ofNat_toNat]

/-! ## The low bits -/

theorem toInt32_modEq (n : Int) {j : Nat} (hj : j ≤ 32) : toInt32 n ≡ n [ZMOD 2 ^ j] := by
  have hdvd : (2 : Int) ^ j ∣ 4294967296 := pow_dvd_pow 2 hj
  have hwrap : toInt32 n % 4294967296 = n % 4294967296 := Int.bmod_emod
  calc toInt32 n % 2 ^ j = toInt32 n % 4294967296 % 2 ^ j := (Int.emod_emod_of_dvd _ hdvd).symm
    _ = n % 4294967296 % 2 ^ j := by rw [hwrap]
    _ = n % 2 ^ j := Int.emod_emod_of_dvd _ hdvd

/-- The bits above the lowest `j` -/
theorem ediv_modEq {v w m : Int} {j : Nat} (h : v ≡ w [ZMOD 2 ^ j * m]) :
    v / 2 ^ j ≡ w / 2 ^ j [ZMOD m] := by
  obtain ⟨q, hq⟩ := h.dvd
  have hw : w = v + 2 ^ j * (m * q) := by
    rw [← mul_assoc, ← hq]
    omega
  rw [hw, Int.add_mul_ediv_left _ _ (by positivity)]
  exact (Int.add_mul_emod_self_left _ _ _).symm

/-- Of the accumulator, the `k` bits that are left over count. -/
theorem decodeLoop_low (table : UInt8 → Int) (cs : List UInt8) {k : Nat} (hk : k < 8) {v w : Int}
    (h : v ≡ w [ZMOD 2 ^ k]) : decodeLoop table cs v (k - 8) = decodeLoop table cs w (k - 8) := by
  induction cs generalizing k v w with
  | nil => rfl
  | cons c cs ih =>
    have hstep : toInt32 (toInt32 (v <<< (6 : Nat)) + table c) ≡
        toInt32 (toInt32 (w <<< (6 : Nat)) + table c) [ZMOD 2 ^ (k + 6)] := by
      have hwrap : ∀ x, toInt32 x ≡ x [ZMOD 2 ^ (k + 6)] := fun x => toInt32_modEq x (by omega)
      have hshift : v <<< (6 : Nat) ≡ w <<< (6 : Nat) [ZMOD 2 ^ (k + 6)] := by
        rw [Int.shiftLeft_eq, Int.shiftLeft_eq, pow_add]
        exact h.mul_right'
      have hsum := ((hwrap _).trans (hshift.trans (hwrap _).symm)).add_right (table c)
      exact (hwrap _).trans (hsum.trans (hwrap _).symm)
    rw [decodeLoop, decodeLoop]
    split
    next => rfl
    next =>
      dsimp only
      generalize toInt32 (toInt32 (v <<< (6 : Nat)) + table c) = v' at hstep ⊢
      generalize toInt32 (toInt32 (w <<< (6 : Nat)) + table c) = w' at hstep ⊢
      split
      next hbyte =>
        -- eight bits are written, `k - 2` are left over
        obtain ⟨j, rfl⟩ : ∃ j, k = j + 2 := ⟨k - 2, by omega⟩
        have hshift : ((j + 2 : Nat) - 8 + 6 : Int).toNat = j := by omega
        have hrest : ((j + 2 : Nat) - 8 + 6 - 8 : Int) = (j : Int) - 8 := by omega
        have hlow : v' ≡ w' [ZMOD 2 ^ j] := hstep.of_dvd (pow_dvd_pow 2 (by omega))
        have hhigh : v' / 2 ^ j % 256 = w' / 2 ^ j % 256 := by
          refine ediv_modEq (hstep.of_dvd (dvd_of_eq ?_))
          rw [pow_add, pow_add, mul_assoc]
          rfl
        rw [hshift, hrest, Int.shiftRight_eq_div_pow, Int.shiftRight_eq_div_pow,
          Int.natCast_pow, ih (by omega) hlow]
        exact congrArg (fun n : Int => UInt8.ofNat n.toNat :: _) hhigh
      next hbyte =>
        have hrest : ((k : Nat) - 8 + 6 : Int) = ((k + 6 : Nat) : Int) - 8 := by omega
        rw [hrest]
        exact ih (by omega) hstep

/-! ## Round trips -/

theorem sessionTable_digit {n : Nat} (hn : n < 64) : sessionTable (Base64.digit n) = n := by
  have hall : ∀ n < 64, sessionTable (Base64.digit n) = (n : Int) := by decide +kernel
  exact hall n hn

/-- A digit, when `k` bits are left over. -/
theorem decodeLoop_digit {c : UInt8} {k n v : Nat} (hk : k < 8) (hn : n < 64) (hv : v < 2 ^ k)
    (hc : sessionTable c = n) (cs : List UInt8) : decodeLoop sessionTable (c :: cs) v (k - 8) =
      if k < 2 then decodeLoop sessionTable cs (v * 64 + n : Nat) ((k + 6 : Nat) - 8)
      else .ofNat ((v * 64 + n) / 2 ^ (k - 2)) ::
        decodeLoop sessionTable cs ((v * 64 + n) % 2 ^ (k - 2) : Nat) ((k - 2 : Nat) - 8) := by
  have hsmall : v < 128 := by
    interval_cases k <;> omega
  have hval :
      toInt32 (toInt32 ((v : Int) <<< (6 : Nat)) + sessionTable c) = (v * 64 + n : Nat) := by
    have hwide : ∀ {i : Int}, 0 ≤ i → i < 2 ^ 31 → toInt32 i = i := fun h₀ h₁ =>
      Int.bmod_eq_of_le (by omega) (by omega)
    rw [hc, Int.shiftLeft_eq, hwide (i := v * 2 ^ 6) (by omega) (by omega),
      hwide (by omega) (by omega)]
    omega
  have hdigit : sessionTable c ≠ -1 := by
    rw [hc]
    omega
  rw [decodeLoop, if_neg hdigit, hval]
  dsimp only
  clear hval hdigit hc
  split
  next hbyte =>
    obtain ⟨j, rfl⟩ : ∃ j, k = j + 2 := ⟨k - 2, by omega⟩
    have hshift : ((j + 2 : Nat) - 8 + 6 : Int).toNat = j := by omega
    have hrest : ((j + 2 : Nat) - 8 + 6 - 8 : Int) = (j : Int) - 8 := by omega
    have hlow : ((v * 64 + n : Nat) : Int) ≡ ((v * 64 + n) % 2 ^ j : Nat) [ZMOD 2 ^ j] := by
      simp [Int.ModEq]
    rw [if_neg (by omega), hshift, hrest, decodeLoop_low _ cs (by omega) hlow,
      Int.shiftRight_eq_div_pow]
    have hbyte : .ofNat (((v * 64 + n : Nat) : Int) / (2 ^ j : Nat) % 256).toNat =
        UInt8.ofNat ((v * 64 + n) / 2 ^ j) := by
      have hnat : (((v * 64 + n : Nat) : Int) / (2 ^ j : Nat) % 256).toNat =
          (v * 64 + n) / 2 ^ j % 256 := by
        rw [← Int.natCast_ediv]
        omega
      rw [hnat, ← UInt8.toNat_inj, UInt8.toNat_ofNat', UInt8.toNat_ofNat']
      exact Nat.mod_mod _ _
    rw [hbyte]
    rfl
  next hbyte =>
    rw [if_pos (by omega)]
    congr 1
    omega

theorem pads_decode (m : Nat) (v valb : Int) :
    decodeLoop sessionTable (List.replicate m Base64.pad) v valb = [] := by
  have hpad : sessionTable Base64.pad = -1 := by decide
  cases m with
  | zero => rfl
  | succ m => rw [List.replicate_succ, decodeLoop, if_pos hpad]

theorem ofNat_eq {n : Nat} {b : UInt8} (h : n % 256 = b.toNat) : .ofNat n = b := by
  rw [← UInt8.toNat_inj, UInt8.toNat_ofNat']
  exact h

/-- A digit of an encoding that completes a byte. -/
theorem decodeLoop_byte {k n v : Nat} (hk : k < 8) (htwo : 2 ≤ k) (hn : n < 64) (hv : v < 2 ^ k)
    (cs : List UInt8) : decodeLoop sessionTable (Base64.digit n :: cs) v (k - 8) =
      .ofNat ((v * 64 + n) / 2 ^ (k - 2)) ::
        decodeLoop sessionTable cs ((v * 64 + n) % 2 ^ (k - 2) : Nat) ((k - 2 : Nat) - 8) := by
  rw [decodeLoop_digit hk hn hv (sessionTable_digit hn), if_neg (Nat.not_lt.2 htwo)]

/-- The first digit of a quantum. -/
theorem decodeLoop_first {n : Nat} (hn : n < 64) (v : Int) (cs : List UInt8) :
    decodeLoop sessionTable (Base64.digit n :: cs) v (-8) =
      decodeLoop sessionTable cs (n : Nat) ((6 : Nat) - 8) := by
  have hlow : v ≡ ((0 : Nat) : Int) [ZMOD 2 ^ 0] := Int.modEq_one
  have hdigit := decodeLoop_digit (k := 0) (v := 0) (by decide) hn (by decide)
    (sessionTable_digit hn) cs
  rw [if_pos (by decide), Nat.zero_mul, Nat.zero_add] at hdigit
  exact (decodeLoop_low sessionTable _ (by decide) hlow).trans hdigit

/-- What is encoded is decoded, whatever the bits before. -/
theorem decodeLoop_encode (x : List UInt8) (m : Nat) (v : Int) :
    decodeLoop sessionTable (Base64.encode x ++ List.replicate m Base64.pad) v (-8) = x := by
  fun_induction Base64.encode x generalizing v with
  | case1 a b c rest ih =>
    have ha := a.toNat_lt
    have hb := b.toNat_lt
    have hc := c.toNat_lt
    rw [List.cons_append, List.cons_append, List.cons_append, List.cons_append,
      decodeLoop_first (by omega), decodeLoop_byte (by decide) (by decide) (by omega) (by omega),
      decodeLoop_byte (by decide) (by decide) (by omega) (by omega),
      decodeLoop_byte (by decide) (by decide) (by omega) (by omega)]
    refine List.cons_eq_cons.2 ⟨ofNat_eq (by omega), List.cons_eq_cons.2 ⟨ofNat_eq (by omega),
      List.cons_eq_cons.2 ⟨ofNat_eq (by omega), ih _⟩⟩⟩
  | case2 a b =>
    have ha := a.toNat_lt
    have hb := b.toNat_lt
    rw [List.cons_append, List.cons_append, List.cons_append, List.nil_append,
      decodeLoop_first (by omega), decodeLoop_byte (by decide) (by decide) (by omega) (by omega),
      decodeLoop_byte (by decide) (by decide) (by omega) (by omega), pads_decode]
    exact List.cons_eq_cons.2 ⟨ofNat_eq (by omega), List.cons_eq_cons.2 ⟨ofNat_eq (by omega), rfl⟩⟩
  | case3 a =>
    have ha := a.toNat_lt
    rw [List.cons_append, List.cons_append, List.nil_append, decodeLoop_first (by omega),
      decodeLoop_byte (by decide) (by decide) (by omega) (by omega), pads_decode]
    exact List.cons_eq_cons.2 ⟨ofNat_eq (by omega), rfl⟩
  | case4 => exact pads_decode m v (-8)

/-- Both decoders read back what is encoded, with padding and without it, and agree on every
    text. -/
theorem decoders_sound :
    (∀ x, sessionDecode (Base64.encodePadded x) = x ∧ sessionDecode (Base64.encode x) = x ∧
      gatewayDecode (Base64.encodePadded x) = x ∧ gatewayDecode (Base64.encode x) = x) ∧
    ∀ encoded, sessionDecode encoded = gatewayDecode encoded := by
  have hagree : ∀ encoded, sessionDecode encoded = gatewayDecode encoded := by
    intro encoded
    rw [sessionDecode, gatewayDecode, tables_eq]
  have hpadded : ∀ x, sessionDecode (Base64.encodePadded x) = x := fun x =>
    decodeLoop_encode x _ 0
  have hplain : ∀ x, sessionDecode (Base64.encode x) = x := by
    intro x
    have hdecode := decodeLoop_encode x 0 0
    rwa [List.replicate_zero, List.append_nil] at hdecode
  exact ⟨fun x => ⟨hpadded x, hplain x, hagree _ ▸ hpadded x, hagree _ ▸ hplain x⟩, hagree⟩

/-! ## The decoder of the handler -/

theorem base64Value_lt {c : UInt8} {n : Nat} (h : Session.base64Value c = some n) : n < 64 := by
  unfold Session.base64Value at h
  dsimp only at h
  have hc := c.toNat_lt
  repeat' split at h
  all_goals simp only [Option.some.injEq, reduceCtorEq] at h
  all_goals omega

/-- `handle_media_upload` is modelled with an accumulator that is no `int`. -/
theorem base64Loop_eq {k : Nat} (hk : k < 8) (n : Nat) (cs : List UInt8) :
    Session.base64Loop cs n (k - 8) = decodeLoop sessionTable cs (n % 2 ^ k : Nat) (k - 8) := by
  induction cs generalizing k n with
  | nil => rfl
  | cons c cs ih =>
    rw [Session.base64Loop]
    cases hc : Session.base64Value c with
    | none =>
      have htable : sessionTable c = -1 := by simp [sessionTable, hc]
      rw [decodeLoop, if_pos htable]
    | some t =>
      have htable : sessionTable c = t := by simp [sessionTable, hc]
      have ht := base64Value_lt hc
      rw [decodeLoop_digit hk ht (Nat.mod_lt _ (Nat.two_pow_pos k)) htable]
      dsimp only
      split
      next hbyte =>
        obtain ⟨j, rfl⟩ : ∃ j, k = j + 2 := ⟨k - 2, by omega⟩
        have hj : j < 6 := by omega
        have hshift : ((j + 2 : Nat) - 8 + 6 : Int).toNat = j := by omega
        have hrest : ((j + 2 : Nat) - 8 - 2 : Int) = (j : Int) - 8 := by omega
        have hlow : (n * 64 + t) % 2 ^ 32 % 2 ^ j = (n % 2 ^ (j + 2) * 64 + t) % 2 ^ j := by
          interval_cases j <;> omega
        have hhigh : .ofNat ((n * 64 + t) % 2 ^ 32 / 2 ^ j) =
            UInt8.ofNat ((n % 2 ^ (j + 2) * 64 + t) / 2 ^ j) := by
          refine ofNat_eq ?_
          rw [UInt8.toNat_ofNat']
          interval_cases j <;> omega
        rw [if_neg (by omega), hshift, hrest, ih (by omega), hlow, hhigh]
        rfl
      next hbyte =>
        have hlow : (n * 64 + t) % 2 ^ 32 % 2 ^ (k + 6) = n % 2 ^ k * 64 + t := by
          interval_cases k <;> omega
        have hrest : ((k : Nat) - 8 + 6 : Int) = ((k + 6 : Nat) : Int) - 8 := by omega
        rw [if_pos (by omega), hrest, ih (by omega), hlow]

theorem base64Decode_eq (encoded : String) :
    Session.base64Decode encoded = sessionDecode encoded.toUTF8.toList :=
  base64Loop_eq (k := 0) (by decide) 0 _

end ChatApp.Media

/-
  The accumulator of the base64 decoders. Every digit is shifted into an `int` that is never
  masked; `decodeLoop` lets it wrap around, but in C++17 a result out of range is undefined.
  `checkedLoop` faults there.

  `accumulator_iff`: there is no fault exactly as long as the text is short, five digits after
  leading zeros (`A`), or six when the first is a one (`B`). Then the bytes are those of
  `decodeLoop`.
-/
import ChatApp.Lib.Checked
import ChatApp.Media.Base64

namespace ChatApp.Media

open ChatApp.Lib ChatApp.Lib.Checked ChatApp.Protocol ChatApp.Session

/-- The loop of both decoders, with `int`s that have to be in range. -/
def checkedLoop (table : UInt8 → Int) : List UInt8 → Int → Int → Checked (List UInt8)
  | [], _, _ => return []
  | c :: cs, val, valb => do
    if table c = -1 then return []
    let val ← int32 (val * 64 + table c)
    let valb ← int32 (valb + 6)
    if 0 ≤ valb then
      let rest ← checkedLoop table cs val (← int32 (valb - 8))
      return .ofNat ((val >>> valb.toNat) % 256).toNat :: rest
    else checkedLoop table cs val valb

def sessionChecked (encoded : List UInt8) : Checked (List UInt8) :=
  checkedLoop sessionTable encoded 0 (-8)

def gatewayChecked (encoded : List UInt8) : Checked (List UInt8) :=
  checkedLoop gatewayTable encoded 0 (-8)

/-- The values of the digits before the first character that is none. -/
def digits : List UInt8 → List Nat
  | [] => []
  | c :: cs =>
    match Session.base64Value c with
    | some d => d :: digits cs
    | none => []

/-- After leading zeros at most five digits, or six and the first is a one. -/
def Short (encoded : List UInt8) : Prop :=
  let significant := (digits encoded).dropWhile (· = 0)
  significant.length ≤ 5 ∨ significant.length = 6 ∧ significant.head? = some 1

/-! ## The number that is collected -/

/-- Digits behind a number. -/
def collect (n : Nat) (ds : List Nat) : Nat := ds.foldl (fun n d => n * 64 + d) n

variable {n d : Nat} {ds : List Nat} {cs : List UInt8}

theorem collect_bounds (h : ∀ d ∈ ds, d < 64) :
    n * 64 ^ ds.length ≤ collect n ds ∧ collect n ds < (n + 1) * 64 ^ ds.length := by
  induction ds generalizing n with
  | nil => simp [collect]
  | cons d ds ih =>
    have hd : d < 64 := h d List.mem_cons_self
    have hrest := ih (n := n * 64 + d) fun d' hd' => h d' (List.mem_cons_of_mem _ hd')
    have hlow : n * 64 ≤ n * 64 + d := Nat.le_add_right _ _
    have hhigh : n * 64 + d + 1 ≤ (n + 1) * 64 := by omega
    rw [List.length_cons, Nat.pow_succ']
    constructor
    · calc n * (64 * 64 ^ ds.length) = n * 64 * 64 ^ ds.length := (Nat.mul_assoc ..).symm
        _ ≤ (n * 64 + d) * 64 ^ ds.length := Nat.mul_le_mul_right _ hlow
        _ ≤ collect n (d :: ds) := hrest.1
    · calc collect n (d :: ds) < (n * 64 + d + 1) * 64 ^ ds.length := hrest.2
        _ ≤ (n + 1) * 64 * 64 ^ ds.length := Nat.mul_le_mul_right _ hhigh
        _ = (n + 1) * (64 * 64 ^ ds.length) := Nat.mul_assoc ..

theorem le_collect (h : ∀ d ∈ ds, d < 64) : n ≤ collect n ds :=
  Nat.le_trans (Nat.le_mul_of_pos_right n (Nat.pow_pos (by decide))) (collect_bounds h).1

theorem collect_dropWhile (ds : List Nat) : collect 0 (ds.dropWhile (· = 0)) = collect 0 ds := by
  induction ds with
  | nil => rfl
  | cons d ds ih =>
    by_cases hd : d = 0
    · subst hd
      exact ih
    · rw [List.dropWhile_cons_of_neg (by simpa using hd)]

theorem digits_lt (cs : List UInt8) : ∀ d ∈ digits cs, d < 64 := by
  induction cs with
  | nil => nofun
  | cons c cs ih =>
    unfold digits
    cases hc : Session.base64Value c with
    | none => nofun
    | some d => exact List.forall_mem_cons.2 ⟨base64Value_lt hc, ih⟩

/-- A number that begins with a digit other than zero is an `int` if it has few digits. -/
theorem collect_lt_iff (hpos : 0 < d) (hd : d < 64) (hds : ∀ d ∈ ds, d < 64) :
    collect d ds < 2 ^ 31 ↔ ds.length ≤ 4 ∨ ds.length = 5 ∧ d = 1 := by
  obtain ⟨hlow, hhigh⟩ := collect_bounds (n := d) hds
  constructor
  · intro hsmall
    by_cases hfour : ds.length ≤ 4
    · exact .inl hfour
    by_cases hfive : ds.length = 5
    · rw [hfive] at hlow
      exact .inr ⟨hfive, by omega⟩
    · have hmany : 64 ^ 6 ≤ 64 ^ ds.length := Nat.pow_le_pow_right (by decide) (by omega)
      have hlarge : 64 ^ ds.length ≤ d * 64 ^ ds.length := Nat.le_mul_of_pos_left _ hpos
      omega
  · rintro (hfour | ⟨hfive, rfl⟩)
    · have hfew : 64 ^ ds.length ≤ 64 ^ 4 := Nat.pow_le_pow_right (by decide) hfour
      calc collect d ds < (d + 1) * 64 ^ ds.length := hhigh
        _ ≤ 64 * 64 ^ 4 := Nat.mul_le_mul hd hfew
        _ ≤ 2 ^ 31 := by decide
    · rw [hfive] at hhigh
      exact hhigh

theorem short_iff (encoded : List UInt8) :
    Short encoded ↔ collect 0 (digits encoded) < 2 ^ 31 := by
  have hlt : ∀ d ∈ (digits encoded).dropWhile (· = 0), d < 64 := fun d hd =>
    digits_lt encoded d ((List.dropWhile_sublist _).subset hd)
  have hnonzero : ∀ d, ((digits encoded).dropWhile (· = 0)).head? = some d → 0 < d := by
    intro d hd
    have hfirst := List.head?_dropWhile_not (fun d : Nat => decide (d = 0)) (digits encoded)
    rw [hd] at hfirst
    simp only [decide_eq_false_iff_not] at hfirst
    omega
  rw [← collect_dropWhile]
  unfold Short
  dsimp only
  cases hsig : (digits encoded).dropWhile (· = 0) with
  | nil => simp [collect]
  | cons d ds =>
    rw [hsig] at hlt hnonzero
    obtain ⟨hd, hds⟩ := List.forall_mem_cons.1 hlt
    have hcollect : collect 0 (d :: ds) = collect d ds := by
      rw [collect, List.foldl_cons, Nat.zero_mul, Nat.zero_add]
      rfl
    rw [hcollect, collect_lt_iff (hnonzero d rfl) hd hds, List.length_cons, List.head?_cons,
      Option.some.injEq]
    omega

/-! ## The loop -/

variable {c : UInt8} {valb : Int}

/-- A digit that the accumulator has room for. -/
theorem checkedLoop_digit (hvalb : -8 ≤ valb ∧ valb < 0) (hc : sessionTable c = d)
    (hn : n * 64 + d < 2 ^ 31) (cs : List UInt8) :
    checkedLoop sessionTable (c :: cs) n valb =
      if 0 ≤ valb + 6 then do
        let rest ← checkedLoop sessionTable cs (n * 64 + d : Nat) (valb + 6 - 8)
        return .ofNat ((((n * 64 + d : Nat) : Int) >>> (valb + 6).toNat) % 256).toNat :: rest
      else checkedLoop sessionTable cs (n * 64 + d : Nat) (valb + 6) := by
  have hval : int32 ((n : Int) * 64 + sessionTable c) = .ok ((n * 64 + d : Nat) : Int) := by
    rw [hc, int32_ok (by omega) (by omega)]
    norm_cast
  have hdigit : sessionTable c ≠ -1 := by omega
  rw [checkedLoop, if_neg hdigit, hval, ok_bind, int32_ok (by omega) (by omega), ok_bind]
  split
  · rw [int32_ok (by omega) (by omega), ok_bind]
  · rfl

/-- A digit that it has no room for. -/
theorem checkedLoop_overflow (hc : sessionTable c = d) (hn : 2 ^ 31 ≤ n * 64 + d)
    (cs : List UInt8) :
    checkedLoop sessionTable (c :: cs) n valb = .error (.overflow (n * 64 + d : Nat)) := by
  have hval : int32 ((n : Int) * 64 + sessionTable c) =
      .error (.overflow ((n * 64 + d : Nat) : Int)) := by
    rw [hc, int32_error (by omega)]
    norm_cast
  have hdigit : sessionTable c ≠ -1 := by omega
  rw [checkedLoop, if_neg hdigit, hval]
  rfl

theorem decodeLoop_small (hc : sessionTable c = d) (hn : n * 64 + d < 2 ^ 31) (cs : List UInt8) :
    decodeLoop sessionTable (c :: cs) n valb =
      if 0 ≤ valb + 6 then
        .ofNat ((((n * 64 + d : Nat) : Int) >>> (valb + 6).toNat) % 256).toNat ::
          decodeLoop sessionTable cs (n * 64 + d : Nat) (valb + 6 - 8)
      else decodeLoop sessionTable cs (n * 64 + d : Nat) (valb + 6) := by
  have hwide : ∀ {i : Int}, 0 ≤ i → i < 2 ^ 31 → toInt32 i = i := fun h₀ h₁ =>
    Int.bmod_eq_of_le (by omega) (by omega)
  have hval : toInt32 (toInt32 ((n : Int) <<< (6 : Nat)) + sessionTable c) =
      ((n * 64 + d : Nat) : Int) := by
    rw [hc, Int.shiftLeft_eq, hwide (i := n * 2 ^ 6) (by omega) (by omega),
      hwide (by omega) (by omega)]
    omega
  have hdigit : sessionTable c ≠ -1 := by omega
  rw [decodeLoop, if_neg hdigit, hval]

/-- While the number is an `int`, the loop does not fault and does what it does anyway. -/
theorem checkedLoop_ok (hvalb : -8 ≤ valb ∧ valb < 0) (h : collect n (digits cs) < 2 ^ 31) :
    checkedLoop sessionTable cs n valb = .ok (decodeLoop sessionTable cs n valb) := by
  induction cs generalizing n valb with
  | nil => rfl
  | cons c cs ih =>
    unfold digits at h
    cases hvalue : Session.base64Value c with
    | none =>
      have hc : sessionTable c = -1 := by simp [sessionTable, hvalue]
      rw [checkedLoop, if_pos hc, decodeLoop, if_pos hc]
      rfl
    | some d =>
      have hc : sessionTable c = d := by simp [sessionTable, hvalue]
      rw [hvalue] at h
      have hrest : collect (n * 64 + d) (digits cs) < 2 ^ 31 := h
      have hroom : n * 64 + d < 2 ^ 31 :=
        Nat.lt_of_le_of_lt (le_collect (digits_lt cs)) hrest
      rw [checkedLoop_digit hvalb hc hroom, decodeLoop_small hc hroom]
      split
      · rw [ih (by omega) hrest]
        rfl
      · exact ih (by omega) hrest

/-- Where it is none, a digit does not fit. -/
theorem checkedLoop_fault (hvalb : -8 ≤ valb ∧ valb < 0) (hn : n < 2 ^ 31)
    (h : 2 ^ 31 ≤ collect n (digits cs)) :
    ∃ i, checkedLoop sessionTable cs n valb = .error (.overflow i) := by
  induction cs generalizing n valb with
  | nil => exact absurd h (Nat.not_le.2 hn)
  | cons c cs ih =>
    unfold digits at h
    cases hvalue : Session.base64Value c with
    | none =>
      rw [hvalue] at h
      exact absurd h (Nat.not_le.2 hn)
    | some d =>
      have hc : sessionTable c = d := by simp [sessionTable, hvalue]
      rw [hvalue] at h
      have hrest : 2 ^ 31 ≤ collect (n * 64 + d) (digits cs) := h
      by_cases hroom : n * 64 + d < 2 ^ 31
      · rw [checkedLoop_digit hvalb hc hroom]
        split
        · have hwritten : -8 ≤ valb + 6 - 8 ∧ valb + 6 - 8 < 0 := by omega
          obtain ⟨i, hfault⟩ := ih hwritten hroom hrest
          exact ⟨i, by rw [hfault]; rfl⟩
        · exact ih (by omega) hroom hrest
      · exact ⟨_, checkedLoop_overflow hc (Nat.not_lt.1 hroom) cs⟩

theorem sessionChecked_iff (encoded : List UInt8) :
    (∃ out, sessionChecked encoded = .ok out) ↔ Short encoded := by
  rw [short_iff]
  constructor
  · intro ⟨out, hok⟩
    by_contra hlarge
    have hempty : (-8 : Int) ≤ -8 ∧ (-8 : Int) < 0 := by decide
    obtain ⟨i, hfault⟩ := checkedLoop_fault hempty (by decide) (Nat.not_lt.1 hlarge)
    have hboth := hfault.symm.trans hok
    cases hboth
  · intro hsmall
    exact ⟨_, checkedLoop_ok (by decide) hsmall⟩

theorem gatewayChecked_eq (encoded : List UInt8) :
    gatewayChecked encoded = sessionChecked encoded := by
  rw [gatewayChecked, sessionChecked, tables_eq]

/-- Of a short text, both decoders write what they do with an accumulator that wraps around. -/
theorem checked_eq_decode {encoded : List UInt8} (h : Short encoded) :
    sessionChecked encoded = .ok (sessionDecode encoded) ∧
      gatewayChecked encoded = .ok (gatewayDecode encoded) := by
  have hsession : sessionChecked encoded = .ok (sessionDecode encoded) :=
    checkedLoop_ok (by decide) ((short_iff encoded).1 h)
  refine ⟨hsession, ?_⟩
  rw [gatewayChecked_eq, hsession, sessionDecode, gatewayDecode, tables_eq]

/-- Neither loop computes a number out of range exactly if the text is short. -/
theorem accumulator_iff (encoded : List UInt8) :
    ((∃ out, sessionChecked encoded = .ok out) ↔ Short encoded) ∧
      ((∃ out, gatewayChecked encoded = .ok out) ↔ Short encoded) := by
  rw [gatewayChecked_eq]
  exact ⟨sessionChecked_iff encoded, sessionChecked_iff encoded⟩

/-- `/9j/4AAQ`, as a JPEG file begins: at the sixth character. -/
theorem accumulator_overflows : ¬ ∀ encoded : List UInt8, encoded.length ≤ 13981013 →
    (∃ out, sessionChecked encoded = .ok out) ∧ ∃ out, gatewayChecked encoded = .ok out := by
  intro h
  obtain ⟨⟨out, hout⟩, -⟩ := h [47, 57, 106, 47, 52, 65, 65, 81] (by decide)
  have hfault : sessionChecked [47, 57, 106, 47, 52, 65, 65, 81] =
      .error (.overflow 68678581760) := by
    rfl
  rw [hfault] at hout
  cases hout

end ChatApp.Media

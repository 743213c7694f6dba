/-
  Items in a row, each written as its code. A decoder `Reads` a code as an item if it does so
  whatever follows. Of a buffer that holds a beginning of the codes it reads the items that have
  `arrived`: those whose codes have ended.

  `drain_received`: a receive loop whose handler takes these items handles them one after the
  other, does not fail, and keeps the beginning of the next code.
-/
import Mathlib.Data.List.Infix
import ChatApp.Lib.Decoder

namespace ChatApp.Lib

variable {α β ρ σ : Type}

section Arrived

variable (code : α → List β)

/-- The elements whose codes end within the first `n` places. -/
def arrived : List α → Nat → List α
  | [], _ => []
  | x :: xs, n => if (code x).length ≤ n then x :: arrived xs (n - (code x).length) else []

variable {code}

theorem arrived_of_le {x : α} {n : Nat} (h : (code x).length ≤ n) (xs : List α) :
    arrived code (x :: xs) n = x :: arrived code xs (n - (code x).length) := if_pos h

theorem arrived_of_lt {x : α} {n : Nat} (h : n < (code x).length) (xs : List α) :
    arrived code (x :: xs) n = [] := if_neg (Nat.not_le.2 h)

theorem arrived_begins (xs : List α) (n : Nat) : arrived code xs n <+: xs := by
  induction xs generalizing n with
  | nil => exact List.prefix_rfl
  | cons x xs ih =>
    rcases Nat.lt_or_ge n (code x).length with h | h
    · rw [arrived_of_lt h]
      exact List.nil_prefix
    · rw [arrived_of_le h]
      exact (List.prefix_cons_inj x).2 (ih _)

/-- All the codes have ended. -/
theorem arrived_all {xs : List α} {n : Nat} (h : (xs.flatMap code).length ≤ n) :
    arrived code xs n = xs := by
  induction xs generalizing n with
  | nil => rfl
  | cons x xs ih =>
    rw [List.flatMap_cons, List.length_append] at h
    rw [arrived_of_le (by omega), ih (by omega)]

/-- Not all of them have. -/
theorem arrived_lt {xs : List α} {n : Nat} (h : n < (xs.flatMap code).length) :
    (arrived code xs n).length < xs.length := by
  induction xs generalizing n with
  | nil => exact absurd h (Nat.not_lt_zero n)
  | cons x xs ih =>
    rw [List.flatMap_cons, List.length_append] at h
    rcases Nat.lt_or_ge n (code x).length with hx | hx
    · rw [arrived_of_lt hx]
      exact Nat.succ_pos _
    · rw [arrived_of_le hx]
      have := ih (n := n - (code x).length) (by omega)
      simp only [List.length_cons]
      omega

theorem arrived_append (xs ys : List α) (n : Nat) : arrived code (xs ++ ys) n =
    if (xs.flatMap code).length ≤ n then xs ++ arrived code ys (n - (xs.flatMap code).length)
    else arrived code xs n := by
  induction xs generalizing n with
  | nil => rfl
  | cons x xs ih =>
    rw [List.cons_append, List.flatMap_cons, List.length_append]
    rcases Nat.lt_or_ge n (code x).length with hx | hx
    · rw [arrived_of_lt hx, arrived_of_lt hx, if_neg (by omega)]
    · rw [arrived_of_le hx, arrived_of_le hx, ih]
      by_cases hxs : (xs.flatMap code).length ≤ n - (code x).length
      · rw [if_pos hxs, if_pos (by omega), List.cons_append, Nat.sub_sub]
      · rw [if_neg hxs, if_neg (by omega)]

end Arrived

namespace Decoder

variable {D : Decoder β ρ} {handle : σ → ρ → Bool × σ}

/-- A loop that does not fail leaves where more is needed. -/
theorem decode_buffer {s : σ} {buf : List β} (h : (D.drain handle s buf).ok = true) :
    D.decode (D.drain handle s buf).buffer = .more := by
  induction hlen : buf.length using Nat.strongRecOn generalizing s buf with
  | _ len ih =>
    subst hlen
    rw [drain_eq] at h ⊢
    cases hd : D.decode buf with
    | more => exact hd
    | bad => simp [hd] at h
    | item r n =>
      have hpos := D.consumed_pos hd
      have hle := D.consumed_le hd
      have hdrop : (buf.drop n).length = buf.length - n := List.length_drop
      simp only [hd] at h ⊢
      split at h
      case isTrue hgo =>
        rw [if_pos hgo]
        exact ih _ (by omega) h rfl
      case isFalse => cases h

theorem length_buffer_le (s : σ) (buf : List β) :
    (D.drain handle s buf).buffer.length ≤ buf.length := by
  induction hlen : buf.length using Nat.strongRecOn generalizing s buf with
  | _ len ih =>
    subst hlen
    rw [drain_eq]
    cases hd : D.decode buf with
    | more => exact Nat.le_refl _
    | bad => exact Nat.le_refl _
    | item r n =>
      have hpos := D.consumed_pos hd
      have hle := D.consumed_le hd
      have hdrop : (buf.drop n).length = buf.length - n := List.length_drop
      simp only
      split
      · exact Nat.le_trans (ih _ (by omega) _ _ rfl) (by omega)
      · exact Nat.le_refl _

/-- `code` is read as `r`, whatever follows it. -/
def Reads (D : Decoder β ρ) (code : List β) (r : ρ) : Prop :=
  ∀ more, D.decode (code ++ more) = .item r code.length

/-- The handler goes on after each of the items. -/
def Takes (handle : σ → ρ → Bool × σ) : σ → List ρ → Prop
  | _, [] => True
  | s, r :: rs => (handle s r).1 = true ∧ Takes handle (handle s r).2 rs

/-- What the handler makes of the items, one after the other. -/
def handleAll (handle : σ → ρ → Bool × σ) (s : σ) (rs : List ρ) : σ :=
  rs.foldl (fun s r => (handle s r).2) s

variable {code : α → List β} {item : α → ρ}

theorem drain_received {xs : List α} (hreads : ∀ x ∈ xs, D.Reads (code x) (item x)) {s : σ}
    {buf : List β} (hbuf : buf <+: xs.flatMap code)
    (htakes : Takes handle s ((arrived code xs buf.length).map item)) :
    D.drain handle s buf = ⟨true, handleAll handle s ((arrived code xs buf.length).map item),
      buf.drop ((arrived code xs buf.length).flatMap code).length⟩ := by
  induction xs generalizing s buf with
  | nil =>
    obtain rfl : buf = [] := List.prefix_nil.1 hbuf
    rw [drain_eq, D.decode_nil]
    rfl
  | cons x xs ih =>
    obtain ⟨hx, hxs⟩ := List.forall_mem_cons.1 hreads
    rw [List.flatMap_cons] at hbuf
    rcases Nat.lt_or_ge buf.length (code x).length with hlen | hlen
    · -- a beginning of the first code
      obtain ⟨rest, hrest⟩ : buf <+: code x :=
        List.prefix_of_prefix_length_le hbuf (List.prefix_append _ _) (Nat.le_of_lt hlen)
      have hwhole : D.decode (buf ++ rest) = .item (item x) (code x).length := by
        rw [hrest]
        exact (congrArg D.decode (List.append_nil _)).symm.trans (hx [])
      rw [arrived_of_lt hlen, drain_eq, decode_of_prefix hwhole hlen]
      rfl
    · obtain ⟨rest, rfl⟩ : code x <+: buf :=
        List.prefix_of_prefix_length_le (List.prefix_append _ _) hbuf hlen
      have hbehind : (code x ++ rest).length - (code x).length = rest.length := by
        rw [List.length_append, Nat.add_sub_cancel_left]
      rw [arrived_of_le hlen, hbehind] at htakes ⊢
      obtain ⟨hgo, htakes⟩ := htakes
      rw [drain_eq, hx rest]
      simp only [hgo, if_true, List.drop_left]
      rw [ih hxs ((List.prefix_append_right_inj _).1 hbuf) htakes, List.flatMap_cons,
        List.length_append, ← List.drop_drop, List.drop_left]
      rfl

end Decoder

end ChatApp.Lib

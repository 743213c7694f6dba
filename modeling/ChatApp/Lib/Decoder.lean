/-
  Incremental decoding. A decoder looks at the front of a buffer and answers with an item and
  the length it takes, with an error, or that it needs more; `Decoder` holds the laws that make
  the answer independent of what follows. `drain` is the receive loop: decode, handle, drop,
  until more is needed or something fails. The handler returns whether to go on.

  `drain_append`: draining a buffer and then draining what is left with further input appended
  is draining all of it at once. `drain_flatten` is its form for a list of chunks.
-/
import Mathlib.Data.List.Basic

namespace ChatApp.Lib

inductive Decoded (ρ : Type)
  | more
  | bad
  | item (r : ρ) (consumed : Nat)
  deriving DecidableEq

structure Decoder (β ρ : Type) where
  decode : List β → Decoded ρ
  decode_nil : decode [] = .more
  consumed_pos : ∀ {d r n}, decode d = .item r n → 0 < n
  consumed_le : ∀ {d r n}, decode d = .item r n → n ≤ d.length
  item_append : ∀ {d r n} e, decode d = .item r n → decode (d ++ e) = .item r n
  bad_append : ∀ {d} e, decode d = .bad → decode (d ++ e) = .bad

/-- The state of a receive loop: did it end without failure, the handler's state, the buffer. -/
structure Drained (β σ : Type) where
  ok : Bool
  state : σ
  buffer : List β

namespace Decoder

variable {β ρ σ : Type} (D : Decoder β ρ) (handle : σ → ρ → Bool × σ)

/-- The loop, at most `fuel` times round. -/
def drainFuel : Nat → σ → List β → Drained β σ
  | 0, s, buf => ⟨true, s, buf⟩
  | fuel + 1, s, buf =>
    match D.decode buf with
    | .more => ⟨true, s, buf⟩
    | .bad => ⟨false, s, buf⟩
    | .item r n =>
      let h := handle s r
      if h.1 then drainFuel fuel h.2 (buf.drop n) else ⟨false, h.2, buf⟩

/-- Every item takes at least one element, so the length of the buffer is fuel enough. -/
def drain (s : σ) (buf : List β) : Drained β σ := D.drainFuel handle buf.length s buf

variable {D handle}

theorem drainFuel_eq {n m : Nat} {s : σ} {buf : List β} (hn : buf.length ≤ n)
    (hm : buf.length ≤ m) : D.drainFuel handle n s buf = D.drainFuel handle m s buf := by
  induction n generalizing m s buf with
  | zero =>
    have hbuf : buf = [] := List.length_eq_zero_iff.mp (by omega)
    subst hbuf
    cases m with
    | zero => rfl
    | succ m => simp [drainFuel, D.decode_nil]
  | succ n ih =>
    cases m with
    | zero =>
      have hbuf : buf = [] := List.length_eq_zero_iff.mp (by omega)
      subst hbuf
      simp [drainFuel, D.decode_nil]
    | succ m =>
      simp only [drainFuel]
      cases hd : D.decode buf with
      | more => rfl
      | bad => rfl
      | item r k =>
        have hk := D.consumed_pos hd
        have hle := D.consumed_le hd
        have hlen : (buf.drop k).length = buf.length - k := List.length_drop
        simp only
        rw [ih (show (buf.drop k).length ≤ n by omega) (show (buf.drop k).length ≤ m by omega)]

/-- One round of the loop. -/
theorem drain_eq (s : σ) (buf : List β) :
    D.drain handle s buf =
      match D.decode buf with
      | .more => ⟨true, s, buf⟩
      | .bad => ⟨false, s, buf⟩
      | .item r n =>
        if (handle s r).1 then D.drain handle (handle s r).2 (buf.drop n)
        else ⟨false, (handle s r).2, buf⟩ := by
  rw [drain, drainFuel_eq (Nat.le_refl _) (Nat.le_succ _), drainFuel]
  cases hd : D.decode buf with
  | more => rfl
  | bad => rfl
  | item r n =>
    have hlen : (buf.drop n).length = buf.length - n := List.length_drop
    simp only [drain]
    rw [drainFuel_eq (show (buf.drop n).length ≤ buf.length by omega) (Nat.le_refl _)]

theorem drain_append (s : σ) (buf more : List β) :
    D.drain handle s (buf ++ more) =
      let d := D.drain handle s buf
      if d.ok then D.drain handle d.state (d.buffer ++ more)
      else ⟨false, d.state, d.buffer ++ more⟩ := by
  -- the items of `buf` are consumed in both loops alike
  induction h : buf.length using Nat.strongRecOn generalizing s buf with
  | _ len ih =>
    subst h
    rw [drain_eq s buf]
    cases hd : D.decode buf with
    | more => rfl
    | bad => rw [drain_eq, D.bad_append more hd]; rfl
    | item r n =>
      have hpos := D.consumed_pos hd
      have hle := D.consumed_le hd
      have hlen : (buf.drop n).length = buf.length - n := List.length_drop
      rw [drain_eq, D.item_append more hd]
      simp only
      split
      · rw [List.drop_append_of_le_length hle]
        exact ih _ (by omega) _ _ rfl
      · rfl

theorem drain_append_of_ok {s : σ} {buf : List β} (h : (D.drain handle s buf).ok = true)
    (more : List β) : D.drain handle s (buf ++ more) =
      D.drain handle (D.drain handle s buf).state ((D.drain handle s buf).buffer ++ more) := by
  rw [drain_append]
  simp only
  rw [if_pos h]

/-- Nothing is left to do after a loop that did not fail. -/
theorem drain_drained {s : σ} {buf : List β} (h : (D.drain handle s buf).ok = true) :
    D.drain handle (D.drain handle s buf).state (D.drain handle s buf).buffer =
      D.drain handle s buf := by
  have := drain_append_of_ok h []
  rw [List.append_nil, List.append_nil] at this
  exact this.symm

/-- What the handler preserves when it goes on holds after a loop that did not fail. -/
theorem drain_ok_invariant {I : σ → Prop}
    (hI : ∀ s r, I s → (handle s r).1 = true → I (handle s r).2) {s : σ} {buf : List β}
    (hs : I s) (hok : (D.drain handle s buf).ok = true) : I (D.drain handle s buf).state := by
  induction h : buf.length using Nat.strongRecOn generalizing s buf with
  | _ len ih =>
    subst h
    rw [drain_eq] at hok ⊢
    cases hd : D.decode buf with
    | more => exact hs
    | bad => simp [hd] at hok
    | item r n =>
      have hpos := D.consumed_pos hd
      have hle := D.consumed_le hd
      have hlen : (buf.drop n).length = buf.length - n := List.length_drop
      simp only [hd] at hok ⊢
      split at hok
      case isTrue hgo =>
        rw [if_pos hgo]
        exact ih _ (by omega) (hI s r hs hgo) hok rfl
      case isFalse => cases hok

/-- A handler that does on `f s` what another one does on `s`. -/
theorem drain_map {τ : Type} {f : σ → τ} {handle' : τ → ρ → Bool × τ}
    (h : ∀ s r, handle' (f s) r = ((handle s r).1, f (handle s r).2)) (s : σ) (buf : List β) :
    D.drain handle' (f s) buf =
      ⟨(D.drain handle s buf).ok, f (D.drain handle s buf).state,
        (D.drain handle s buf).buffer⟩ := by
  induction hlen : buf.length using Nat.strongRecOn generalizing s buf with
  | _ len ih =>
    subst hlen
    rw [drain_eq, drain_eq s buf]
    cases hd : D.decode buf with
    | more => rfl
    | bad => rfl
    | item r n =>
      have hpos := D.consumed_pos hd
      have hle := D.consumed_le hd
      have hlen : (buf.drop n).length = buf.length - n := List.length_drop
      simp only [h]
      split
      · exact ih _ (by omega) _ _ rfl
      · rfl

/-- Less than one item: nothing is decoded. -/
theorem decode_of_prefix {d e : List β} {r : ρ} {n : Nat} (h : D.decode (d ++ e) = .item r n)
    (hlen : d.length < n) : D.decode d = .more := by
  cases hd : D.decode d with
  | more => rfl
  | bad =>
    have hbad := D.bad_append e hd
    rw [h] at hbad
    cases hbad
  | item r' n' =>
    have hitem := D.item_append e hd
    rw [h] at hitem
    cases hitem
    exact absurd (D.consumed_le hd) (by omega)

/-! ## The items -/

/-- The handler that takes all items. -/
def gather (rs : List ρ) (r : ρ) : Bool × List ρ := (true, rs ++ [r])

variable (D) in
/-- The items at the front of a buffer, up to an error or where more is needed. -/
def items (buf : List β) : List ρ :=
  (D.drain gather [] buf).state

theorem items_eq (buf : List β) : D.items buf =
    match D.decode buf with
    | .item r n => r :: D.items (buf.drop n)
    | _ => [] := by
  rw [items, drain_eq]
  cases hd : D.decode buf with
  | more => rfl
  | bad => rfl
  | item r n =>
    -- the items after the first one are gathered behind it
    have happend : ∀ (rs : List ρ) (r' : ρ),
        gather ([r] ++ rs) r' = ((gather rs r').1, [r] ++ (gather rs r').2) := by
      intro rs r'
      rw [gather, List.append_assoc]
      rfl
    have hbehind := drain_map (D := D) (f := ([r] ++ ·)) happend [] (buf.drop n)
    exact congrArg Drained.state hbehind

theorem items_forall {P : ρ → Prop} (hP : ∀ {d r n}, D.decode d = .item r n → P r)
    (buf : List β) : ∀ r ∈ D.items buf, P r := by
  induction h : buf.length using Nat.strongRecOn generalizing buf with
  | _ len ih =>
    subst h
    rw [items_eq]
    cases hd : D.decode buf with
    | more => exact fun _ h => absurd h List.not_mem_nil
    | bad => exact fun _ h => absurd h List.not_mem_nil
    | item r n =>
      have hpos := D.consumed_pos hd
      have hle := D.consumed_le hd
      have hlen : (buf.drop n).length = buf.length - n := List.length_drop
      exact List.forall_mem_cons.2 ⟨hP hd, ih _ (by omega) _ rfl⟩

/-! ## Chunks -/

variable (D handle) in
/-- Drain chunk after chunk, up to the first failure; also the chunks that were not fed. -/
def drainChunks (s : σ) (buf : List β) : List (List β) → Drained β σ × List (List β)
  | [] => (⟨true, s, buf⟩, [])
  | chunk :: chunks =>
    let d := D.drain handle s (buf ++ chunk)
    if d.ok then drainChunks d.state d.buffer chunks else (d, chunks)

theorem drainChunks_ok {s : σ} {buf : List β} {chunks : List (List β)}
    (h : (D.drainChunks handle s buf chunks).1.ok = true) :
    (D.drainChunks handle s buf chunks).2 = [] := by
  induction chunks generalizing s buf with
  | nil => rfl
  | cons chunk chunks ih =>
    simp only [drainChunks] at h ⊢
    split at h
    case isTrue hok =>
      rw [if_pos hok]
      exact ih h
    case isFalse hok => exact absurd h hok

/-- The whole input at once does what the chunks do, and also buffers those that were not fed. -/
theorem drain_flatten (s : σ) (buf chunk : List β) (chunks : List (List β)) :
    D.drain handle s (buf ++ (chunk :: chunks).flatten) =
      let r := D.drainChunks handle s buf (chunk :: chunks)
      ⟨r.1.ok, r.1.state, r.1.buffer ++ r.2.flatten⟩ := by
  induction chunks generalizing s buf chunk with
  | nil =>
    simp only [List.flatten_cons, List.flatten_nil, List.append_nil, drainChunks]
    rcases D.drain handle s (buf ++ chunk) with ⟨ok, s', buf'⟩
    cases ok <;> simp
  | cons next chunks ih =>
    rw [List.flatten_cons, ← List.append_assoc, drain_append]
    simp only [drainChunks]
    split
    case isTrue hok => exact ih _ _ _
    case isFalse hok => simp [hok]

end Decoder

end ChatApp.Lib

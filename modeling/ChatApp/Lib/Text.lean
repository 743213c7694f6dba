/-
  Numbers in text. The decimal text of a number determines it and holds only digits, and a minus
  sign if it is negative; so a separator that is no digit can be found again. Text of which each
  character stands for a byte, and the pieces between dots.
-/
import Mathlib.Data.List.Basic
import Mathlib.Data.String.Basic

namespace ChatApp.Lib.Text

/-- What stands before the first separator, and what stands after it. -/
theorem append_cons_inj {α : Type} {c : α} {a b x y : List α} (ha : c ∉ a) (hb : c ∉ b)
    (h : a ++ c :: x = b ++ c :: y) : a = b ∧ x = y := by
  induction a generalizing b with
  | nil =>
    cases b with
    | nil => exact ⟨rfl, (List.cons.inj h).2⟩
    | cons d b => exact absurd ((List.cons.inj h).1 ▸ List.mem_cons_self) hb
  | cons d a ih =>
    cases b with
    | nil => exact absurd ((List.cons.inj h).1 ▸ List.mem_cons_self) ha
    | cons e b =>
      obtain ⟨rfl, htail⟩ := List.cons.inj h
      obtain ⟨rfl, hxy⟩ :=
        ih (List.not_mem_of_not_mem_cons ha) (List.not_mem_of_not_mem_cons hb) htail
      exact ⟨rfl, hxy⟩

/-- The last separator. -/
theorem exists_last {α : Type} {c : α} {xs : List α} (h : c ∈ xs) :
    ∃ a b, xs = a ++ c :: b ∧ c ∉ b := by
  obtain ⟨a, b, hrev, ha⟩ := List.eq_append_cons_of_mem (List.mem_reverse.2 h)
  refine ⟨b.reverse, a.reverse, ?_, fun hmem => ha (List.mem_reverse.1 hmem)⟩
  rw [← List.reverse_reverse xs, hrev]
  simp

/-- A finite list is checked element by element. -/
theorem forall_of_all {α : Type} {p : α → Prop} [DecidablePred p] {xs : List α}
    (h : xs.all (fun x => decide (p x)) = true) : ∀ x ∈ xs, p x := fun x hx =>
  of_decide_eq_true (List.all_eq_true.1 h x hx)

theorem isDigit_of_mem_toString {n : Nat} {c : Char} (h : c ∈ (toString n).toList) :
    c.isDigit = true := by
  have hmem : c ∈ Nat.toDigits 10 n := by
    rw [← Nat.toList_repr]
    exact h
  exact Nat.isDigit_of_mem_toDigits (by decide) (by decide) hmem

theorem toDigits_head {n : Nat} (hn : 0 < n) : (Nat.toDigits 10 n).head? ≠ some '0' := by
  induction n using Nat.strongRecOn with
  | ind n ih =>
    rcases Nat.lt_or_ge n 10 with hlt | hge
    · have hdigit : ∀ k < 10, 0 < k → [k.digitChar].head? ≠ some '0' := by decide
      rw [Nat.toDigits_of_lt_base hlt]
      exact hdigit n hlt hn
    · rw [Nat.toDigits_of_base_le (by decide) hge,
        List.head?_append_of_ne_nil _ Nat.toDigits_ne_nil]
      exact ih (n / 10) (by omega) (by omega)

/-- No number begins with a zero but 0. -/
theorem toString_head {n : Nat} (h : (toString n).toList.head? = some '0') : n = 0 := by
  rcases Nat.eq_zero_or_pos n with hn | hn
  · exact hn
  · rw [show (toString n).toList = Nat.toDigits 10 n from Nat.toList_repr] at h
    exact absurd h (toDigits_head hn)

theorem toString_nat_inj {m n : Nat} : toString m = toString n ↔ m = n := by
  refine ⟨fun h => ?_, congrArg toString⟩
  have hdigits : Nat.toDigits 10 m = Nat.toDigits 10 n := by
    rw [← Nat.toList_repr, ← Nat.toList_repr]
    exact congrArg String.toList h
  calc m = Nat.ofDigitChars 10 (Nat.toDigits 10 m) 0 :=
        (Nat.ofDigitChars_toDigits (by decide) (by decide)).symm
    _ = n := by rw [hdigits, Nat.ofDigitChars_toDigits (by decide) (by decide)]

/-- The text of a negative number. -/
theorem toList_toString_negSucc (n : Nat) :
    (toString (Int.negSucc n)).toList = '-' :: (toString (n + 1)).toList := by
  show ("-" ++ Nat.repr (n + 1)).toList = _
  rw [String.toList_append]
  rfl

theorem toString_int_ne_nil (i : Int) : (toString i).toList ≠ [] := by
  cases i with
  | ofNat n =>
    intro h
    exact Nat.toDigits_ne_nil (Nat.toList_repr.symm.trans h)
  | negSucc n =>
    rw [toList_toString_negSucc]
    exact List.cons_ne_nil _ _

theorem mem_toString_int {i : Int} {c : Char} (h : c ∈ (toString i).toList) :
    c.isDigit = true ∨ c = '-' := by
  cases i with
  | ofNat n => exact .inl (isDigit_of_mem_toString (n := n) h)
  | negSucc n =>
    rw [toList_toString_negSucc] at h
    rcases List.mem_cons.1 h with h | h
    · exact .inr h
    · exact .inl (isDigit_of_mem_toString h)

theorem toString_int_inj {i j : Int} : toString i = toString j ↔ i = j := by
  refine ⟨fun h => ?_, congrArg toString⟩
  -- a minus sign is no digit
  have hsign : ∀ m n : Nat, toString (Int.ofNat m) ≠ toString (Int.negSucc n) := by
    intro m n heq
    have hmem : '-' ∈ (toString (Int.ofNat m)).toList := by
      rw [heq, toList_toString_negSucc]
      exact List.mem_cons_self
    exact absurd (isDigit_of_mem_toString (n := m) hmem) (by decide)
  cases i with
  | ofNat m =>
    cases j with
    | ofNat n => exact congrArg Int.ofNat (toString_nat_inj.1 h)
    | negSucc n => exact absurd h (hsign m n)
  | negSucc m =>
    cases j with
    | ofNat n => exact absurd h.symm (hsign n m)
    | negSucc n =>
      have hlist := congrArg String.toList h
      rw [toList_toString_negSucc, toList_toString_negSucc] at hlist
      have htext := String.toList_inj.1 (List.cons.inj hlist).2
      exact congrArg Int.negSucc (Nat.succ.inj (toString_nat_inj.1 htext))

/-! ## Bytes -/

/-- A byte for each character. -/
def toBytes (s : String) : List UInt8 := s.toList.map Char.toUInt8

/-- A character for each byte. -/
def ofBytes (bs : List UInt8) : String := .ofList (bs.map fun b => Char.ofNat b.toNat)

theorem utf8Encode_ascii {cs : List Char} (h : ∀ c ∈ cs, c.toNat < 128) :
    cs.utf8Encode.size = cs.length := by
  induction cs with
  | nil => rfl
  | cons c cs ih =>
    have hc : c.toNat < 128 := h c List.mem_cons_self
    have hsize : c.utf8Size = 1 := by
      rw [Char.utf8Size_eq_one_iff, UInt32.le_iff_toNat_le]
      exact Nat.le_of_lt_succ hc
    rw [List.utf8Encode_cons, ByteArray.size_append, ih fun d hd => h d (List.mem_cons_of_mem c hd),
      List.utf8Encode_singleton, List.size_toByteArray, String.length_utf8EncodeChar, hsize,
      List.length_cons, Nat.add_comm]

theorem toNat_ofNat (b : UInt8) : (Char.ofNat b.toNat).toNat = b.toNat := by
  have hvalid : b.toNat.isValidChar := .inl (Nat.lt_trans b.toNat_lt (by decide))
  rw [Char.ofNat, dif_pos hvalid]
  rfl

theorem toUInt8_ofNat (b : UInt8) : (Char.ofNat b.toNat).toUInt8 = b := by
  rw [← UInt8.toNat_inj]
  exact (congrArg (· % 256) (toNat_ofNat b)).trans (Nat.mod_eq_of_lt b.toNat_lt)

theorem toBytes_ofBytes (bs : List UInt8) : toBytes (ofBytes bs) = bs := by
  rw [toBytes, ofBytes, String.toList_ofList, List.map_map]
  exact (List.map_congr_left fun b _ => toUInt8_ofNat b).trans (List.map_id bs)

theorem utf8ByteSize_ofBytes {bs : List UInt8} (h : ∀ b ∈ bs, b.toNat < 128) :
    (ofBytes bs).utf8ByteSize = bs.length := by
  have hchars : ∀ c ∈ bs.map fun b => Char.ofNat b.toNat, c.toNat < 128 := by
    intro c hc
    obtain ⟨b, hb, rfl⟩ := List.mem_map.1 hc
    rw [toNat_ofNat]
    exact h b hb
  rw [ofBytes, ← String.size_toByteArray, String.toByteArray_ofList, utf8Encode_ascii hchars,
    List.length_map]

/-! ## Pieces -/

section
open String

/-- `m` has been read since the last dot. -/
theorem splitOnAux_dot (l m r : List Char) (acc : List String) :
    splitOnAux (ofList (l ++ m ++ r)) "." ⟨utf8Len l⟩ ⟨utf8Len l + utf8Len m⟩ 0 acc =
      acc.reverse ++ (List.splitOnPPrepend (· == '.') r m.reverse).map ofList := by
  have hdot : Pos.Raw.get "." 0 = '.' ∧ Pos.Raw.next "." 0 = ⟨1⟩ ∧ ".".rawEndPos = ⟨1⟩ := by
    decide
  induction r generalizing l m acc with
  | nil =>
    have hend : (⟨utf8Len l + utf8Len m⟩ : Pos.Raw).atEnd (ofList (l ++ m ++ [])) = true := by
      have hlen := (atEnd_of_valid (l ++ m) []).2 rfl
      rwa [utf8Len_append] at hlen
    rw [splitOnAux, if_pos hend, extract_of_valid]
    simp
  | cons c r ih =>
    have hend : ¬ (⟨utf8Len l + utf8Len m⟩ : Pos.Raw).atEnd (ofList (l ++ m ++ c :: r)) = true := by
      have hlen := mt (atEnd_of_valid (l ++ m) (c :: r)).1 (List.cons_ne_nil c r)
      rwa [utf8Len_append] at hlen
    have hget : Pos.Raw.get (ofList (l ++ m ++ c :: r)) ⟨utf8Len l + utf8Len m⟩ = c := by
      rw [← utf8Len_append, get_of_valid]
      rfl
    have hnext : Pos.Raw.next (ofList (l ++ m ++ c :: r)) ⟨utf8Len l + utf8Len m⟩ =
        ⟨utf8Len l + utf8Len m + c.utf8Size⟩ := by
      rw [← utf8Len_append, next_of_valid]
    rw [splitOnAux, if_neg hend, hget, hdot.1, hnext, List.splitOnPPrepend_cons_eq_if]
    split
    next hc =>
      obtain rfl : c = '.' := by simpa using hc
      dsimp only
      have hpast : Pos.Raw.atEnd "." ⟨1⟩ = true := by decide
      have hpos : (⟨utf8Len l + utf8Len m + '.'.utf8Size⟩ : Pos.Raw).unoffsetBy ⟨1⟩ =
          ⟨utf8Len l + utf8Len m⟩ := rfl
      have hstep := ih (l ++ m ++ ['.']) [] (ofList m :: acc)
      simp only [utf8Len_append, utf8Len_cons, utf8Len_nil, Nat.add_zero, Nat.zero_add,
        List.append_nil, List.append_assoc, List.cons_append, List.nil_append] at hstep
      rw [hdot.2.1, if_pos hpast, hpos, extract_of_valid, List.append_assoc, Nat.add_assoc,
        hstep]
      simp
    next hc =>
      have hpos : (⟨utf8Len l + utf8Len m⟩ : Pos.Raw).unoffsetBy 0 = ⟨utf8Len l + utf8Len m⟩ :=
        rfl
      have hstep := ih l (m ++ [c]) acc
      simp only [utf8Len_append, utf8Len_cons, utf8Len_nil, Nat.zero_add,
        List.append_assoc, List.cons_append, List.nil_append, List.reverse_append,
        List.reverse_singleton] at hstep
      rw [hpos, hnext, List.append_assoc, Nat.add_assoc, hstep]

theorem splitOn_dot (s : String) : s.splitOn "." = (s.toList.splitOn '.').map ofList := by
  have haux := splitOnAux_dot [] [] s.toList []
  rw [List.nil_append, List.nil_append, ofList_toList] at haux
  rw [String.splitOn, if_neg (by decide)]
  exact haux

end

theorem mem_of_mem_splitOn {sep d : Char} {cs n : List Char} (h : n ∈ cs.splitOn sep)
    (hd : d ∈ n) : d ∈ cs := by
  induction cs generalizing n with
  | nil =>
    obtain rfl := List.mem_singleton.1 h
    exact hd
  | cons c cs ih =>
    rw [List.splitOn_cons_eq_if_modifyHead] at h
    split at h
    next =>
      rcases List.mem_cons.1 h with rfl | h
      · exact absurd hd List.not_mem_nil
      · exact List.mem_cons_of_mem c (ih h hd)
    next =>
      obtain ⟨first, rest, hsplit⟩ := List.exists_cons_of_ne_nil (List.splitOn_ne_nil sep cs)
      rw [hsplit] at h ih
      rcases List.mem_cons.1 h with rfl | h
      · rcases List.mem_cons.1 hd with rfl | hd
        · exact List.mem_cons_self
        · exact List.mem_cons_of_mem c (ih List.mem_cons_self hd)
      · exact List.mem_cons_of_mem c (ih (List.mem_cons_of_mem first h) hd)

end ChatApp.Lib.Text

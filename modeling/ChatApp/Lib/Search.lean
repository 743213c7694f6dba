/-
  Occurrences of a list in a list. `find` is `std::string::find`, with positions; `cut` divides at
  the first occurrence, and what stands before it contains none, even together with the beginning
  of the occurrence.
-/
import Mathlib.Data.List.Basic
import Mathlib.Data.List.Infix

namespace ChatApp.Lib.Search

variable {α : Type*} [DecidableEq α]

/-- The first position from `pos` on at which `t` begins. -/
def find (s t : List α) (pos : Nat) : Option Nat :=
  (List.range' pos (s.length + 1 - pos)).find? fun i => t <+: s.drop i

/-- What stands before the first occurrence of `t`, and what stands after it. -/
def cut (t : List α) : List α → Option (List α × List α)
  | [] => if t = [] then some ([], []) else none
  | a :: s =>
    if t <+: a :: s then some ([], (a :: s).drop t.length)
    else (cut t s).map fun x => (a :: x.1, x.2)

variable {s t x y : List α} {a : α} {i pos : Nat}

theorem find_eq_some_iff : find s t pos = some i ↔
    pos ≤ i ∧ i ≤ s.length ∧ t <+: s.drop i ∧ ∀ j, pos ≤ j → j < i → ¬ t <+: s.drop j := by
  unfold find
  rw [List.find?_range'_eq_some, decide_eq_true_iff, List.mem_range'_1]
  simp only [Bool.not_eq_true', decide_eq_false_iff_not]
  constructor
  · rintro ⟨hi, ⟨hpos, hlt⟩, hfirst⟩
    exact ⟨hpos, by omega, hi, hfirst⟩
  · rintro ⟨hpos, hle, hi, hfirst⟩
    exact ⟨hi, ⟨hpos, by omega⟩, hfirst⟩

theorem find_eq_none_iff : find s t pos = none ↔
    ∀ i, pos ≤ i → i ≤ s.length → ¬ t <+: s.drop i := by
  unfold find
  rw [List.find?_range'_eq_none]
  simp only [Bool.not_eq_true', decide_eq_false_iff_not]
  constructor
  · exact fun h i hpos hle => h i hpos (by omega)
  · exact fun h i hpos hlt => h i hpos (by omega)

/-! ## Cutting -/

theorem cut_eq_none (h : cut t s = none) : ∀ i ≤ s.length, ¬ t <+: s.drop i := by
  induction s with
  | nil =>
    intro i _
    rw [cut] at h
    split at h
    next => exact nomatch h
    next hne => simpa using hne
  | cons a s ih =>
    rw [cut] at h
    split at h
    next => exact nomatch h
    next hne =>
      intro i hi
      cases i with
      | zero => exact hne
      | succ i => exact ih (Option.map_eq_none_iff.1 h) i (Nat.le_of_succ_le_succ hi)

theorem cut_eq_some (h : cut t s = some (x, y)) :
    s = x ++ t ++ y ∧ ∀ i < x.length, ¬ t <+: s.drop i := by
  induction s generalizing x with
  | nil =>
    rw [cut] at h
    split at h
    next ht =>
      obtain ⟨rfl, rfl⟩ := Prod.mk.inj (Option.some.inj h)
      exact ⟨by simp [ht], fun i hi => absurd hi (Nat.not_lt_zero i)⟩
    next => exact nomatch h
  | cons a s ih =>
    rw [cut] at h
    split at h
    next ht =>
      obtain ⟨rfl, rfl⟩ := Prod.mk.inj (Option.some.inj h)
      exact ⟨(List.prefix_iff_eq_append.1 ht).symm, fun i hi => absurd hi (Nat.not_lt_zero i)⟩
    next hne =>
      obtain ⟨⟨x', y'⟩, hcut, heq⟩ := Option.map_eq_some_iff.1 h
      obtain ⟨rfl, rfl⟩ := Prod.mk.inj heq
      obtain ⟨hs, hfirst⟩ := ih hcut
      refine ⟨congrArg (a :: ·) hs, fun i hi => ?_⟩
      cases i with
      | zero => exact hne
      | succ i => exact hfirst i (Nat.lt_of_succ_lt_succ hi)

theorem cut_append (h : ∀ i < x.length, ¬ t <+: (x ++ (t ++ y)).drop i) :
    cut t (x ++ (t ++ y)) = some (x, y) := by
  induction x with
  | nil =>
    cases hs : t ++ y with
    | nil =>
      obtain ⟨rfl, rfl⟩ := List.append_eq_nil_iff.1 hs
      rfl
    | cons a s =>
      have hprefix : t <+: a :: s := hs ▸ List.prefix_append t y
      rw [List.nil_append, cut, if_pos hprefix, ← hs, List.drop_left]
  | cons a x ih =>
    have hhead : ¬ t <+: a :: (x ++ (t ++ y)) := h 0 (Nat.zero_lt_succ _)
    rw [List.cons_append, cut, if_neg hhead, ih fun i hi => h (i + 1) (Nat.succ_lt_succ hi)]
    rfl

theorem cut_cons (h : ¬ t <+: a :: s) :
    cut t (a :: s) = (cut t s).map fun x => (a :: x.1, x.2) := by
  rw [cut, if_neg h]

theorem cut_self (t y : List α) : cut t (t ++ y) = some ([], y) :=
  cut_append (x := []) fun i hi => absurd hi (Nat.not_lt_zero i)

/-- Nothing begins where its first element does not stand. -/
theorem cut_skip {t : List α} (h : a ∉ x) :
    cut (a :: t) (x ++ s) = (cut (a :: t) s).map fun z => (x ++ z.1, z.2) := by
  induction x with
  | nil => simp
  | cons d x ih =>
    have hne : ¬ a :: t <+: d :: (x ++ s) := fun hprefix =>
      h ((List.cons_prefix_cons.1 hprefix).1 ▸ List.mem_cons_self)
    rw [List.cons_append, cut_cons hne, ih fun hmem => h (List.mem_cons_of_mem d hmem),
      Option.map_map]
    rfl

/-- A separator of one element -/
theorem cut_separator (h : a ∉ x) : cut [a] (x ++ a :: y) = some (x, y) := by
  have hself : cut [a] (a :: y) = some ([], y) := cut_self [a] y
  rw [cut_skip h, hself, Option.map_some, List.append_nil]

theorem not_mem_of_cut (h : cut [a] s = some (x, y)) : a ∉ x := by
  obtain ⟨hs, hfirst⟩ := cut_eq_some h
  intro hmem
  obtain ⟨u, v, rfl⟩ := List.append_of_mem hmem
  refine hfirst u.length (by simp) ?_
  rw [hs]
  simp

theorem not_mem_of_cut_none (h : cut [a] s = none) : a ∉ s := by
  intro hmem
  obtain ⟨u, v, rfl⟩ := List.append_of_mem hmem
  refine cut_eq_none h u.length (by simp) ?_
  simp

omit [DecidableEq α] in
/-- What does not contain a separator ends before it. -/
theorem prefix_of_not_mem (ha : a ∉ t) (h : t <+: x ++ a :: y) : t <+: x := by
  rcases List.prefix_or_prefix_of_prefix h (List.prefix_append x (a :: y)) with hshort | ⟨u, rfl⟩
  · exact hshort
  · rcases u with _ | ⟨d, u⟩
    · rw [List.append_nil]
    · have hrest := (List.prefix_append_right_inj x).1 h
      obtain rfl := (List.cons_prefix_cons.1 hrest).1
      exact absurd (List.mem_append_right x List.mem_cons_self) ha

/-- A part of what stands before the first occurrence can be dropped. -/
theorem cut_drop {z : List α} (h : cut t s = some (x ++ z, y)) :
    cut t (s.drop x.length) = some (z, y) := by
  obtain ⟨hs, hfirst⟩ := cut_eq_some h
  have hrest : s.drop x.length = z ++ (t ++ y) := by
    rw [hs, List.append_assoc, List.append_assoc, List.drop_left]
  rw [hrest]
  refine cut_append fun i hi => ?_
  rw [← hrest, List.drop_drop]
  exact hfirst _ (by rw [List.length_append]; omega)

/-! ## Positions -/

theorem find_of_cut (hpos : pos ≤ s.length) (h : cut t (s.drop pos) = some (x, y)) :
    find s t pos = some (pos + x.length) := by
  obtain ⟨hs, hfirst⟩ := cut_eq_some h
  have hlength := congrArg List.length hs
  simp only [List.length_drop, List.length_append] at hlength
  refine find_eq_some_iff.2 ⟨Nat.le_add_right _ _, by omega, ?_, fun j hj hlt => ?_⟩
  · rw [← List.drop_drop, hs, List.append_assoc, List.drop_left]
    exact List.prefix_append t y
  · have hrest := hfirst (j - pos) (by omega)
    rwa [List.drop_drop, Nat.add_sub_cancel' hj] at hrest

theorem find_of_cut_none (h : cut t (s.drop pos) = none) : find s t pos = none := by
  refine find_eq_none_iff.2 fun i hi hle => ?_
  have hrest := cut_eq_none h (i - pos) (by rw [List.length_drop]; omega)
  rwa [List.drop_drop, Nat.add_sub_cancel' hi] at hrest

/-- What follows the occurrence. -/
theorem drop_of_cut (h : cut t (s.drop pos) = some (x, y)) :
    s.drop (pos + x.length + t.length) = y := by
  rw [← List.drop_drop, ← List.drop_drop, (cut_eq_some h).1, List.append_assoc, List.drop_left,
    List.drop_left]

theorem length_of_cut (h : cut t (s.drop pos) = some (x, y)) :
    x.length + t.length + y.length = s.length - pos := by
  have hlength := congrArg List.length (cut_eq_some h).1
  simp only [List.length_drop, List.length_append] at hlength
  omega

theorem find_le (h : find s t pos = some i) : i + t.length ≤ s.length := by
  obtain ⟨-, hle, hprefix, -⟩ := find_eq_some_iff.1 h
  have hlength := hprefix.length_le
  rw [List.length_drop] at hlength
  omega

theorem find_isSome_iff : (find s t 0).isSome ↔ t <:+: s := by
  rw [← not_iff_not, Option.not_isSome_iff_eq_none, find_eq_none_iff, List.infix_iff_prefix_suffix]
  constructor
  · rintro h ⟨u, hprefix, hsuffix⟩
    rw [List.suffix_iff_eq_drop.1 hsuffix] at hprefix
    exact h _ (Nat.zero_le _) (Nat.sub_le _ _) hprefix
  · exact fun h j _ _ hprefix => h ⟨_, hprefix, List.drop_suffix j s⟩

end ChatApp.Lib.Search

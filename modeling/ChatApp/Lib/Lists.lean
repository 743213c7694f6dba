/-
  The first element of a list that passes a test: it is taken out (`List.eraseP`) or rewritten
  (`updateFirst`). The last elements: a list that grows at its end, of which the last `k` are kept
  (`List.rtake`). A list of pairs with distinct keys is a map (`lookup_iff_mem`). And sorting that
  need not be stable: a `Sorting` puts a list in order, equal elements in any order.
-/
import Mathlib.Data.List.DropRight
import Mathlib.Data.List.Sort
import Mathlib.Data.Multiset.ZeroCons

namespace ChatApp.Lib

variable {α κ : Type*}

/-! ## The first element -/

/-- Rewrite the first element that passes the test. -/
def updateFirst (p : α → Bool) (f : α → α) : List α → List α
  | [] => []
  | x :: xs => if p x then f x :: xs else x :: updateFirst p f xs

section
variable {p q : α → Bool} {f : α → α} {xs : List α} {x : α}

theorem perm_eraseP (h : xs.find? p = some x) : xs.Perm (x :: xs.eraseP p) := by
  induction xs with
  | nil => cases h
  | cons y ys ih =>
    by_cases hy : p y
    · rw [List.find?_cons_of_pos hy] at h
      cases h
      rw [List.eraseP_cons_of_pos hy]
    · rw [List.find?_cons_of_neg hy] at h
      rw [List.eraseP_cons_of_neg hy]
      exact ((ih h).cons y).trans (.swap x y _)

theorem eraseP_of_find?_eq_none (h : xs.find? p = none) : xs.eraseP p = xs :=
  List.eraseP_of_forall_not fun a ha => List.find?_eq_none.1 h a ha

/-- The element is rewritten, and the others stay. -/
theorem perm_updateFirst (h : xs.find? p = some x) :
    ∃ rest, xs.Perm (x :: rest) ∧ (updateFirst p f xs).Perm (f x :: rest) := by
  induction xs with
  | nil => cases h
  | cons y ys ih =>
    by_cases hy : p y
    · rw [List.find?_cons_of_pos hy] at h
      cases h
      exact ⟨ys, .refl _, by rw [updateFirst, if_pos hy]⟩
    · rw [List.find?_cons_of_neg hy] at h
      obtain ⟨rest, hxs, hupdate⟩ := ih h
      refine ⟨y :: rest, (hxs.cons y).trans (.swap x y rest), ?_⟩
      rw [updateFirst, if_neg hy]
      exact (hupdate.cons y).trans (.swap (f x) y rest)

theorem updateFirst_of_find?_eq_none (h : xs.find? p = none) : updateFirst p f xs = xs := by
  induction xs with
  | nil => rfl
  | cons y ys ih =>
    have hnone := List.find?_eq_none.1 h
    have hys : ys.find? p = none :=
      List.find?_eq_none.2 fun x hx => hnone x (List.mem_cons_of_mem y hx)
    rw [updateFirst, if_neg (hnone y List.mem_cons_self), ih hys]

theorem mem_updateFirst {y : α} (h : y ∈ updateFirst p f xs) : y ∈ xs ∨ ∃ x ∈ xs, y = f x := by
  induction xs with
  | nil => exact absurd h List.not_mem_nil
  | cons z zs ih =>
    unfold updateFirst at h
    split at h
    · rcases List.mem_cons.1 h with rfl | h
      · exact .inr ⟨z, List.mem_cons_self, rfl⟩
      · exact .inl (List.mem_cons_of_mem z h)
    · rcases List.mem_cons.1 h with rfl | h
      · exact .inl List.mem_cons_self
      · rcases ih h with h | ⟨x, hx, rfl⟩
        · exact .inl (List.mem_cons_of_mem z h)
        · exact .inr ⟨x, List.mem_cons_of_mem z hx, rfl⟩

/-- What the rewriting keeps. -/
theorem map_updateFirst {g : α → κ} (hg : ∀ x, p x = true → g (f x) = g x) :
    (updateFirst p f xs).map g = xs.map g := by
  induction xs with
  | nil => rfl
  | cons y ys ih =>
    unfold updateFirst
    split
    next hy => rw [List.map_cons, List.map_cons, hg y hy]
    next => rw [List.map_cons, List.map_cons, ih]

/-- Rewriting the only element of a key. -/
theorem mem_updateFirst_iff {g : α → κ} {k : κ} {y : α} (hnodup : (xs.map g).Nodup)
    (hp : ∀ x, p x = true → g x = k) (hx : xs.find? p = some x) :
    y ∈ updateFirst p f xs ↔ y = f x ∨ y ∈ xs ∧ g y ≠ k := by
  obtain ⟨rest, hxs, hupdate⟩ := perm_updateFirst (f := f) hx
  have hk := hp x (List.find?_some hx)
  have hrest : k ∉ rest.map g := by
    have hcons := (hxs.map g).nodup_iff.1 hnodup
    rw [List.map_cons, hk] at hcons
    exact (List.nodup_cons.1 hcons).1
  rw [hupdate.mem_iff, hxs.mem_iff, List.mem_cons, List.mem_cons]
  refine or_congr_right ⟨fun hy => ⟨.inr hy, fun hkey => ?_⟩, fun ⟨hy, hne⟩ => ?_⟩
  · exact hrest (hkey ▸ List.mem_map_of_mem hy)
  · exact hy.resolve_left fun heq => hne (heq ▸ hk)

/-- A rewriting that keeps what a relation looks at. -/
theorem pairwise_updateFirst {g : α → κ} {r : κ → κ → Prop}
    (hg : ∀ x, p x = true → g (f x) = g x) :
    (updateFirst p f xs).Pairwise (fun x y => r (g x) (g y)) ↔
      xs.Pairwise fun x y => r (g x) (g y) := by
  rw [← List.pairwise_map, map_updateFirst hg, List.pairwise_map]

theorem map_eq_self {g : α → α} : xs.map g = xs ↔ ∀ x ∈ xs, g x = x := by
  conv_lhs =>
    rhs
    rw [← List.map_id xs]
  exact List.map_inj_left

/-- Rewriting the first element only, where every element that passes the test is rewritten. -/
theorem updateFirst_eq_map {g : α → α} (hg : ∀ x, p x = false → g x = x) :
    updateFirst p f xs = xs.map g ↔
      (∀ x, xs.find? p = some x → f x = g x) ∧ ∀ x ∈ xs.eraseP p, g x = x := by
  induction xs with
  | nil => simp [updateFirst]
  | cons y ys ih =>
    unfold updateFirst
    by_cases hy : p y = true
    · rw [if_pos hy, List.find?_cons_of_pos hy, List.eraseP_cons_of_pos hy, List.map_cons,
        List.cons.injEq, eq_comm (a := ys), map_eq_self]
      simp
    · rw [if_neg hy, List.find?_cons_of_neg hy, List.eraseP_cons_of_neg hy, List.map_cons,
        List.cons.injEq, ih, List.forall_mem_cons]
      have hsame := hg y (by simpa using hy)
      rw [hsame]
      tauto

/-- The rewritten element is counted or not, like the old one. -/
theorem filter_updateFirst (hx : xs.find? p = some x) (hq : q (f x) = q x) :
    ((updateFirst p f xs).filter q).Perm (xs.filter q) ↔ q x = true → f x = x := by
  obtain ⟨rest, hxs, hupdate⟩ := perm_updateFirst (f := f) hx
  have hleft := hupdate.filter q
  have hright := hxs.filter q
  rw [hleft.congr_left, hright.congr_right]
  by_cases hqx : q x = true
  · rw [List.filter_cons_of_pos hqx, List.filter_cons_of_pos (hq.trans hqx)]
    have hcons := Multiset.cons_inj_left (a := f x) (b := x) (rest.filter q : Multiset α)
    simpa [hqx] using hcons
  · rw [List.filter_cons_of_neg hqx, List.filter_cons_of_neg (hq ▸ hqx)]
    simp [hqx]

/-- Taking the element out is seen by a filter that it passes. -/
theorem filter_eraseP (hx : xs.find? p = some x) :
    ((xs.eraseP p).filter q).Perm (xs.filter q) ↔ q x = false := by
  have hperm := (perm_eraseP hx).filter q
  rw [hperm.congr_right]
  cases hqx : q x with
  | true =>
    rw [List.filter_cons_of_pos hqx]
    refine iff_of_false (fun h => ?_) (by simp)
    have hlength := h.length_eq
    rw [List.length_cons] at hlength
    omega
  | false =>
    rw [List.filter_cons_of_neg (by simp [hqx])]
    simp

/-- The keys after the only element of a key is taken out. -/
theorem map_eraseP_of_nodup {g : α → κ} {k : κ} (hnodup : (xs.map g).Nodup)
    (hfind : ∀ x, xs.find? p = some x → g x = k) (hp : ∀ x ∈ xs, g x = k → p x = true) :
    k ∉ (xs.eraseP p).map g ∧ ∀ k', k' ≠ k → k' ∈ xs.map g → k' ∈ (xs.eraseP p).map g := by
  cases hx : xs.find? p with
  | none =>
    rw [eraseP_of_find?_eq_none hx]
    refine ⟨fun hmem => ?_, fun k' _ h => h⟩
    obtain ⟨x, hxs, hk⟩ := List.mem_map.1 hmem
    exact List.find?_eq_none.1 hx x hxs (hp x hxs hk)
  | some x =>
    have hperm := (perm_eraseP hx).map g
    have hk := hfind x hx
    rw [List.map_cons, hk] at hperm
    refine ⟨(List.nodup_cons.1 (hperm.nodup_iff.1 hnodup)).1, fun k' hne hmem => ?_⟩
    exact (List.mem_cons.1 (hperm.mem_iff.1 hmem)).resolve_left hne

end

/-! ## The last elements -/

/-- A list with a last element, divided at another one. -/
theorem snoc_eq_append_cons {xs before after : List α} {x y : α} :
    xs ++ [x] = before ++ y :: after ↔
      (xs = before ∧ x = y ∧ after = []) ∨
        ∃ rest, after = rest ++ [x] ∧ xs = before ++ y :: rest := by
  constructor
  · intro h
    rcases List.eq_nil_or_concat after with rfl | ⟨rest, last, rfl⟩
    · obtain ⟨hxs, hx⟩ := List.append_inj' h rfl
      exact .inl ⟨hxs, List.singleton_injective hx, rfl⟩
    · have hlast : xs ++ [x] = (before ++ y :: rest) ++ [last] := by simpa using h
      obtain ⟨hxs, hx⟩ := List.append_inj' hlast rfl
      obtain rfl := List.singleton_injective hx
      exact .inr ⟨rest, by simp, hxs⟩
  · rintro (⟨rfl, rfl, rfl⟩ | ⟨rest, rfl, rfl⟩)
    · rfl
    · simp

theorem nodup_map_snoc {f : α → κ} {xs : List α} {x : α} :
    ((xs ++ [x]).map f).Nodup ↔ (xs.map f).Nodup ∧ f x ∉ xs.map f := by
  rw [List.map_append, List.map_singleton, ← List.concat_eq_append, List.nodup_concat, and_comm]

section
variable {xs ys : List α} {x : α} {k : Nat}

theorem iterate_eraseIdx (k : Nat) (xs : List α) :
    Nat.iterate (List.eraseIdx · 1) k (x :: xs) = x :: xs.drop k := by
  induction k generalizing xs with
  | zero => rfl
  | succ k ih =>
    rw [Function.iterate_succ_apply]
    have hround : List.eraseIdx (x :: xs) 1 = x :: xs.drop 1 := by cases xs <;> rfl
    rw [hround, ih, List.drop_drop, Nat.add_comm]

theorem rtake_append_of_le (h : k ≤ ys.length) : (xs ++ ys).rtake k = ys.rtake k := by
  have hlength : xs.length + ys.length - k = xs.length + (ys.length - k) := by omega
  unfold List.rtake
  rw [List.length_append, hlength, List.drop_append]
  simp

theorem map_rtake {f : α → κ} : (xs.rtake k).map f = (xs.map f).rtake k := by
  unfold List.rtake
  rw [List.map_drop, List.length_map]

/-- What is cut off first would have been cut off later. -/
theorem rtake_rtake_append : (xs.rtake k ++ ys).rtake k = (xs ++ ys).rtake k := by
  by_cases h : xs.length ≤ k
  · have hall : xs.rtake k = xs := by
      unfold List.rtake
      rw [Nat.sub_eq_zero_of_le h, List.drop_zero]
    rw [hall]
  · have hsplit : xs = xs.take (xs.length - k) ++ xs.rtake k := (List.take_append_drop _ _).symm
    conv_rhs => rw [hsplit, List.append_assoc]
    refine (rtake_append_of_le ?_).symm
    rw [List.length_append]
    unfold List.rtake
    rw [List.length_drop]
    omega

end

/-! ## Maps as lists of pairs -/

section
variable {ν : Type*} [DecidableEq κ] {xs : List (κ × ν)} {k : κ} {v : ν}

theorem lookup_iff_mem (h : (xs.map Prod.fst).Nodup) : xs.lookup k = some v ↔ (k, v) ∈ xs := by
  induction xs with
  | nil => simp
  | cons x xs ih =>
    obtain ⟨hx, hxs⟩ := List.nodup_cons.1 h
    rw [List.lookup_cons, List.mem_cons]
    by_cases hk : k = x.1
    · subst hk
      have hnone : (x.1, v) ∉ xs := fun hmem => hx (List.mem_map.2 ⟨_, hmem, rfl⟩)
      simp [hnone, Prod.ext_iff, eq_comm]
    · have hne : (k, v) ≠ x := fun heq => hk (congrArg Prod.fst heq)
      have hkey : (k == x.1) = false := beq_eq_false_iff_ne.2 hk
      simp [hkey, hne, ih hxs]

theorem lookup_eq_none_iff_not_mem : xs.lookup k = none ↔ k ∉ xs.map Prod.fst := by
  rw [List.lookup_eq_none_iff]
  refine ⟨fun h hmem => ?_, fun h x hx => ?_⟩
  · obtain ⟨x, hx, rfl⟩ := List.mem_map.1 hmem
    exact absurd (h x hx) (by simp)
  · exact bne_iff_ne.2 fun heq => h (heq ▸ List.mem_map_of_mem hx)

end

/-! ## Sorting -/

structure Sorting (le : α → α → Prop) where
  sort : List α → List α
  perm : ∀ xs, (sort xs).Perm xs
  sorted : ∀ xs, (sort xs).Pairwise le

namespace Sorting

variable {le : α → α → Prop}

def insertion (le : α → α → Prop) [DecidableRel le] [Std.Total le] [IsTrans α le] : Sorting le where
  sort := List.insertionSort le
  perm := List.perm_insertionSort le
  sorted := List.pairwise_insertionSort le

@[simp] theorem mem_sort (s : Sorting le) {x : α} {xs : List α} : x ∈ s.sort xs ↔ x ∈ xs :=
  (s.perm xs).mem_iff

end Sorting

end ChatApp.Lib

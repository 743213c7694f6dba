/-
  A binary heap in a list, the largest key at the front, as `std::push_heap` and `std::pop_heap`
  of libstdc++ keep it. The element at `i` has its children at `2i + 1` and `2i + 2`.

  `push` puts the new element behind the last and moves it up past every smaller parent. `pop` takes
  the front away, fills the hole from below with the larger child, the right one if neither is
  larger, down to a leaf, and moves the last element up from there. Among equal keys nothing is
  said: what comes first depends on the shape of the heap.

  Proved: both keep the order of the heap (`isHeap_push`, `isHeap_pop`) and add or remove just that
  one element (`push_perm`, `pop_perm`), so that the front is always a largest (`le_front`).
-/
import Mathlib.Order.Lattice
import Mathlib.Order.Nat
import Mathlib.Data.List.Basic

namespace ChatApp.Lib

namespace Heap

variable {α κ : Type*} [LinearOrder κ] (key : α → κ)

def parent (i : Nat) : Nat := (i - 1) / 2

/-- The hole at `i` moves up while its parent is smaller than `x`, and is filled with `x`. The
    first argument bounds the number of moves. -/
def siftUp (x : α) : Nat → List α → Nat → List α
  | 0, h, i => h.set i x
  | n + 1, h, i =>
    match h[parent i]? with
    | some p => if 0 < i ∧ key p < key x then siftUp x n (h.set i p) (parent i) else h.set i x
    | none => h.set i x

/-- The hole at `i` moves down to a leaf, past the larger child. -/
def siftDown : Nat → List α → Nat → List α × Nat
  | 0, h, i => (h, i)
  | n + 1, h, i =>
    match h[2 * i + 1]?, h[2 * i + 2]? with
    | some l, some r =>
      if key r < key l then siftDown n (h.set i l) (2 * i + 1)
      else siftDown n (h.set i r) (2 * i + 2)
    | some l, none => (h.set i l, 2 * i + 1)
    | none, _ => (h, i)

/-- `std::priority_queue::push` -/
def push (h : List α) (x : α) : List α := siftUp key x (h.length + 1) (h ++ [x]) h.length

/-- `std::priority_queue::pop` -/
def pop (h : List α) : List α :=
  match h.dropLast, h.getLast? with
  | a :: rest, some x =>
    let (holed, i) := siftDown key (rest.length + 1) (a :: rest) 0
    siftUp key x (rest.length + 1) holed i
  | _, _ => []

/-- No element is larger than its parent. -/
def IsHeap (h : List α) : Prop :=
  ∀ j c p, 0 < j → h[j]? = some c → h[parent j]? = some p → key c ≤ key p

/-- Whatever is at `i` counts as a hole: the order holds elsewhere, and across it. -/
structure Hole (h : List α) (i : Nat) : Prop where
  off : ∀ j c p, 0 < j → j ≠ i → parent j ≠ i → h[j]? = some c → h[parent j]? = some p →
    key c ≤ key p
  across : ∀ j c p, 0 < i → 0 < j → parent j = i → h[j]? = some c → h[parent i]? = some p →
    key c ≤ key p

/-- `x` is not smaller than what is below the place `i`. -/
def Covers (x : α) (h : List α) (i : Nat) : Prop :=
  ∀ j c, 0 < j → parent j = i → h[j]? = some c → key c ≤ key x

variable {key} {h : List α} {i n : Nat} {x p : α}

theorem parent_lt (hi : 0 < i) : parent i < i := by
  unfold parent
  omega

theorem parent_left : parent (2 * i + 1) = i := by
  unfold parent
  omega

theorem parent_right : parent (2 * i + 2) = i := by
  unfold parent
  omega

/-- The children of a place. -/
theorem child_cases {j : Nat} (hj : 0 < j) (hp : parent j = i) : j = 2 * i + 1 ∨ j = 2 * i + 2 := by
  unfold parent at hp
  omega

theorem getElem?_set_ne {j : Nat} (hij : i ≠ j) : (h.set i x)[j]? = h[j]? :=
  List.getElem?_set_ne hij

theorem getElem?_set_hole (hi : i < h.length) : (h.set i x)[i]? = some x :=
  List.getElem?_set_self hi

/-! ## Order -/

/-- The hole is filled below nothing smaller. -/
theorem Hole.fill (hh : Hole key h i) (hc : Covers key x h i)
    (hp : ∀ p, 0 < i → h[parent i]? = some p → key x ≤ key p) : IsHeap key (h.set i x) := by
  intro j c q hj hjc hjq
  by_cases hji : j = i
  · subst hji
    have hne : j ≠ parent j := (parent_lt hj).ne'
    rw [getElem?_set_ne hne] at hjq
    have hcx : c = x := by
      rw [List.getElem?_set] at hjc
      grind
    exact hcx ▸ hp q hj hjq
  · rw [getElem?_set_ne (Ne.symm hji)] at hjc
    by_cases hpi : parent j = i
    · have hqx : q = x := by
        rw [hpi, List.getElem?_set] at hjq
        grind
      exact hqx ▸ hc j c hj hpi hjc
    · rw [getElem?_set_ne (Ne.symm hpi)] at hjq
      exact hh.off j c q hj hji hpi hjc hjq

/-- The hole moves up, past a parent that is smaller than `x`. -/
theorem Hole.up (hh : Hole key h i) (hi : 0 < i) (hlen : i < h.length)
    (hp : h[parent i]? = some p) : Hole key (h.set i p) (parent i) := by
  have hlt := parent_lt hi
  have habove : ∀ q, 0 < parent i → h[parent (parent i)]? = some q → key p ≤ key q := by
    intro q hpos hq
    exact hh.off (parent i) p q hpos hlt.ne ((parent_lt hpos).trans hlt).ne hp hq
  constructor
  · intro j c q hj hji hpj hjc hjq
    by_cases hj' : j = i
    · exact absurd (congrArg parent hj') hpj
    rw [getElem?_set_ne (Ne.symm hj')] at hjc
    by_cases hpi : parent j = i
    · rw [hpi, getElem?_set_hole hlen] at hjq
      exact Option.some.inj hjq ▸ hh.across j c p hi hj hpi hjc hp
    · rw [getElem?_set_ne (Ne.symm hpi)] at hjq
      exact hh.off j c q hj hj' hpi hjc hjq
  · intro j c q hpos hj hpj hjc hq
    have hne : i ≠ parent (parent i) := ((parent_lt hpos).trans hlt).ne'
    rw [getElem?_set_ne hne] at hq
    by_cases hj' : j = i
    · rw [hj', getElem?_set_hole hlen] at hjc
      exact Option.some.inj hjc ▸ habove q hpos hq
    · rw [getElem?_set_ne (Ne.symm hj')] at hjc
      have hcp : key c ≤ key p := hh.off j c p hj hj' (hpj ▸ hlt.ne) hjc (hpj ▸ hp)
      exact hcp.trans (habove q hpos hq)

theorem Covers.up (hh : Hole key h i) (hi : 0 < i) (hlen : i < h.length)
    (hp : h[parent i]? = some p) (hx : key p < key x) : Covers key x (h.set i p) (parent i) := by
  intro j c hj hpj hjc
  by_cases hj' : j = i
  · rw [hj', getElem?_set_hole hlen] at hjc
    exact Option.some.inj hjc ▸ hx.le
  · rw [getElem?_set_ne (Ne.symm hj')] at hjc
    have hcp : key c ≤ key p := hh.off j c p hj hj' (hpj ▸ (parent_lt hi).ne) hjc (hpj ▸ hp)
    exact hcp.trans hx.le

theorem isHeap_siftUp (hn : i ≤ n) (hlen : i < h.length) (hh : Hole key h i)
    (hc : Covers key x h i) : IsHeap key (siftUp key x n h i) := by
  induction n generalizing h i with
  | zero => exact hh.fill hc fun _ hi => absurd hi (by omega)
  | succ n ih =>
    have hparent : parent i < h.length := lt_of_le_of_lt (by unfold parent; omega) hlen
    rw [siftUp, List.getElem?_eq_getElem hparent]
    dsimp only
    have hp := List.getElem?_eq_getElem hparent
    split
    case isTrue hlt =>
      refine ih ?_ ?_ (hh.up hlt.1 hlen hp) (Covers.up hh hlt.1 hlen hp hlt.2)
      · have := parent_lt hlt.1
        omega
      · rw [List.length_set]
        exact hparent
    case isFalse hge =>
      refine hh.fill hc fun q hi hq => ?_
      rw [hp] at hq
      exact Option.some.inj hq ▸ not_lt.1 fun hlt => hge ⟨hi, hlt⟩

/-- The hole moves down to a child that is not smaller than the other one. -/
theorem Hole.down {j : Nat} (hh : Hole key h i) (hlen : i < h.length) (hj : 0 < j)
    (hpj : parent j = i) (hc : h[j]? = some p)
    (hother : ∀ k c, 0 < k → parent k = i → h[k]? = some c → key c ≤ key p) :
    Hole key (h.set i p) j := by
  have hij : i < j := hpj ▸ parent_lt hj
  constructor
  · intro k c q hk hkj hpk hkc hkq
    by_cases hki : k = i
    · subst hki
      rw [getElem?_set_hole hlen] at hkc
      rw [getElem?_set_ne (parent_lt hk).ne'] at hkq
      exact Option.some.inj hkc ▸ hh.across j p q hk hj hpj hc hkq
    · rw [getElem?_set_ne (Ne.symm hki)] at hkc
      by_cases hpi : parent k = i
      · rw [hpi, getElem?_set_hole hlen] at hkq
        exact Option.some.inj hkq ▸ hother k c hk hpi hkc
      · rw [getElem?_set_ne (Ne.symm hpi)] at hkq
        exact hh.off k c q hk hki hpi hkc hkq
  · intro k c q _ hk hpk hkc hq
    rw [hpj, getElem?_set_hole hlen] at hq
    have hjk : j < k := hpk ▸ parent_lt hk
    rw [getElem?_set_ne (hij.trans hjk).ne] at hkc
    exact Option.some.inj hq ▸
      hh.off k c p hk (hij.trans hjk).ne' (hpk ▸ hij.ne') hkc (hpk ▸ hc)

theorem siftDown_inside (hlen : i < h.length) : (siftDown key n h i).1.length = h.length ∧
    (siftDown key n h i).2 < h.length := by
  induction n generalizing h i with
  | zero => exact ⟨rfl, hlen⟩
  | succ n ih =>
    have hmove : ∀ (j : Nat) (c : α), h[j]? = some c →
        (siftDown key n (h.set i c) j).1.length = h.length ∧
          (siftDown key n (h.set i c) j).2 < h.length := by
      intro j c hc
      have hjlen : j < (h.set i c).length := by
        rw [List.length_set]
        exact (List.getElem?_eq_some_iff.1 hc).1
      simpa only [List.length_set] using ih hjlen
    rw [siftDown]
    split
    next l r hl hr =>
      split
      · exact hmove _ l hl
      · exact hmove _ r hr
    next l hl hr => exact ⟨List.length_set, (List.getElem?_eq_some_iff.1 hl).1⟩
    next hl => exact ⟨rfl, hlen⟩

/-- There is nothing below the place. -/
def Leaf (h : List α) (i : Nat) : Prop := ∀ j, 0 < j → parent j = i → h[j]? = none

theorem leaf_of_length (hi : h.length ≤ 2 * i + 1) : Leaf h i := by
  intro j hj hpj
  rw [List.getElem?_eq_none_iff]
  rcases child_cases hj hpj with rfl | rfl <;> omega

theorem hole_siftDown (hlen : i < h.length) (hn : h.length ≤ i + n) (hh : Hole key h i) :
    Hole key (siftDown key n h i).1 (siftDown key n h i).2 ∧
      Leaf (siftDown key n h i).1 (siftDown key n h i).2 := by
  induction n generalizing h i with
  | zero => omega
  | succ n ih =>
    -- the move to the child `j` that holds `c`
    have hmove : ∀ (j : Nat) (c : α), 0 < j → parent j = i → h[j]? = some c →
        (∀ k d, 0 < k → parent k = i → h[k]? = some d → key d ≤ key c) →
        Hole key (siftDown key n (h.set i c) j).1 (siftDown key n (h.set i c) j).2 ∧
          Leaf (siftDown key n (h.set i c) j).1 (siftDown key n (h.set i c) j).2 := by
      intro j c hj hpj hc hother
      have hij : i < j := hpj ▸ parent_lt hj
      have hjlen : j < h.length := (List.getElem?_eq_some_iff.1 hc).1
      refine ih ?_ ?_ (hh.down hlen hj hpj hc hother)
      · rw [List.length_set]
        exact hjlen
      · rw [List.length_set]
        omega
    rw [siftDown]
    split
    next l r hl hr =>
      split
      case isTrue hlt =>
        refine hmove _ l (Nat.succ_pos _) parent_left hl fun k d hk hpk hd => ?_
        rcases child_cases hk hpk with rfl | rfl
        · exact (Option.some.inj (hl.symm.trans hd)) ▸ le_rfl
        · exact (Option.some.inj (hr.symm.trans hd)) ▸ hlt.le
      case isFalse hge =>
        refine hmove _ r (Nat.succ_pos _) parent_right hr fun k d hk hpk hd => ?_
        rcases child_cases hk hpk with rfl | rfl
        · exact (Option.some.inj (hl.symm.trans hd)) ▸ not_lt.1 hge
        · exact (Option.some.inj (hr.symm.trans hd)) ▸ le_rfl
    next l hl hr =>
      have hrlen : h.length ≤ 2 * i + 2 := List.getElem?_eq_none_iff.1 hr
      refine ⟨hh.down hlen (Nat.succ_pos _) parent_left hl fun k d hk hpk hd => ?_, ?_⟩
      · rcases child_cases hk hpk with rfl | rfl
        · exact (Option.some.inj (hl.symm.trans hd)) ▸ le_rfl
        · rw [hr] at hd
          cases hd
      · refine leaf_of_length ?_
        rw [List.length_set]
        omega
    next hl => exact ⟨hh, leaf_of_length (List.getElem?_eq_none_iff.1 hl)⟩

/-! ## Contents -/

/-- Moving an element into the hole moves the hole to its place. -/
theorem move_perm {j : Nat} {c : α} (hi : i < h.length) (hj : h[j]? = some c) :
    ((h.set i c).set j x).Perm (h.set i x) := by
  by_cases hij : i = j
  · subst hij
    rw [List.set_set]
  · obtain ⟨hjlen, hjc⟩ := List.getElem?_eq_some_iff.1 hj
    have hi' : i < (h.set i x).length := by
      rw [List.length_set]
      exact hi
    have hj' : j < (h.set i x).length := by
      rw [List.length_set]
      exact hjlen
    have hperm := List.set_set_perm hi' hj'
    rw [List.getElem_set_ne hij, List.getElem_set_self, List.set_set, hjc] at hperm
    exact hperm

theorem siftUp_perm (hlen : i < h.length) : (siftUp key x n h i).Perm (h.set i x) := by
  induction n generalizing h i with
  | zero => exact .refl _
  | succ n ih =>
    have hparent : parent i < h.length := lt_of_le_of_lt (by unfold parent; omega) hlen
    rw [siftUp, List.getElem?_eq_getElem hparent]
    dsimp only
    split
    case isTrue =>
      refine (ih ?_).trans (move_perm hlen (List.getElem?_eq_getElem hparent))
      rw [List.length_set]
      exact hparent
    case isFalse => exact .refl _

theorem siftDown_perm (hlen : i < h.length) :
    ((siftDown key n h i).1.set (siftDown key n h i).2 x).Perm (h.set i x) := by
  induction n generalizing h i with
  | zero => exact .refl _
  | succ n ih =>
    have hmove : ∀ (j : Nat) (c : α), h[j]? = some c →
        ((siftDown key n (h.set i c) j).1.set (siftDown key n (h.set i c) j).2 x).Perm
          (h.set i x) := by
      intro j c hc
      refine (ih ?_).trans (move_perm hlen hc)
      rw [List.length_set]
      exact (List.getElem?_eq_some_iff.1 hc).1
    rw [siftDown]
    split
    next l r hl hr =>
      split
      · exact hmove _ l hl
      · exact hmove _ r hr
    next l hl hr => exact move_perm hlen hl
    next hl => exact .refl _

/-! ## The operations -/

theorem push_perm : (push key h x).Perm (x :: h) := by
  refine (siftUp_perm (by simp)).trans ?_
  rw [List.set_append_right _ _ le_rfl, Nat.sub_self, List.set_cons_zero]
  exact List.perm_append_singleton x h

theorem isHeap_push (hh : IsHeap key h) : IsHeap key (push key h x) := by
  have hat : ∀ {j : Nat} {c : α}, j ≠ h.length → (h ++ [x])[j]? = some c → h[j]? = some c := by
    intro j c hj hc
    have hlt := (List.getElem?_eq_some_iff.1 hc).1
    rw [List.length_append, List.length_singleton] at hlt
    rwa [List.getElem?_append_left (by omega)] at hc
  refine isHeap_siftUp (Nat.le_succ _) (by simp) ⟨fun j c p hj hji hpi hc hp => ?_, ?_⟩ ?_
  · exact hh j c p hj (hat hji hc) (hat hpi hp)
  · intro j c p _ hj hpj hc
    have hlt := (List.getElem?_eq_some_iff.1 hc).1
    have := parent_lt hj
    simp only [List.length_append, List.length_singleton] at hlt
    omega
  · intro j c hj hpj hc
    have hlt := (List.getElem?_eq_some_iff.1 hc).1
    have := parent_lt hj
    simp only [List.length_append, List.length_singleton] at hlt
    omega

variable {a : α} {t : List α}

theorem pop_concat : pop key (a :: (t ++ [x])) =
    siftUp key x (t.length + 1) (siftDown key (t.length + 1) (a :: t) 0).1
      (siftDown key (t.length + 1) (a :: t) 0).2 := by
  rw [← List.cons_append, pop, List.dropLast_concat, List.getLast?_concat]

/-- A heap without its last element, and a hole at the front. -/
theorem hole_front (hh : IsHeap key (a :: (t ++ [x]))) : Hole key (a :: t) 0 := by
  have hat : ∀ {j : Nat} {c : α}, (a :: t)[j]? = some c → (a :: (t ++ [x]))[j]? = some c := by
    intro j c hc
    have hlt := (List.getElem?_eq_some_iff.1 hc).1
    rw [← List.cons_append, List.getElem?_append_left hlt]
    exact hc
  exact ⟨fun j c p hj _ _ hc hp => hh j c p hj (hat hc) (hat hp),
    fun _ _ _ h0 => absurd h0 (lt_irrefl 0)⟩

theorem pop_perm : (pop key (a :: t)).Perm t := by
  rcases List.eq_nil_or_concat t with rfl | ⟨t, x, rfl⟩
  · exact .refl _
  rw [List.concat_eq_append, pop_concat]
  obtain ⟨hlength, hlt⟩ : (siftDown key (t.length + 1) (a :: t) 0).1.length = _ ∧ _ :=
    siftDown_inside (show 0 < (a :: t).length from Nat.succ_pos _)
  refine (siftUp_perm (hlength ▸ hlt)).trans ((siftDown_perm (Nat.succ_pos _)).trans ?_)
  rw [List.set_cons_zero]
  exact (List.perm_append_singleton x t).symm

theorem isHeap_pop (hh : IsHeap key (a :: t)) : IsHeap key (pop key (a :: t)) := by
  rcases List.eq_nil_or_concat t with rfl | ⟨t, x, rfl⟩
  · exact fun j c p _ hc => by cases hc
  rw [List.concat_eq_append] at hh ⊢
  rw [pop_concat]
  obtain ⟨hlength, hlt⟩ : (siftDown key (t.length + 1) (a :: t) 0).1.length = _ ∧ _ :=
    siftDown_inside (show 0 < (a :: t).length from Nat.succ_pos _)
  obtain ⟨hhole, hleaf⟩ := hole_siftDown (n := t.length + 1) (Nat.succ_pos _) (by simp)
    (hole_front hh)
  refine isHeap_siftUp hlt.le (hlength ▸ hlt) hhole fun j c hj hpj hc => ?_
  rw [hleaf j hj hpj] at hc
  cases hc

/-- The front of a heap is a largest element. -/
theorem le_front (hh : IsHeap key (a :: t)) (hx : x ∈ a :: t) : key x ≤ key a := by
  have hall : ∀ (j : Nat) (c : α), (a :: t)[j]? = some c → key c ≤ key a := by
    intro j
    induction j using Nat.strongRecOn with
    | ind j ih =>
      intro c hc
      rcases Nat.eq_zero_or_pos j with rfl | hj
      · exact Option.some.inj hc ▸ le_rfl
      · have hlt := (List.getElem?_eq_some_iff.1 hc).1
        have hp := List.getElem?_eq_getElem ((parent_lt hj).trans hlt)
        exact (hh j c _ hj hc hp).trans (ih _ (parent_lt hj) _ hp)
  obtain ⟨j, hj⟩ := List.mem_iff_getElem?.1 hx
  exact hall j x hj

/-! ## Equal keys -/

/-- What is not larger than the rest stays behind it. -/
theorem push_of_le (hx : ∀ y ∈ h, key x ≤ key y) : push key h x = h ++ [x] := by
  have hset : (h ++ [x]).set h.length x = h ++ [x] := by
    rw [List.set_append_right _ _ le_rfl, Nat.sub_self, List.set_cons_zero]
  rw [push, siftUp]
  split
  case h_1 p hp =>
    split
    case isTrue hlt =>
      have hmem : p ∈ h := by
        rw [List.getElem?_append_left (parent_lt hlt.1)] at hp
        exact List.mem_of_getElem? hp
      exact absurd (hx p hmem) hlt.2.not_ge
    case isFalse => exact hset
  case h_2 => exact hset

theorem pop_three {b c : α} (h : key c ≤ key b) : pop key [a, b, c] = [b, c] := by
  have hsift : pop key [a, b, c] = if 0 < 1 ∧ key b < key c then [c, b] else [b, c] := rfl
  rw [hsift, if_neg fun hlt => hlt.2.not_ge h]

end Heap

end ChatApp.Lib

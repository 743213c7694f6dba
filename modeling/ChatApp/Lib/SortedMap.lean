/-
  A map as a list of entries in increasing order of their keys (`std::map`): lookup,
  insert-or-assign, erase by key, and the search for the first entry with a given value. Two
  entries never have the same key, so erasing the key of the first such entry erases that
  entry and no other.
-/
import Mathlib.Data.List.Nodup
import Mathlib.Order.Lattice

namespace ChatApp.Lib

structure SortedMap (κ ν : Type) [LinearOrder κ] where
  entries : List (κ × ν)
  sorted : entries.Pairwise (·.1 < ·.1)

namespace SortedMap

variable {κ ν : Type} [LinearOrder κ]

def empty : SortedMap κ ν := ⟨[], .nil⟩

def insertEntry (k : κ) (v : ν) : List (κ × ν) → List (κ × ν)
  | [] => [(k, v)]
  | e :: es =>
    if k < e.1 then (k, v) :: e :: es
    else if k = e.1 then (k, v) :: es
    else e :: insertEntry k v es

theorem key_insertEntry {k : κ} {v : ν} {es : List (κ × ν)} {e : κ × ν}
    (h : e ∈ insertEntry k v es) : e = (k, v) ∨ e ∈ es := by
  induction es with
  | nil => exact .inl (List.mem_singleton.1 h)
  | cons e' es ih =>
    rw [insertEntry] at h
    split at h
    · exact List.mem_cons.1 h
    split at h
    · exact (List.mem_cons.1 h).imp_right (List.mem_cons_of_mem _)
    · rcases List.mem_cons.1 h with h | h
      · exact .inr (h ▸ List.mem_cons_self ..)
      · exact (ih h).imp_right (List.mem_cons_of_mem _)

theorem sorted_insertEntry {k : κ} {v : ν} {es : List (κ × ν)}
    (h : es.Pairwise (·.1 < ·.1)) : (insertEntry k v es).Pairwise (·.1 < ·.1) := by
  induction es with
  | nil => exact List.pairwise_singleton _ _
  | cons e es ih =>
    obtain ⟨he, hes⟩ := List.pairwise_cons.1 h
    rw [insertEntry]
    split
    case isTrue hlt =>
      refine List.pairwise_cons.2 ⟨fun e' he' => ?_, h⟩
      rcases List.mem_cons.1 he' with rfl | he'
      · exact hlt
      · exact lt_trans hlt (he e' he')
    case isFalse hlt =>
      split
      case isTrue heq => exact List.pairwise_cons.2 ⟨fun e' he' => heq ▸ he e' he', hes⟩
      case isFalse hne =>
        refine List.pairwise_cons.2 ⟨fun e' he' => ?_, ih hes⟩
        rcases key_insertEntry he' with rfl | he'
        · exact lt_of_le_of_ne (not_lt.1 hlt) (Ne.symm hne)
        · exact he e' he'

/-- `m[k] = v` -/
def insert (m : SortedMap κ ν) (k : κ) (v : ν) : SortedMap κ ν :=
  ⟨insertEntry k v m.entries, sorted_insertEntry m.sorted⟩

def get? (m : SortedMap κ ν) (k : κ) : Option ν := (m.entries.find? (·.1 = k)).map (·.2)

def contains (m : SortedMap κ ν) (k : κ) : Bool := m.entries.any (·.1 = k)

def filter (m : SortedMap κ ν) (p : κ × ν → Bool) : SortedMap κ ν :=
  ⟨m.entries.filter p, m.sorted.sublist List.filter_sublist⟩

def erase (m : SortedMap κ ν) (k : κ) : SortedMap κ ν := m.filter (·.1 ≠ k)

def values (m : SortedMap κ ν) : List ν := m.entries.map (·.2)

/-- The key of the first entry with the value `v`. -/
def findKey? [DecidableEq ν] (m : SortedMap κ ν) (v : ν) : Option κ :=
  (m.entries.find? (·.2 = v)).map (·.1)

variable {m : SortedMap κ ν} {k : κ} {v : ν}

theorem contains_of_findKey? [DecidableEq ν] (h : m.findKey? v = some k) :
    m.contains k = true := by
  obtain ⟨e, he, rfl⟩ := Option.map_eq_some_iff.1 h
  exact List.any_eq_true.2 ⟨e, List.mem_of_find?_eq_some he, by simp⟩

theorem findKey?_eq_none [DecidableEq ν] : m.findKey? v = none ↔ v ∉ m.values := by
  simp only [findKey?, values, Option.map_eq_none_iff, List.find?_eq_none, List.mem_map,
    decide_eq_true_eq, not_exists, not_and]

theorem filter_ne_of_lt {k : κ} {es : List (κ × ν)} (h : ∀ e ∈ es, k < e.1) :
    es.filter (·.1 ≠ k) = es :=
  List.filter_eq_self.2 fun e he => decide_eq_true (ne_of_lt (h e he)).symm

/-- In a sorted list, the entries with another key than the first one with the value `v` are
    all the entries but that one. -/
theorem filter_ne_find? [DecidableEq ν] {es : List (κ × ν)} {e : κ × ν}
    (hs : es.Pairwise (·.1 < ·.1)) (h : es.find? (·.2 = v) = some e) :
    es.filter (·.1 ≠ e.1) = es.eraseP (·.2 = v) := by
  induction es with
  | nil => cases h
  | cons d es ih =>
    obtain ⟨hd, hes⟩ := List.pairwise_cons.1 hs
    by_cases hv : d.2 = v
    · obtain rfl : d = e := by simpa [List.find?_cons, hv] using h
      rw [List.eraseP_cons_of_pos (by simpa using hv), List.filter_cons_of_neg (by simp)]
      exact filter_ne_of_lt hd
    · have h' : es.find? (·.2 = v) = some e := by simpa [List.find?_cons, hv] using h
      have hne : d.1 ≠ e.1 := ne_of_lt (hd e (List.mem_of_find?_eq_some h'))
      rw [List.eraseP_cons_of_neg (by simpa using hv),
        List.filter_cons_of_pos (by simpa using hne), ih hes h']

/-- The key of the first entry with the value `v` is that of no other entry. -/
theorem entries_erase_findKey? [DecidableEq ν] (h : m.findKey? v = some k) :
    (m.erase k).entries = m.entries.eraseP (·.2 = v) := by
  obtain ⟨e, he, rfl⟩ := Option.map_eq_some_iff.1 h
  exact filter_ne_find? m.sorted he

/-! ## Lookup -/

/-- Keys are distinct. -/
theorem eq_of_key_eq {es : List (κ × ν)} (hs : es.Pairwise (·.1 < ·.1)) {e e' : κ × ν}
    (he : e ∈ es) (he' : e' ∈ es) (hk : e.1 = e'.1) : e = e' := by
  induction es with
  | nil => cases he
  | cons d es ih =>
    obtain ⟨hd, hes⟩ := List.pairwise_cons.1 hs
    rcases List.mem_cons.1 he with h | h
    · rcases List.mem_cons.1 he' with h' | h'
      · exact h.trans h'.symm
      · exact absurd (h ▸ hk) (ne_of_lt (hd e' h'))
    · rcases List.mem_cons.1 he' with h' | h'
      · exact absurd (h' ▸ hk).symm (ne_of_lt (hd e h))
      · exact ih hes h h'

theorem get?_eq_some : m.get? k = some v ↔ (k, v) ∈ m.entries := by
  constructor
  · intro h
    obtain ⟨e, he, rfl⟩ := Option.map_eq_some_iff.1 h
    have hk : e.1 = k := by simpa using List.find?_some he
    exact hk ▸ List.mem_of_find?_eq_some he
  · intro h
    cases hf : m.entries.find? (·.1 = k) with
    | none => exact absurd (decide_eq_true rfl) (List.find?_eq_none.1 hf (k, v) h)
    | some e =>
      have hk : e.1 = k := by simpa using List.find?_some hf
      obtain rfl := eq_of_key_eq m.sorted (List.mem_of_find?_eq_some hf) h hk
      simp [get?, hf]

theorem mem_insertEntry {es : List (κ × ν)} (hs : es.Pairwise (·.1 < ·.1)) {e : κ × ν} :
    e ∈ insertEntry k v es ↔ e = (k, v) ∨ e.1 ≠ k ∧ e ∈ es := by
  induction es with
  | nil => simp [insertEntry]
  | cons d es ih =>
    obtain ⟨hd, hes⟩ := List.pairwise_cons.1 hs
    have hne : ∀ {k : κ}, k ≤ d.1 → ∀ e ∈ es, e.1 ≠ k := fun hk e he =>
      (ne_of_lt (lt_of_le_of_lt hk (hd e he))).symm
    rw [insertEntry]
    split
    case isTrue hlt =>
      have hd' : d.1 ≠ k := (ne_of_lt hlt).symm
      rw [List.mem_cons]
      refine or_congr_right ⟨fun h => ⟨?_, h⟩, And.right⟩
      rcases List.mem_cons.1 h with rfl | h
      · exact hd'
      · exact hne (le_of_lt hlt) e h
    case isFalse hlt =>
      split
      case isTrue heq =>
        rw [List.mem_cons, List.mem_cons]
        refine or_congr_right ⟨fun h => ⟨hne (le_of_eq heq) e h, .inr h⟩, ?_⟩
        rintro ⟨hk, rfl | h⟩
        · exact absurd heq.symm hk
        · exact h
      case isFalse hne' =>
        rw [List.mem_cons, List.mem_cons, ih hes]
        constructor
        · rintro (rfl | rfl | ⟨hk, h⟩)
          · exact .inr ⟨fun h => hne' h.symm, .inl rfl⟩
          · exact .inl rfl
          · exact .inr ⟨hk, .inr h⟩
        · rintro (rfl | ⟨hk, rfl | h⟩)
          · exact .inr (.inl rfl)
          · exact .inl rfl
          · exact .inr (.inr ⟨hk, h⟩)

theorem get?_insert_eq_some {k' : κ} {v' : ν} :
    (m.insert k v).get? k' = some v' ↔ k' = k ∧ v' = v ∨ k' ≠ k ∧ m.get? k' = some v' := by
  rw [get?_eq_some, get?_eq_some]
  exact (mem_insertEntry m.sorted).trans (or_congr Prod.ext_iff Iff.rfl)

theorem get?_erase_eq_some {k' : κ} {v' : ν} :
    (m.erase k).get? k' = some v' ↔ k' ≠ k ∧ m.get? k' = some v' := by
  rw [get?_eq_some, get?_eq_some]
  exact List.mem_filter.trans ((and_congr_right fun _ => decide_eq_true_iff).trans and_comm)

theorem get?_filter_eq_some {p : κ × ν → Bool} :
    (m.filter p).get? k = some v ↔ p (k, v) = true ∧ m.get? k = some v := by
  rw [get?_eq_some, get?_eq_some]
  exact List.mem_filter.trans and_comm

theorem get?_of_findKey? [DecidableEq ν] (h : m.findKey? v = some k) : m.get? k = some v := by
  obtain ⟨e, he, rfl⟩ := Option.map_eq_some_iff.1 h
  have hv : e.2 = v := by simpa using List.find?_some he
  exact get?_eq_some.2 (hv ▸ List.mem_of_find?_eq_some he)

theorem mem_values : v ∈ m.values ↔ ∃ k, m.get? k = some v := by
  simp [values, get?_eq_some]

/-- A map whose keys are a function of its values has no value twice. -/
theorem nodup_values {f : ν → κ} (h : ∀ k v, m.get? k = some v → f v = k) : m.values.Nodup := by
  refine List.pairwise_map.2 (m.sorted.imp_of_mem ?_)
  intro e e' he he' hlt heq
  have h1 := h e.1 e.2 (get?_eq_some.2 he)
  have h2 := h e'.1 e'.2 (get?_eq_some.2 he')
  rw [← h1, ← h2, heq] at hlt
  exact lt_irrefl _ hlt

/-- No value twice: every value has one key. -/
theorem nodup_values_iff :
    m.values.Nodup ↔ ∀ k k' v, m.get? k = some v → m.get? k' = some v → k = k' := by
  constructor
  · intro h k k' v hk hk'
    exact congrArg Prod.fst
      (List.inj_on_of_nodup_map h (get?_eq_some.1 hk) (get?_eq_some.1 hk') rfl)
  · intro h
    refine List.pairwise_map.2 (m.sorted.imp_of_mem ?_)
    intro e e' he he' hlt heq
    have hk : e.1 = e'.1 :=
      h e.1 e'.1 e.2 (get?_eq_some.2 he) (get?_eq_some.2 (heq ▸ he'))
    exact ne_of_lt hlt hk

end SortedMap

end ChatApp.Lib

/-
  A table with a unique key: its rows in the order of insertion, no two with the same key.
  INSERT refuses a key that is there, UPDATE rewrites rows without touching keys, DELETE drops
  rows. `find? k` is the row with key `k`; the lemmas say what each operation does to it.
  A `SerialTable` gives its rows their keys: 0 or more, each INSERT one that was never used.
-/
import Mathlib.Data.List.Nodup

namespace ChatApp.Lib

structure UniqueTable {ρ κ : Type} (key : ρ → κ) where
  rows : List ρ
  unique : (rows.map key).Nodup

namespace UniqueTable

variable {ρ κ : Type} [DecidableEq κ] {key : ρ → κ}

def empty : UniqueTable key := ⟨[], List.nodup_nil⟩

def find? (t : UniqueTable key) (k : κ) : Option ρ := t.rows.find? (key · = k)

def insert? (t : UniqueTable key) (r : ρ) : Option (UniqueTable key) :=
  if h : key r ∈ t.rows.map key then none
  else some ⟨t.rows ++ [r], by
    rw [List.map_append]
    exact List.Nodup.append t.unique (List.nodup_singleton _) (by simpa using h)⟩

omit [DecidableEq κ] in
theorem map_key_map {f : ρ → ρ} (hf : ∀ r, key (f r) = key r) (rows : List ρ) :
    (rows.map f).map key = rows.map key := by
  simp [Function.comp_def, hf]

/-- Rewrite every row by `f`, which keeps the key. -/
def update (t : UniqueTable key) (f : ρ → ρ) (hf : ∀ r, key (f r) = key r) : UniqueTable key :=
  ⟨t.rows.map f, (map_key_map hf t.rows).symm ▸ t.unique⟩

def filter (t : UniqueTable key) (p : ρ → Bool) : UniqueTable key :=
  ⟨t.rows.filter p, t.unique.sublist (List.filter_sublist.map key)⟩

variable {t : UniqueTable key} {k : κ} {r : ρ}

theorem mem_of_find? (h : t.find? k = some r) : r ∈ t.rows ∧ key r = k :=
  ⟨List.mem_of_find?_eq_some h, of_decide_eq_true (List.find?_some (p := (key · = k)) h)⟩

theorem find?_of_mem (h : r ∈ t.rows) : t.find? (key r) = some r := by
  rcases hf : t.find? (key r) with _ | r'
  · exact absurd rfl (of_decide_eq_false (Bool.not_eq_true _ ▸ List.find?_eq_none.1 hf r h))
  · obtain ⟨hr', hk⟩ := mem_of_find? hf
    rw [List.inj_on_of_nodup_map t.unique hr' h hk]

theorem find?_eq_some : t.find? k = some r ↔ r ∈ t.rows ∧ key r = k :=
  ⟨mem_of_find?, fun ⟨h, hk⟩ => hk ▸ find?_of_mem h⟩

theorem find?_eq_none : t.find? k = none ↔ ∀ r ∈ t.rows, key r ≠ k := by
  simp [find?, List.find?_eq_none]

@[simp] theorem find?_empty : (empty : UniqueTable key).find? k = none := rfl

theorem insert?_eq_none : t.insert? r = none ↔ t.find? (key r) ≠ none := by
  rw [Ne, find?_eq_none, insert?]
  split
  next h => simpa using h
  next h => simpa using h

theorem find?_insert? {t' : UniqueTable key} (h : t.insert? r = some t') :
    t'.find? k = if key r = k then some r else t.find? k := by
  unfold insert? at h
  split at h
  case isTrue => cases h
  case isFalse hr =>
    cases h
    by_cases hk : key r = k
    · rw [if_pos hk, find?_eq_some]
      simp [hk]
    · simp [find?, hk]

theorem rows_insert? {t' : UniqueTable key} (h : t.insert? r = some t') :
    t'.rows = t.rows ++ [r] := by
  unfold insert? at h
  split at h
  case isTrue => cases h
  case isFalse => cases h; rfl

theorem find?_update {f : ρ → ρ} {hf : ∀ r, key (f r) = key r} :
    (t.update f hf).find? k = (t.find? k).map f := by
  simp only [find?, update, List.find?_map, Function.comp_def, hf]

theorem find?_filter {p : ρ → Bool} : (t.filter p).find? k = (t.find? k).filter p := by
  ext r
  rw [find?_eq_some, Option.filter_eq_some_iff, find?_eq_some]
  simp [filter, and_right_comm]

end UniqueTable

/-- A table whose INSERT numbers the row; every key is below `next`. -/
structure SerialTable {ρ : Type} (key : ρ → Nat) extends UniqueTable key where
  next : Nat
  below : ∀ r ∈ rows, key r < next

namespace SerialTable

variable {ρ : Type} {key : ρ → Nat}

theorem none_below : ∀ r ∈ (UniqueTable.empty : UniqueTable key).rows, key r < 1 := by
  intro r hr
  cases hr

/-- INSERT of the row that `r` makes of its number. -/
def insert (t : SerialTable key) (r : Nat → ρ) (hr : ∀ n, key (r n) = n) : SerialTable key where
  rows := t.rows ++ [r t.next]
  unique := by
    rw [List.map_append]
    refine List.Nodup.append t.unique (List.nodup_singleton _) ?_
    intro k hk hnext
    obtain ⟨r', hr', rfl⟩ := List.mem_map.1 hk
    have hlt := t.below r' hr'
    simp only [List.map_cons, List.map_nil, List.mem_singleton, hr] at hnext
    omega
  next := t.next + 1
  below r' hr' := by
    rcases List.mem_append.1 hr' with hr' | hr'
    · exact Nat.lt_succ_of_lt (t.below r' hr')
    · rw [List.mem_singleton.1 hr', hr]
      exact Nat.lt_succ_self _

/-- Rewrite every row by `f`, which keeps the key. -/
def update (t : SerialTable key) (f : ρ → ρ) (hf : ∀ r, key (f r) = key r) : SerialTable key where
  toUniqueTable := t.toUniqueTable.update f hf
  next := t.next
  below r hr := by
    obtain ⟨r', hr', rfl⟩ := List.mem_map.1 hr
    rw [hf]
    exact t.below r' hr'

/-- DELETE; the numbers of the rows are not used again. -/
def filter (t : SerialTable key) (p : ρ → Bool) : SerialTable key where
  toUniqueTable := t.toUniqueTable.filter p
  next := t.next
  below r hr := t.below r (List.mem_of_mem_filter hr)

variable {t : SerialTable key} {r : Nat → ρ} {hr : ∀ n, key (r n) = n}

@[simp] theorem rows_insert : (t.insert r hr).rows = t.rows ++ [r t.next] := rfl

/-- The number of the new row was not in the table. -/
theorem find?_next : t.find? t.next = none :=
  UniqueTable.find?_eq_none.2 fun r hr => Nat.ne_of_lt (t.below r hr)

/-- The new row has the next number, the others keep theirs. -/
theorem find?_insert (k : Nat) :
    (t.insert r hr).find? k = if k = t.next then some (r t.next) else t.find? k := by
  by_cases hk : k = t.next
  · rw [if_pos hk, UniqueTable.find?_eq_some]
    exact ⟨by simp, (hr t.next).trans hk.symm⟩
  · rw [if_neg hk]
    simp [UniqueTable.find?, hr, Ne.symm hk]

theorem find?_update {f : ρ → ρ} {hf : ∀ r, key (f r) = key r} (k : Nat) :
    (t.update f hf).find? k = (t.find? k).map f := by
  show (t.toUniqueTable.update f hf).find? k = _
  rw [UniqueTable.find?_update]

theorem find?_filter {p : ρ → Bool} (k : Nat) : (t.filter p).find? k = (t.find? k).filter p :=
  UniqueTable.find?_filter

/-- A table is its rows and its next number. -/
theorem eq_of_rows {t t' : SerialTable key} (hrows : t.rows = t'.rows) (hnext : t.next = t'.next) :
    t = t' := by
  obtain ⟨⟨rows, unique⟩, next, below⟩ := t
  obtain ⟨⟨rows', unique'⟩, next', below'⟩ := t'
  simp only at hrows hnext
  subst hrows hnext
  rfl

@[simp] theorem rows_update {f : ρ → ρ} {hf : ∀ r, key (f r) = key r} :
    (t.update f hf).rows = t.rows.map f := rfl

end SerialTable

end ChatApp.Lib

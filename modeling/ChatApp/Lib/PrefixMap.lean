/-
  Maps whose keys are texts, in the order of the texts (`std::map<std::string, …>`). Of the keys that
  a text begins with, the shortest comes first, so the first such key is the shortest one.
-/
import Mathlib.Data.List.Lex
import Mathlib.Data.String.Basic
import ChatApp.Lib.SortedMap

namespace ChatApp.Lib.SortedMap

section
variable {κ ν : Type} [LinearOrder κ] {m : SortedMap κ ν} {p : κ × ν → Bool} {e : κ × ν}

/-- The first entry of a kind has the least key of all of them. -/
theorem find?_least (h : m.entries.find? p = some e) :
    ∀ e' ∈ m.entries, p e' = true → e.1 ≤ e'.1 := by
  intro e' he' hp
  obtain ⟨-, before, after, heq, hno⟩ := List.find?_eq_some_iff_append.1 h
  have hsorted := m.sorted
  rw [heq] at hsorted he'
  rcases List.mem_append.1 he' with hmem | hmem
  · have hnot := hno e' hmem
    rw [hp] at hnot
    exact absurd hnot (by decide)
  · rcases List.mem_cons.1 hmem with rfl | hmem
    · exact le_refl _
    · exact le_of_lt ((List.pairwise_cons.1 (List.pairwise_append.1 hsorted).2.1).1 e' hmem)

end

section
variable {ν : Type} {m : SortedMap String ν} {s : String} {e : String × ν}

/-- `s.find(t) == 0` -/
def begins (t s : String) : Bool := t.toList.isPrefixOf s.toList

theorem begins_iff {t : String} : begins t s = true ↔ t.toList <+: s.toList :=
  List.isPrefixOf_iff_prefix

/-- The first entry, in the order of the map, whose key is a beginning of `s` -/
def firstBeginning (m : SortedMap String ν) (s : String) : Option (String × ν) :=
  m.entries.find? fun e => begins e.1 s

theorem le_of_isPrefix {t u : String} (h : t.toList <+: u.toList) : t ≤ u :=
  not_lt.1 fun hlt => h.le (String.lt_iff_toList_lt.1 hlt)

theorem firstBeginning_eq_none :
    m.firstBeginning s = none ↔ ∀ k v, m.get? k = some v → ¬ k.toList <+: s.toList := by
  unfold firstBeginning
  rw [List.find?_eq_none]
  constructor
  · intro h k v hk hs
    exact h (k, v) (get?_eq_some.1 hk) (begins_iff.2 hs)
  · intro h e he hs
    exact h e.1 e.2 (get?_eq_some.2 he) (begins_iff.1 hs)

/-- Its key is the shortest one. -/
theorem firstBeginning_eq_some (h : m.firstBeginning s = some e) :
    m.get? e.1 = some e.2 ∧ e.1.toList <+: s.toList ∧
      ∀ k v, m.get? k = some v → k.toList <+: s.toList → e.1.length ≤ k.length := by
  unfold firstBeginning at h
  have hbegins : e.1.toList <+: s.toList :=
    begins_iff.1 (List.find?_some (p := fun e : String × ν => begins e.1 s) h)
  refine ⟨get?_eq_some.2 (List.mem_of_find?_eq_some h), hbegins, fun k v hk hs => ?_⟩
  have hle := find?_least h (k, v) (get?_eq_some.1 hk) (begins_iff.2 hs)
  -- of two beginnings of one text, one is a beginning of the other
  rcases List.prefix_or_prefix_of_prefix hbegins hs with hfirst | hfirst
  · exact hfirst.length_le
  · have heq : e.1 = k := le_antisymm hle (le_of_isPrefix hfirst)
    exact le_of_eq (congrArg String.length heq)

end

end ChatApp.Lib.SortedMap

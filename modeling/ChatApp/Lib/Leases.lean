/-
  Leases that move between holders. What is taken has one holder until it is given back, and is
  given back once. `Balanced` is kept by each operation; when nobody holds anything, all that was
  taken has been given back.
-/
import Mathlib.Data.List.Nodup
import Mathlib.Logic.Function.Basic

namespace ChatApp.Lib

structure Leases (γ α : Type*) where
  holds : γ → Option α
  taken : List α
  returned : List α

namespace Leases

variable {γ α : Type*}

def start : Leases γ α := ⟨fun _ => none, [], []⟩

section
variable [DecidableEq γ]

def take (s : Leases γ α) (g : γ) (x : α) : Leases γ α :=
  { s with holds := Function.update s.holds g (some x), taken := s.taken ++ [x] }

/-- What `h` holds moves to `g`. -/
def move (s : Leases γ α) (g h : γ) : Leases γ α :=
  { s with holds := Function.update (Function.update s.holds g (s.holds h)) h none }

def giveBack (s : Leases γ α) (g : γ) : Leases γ α where
  holds := Function.update s.holds g none
  taken := s.taken
  returned := s.returned ++ (s.holds g).toList

end

structure Balanced (s : Leases γ α) : Prop where
  returned_nodup : s.returned.Nodup
  returned_taken : ∀ x ∈ s.returned, x ∈ s.taken
  held_taken : ∀ g x, s.holds g = some x → x ∈ s.taken
  held_open : ∀ g x, s.holds g = some x → x ∉ s.returned
  /-- Nothing is held twice. -/
  single : ∀ g h x, s.holds g = some x → s.holds h = some x → g = h
  covered : ∀ x ∈ s.taken, x ∈ s.returned ∨ ∃ g, s.holds g = some x

theorem balanced_start : Balanced (start : Leases γ α) :=
  ⟨List.nodup_nil, nofun, nofun, nofun, nofun, nofun⟩

variable [DecidableEq γ] {s : Leases γ α} {g h : γ} {x : α}

theorem Balanced.take (hs : Balanced s) (hfree : s.holds g = none) (hnew : x ∉ s.taken) :
    Balanced (s.take g x) where
  returned_nodup := hs.returned_nodup
  returned_taken y hy := List.mem_append_left _ (hs.returned_taken y hy)
  held_taken k y hy := by
    by_cases hk : k = g
    · subst hk
      obtain rfl : x = y := by simpa [Leases.take] using hy
      exact List.mem_append_right _ List.mem_cons_self
    · exact List.mem_append_left _ (hs.held_taken k y (by simpa [Leases.take, hk] using hy))
  held_open k y hy := by
    by_cases hk : k = g
    · subst hk
      obtain rfl : x = y := by simpa [Leases.take] using hy
      exact fun hmem => hnew (hs.returned_taken x hmem)
    · exact hs.held_open k y (by simpa [Leases.take, hk] using hy)
  single k l y hk hl := by
    -- a holder other than `g` has something that was taken before
    have hold : ∀ k, k ≠ g → (s.take g x).holds k = some y → s.holds k = some y ∧ y ≠ x := by
      intro k hne hy
      have hy : s.holds k = some y := by simpa [Leases.take, hne] using hy
      exact ⟨hy, fun heq => hnew (heq ▸ hs.held_taken k y hy)⟩
    have hself : (s.take g x).holds g = some y → y = x := fun hy => by
      simpa [Leases.take, eq_comm] using hy
    by_cases hkg : k = g
    · by_cases hlg : l = g
      · rw [hkg, hlg]
      · exact absurd (hself (hkg ▸ hk)) (hold l hlg hl).2
    · by_cases hlg : l = g
      · exact absurd (hself (hlg ▸ hl)) (hold k hkg hk).2
      · exact hs.single k l y (hold k hkg hk).1 (hold l hlg hl).1
  covered y hy := by
    rcases List.mem_append.1 hy with hy | hy
    · rcases hs.covered y hy with hy | ⟨k, hk⟩
      · exact .inl hy
      · have hne : k ≠ g := fun heq => by simp [heq, hfree] at hk
        exact .inr ⟨k, by simpa [Leases.take, hne] using hk⟩
    · obtain rfl := List.mem_singleton.1 hy
      exact .inr ⟨g, by simp [Leases.take]⟩

theorem holds_move (s : Leases γ α) (g h k : γ) :
    (s.move g h).holds k = if k = h then none else if k = g then s.holds h else s.holds k := by
  unfold Leases.move
  simp only [Function.update_apply]

theorem Balanced.move (hs : Balanced s) (hfree : s.holds g = none) (hne : g ≠ h) :
    Balanced (s.move g h) := by
  -- each holder has what one holder had before, and different holders what different ones had
  have hfrom : ∀ k y, (s.move g h).holds k = some y →
      ∃ l, s.holds l = some y ∧ ((k = g ∧ l = h) ∨ k ≠ g ∧ l = k ∧ k ≠ h) := by
    intro k y hy
    rw [holds_move] at hy
    split at hy
    · exact nomatch hy
    split at hy
    next hkh hkg => exact ⟨h, hy, .inl ⟨hkg, rfl⟩⟩
    next hkh hkg => exact ⟨k, hy, .inr ⟨hkg, rfl, hkh⟩⟩
  refine ⟨hs.returned_nodup, hs.returned_taken, fun k y hy => ?_, fun k y hy => ?_,
    fun k l y hk hl => ?_, fun y hy => ?_⟩
  · obtain ⟨l, hl, -⟩ := hfrom k y hy
    exact hs.held_taken l y hl
  · obtain ⟨l, hl, -⟩ := hfrom k y hy
    exact hs.held_open l y hl
  · obtain ⟨k', hk', hkcase⟩ := hfrom k y hk
    obtain ⟨l', hl', hlcase⟩ := hfrom l y hl
    have hsame := hs.single k' l' y hk' hl'
    rcases hkcase with ⟨rfl, rfl⟩ | ⟨hkg, rfl, hkh⟩
    · rcases hlcase with ⟨rfl, -⟩ | ⟨-, rfl, hlh⟩
      · rfl
      · exact absurd hsame.symm hlh
    · rcases hlcase with ⟨rfl, rfl⟩ | ⟨-, rfl, -⟩
      · exact absurd hsame hkh
      · exact hsame
  · rcases hs.covered y hy with hy | ⟨k, hk⟩
    · exact .inl hy
    · by_cases hkh : k = h
      · exact .inr ⟨g, by rw [holds_move, if_neg hne, if_pos rfl, ← hkh, hk]⟩
      · have hkg : k ≠ g := fun heq => by simp [heq, hfree] at hk
        exact .inr ⟨k, by rw [holds_move, if_neg hkh, if_neg hkg, hk]⟩

theorem giveBack_of_some (hg : s.holds g = some x) :
    s.giveBack g = ⟨Function.update s.holds g none, s.taken, s.returned ++ [x]⟩ := by
  rw [Leases.giveBack, hg, Option.toList_some]

theorem giveBack_of_none (hg : s.holds g = none) : s.giveBack g = s := by
  rw [Leases.giveBack, hg, Option.toList_none, List.append_nil, ← hg, Function.update_eq_self]

theorem Balanced.giveBack (hs : Balanced s) : Balanced (s.giveBack g) := by
  have hold : ∀ k y, (s.giveBack g).holds k = some y → k ≠ g ∧ s.holds k = some y := by
    intro k y hy
    by_cases hk : k = g
    · simp [Leases.giveBack, hk] at hy
    · exact ⟨hk, by simpa [Leases.giveBack, hk] using hy⟩
  refine ⟨?_, fun y hy => ?_, fun k y hy => hs.held_taken k y (hold k y hy).2, fun k y hy => ?_,
    fun k l y hk hl => hs.single k l y (hold k y hk).2 (hold l y hl).2, fun y hy => ?_⟩
  · refine hs.returned_nodup.append (Option.toList_nodup _) fun y hy hg => ?_
    exact hs.held_open g y (Option.mem_toList.1 hg) hy
  · rcases List.mem_append.1 hy with hy | hy
    · exact hs.returned_taken y hy
    · exact hs.held_taken g y (Option.mem_toList.1 hy)
  · obtain ⟨hne, hk⟩ := hold k y hy
    intro hmem
    rcases List.mem_append.1 hmem with hmem | hmem
    · exact hs.held_open k y hk hmem
    · exact hne (hs.single k g y hk (Option.mem_toList.1 hmem))
  · rcases hs.covered y hy with hy | ⟨k, hk⟩
    · exact .inl (List.mem_append_left _ hy)
    · by_cases hkg : k = g
      · exact .inl (List.mem_append_right _ (Option.mem_toList.2 (hkg ▸ hk)))
      · exact .inr ⟨k, by simpa [Leases.giveBack, hkg] using hk⟩

omit [DecidableEq γ] in
theorem Balanced.all_returned (hs : Balanced s) (hnone : ∀ g, s.holds g = none) (hx : x ∈ s.taken) :
    x ∈ s.returned := by
  rcases hs.covered x hx with hmem | ⟨g, hg⟩
  · exact hmem
  · exact absurd hg (by simp [hnone g])

end Leases

end ChatApp.Lib

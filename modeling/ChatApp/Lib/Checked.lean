/-
  Code whose reads and whose arithmetic are checked. A computation ends in a `Fault` where the
  program would read outside of its buffer or compute a number that the type does not hold; it is
  safe when no input leads to a fault. The buffer is a memory of which `len` cells may be read.
-/
import Mathlib.Algebra.Group.Int.Defs
import Mathlib.Algebra.Group.Nat.Defs
import Mathlib.Data.List.Basic
import Mathlib.Data.List.Range

namespace ChatApp.Lib

inductive Fault
  /-- a position outside of the buffer -/
  | position (i : Nat)
  /-- a result out of range -/
  | overflow (result : Int)
  deriving DecidableEq

abbrev Checked (α : Type) := Except Fault α

namespace Checked

theorem ok_bind {α β : Type} (a : α) (f : α → Checked β) : (Except.ok a >>= f) = f a := rfl

/-- `data[i]`, with `len` cells -/
def readAt {α : Type} (data : Nat → α) (len i : Nat) : Checked α :=
  if i < len then .ok (data i) else .error (.position i)

/-- `n` cells from `i` on, one after the other -/
def readMany {α : Type} (data : Nat → α) (len i : Nat) : Nat → Checked (List α)
  | 0 => .ok []
  | n + 1 => do
    let first ← readAt data len i
    let rest ← readMany data len (i + 1) n
    return first :: rest

/-- The sum of two `size_t`s -/
def addSize (a b : Nat) : Checked Nat :=
  if a + b < 2 ^ 64 then .ok (a + b) else .error (.overflow (a + b : Nat))

/-- A result of type `int` -/
def int32 (n : Int) : Checked Int :=
  if -2 ^ 31 ≤ n ∧ n < 2 ^ 31 then .ok n else .error (.overflow n)

/-- The cells that may be read. -/
def cells {α : Type} (data : Nat → α) (len : Nat) : List α := (List.range len).map data

variable {α : Type} {data : Nat → α} {len i n : Nat}

theorem readAt_ok (h : i < len) : readAt data len i = .ok (data i) := if_pos h

theorem addSize_ok {a b : Nat} (h : a + b < 2 ^ 64) : addSize a b = .ok (a + b) := if_pos h

theorem int32_ok {n : Int} (h₀ : -2 ^ 31 ≤ n) (h₁ : n < 2 ^ 31) : int32 n = .ok n :=
  if_pos ⟨h₀, h₁⟩

theorem int32_error {n : Int} (h : 2 ^ 31 ≤ n) : int32 n = .error (.overflow n) :=
  if_neg fun hn => absurd hn.2 (by omega)

theorem length_cells : (cells data len).length = len := by
  rw [cells, List.length_map, List.length_range]

theorem getElem_cells (h : i < (cells data len).length) : (cells data len)[i] = data i := by
  simp [cells]

theorem getD_cells (d : α) (h : i < len) : (cells data len).getD i d = data i := by
  have hi : i < (cells data len).length := length_cells.symm ▸ h
  rw [← List.getElem_eq_getD d]
  exact getElem_cells hi

/-- A list, seen as a memory, is read back. -/
theorem cells_getD (xs : List α) (d : α) : cells (fun i => xs.getD i d) xs.length = xs := by
  refine List.ext_getElem length_cells fun i hi hxs => ?_
  rw [getElem_cells, List.getElem_eq_getD d]

theorem drop_cells (h : i < len) :
    (cells data len).drop i = data i :: (cells data len).drop (i + 1) := by
  have hi : i < (cells data len).length := length_cells.symm ▸ h
  rw [List.drop_eq_getElem_cons hi, getElem_cells]

/-- Within the buffer a read of many cells is a slice of it. -/
theorem readMany_ok (h : i + n ≤ len) :
    readMany data len i n = .ok (((cells data len).drop i).take n) := by
  induction n generalizing i with
  | zero => rw [List.take_zero, readMany]
  | succ n ih =>
    have hi : i < len := by omega
    rw [readMany, readAt_ok hi, ok_bind, ih (by omega), ok_bind, drop_cells hi,
      List.take_succ_cons]
    rfl

end Checked

end ChatApp.Lib

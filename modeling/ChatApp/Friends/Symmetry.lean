/-
  Is friendship symmetric after every sequence of `FriendManager` operations?

  `Statuses` is what the table says about each ordered pair of users; `StatusStep` is what an
  operation does to it. A friendship is two entries with status 1. Only two operations can leave
  one of them: an accept whose INSERT meets a row that is already there, after its UPDATE has
  been made, and a reject, which sets status 2 without looking at the status. `FriendOk`
  excludes exactly these.
-/
import Mathlib.Data.List.Induction
import ChatApp.Friends.Manager
import ChatApp.Lib.Run

namespace ChatApp.Friends

open ChatApp.Lib ChatApp.Database

/-- The status of the row (a, b), if there is one. -/
abbrev Statuses := Nat → Nat → Option FriendStatus

namespace Statuses

variable {σ σ' : Statuses} {a b x y : Nat}

def set (σ : Statuses) (a b : Nat) (s : Option FriendStatus) : Statuses :=
  fun x y => if x = a ∧ y = b then s else σ x y

/-- What an operation does. An `add` that passes its checks can still be refused. -/
def StatusStep : FriendOp → Statuses → Statuses → Prop
  | .add a b, σ, σ' => σ' = σ ∨ a ≠ b ∧ σ a b = none ∧ σ' = σ.set a b (some .pending)
  | .accept a b, σ, σ' =>
    σ' = if σ b a = some .pending then
        (if σ a b = none then σ.set a b (some .accepted) else σ).set b a (some .accepted)
      else σ
  | .reject a b, σ, σ' => σ' = σ.set b a ((σ b a).map fun _ => .rejected)
  | .remove a b, σ, σ' =>
    σ' = if σ a b = some .accepted then (σ.set a b none).set b a none else σ
  | .setRemark _ _ _, σ, σ' => σ' = σ

/-- Nobody has a row for themselves. -/
def NoSelf (σ : Statuses) : Prop := ∀ a, σ a a = none

def Symmetric (σ : Statuses) : Prop := ∀ a b, σ a b = some .accepted ↔ σ b a = some .accepted

/-- Accepting a pending request of `b` needs that `a` has no row for `b`; rejecting `b` needs
    that `b` is not a friend of `a`. -/
def FriendOk (σ : Statuses) : FriendOp → Prop
  | .accept a b => σ b a = some .pending → σ a b = none
  | .reject a b => σ b a ≠ some .accepted
  | _ => True

theorem NoSelf.ne (h : NoSelf σ) (hab : σ a b ≠ none) : a ≠ b := by
  rintro rfl
  exact hab (h a)

theorem NoSelf.step {op : FriendOp} (h : NoSelf σ) (hs : StatusStep op σ σ') : NoSelf σ' := by
  cases op with
  | add a b =>
    rcases hs with rfl | ⟨hab, -, rfl⟩
    · exact h
    · intro x
      have : ¬ (x = a ∧ x = b) := by rintro ⟨rfl, rfl⟩; exact hab rfl
      simp [set, this, h x]
  | accept a b =>
    obtain rfl : σ' = _ := hs
    split
    case isFalse => exact h
    case isTrue hpen =>
      have hab : b ≠ a := h.ne (by simp [hpen])
      intro x
      have h₁ : ¬ (x = a ∧ x = b) := by rintro ⟨rfl, rfl⟩; exact hab rfl
      have h₂ : ¬ (x = b ∧ x = a) := by rintro ⟨rfl, rfl⟩; exact hab rfl
      split <;> simp [set, h₁, h₂, h x]
  | reject a b =>
    obtain rfl : σ' = _ := hs
    intro x
    by_cases hx : x = b ∧ x = a
    · obtain ⟨rfl, rfl⟩ := hx
      simp [set, h x]
    · simp [set, hx, h x]
  | remove a b =>
    obtain rfl : σ' = _ := hs
    split
    case isFalse => exact h
    case isTrue => intro x; simp [set, h x]
  | setRemark a b remark =>
    obtain rfl : σ' = σ := hs
    exact h

/-- From a symmetric state, an operation keeps symmetry exactly if it meets `FriendOk`. -/
theorem Symmetric.step {op : FriendOp} (hself : NoSelf σ) (h : Symmetric σ)
    (hs : StatusStep op σ σ') : Symmetric σ' ↔ FriendOk σ op := by
  cases op with
  | add a b =>
    refine iff_of_true ?_ trivial
    rcases hs with rfl | ⟨hab, hnone, rfl⟩
    · exact h
    · -- the reverse row is not a friendship either
      have hba : σ b a ≠ some .accepted := by
        rw [Ne, ← h a b, hnone]
        nofun
      intro x y
      have := h x y
      grind [set]
  | accept a b =>
    obtain rfl : σ' = _ := hs
    by_cases hpen : σ b a = some .pending
    case neg =>
      rw [if_neg hpen]
      exact iff_of_true h fun h' => absurd h' hpen
    rw [if_pos hpen]
    have hab : b ≠ a := hself.ne (by simp [hpen])
    have hnot : σ a b ≠ some .accepted := by
      rw [Ne, h a b, hpen]
      nofun
    simp only [FriendOk, hpen, forall_const]
    by_cases hnone : σ a b = none
    · refine iff_of_true ?_ hnone
      intro x y
      have := h x y
      grind [set]
    · -- the INSERT failed: only the row of `b` is a friendship
      refine iff_of_false (fun hsym => hnot ?_) hnone
      have := hsym b a
      grind [set]
  | reject a b =>
    obtain rfl : σ' = _ := hs
    simp only [FriendOk]
    by_cases hacc : σ b a = some .accepted
    · have hab : b ≠ a := hself.ne (by simp [hacc])
      have hba := (h a b).2 hacc
      refine iff_of_false (fun hsym => ?_) (by simp [hacc])
      have := hsym a b
      grind [set]
    · have hba : σ a b ≠ some .accepted := fun h' => hacc ((h a b).1 h')
      have hrej : (σ b a).map (fun _ => FriendStatus.rejected) ≠ some .accepted := by
        cases σ b a <;> simp
      refine iff_of_true ?_ hacc
      intro x y
      have := h x y
      grind [set]
  | remove a b =>
    refine iff_of_true ?_ trivial
    obtain rfl : σ' = _ := hs
    split
    case isFalse => exact h
    case isTrue =>
      intro x y
      have := h x y
      grind [set]
  | setRemark a b remark =>
    obtain rfl : σ' = σ := hs
    exact iff_of_true h trivial

end Statuses

namespace FriendDb

open Statuses

variable {db : FriendDb} {now : Int} {a b : Nat}

theorem status_insert {db' : FriendDb} {s : FriendStatus} {remark : String}
    (h : db.insertFriend ⟨a, b, remark, s, now, now⟩ = some db') :
    db'.status = Statuses.set db.status a b (some s) := by
  funext x y
  simp [status_insertFriend h, pair, Statuses.set]

theorem status_setStatus_eq (s : FriendStatus) :
    (db.setStatus (a, b) s now).status =
      Statuses.set db.status a b ((db.status a b).map fun _ => s) := by
  funext x y
  simp [status_setStatus, Statuses.set]

/-- The INSERT of an accept fails exactly if the row is there: both users exist, since the
    request refers to them. -/
theorem accept_insert (now : Int) (hself : NoSelf db.status)
    (hpen : db.status b a = some .pending) :
    (db.setStatus (b, a) .accepted now).insertFriend ⟨a, b, "", .accepted, now, now⟩ = none ↔
      db.status a b ≠ none := by
  have hab : b ≠ a := hself.ne (by simp [hpen])
  have hne : (a, b) ≠ (b, a) := fun h => hab (Prod.mk.inj h).1.symm
  have husers : db.userExists b ∧ db.userExists a := exists_of_status (by simp [hpen])
  have hexists : (db.setStatus (b, a) .accepted now).userExists a ∧
      (db.setStatus (b, a) .accepted now).userExists b := husers.symm
  have hfind : (db.setStatus (b, a) .accepted now).friends.find? (a, b) =
      db.friends.find? (a, b) := by
    rw [setStatus, find?_updateFriend, if_neg hne]
  rw [insertFriend_eq_none]
  simp [hexists, pair, hfind, status]

theorem statusStep_perform (hself : NoSelf db.status) (op : FriendOp) :
    StatusStep op db.status (db.perform op now).2.status := by
  cases op with
  | add a b =>
    rw [perform_add]
    by_cases hab : a = b
    case pos => exact .inl (by rw [if_pos hab])
    by_cases huser : db.userExists b
    case neg => exact .inl (by rw [if_neg hab, if_pos huser])
    by_cases hacc : db.status a b = some .accepted
    case pos => exact .inl (by rw [if_neg hab, if_neg (not_not.2 huser), if_pos hacc])
    by_cases hpen : db.status a b = some .pending
    case pos =>
      exact .inl (by rw [if_neg hab, if_neg (not_not.2 huser), if_neg hacc, if_pos hpen])
    rw [if_neg hab, if_neg (not_not.2 huser), if_neg hacc, if_neg hpen]
    cases h : db.insertFriend ⟨a, b, "", .pending, now, now⟩ with
    | none => exact .inl rfl
    | some db' =>
      have hnone : db.status a b = none := by
        rw [status, show db.friends.find? (a, b) = none from absent_of_insertFriend h]
        rfl
      exact .inr ⟨hab, hnone, status_insert h⟩
  | accept a b =>
    rw [perform_accept]
    by_cases hpen : db.status b a = some .pending
    case neg => simp [hpen, StatusStep]
    have hab : b ≠ a := hself.ne (by simp [hpen])
    have hset : (db.setStatus (b, a) .accepted now).status =
        Statuses.set db.status b a (some .accepted) := by
      rw [status_setStatus_eq, hpen]
      rfl
    have hins := accept_insert now hself hpen
    simp only [StatusStep, hpen, if_true]
    cases h : (db.setStatus (b, a) .accepted now).insertFriend ⟨a, b, "", .accepted, now, now⟩ with
    | none => rw [if_neg (hins.1 h), hset]
    | some db' =>
      have hnone : db.status a b = none := by
        by_contra hsome
        rw [hins.2 hsome] at h
        cases h
      rw [if_pos hnone, status_insert h, hset]
      -- the two rows are different
      funext x y
      grind [Statuses.set]
  | reject a b => rw [perform_reject]; exact status_setStatus_eq _
  | remove a b =>
    rw [perform_remove]
    by_cases hacc : db.status a b = some .accepted
    · simp only [StatusStep, hacc, if_true]
      funext x y
      rw [status_deleteBoth]
      grind [Statuses.set]
    · simp [StatusStep, hacc]
  | setRemark a b remark =>
    rw [perform_setRemark]
    by_cases hacc : db.status a b = some .accepted
    · simp only [StatusStep, hacc, if_true]
      funext x y
      exact status_setRemark
    · simp [StatusStep, hacc]

/-- `FriendManager::is_friend` gives the same answer both ways round. -/
def FriendsSymmetric (db : FriendDb) : Prop := ∀ a b, db.isFriend a b = db.isFriend b a

theorem friendsSymmetric_iff : db.FriendsSymmetric ↔ Statuses.Symmetric db.status := by
  simp [FriendsSymmetric, isFriend_eq, Statuses.Symmetric]

end FriendDb

/-! ## Sequences of operations -/

open FriendDb Statuses

/-- The tables after the operations, each run alone at its time. -/
def after (users : Users) (ops : List (FriendOp × Int)) : FriendDb :=
  ops.foldl (fun db op => (db.perform op.1 op.2).2) (fresh users)

theorem after_snoc (users : Users) (ops : List (FriendOp × Int)) (op : FriendOp × Int) :
    after users (ops ++ [op]) = ((after users ops).perform op.1 op.2).2 := by
  simp [after]

theorem noSelf_after (users : Users) (ops : List (FriendOp × Int)) :
    NoSelf (after users ops).status := by
  induction ops using List.reverseRecOn with
  | nil => exact fun _ => rfl
  | append_singleton ops op ih =>
    rw [after_snoc]
    exact ih.step (statusStep_perform ih op.1)

/-- Friendship is symmetric in every state of a sequence exactly if every operation of the
    sequence meets `FriendOk` in the state it meets. -/
theorem friendship_symmetric_iff (users : Users) (ops : List (FriendOp × Int)) :
    (∀ pre, pre <+: ops → (after users pre).FriendsSymmetric) ↔
      ∀ pre op, pre ++ [op] <+: ops → FriendOk (after users pre).status op.1 := by
  refine forall_prefix_iff (friendsSymmetric_iff.2 fun _ _ => Iff.rfl) ?_ ops
  intro pre op h
  rw [after_snoc, friendsSymmetric_iff]
  exact (friendsSymmetric_iff.1 h).step (noSelf_after users pre)
    (statusStep_perform (noSelf_after users pre) op.1)

/-- Users 1 and 2. -/
def twoUsers : Users :=
  ⟨[⟨1, "ann", "Ann", "", "", .offline, 0, 0⟩, ⟨2, "bob", "Bob", "", "", .offline, 0, 0⟩],
    by decide⟩

/-- A reject sent after the accept, and two crossing requests of which one is accepted. -/
theorem friendship_not_symmetric :
    (after twoUsers [(.add 1 2, 0), (.accept 2 1, 1), (.reject 2 1, 2)]).isFriend 2 1 = true ∧
    (after twoUsers [(.add 1 2, 0), (.accept 2 1, 1), (.reject 2 1, 2)]).isFriend 1 2 = false ∧
    (after twoUsers [(.add 1 2, 0), (.add 2 1, 1), (.accept 2 1, 2)]).isFriend 1 2 = true ∧
    (after twoUsers [(.add 1 2, 0), (.add 2 1, 1), (.accept 2 1, 2)]).isFriend 2 1 = false := by
  decide

end ChatApp.Friends

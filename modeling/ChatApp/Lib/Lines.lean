/-
  Texts in lines, with a carriage return and a line feed between them, and the first occurrence of a
  pattern in such a text. A pattern with neither of the two occurs in a line or not at all.
-/
import ChatApp.Lib.Search

namespace ChatApp.Lib

namespace Search

variable {α : Type*} [DecidableEq α] {s t x y r : List α} {a : α}

theorem cut_append_right (h : cut t s = some (x, y)) : cut t (s ++ r) = some (x, y ++ r) := by
  obtain ⟨hs, hfirst⟩ := cut_eq_some h
  have hsplit : s ++ r = x ++ (t ++ (y ++ r)) := by
    rw [hs, List.append_assoc, List.append_assoc]
  rw [hsplit]
  refine cut_append fun i hi hprefix => hfirst i hi ?_
  have hlength : s.length = x.length + t.length + y.length := by
    rw [hs, List.length_append, List.length_append]
  rw [← hsplit, List.drop_append_of_le_length (by omega)] at hprefix
  refine List.prefix_of_prefix_length_le hprefix (List.prefix_append _ r) ?_
  rw [List.length_drop]
  omega

theorem cut_eq_none_iff : cut t s = none ↔ ¬ t <:+: s := by
  constructor
  · intro h hinfix
    have hfind := find_isSome_iff.2 hinfix
    rw [find_of_cut_none (by exact h)] at hfind
    cases hfind
  · intro h
    cases hcut : cut t s with
    | none => rfl
    | some z => exact absurd ⟨z.1, z.2, (cut_eq_some hcut).1.symm⟩ h

/-- Nothing begins before an element that it does not contain, and goes on behind it. -/
theorem cut_append_cons (hne : t ≠ []) (ha : a ∉ t) (h : cut t s = none) :
    cut t (s ++ a :: r) = (cut t r).map fun z => (s ++ a :: z.1, z.2) := by
  induction s with
  | nil =>
    obtain ⟨b, u, rfl⟩ := List.exists_cons_of_ne_nil hne
    have hskip : a ∉ b :: u := ha
    have hhead : ¬ b :: u <+: a :: r := fun hprefix =>
      hskip ((List.cons_prefix_cons.1 hprefix).1 ▸ List.mem_cons_self)
    exact cut_cons hhead
  | cons d s ih =>
    have hhead : ¬ t <+: d :: s := cut_eq_none h 0 (Nat.zero_le _)
    have hlong : ¬ t <+: d :: (s ++ a :: r) := fun hprefix =>
      hhead (prefix_of_not_mem (x := d :: s) ha hprefix)
    have hrest : cut t s = none := by
      rw [cut_cons hhead] at h
      exact Option.map_eq_none_iff.1 h
    rw [List.cons_append, cut_cons hlong, ih hrest, Option.map_map]
    rfl

end Search

namespace Lines

open Search

/-- What comes behind a line: the other lines, and `tail`. -/
def following (tail : List UInt8) : List (List UInt8) → List UInt8
  | [] => tail
  | line :: rest => 13 :: 10 :: (line ++ following tail rest)

def join (tail : List UInt8) : List (List UInt8) → List UInt8
  | [] => tail
  | line :: rest => line ++ following tail rest

/-- What comes before a line. -/
def opening (lines : List (List UInt8)) : List UInt8 := lines.flatMap (· ++ [13, 10])

variable {tail t line x y : List UInt8} {lines before after : List (List UInt8)}

theorem join_append : join tail (before ++ line :: after) =
    opening before ++ (line ++ following tail after) := by
  induction before with
  | nil => rfl
  | cons l before ih =>
    have hjoin : join tail (l :: (before ++ line :: after)) =
        l ++ 13 :: 10 :: join tail (before ++ line :: after) := by
      cases before with
      | nil => rfl
      | cons m before => rfl
    rw [List.cons_append, hjoin, ih, opening, opening, List.flatMap_cons, List.append_assoc,
      List.append_assoc]
    rfl

theorem map_following {f : UInt8 → UInt8} (hcr : f 13 = 13) (hlf : f 10 = 10) :
    (following tail lines).map f = following (tail.map f) (lines.map (·.map f)) := by
  induction lines with
  | nil => rfl
  | cons l lines ih =>
    rw [following, List.map_cons, List.map_cons, List.map_append, hcr, hlf, ih]
    rfl

theorem map_join {f : UInt8 → UInt8} (hcr : f 13 = 13) (hlf : f 10 = 10) :
    (join tail lines).map f = join (tail.map f) (lines.map (·.map f)) := by
  cases lines with
  | nil => rfl
  | cons l lines =>
    rw [join, List.map_append, map_following hcr hlf]
    rfl

/-- It does not contain a line end, and has at least one byte. -/
structure InLine (t : List UInt8) : Prop where
  ne : t ≠ []
  cr : 13 ∉ t
  lf : 10 ∉ t

theorem InLine.cut_nil (ht : InLine t) : cut t [] = none := if_neg ht.ne

theorem InLine.cut_next (ht : InLine t) (h : cut t line = none) (r : List UInt8) :
    cut t (line ++ 13 :: 10 :: r) = (cut t r).map fun z => (line ++ 13 :: 10 :: z.1, z.2) := by
  have hlf : cut t ([] ++ 10 :: r) = (cut t r).map fun z => ([] ++ 10 :: z.1, z.2) :=
    cut_append_cons ht.ne ht.lf ht.cut_nil
  rw [List.nil_append] at hlf
  rw [cut_append_cons ht.ne ht.cr h, hlf, Option.map_map]
  rfl

/-- A rest of a line end -/
def IsRest (tail : List UInt8) : Prop := tail = [] ∨ tail = [13]

theorem InLine.cut_last (ht : InLine t) (htail : IsRest tail) (h : cut t line = none) :
    cut t (line ++ tail) = none := by
  rcases htail with rfl | rfl
  · rwa [List.append_nil]
  · rw [cut_append_cons ht.ne ht.cr h, ht.cut_nil]
    rfl

/-- A pattern occurs in no line, or not before the first line in which it occurs. -/
theorem cut_join_none (ht : InLine t) (htail : IsRest tail) (h : ∀ l ∈ lines, cut t l = none) :
    cut t (join tail lines) = none := by
  cases lines with
  | nil =>
    have hlast : cut t ([] ++ tail) = none := ht.cut_last htail ht.cut_nil
    exact hlast
  | cons l lines =>
    rw [join]
    obtain ⟨hline, hlines⟩ := List.forall_mem_cons.1 h
    clear h
    induction lines generalizing l with
    | nil => exact ht.cut_last htail hline
    | cons m lines ih =>
      obtain ⟨hm, hlines⟩ := List.forall_mem_cons.1 hlines
      rw [following, ht.cut_next hline, ih m hm hlines]
      rfl

theorem cut_join_some (ht : InLine t) (hbefore : ∀ l ∈ before, cut t l = none)
    (h : cut t line = some (x, y)) : cut t (join tail (before ++ line :: after)) =
      some (opening before ++ x, y ++ following tail after) := by
  rw [join_append]
  induction before with
  | nil => exact cut_append_right h
  | cons l before ih =>
    obtain ⟨hl, hbefore⟩ := List.forall_mem_cons.1 hbefore
    have hopening : opening (l :: before) = l ++ 13 :: 10 :: opening before := by
      rw [opening, List.flatMap_cons, List.append_assoc]
      rfl
    rw [hopening, List.append_assoc, List.cons_append, List.cons_append, ht.cut_next hl,
      ih hbefore, Option.map_some, List.append_assoc]
    rfl

theorem find_join (ht : InLine t) (hbefore : ∀ l ∈ before, cut t l = none)
    (h : cut t line = some (x, y)) : find (join tail (before ++ line :: after)) t 0 =
      some (opening before ++ x).length := by
  refine (find_of_cut (Nat.zero_le _) (cut_join_some ht hbefore h)).trans ?_
  rw [Nat.zero_add]

theorem length_opening {f : UInt8 → UInt8} :
    (opening (lines.map (·.map f))).length = (opening lines).length := by
  induction lines with
  | nil => rfl
  | cons l lines ih =>
    unfold opening at ih ⊢
    rw [List.map_cons, List.flatMap_cons, List.flatMap_cons, List.length_append, List.length_append,
      ih, List.length_append, List.length_append, List.length_map]

theorem IsRest.map {f : UInt8 → UInt8} (h : IsRest tail) (hcr : f 13 = 13) :
    IsRest (tail.map f) := by
  rcases h with rfl | rfl
  · exact .inl rfl
  · exact .inr (congrArg ([·]) hcr)

/-- It occurs in the text exactly if it occurs in a line. -/
theorem infix_join (ht : InLine t) (htail : IsRest tail) :
    t <:+: join tail lines ↔ ∃ l ∈ lines, t <:+: l := by
  constructor
  · intro h
    by_contra hnot
    have hnone : ∀ l ∈ lines, cut t l = none := fun l hl =>
      cut_eq_none_iff.2 fun hinfix => hnot ⟨l, hl, hinfix⟩
    exact cut_eq_none_iff.1 (cut_join_none ht htail hnone) h
  · intro ⟨l, hl, h⟩
    obtain ⟨before, after, rfl⟩ := List.append_of_mem hl
    have hline : l <:+: opening before ++ (l ++ following tail after) :=
      List.infix_append' (opening before) l (following tail after)
    rw [join_append]
    exact h.trans hline

/-- A part of a text in lines: its last line is a part of a line. -/
theorem following_of_prefix {s : List UInt8} (h : s <+: following [] lines) :
    ∃ tail parts, IsRest tail ∧ s = following tail parts ∧ ∀ p ∈ parts, ∃ l ∈ lines, p <+: l := by
  induction lines generalizing s with
  | nil =>
    obtain rfl : s = [] := List.prefix_nil.1 h
    exact ⟨[], [], .inl rfl, rfl, fun p hp => by cases hp⟩
  | cons l lines ih =>
    rcases s with _ | ⟨a, _ | ⟨b, s⟩⟩
    · exact ⟨[], [], .inl rfl, rfl, fun p hp => by cases hp⟩
    · obtain ⟨rfl, -⟩ := List.cons_prefix_cons.1 h
      exact ⟨[13], [], .inr rfl, rfl, fun p hp => by cases hp⟩
    · obtain ⟨hcr, hnext⟩ := List.cons_prefix_cons.1 h
      obtain ⟨hlf, hline⟩ := List.cons_prefix_cons.1 hnext
      subst hcr hlf
      rcases List.prefix_or_prefix_of_prefix hline (List.prefix_append l _) with hshort | ⟨r, rfl⟩
      · refine ⟨[], [s], .inl rfl, by rw [following, following, List.append_nil], ?_⟩
        exact List.forall_mem_singleton.2 ⟨l, List.mem_cons_self, hshort⟩
      · obtain ⟨tail, parts, htail, rfl, hparts⟩ := ih ((List.prefix_append_right_inj l).1 hline)
        refine ⟨tail, l :: parts, htail, rfl, List.forall_mem_cons.2 ⟨?_, fun p hp => ?_⟩⟩
        · exact ⟨l, List.mem_cons_self, List.prefix_refl l⟩
        · obtain ⟨m, hm, hprefix⟩ := hparts p hp
          exact ⟨m, List.mem_cons_of_mem l hm, hprefix⟩

theorem join_of_prefix {s : List UInt8} (h : s <+: join [] lines) :
    ∃ tail parts, IsRest tail ∧ s = join tail parts ∧ ∀ p ∈ parts, ∃ l ∈ lines, p <+: l := by
  cases lines with
  | nil =>
    obtain rfl : s = [] := List.prefix_nil.1 h
    exact ⟨[], [], .inl rfl, rfl, fun p hp => by cases hp⟩
  | cons l lines =>
    have hlong : 13 :: 10 :: s <+: following [] (l :: lines) :=
      List.cons_prefix_cons.2 ⟨rfl, List.cons_prefix_cons.2 ⟨rfl, h⟩⟩
    obtain ⟨tail, parts, htail, heq, hparts⟩ := following_of_prefix hlong
    cases parts with
    | nil =>
      rcases htail with rfl | rfl
      · cases heq
      · cases heq
    | cons p parts =>
      have hs : s = join tail (p :: parts) := List.cons.inj (List.cons.inj heq).2 |>.2
      exact ⟨tail, p :: parts, htail, hs, hparts⟩

end Lines

end ChatApp.Lib

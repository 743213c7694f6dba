/-
  `getRecentMessages`. Without a cursor it returns the last messages of the list, with one the first
  of those before it. So with a cursor the page is the right one only if it has all messages before
  the cursor (`recent_iff`), and paging backwards loses what lies between the oldest page and the
  latest two (`pages_iff`).
-/
import ChatApp.Client.MessageDatabase
import Mathlib.Data.List.Pairwise

namespace ChatApp.Client

open ChatApp.Lib ChatApp.Protocol

/-- The selection of `getRecentMessages` from the stored list. -/
def recentMessages (messages : List Message) (limit : Nat) (beforeTime : Int) : List Message :=
  if 0 < beforeTime then (messages.filter (·.createdAt < beforeTime)).take limit
  else (messages.reverse.take limit).reverse

def getRecentMessages (box : Box) (peerId : Int) (isGroup : Bool) (limit : Nat)
    (beforeTime : Int) : List Message :=
  recentMessages (getMessages box peerId isGroup) limit beforeTime

section
variable (messages : List Message) (limit : Nat) (beforeTime : Int)

/-- The messages before the cursor, all of them for the cursor 0. -/
def candidates : List Message :=
  if beforeTime = 0 then messages else messages.filter (·.createdAt < beforeTime)

/-- The page has the most recent of the candidates, in ascending order. -/
structure MostRecent (page : List Message) : Prop where
  sorted : page.Pairwise Message.NotAfter
  length : page.length = min limit (candidates messages beforeTime).length
  latest : ∃ rest, (rest ++ page).Perm (candidates messages beforeTime) ∧
    ∀ a ∈ rest, ∀ b ∈ page, a.NotAfter b

/-- The first and the last of the candidates make the same page. -/
def OnePage : Prop :=
  beforeTime = 0 ∨ limit = 0 ∨
    if 0 < beforeTime then
      (candidates messages beforeTime).length ≤ limit ∨
        ∀ a ∈ candidates messages beforeTime, ∀ b ∈ candidates messages beforeTime,
          a.createdAt = b.createdAt
    else ∀ m ∈ messages, m.createdAt < beforeTime

instance : Decidable (OnePage messages limit beforeTime) := by
  unfold OnePage
  infer_instance

/-- The first pages from a cursor, the oldest one first. The cursor of the next page is the time of
    the oldest message. -/
def pages : Nat → Int → List Message
  | 0, _ => []
  | k + 1, beforeTime =>
    let page := recentMessages messages limit beforeTime
    match page.head? with
    | none => []
    | some oldest => pages k oldest.createdAt ++ page

/-- Any number of pages has the latest messages, without a gap and none twice. -/
def PagesBackwards : Prop :=
  ∀ k, pages messages limit k 0 = messages.drop (messages.length - k * limit)

end

variable {ms page : List Message} {n i k : Nat} {t : Int} {box : Box} {p : Int} {g : Bool}

/-! ## One page -/

theorem recentMessages_of_pos (h : 0 < t) :
    recentMessages ms n t = (ms.filter (·.createdAt < t)).take n := if_pos h

theorem recentMessages_of_not_pos (h : ¬ 0 < t) :
    recentMessages ms n t = ms.drop (ms.length - n) := by
  unfold recentMessages
  rw [if_neg h, List.take_reverse, List.reverse_reverse]

/-- The end of a sorted list is its most recent part. -/
theorem latest_drop (h : ms.Pairwise Message.NotAfter) :
    ∃ rest, (rest ++ ms.drop i).Perm ms ∧ ∀ a ∈ rest, ∀ b ∈ ms.drop i, a.NotAfter b := by
  refine ⟨ms.take i, .of_eq (List.take_append_drop i ms), ?_⟩
  rw [← List.take_append_drop i ms] at h
  exact (List.pairwise_append.1 h).2.2

/-- The beginning of a sorted list is its most recent part only if all times are the same. -/
theorem latest_take (h : ms.Pairwise Message.NotAfter) :
    (∃ rest, (rest ++ ms.take n).Perm ms ∧ ∀ a ∈ rest, ∀ b ∈ ms.take n, a.NotAfter b) ↔
      n = 0 ∨ ms.length ≤ n ∨ ∀ a ∈ ms, ∀ b ∈ ms, a.createdAt = b.createdAt := by
  have hsplit : (ms.drop n ++ ms.take n).Perm ms :=
    List.perm_append_comm.trans (.of_eq (List.take_append_drop n ms))
  constructor
  · rintro ⟨rest, hperm, hrest⟩
    by_cases hn : n = 0
    · exact .inl hn
    by_cases hlength : ms.length ≤ n
    · exact .inr (.inl hlength)
    -- what is left out is not after the page, and the page is not after it
    have hleft : rest.Perm (ms.drop n) :=
      (List.perm_append_right_iff _).1 (hperm.trans hsplit.symm)
    rw [← List.take_append_drop n ms] at h
    have hpage := (List.pairwise_append.1 h).2.2
    have hsame : ∀ a ∈ ms.take n, ∀ b ∈ ms.drop n, a.createdAt = b.createdAt := fun a ha b hb =>
      Int.le_antisymm (hpage a ha b hb) (hrest b (hleft.mem_iff.2 hb) a ha)
    obtain ⟨first, hfirst⟩ : ∃ a, a ∈ ms.take n :=
      List.exists_mem_of_length_pos (by rw [List.length_take]; omega)
    obtain ⟨last, hlast⟩ : ∃ b, b ∈ ms.drop n :=
      List.exists_mem_of_length_pos (by rw [List.length_drop]; omega)
    have hall : ∀ a ∈ ms, a.createdAt = last.createdAt := by
      intro a ha
      rw [← List.take_append_drop n ms, List.mem_append] at ha
      rcases ha with ha | ha
      · exact hsame a ha last hlast
      · exact (hsame first hfirst a ha).symm.trans (hsame first hfirst last hlast)
    exact .inr (.inr fun a ha b hb => (hall a ha).trans (hall b hb).symm)
  · rintro (rfl | hlength | hsame)
    · exact ⟨ms, by simp, by simp⟩
    · exact ⟨[], by rw [List.nil_append, List.take_of_length_le hlength], by simp⟩
    · refine ⟨ms.drop n, hsplit, fun a ha b hb => ?_⟩
      exact (hsame a (List.mem_of_mem_drop ha) b (List.mem_of_mem_take hb)).le

theorem candidates_sorted (h : ms.Pairwise Message.NotAfter) :
    (candidates ms t).Pairwise Message.NotAfter := by
  unfold candidates
  split
  · exact h
  · exact h.filter _

theorem recent_of_zero (h : ms.Pairwise Message.NotAfter) :
    MostRecent ms n 0 (recentMessages ms n 0) := by
  have hall : candidates ms 0 = ms := if_pos rfl
  rw [recentMessages_of_not_pos (by omega)]
  refine ⟨h.drop, ?_, ?_⟩
  · rw [hall, List.length_drop]
    omega
  · rw [hall]
    exact latest_drop h

theorem recent_of_pos (h : ms.Pairwise Message.NotAfter) (ht : 0 < t) :
    MostRecent ms n t (recentMessages ms n t) ↔ n = 0 ∨ (candidates ms t).length ≤ n ∨
      ∀ a ∈ candidates ms t, ∀ b ∈ candidates ms t, a.createdAt = b.createdAt := by
  have hpage : recentMessages ms n t = (candidates ms t).take n := by
    unfold candidates
    rw [recentMessages_of_pos ht, if_neg (by omega)]
  rw [hpage, ← latest_take (candidates_sorted h)]
  exact ⟨fun hrecent => hrecent.latest,
    fun hlatest => ⟨(candidates_sorted h).take, List.length_take, hlatest⟩⟩

/-- A negative cursor is no cursor for the code. -/
theorem recent_of_neg (h : ms.Pairwise Message.NotAfter) (ht : t < 0) :
    MostRecent ms n t (recentMessages ms n t) ↔ n = 0 ∨ ∀ m ∈ ms, m.createdAt < t := by
  have hcandidates : candidates ms t = ms.filter (·.createdAt < t) := if_neg (by omega)
  rw [recentMessages_of_not_pos (by omega)]
  constructor
  · rintro ⟨-, hlength, rest, hperm, -⟩
    by_cases hn : n = 0
    · exact .inl hn
    refine .inr fun m hm => ?_
    -- the last message is on the page
    have hlast : ms.getLast (List.ne_nil_of_mem hm) ∈ ms.drop (ms.length - n) := by
      have hpos := List.length_pos_of_mem hm
      rw [List.getLast_eq_getElem]
      exact List.mem_drop_iff_getElem.2 ⟨ms.length - 1 - (ms.length - n), by omega,
        by congr 1; omega⟩
    have hbefore := hperm.mem_iff.1 (List.mem_append_right rest hlast)
    rw [hcandidates, List.mem_filter, decide_eq_true_eq] at hbefore
    exact Int.lt_of_le_of_lt (h.rel_getLast hm) hbefore.2
  · intro hor
    refine ⟨h.drop, ?_, ?_⟩
    · rcases hor with rfl | hall
      · simp
      · rw [hcandidates, List.filter_eq_self.2 (by simpa using hall), List.length_drop]
        omega
    · rcases hor with rfl | hall
      · exact ⟨candidates ms t, by simp, by simp⟩
      · rw [hcandidates, List.filter_eq_self.2 (by simpa using hall)]
        exact latest_drop h

theorem recentMessages_iff (h : ms.Pairwise Message.NotAfter) :
    MostRecent ms n t (recentMessages ms n t) ↔ OnePage ms n t := by
  unfold OnePage
  by_cases hzero : t = 0
  · subst hzero
    exact iff_of_true (recent_of_zero h) (.inl rfl)
  rw [or_iff_right hzero]
  by_cases ht : 0 < t
  · rw [if_pos ht]
    exact recent_of_pos h ht
  · rw [if_neg ht]
    exact recent_of_neg h (by omega)

/-! ## Paging -/

theorem pages_succ : pages ms n (k + 1) t =
    match (recentMessages ms n t).head? with
    | none => []
    | some oldest => pages ms n k oldest.createdAt ++ recentMessages ms n t := rfl

theorem pages_of_nil (h : recentMessages ms n t = []) : pages ms n k t = [] := by
  cases k with
  | zero => rfl
  | succ k =>
    rw [pages_succ, h]
    rfl

theorem pages_of_head {m : Message} (h : (recentMessages ms n t).head? = some m) :
    pages ms n (k + 1) t = pages ms n k m.createdAt ++ recentMessages ms n t := by
  rw [pages_succ, h]

theorem pages_one : pages ms n 1 t = recentMessages ms n t := by
  cases hpage : recentMessages ms n t with
  | nil => exact pages_of_nil hpage
  | cons m page =>
    have hhead : (recentMessages ms n t).head? = some m := by rw [hpage]; rfl
    rw [pages_of_head hhead, hpage]
    rfl

/-- The messages before one of a list with distinct times. -/
theorem recentMessages_at (h : ms.Pairwise fun a b => a.createdAt < b.createdAt)
    (hi : i < ms.length) (ht : 0 < ms[i].createdAt) :
    recentMessages ms n ms[i].createdAt = ms.take (min n i) := by
  have hleft : (ms.take i).filter (·.createdAt < ms[i].createdAt) = ms.take i := by
    refine List.filter_eq_self.2 fun m hm => decide_eq_true ?_
    obtain ⟨j, hj, rfl⟩ := List.mem_take_iff_getElem.1 hm
    exact List.pairwise_iff_getElem.1 h j i (by omega) hi (by omega)
  have hright : (ms.drop i).filter (·.createdAt < ms[i].createdAt) = [] := by
    refine List.filter_eq_nil_iff.2 fun m hm hlt => ?_
    obtain ⟨j, hj, rfl⟩ := List.mem_drop_iff_getElem.1 hm
    have hlt := of_decide_eq_true hlt
    by_cases hij : j = 0
    · subst hij
      exact absurd hlt (by simp)
    · have hle := List.pairwise_iff_getElem.1 h i (i + j) hi (by omega) (by omega)
      omega
  have hfilter : ms.filter (·.createdAt < ms[i].createdAt) = ms.take i := by
    calc ms.filter (·.createdAt < ms[i].createdAt)
      _ = (ms.take i ++ ms.drop i).filter (·.createdAt < ms[i].createdAt) := by
        rw [List.take_append_drop]
      _ = ms.take i := by rw [List.filter_append, hleft, hright, List.append_nil]
  rw [recentMessages_of_pos ht, hfilter, List.take_take]

/-- The first page of a list, and its oldest message. -/
theorem pages_first (hlast : i = ms.length - n) (hi : i < ms.length) (ht : ¬ 0 < t) :
    pages ms n (k + 1) t = pages ms n k ms[i].createdAt ++ ms.drop i := by
  have hpage : recentMessages ms n t = ms.drop i := hlast ▸ recentMessages_of_not_pos ht
  rw [← hpage]
  refine pages_of_head ?_
  rw [hpage, List.head?_drop, List.getElem?_eq_getElem hi]

/-- A later page, and its oldest message. -/
theorem pages_at (h : ms.Pairwise fun a b => a.createdAt < b.createdAt) (hn : 0 < n)
    (hi : i < ms.length) (hpos : 0 < i) (ht : 0 < ms[i].createdAt) :
    pages ms n (k + 1) ms[i].createdAt =
      pages ms n k ms[0].createdAt ++ ms.take (min n i) := by
  have hpage := recentMessages_at (n := n) h hi ht
  rw [← hpage]
  refine pages_of_head ?_
  rw [hpage, List.head?_take, if_neg (by omega), List.head?_eq_getElem?,
    List.getElem?_eq_getElem (by omega)]

theorem pages_at_zero (h : ms.Pairwise fun a b => a.createdAt < b.createdAt)
    (hi : 0 < ms.length) (ht : 0 < ms[0].createdAt) : pages ms n k ms[0].createdAt = [] := by
  refine pages_of_nil ?_
  rw [recentMessages_at h hi ht, Nat.min_zero, List.take_zero]

theorem distinct_getElem {i j : Nat} (h : ms.Pairwise fun a b => a.createdAt < b.createdAt)
    (hi : i < ms.length) (hj : j < ms.length) (heq : ms[i] = ms[j]) : i = j := by
  rw [List.pairwise_iff_getElem] at h
  rcases Nat.lt_trichotomy i j with hlt | rfl | hlt
  · have hlt := h i j hi hj hlt
    rw [heq] at hlt
    exact absurd hlt (Int.lt_irrefl _)
  · rfl
  · have hlt := h j i hj hi hlt
    rw [heq] at hlt
    exact absurd hlt (Int.lt_irrefl _)

/-- Where an end of the list begins. -/
theorem drop_index {j : Nat} (h : ms.Pairwise fun a b => a.createdAt < b.createdAt)
    (hi : i < ms.length) (hfirst : (ms.drop j)[0]? = some ms[i]) : i = j := by
  rw [List.getElem?_drop, Nat.add_zero] at hfirst
  obtain ⟨hj, heq⟩ := List.getElem?_eq_some_iff.1 hfirst
  exact distinct_getElem h hi hj heq.symm

/-- Two pages that are right: the second one has all that the first one leaves. -/
theorem length_of_pages (h : ms.Pairwise fun a b => a.createdAt < b.createdAt) (hn : 0 < n)
    (hlast : i = ms.length - n) (hi : i < ms.length) (hpages : PagesBackwards ms n) :
    0 < ms[i].createdAt ∧ ms.length ≤ 2 * n := by
  have htwo : recentMessages ms n ms[i].createdAt ++ ms.drop i = ms.drop (ms.length - 2 * n) := by
    rw [← hpages 2, pages_first hlast hi (by omega), pages_one]
  have ht : 0 < ms[i].createdAt := by
    -- otherwise the first page comes again
    by_contra ht
    rw [recentMessages_of_not_pos ht, ← hlast] at htwo
    have hlength := congrArg List.length htwo
    rw [List.length_append, List.length_drop, List.length_drop] at hlength
    have hindex : i = ms.length - 2 * n := by
      refine drop_index h hi ?_
      rw [← htwo, List.getElem?_append_left (by rw [List.length_drop]; omega), List.getElem?_drop,
        Nat.add_zero, List.getElem?_eq_getElem hi]
    omega
  refine ⟨ht, ?_⟩
  by_contra hlong
  have hpos : 0 < ms.length := by omega
  have hindex : 0 = ms.length - 2 * n := by
    refine drop_index h hpos ?_
    rw [← htwo, recentMessages_at h hi ht,
      List.getElem?_append_left (by rw [List.length_take]; omega),
      List.getElem?_take_of_lt (by omega), List.getElem?_eq_getElem hpos]
  omega

/-- Pages that are right end, so the oldest time is a cursor. -/
theorem positive_of_pages (h : ms.Pairwise fun a b => a.createdAt < b.createdAt) (hn : 0 < n)
    (hpos : 0 < ms.length) (hpages : PagesBackwards ms n) : 0 < ms[0].createdAt := by
  obtain ⟨i, hlast⟩ : ∃ i, i = ms.length - n := ⟨_, rfl⟩
  have hi : i < ms.length := by omega
  obtain ⟨ht, hlength⟩ := length_of_pages h hn hlast hi hpages
  by_cases hzero : i = 0
  · subst hzero
    exact ht
  by_contra hnone
  have hthree := hpages 3
  rw [pages_first hlast hi (by omega), pages_at h hn hi (by omega) ht, pages_one,
    recentMessages_of_not_pos hnone] at hthree
  have hcount := congrArg List.length hthree
  simp only [List.length_append, List.length_drop, List.length_take] at hcount
  omega

theorem pages_of_two (h : ms.Pairwise fun a b => a.createdAt < b.createdAt) (hn : 0 < n)
    (hlength : ms.length ≤ 2 * n) (hpositive : ∀ m ∈ ms, 0 < m.createdAt) :
    PagesBackwards ms n := by
  intro k
  by_cases hpos : 0 < ms.length
  swap
  · obtain rfl := List.eq_nil_of_length_eq_zero (by omega : ms.length = 0)
    rw [List.drop_nil]
    refine pages_of_nil ?_
    rw [recentMessages_of_not_pos (Int.lt_irrefl 0), List.drop_nil]
  obtain ⟨i, hlast⟩ : ∃ i, i = ms.length - n := ⟨_, rfl⟩
  have hi : i < ms.length := by omega
  have ht : ∀ j, (hj : j < ms.length) → 0 < ms[j].createdAt := fun j hj =>
    hpositive _ (List.getElem_mem hj)
  match k with
  | 0 => simp [pages]
  | 1 => rw [pages_one, recentMessages_of_not_pos (by omega), Nat.one_mul]
  | k + 2 =>
    have hall : ms.length - (k + 2) * n = 0 := by
      have hle : 2 * n ≤ (k + 2) * n := Nat.mul_le_mul_right n (by omega)
      omega
    rw [pages_first hlast hi (by omega), hall, List.drop_zero]
    by_cases hzero : i = 0
    · subst hzero
      rw [pages_at_zero h hi (ht 0 hi), List.nil_append, List.drop_zero]
    · rw [pages_at h hn hi (by omega) (ht i hi), pages_at_zero h hpos (ht 0 hpos),
        List.nil_append, Nat.min_eq_right (by omega), List.take_append_drop]

theorem pages_iff (h : ms.Pairwise fun a b => a.createdAt < b.createdAt) :
    PagesBackwards ms n ↔ n = 0 ∨ ms.length ≤ 2 * n ∧ ∀ m ∈ ms, 0 < m.createdAt := by
  by_cases hn : n = 0
  · subst hn
    refine iff_of_true (fun k => ?_) (.inl rfl)
    rw [pages_of_nil (by simp [recentMessages]), Nat.mul_zero, Nat.sub_zero, List.drop_length]
  rw [or_iff_right hn]
  refine ⟨fun hpages => ?_, fun hok => pages_of_two h (by omega) hok.1 hok.2⟩
  by_cases hpos : 0 < ms.length
  swap
  · obtain rfl := List.eq_nil_of_length_eq_zero (by omega : ms.length = 0)
    exact ⟨by simp, by simp⟩
  refine ⟨(length_of_pages h (by omega) rfl (by omega) hpages).2, fun m hm => ?_⟩
  have hfirst := positive_of_pages h (by omega) hpos hpages
  obtain ⟨j, hj, rfl⟩ := List.getElem_of_mem hm
  by_cases hj0 : j = 0
  · subst hj0
    exact hfirst
  · have hlt := List.pairwise_iff_getElem.1 h 0 j hpos hj (by omega)
    omega

theorem strictly_sorted (h : ms.Pairwise Message.NotAfter)
    (hdistinct : (ms.map (·.createdAt)).Nodup) :
    ms.Pairwise fun a b => a.createdAt < b.createdAt :=
  (h.and (List.pairwise_map.1 hdistinct)).imp fun hab => Int.lt_iff_le_and_ne.2 ⟨hab.1, hab.2⟩

/-- `getRecentMessages` returns the most recent messages before the cursor if and only if there is
    one page of them. And paging backwards through messages of distinct times is right if and only
    if two pages suffice and no time is taken for a missing cursor. -/
theorem getRecentMessages_iff (h : (getMessages box p g).Pairwise Message.NotAfter) :
    (∀ limit beforeTime, MostRecent (getMessages box p g) limit beforeTime
        (getRecentMessages box p g limit beforeTime) ↔
      OnePage (getMessages box p g) limit beforeTime) ∧
    (((getMessages box p g).map (·.createdAt)).Nodup → ∀ limit,
      PagesBackwards (getMessages box p g) limit ↔
        limit = 0 ∨ (getMessages box p g).length ≤ 2 * limit ∧
          ∀ m ∈ getMessages box p g, 0 < m.createdAt) :=
  ⟨fun _ _ => recentMessages_iff h, fun hdistinct _ => pages_iff (strictly_sorted h hdistinct)⟩

/-- Three messages, one in each second. -/
def threeMessages : List Message :=
  [⟨1, 1, 2, 0, 0, "one", "", "", 1, 1⟩, ⟨2, 1, 2, 0, 0, "two", "", "", 1, 2⟩,
    ⟨3, 1, 2, 0, 0, "three", "", "", 1, 3⟩]

def threeStored : Box := Box.put (fun _ => none) (getMessageKey 2 false) threeMessages

/-- Two pages have them all, if there are two on a page. -/
theorem getRecentMessages_iff_three :
    MostRecent (getMessages threeStored 2 false) 1 0
        (getRecentMessages threeStored 2 false 1 0) ∧
      PagesBackwards (getMessages threeStored 2 false) 2 := by
  obtain ⟨hrecent, hpages⟩ := getRecentMessages_iff
    (show (getMessages threeStored 2 false).Pairwise Message.NotAfter by decide)
  exact ⟨(hrecent 1 0).2 (by decide), (hpages (by decide) 2).2 (.inr (by decide))⟩

/-- Before the third message comes the second one, but the page has the first one. -/
theorem oldest_returned : ¬ ∀ box p g limit beforeTime,
    (getMessages box p g).Pairwise Message.NotAfter →
    MostRecent (getMessages box p g) limit beforeTime
      (getRecentMessages box p g limit beforeTime) := by
  intro h
  obtain ⟨-, -, rest, hperm, hrest⟩ := h threeStored 2 false 1 3 (by decide)
  have hpage : getRecentMessages threeStored 2 false 1 3 = [threeMessages[0]] := by decide
  have hcandidates : candidates (getMessages threeStored 2 false) 3 =
      [threeMessages[0], threeMessages[1]] := by decide
  rw [hpage, hcandidates] at hperm
  have hsecond : threeMessages[1] ∈ rest ++ [threeMessages[0]] := hperm.mem_iff.2 (by simp)
  rcases List.mem_append.1 hsecond with hmem | hmem
  · have hle := hrest _ hmem threeMessages[0] (by rw [hpage]; exact List.mem_singleton_self _)
    exact absurd hle (by decide)
  · exact absurd hmem (by decide)

end ChatApp.Client

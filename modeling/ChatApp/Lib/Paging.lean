/-
  Reading a table page by page with a cursor. A row has a key; a page holds the first `n` of the
  rows that the cursor shows, in descending order of the keys, and the cursor of the next page is
  the key of the last row. The cursor shows the rows with a smaller key, after a cast to the type
  of the server's variable; a cursor that is not positive shows all rows. Rows with equal keys come
  in any order, another one for every page.

  A reading stops at an empty page. It returns every row once, in descending order, exactly if at
  every page end the cursor shows just the rows that are left (`Boundaries`).
-/
import Mathlib.Data.List.Sort

namespace ChatApp.Lib.Paging

variable {α β σ : Type} (key : α → Int) (cast : Int → Int) (rows : List α) (n : Nat)

/-- The cursor shows the key. -/
def Shows (cursor k : Int) : Prop := 0 < cast cursor → k < cast cursor

instance (cursor k : Int) : Decidable (Shows cast cursor k) := inferInstanceAs (Decidable (_ → _))

/-- The rows that the cursor shows. -/
def shown (cursor : Int) : List α := rows.filter fun a => decide (Shows cast cursor (key a))

/-- In descending order of the keys. -/
def Descending (l : List α) : Prop := l.Pairwise fun a b => key b ≤ key a

/-- A page that the server may return. -/
def IsPage (cursor : Int) (p : List α) : Prop :=
  ∃ q, q.Perm (shown key cast rows cursor) ∧ Descending key q ∧ p = q.take n

/-- A reading from the cursor to an empty page. -/
inductive Reads : Int → List α → Prop
  | stop {cursor : Int} : IsPage key cast rows n cursor [] → Reads cursor []
  | next {cursor : Int} {p l : List α} {a : α} : IsPage key cast rows n cursor p →
      p.getLast? = some a → Reads (key a) l → Reads cursor (p ++ l)

/-- The keys of all rows, in descending order. -/
def keys : List Int := (rows.map key).insertionSort (· ≥ ·)

/-- After `j` rows the cursor is positive, and shows as many rows as are left. -/
def Boundary (j : Nat) : Prop :=
  ∀ k, (keys key rows)[j - 1]? = some k →
    0 < cast k ∧ (rows.countP fun a => decide (key a < cast k)) = rows.length - j

/-- Every page end is a boundary; the last page ends with the rows. -/
def Boundaries : Prop :=
  ∀ j, 0 < j → j ≤ rows.length → n ∣ j ∨ j = rows.length → Boundary key cast rows j

/-! ## Descending lists -/

section
variable {key cast rows n} {l : List α} {cursor : Int}

theorem Shows.le {k k' : Int} (h : Shows cast cursor k) (hk : k' ≤ k) : Shows cast cursor k' :=
  fun hpos => Int.lt_of_le_of_lt hk (h hpos)

theorem shown_all (h : ¬ 0 < cast cursor) : shown key cast rows cursor = rows :=
  List.filter_eq_self.2 fun _ _ => decide_eq_true fun hpos => absurd hpos h

/-- What a cursor shows of a descending list is its end. -/
theorem filter_descending (h : Descending key l) {p : Int → Bool}
    (hp : ∀ k k', p k = true → k' ≤ k → p k' = true) :
    l.filter (fun a => p (key a)) = l.drop (l.length - l.countP fun a => p (key a)) := by
  induction l with
  | nil => rfl
  | cons a l ih =>
    obtain ⟨ha, hl⟩ := List.pairwise_cons.1 h
    cases hpa : p (key a) with
    | true =>
      -- everything after it is shown too
      have hall : ∀ b ∈ a :: l, p (key b) = true := by
        intro b hb
        rcases List.mem_cons.1 hb with rfl | hb
        · exact hpa
        · exact hp _ _ hpa (ha b hb)
      rw [List.filter_eq_self.2 hall, List.countP_eq_length.2 hall, Nat.sub_self, List.drop_zero]
    | false =>
      have hle := List.countP_le_length (p := fun a => p (key a)) (l := l)
      rw [List.filter_cons_of_neg (by simp [hpa]), ih hl, List.countP_cons_of_neg (by simp [hpa]),
        List.length_cons, Nat.succ_sub hle, List.drop_succ_cons]

theorem keys_perm : (keys key rows).Perm (rows.map key) := List.perm_insertionSort _ _

theorem keys_descending : (keys key rows).Pairwise (· ≥ ·) := List.pairwise_insertionSort _ _

/-- The keys of what a cursor shows are the end of all keys. -/
theorem keys_of_shown {q : List α} (hq : q.Perm (shown key cast rows cursor))
    (hsorted : Descending key q) :
    q.map key = (keys key rows).drop (rows.length - q.length) := by
  have hp : ∀ k k' : Int, decide (Shows cast cursor k) = true → k' ≤ k →
      decide (Shows cast cursor k') = true := by
    intro k k' hk hle
    exact decide_eq_true ((of_decide_eq_true hk).le hle)
  have hperm : (q.map key).Perm ((keys key rows).filter fun k => decide (Shows cast cursor k)) := by
    refine (hq.map key).trans ?_
    have hmap : (shown key cast rows cursor).map key =
        (rows.map key).filter fun k => decide (Shows cast cursor k) := by
      rw [List.filter_map]
      rfl
    rw [hmap]
    exact (keys_perm.filter _).symm
  have hdesc : (q.map key).Pairwise (· ≥ ·) := List.pairwise_map.2 hsorted
  have hfilter : ((keys key rows).filter fun k => decide (Shows cast cursor k)).Pairwise (· ≥ ·) :=
    keys_descending.filter _
  have heq := hperm.eq_of_pairwise (fun a b _ _ hab hba => Int.le_antisymm hba hab) hdesc hfilter
  have hdescending : Descending id (keys key rows) := keys_descending
  have hdrop := filter_descending hdescending hp
  have hlength : (keys key rows).length = rows.length := by
    rw [keys_perm.length_eq, List.length_map]
  have hcount : (keys key rows).countP (fun k => decide (Shows cast cursor (id k))) = q.length := by
    have hlen : (q.map key).length = q.length := List.length_map key
    rw [← hlen, heq, List.countP_eq_length_filter]
    rfl
  rw [heq]
  rw [hcount, hlength] at hdrop
  exact hdrop

/-- The last row of a descending list has the smallest key. -/
theorem Descending.last_le (h : Descending key l) {a b : α} (hlast : l.getLast? = some a)
    (hb : b ∈ l) : key a ≤ key b := by
  obtain ⟨l', rfl⟩ := List.getLast?_eq_some_iff.1 hlast
  rcases List.mem_append.1 hb with hb | hb
  · exact (List.pairwise_append.1 h).2.2 b hb a (List.mem_singleton_self a)
  · rw [List.mem_singleton.1 hb]

theorem mem_shown {a : α} :
    a ∈ shown key cast rows cursor ↔ a ∈ rows ∧ Shows cast cursor (key a) := by
  rw [shown, List.mem_filter, decide_eq_true_eq]

/-- A cursor that shows less. -/
theorem shown_filter {cursor' : Int}
    (h : ∀ b ∈ rows, Shows cast cursor' (key b) → Shows cast cursor (key b)) :
    shown key cast rows cursor' = (shown key cast rows cursor).filter
      fun b => decide (Shows cast cursor' (key b)) := by
  unfold shown
  rw [List.filter_filter]
  refine List.filter_congr fun b hb => ?_
  rw [← Bool.decide_and]
  exact decide_eq_decide.2 ⟨fun hb' => ⟨hb', h b hb hb'⟩, fun hb' => hb'.1⟩

/-! ## What a reading that returns everything says of the rows -/

/-- A reading returns rows. -/
theorem Reads.mem_rows (h : Reads key cast rows n cursor l) {b : α} (hb : b ∈ l) : b ∈ rows := by
  induction h with
  | stop => cases hb
  | next hpage _ _ ih =>
    obtain ⟨q, hq, -, rfl⟩ := hpage
    rcases List.mem_append.1 hb with hb | hb
    · exact (mem_shown.1 (hq.mem_iff.1 (List.mem_of_mem_take hb))).1
    · exact ih hb

/-- A reading returns nothing only if there is nothing to be shown. -/
theorem Reads.eq_nil (h : Reads key cast rows n cursor []) :
    n = 0 ∨ shown key cast rows cursor = [] := by
  generalize hl : ([] : List α) = l at h
  cases h with
  | stop hpage =>
    obtain ⟨q, hq, -, hnil⟩ := hpage
    refine (List.take_eq_nil_iff.1 hnil.symm).imp_right fun hq' => ?_
    rw [hq'] at hq
    exact hq.nil_eq.symm
  | next _ hlast =>
    rw [(List.append_eq_nil_iff.1 hl.symm).1] at hlast
    cases hlast

/-- If a descending reading goes on from a row that its cursor shows, it returns this row. -/
theorem Reads.mem (h : Reads key cast rows n cursor l) (hn : 0 < n) {a : α} (ha : key a = cursor)
    (hshown : a ∈ shown key cast rows cursor) (hle : ∀ b ∈ l, key b ≤ cursor) : a ∈ l := by
  induction h with
  | stop hpage =>
    obtain ⟨q, hq, -, hnil⟩ := hpage
    have hmem : a ∈ q := hq.mem_iff.2 hshown
    rcases List.take_eq_nil_iff.1 hnil.symm with h | h
    · omega
    · rw [h] at hmem
      cases hmem
  | @next cursor p l a' hpage hlast hreads ih =>
    obtain ⟨q, hq, hsorted, rfl⟩ := hpage
    by_cases hap : a ∈ q.take n
    · exact List.mem_append_left _ hap
    · have hdrop : a ∈ q.drop n := by
        have hmem : a ∈ q.take n ++ q.drop n := by
          rw [List.take_append_drop]
          exact hq.mem_iff.2 hshown
        exact (List.mem_append.1 hmem).resolve_left hap
      -- the whole page has the key of the cursor
      have ha' : a' ∈ q.take n := List.mem_of_getLast? hlast
      have hge : key a ≤ key a' := by
        have hparts : (q.take n ++ q.drop n).Pairwise fun a b => key b ≤ key a := by
          rw [List.take_append_drop]
          exact hsorted
        exact (List.pairwise_append.1 hparts).2.2 a' ha' a hdrop
      have hle' := hle a' (List.mem_append_left _ ha')
      have hkey : key a' = cursor := by omega
      rw [hkey] at ih
      exact List.mem_append_right _ (ih ha hshown fun b hb => hle b (List.mem_append_right _ hb))

/-- A descending reading returns only rows that its cursor shows. -/
theorem Reads.shows (h : Reads key cast rows n cursor l) (hdesc : Descending key l) {b : α}
    (hb : b ∈ l) : Shows cast cursor (key b) := by
  cases h with
  | stop => cases hb
  | @next _ p l a hpage hlast hreads =>
    obtain ⟨q, hq, -, rfl⟩ := hpage
    have hp : ∀ a ∈ q.take n, Shows cast cursor (key a) := fun a ha =>
      (mem_shown.1 (hq.mem_iff.1 (List.mem_of_mem_take ha))).2
    rcases List.mem_append.1 hb with hb | hb
    · exact hp b hb
    · have ha := List.mem_of_getLast? hlast
      exact (hp a ha).le ((List.pairwise_append.1 hdesc).2.2 a ha b hb)

/-- The key of the last row of a page, among all keys. -/
theorem key_at_end {q : List α} (hq : q.Perm (shown key cast rows cursor))
    (hsorted : Descending key q) {i : Nat} (hi : q.length + i = rows.length) {a : α}
    (hlast : (q.take n).getLast? = some a) :
    0 < n ∧ 0 < q.length ∧ (keys key rows)[i + min n q.length - 1]? = some (key a) := by
  rw [List.getLast?_eq_getElem?, List.length_take, List.getElem?_take] at hlast
  split at hlast
  case isFalse => cases hlast
  case isTrue hlt =>
  have hne : q ≠ [] := by
    rintro rfl
    cases hlast
  have hpos : 0 < q.length := List.length_pos_iff.2 hne
  have hn : 0 < n := by omega
  refine ⟨hn, hpos, ?_⟩
  have hkeys := keys_of_shown hq hsorted
  have hoffset : rows.length - q.length = i := by omega
  have hindex : i + min n q.length - 1 = i + (min n q.length - 1) := by omega
  rw [hoffset] at hkeys
  rw [hindex, ← List.getElem?_drop, ← hkeys, List.getElem?_map, hlast]
  rfl

/-- If the cursor shows what is left after a page, the page ends at a boundary. -/
theorem boundary_of_page {q : List α} (hq : q.Perm (shown key cast rows cursor))
    (hsorted : Descending key q) {i : Nat} (hi : q.length + i = rows.length) {a : α}
    (hlast : (q.take n).getLast? = some a) (hpos : 0 < cast (key a))
    (hleft : (shown key cast rows (key a)).length = q.length - n) :
    Boundary key cast rows (i + min n q.length) := by
  intro k hk
  rw [(key_at_end hq hsorted hi hlast).2.2] at hk
  cases hk
  have hcount : (rows.countP fun b => decide (key b < cast (key a))) = q.length - n := by
    rw [← hleft, shown, List.countP_eq_length_filter]
    simp [Shows, hpos]
  refine ⟨hpos, ?_⟩
  rw [hcount]
  omega

/-- A reading that returns what its cursor shows meets boundaries only. -/
theorem Reads.boundaries (hnodup : rows.Nodup) (h : Reads key cast rows n cursor l)
    (hperm : l.Perm (shown key cast rows cursor)) (hdesc : Descending key l) {i : Nat}
    (hi : (shown key cast rows cursor).length + i = rows.length) (hdvd : n ∣ i) {j : Nat}
    (hij : i < j) (hj : j ≤ rows.length) (hend : n ∣ j ∨ j = rows.length) :
    Boundary key cast rows j := by
  induction h generalizing i with
  | stop hpage =>
    have hlength := hperm.length_eq
    simp only [List.length_nil] at hlength
    omega
  | @next cursor p l a hpage hlast hreads ih =>
    obtain ⟨q, hq, hsorted, rfl⟩ := hpage
    have hlength := hq.length_eq
    have hparts : Descending key (q.take n ++ q.drop n) := by
      rw [List.take_append_drop]
      exact hsorted
    have hqnodup : (q.take n ++ q.drop n).Nodup := by
      rw [List.take_append_drop]
      exact hq.nodup_iff.2 (hnodup.filter _)
    obtain ⟨hn, hqpos, -⟩ := key_at_end (i := i) hq hsorted (by omega) hlast
    have ha := List.mem_of_getLast? hlast
    have hdesc' : Descending key l := (List.pairwise_append.1 hdesc).2.1
    have hrest : l.Perm (q.drop n) := by
      refine (List.perm_append_left_iff (q.take n)).1 (hperm.trans ?_)
      rw [List.take_append_drop]
      exact hq.symm
    -- the cursor does not show the last row again
    have hnot : ¬ Shows cast (key a) (key a) := by
      intro hshows
      have hmem : a ∈ shown key cast rows (key a) :=
        mem_shown.2 ⟨(mem_shown.1 (hq.mem_iff.1 (List.mem_of_mem_take ha))).1, hshows⟩
      have hagain := hreads.mem hn rfl hmem fun b hb => (List.pairwise_append.1 hdesc).2.2 a ha b hb
      exact List.disjoint_of_nodup_append hqnodup ha (hrest.mem_iff.1 hagain)
    have hpos : 0 < cast (key a) := by
      by_contra h
      exact hnot fun hpos => absurd hpos h
    have hcast : cast (key a) ≤ key a := by
      by_contra h
      exact hnot fun _ => by omega
    -- it shows what is left
    have hleft : (shown key cast rows (key a)).Perm (q.drop n) := by
      have htake : (q.take n).filter (fun b => decide (Shows cast (key a) (key b))) = [] := by
        refine List.filter_eq_nil_iff.2 fun b hb hshows => ?_
        have htaken : Descending key (q.take n) := (List.pairwise_append.1 hparts).1
        have hle := htaken.last_le hlast hb
        have hlt := of_decide_eq_true hshows hpos
        omega
      have hdrop : (q.drop n).filter (fun b => decide (Shows cast (key a) (key b))) = q.drop n := by
        refine List.filter_eq_self.2 fun b hb => decide_eq_true ?_
        exact hreads.shows hdesc' (hrest.mem_iff.2 hb)
      have hfilter : q.filter (fun b => decide (Shows cast (key a) (key b))) = q.drop n := by
        conv_lhs => rw [← List.take_append_drop n q]
        rw [List.filter_append, htake, hdrop, List.nil_append]
      have hshows := (mem_shown.1 (hq.mem_iff.1 (List.mem_of_mem_take ha))).2
      have hless : ∀ b ∈ rows, Shows cast (key a) (key b) → Shows cast cursor (key b) :=
        fun b _ h => hshows.le (by have hlt := h hpos; omega)
      rw [shown_filter hless, ← hfilter]
      exact hq.symm.filter _
    have hsize : (shown key cast rows (key a)).length = q.length - n := by
      rw [hleft.length_eq, List.length_drop]
    by_cases hlater : i + min n q.length < j
    · exact ih (i := i + n) (hrest.trans hleft.symm) hdesc' (by omega)
        (Nat.dvd_add hdvd (Nat.dvd_refl n)) (by omega)
    · have hsame : j = i + min n q.length := by
        rcases hend with hnj | hall
        · have hstep := Nat.le_of_dvd (by omega) (Nat.dvd_sub hnj hdvd)
          omega
        · omega
      rw [hsame]
      exact boundary_of_page hq hsorted (by omega) hlast hpos hsize

/-! ## Reading from boundary to boundary -/

/-- After a page that ends at a boundary, the cursor shows what is left. -/
theorem rest_of_page {q : List α} (hq : q.Perm (shown key cast rows cursor))
    (hsorted : Descending key q) {i : Nat} (hi : q.length + i = rows.length) {a : α}
    (hlast : (q.take n).getLast? = some a)
    (hend : Boundary key cast rows (i + min n q.length)) :
    (shown key cast rows (key a)).Perm (q.drop n) := by
  obtain ⟨hn, hqpos, hkey⟩ := key_at_end hq hsorted hi hlast
  obtain ⟨hpos, hcount⟩ := hend _ hkey
  have hsize : (shown key cast rows (key a)).length = rows.length - (i + min n q.length) := by
    rw [← hcount, shown, List.countP_eq_length_filter]
    simp [Shows, hpos]
  -- a cursor that showed more than the old one would show too many
  have hless : ∀ b ∈ rows, Shows cast (key a) (key b) → Shows cast cursor (key b) := by
    intro b hb hshows
    by_contra hnot
    have hmore : ∀ x ∈ rows, decide (Shows cast cursor (key x)) = true →
        decide (Shows cast (key a) (key x)) = true := by
      intro x _ hx
      have hx' := of_decide_eq_true hx
      refine decide_eq_true (hshows.le ?_)
      by_contra hlt
      exact hnot (hx'.le (by omega))
    have hle := List.countP_mono_left hmore
    rw [List.countP_eq_length_filter, List.countP_eq_length_filter] at hle
    have hlength := hq.length_eq
    unfold shown at hsize hlength
    omega
  have hperm : (shown key cast rows (key a)).Perm
      (q.filter fun b => decide (Shows cast (key a) (key b))) := by
    rw [shown_filter hless]
    exact hq.symm.filter _
  have hdrop := filter_descending (p := fun k => decide (Shows cast (key a) k)) hsorted
    fun k k' hk hle => decide_eq_true ((of_decide_eq_true hk).le hle)
  rw [List.countP_eq_length_filter, ← hperm.length_eq, hsize] at hdrop
  have hmin : q.length - (rows.length - (i + min n q.length)) = min n q.length := by omega
  rw [hmin] at hdrop
  rw [hdrop] at hperm
  rcases Nat.le_total n q.length with hle | hle
  · rwa [Nat.min_eq_left hle] at hperm
  · rw [Nat.min_eq_right hle, List.drop_length] at hperm
    rwa [List.drop_eq_nil_of_le hle]

end

/-! ## The client's loop -/

/-- Page after page until one is empty; `next` gets a page, and `fuel` is how many may be read. -/
def readPages (next : σ → Int → List β × σ) (keyOf : β → Int) : Nat → σ → Int → Option (List β)
  | 0, _, _ => none
  | fuel + 1, s, cursor =>
    match (next s cursor).1.getLast? with
    | none => some []
    | some b =>
      (readPages next keyOf fuel (next s cursor).2 (keyOf b)).map ((next s cursor).1 ++ ·)

/-- In a state with `I`, `next` gets a page of rows, shown as `f` of them. -/
def Serves (next : σ → Int → List β × σ) (f : α → β) (I : σ → Prop) : Prop :=
  ∀ s cursor, I s → ∃ p, IsPage key cast rows n cursor p ∧ (next s cursor).1 = p.map f ∧
    I (next s cursor).2

section
variable {key cast rows n} {next : σ → Int → List β × σ} {keyOf : β → Int} {f : α → β}
  {I : σ → Prop} {s : σ} {cursor : Int}

theorem readPages_of_nil {fuel : Nat} (h : (next s cursor).1 = []) :
    readPages next keyOf (fuel + 1) s cursor = some [] := by
  rw [readPages, h]
  rfl

theorem readPages_of_last {fuel : Nat} {p : List α} {a : α} (hf : ∀ a, keyOf (f a) = key a)
    (h : (next s cursor).1 = p.map f) (hlast : p.getLast? = some a) :
    readPages next keyOf (fuel + 1) s cursor =
      (readPages next keyOf fuel (next s cursor).2 (key a)).map (p.map f ++ ·) := by
  rw [readPages, h, List.getLast?_map, hlast, Option.map_some]
  simp only [hf]

/-- What the loop returns is a reading. -/
theorem reads_of_readPages (hf : ∀ a, keyOf (f a) = key a)
    (hnext : Serves key cast rows n next f I) {fuel : Nat} {bs : List β} (hs : I s)
    (h : readPages next keyOf fuel s cursor = some bs) :
    ∃ l, bs = l.map f ∧ Reads key cast rows n cursor l := by
  induction fuel generalizing s cursor bs with
  | zero => cases h
  | succ fuel ih =>
    obtain ⟨p, hpage, hp, hs'⟩ := hnext s cursor hs
    cases hlast : p.getLast? with
    | none =>
      obtain rfl := List.getLast?_eq_none_iff.1 hlast
      rw [readPages_of_nil hp] at h
      cases h
      exact ⟨[], rfl, .stop hpage⟩
    | some a =>
      rw [readPages_of_last hf hp hlast, Option.map_eq_some_iff] at h
      obtain ⟨bs', hbs', rfl⟩ := h
      obtain ⟨l, rfl, hreads⟩ := ih hs' hbs'
      exact ⟨p ++ l, List.map_append.symm, .next hpage hlast hreads⟩

/-- If every page ends at a boundary, the loop ends with what the cursor shows. -/
theorem exists_readPages (hf : ∀ a, keyOf (f a) = key a)
    (hnext : Serves key cast rows n next f I) (hn : 0 < n ∨ rows = [])
    (hends : Boundaries key cast rows n) {i : Nat} (hs : I s)
    (hi : (shown key cast rows cursor).length + i = rows.length)
    (hstart : n ∣ i ∨ i = rows.length) :
    ∃ fuel l, readPages next keyOf fuel s cursor = some (l.map f) ∧
      l.Perm (shown key cast rows cursor) ∧ Descending key l := by
  -- on the number of rows that are left
  induction hm : (shown key cast rows cursor).length using Nat.strong_induction_on
    generalizing s cursor i with
  | _ m ih =>
  obtain ⟨p, ⟨q, hq, hsorted, rfl⟩, hp, hs'⟩ := hnext s cursor hs
  have hlength := hq.length_eq
  cases hlast : (q.take n).getLast? with
  | none =>
    have hnil := List.getLast?_eq_none_iff.1 hlast
    have hempty : shown key cast rows cursor = [] := by
      rcases hn with hn | hn
      · have hq' : q = [] := (List.take_eq_nil_iff.1 hnil).resolve_left (by omega)
        rw [hq'] at hq
        exact hq.nil_eq.symm
      · rw [hn]
        rfl
    rw [hnil] at hp
    rw [hempty]
    exact ⟨1, [], readPages_of_nil hp, .refl _, List.Pairwise.nil⟩
  | some a =>
  have hqi : q.length + i = rows.length := by omega
  obtain ⟨hn', hqpos, -⟩ := key_at_end hq hsorted hqi hlast
  have hdvd : n ∣ i := hstart.resolve_right (by omega)
  have hnext' : n ∣ i + min n q.length ∨ i + min n q.length = rows.length := by
    rcases Nat.le_total n q.length with hle | hle
    · rw [Nat.min_eq_left hle]
      exact .inl (Nat.dvd_add hdvd (Nat.dvd_refl n))
    · rw [Nat.min_eq_right hle]
      exact .inr (by omega)
  have hend := hends _ (by omega) (by omega) hnext'
  have hrest := rest_of_page hq hsorted hqi hlast hend
  have hsize := hrest.length_eq
  rw [List.length_drop] at hsize
  have hparts : Descending key (q.take n ++ q.drop n) := by
    rw [List.take_append_drop]
    exact hsorted
  obtain ⟨htake, -, hcross⟩ := List.pairwise_append.1 hparts
  have hfewer : (shown key cast rows (key a)).length < m := by omega
  have hleft : (shown key cast rows (key a)).length + (i + min n q.length) = rows.length := by omega
  obtain ⟨fuel, l, hl, hperm, hdesc⟩ := ih _ hfewer hs' hleft hnext' rfl
  have hl' : l.Perm (q.drop n) := hperm.trans hrest
  refine ⟨fuel + 1, q.take n ++ l, ?_, ?_, ?_⟩
  · rw [readPages_of_last hf hp hlast, hl, List.map_append]
    rfl
  · refine (hl'.append_left _).trans ?_
    rw [List.take_append_drop]
    exact hq
  · exact List.pairwise_append.2 ⟨htake, hdesc, fun b hb c hc => hcross b hb c (hl'.mem_iff.1 hc)⟩

/-- The loop from the start returns every row once, in descending order, exactly if every page
    ends at a boundary. -/
theorem readPages_iff (hf : ∀ a, keyOf (f a) = key a) (hinj : f.Injective) (hnodup : rows.Nodup)
    (hnext : Serves key cast rows n next f I) (hn : 0 < n ∨ rows = []) (hs : I s)
    (hzero : ¬ 0 < cast 0) :
    (∃ fuel l, readPages next keyOf fuel s 0 = some (l.map f) ∧ l.Perm rows ∧ Descending key l) ↔
      Boundaries key cast rows n := by
  have hall : shown key cast rows 0 = rows := shown_all hzero
  have hlength : (shown key cast rows 0).length + 0 = rows.length := by
    rw [hall]
    rfl
  constructor
  · rintro ⟨fuel, l, hl, hperm, hdesc⟩ j hpos hj hend
    obtain ⟨l', hl', hreads⟩ := reads_of_readPages hf hnext hs hl
    obtain rfl : l = l' := List.map_injective_iff.2 hinj hl'
    have hperm' : l.Perm (shown key cast rows 0) := by
      rw [hall]
      exact hperm
    exact hreads.boundaries hnodup hperm' hdesc hlength (Nat.dvd_zero n) hpos hj hend
  · intro hends
    have hread := exists_readPages hf hnext hn hends hs hlength (.inl (Nat.dvd_zero n))
    rwa [hall] at hread

end

end ChatApp.Lib.Paging

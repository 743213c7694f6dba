/-
  Texts in a statement for MySQL: the string literal that `mysql_real_escape_string` writes and the
  server reads, and the patterns of LIKE. A pattern inside of a literal has two levels of escapes,
  and escaping takes care of the first one only (`readLiteral_escape`).

  LIKE compares character by character under a collation. `bare k` is a shortest text that the
  pattern %k% matches; `like_exact_iff` says for which `k` the pattern finds what contains `k`.
-/
import Mathlib.Data.List.Infix

namespace ChatApp.Lib.Sql

/-! ## String literals -/

def quote : Char := Char.ofNat 39

def doubleQuote : Char := Char.ofNat 34

/-- `mysql_real_escape_string` on a character -/
def escapeChar (c : Char) : List Char :=
  if c = '\x00' then ['\\', '0']
  else if c = '\n' then ['\\', 'n']
  else if c = '\r' then ['\\', 'r']
  else if c = '\x1a' then ['\\', 'Z']
  else if c = '\\' ∨ c = quote ∨ c = doubleQuote then ['\\', c]
  else [c]

def escape (s : List Char) : List Char := s.flatMap escapeChar

/-- What a backslash and a character stand for. Before % and _ the backslash stays. -/
def unescape (c : Char) : List Char :=
  if c = '0' then ['\x00']
  else if c = 'n' then ['\n']
  else if c = 'r' then ['\r']
  else if c = 'Z' then ['\x1a']
  else if c = 't' then ['\t']
  else if c = 'b' then ['\x08']
  else if c = '%' ∨ c = '_' then ['\\', c]
  else [c]

/-- The text of a literal, from behind the quote that opens it, and what follows the literal. -/
def readLiteral : List Char → Option (List Char × List Char)
  | [] => none
  | c :: s =>
    if c = quote then
      match s with
      | d :: s' =>
        if d = quote then (readLiteral s').map (Prod.map (quote :: ·) id) else some ([], s)
      | [] => some ([], [])
    else if c = '\\' then
      match s with
      | d :: s' => (readLiteral s').map (Prod.map (unescape d ++ ·) id)
      | [] => none
    else (readLiteral s).map (Prod.map (c :: ·) id)

theorem readLiteral_backslash (d : Char) (s : List Char) :
    readLiteral ('\\' :: d :: s) = (readLiteral s).map (Prod.map (unescape d ++ ·) id) := by
  rw [readLiteral, if_neg (by decide), if_pos rfl]

theorem readLiteral_cons {c : Char} (hq : c ≠ quote) (hb : c ≠ '\\') (s : List Char) :
    readLiteral (c :: s) = (readLiteral s).map (Prod.map (c :: ·) id) := by
  rw [readLiteral.eq_def]
  simp only [if_neg hq, if_neg hb]

/-- A quote that is not doubled ends the literal. -/
theorem readLiteral_quote {d : Char} (hd : d ≠ quote) (s : List Char) :
    readLiteral (quote :: d :: s) = some ([], d :: s) := by
  rw [readLiteral, if_pos rfl]
  exact if_neg hd

theorem readLiteral_escapeChar (c : Char) (s : List Char) :
    readLiteral (escapeChar c ++ s) = (readLiteral s).map (Prod.map (c :: ·) id) := by
  unfold escapeChar
  split
  next h => rw [h]; exact readLiteral_backslash _ _
  split
  next h => rw [h]; exact readLiteral_backslash _ _
  split
  next h => rw [h]; exact readLiteral_backslash _ _
  split
  next h => rw [h]; exact readLiteral_backslash _ _
  split
  next h =>
    rcases h with rfl | rfl | rfl
    · exact readLiteral_backslash _ _
    · exact readLiteral_backslash _ _
    · exact readLiteral_backslash _ _
  next h => exact readLiteral_cons (fun hq => h (.inr (.inl hq))) (fun hb => h (.inl hb)) s

/-- An escaped text is read back. -/
theorem readLiteral_escape (k s : List Char) :
    readLiteral (escape k ++ s) = (readLiteral s).map (Prod.map (k ++ ·) id) := by
  induction k with
  | nil =>
    cases h : readLiteral s with
    | none => exact h
    | some r => exact h
  | cons c k ih =>
    have hcons : escape (c :: k) ++ s = escapeChar c ++ (escape k ++ s) := by
      simp [escape]
    rw [hcons, readLiteral_escapeChar, ih, Option.map_map]
    rfl

/-! ## Patterns -/

section
variable (same : Char → Char → Bool)

/-- `pattern` matches the whole of the text; `same` compares a character of the pattern with one of
    the text. A backslash at the end stands for itself. -/
def like : List Char → List Char → Bool
  | [], t => t.isEmpty
  | '%' :: p, t => t.tails.any (like p)
  | '_' :: p, t =>
    match t with
    | _ :: t => like p t
    | [] => false
  | '\\' :: c :: p, t =>
    match t with
    | x :: t => same c x && like p t
    | [] => false
  | c :: p, t =>
    match t with
    | x :: t => same c x && like p t
    | [] => false

def startsWith : List Char → List Char → Bool
  | [], _ => true
  | _ :: _, [] => false
  | c :: k, x :: t => same c x && startsWith k t

def contains (k t : List Char) : Bool := t.tails.any (startsWith same k)

end

-- the equations are made here, before the proofs that rewrite with them
attribute [local grind =] like

/-- No character of it means anything to LIKE. -/
def Plain (k : List Char) : Prop := ∀ c ∈ k, c ≠ '%' ∧ c ≠ '_' ∧ c ≠ '\\'

instance (k : List Char) : Decidable (Plain k) :=
  inferInstanceAs (Decidable (∀ c ∈ k, c ≠ '%' ∧ c ≠ '_' ∧ c ≠ '\\'))

/-- A shortest text that matches `k` with a % behind it. -/
def bare : List Char → List Char
  | [] => []
  | '%' :: k => bare k
  | '_' :: k => 'a' :: bare k
  | '\\' :: c :: k => c :: bare k
  -- it takes the % behind it for a character
  | ['\\'] => ['%']
  | c :: k => c :: bare k

variable {same : Char → Char → Bool} {k t : List Char} {c : Char}

theorem like_plain_cons (h : c ≠ '%' ∧ c ≠ '_' ∧ c ≠ '\\') (p : List Char) (x : Char)
    (t : List Char) : like same (c :: p) (x :: t) = (same c x && like same p t) := by
  obtain ⟨hp, hu, hb⟩ := h
  rw [like.eq_def]
  split
  next he => cases he
  next he => exact absurd (List.cons.inj he).1 hp
  next he => exact absurd (List.cons.inj he).1 hu
  next he => exact absurd (List.cons.inj he).1 hb
  next he =>
    obtain ⟨rfl, rfl⟩ := List.cons.inj he
    rfl

theorem like_plain_nil (h : c ≠ '%' ∧ c ≠ '_' ∧ c ≠ '\\') (p : List Char) :
    like same (c :: p) [] = false := by
  obtain ⟨hp, hu, hb⟩ := h
  rw [like.eq_def]
  split
  next he => cases he
  next he => exact absurd (List.cons.inj he).1 hp
  next he => exact absurd (List.cons.inj he).1 hu
  next he => exact absurd (List.cons.inj he).1 hb
  next he => rfl

theorem like_percent_cons {p : List Char} :
    like same ('%' :: p) t = true ↔ ∃ s, s <:+ t ∧ like same p s = true := by
  rw [like, List.any_eq_true]
  simp [List.mem_tails]

theorem contains_iff : contains same k t = true ↔ ∃ s, s <:+ t ∧ startsWith same k s = true := by
  rw [contains, List.any_eq_true]
  simp [List.mem_tails]

theorem like_percent : like same ['%'] t = true :=
  like_percent_cons.2 ⟨[], List.nil_suffix, rfl⟩

theorem like_plain (hk : Plain k) : like same (k ++ ['%']) t = startsWith same k t := by
  induction k generalizing t with
  | nil =>
    rw [startsWith]
    exact like_percent
  | cons c k ih =>
    obtain ⟨hc, hk⟩ := List.forall_mem_cons.1 hk
    cases t with
    | nil => exact like_plain_nil hc _
    | cons x t =>
      rw [startsWith, ← ih hk]
      exact like_plain_cons hc _ x t

/-- A keyword without special characters is looked for. -/
theorem like_contains (hk : Plain k) :
    like same ('%' :: (k ++ ['%'])) t = contains same k t := by
  rw [Bool.eq_iff_iff, like_percent_cons, contains_iff]
  simp only [like_plain hk]

/-! ## The shortest match -/

/-- What is left for the last branch of `bare` -/
theorem plain_of_else (hp : c ≠ '%') (hu : c ≠ '_')
    (hb : ∀ d s, c = '\\' → k = d :: s → False) (he : c = '\\' → k = [] → False) :
    c ≠ '%' ∧ c ≠ '_' ∧ c ≠ '\\' := by
  refine ⟨hp, hu, fun h => ?_⟩
  cases k with
  | nil => exact he h rfl
  | cons d k => exact hb d k h rfl

theorem like_bare (hrefl : ∀ c, same c c = true) : like same (k ++ ['%']) (bare k) = true := by
  fun_induction bare k with
  | case1 => exact like_percent
  | case2 k ih => exact like_percent_cons.2 ⟨_, List.suffix_refl _, ih⟩
  | case3 k ih => exact ih
  | case4 c k ih =>
    change (same c c && like same (k ++ ['%']) (bare k)) = true
    rw [hrefl, ih]
    rfl
  | case5 =>
    change (same '%' '%' && true) = true
    rw [hrefl]
    rfl
  | case6 c k hp hu hb he ih =>
    rw [List.cons_append, like_plain_cons (plain_of_else hp hu hb he), hrefl, ih]
    rfl

theorem bare_length (k : List Char) : (bare k).length ≤ k.length := by
  fun_induction bare k with
  | case1 => exact Nat.le_refl _
  | case2 k ih => exact Nat.le_succ_of_le ih
  | case3 k ih => exact Nat.succ_le_succ ih
  | case4 c k ih => exact Nat.le_succ_of_le (Nat.succ_le_succ ih)
  | case5 => exact Nat.le_refl _
  | case6 c k hp hu hb he ih => exact Nat.succ_le_succ ih

/-- A pattern that does not begin with % takes a character of the text. -/
theorem like_cons {p : List Char} (hp : c ≠ '%') (h : like same (c :: p) t = true) :
    ∃ x s, t = x :: s := by
  cases t with
  | cons x s => exact ⟨x, s, rfl⟩
  | nil =>
    rw [like.eq_def] at h
    split at h
    next he => cases he
    next he => exact absurd (List.cons.inj he).1 hp
    next => cases h
    next => cases h
    next => cases h

theorem length_of_like (h : like same (k ++ ['%']) t = true) : (bare k).length ≤ t.length := by
  fun_induction bare k generalizing t with
  | case1 => exact Nat.zero_le _
  | case2 k ih =>
    obtain ⟨s, hs, hlike⟩ := like_percent_cons.1 h
    exact Nat.le_trans (ih hlike) hs.length_le
  | case3 k ih =>
    obtain ⟨x, s, rfl⟩ := like_cons (by decide) h
    exact Nat.succ_le_succ (ih h)
  | case4 c k ih =>
    obtain ⟨x, s, rfl⟩ := like_cons (by decide) h
    have hand : (same c x && like same (k ++ ['%']) s) = true := h
    exact Nat.succ_le_succ (ih ((Bool.and_eq_true _ _).mp hand).2)
  | case5 =>
    obtain ⟨x, s, rfl⟩ := like_cons (by decide) h
    exact Nat.succ_le_succ (Nat.zero_le _)
  | case6 c k hp hu hb he ih =>
    have hplain : c ≠ '%' ∧ c ≠ '_' ∧ c ≠ '\\' := plain_of_else hp hu hb he
    obtain ⟨x, s, rfl⟩ := like_cons hplain.1 h
    rw [List.cons_append, like_plain_cons hplain, Bool.and_eq_true] at h
    exact Nat.succ_le_succ (ih h.2)

theorem length_of_startsWith (h : startsWith same k t = true) : k.length ≤ t.length := by
  fun_induction startsWith same k t with
  | case1 t => exact Nat.zero_le _
  | case2 c k => cases h
  | case3 c k x t ih =>
    rw [Bool.and_eq_true] at h
    exact Nat.succ_le_succ (ih h.2)

theorem plain_of_startsWith (h₁ : same '_' 'a' = false) (h₂ : same '\\' '%' = false)
    (h : startsWith same k (bare k) = true) : Plain k := by
  fun_induction bare k with
  | case1 => exact List.forall_mem_nil _
  | case2 k ih =>
    have hlong : k.length + 1 ≤ (bare k).length := length_of_startsWith h
    have hshort := bare_length k
    omega
  | case3 k ih =>
    rw [startsWith, h₁] at h
    cases h
  | case4 c k ih =>
    have hlong : k.length + 2 ≤ (bare k).length + 1 := length_of_startsWith h
    have hshort := bare_length k
    omega
  | case5 =>
    rw [startsWith, h₂] at h
    cases h
  | case6 c k hp hu hb he ih =>
    rw [startsWith, Bool.and_eq_true] at h
    exact List.forall_mem_cons.2 ⟨plain_of_else hp hu hb he, ih h.2⟩

/-- A text that contains `k` is no shorter than `k`, so that its shortest match is all of it. -/
theorem plain_of_contains (h₁ : same '_' 'a' = false) (h₂ : same '\\' '%' = false)
    (h : contains same k (bare k) = true) : Plain k := by
  obtain ⟨s, hs, hstart⟩ := contains_iff.1 h
  have hlength : (bare k).length ≤ s.length :=
    Nat.le_trans (bare_length k) (length_of_startsWith hstart)
  rw [hs.eq_of_length_le hlength] at hstart
  exact plain_of_startsWith h₁ h₂ hstart

/-- Among the texts of at most `n` characters, the pattern %k% finds those that contain `k` just
    if `k` has no special characters, or no text is long enough for the pattern. -/
theorem like_exact_iff (hrefl : ∀ c, same c c = true) (h₁ : same '_' 'a' = false)
    (h₂ : same '\\' '%' = false) (n : ℕ) :
    (∀ t, t.length ≤ n → like same ('%' :: (k ++ ['%'])) t = contains same k t) ↔
      Plain k ∨ n < (bare k).length := by
  constructor
  · intro h
    by_cases hn : n < (bare k).length
    · exact .inr hn
    refine .inl (plain_of_contains h₁ h₂ ?_)
    rw [← h (bare k) (Nat.not_lt.1 hn)]
    exact like_percent_cons.2 ⟨_, List.suffix_refl _, like_bare hrefl⟩
  · rintro (hk | hn) t ht
    · exact like_contains hk
    have hlike : like same ('%' :: (k ++ ['%'])) t ≠ true := by
      intro h
      obtain ⟨s, hs, hlike⟩ := like_percent_cons.1 h
      have := length_of_like hlike
      have := hs.length_le
      omega
    have hcontains : contains same k t ≠ true := by
      intro h
      obtain ⟨s, hs, hstart⟩ := contains_iff.1 h
      have := length_of_startsWith hstart
      have := hs.length_le
      have := bare_length k
      omega
    rw [Bool.not_eq_true _ |>.mp hlike, Bool.not_eq_true _ |>.mp hcontains]

end ChatApp.Lib.Sql

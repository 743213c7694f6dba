/-
  `search_users`. The keyword stands in the statement as %keyword% in a string literal, which the
  server reads back as a text and LIKE then takes for a pattern. `escape_string` escapes for the
  first reading only: %, _ and the backslash keep their meaning in the pattern.

  A SELECT without ORDER BY gives its rows in any order. The two names of a row have at most 64
  characters, which matters for the keywords that no name is long enough for.
-/
import ChatApp.Lib.Sql
import ChatApp.Users.Store

namespace ChatApp.Users

open ChatApp.Lib ChatApp.Database

/-- What a search takes from the server: which characters the collation of the columns holds for
    the same, and the order of the rows. -/
structure Search where
  same : Char → Char → Bool
  same_refl : ∀ c, same c c = true
  same_underscore : same '_' 'a' = false
  same_backslash : same '\\' '%' = false
  order : List UserRow → List UserRow
  order_perm : ∀ rows, (order rows).Perm rows

/-- The table with the widths of `username` and `nickname`, VARCHAR(64). -/
structure WideUserDb (fold : String → String) extends UserDb fold where
  widths : ∀ r ∈ users.rows, r.info.username.length ≤ 64 ∧ r.info.nickname.length ≤ 64

/-! ## The statement -/

def likeText (keyword : String) : List Char :=
  Sql.quote :: '%' :: (Sql.escape keyword.toList ++ ['%', Sql.quote])

/-- What `search_users` writes, from WHERE on. -/
def searchText (keyword : String) (limit : Int) : List Char :=
  "WHERE username LIKE ".toList ++ (likeText keyword ++ (" OR nickname LIKE ".toList ++
    (likeText keyword ++ (" LIMIT ".toList ++ (toString limit).toList))))

/-- The pattern of a comparison, and what follows it. -/
def readLike (words : String) (text : List Char) : Option (List Char × List Char) :=
  (text.dropPrefix? (words.toList ++ [Sql.quote])).bind Sql.readLiteral

/-- The patterns for `username` and `nickname`. -/
def readSearch (text : List Char) : Option (List Char × List Char) := do
  let (username, text) ← readLike "WHERE username LIKE " text
  let (nickname, _) ← readLike " OR nickname LIKE " text
  return (username, nickname)

namespace Search

variable {fold : String → String}

/-- The condition of the statement on a row. -/
def finds (S : Search) (patterns : List Char × List Char) (r : UserRow) : Bool :=
  Sql.like S.same patterns.1 r.info.username.toList ||
    Sql.like S.same patterns.2 r.info.nickname.toList

/-- A negative limit is a syntax error. -/
def exec (S : Search) : Exec (WideUserDb fold)
  | db, .users (.search keyword limit) =>
    if limit < 0 then none
    else (readSearch (searchText keyword limit)).map fun patterns =>
      (db, ((S.order (db.users.rows.filter (S.finds patterns))).take limit.toNat).map fun r =>
        Tables.userRow r.info, 0)
  | _, _ => none

/-- The username or the nickname contains the keyword. -/
def holds (S : Search) (keyword : String) (r : UserRow) : Bool :=
  Sql.contains S.same keyword.toList r.info.username.toList ||
    Sql.contains S.same keyword.toList r.info.nickname.toList

/-- The users that a search for `keyword` is for. -/
def wanted (S : Search) (keyword : String) (db : WideUserDb fold) : List UserInfo :=
  (db.users.rows.filter (S.holds keyword)).map UserRow.info

/-! ## What comes back -/

/-- A comparison is read as the pattern %keyword%, whatever the keyword is. -/
theorem readLike_likeText (words keyword : String) {d : Char} (hd : d ≠ Sql.quote)
    (s : List Char) :
    readLike words (words.toList ++ (likeText keyword ++ d :: s)) =
      some ('%' :: (keyword.toList ++ ['%']), d :: s) := by
  have hdrop : (words.toList ++ (likeText keyword ++ d :: s)).dropPrefix?
      (words.toList ++ [Sql.quote]) =
        some ('%' :: (Sql.escape keyword.toList ++ ('%' :: Sql.quote :: d :: s))) := by
    have happend : words.toList ++ (likeText keyword ++ d :: s) = (words.toList ++ [Sql.quote]) ++
        ('%' :: (Sql.escape keyword.toList ++ ('%' :: Sql.quote :: d :: s))) := by
      simp [likeText]
    rw [happend]
    exact List.dropPrefix?_append_of_beq _ (beq_self_eq_true _)
  rw [readLike, hdrop, Option.bind_some, Sql.readLiteral_cons (by decide) (by decide),
    Sql.readLiteral_escape, Sql.readLiteral_cons (by decide) (by decide), Sql.readLiteral_quote hd]
  rfl

theorem readSearch_searchText (keyword : String) (limit : Int) :
    readSearch (searchText keyword limit) =
      some ('%' :: (keyword.toList ++ ['%']), '%' :: (keyword.toList ++ ['%'])) := by
  have hname : readLike "WHERE username LIKE " (searchText keyword limit) =
      some ('%' :: (keyword.toList ++ ['%']), " OR nickname LIKE ".toList ++
        (likeText keyword ++ (" LIMIT ".toList ++ (toString limit).toList))) :=
    readLike_likeText _ _ (by decide) _
  have hnick : readLike " OR nickname LIKE " (" OR nickname LIKE ".toList ++
      (likeText keyword ++ (" LIMIT ".toList ++ (toString limit).toList))) =
        some ('%' :: (keyword.toList ++ ['%']), " LIMIT ".toList ++ (toString limit).toList) :=
    readLike_likeText _ _ (by decide) _
  simp only [readSearch, hname, Option.bind_eq_bind, Option.bind_some, hnick, Option.pure_def]

/-- The rows that the patterns find -/
def found (S : Search) (keyword : String) (db : WideUserDb fold) : List UserRow :=
  db.users.rows.filter
    (S.finds ('%' :: (keyword.toList ++ ['%']), '%' :: (keyword.toList ++ ['%'])))

variable {S : Search} {keyword : String} {limit : Int} {m : Moment} {db : WideUserDb fold}

theorem searchUsers_eq (hm : m.through 0 = true) (hlimit : 0 ≤ limit) :
    (atomically S.exec m (searchUsers keyword limit) db).1 =
      ((S.order (S.found keyword db)).take limit.toNat).map UserRow.info := by
  have hexec : S.exec db (.users (.search keyword limit)) = some (db,
      ((S.order (S.found keyword db)).take limit.toNat).map fun r => Tables.userRow r.info, 0) := by
    rw [exec, if_neg (Int.not_lt.2 hlimit), readSearch_searchText]
    rfl
  have hrun := atomically_select (m := m) (fun result => (result.getD []).map Row.user) rfl hexec
  rw [searchUsers, hrun, if_pos hm, Option.getD_some, List.map_map]
  exact List.map_congr_left fun r _ => Tables.user_userRow r.info

/-- If pattern and keyword agree on the names, the search gives what is wanted. -/
theorem searchUsers_of_agree (hagree : ∀ r ∈ db.users.rows,
      S.finds ('%' :: (keyword.toList ++ ['%']), '%' :: (keyword.toList ++ ['%'])) r =
        S.holds keyword r)
    (hm : m.through 0 = true) (hlimit : ((S.wanted keyword db).length : Int) ≤ limit) :
    (atomically S.exec m (searchUsers keyword limit) db).1.Perm (S.wanted keyword db) := by
  have hfound : S.found keyword db = db.users.rows.filter (S.holds keyword) :=
    List.filter_congr hagree
  have hperm : (S.order (S.found keyword db)).Perm (db.users.rows.filter (S.holds keyword)) := by
    rw [← hfound]
    exact S.order_perm _
  have hlength : (S.order (S.found keyword db)).length ≤ limit.toNat := by
    rw [wanted, List.length_map] at hlimit
    rw [hperm.length_eq]
    omega
  rw [searchUsers_eq hm (by omega), List.take_of_length_le hlength]
  exact hperm.map _

/-- The table of one user whose two names are `t`. -/
def namedTwice (fold : String → String) (t : List Char) (ht : t.length ≤ 64) : WideUserDb fold where
  users :=
    { rows := [⟨⟨1, String.ofList t, String.ofList t, "", "", .offline, 0, 0⟩, ""⟩]
      unique := List.nodup_singleton _
      next := 2
      below := by
        intro r hr
        rw [List.mem_singleton.1 hr]
        exact Nat.one_lt_two }
  names := List.nodup_singleton _
  widths := by
    intro r hr
    rw [List.mem_singleton.1 hr]
    have hlength : (String.ofList t).length ≤ 64 := by
      rw [String.length_ofList]
      exact ht
    exact ⟨hlength, hlength⟩

/-- His row is found just if it is wanted. -/
theorem agree_of_searchUsers {t : List Char} (ht : t.length ≤ 64) (hm : m.through 0 = true)
    (h : (atomically S.exec m (searchUsers keyword 1) (namedTwice fold t ht)).1.Perm
      (S.wanted keyword (namedTwice fold t ht))) :
    Sql.like S.same ('%' :: (keyword.toList ++ ['%'])) t =
      Sql.contains S.same keyword.toList t := by
  rw [searchUsers_eq hm (by decide)] at h
  have hlength := h.length_eq
  have hfound := (S.order_perm (S.found keyword (namedTwice fold t ht))).length_eq
  simp only [List.length_map, List.length_take, hfound, wanted] at hlength
  simp only [found, namedTwice, List.filter_singleton, finds, holds, String.toList_ofList,
    Bool.or_self] at hlength
  cases hlike : Sql.like S.same ('%' :: (keyword.toList ++ ['%'])) t <;>
    cases hcontains : Sql.contains S.same keyword.toList t <;>
    simp [hlike, hcontains] at hlength ⊢

/-- A search finds the users whose names contain the keyword, in every table, just for a keyword
    without %, _ and backslash, and for one whose pattern is too long for any name. -/
theorem searchUsers_exact_iff (S : Search) (fold : String → String) (keyword : String) :
    (∀ (db : WideUserDb fold) (limit : Int) (m : Moment), m.through 0 = true →
      ((S.wanted keyword db).length : Int) ≤ limit →
      (atomically S.exec m (searchUsers keyword limit) db).1.Perm (S.wanted keyword db)) ↔
    Sql.Plain keyword.toList ∨ 64 < (Sql.bare keyword.toList).length := by
  rw [← Sql.like_exact_iff S.same_refl S.same_underscore S.same_backslash]
  constructor
  · intro h t ht
    refine agree_of_searchUsers (m := ⟨0, true, fun _ => true⟩) ht rfl (h _ 1 _ rfl ?_)
    rw [wanted, List.length_map]
    exact Int.ofNat_le.2 (List.length_filter_le _ _)
  · intro h db limit m hm hlimit
    refine searchUsers_of_agree (fun r hr => ?_) hm hlimit
    obtain ⟨hname, hnick⟩ := db.widths r hr
    rw [← String.length_toList] at hname hnick
    rw [finds, holds, h _ hname, h _ hnick]

/-- Equality of letters up to their case -/
def caseless : Search where
  same c d := c.toLower == d.toLower
  same_refl _ := beq_self_eq_true _
  same_underscore := by decide
  same_backslash := by decide
  order rows := rows
  order_perm _ := List.Perm.refl _

/-- A search for an underscore finds a user without one. -/
theorem underscore_found : ∃ (db : WideUserDb id) (m : Moment), m.through 0 = true ∧
    ((caseless.wanted "_" db).length : Int) ≤ 20 ∧
    ¬ (atomically caseless.exec m (searchUsers "_" 20) db).1.Perm (caseless.wanted "_" db) := by
  refine ⟨namedTwice id "alice".toList (by decide), ⟨0, true, fun _ => true⟩, rfl, by decide, ?_⟩
  intro h
  exact absurd h.length_eq (by decide)

end Search

end ChatApp.Users

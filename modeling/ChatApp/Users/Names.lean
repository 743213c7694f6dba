/-
  Names and ids when registrations, logins and profile updates run at the same time. The check of
  `register_user` decides nothing: the INSERT is refused when the name is taken, and a refused
  INSERT is no success. A row keeps its id and its name, so that the id a registration returns
  stays the id of the name.
-/
import ChatApp.Users.Effects

namespace ChatApp.Users

open ChatApp.Lib ChatApp.Database ChatApp.Session

variable {fold : String → String}

/-! ## What every call keeps -/

/-- Row `u` has the name `n`. -/
def UserDb.HasName (db : UserDb fold) (u : Nat) (n : String) : Prop :=
  ∃ r, db.users.find? u = some r ∧ r.username = n

section
variable {x : Occasion} {db db' : UserDb fold} {n p k : String} {u v : Nat}

/-- A row keeps its name. -/
theorem hasName_reply (c : MethodCall userMethods) (h : db.HasName v n) :
    (reply x db c).2.HasName v n := by
  obtain ⟨r, hr, hn⟩ := h
  obtain ⟨r', hr', hstep⟩ := rowStep x c hr
  refine ⟨r', hr', ?_⟩
  cases hstep <;> exact hn

/-- An INSERT that succeeds makes a row with a name that was free. -/
theorem created (h : (reply x db (.method (.createUser n p k))).1 = some v) :
    db.named n = none ∧ (reply x db (.method (.createUser n p k))).2.HasName v n := by
  rw [reply_createUser] at h ⊢
  cases hins : (if Reaches x then db.insertUser n p k x.moment.now else none) with
  | none =>
    rw [hins] at h
    cases h
  | some db' =>
    rw [hins] at h
    have hv : db.users.next = v := Option.some.inj h
    have hdb' := (Option.ite_none_right_eq_some.1 hins).2
    constructor
    · by_contra hnamed
      rw [UserDb.insertUser_eq_none.2 hnamed] at hdb'
      cases hdb'
    · exact ⟨_, by rw [UserDb.find?_insertUser hdb', if_pos hv.symm], rfl⟩

theorem UserDb.HasName.named_ne_none {n' : String} (h : db.HasName v n) (hn : fold n = fold n') :
    db.named n' ≠ none := by
  obtain ⟨r, hr, rfl⟩ := h
  exact fun hnone => UserDb.named_eq_none.1 hnone r (UniqueTable.mem_of_find? hr).1 hn

end

/-! ## What a registration returns -/

/-- The result of a registration is the answer of its INSERT. -/
def lastOfRegister : (op : UserTask) → Except Stop op.Result → Option UserCall → Prop
  | .register n p k, r, last => ∀ v, r = .ok (.ok v) →
    ∃ hash, last = some ⟨.register n p k, .method (.createUser n hash k), some v⟩
  | _, _, _ => True

theorem lastOfRegister_kept :
    (Contract.ofLast lastOfRegister : UserContract _).KeptBy UserTask.body := by
  intro op
  cases op with
  | register n p k =>
    have hstop : ∀ (stop : Stop) (last : Option UserCall),
        lastOfRegister (.register n p k) (.error stop) last := fun _ _ _ h => by cases h
    have hrefused : ∀ (message : String) (last : Option UserCall),
        lastOfRegister (.register n p k) (.ok (.error message)) last := fun _ _ _ h => by cases h
    refine Methods.keeps_bind (Q := fun _ _ => True) (Methods.keeps_call trivial fun _ => trivial)
      (fun existing _ _ => ?_) fun stop last _ => hstop stop last
    refine Methods.keeps_ite (fun _ => Methods.keeps_pure (hrefused _ _)) fun _ => ?_
    refine Methods.keeps_bind (Q := fun _ _ => True)
      (Prog.follows_of_forall (fun _ _ => trivial) fun _ _ => trivial) (fun hash _ _ => ?_)
      fun stop last _ => hstop stop last
    refine Methods.keeps_bind (Q := fun r last => ∀ userId, r = .ok userId →
      last = some ⟨.register n p k, .method (.createUser n hash k), userId⟩) ?_
      (fun userId last hlast => ?_) fun stop last _ => hstop stop last
    · refine Methods.keeps_call trivial fun userId userId' h => ?_
      cases h
      rfl
    · cases userId with
      | none => exact Methods.keeps_pure (hrefused _ _)
      | some userId =>
        refine Methods.keeps_pure fun v h => ⟨hash, ?_⟩
        cases h
        exact hlast _ rfl
  | _ => exact Prog.follows_of_forall (fun _ _ => trivial) fun _ _ => trivial

/-! ## Every interleaving -/

section
variable {θ : Type} [DecidableEq θ] {db₀ s : UserDb fold} {l l' : List (UserEvent fold θ)}
  {G : UserTask → UserDb fold → MethodCall userMethods → Occasion → Prop} {t u : θ}
  {op op' : UserTask} {b b' d d' : UserDb fold} {n n' p p' k k' : String} {v v' : Nat}

/-- The row of an INSERT that succeeded keeps its name. -/
theorem hasName_of_created
    (hj : Journal (Contract.ofLast lastOfRegister : UserContract _) reply G db₀
      (l' ++ .call t op b (.method (.createUser n p k)) (some v) b' :: l) s) : s.HasName v n := by
  obtain ⟨s', hl, hJ⟩ := hj.append_invariant (J := (·.HasName v n)) fun _ _ c _ h _ =>
    hasName_reply c h
  obtain ⟨rfl, -, -, x, -, hreply⟩ := hl.call_inv
  have hcreated := created (x := x) (congrArg Prod.fst hreply)
  rw [hreply] at hcreated
  exact hJ hcreated.2

/-- A name is given once. -/
theorem created_once
    (hj : Journal (Contract.ofLast lastOfRegister : UserContract _) reply G db₀
      (l' ++ .call t op b (.method (.createUser n p k)) (some v) b' :: l) s)
    (hmem : .call u op' d (.method (.createUser n' p' k')) (some v') d' ∈ l) :
    fold n ≠ fold n' := by
  intro hn
  obtain ⟨s', hl⟩ := hj.of_append
  obtain ⟨-, hl, -, x, -, hreply⟩ := hl.call_inv
  have hfree := (created (x := x) (congrArg Prod.fst hreply)).1
  obtain ⟨l₁, l₂, rfl⟩ := List.append_of_mem hmem
  exact (hasName_of_created hl).named_ne_none hn.symm hfree

end

/-- Names and ids of registrations: a name has one row, one registration of it at most returns
    true, and the id that it returns is that of the row with the name. -/
structure NamesOwned {θ : Type} (w : UserWorkers fold θ) : Prop where
  unique : ∀ r ∈ w.state.users.rows, ∀ r' ∈ w.state.users.rows,
    fold r.username = fold r'.username → r = r'
  once : ∀ l₁ t n p k v l₂ t' n' p' k' v',
    w.log = l₁ ++ .ret t (.register n p k) (.ok (.ok v)) :: l₂ →
      .ret t' (.register n' p' k') (.ok (.ok v')) ∈ l₂ → fold n ≠ fold n'
  kept : ∀ t n p k v, .ret t (.register n p k) (.ok (.ok v)) ∈ w.log → w.state.HasName v n

theorem namesOwned {θ : Type} [DecidableEq θ] (db : UserDb fold)
    {ls : List (WorkerStep θ UserTask Occasion)} {w : UserWorkers fold θ}
    (h : Run (Workers.step UserTask.body reply) anyStep (Workers.init db) ls w) : NamesOwned w := by
  have hj := Workers.journal_any lastOfRegister_kept h
  -- the INSERT behind a return
  have hinsert : ∀ (l₁ l₂ : List (UserEvent fold θ)) (t : θ) (n p k : String) (v : Nat),
      w.log = l₁ ++ .ret t (.register n p k) (.ok (.ok v)) :: l₂ → ∃ hash b b',
        LastCall t l₂ (.register n p k) b (MethodCall.method (.createUser n hash k)) (some v)
          b' := by
    intro l₁ l₂ t n p k v hlog
    rw [hlog] at hj
    obtain ⟨hash, hphase⟩ := hj.ret_done v rfl
    obtain ⟨b, b', hlast⟩ := lastCall_of_phase hphase
    exact ⟨hash, b, b', hlast⟩
  refine ⟨fun r hr r' hr' hn => List.inj_on_of_nodup_map w.state.names hr hr' hn,
    fun l₁ t n p k v l₂ t' n' p' k' v' hlog hmem => ?_, fun t n p k v hmem => ?_⟩
  · obtain ⟨hash, b, b', hlast⟩ := hinsert _ _ _ _ _ _ _ hlog
    obtain ⟨l₃, l₄, rfl⟩ := List.append_of_mem hmem
    have hlog' : w.log = (l₁ ++ .ret t (.register n p k) (.ok (.ok v)) :: l₃) ++
        .ret t' (.register n' p' k') (.ok (.ok v')) :: l₄ := by
      simpa using hlog
    obtain ⟨hash', d, d', hlast'⟩ := hinsert _ _ _ _ _ _ _ hlog'
    have hlog'' : w.log = (l₁ ++ [.ret t (.register n p k) (.ok (.ok v))]) ++
        (l₃ ++ .ret t' (.register n' p' k') (.ok (.ok v')) :: l₄) := by
      simpa using hlog
    rw [hlog''] at hj
    obtain ⟨s, hj⟩ := hj.of_append
    rcases hlast.apart hlast' with ⟨m, m', hm, hin⟩ | ⟨m, m', hm, hin⟩
    · rw [hm] at hj
      exact created_once hj hin
    · rw [hm] at hj
      exact (created_once hj hin).symm
  · obtain ⟨l₁, l₂, hlog⟩ := List.append_of_mem hmem
    obtain ⟨hash, b, b', m, m', rfl, -⟩ := hinsert _ _ _ _ _ _ _ hlog
    have hlog' : w.log = (l₁ ++ .ret t (.register n p k) (.ok (.ok v)) :: m) ++
        .call t (.register n p k) b (MethodCall.method (.createUser n hash k)) (some v)
          b' :: m' := by
      simpa using hlog
    rw [hlog'] at hj
    exact hasName_of_created hj

/-- A table without users. -/
def UserDb.empty (fold : String → String) : UserDb fold :=
  ⟨⟨.empty, 1, fun _ h => by cases h⟩, List.nodup_nil⟩

/-- Hashes that show the password. -/
def plainHashes : (c : Session.Call) → c.Answer
  | .hashPassword password => some ("$argon2id$v=19$" ++ password)
  | .verifyPassword password hash =>
    decide (hash = if UserManager.isArgon2Hash hash then "$argon2id$v=19$" ++ password
      else "sha256$" ++ password)
  | _ => default

/-- Every statement gets through. -/
def calmly : Occasion := ⟨⟨0, true, fun _ => true⟩, plainHashes⟩

/-- Two registrations of one name that both find it free. -/
theorem namesOwned_two : ∃ w : UserWorkers id Bool,
    w.state.users.rows.length = 1 ∧ NamesOwned w := by
  have hrun : ((exec (Workers.step UserTask.body reply)
      (Workers.init (.empty id) : UserWorkers id Bool)
      [.start false (.register "ann" "secret" "Ann"), .start true (.register "ann" "other" "Ann"),
        .call false calmly, .call true calmly, .call false calmly, .call true calmly,
        .call true calmly, .call false calmly, .finish false, .finish true]).map
          fun w => w.state.users.rows.length) = some 1 := by
    decide
  obtain ⟨w, hw, hrows⟩ := Option.map_eq_some_iff.1 hrun
  exact ⟨w, hrows, namesOwned (.empty id) (exec_run hw)⟩

end ChatApp.Users

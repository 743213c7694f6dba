/-
  Passwords when logins and password changes run at the same time. A login that finds an old hash
  verifies it, hashes the password again and writes the new hash (`upgrade`). If the password was
  changed in between, the write brings the old one back.

  As long as no login overwrites a hash that its password does not verify (`upgradesFresh`), a
  password that was changed stays revoked until a later change sets it again.
-/
import ChatApp.Users.Names

namespace ChatApp.Users

open ChatApp.Lib ChatApp.Database ChatApp.Session

variable {fold : String → String}

/-! ## Hashing -/

/-- The functions of libsodium and OpenSSL: `pwhashStr password hash` says that `crypto_pwhash_str`
    may make this hash, and the digest is in hexadecimal. -/
structure Crypto where
  pwhashStr : String → String → Prop
  pwhashStrVerify : String → String → Bool
  sha256 : String → String

namespace Crypto

variable (lib : Crypto)

def verifyPassword (password hash : String) : Bool :=
  if UserManager.isArgon2Hash hash then lib.pwhashStrVerify hash password
  else decide (lib.sha256 password = hash)

/-- A hash, new or old, verifies exactly the password it was made from. -/
structure Exact : Prop where
  pwhashStr : ∀ {password hash}, lib.pwhashStr password hash →
    ∀ p, lib.verifyPassword p hash = true ↔ p = password
  sha256 : ∀ password p, lib.verifyPassword p (lib.sha256 password) = true ↔ p = password

/-- `hash_password` and `verify_password` use the library. -/
structure Answers (x : Occasion) : Prop where
  hash : ∀ {password hash}, x.outside (.hashPassword password) = some hash →
    lib.pwhashStr password hash
  verify : ∀ password hash,
    x.outside (.verifyPassword password hash) = lib.verifyPassword password hash

end Crypto

/-! ## Who writes a password -/

/-- The new hash of a change is made from the new password, that of a login from the password of
    the login. -/
def Rehashes : UserTask → List UserCall → MethodCall userMethods → Prop
  | op, calls, .method (.updateUserPassword u hash) =>
    (∃ old new, op = .updatePassword u old new ∧
      ⟨op, .outside (.hashPassword new), some hash⟩ ∈ calls) ∨
    ∃ username password, op = .login username password ∧
      ⟨op, .outside (.hashPassword password), some hash⟩ ∈ calls
  | _, _, _ => True

/-- A change that returns true has read the row, and its last call has written the password. -/
def changedLast : (op : UserTask) → Except Stop op.Result → List UserCall → Prop
  | .updatePassword u old new, r, calls => r = .ok (.ok ()) → ∃ hash before, ∃ user : UserInfo,
    calls = ⟨.updatePassword u old new, .method (.updateUserPassword u hash), true⟩ :: before ∧
      ⟨.updatePassword u old new, .method (.getUserById u), some user⟩ ∈ before
  | _, _, _ => True

abbrev rehashes : UserContract (List UserCall) := .ofCalls Rehashes changedLast

/-- The calls that `Rehashes` says nothing about. -/
def NotPassword : MethodCall userMethods → Prop
  | .method (.updateUserPassword ..) => False
  | _ => True

theorem rehashes_of_notPassword {op : UserTask} {calls : List UserCall} {c : MethodCall userMethods}
    (h : NotPassword c) : Rehashes op calls c := by
  cases c with
  | outside => trivial
  | method c => cases c <;> trivial

section
variable {op : UserTask} {calls : List UserCall}

theorem keeps_notPassword {α : Type} {p : UserM α} (hp : Prog.CallsOnly NotPassword p.run) :
    Methods.Keeps rehashes op calls p fun _ calls' => calls ⊆ calls' :=
  hp.follows (List.Subset.refl calls) fun _ _ hsub hc =>
    ⟨rehashes_of_notPassword hc, fun _ => List.Subset.trans hsub (List.subset_cons_self _ _)⟩

/-- A call, with its answer at the head of the list. -/
theorem keeps_userRequest {c : UserMethod} (hc : Rehashes op calls (.method c)) :
    Methods.Keeps rehashes op calls (UserM.request c) fun r calls' => ∀ a, r = .ok a →
      calls' = ⟨op, .method c, a⟩ :: calls :=
  Methods.keeps_call hc fun a a' h => by
    cases h
    rfl

theorem keeps_hashPassword (password : String) :
    Methods.Keeps rehashes op calls (Methods.outside (UserManager.hashPassword password))
      fun r calls' => ∀ hash, r = .ok hash →
        calls' = ⟨op, .outside (.hashPassword password), some hash⟩ :: calls := by
  refine ⟨trivial, fun hash => ?_⟩
  cases hash with
  | none => exact fun _ h => by cases h
  | some hash =>
    intro hash' h
    cases h
    rfl

end

theorem keeps_login (n p : String) :
    Methods.Keeps rehashes (.login n p) [] (UserM.login n p) fun _ _ => True := by
  refine Methods.keeps_bind (Q := fun _ _ => True) (Methods.keeps_call trivial fun _ => trivial)
    (fun user _ _ => ?_) fun _ _ _ => trivial
  cases user with
  | none => trivial
  | some user =>
    refine Methods.keeps_bind (Q := fun _ _ => True) (Methods.keeps_call trivial fun _ => trivial)
      (fun hash _ _ => ?_) fun _ _ _ => trivial
    cases hash with
    | none => trivial
    | some hash =>
      refine Methods.keeps_bind (Q := fun _ _ => True)
        (Methods.keeps_request trivial fun _ => trivial) (fun verified _ _ => ?_)
        fun _ _ _ => trivial
      refine Methods.keeps_ite (fun _ => trivial) fun _ => ?_
      refine Methods.keeps_bind (Q := fun _ _ => True) ?_ (fun _ _ _ => trivial)
        fun _ _ _ => trivial
      refine Methods.keeps_ite (fun _ => trivial) fun _ => ?_
      refine Methods.keeps_bind (Q := fun r calls => ∀ newHash, r = .ok (some newHash) →
        ⟨.login n p, .outside (.hashPassword p), some newHash⟩ ∈ calls) ?_
        (fun newHash calls hnew => ?_) fun _ _ _ => trivial
      · refine Methods.keeps_request trivial fun newHash newHash' h => ?_
        cases h
        exact List.mem_cons_self
      · cases newHash with
        | none => trivial
        | some newHash =>
          exact Methods.keeps_bind (Q := fun _ _ => True)
            (Methods.keeps_call (.inr ⟨n, p, rfl, hnew newHash rfl⟩) fun _ => trivial)
            (fun _ _ _ => trivial) fun _ _ _ => trivial

theorem keeps_updatePassword (u : Nat) (old new : String) :
    Methods.Keeps rehashes (.updatePassword u old new) [] (UserM.updatePassword u old new)
      fun r => changedLast (.updatePassword u old new) r := by
  have hstop : ∀ (stop : Stop) (calls : List UserCall),
      changedLast (.updatePassword u old new) (.error stop) calls := fun _ _ h => by cases h
  have hrefused : ∀ (message : String) (calls : List UserCall),
      changedLast (.updatePassword u old new) (.ok (.error message)) calls :=
        fun _ _ h => by cases h
  refine Methods.keeps_bind (keeps_userRequest trivial) (fun user calls huser => ?_)
    fun stop calls _ => hstop stop calls
  cases user with
  | none => exact Methods.keeps_pure (hrefused _ _)
  | some user =>
    refine Methods.keeps_bind (keeps_notPassword (Methods.callsOnly_call trivial))
      (fun hash calls₁ h₁ => ?_) fun stop calls _ => hstop stop calls
    cases hash with
    | none => exact Methods.keeps_pure (hrefused _ _)
    | some hash =>
      refine Methods.keeps_bind (keeps_notPassword (Methods.callsOnly_outside (fun _ => trivial) _))
        (fun verified calls₂ h₂ => ?_) fun stop calls _ => hstop stop calls
      refine Methods.keeps_ite (fun _ => Methods.keeps_pure (hrefused _ _)) fun _ => ?_
      refine Methods.keeps_bind (keeps_hashPassword new) (fun hashedNew calls₃ h₃ => ?_)
        fun stop calls _ => hstop stop calls
      obtain rfl := h₃ hashedNew rfl
      obtain rfl := huser _ rfl
      refine Methods.keeps_bind
        (keeps_userRequest (.inl ⟨old, new, rfl, List.mem_cons_self⟩)) (fun ok calls₄ h₄ => ?_)
        fun stop calls _ => hstop stop calls
      cases ok with
      | false => exact Methods.keeps_pure (hrefused _ _)
      | true =>
        refine Methods.keeps_pure fun _ => ⟨hashedNew, _, user, h₄ true rfl, ?_⟩
        exact List.mem_cons_of_mem _ (h₂ (h₁ List.mem_cons_self))

/-- A task that may not write a password. -/
theorem keeps_other {op : UserTask} (h : ∀ c, op.MayCall c → NotPassword c) :
    Methods.Keeps rehashes op [] op.prog fun _ _ => True :=
  op.callsOnly_body.follows trivial fun _ _ _ hc =>
    ⟨rehashes_of_notPassword (h _ hc), fun _ => trivial⟩

theorem rehashes_kept : rehashes.KeptBy UserTask.body := by
  intro op
  cases op with
  | login n p => exact keeps_login n p
  | updatePassword u old new => exact keeps_updatePassword u old new
  | register | setOnlineStatus | handleUserUpdate | createBotUser =>
    refine keeps_other fun c hc => ?_
    cases c with
    | outside => trivial
    | method c => cases c <;> trivial

/-! ## Every interleaving -/

/-- The password and the row of a login that writes its new hash. -/
def upgrade : UserTask → MethodCall userMethods → Option (String × Nat)
  | .login _ password, .method (.updateUserPassword u _) => some (password, u)
  | _, _ => none

/-- A login writes its new hash only over a hash that its password verifies. -/
def UpgradeFresh (lib : Crypto) (op : UserTask) (db : UserDb fold) (c : MethodCall userMethods)
    (x : Occasion) : Prop :=
  ∀ y ∈ upgrade op c, x.moment.through 0 = true → ∀ r ∈ db.users.find? y.2,
    lib.verifyPassword y.1 r.password = true

instance (lib : Crypto) (op : UserTask) (db : UserDb fold) (c : MethodCall userMethods)
    (x : Occasion) : Decidable (UpgradeFresh lib op db c x) :=
  inferInstanceAs (Decidable (∀ y ∈ upgrade op c, x.moment.through 0 = true →
    ∀ r ∈ db.users.find? y.2, lib.verifyPassword y.1 r.password = true))

def hashed (lib : Crypto) (_ : UserTask) (_ : UserDb fold) (_ : MethodCall userMethods)
    (x : Occasion) : Prop := lib.Answers x

def upgradesFresh (lib : Crypto) (op : UserTask) (db : UserDb fold) (c : MethodCall userMethods)
    (x : Occasion) : Prop := lib.Answers x ∧ UpgradeFresh lib op db c x

/-- The write of a change of the password of `u`. -/
def Changes {θ : Type} (u : Nat) (password : String) (e : UserEvent fold θ) : Prop :=
  ∃ t old db hash db', e = .call t (.updatePassword u old password) db
    (.method (.updateUserPassword u hash)) true db'

/-- The hash of `u` is not one of the password. -/
def Revoked (lib : Crypto) (u : Nat) (password : String) (db : UserDb fold) : Prop :=
  ∃ r, db.users.find? u = some r ∧ lib.verifyPassword password r.password = false

/-- A change that has returned true has written the new password, and from then on the old one is
    revoked, unless a later change sets it again. -/
def RevokedStays {θ : Type} (lib : Crypto) (w : UserWorkers fold θ) : Prop :=
  ∀ l₁ t u old new l₂, w.log = l₁ ++ .ret t (.updatePassword u old new) (.ok (.ok ())) :: l₂ →
    new ≠ old → ∃ m₁ e m₂, l₂ = m₁ ++ e :: m₂ ∧ Changes u new e ∧ e.worker = t ∧
      (∀ e ∈ m₁, e.worker ≠ t) ∧
      ((∀ e ∈ l₁ ++ m₁, ¬ Changes u old e) → Revoked lib u old w.state)

section
variable {θ : Type} [DecidableEq θ] {lib : Crypto} {db₀ s : UserDb fold}
  {l l' : List (UserEvent fold θ)} {u : Nat} {password : String}

/-- The hash of a call was made from its password. -/
theorem made_of_phase {t : θ} {op : UserTask} {hash : String}
    (hj : Journal rehashes reply (upgradesFresh lib) db₀ l s)
    (h : ⟨op, .outside (.hashPassword password), some hash⟩ ∈ rehashes.phase t l) :
    lib.pwhashStr password hash := by
  obtain ⟨b, b', hof⟩ := callOf_of_phase h
  obtain ⟨x, hx, hreply⟩ := hj.call_mem hof.mem
  exact hx.1.hash (congrArg Prod.fst hreply)

/-- One call, that is no change back to the password. -/
theorem revoked_reply (hlib : lib.Exact) {t : θ} {op : UserTask} {c : MethodCall userMethods}
    {x : Occasion} (hj : Journal rehashes reply (upgradesFresh lib) db₀ l s)
    (hc : Rehashes op (rehashes.phase t l) c) (hx : upgradesFresh lib op s c x)
    (hno : ¬ Changes u password (Event.call t op s c (reply x s c).1 (reply x s c).2))
    (h : Revoked lib u password s) : Revoked lib u password (reply x s c).2 := by
  obtain ⟨r, hr, hrevoked⟩ := h
  obtain ⟨r', hr', hstep⟩ := rowStep x c hr
  cases hstep with
  | same => exact ⟨r, hr', hrevoked⟩
  | profile _ _ => exact ⟨_, hr', hrevoked⟩
  | onlineStatus => exact ⟨_, hr', hrevoked⟩
  | @password hash hok =>
    -- the hash of another password verifies no other
    have hother : ∀ {p : String}, p ≠ password → lib.pwhashStr p hash →
        lib.verifyPassword password hash = false := by
      intro p hne hmade
      rw [Bool.eq_false_iff]
      exact fun hv => hne ((hlib.pwhashStr hmade password).1 hv).symm
    refine ⟨_, hr', ?_⟩
    rcases hc with ⟨old, new, rfl, hmem⟩ | ⟨username, p, rfl, hmem⟩
    · refine hother (fun hnew => hno ?_) (made_of_phase hj hmem)
      exact ⟨t, old, s, hash, _, by rw [hok, hnew]⟩
    · refine hother (fun hp => ?_) (made_of_phase hj hmem)
      have hthrough : x.moment.through 0 = true := by
        rw [reply_updateUserPassword] at hok
        exact hok
      have hverified := hx.2 (p, u) rfl hthrough r hr
      rw [hp, hrevoked] at hverified
      cases hverified

theorem revoked_kept (hlib : lib.Exact)
    (hj : Journal rehashes reply (upgradesFresh lib) db₀ (l' ++ l) s)
    (hno : ∀ e ∈ l', ¬ Changes u password e) :
    ∃ s', Journal rehashes reply (upgradesFresh lib) db₀ l s' ∧
      (Revoked lib u password s' → Revoked lib u password s) :=
  hj.append_kept fun _ _ _ _ hk hc hx hmem => revoked_reply hlib hk hc hx (hno _ hmem)

/-- The write of a change revokes every other password. -/
theorem revoked_of_change (hlib : lib.Exact) {t : θ} {db db' d d' : UserDb fold}
    {hash old new : String} {user : UserInfo} (hnew : new ≠ password)
    (hj : Journal rehashes reply (upgradesFresh lib) db₀
      (.call t (.updatePassword u old new) db (.method (.updateUserPassword u hash)) true
        db' :: l) s)
    (hread : .call t (.updatePassword u old new) d (.method (.getUserById u)) (some user) d' ∈ l) :
    Revoked lib u password s := by
  obtain ⟨rfl, hl, hc, x, -, hreply⟩ := hj.call_inv
  have hmade : lib.pwhashStr new hash := by
    rcases hc with ⟨_, _, heq, hmem⟩ | ⟨_, _, heq, -⟩
    · cases heq
      exact made_of_phase hl hmem
    · cases heq
  -- the row was there when it was read, and stays
  obtain ⟨k₁, k₂, rfl⟩ := List.append_of_mem hread
  obtain ⟨d₀, hk, hstays⟩ := hl.append_invariant (J := (·.HasName u user.username))
    fun _ _ c _ h _ => hasName_reply c h
  obtain ⟨rfl, -, -, y, -, hfound⟩ := hk.call_inv
  rw [reply_getUserById] at hfound
  obtain ⟨r₀, hr₀, rfl⟩ := Option.map_eq_some_iff.1
    (Option.ite_none_right_eq_some.1 (congrArg Prod.fst hfound)).2
  have hd : d = d₀ := congrArg Prod.snd hfound
  obtain ⟨r, hr, -⟩ := hstays ⟨r₀, by rw [← hd, hr₀], rfl⟩
  -- the write
  rw [reply_updateUserPassword] at hreply
  have hthrough : x.moment.through 0 = true := congrArg Prod.fst hreply
  have hdb := congrArg Prod.snd hreply
  dsimp only at hdb
  rw [if_pos hthrough] at hdb
  refine ⟨UserDb.setPassword hash x.moment.now r, ?_, ?_⟩
  · rw [← hdb]
    refine UserDb.find?_updateWhere.trans ?_
    rw [if_pos rfl, hr]
    rfl
  · rw [Bool.eq_false_iff]
    exact fun hv => hnew ((hlib.pwhashStr hmade password).1 hv).symm

end

theorem revokedStays {θ : Type} [DecidableEq θ] (lib : Crypto) (hlib : lib.Exact) (db : UserDb fold)
    {ls : List (WorkerStep θ UserTask Occasion)} {w : UserWorkers fold θ}
    (h : Run (Workers.step UserTask.body reply) (Workers.guarded (upgradesFresh lib))
      (Workers.init db) ls w) : RevokedStays lib w := by
  have hj := Workers.journal rehashes_kept h
  intro l₁ t u old new l₂ hlog hne
  rw [hlog] at hj
  obtain ⟨hash, before, user, hphase, hread⟩ := hj.ret_done rfl
  obtain ⟨b, b', m₁, m₂, rfl, hm₁⟩ := lastCall_of_calls hphase
  refine ⟨m₁, _, m₂, rfl, ⟨t, old, b, hash, b', rfl⟩, rfl, hm₁, fun hno => ?_⟩
  -- the read came before the write
  have hread' : ∃ d d', .call t (.updatePassword u old new) d (.method (.getUserById u))
      (some user) d' ∈ m₂ := by
    obtain ⟨d, d', hof⟩ := callOf_of_phase (hphase ▸ List.mem_cons_of_mem _ hread)
    refine ⟨d, d', ?_⟩
    rcases List.mem_append.1 hof.mem with hmem | hmem
    · exact absurd rfl (hm₁ _ hmem)
    · rcases List.mem_cons.1 hmem with heq | hmem
      · cases heq
      · exact hmem
  obtain ⟨d, d', hread'⟩ := hread'
  have hjw : Journal rehashes reply (upgradesFresh lib) db
      ((l₁ ++ .ret t (.updatePassword u old new) (.ok (.ok ())) :: m₁) ++
        .call t (.updatePassword u old new) b (MethodCall.method (.updateUserPassword u hash))
          true b' :: m₂) w.state := by
    simpa using hj
  obtain ⟨s, hwrite, hkept⟩ := revoked_kept hlib hjw fun e he hchanges => by
    rcases List.mem_append.1 he with hmem | hmem
    · exact hno e (List.mem_append_left _ hmem) hchanges
    · rcases List.mem_cons.1 hmem with rfl | hmem
      · obtain ⟨_, _, _, _, _, heq⟩ := hchanges
        cases heq
      · exact hno e (List.mem_append_right _ hmem) hchanges
  exact hkept (revoked_of_change hlib hne hwrite hread')

/-- Functions whose hashes show the password. -/
def plainLibrary : Crypto where
  pwhashStr password hash := hash = "$argon2id$v=19$" ++ password
  pwhashStrVerify hash password := decide (hash = "$argon2id$v=19$" ++ password)
  sha256 password := "sha256$" ++ password

theorem isArgon2Hash_new (password : String) :
    UserManager.isArgon2Hash ("$argon2id$v=19$" ++ password) = true := by
  have hsize : 10 < ("$argon2id$v=19$" ++ password).utf8ByteSize := by
    rw [String.utf8ByteSize_append]
    exact Nat.lt_of_lt_of_le (by decide) (Nat.le_add_right _ _)
  have hprefix : ("$argon2id$v=19$" ++ password).startsWith "$argon2id" = true := by
    rw [String.startsWith_string_iff, String.toList_append]
    exact ⟨"$v=19$".toList ++ password.toList, by simp⟩
  rw [UserManager.isArgon2Hash, hprefix, decide_eq_true hsize]
  rfl

theorem isArgon2Hash_old (password : String) :
    UserManager.isArgon2Hash ("sha256$" ++ password) = false := by
  have hprefix : ("sha256$" ++ password).startsWith "$argon2id" = false := by
    rw [String.startsWith_string_eq_false_iff, String.toList_append]
    simp
  rw [UserManager.isArgon2Hash, hprefix, Bool.and_false]

theorem plainLibrary_exact : plainLibrary.Exact where
  pwhashStr := by
    rintro password hash rfl p
    have hverify : plainLibrary.verifyPassword p ("$argon2id$v=19$" ++ password) =
        decide ("$argon2id$v=19$" ++ password = "$argon2id$v=19$" ++ p) :=
      if_pos (isArgon2Hash_new password)
    rw [hverify, decide_eq_true_iff, String.append_right_inj, eq_comm]
  sha256 password p := by
    have hverify : plainLibrary.verifyPassword p ("sha256$" ++ password) =
        decide ("sha256$" ++ p = "sha256$" ++ password) :=
      if_neg (by rw [isArgon2Hash_old]; exact Bool.false_ne_true)
    show plainLibrary.verifyPassword p ("sha256$" ++ password) = true ↔ _
    rw [hverify, decide_eq_true_iff, String.append_right_inj]

theorem calmly_answers : plainLibrary.Answers calmly where
  hash h := (Option.some.inj h).symm
  verify password hash := by
    show decide (hash = if _ then _ else _) = plainLibrary.verifyPassword password hash
    unfold Crypto.verifyPassword
    split
    · rfl
    · exact decide_eq_decide.2 eq_comm

/-- A user with an old hash. -/
def oldUser : UserDb id :=
  ((UserDb.empty id).insertUser "ann" "sha256$old" "Ann" 0).getD (.empty id)

/-- A change of the password of `oldUser` has returned true. -/
def isChanged : UserEvent id Bool → Bool
  | .ret _ (.updatePassword 1 "old" "new") (.ok (.ok ())) => true
  | _ => false

/-- The password that a change sets. -/
def setBy : UserEvent id Bool → Option String
  | .call _ (.updatePassword _ _ new) .. => some new
  | _ => none

theorem not_changes {e : UserEvent id Bool} {u : Nat} {password : String}
    (h : setBy e ≠ some password) : ¬ Changes u password e := by
  rintro ⟨t, old, db, hash, db', rfl⟩
  exact h rfl

/-- What a run leaves: whether the change has returned, whether another one sets "old", and the
    hash. -/
def outcome (w : UserWorkers id Bool) : Bool × Bool × Option String :=
  (w.log.any isChanged, w.log.all fun e => decide (setBy e ≠ some "old"),
    (w.state.users.find? 1).map UserRow.password)

/-- Steps of a worker that does one operation, with the number of its calls. -/
def oneTask (t : Bool) (op : UserTask) (calls : Nat) : List (WorkerStep Bool UserTask Occasion) :=
  .start t op :: List.replicate calls (.call t calmly) ++ [.finish t]

def change : UserTask := .updatePassword 1 "old" "new"

def freshUpgrade : List (WorkerStep Bool UserTask Occasion) :=
  oneTask false (.login "ann" "old") 5 ++ oneTask true change 5 ++
    oneTask false (.login "ann" "old") 3

def staleUpgrade : List (WorkerStep Bool UserTask Occasion) :=
  .start false (.login "ann" "old") :: List.replicate 4 (.call false calmly) ++
    oneTask true change 5 ++ [.call false calmly, .finish false]

/-- Steps without failures. -/
def Calm : WorkerStep Bool UserTask Occasion → Prop
  | .call _ x => x = calmly
  | _ => True

theorem hashed_of_calm {w : UserWorkers id Bool} {l : WorkerStep Bool UserTask Occasion}
    (h : Calm l) : w.guarded (hashed plainLibrary) l := by
  cases l with
  | call t x =>
    rintro op c -
    obtain rfl : x = calmly := h
    exact calmly_answers
  | start | finish => trivial

/-- A login upgrades the old hash before the change reads it, another one fails after it. -/
theorem revokedStays_upgraded : ∃ w : UserWorkers id Bool,
    outcome w = (true, true, some "$argon2id$v=19$new") ∧ RevokedStays plainLibrary w := by
  have hrun : ((exec (Workers.guardedStep UserTask.body reply (UpgradeFresh plainLibrary))
      (Workers.init oldUser : UserWorkers id Bool) freshUpgrade).map outcome) =
        some (true, true, some "$argon2id$v=19$new") := by
    decide +kernel
  obtain ⟨w, hw, houtcome⟩ := Option.map_eq_some_iff.1 hrun
  have hcalm : ∀ l ∈ freshUpgrade, Calm l := by simp [freshUpgrade, oneTask, change, Calm]
  have hrun : Run (Workers.step UserTask.body reply) (fun w l =>
      w.guarded (UpgradeFresh plainLibrary) l ∧ w.guarded (hashed plainLibrary) l)
      (Workers.init oldUser) freshUpgrade w :=
    (Workers.run_of_guardedStep hw).also fun l hl w => hashed_of_calm (hcalm l hl)
  refine ⟨w, houtcome, revokedStays plainLibrary plainLibrary_exact oldUser
    (hrun.mono fun w l hl => ?_)⟩
  cases l with
  | call t x => exact fun op c hc => ⟨hl.2 op c hc, hl.1 op c hc⟩
  | start | finish => trivial

/-- A login has verified the old hash when the password is changed; then it writes the new hash of
    the old password. -/
theorem not_revokedStays :
    ¬ ∀ (lib : Crypto), lib.Exact → ∀ (db : UserDb id)
      (ls : List (WorkerStep Bool UserTask Occasion)) (w : UserWorkers id Bool),
      Run (Workers.step UserTask.body reply) (Workers.guarded (hashed lib)) (Workers.init db) ls w →
        RevokedStays lib w := by
  intro h
  have hrun : ((exec (Workers.step UserTask.body reply)
      (Workers.init oldUser : UserWorkers id Bool) staleUpgrade).map outcome) =
        some (true, true, some "$argon2id$v=19$old") := by
    decide +kernel
  obtain ⟨w, hw, houtcome⟩ := Option.map_eq_some_iff.1 hrun
  have hcalm : ∀ l ∈ staleUpgrade, Calm l := by simp [staleUpgrade, oneTask, change, Calm]
  have hstays := h plainLibrary plainLibrary_exact oldUser _ w
    (exec_run_of (fun l hl w => hashed_of_calm (hcalm l hl)) hw)
  obtain ⟨hchanged, hrest⟩ := Prod.mk.inj houtcome
  obtain ⟨hback, hhash⟩ := Prod.mk.inj hrest
  obtain ⟨e, he, hret⟩ := List.any_eq_true.1 hchanged
  have hback : ∀ e ∈ w.log, ¬ Changes 1 "old" e := fun e he =>
    not_changes (of_decide_eq_true (List.all_eq_true.1 hback e he))
  unfold isChanged at hret
  split at hret
  case h_2 => cases hret
  case h_1 t =>
    obtain ⟨l₁, l₂, hlog⟩ := List.append_of_mem he
    obtain ⟨m₁, e, m₂, rfl, -, -, -, hrevoked⟩ := hstays l₁ t 1 "old" "new" l₂ hlog (by decide)
    obtain ⟨r, hr, hv⟩ := hrevoked fun e he => hback e (by
      rw [hlog]
      rcases List.mem_append.1 he with he | he
      · exact List.mem_append_left _ he
      · exact List.mem_append_right _ (List.mem_cons_of_mem _ (List.mem_append_left _ he)))
    rw [hr] at hhash
    have hpassword : r.password = "$argon2id$v=19$old" := Option.some.inj hhash
    have hmade : plainLibrary.pwhashStr "old" "$argon2id$v=19$old" := rfl
    have hverifies : plainLibrary.verifyPassword "old" r.password = true := by
      rw [hpassword]
      exact (plainLibrary_exact.pwhashStr hmade "old").2 rfl
    rw [hv] at hverifies
    cases hverifies

end ChatApp.Users

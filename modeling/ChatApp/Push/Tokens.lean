/-
  The push tokens of the users: the table `user_fcm_tokens`, the caches of `FcmManager` and
  `JPushManager` in front of it, and the gateway, which writes past them. Both managers keep what
  they register in the one row of the user. `register_token` caches a token before it is saved,
  and `remove_token` does not ask whether the row has gone.

  A token that is too long for its column is one whose INSERT does not get through. `FcmManager`
  holds its lock over a whole call, and what `JPushManager` does between its two steps concerns its
  own cache only, so a call is one step here. Both programs give their managers a database.
-/
import Mathlib.Logic.Function.Basic
import ChatApp.Database.Atomic
import ChatApp.Lib.Run

namespace ChatApp.Push

open ChatApp.Lib ChatApp.Database

/-! ## The table -/

structure FcmTokenRow where
  fcmToken : String
  updatedAt : Int

/-- The row of each user; `none` before the table is made -/
structure TokenDb where
  rows : Option (Nat → Option FcmTokenRow)

namespace TokenDb

/-- CREATE TABLE IF NOT EXISTS -/
def created (db : TokenDb) : TokenDb := ⟨some (db.rows.getD fun _ => none)⟩

/-- The table with a row of the user -/
def upserted (db : TokenDb) (userId : Nat) (fcmToken : String) (now : Int) : TokenDb :=
  ⟨some (Function.update (db.rows.getD fun _ => none) userId (some ⟨fcmToken, now⟩))⟩

/-- The table without a row of the user -/
def deleted (db : TokenDb) (userId : Nat) : TokenDb :=
  ⟨db.rows.map fun rows => Function.update rows userId none⟩

def exec : Exec TokenDb
  | db, .createTable .userFcmTokens => some (db.created, [], 0)
  | db, .fcmTokens (.upsert userId fcmToken now) =>
    db.rows.map fun _ => (db.upserted userId fcmToken now, [], 0)
  | db, .fcmTokens (.byUser userId) =>
    db.rows.map fun rows => (db, (rows userId).toList.map fun r => [.text r.fcmToken], 0)
  | db, .fcmTokens (.delete userId) => db.rows.map fun _ => (db.deleted userId, [], 0)
  | _, _ => none

/-- The token that is stored for the user, empty if there is none -/
def token (db : TokenDb) (userId : Nat) : String :=
  ((db.rows.bind fun rows => rows userId).map FcmTokenRow.fcmToken).getD ""

/-- One of the two INSERTs of `save_fcm_token` gets through to the table. -/
def Saves (m : Moment) (db : TokenDb) : Prop :=
  m.through 0 = true ∧ db.rows.isSome = true ∨ m.through 1 = true ∧ m.through 2 = true

instance (m : Moment) (db : TokenDb) : Decidable (Saves m db) :=
  inferInstanceAs (Decidable (_ ∨ _))

section
variable {m : Moment} {db : TokenDb} {userId v : Nat} {fcmToken : String} {now : Int}

theorem token_created : db.created.token v = db.token v := by
  unfold token created
  cases db.rows <;> rfl

theorem token_upserted :
    (db.upserted userId fcmToken now).token v = if v = userId then fcmToken else db.token v := by
  unfold token upserted
  by_cases hv : v = userId
  · subst hv
    simp
  · cases hrows : db.rows <;> simp [hv]

theorem token_deleted : (db.deleted userId).token v = if v = userId then "" else db.token v := by
  unfold token deleted
  by_cases hv : v = userId
  · subst hv
    cases hrows : db.rows <;> simp
  · cases hrows : db.rows <;> simp [hv]

/-- `save_fcm_token` reports whether it has saved; else it has made the table at most. -/
theorem atomically_saveFcmToken :
    atomically exec m (Database.saveFcmToken userId fcmToken) db =
      if Saves m db then (true, db.upserted userId fcmToken m.now)
      else (false, if m.through 1 then db.created else db) := by
  simp only [atomically, Database.saveFcmToken, serve_locked, Prog.run_bind,
    serve_getCurrentTimestamp]
  rw [serve_mysqlQuery rfl]
  by_cases hfirst : m.through 0 = true ∧ db.rows.isSome = true
  · obtain ⟨rows, hrows⟩ := Option.isSome_iff_exists.1 hfirst.2
    have hsaves : Saves m db := .inl hfirst
    simp [Moment.send, hfirst.1, exec, hrows, hsaves]
  · have hsaves : Saves m db ↔ m.through 1 = true ∧ m.through 2 = true := or_iff_right hfirst
    have hsend : m.send exec ⟨db, none, 0, 0⟩ (.fcmTokens (.upsert userId fcmToken m.now)) =
        none := by
      cases h0 : m.through 0 with
      | false => simp [Moment.send, h0]
      | true =>
        have hrows : db.rows = none := by simpa [h0] using hfirst
        simp [Moment.send, h0, exec, hrows]
    rw [hsend]
    simp only [Bool.false_eq_true, if_false, Prog.run_bind, execute]
    rw [serve_mysqlQuery rfl]
    cases h1 : m.through 1 with
    | false => simp [Moment.send, hsaves, h1]
    | true =>
      cases h2 : m.through 2 with
      | false => simp [serve, Moment.send, hsaves, h1, h2, exec]
      | true => simp [serve, Moment.send, hsaves, h1, h2, exec, created, upserted]

theorem saveFcmToken_reports : (atomically exec m (Database.saveFcmToken userId fcmToken) db).1 =
    decide (Saves m db) := by
  rw [atomically_saveFcmToken]
  split
  next h => exact (decide_eq_true h).symm
  next h => exact (decide_eq_false h).symm

theorem token_saveFcmToken :
    (atomically exec m (Database.saveFcmToken userId fcmToken) db).2.token v =
      if Saves m db ∧ v = userId then fcmToken else db.token v := by
  rw [atomically_saveFcmToken]
  split
  next h => simp [h, token_upserted]
  next h => cases m.through 1 <;> simp [h, token_created]

/-- A SELECT that does not get through looks like one without rows. -/
theorem atomically_getFcmToken : atomically exec m (Database.getFcmToken userId) db =
    (if m.through 0 then db.token userId else "", db) := by
  cases hrows : db.rows with
  | none =>
    cases h0 : m.through 0 <;>
      simp [atomically, Database.getFcmToken, selectFirst, select, serve, Moment.send, exec, token,
        hrows, h0]
  | some rows =>
    refine (atomically_selectFirst (fun row => (row.map (Row.str · 0)).getD "") rfl
      (show exec db (.fcmTokens (.byUser userId)) = some (db, _, 0) by
        rw [exec, hrows]; rfl)).trans ?_
    cases h0 : m.through 0 <;> cases hrow : rows userId <;>
      simp [token, hrows, hrow, Row.str, Row.cell]

theorem token_removeFcmToken :
    (atomically exec m (Database.removeFcmToken userId) db).2.token v =
      if m.through 0 = true ∧ v = userId then "" else db.token v := by
  unfold Database.removeFcmToken
  rw [atomically_execute rfl]
  cases h0 : m.through 0 with
  | false => simp
  | true =>
    cases hrows : db.rows with
    | none => simp [exec, hrows, token]
    | some rows => simp [exec, hrows, token_deleted]

end

end TokenDb

/-! ## The managers -/

/-- The table, and the caches of the two managers -/
structure TokenServer where
  db : TokenDb
  tokenCache : Nat → Option String
  registrationIdCache : Nat → Option String

/-- `if (!token.empty()) cache[user_id] = token` -/
def remember (cache : Nat → Option String) (userId : Nat) (token : String) : Nat → Option String :=
  if token.isEmpty then cache else Function.update cache userId (some token)

namespace FcmManager

variable (m : Moment) (userId : Nat) (s : TokenServer)

def registerToken (fcmToken : String) : Bool × TokenServer :=
  let saved := atomically TokenDb.exec m (Database.saveFcmToken userId fcmToken) s.db
  (saved.1, { s with
    db := saved.2
    tokenCache := Function.update s.tokenCache userId (some fcmToken) })

def getToken : String × TokenServer :=
  match s.tokenCache userId with
  | some token => (token, s)
  | none =>
    let read := atomically TokenDb.exec m (Database.getFcmToken userId) s.db
    (read.1, { s with db := read.2, tokenCache := remember s.tokenCache userId read.1 })

def removeToken : TokenServer :=
  let removed := atomically TokenDb.exec m (Database.removeFcmToken userId) s.db
  { s with db := removed.2, tokenCache := Function.update s.tokenCache userId none }

end FcmManager

namespace JPushManager

variable (m : Moment) (userId : Nat) (s : TokenServer)

def registerRegistrationId (registrationId : String) : Bool × TokenServer :=
  let saved := atomically TokenDb.exec m (Database.saveFcmToken userId registrationId) s.db
  (saved.1, { s with
    db := saved.2
    registrationIdCache := Function.update s.registrationIdCache userId (some registrationId) })

def getRegistrationId : String × TokenServer :=
  match s.registrationIdCache userId with
  | some registrationId => (registrationId, s)
  | none =>
    let read := atomically TokenDb.exec m (Database.getFcmToken userId) s.db
    (read.1, { s with
      db := read.2
      registrationIdCache := remember s.registrationIdCache userId read.1 })

end JPushManager

/-- The gateway's `handle_fcm_token_register`, and whether its response says success -/
def handleFcmTokenRegister (m : Moment) (userId : Nat) (s : TokenServer) (fcmToken : String) :
    Bool × TokenServer :=
  let saved := atomically TokenDb.exec m (Database.saveFcmToken userId fcmToken) s.db
  (saved.1, { s with db := saved.2 })

/-! ## Runs -/

inductive TokenCall
  | registerToken (m : Moment) (userId : Nat) (fcmToken : String)
  | fcmTokenRegister (m : Moment) (userId : Nat) (fcmToken : String)
  | removeToken (m : Moment) (userId : Nat)
  | getToken (m : Moment) (userId : Nat)
  | registerRegistrationId (m : Moment) (userId : Nat) (registrationId : String)
  | getRegistrationId (m : Moment) (userId : Nat)
  | restart

/-- What the users have been told: the token of the last FCM registration of each that reported
    success, empty if there was none or it has been removed since. -/
structure Told where
  server : TokenServer
  registered : Nat → String

namespace Told

def start : Told := ⟨⟨⟨none⟩, fun _ => none, fun _ => none⟩, fun _ => ""⟩

/-- A registration of either kind that reports success -/
def register (w : Told) (userId : Nat) (fcmToken : String) (r : Bool × TokenServer) : Told :=
  ⟨r.2, if r.1 then Function.update w.registered userId fcmToken else w.registered⟩

def perform (w : Told) : TokenCall → Told
  | .registerToken m userId fcmToken =>
    w.register userId fcmToken (FcmManager.registerToken m userId w.server fcmToken)
  | .fcmTokenRegister m userId fcmToken =>
    w.register userId fcmToken (handleFcmTokenRegister m userId w.server fcmToken)
  | .removeToken m userId =>
    ⟨FcmManager.removeToken m userId w.server, Function.update w.registered userId ""⟩
  | .getToken m userId => { w with server := (FcmManager.getToken m userId w.server).2 }
  | .registerRegistrationId m userId registrationId =>
    { w with server := (JPushManager.registerRegistrationId m userId w.server registrationId).2 }
  | .getRegistrationId m userId =>
    { w with server := (JPushManager.getRegistrationId m userId w.server).2 }
  | .restart => { w with server := ⟨w.server.db, fun _ => none, fun _ => none⟩ }

def after (calls : List TokenCall) : Told := calls.foldl perform start

/-- Every look-up that reads the table gives what the user has been told. -/
def Right (w : Told) : Prop :=
  ∀ userId m, m.through 0 = true →
    (FcmManager.getToken m userId w.server).1 = w.registered userId

/-- What a call must find, so that the look-ups stay right: a token that cannot be saved is the one
    the user has, the gateway's is not behind another one in the cache, a removal gets through or
    has nothing to remove, JPush does not write where the cache has nothing, and a restart finds in
    the table what was cached. -/
def Keeps (w : Told) : TokenCall → Prop
  | .registerToken m userId fcmToken =>
    TokenDb.Saves m w.server.db ∨ fcmToken = w.registered userId
  | .fcmTokenRegister m userId fcmToken =>
    TokenDb.Saves m w.server.db → ∀ token ∈ w.server.tokenCache userId, token = fcmToken
  | .removeToken m userId => m.through 0 = true ∨ w.server.db.token userId = ""
  | .registerRegistrationId m userId registrationId =>
    TokenDb.Saves m w.server.db → w.server.tokenCache userId = none →
      registrationId = w.registered userId
  | .restart => ∀ userId, ∀ token ∈ w.server.tokenCache userId,
      w.server.db.token userId = token
  | .getToken .. | .getRegistrationId .. => True

end Told

/-! ## What a call does to the look-ups -/

/-- What a look-up gives that reads the table. -/
def TokenServer.held (s : TokenServer) (userId : Nat) : String :=
  (s.tokenCache userId).getD (s.db.token userId)

section
variable {m : Moment} {userId v : Nat} {s : TokenServer} {fcmToken : String}

theorem getToken_eq (h : m.through 0 = true) :
    (FcmManager.getToken m userId s).1 = s.held userId := by
  unfold FcmManager.getToken TokenServer.held
  cases s.tokenCache userId with
  | some token => rfl
  | none =>
    rw [TokenDb.atomically_getFcmToken, if_pos h]
    rfl

theorem right_iff {w : Told} : w.Right ↔ ∀ userId, w.server.held userId = w.registered userId := by
  constructor
  · intro h userId
    have hmoment := h userId ⟨0, true, fun _ => true⟩ rfl
    rwa [getToken_eq rfl] at hmoment
  · intro h userId m hm
    rw [getToken_eq hm, h]

theorem held_registerToken : (FcmManager.registerToken m userId s fcmToken).2.held v =
    if v = userId then fcmToken else s.held v := by
  unfold TokenServer.held FcmManager.registerToken
  dsimp only
  rw [TokenDb.token_saveFcmToken]
  by_cases hv : v = userId
  · subst hv
    simp
  · simp [hv]

variable (s) in
/-- Past the cache, a token that is saved shows where nothing is cached. -/
theorem held_saveFcmToken (caches : Nat → Option String) (v : Nat) : (TokenServer.mk
    (atomically TokenDb.exec m (Database.saveFcmToken userId fcmToken) s.db).2 s.tokenCache
      caches).held v =
    if v = userId then
      if TokenDb.Saves m s.db ∧ s.tokenCache userId = none then fcmToken else s.held userId
    else s.held v := by
  unfold TokenServer.held
  dsimp only
  rw [TokenDb.token_saveFcmToken]
  by_cases hv : v = userId
  · subst hv
    cases s.tokenCache v with
    | some token => simp
    | none => simp
  · simp [hv]

theorem held_handleFcmTokenRegister (v : Nat) :
    (handleFcmTokenRegister m userId s fcmToken).2.held v =
      if v = userId then
        if TokenDb.Saves m s.db ∧ s.tokenCache userId = none then fcmToken else s.held userId
      else s.held v :=
  held_saveFcmToken s _ v

theorem held_registerRegistrationId {registrationId : String} (v : Nat) :
    (JPushManager.registerRegistrationId m userId s registrationId).2.held v =
      if v = userId then
        if TokenDb.Saves m s.db ∧ s.tokenCache userId = none then registrationId
        else s.held userId
      else s.held v :=
  held_saveFcmToken s _ v

theorem held_removeToken : (FcmManager.removeToken m userId s).held v =
    if v = userId then (if m.through 0 then "" else s.db.token userId) else s.held v := by
  unfold TokenServer.held FcmManager.removeToken
  dsimp only
  rw [TokenDb.token_removeFcmToken]
  by_cases hv : v = userId
  · subst hv
    simp
  · simp [hv]

/-- A look-up leaves what all look-ups give. -/
theorem held_getToken : (FcmManager.getToken m userId s).2.held v = s.held v := by
  unfold FcmManager.getToken
  cases hcache : s.tokenCache userId with
  | some token => rfl
  | none =>
    dsimp only
    rw [TokenDb.atomically_getFcmToken]
    cases m.through 0 with
    | false => rfl
    | true =>
      unfold TokenServer.held remember
      by_cases hempty : (s.db.token userId).isEmpty = true
      · simp [hempty]
      · by_cases hv : v = userId
        · subst hv
          simp [hempty, hcache]
        · simp [hempty, hv]

theorem held_getRegistrationId : (JPushManager.getRegistrationId m userId s).2.held v =
    s.held v := by
  unfold JPushManager.getRegistrationId
  cases s.registrationIdCache userId with
  | some registrationId => rfl
  | none =>
    dsimp only
    rw [TokenDb.atomically_getFcmToken]
    rfl

end

/-! ## What a call does to the look-ups of a run -/

namespace Told

variable {w : Told} {userId : Nat} {fcmToken : String} {r : Bool × TokenServer}

theorem start_right : start.Right := right_iff.2 fun _ => rfl

/-- A call that changes what the look-ups of one user give, and what that user has been told. -/
theorem right_update_iff {w' : Told} (h : w.Right) {held told : String}
    (hheld : ∀ v, w'.server.held v = if v = userId then held else w.server.held v)
    (htold : ∀ v, w'.registered v = if v = userId then told else w.registered v) :
    w'.Right ↔ held = told := by
  rw [right_iff] at h ⊢
  constructor
  · intro h'
    have huser := h' userId
    rwa [hheld, htold, if_pos rfl, if_pos rfl] at huser
  · intro heq v
    rw [hheld, htold, h v, heq]

theorem registered_register (v : Nat) : (w.register userId fcmToken r).registered v =
    if v = userId then (if r.1 then fcmToken else w.registered userId) else w.registered v := by
  unfold register
  by_cases hv : v = userId
  · subst hv
    cases r.1 <;> simp
  · cases r.1 <;> simp [hv]

theorem registerToken_right_iff {m : Moment} (h : w.Right) :
    (w.perform (.registerToken m userId fcmToken)).Right ↔
      w.Keeps (.registerToken m userId fcmToken) := by
  show (w.register userId fcmToken (FcmManager.registerToken m userId w.server fcmToken)).Right ↔ _
  rw [right_update_iff h (fun _ => held_registerToken) registered_register]
  unfold Keeps FcmManager.registerToken
  dsimp only
  rw [TokenDb.saveFcmToken_reports]
  by_cases hsaves : TokenDb.Saves m w.server.db
  · simp [hsaves]
  · simp [hsaves]

theorem fcmTokenRegister_right_iff {m : Moment} (h : w.Right) :
    (w.perform (.fcmTokenRegister m userId fcmToken)).Right ↔
      w.Keeps (.fcmTokenRegister m userId fcmToken) := by
  have hold := right_iff.1 h userId
  show (w.register userId fcmToken (handleFcmTokenRegister m userId w.server fcmToken)).Right ↔ _
  have hheld : ∀ v, (handleFcmTokenRegister m userId w.server fcmToken).2.held v = _ :=
    held_handleFcmTokenRegister
  rw [right_update_iff h hheld registered_register]
  unfold Keeps handleFcmTokenRegister
  dsimp only
  rw [TokenDb.saveFcmToken_reports, hold]
  unfold TokenServer.held at hold
  by_cases hsaves : TokenDb.Saves m w.server.db
  · cases hcache : w.server.tokenCache userId with
    | none => simp [hsaves]
    | some token =>
      rw [hcache, Option.getD_some] at hold
      simp [hsaves, hold]
  · simp [hsaves]

theorem removeToken_right_iff {m : Moment} (h : w.Right) :
    (w.perform (.removeToken m userId)).Right ↔ w.Keeps (.removeToken m userId) := by
  have htold : ∀ v, (w.perform (.removeToken m userId)).registered v =
      if v = userId then "" else w.registered v :=
    fun v => Function.update_apply ..
  refine (right_update_iff h (fun _ => held_removeToken) htold).trans ?_
  unfold Keeps
  cases h0 : m.through 0 with
  | true => simp [h0]
  | false => simp [h0]

theorem registerRegistrationId_right_iff {m : Moment} {registrationId : String} (h : w.Right) :
    (w.perform (.registerRegistrationId m userId registrationId)).Right ↔
      w.Keeps (.registerRegistrationId m userId registrationId) := by
  have htold : ∀ v, (w.perform (.registerRegistrationId m userId registrationId)).registered v =
      if v = userId then w.registered userId else w.registered v := by
    intro v
    show w.registered v = _
    split
    next hv => rw [hv]
    next => rfl
  have hheld : ∀ v, (JPushManager.registerRegistrationId m userId w.server
      registrationId).2.held v = _ := held_registerRegistrationId
  refine (right_update_iff h hheld htold).trans ?_
  unfold Keeps
  rw [right_iff.1 h userId]
  by_cases hsaves : TokenDb.Saves m w.server.db
  · cases hcache : w.server.tokenCache userId with
    | none => simp [hsaves, hcache]
    | some token => simp [hcache]
  · simp [hsaves]

theorem restart_right_iff (h : w.Right) : (w.perform .restart).Right ↔ w.Keeps .restart := by
  rw [right_iff] at h ⊢
  unfold Keeps
  refine forall_congr' fun userId => ?_
  have hold := h userId
  show w.server.db.token userId = w.registered userId ↔ _
  rw [← hold]
  unfold TokenServer.held
  cases w.server.tokenCache userId with
  | none => simp
  | some token => simp

/-- A call leaves the look-ups right exactly if it finds what it must. -/
theorem perform_right_iff (h : w.Right) (c : TokenCall) : (w.perform c).Right ↔ w.Keeps c := by
  cases c with
  | registerToken m userId fcmToken => exact registerToken_right_iff h
  | fcmTokenRegister m userId fcmToken => exact fcmTokenRegister_right_iff h
  | removeToken m userId => exact removeToken_right_iff h
  | getToken m userId =>
    exact iff_of_true (right_iff.2 fun v => held_getToken.trans (right_iff.1 h v)) trivial
  | registerRegistrationId m userId registrationId => exact registerRegistrationId_right_iff h
  | getRegistrationId m userId =>
    exact iff_of_true (right_iff.2 fun v => held_getRegistrationId.trans (right_iff.1 h v)) trivial
  | restart => exact restart_right_iff h

theorem after_snoc (calls : List TokenCall) (c : TokenCall) :
    after (calls ++ [c]) = (after calls).perform c := by
  simp [after]

/-- The look-ups are right in every state of a run exactly if every call of the run finds what it
    must. -/
theorem tokens_right_iff (calls : List TokenCall) :
    (∀ pre, pre <+: calls → (after pre).Right) ↔
      ∀ pre c, pre ++ [c] <+: calls → (after pre).Keeps c := by
  refine forall_prefix_iff start_right ?_ calls
  intro pre c h
  rw [after_snoc]
  exact perform_right_iff h c

/-- The gateway sends a notification to a user, who then registers another token. -/
theorem old_token_kept : ¬ ∀ calls : List TokenCall, ∀ pre, pre <+: calls → (after pre).Right := by
  intro h
  have hright := right_iff.1 (h [.fcmTokenRegister ⟨0, true, fun _ => true⟩ 7 "old",
    .getToken ⟨0, true, fun _ => true⟩ 7, .fcmTokenRegister ⟨0, true, fun _ => true⟩ 7 "new"] _
    List.prefix_rfl) 7
  exact absurd hright (by decide)

end Told

end ChatApp.Push

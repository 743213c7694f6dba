/-
  Profile updates that run at the same time. `handle_user_update` reads the row, puts the fields of
  the request over it and writes all three columns back, so that it undoes what another request
  wrote in between to a column that it does not mention.

  As long as every request writes the other columns as they are (`writesFresh`), no update that was
  answered with success is lost to a request that did not mention the field.
-/
import ChatApp.Users.Names

namespace ChatApp.Users

open ChatApp.Lib ChatApp.Database ChatApp.Protocol ChatApp.Session

variable {fold : String → String}

/-! ## The fields of a profile -/

inductive ProfileField
  | nickname
  | avatarUrl
  | signature
  deriving DecidableEq

namespace ProfileField

def key : ProfileField → String
  | nickname => "nickname"
  | avatarUrl => "avatar_url"
  | signature => "signature"

def get : ProfileField → UserInfo → String
  | nickname, user => user.nickname
  | avatarUrl, user => user.avatarUrl
  | signature, user => user.signature

/-- The value that a request sets. -/
def setBy (f : ProfileField) (body : Json) : Option String :=
  (body.find? f.key).bind fun member => member.getString.toOption

end ProfileField

instance decidableForallField (P : ProfileField → Prop) [∀ f, Decidable (P f)] :
    Decidable (∀ f, P f) :=
  decidable_of_iff (P .nickname ∧ P .avatarUrl ∧ P .signature)
    ⟨fun ⟨hn, ha, hs⟩ f => by cases f <;> assumption, fun h => ⟨h _, h _, h _⟩⟩

theorem updateField_ok {body : Json} {f : ProfileField} {old new : String}
    (h : Session.updateField body f.key old = .ok new) : new = (f.setBy body).getD old := by
  unfold Session.updateField at h
  unfold ProfileField.setBy
  cases hm : body.find? f.key with
  | none =>
    rw [hm] at h
    cases h
    rfl
  | some member =>
    rw [hm] at h
    dsimp only at h
    rw [Option.bind_some, h]
    rfl

/-- What a request makes of the row it read. -/
theorem overlay_ok {body : Json} {user user' : UserInfo} (h : UserM.overlay body user = .ok user') :
    user'.userId = user.userId ∧ ∀ f : ProfileField, f.get user' =
      (f.setBy body).getD (f.get user) := by
  unfold UserM.overlay at h
  cases hn : Session.updateField body "nickname" user.nickname with
  | error e =>
    rw [hn] at h
    cases h
  | ok nickname =>
    cases ha : Session.updateField body "avatar_url" user.avatarUrl with
    | error e =>
      rw [hn, ha] at h
      cases h
    | ok avatarUrl =>
      cases hs : Session.updateField body "signature" user.signature with
      | error e =>
        rw [hn, ha, hs] at h
        cases h
      | ok signature =>
        rw [hn, ha, hs] at h
        cases h
        refine ⟨rfl, fun f => ?_⟩
        cases f with
        | nickname => exact updateField_ok hn
        | avatarUrl => exact updateField_ok ha
        | signature => exact updateField_ok hs

/-! ## Who writes a profile -/

/-- A USER_UPDATE writes the fields that it sets, nothing else writes a profile, and the response
    comes after the write. -/
def Overlays : UserTask → List UserCall → MethodCall userMethods → Prop
  | .handleUserUpdate _ _ body, _, .method (.updateUser user) =>
    ∀ (f : ProfileField) (v : String), f.setBy body = some v → f.get user = v
  | _, _, .method (.updateUser _) => False
  | .handleUserUpdate s sequence body, calls, .outside (.send _ frame) =>
    frame.type = .userUpdateResponse → ∃ user,
      ⟨.handleUserUpdate s sequence body, .method (.updateUser user), true⟩ ∈ calls
  | _, _, _ => True

abbrev overlays : UserContract (List UserCall) := .ofCalls Overlays fun _ _ _ => True

section
variable {op : UserTask} {calls : List UserCall}

/-- The frame of an error is no response. -/
theorem keeps_sendError (s : Session) (sequence : UInt32) (code : Int) (message : String) :
    Methods.Keeps overlays op calls (Methods.outside (s.sendError sequence code message))
      fun _ _ => True := by
  refine Methods.keeps_request ?_ fun _ => trivial
  cases op <;> first | trivial | exact fun h => by cases h

theorem keeps_read {α : Type} (e : Except JsonError α) :
    Methods.Keeps overlays op calls (Methods.outside (read e)) fun r calls' =>
      calls' = calls ∧ ∀ a, r = .ok a → e = .ok a := by
  cases e with
  | error e => exact ⟨rfl, fun _ h => by cases h⟩
  | ok a =>
    refine ⟨rfl, fun a' h => ?_⟩
    cases h
    rfl

end

section
variable (s : Session) (sequence : UInt32) (body : Json)

theorem keeps_storeProfile (user : UserInfo) (calls : List UserCall) :
    Methods.Keeps overlays (.handleUserUpdate s sequence body) calls
      (UserM.storeProfile s sequence body user) fun _ _ => True := by
  refine Methods.keeps_bind (keeps_read _) (fun user' calls' hread => ?_) fun _ _ _ => trivial
  have hfields := (overlay_ok (hread.2 user' rfl)).2
  refine Methods.keeps_bind (Q := fun r calls => ∀ ok, r = .ok ok →
    ⟨.handleUserUpdate s sequence body, .method (.updateUser user'), ok⟩ ∈ calls) ?_
    (fun ok calls₁ hok => ?_) fun _ _ _ => trivial
  · refine Methods.keeps_call (fun f v hv => ?_) fun ok ok' h => ?_
    · rw [hfields f, hv, Option.getD_some]
    · cases h
      exact List.mem_cons_self
  · refine Methods.keeps_ite (fun htrue => ?_) fun _ => keeps_sendError s sequence _ _
    exact Methods.keeps_request (fun _ => ⟨user', htrue ▸ hok ok rfl⟩) fun _ => trivial

theorem keeps_handleUserUpdate :
    Methods.Keeps overlays (.handleUserUpdate s sequence body) []
      (UserM.handleUserUpdate s sequence body) fun _ _ => True := by
  refine Methods.keeps_ite (fun _ => ?_) fun _ => keeps_sendError s sequence _ _
  refine Methods.keeps_bind (Q := fun _ _ => True) (Methods.keeps_call trivial fun _ => trivial)
    (fun user calls _ => ?_) fun _ _ _ => trivial
  cases user with
  | some user => exact keeps_storeProfile s sequence body user calls
  | none =>
    exact Methods.keeps_bind (Q := fun _ _ => True) (Methods.keeps_request trivial fun _ => trivial)
      (fun user calls _ => keeps_storeProfile s sequence body user calls) fun _ _ _ => trivial

end

/-- A task that may not write a profile, and sends nothing as an update. -/
theorem keeps_otherProfile {op : UserTask} (h : ∀ calls c, op.MayCall c → Overlays op calls c) :
    Methods.Keeps overlays op [] op.prog fun _ _ => True :=
  op.callsOnly_body.follows trivial fun calls c _ hc => ⟨h calls c hc, fun _ => trivial⟩

theorem overlays_kept : overlays.KeptBy UserTask.body := by
  intro op
  cases op with
  | handleUserUpdate s sequence body => exact keeps_handleUserUpdate s sequence body
  | register | login | updatePassword | setOnlineStatus | createBotUser =>
    refine keeps_otherProfile fun calls c hc => ?_
    cases c with
    | outside c => cases c <;> trivial
    | method c => cases c <;> trivial

/-! ## Every interleaving -/

/-- The session and the body of a request that writes, and what it writes. -/
def profileWrite : UserTask → MethodCall userMethods → Option (Session × Json × UserInfo)
  | .handleUserUpdate s _ body, .method (.updateUser user) => some (s, body, user)
  | _, _ => none

/-- The row has in the other fields what the request writes there. -/
def OthersFresh (db : UserDb fold) (s : Session) (body : Json) (user : UserInfo) : Prop :=
  user.userId = s.userId ∧ ∃ r ∈ db.users.find? s.userId,
    ∀ f : ProfileField, f.setBy body = none → f.get user = f.get r.info

/-- A request writes to the row of its user, and the fields that it does not set as they are. -/
def writesFresh (op : UserTask) (db : UserDb fold) (c : MethodCall userMethods) (x : Occasion) :
    Prop :=
  ∀ y ∈ profileWrite op c, x.moment.through 0 = true → OthersFresh db y.1 y.2.1 y.2.2

instance (db : UserDb fold) (s : Session) (body : Json) (user : UserInfo) :
    Decidable (OthersFresh db s body user) :=
  inferInstanceAs (Decidable (_ ∧ ∃ r ∈ db.users.find? s.userId,
    ∀ f : ProfileField, f.setBy body = none → f.get user = f.get r.info))

instance (op : UserTask) (db : UserDb fold) (c : MethodCall userMethods) (x : Occasion) :
    Decidable (writesFresh op db c x) :=
  inferInstanceAs (Decidable (∀ y ∈ profileWrite op c, x.moment.through 0 = true →
    OthersFresh db y.1 y.2.1 y.2.2))

/-- A USER_UPDATE has written its row. -/
def Stored {θ : Type} (l : List (UserEvent fold θ)) (s : Session) (body : Json) : Prop :=
  ∃ t sequence user db db', .call t (.handleUserUpdate s sequence body) db
    (.method (.updateUser user)) true db' ∈ l

/-- A USER_UPDATE was answered with success. -/
def Succeeded {θ : Type} (l : List (UserEvent fold θ)) (s : Session) (body : Json) : Prop :=
  ∃ t sequence receiver frame db db', .call t (.handleUserUpdate s sequence body) db
    (.outside (.send receiver frame)) () db' ∈ l ∧ frame.type = .userUpdateResponse

/-- A field that a successful request has set holds the value of a request that set it. -/
def UpdatesKept {θ : Type} (w : UserWorkers fold θ) : Prop :=
  ∀ s body v (f : ProfileField), Succeeded w.log s body → f.setBy body = some v →
    ∃ r, w.state.users.find? s.userId = some r ∧ ∃ s' body', s'.userId = s.userId ∧
      Stored w.log s' body' ∧ f.setBy body' = some (f.get r.info)

/-- The row of a request, and where its fields come from. -/
def Carried {θ : Type} (l : List (UserEvent fold θ)) (db : UserDb fold) (s : Session)
    (body : Json) :
    Prop :=
  ∃ r, db.users.find? s.userId = some r ∧ ∀ (f : ProfileField) (v : String),
    f.setBy body = some v → ∃ s' body', s'.userId = s.userId ∧ Stored l s' body' ∧
      f.setBy body' = some (f.get r.info)

section
variable {θ : Type} [DecidableEq θ] {db₀ db : UserDb fold} {l : List (UserEvent fold θ)}
  {s s' : Session} {body body' : Json}

omit [DecidableEq θ] in
theorem Stored.cons (h : Stored l s body) (e : UserEvent fold θ) : Stored (e :: l) s body := by
  obtain ⟨t, sequence, user, db, db', hmem⟩ := h
  exact ⟨t, sequence, user, db, db', List.mem_cons_of_mem e hmem⟩

omit [DecidableEq θ] in
/-- A call that leaves the fields alone. -/
theorem carried_same {e : UserEvent fold θ} {db' : UserDb fold} {r r' : UserRow}
    (hr : db.users.find? s.userId = some r) (hr' : db'.users.find? s.userId = some r')
    (hsame : ∀ f : ProfileField, f.get r'.info = f.get r.info) (h : Carried l db s body) :
    Carried (e :: l) db' s body := by
  obtain ⟨r₀, hr₀, hfields⟩ := h
  obtain rfl : r₀ = r := Option.some.inj (hr₀.symm.trans hr)
  refine ⟨r', hr', fun f v hv => ?_⟩
  obtain ⟨s', body', hs', hstored, hset⟩ := hfields f v hv
  exact ⟨s', body', hs', hstored.cons e, by rw [hsame f, hset]⟩

/-- The write of a request brings its own fields and leaves the others. -/
theorem write_fields {x : Occasion} {user : UserInfo} (hfresh : OthersFresh db s body user)
    (hok : (reply x db (.method (.updateUser user))).1 = true)
    (hset : ∀ (f : ProfileField) (v : String), f.setBy body = some v → f.get user = v) :
    ∃ r r', db.users.find? s.userId = some r ∧
      (reply x db (.method (.updateUser user))).2.users.find? s.userId = some r' ∧
      ∀ f : ProfileField, f.setBy body = some (f.get r'.info) ∨
        f.setBy body = none ∧ f.get r'.info = f.get r.info := by
  obtain ⟨hid, r, hr, hothers⟩ := hfresh
  have hreply := reply_updateUser x db user
  have hthrough : x.moment.through 0 = true := (congrArg Prod.fst hreply).symm.trans hok
  rw [hthrough] at hreply
  have hdb : (reply x db (.method (.updateUser user))).2 = db.updateWhere user.userId
      (UserDb.setProfile user.nickname user.avatarUrl user.signature x.moment.now) (fun _ => rfl)
        fun _ => rfl := congrArg Prod.snd hreply
  have hfind : (reply x db (.method (.updateUser user))).2.users.find? s.userId =
      some (UserDb.setProfile user.nickname user.avatarUrl user.signature x.moment.now r) := by
    rw [hdb]
    refine UserDb.find?_updateWhere.trans ?_
    rw [if_pos hid.symm, hr]
    rfl
  have hget : ∀ f : ProfileField, f.get (UserDb.setProfile user.nickname user.avatarUrl
      user.signature x.moment.now r).info = f.get user := by
    intro f
    cases f <;> rfl
  refine ⟨r, _, hr, hfind, fun f => ?_⟩
  rw [hget f]
  cases hf : f.setBy body with
  | none => exact .inr ⟨rfl, hothers f hf⟩
  | some v => exact .inl (by rw [hset f v hf])

/-- What the contract and the condition say of a write. -/
theorem write_inv {op : UserTask} {calls : List UserCall} {user : UserInfo} {x : Occasion}
    (hc : Overlays op calls (.method (.updateUser user)))
    (hx : writesFresh op db (.method (.updateUser user)) x)
    (hok : (reply x db (.method (.updateUser user))).1 = true) :
    ∃ s sequence body, op = .handleUserUpdate s sequence body ∧ OthersFresh db s body user ∧
      ∀ (f : ProfileField) (v : String), f.setBy body = some v → f.get user = v := by
  cases op with
  | handleUserUpdate s sequence body =>
    rw [reply_updateUser] at hok
    exact ⟨s, sequence, body, rfl, hx (s, body, user) rfl hok, hc⟩
  | _ => exact hc.elim

omit [DecidableEq θ] in
/-- The row of the request that writes. -/
theorem carried_self {t : θ} {sequence : UInt32} {x : Occasion} {user : UserInfo}
    (ih : ∀ s body, Stored l s body → Carried l db s body)
    (hfresh : OthersFresh db s body user)
    (hok : (reply x db (.method (.updateUser user))).1 = true)
    (hset : ∀ (f : ProfileField) (v : String), f.setBy body = some v → f.get user = v)
    (hs' : s'.userId = s.userId)
    (hstored : Stored l s' body' ∨ body' = body) :
    Carried (.call t (.handleUserUpdate s sequence body) db (.method (.updateUser user)) true
      (reply x db (.method (.updateUser user))).2 :: l)
      (reply x db (.method (.updateUser user))).2 s' body' := by
  obtain ⟨r, r', hr, hr', hfields⟩ := write_fields hfresh hok hset
  refine ⟨r', by rw [hs', hr'], fun f v hv => ?_⟩
  rcases hfields f with hown | ⟨hnone, hsame⟩
  · exact ⟨s, body, hs'.symm, ⟨t, sequence, user, db, _, List.mem_cons_self⟩, hown⟩
  · rcases hstored with hold | rfl
    · obtain ⟨r₀, hr₀, hcarried⟩ := ih s' body' hold
      rw [hs', hr] at hr₀
      obtain rfl : r = r₀ := Option.some.inj hr₀
      obtain ⟨s'', body'', hs'', hstored, hvalue⟩ := hcarried f v hv
      exact ⟨s'', body'', hs'', hstored.cons _, by rw [hsame, hvalue]⟩
    · rw [hnone] at hv
      cases hv

theorem carried_of_stored (hj : Journal overlays reply writesFresh db₀ l db)
    (h : Stored l s body) : Carried l db s body := by
  induction hj generalizing s body with
  | nil =>
    obtain ⟨_, _, _, _, _, hmem⟩ := h
    cases hmem
  | @ret l db t op r _ _ ih =>
    obtain ⟨t', sequence, user, d, d', hmem⟩ := h
    rcases List.mem_cons.1 hmem with heq | hmem
    · cases heq
    · obtain ⟨r₀, hr₀, -⟩ := ih ⟨t', sequence, user, d, d', hmem⟩
      exact carried_same hr₀ hr₀ (fun _ => rfl) (ih ⟨t', sequence, user, d, d', hmem⟩)
  | @call l db t op c x _ hc hx ih =>
    obtain ⟨t', sequence, user, d, d', hmem⟩ := h
    rcases List.mem_cons.1 hmem with heq | hmem
    · -- the write of the request itself
      obtain ⟨rfl, rfl, rfl, rfl, hanswer, -⟩ := Event.call.inj heq
      have hok : (reply x d (.method (.updateUser user))).1 = true := (eq_of_heq hanswer).symm
      have hthrough : x.moment.through 0 = true := by
        rw [reply_updateUser] at hok
        exact hok
      rw [hok]
      exact carried_self (fun _ _ => ih) (hx (s, body, user) rfl hthrough) hok hc rfl (.inr rfl)
    · have hold : Stored l s body := ⟨t', sequence, user, d, d', hmem⟩
      obtain ⟨r, hr, -⟩ := ih hold
      obtain ⟨r', hr', hstep⟩ := rowStep x c hr
      cases hstep with
      | same => exact carried_same hr hr' (fun _ => rfl) (ih hold)
      | password _ => exact carried_same hr hr' (fun f => by cases f <;> rfl) (ih hold)
      | onlineStatus => exact carried_same hr hr' (fun f => by cases f <;> rfl) (ih hold)
      | profile hu hok =>
        obtain ⟨s₁, sequence₁, body₁, rfl, hfresh, hset⟩ := write_inv hc hx hok
        rw [hok]
        exact carried_self (fun _ _ => ih) hfresh hok hset (hu.symm.trans hfresh.1) (.inl hold)

/-- A success comes after the write. -/
theorem stored_of_succeeded {G : UserTask → UserDb fold → MethodCall userMethods → Occasion → Prop}
    (hj : Journal overlays reply G db₀ l db) (h : Succeeded l s body) : Stored l s body := by
  obtain ⟨t, sequence, receiver, frame, d, d', hmem, htype⟩ := h
  obtain ⟨l₁, l₂, rfl⟩ := List.append_of_mem hmem
  obtain ⟨user, hwrite⟩ := hj.call_allowed htype
  obtain ⟨b, b', hof⟩ := callOf_of_phase hwrite
  exact ⟨t, sequence, user, b, b', List.mem_append_right _ (List.mem_cons_of_mem _ hof.mem)⟩

end

theorem updatesKept {θ : Type} [DecidableEq θ] (db : UserDb fold)
    {ls : List (WorkerStep θ UserTask Occasion)} {w : UserWorkers fold θ}
    (h : Run (Workers.step UserTask.body reply) (Workers.guarded writesFresh)
      (Workers.init db) ls w) :
    UpdatesKept w := by
  intro s body v f hsucceeded hv
  have hj := Workers.journal overlays_kept h
  obtain ⟨r, hr, hfields⟩ := carried_of_stored hj (stored_of_succeeded hj hsucceeded)
  exact ⟨r, hr, hfields f v hv⟩

/-- A success for a user that has set a nickname. -/
def setsNickname (u : Nat) (nickname : String) : UserEvent id Bool → Bool
  | .call _ (.handleUserUpdate s _ body) _ (.outside (.send _ frame)) _ _ =>
    decide (s.userId = u ∧ ProfileField.nickname.setBy body = some nickname ∧
      frame.type = .userUpdateResponse)
  | _ => false

/-- The nickname that the request of a call sets. -/
def nicknameOf : UserEvent id Bool → Option String
  | .call _ (.handleUserUpdate _ _ body) .. => ProfileField.nickname.setBy body
  | _ => none

/-- A user to update. -/
def oneUser : UserDb id :=
  ((UserDb.empty id).insertUser "ann" "$argon2id$v=19$secret" "Ann" 0).getD (.empty id)

/-- A request of a session of that user. -/
def update (field : ProfileField) (value : String) : UserTask :=
  .handleUserUpdate ⟨0, 1, true⟩ 1 (.object [(field.key, .string value)])

/-- A request after another. -/
theorem updatesKept_two : ∃ w : UserWorkers id Bool,
    w.log.any (setsNickname 1 "Bea") = true ∧ UpdatesKept w := by
  have hrun : ((exec (Workers.guardedStep UserTask.body reply writesFresh)
      (Workers.init oneUser : UserWorkers id Bool)
      [.start false (update .nickname "Bea"), .start true (update .signature "hi"),
        .call false calmly, .call false calmly, .call true calmly, .call true calmly,
        .call true calmly, .call false calmly, .finish false, .finish true]).map
          fun w => w.log.any (setsNickname 1 "Bea")) = some true := by
    decide +kernel
  obtain ⟨w, hw, hany⟩ := Option.map_eq_some_iff.1 hrun
  exact ⟨w, hany, updatesKept oneUser (Workers.run_of_guardedStep hw)⟩

/-- Which fields a request sets. -/
def fieldsSet (body : Json) : Bool × Bool × Bool :=
  ((ProfileField.nickname.setBy body).isSome, (ProfileField.avatarUrl.setBy body).isSome,
    (ProfileField.signature.setBy body).isSome)

/-- The requests that have returned. -/
def returned (l : List (UserEvent id Bool)) : List (Session × Json) :=
  l.filterMap fun e =>
    match e with
    | .ret _ (.handleUserUpdate s _ body) _ => some (s, body)
    | _ => none

/-- The last thing a worker did was to answer with success. -/
def justSucceeded (t : Bool) : List (UserEvent id Bool) → Bool
  | [] => false
  | .call u _ _ (.outside (.send _ frame)) _ _ :: l =>
    if u = t then decide (frame.type = .userUpdateResponse) else justSucceeded t l
  | e :: l => if e.worker = t then false else justSucceeded t l

/-- Only USER_UPDATEs of one user have returned, each after a success. -/
def allSucceeded (u : Nat) : List (UserEvent id Bool) → Bool
  | [] => true
  | .ret t (.handleUserUpdate s _ _) _ :: l =>
    decide (s.userId = u) && justSucceeded t l && allSucceeded u l
  | .ret .. :: _ => false
  | .call .. :: l => allSucceeded u l

/-- Finished requests of one user for different fields, all answered with success. -/
structure OnlyUpdates (u : Nat) (w : UserWorkers id Bool) : Prop where
  finished : ∀ t, (w.job t).isNone = true
  succeeded : allSucceeded u w.log = true
  different : (returned w.log).Pairwise fun x y => fieldsSet x.2 ≠ fieldsSet y.2

instance (u : Nat) (w : UserWorkers id Bool) : Decidable (OnlyUpdates u w) :=
  decidable_of_iff ((∀ t, (w.job t).isNone = true) ∧ allSucceeded u w.log = true ∧
    (returned w.log).Pairwise fun x y => fieldsSet x.2 ≠ fieldsSet y.2)
    ⟨fun ⟨hf, hs, hd⟩ => ⟨hf, hs, hd⟩, fun h => ⟨h.finished, h.succeeded, h.different⟩⟩

/-- Both requests have read the row before one of them writes it. -/
theorem not_updatesKept :
    ¬ ∀ (db : UserDb id) (u : Nat) (ls : List (WorkerStep Bool UserTask Occasion))
      (w : UserWorkers id Bool),
      Run (Workers.step UserTask.body reply) anyStep (Workers.init db) ls w → OnlyUpdates u w →
        UpdatesKept w := by
  intro h
  have hrun : ((exec (Workers.step UserTask.body reply)
      (Workers.init oneUser : UserWorkers id Bool)
      [.start false (update .nickname "Bea"), .start true (update .signature "hi"),
        .call false calmly, .call true calmly, .call false calmly, .call true calmly,
        .call true calmly, .call false calmly, .finish false, .finish true]).map fun w =>
          (decide (OnlyUpdates 1 w), w.log.any (setsNickname 1 "Bea"),
            (w.state.users.find? 1).map (·.info.nickname),
            w.log.all fun e => decide (nicknameOf e ≠ some "Ann"))) =
        some (true, true, some "Ann", true) := by
    decide +kernel
  obtain ⟨w, hw, hseen⟩ := Option.map_eq_some_iff.1 hrun
  obtain ⟨honly, hrest⟩ := Prod.mk.inj hseen
  obtain ⟨hany, hrest⟩ := Prod.mk.inj hrest
  obtain ⟨hnickname, hother⟩ := Prod.mk.inj hrest
  have hkept := h oneUser 1 _ w (exec_run hw) (of_decide_eq_true honly)
  obtain ⟨e, he, hsets⟩ := List.any_eq_true.1 hany
  unfold setsNickname at hsets
  split at hsets
  case h_2 => cases hsets
  case h_1 t s sequence body db receiver frame answer db' =>
    obtain ⟨hs, hv, htype⟩ := of_decide_eq_true hsets
    obtain ⟨r, hr, s', body', -, hstored, hset⟩ :=
      hkept s body "Bea" .nickname ⟨t, sequence, receiver, frame, db, db', he, htype⟩ hv
    rw [hs] at hr
    rw [hr] at hnickname
    have hann : ProfileField.nickname.get r.info = "Ann" := Option.some.inj hnickname
    obtain ⟨t', sequence', user, d, d', hmem⟩ := hstored
    exact of_decide_eq_true (List.all_eq_true.1 hother _ hmem) (hset.trans (congrArg some hann))

end ChatApp.Users

/-
  `UserManager`, `handle_user_update` and `BotManager::create_bot_user` over single `Database`
  calls. `expand` gives the operations of the session back; `create_bot_user` runs before there
  are sessions, and is written only here.
-/
import ChatApp.Session.Handlers
import ChatApp.Session.Methods
import ChatApp.Users.Store

namespace ChatApp.Users

open ChatApp.Lib ChatApp.Database ChatApp.Protocol ChatApp.Session

/-- The methods of `Database` that these operations call. -/
inductive UserMethod
  | createUser (username password nickname : String)
  | getUserById (userId : Nat)
  | getUserByUsername (username : String)
  | getUserPasswordHash (username : String)
  | updateUser (user : UserInfo)
  | updateUserPassword (userId : Nat) (newPassword : String)
  | updateUserOnlineStatus (userId : Nat) (status : OnlineStatus)

abbrev UserMethod.Answer : UserMethod → Type
  | createUser .. => Option Nat
  | getUserById _ | getUserByUsername _ => Option UserInfo
  | getUserPasswordHash _ => Option String
  | updateUser _ | updateUserPassword .. | updateUserOnlineStatus .. => Bool

def UserMethod.prog : (c : UserMethod) → DbProg c.Answer
  | createUser username password nickname => Database.createUser username password nickname
  | getUserById userId => Database.getUserById userId
  | getUserByUsername username => Database.getUserByUsername username
  | getUserPasswordHash username => Database.getUserPasswordHash username
  | updateUser user => Database.updateUser user
  | updateUserPassword userId newPassword => Database.updateUserPassword userId newPassword
  | updateUserOnlineStatus userId status => Database.updateUserOnlineStatus userId status

abbrev userMethods : Methods := ⟨UserMethod, UserMethod.Answer, UserMethod.prog⟩

abbrev UserM := MethodM userMethods

namespace UserM

open Methods (outside expand)

def request (c : UserMethod) : UserM c.Answer := userMethods.call c

/-! ## `UserManager` -/

def registerUser (username password nickname : String) : UserM (Except String Nat) := do
  if (← request (.getUserByUsername username)).isSome then return .error "Username already exists"
  let hashedPassword ← outside (UserManager.hashPassword password)
  match ← request (.createUser username hashedPassword nickname) with
  | none => return .error "Failed to create user"
  | some userId => return .ok userId

/-- The upgrade of an old hash at a login. -/
def upgradeHash (userId : Nat) (password storedHash : String) : UserM Unit := do
  if UserManager.isArgon2Hash storedHash then return
  match ← outside (Session.request (.hashPassword password)) with
  | some newHash =>
    let _ ← request (.updateUserPassword userId newHash)
  | none => pure ()

def login (username password : String) : UserM (Except String UserInfo) := do
  match ← request (.getUserByUsername username) with
  | none => return .error "User not found"
  | some userInfo =>
    match ← request (.getUserPasswordHash username) with
    | none => return .error "Failed to retrieve password"
    | some storedHash =>
      if !(← outside (Session.request (.verifyPassword password storedHash))) then
        return .error "Invalid password"
      upgradeHash userInfo.userId password storedHash
      return .ok userInfo

def updatePassword (userId : Nat) (oldPassword newPassword : String) :
    UserM (Except String Unit) := do
  match ← request (.getUserById userId) with
  | none => return .error "User not found"
  | some user =>
    match ← request (.getUserPasswordHash user.username) with
    | none => return .error "Failed to retrieve password"
    | some storedHash =>
      if !(← outside (Session.request (.verifyPassword oldPassword storedHash))) then
        return .error "Invalid old password"
      let hashedNew ← outside (UserManager.hashPassword newPassword)
      return if ← request (.updateUserPassword userId hashedNew) then .ok () else .error ""

def setOnlineStatus (userId : Nat) (status : OnlineStatus) : UserM Bool :=
  request (.updateUserOnlineStatus userId status)

/-! ## The profile -/

/-- The fields that a USER_UPDATE mentions, over those of the row. -/
def overlay (body : Json) (user : UserInfo) : Except JsonError UserInfo := do
  let nickname ← Session.updateField body "nickname" user.nickname
  let avatarUrl ← Session.updateField body "avatar_url" user.avatarUrl
  let signature ← Session.updateField body "signature" user.signature
  return { user with nickname, avatarUrl, signature }

section
variable (s : Session) (sequence : UInt32) (body : Json)

/-- What `handle_user_update` does with the row that it has read. -/
def storeProfile (user : UserInfo) : UserM Unit := do
  let user ← outside (read (overlay body user))
  if ← request (.updateUser user) then
    outside (s.respond sequence .userUpdateResponse (userJson user))
  else outside (s.sendError sequence 500 "Failed to update user info")

def handleUserUpdate : UserM Unit :=
  if s.authenticated then do
    let user ← match ← request (.getUserById s.userId) with
      | some user => pure user
      | none => outside (Session.request .uninitialisedUser)
    storeProfile s sequence body user
  else outside (s.sendError sequence 401 "Not authenticated")

end

/-! ## The bot -/

/-- `create_bot_user`: the configuration after it, unless it fails. The password holds the ticks
    of `system_clock`. -/
def createBotUser (config : BotConfig) (ticks : Int) : UserM (Option BotConfig) := do
  let existingUser ← if config.botUsername.isEmpty then pure none
    else request (.getUserByUsername config.botUsername)
  match existingUser with
  | some user => return some { config with botUserId := user.userId }
  | none =>
    let username := if config.botUsername.isEmpty then "deepseek_bot" else config.botUsername
    let nickname := if config.botNickname.isEmpty then "AI 助手" else config.botNickname
    match ← request (.createUser username ("bot_" ++ toString ticks) nickname) with
    | some userId =>
      return some { config with
        botUserId := userId, botUsername := username, botNickname := nickname }
    | none => return none

/-! ## The operations as they are -/

theorem expand_request (c : UserMethod) : expand (request c) = db c.prog :=
  Methods.expand_call (M := userMethods) c

theorem expand_registerUser (n p k : String) :
    expand (registerUser n p k) = UserManager.registerUser n p k := by
  simp only [registerUser, UserManager.registerUser, Methods.expand_bind, Methods.expand_ite,
    Methods.expand_pure, Methods.expand_outside, expand_request (.getUserByUsername n),
    UserMethod.prog]
  congr 1
  funext existing
  congr 2
  funext hash
  rw [expand_request (.createUser n hash k)]
  congr 1
  funext userId
  cases userId <;> rfl

theorem expand_upgradeHash (u : Nat) (p h : String) :
    expand (upgradeHash u p h) = UserManager.upgradeHash u p h := by
  simp only [upgradeHash, UserManager.upgradeHash, Methods.expand_bind, Methods.expand_ite,
    Methods.expand_pure, Methods.expand_outside]
  congr 2
  funext hash
  cases hash with
  | none => rfl
  | some hash =>
    simp only [Methods.expand_bind, Methods.expand_pure,
      expand_request (.updateUserPassword u hash),
      UserMethod.prog]

theorem expand_login (n p : String) : expand (login n p) = UserManager.login n p := by
  simp only [login, UserManager.login, Methods.expand_bind, expand_request (.getUserByUsername n),
    UserMethod.prog]
  congr 1
  funext user
  cases user with
  | none => rfl
  | some user =>
    simp only [Methods.expand_bind, expand_request (.getUserPasswordHash n), UserMethod.prog]
    congr 1
    funext hash
    cases hash with
    | none => rfl
    | some hash =>
      simp only [Methods.expand_bind, Methods.expand_ite, Methods.expand_pure,
        Methods.expand_outside, expand_upgradeHash]

theorem expand_updatePassword (u : Nat) (o n : String) :
    expand (updatePassword u o n) = UserManager.updatePassword u o n := by
  simp only [updatePassword, UserManager.updatePassword, Methods.expand_bind,
    expand_request (.getUserById u), UserMethod.prog]
  congr 1
  funext user
  cases user with
  | none => rfl
  | some user =>
    simp only [Methods.expand_bind, expand_request (.getUserPasswordHash user.username),
      UserMethod.prog]
    congr 1
    funext hash
    cases hash with
    | none => rfl
    | some hash =>
      simp only [Methods.expand_bind, Methods.expand_ite, Methods.expand_pure,
        Methods.expand_outside, orFail]
      rfl

theorem read_overlay (body : Json) (user : UserInfo) :
    read (overlay body user) = do
      let nickname ← read (Session.updateField body "nickname" user.nickname)
      let avatarUrl ← read (Session.updateField body "avatar_url" user.avatarUrl)
      let signature ← read (Session.updateField body "signature" user.signature)
      return { user with nickname, avatarUrl, signature } := by
  unfold overlay
  cases Session.updateField body "nickname" user.nickname with
  | error e => rfl
  | ok nickname =>
    cases Session.updateField body "avatar_url" user.avatarUrl with
    | error e => rfl
    | ok avatarUrl => cases Session.updateField body "signature" user.signature <;> rfl

section
variable (s : Session) (sequence : UInt32) (body : Json)

theorem expand_storeProfile (user : UserInfo) :
    expand (storeProfile s sequence body user) = (do
      let nickname ← read (Session.updateField body "nickname" user.nickname)
      let avatarUrl ← read (Session.updateField body "avatar_url" user.avatarUrl)
      let signature ← read (Session.updateField body "signature" user.signature)
      let user := { user with nickname, avatarUrl, signature }
      if ← db (Database.updateUser user) then
        s.respond sequence .userUpdateResponse (userJson user)
      else s.sendError sequence 500 "Failed to update user info") := by
  have hstore : ∀ user, expand (request (.updateUser user)) = db (Database.updateUser user) :=
    fun user => expand_request (.updateUser user)
  simp only [storeProfile, Methods.expand_bind, Methods.expand_outside, Methods.expand_ite, hstore,
    read_overlay, bind_assoc, pure_bind]

theorem expand_handleUserUpdate :
    expand (handleUserUpdate s sequence body) = s.handleUserUpdate sequence body := by
  simp only [handleUserUpdate, Session.handleUserUpdate, Session.authenticatedOnly,
    Methods.expand_ite, Methods.expand_bind, Methods.expand_outside,
    expand_request (.getUserById s.userId), UserMethod.prog]
  congr 2
  funext user
  cases user <;> simp only [Methods.expand_bind, Methods.expand_pure, Methods.expand_outside,
    expand_storeProfile]

end

end UserM

/-! ## What runs at the same time -/

inductive UserTask
  | register (username password nickname : String)
  | login (username password : String)
  | updatePassword (userId : Nat) (oldPassword newPassword : String)
  | setOnlineStatus (userId : Nat) (status : OnlineStatus)
  | handleUserUpdate (s : Session) (sequence : UInt32) (body : Json)
  | createBotUser (config : BotConfig) (ticks : Int)

namespace UserTask

abbrev Result : UserTask → Type
  | register .. => Except String Nat
  | login .. => Except String UserInfo
  | updatePassword .. => Except String Unit
  | setOnlineStatus .. => Bool
  | handleUserUpdate .. => Unit
  | createBotUser .. => Option BotConfig

def prog : (op : UserTask) → UserM op.Result
  | register username password nickname => UserM.registerUser username password nickname
  | login username password => UserM.login username password
  | updatePassword userId oldPassword newPassword =>
    UserM.updatePassword userId oldPassword newPassword
  | setOnlineStatus userId status => UserM.setOnlineStatus userId status
  | handleUserUpdate s sequence body => UserM.handleUserUpdate s sequence body
  | createBotUser config ticks => UserM.createBotUser config ticks

/-- The task of a worker. -/
def body (op : UserTask) : Prog userMethods.interface (Except Stop op.Result) := op.prog.run

/-- The methods that a task may call. -/
def MayCall : UserTask → MethodCall userMethods → Prop
  | _, .outside _ => True
  | register .., .method (.getUserByUsername _) | register .., .method (.createUser ..)
  | login .., .method (.getUserByUsername _) | login .., .method (.getUserPasswordHash _)
  | login .., .method (.updateUserPassword ..)
  | updatePassword .., .method (.getUserById _)
  | updatePassword .., .method (.getUserPasswordHash _)
  | updatePassword .., .method (.updateUserPassword ..)
  | setOnlineStatus .., .method (.updateUserOnlineStatus ..)
  | handleUserUpdate .., .method (.getUserById _) | handleUserUpdate .., .method (.updateUser _)
  | createBotUser .., .method (.getUserByUsername _)
  | createBotUser .., .method (.createUser ..) => True
  | _, _ => False

theorem mayCall_outside (op : UserTask) (c : Session.Call) : op.MayCall (.outside c) := by
  cases op <;> trivial

theorem callsOnly_outside (op : UserTask) {α : Type} (p : SessionM α) :
    Prog.CallsOnly op.MayCall (Methods.outside p : UserM α).run :=
  Methods.callsOnly_outside op.mayCall_outside p

theorem callsOnly_register (n p k : String) :
    Prog.CallsOnly (register n p k).MayCall (UserM.registerUser n p k).run := by
  refine Prog.callsOnly_bindE (Methods.callsOnly_call trivial) fun existing => ?_
  refine Prog.callsOnly_iteE (fun _ => trivial) fun _ => ?_
  refine Prog.callsOnly_bindE (callsOnly_outside _ _) fun hash => ?_
  refine Prog.callsOnly_bindE (Methods.callsOnly_call trivial) fun userId => ?_
  cases userId <;> trivial

theorem callsOnly_login (n p : String) :
    Prog.CallsOnly (login n p).MayCall (UserM.login n p).run := by
  refine Prog.callsOnly_bindE (Methods.callsOnly_call trivial) fun user => ?_
  cases user with
  | none => trivial
  | some user =>
    refine Prog.callsOnly_bindE (Methods.callsOnly_call trivial) fun hash => ?_
    cases hash with
    | none => trivial
    | some hash =>
      refine Prog.callsOnly_bindE (callsOnly_outside _ _) fun verified => ?_
      refine Prog.callsOnly_iteE (fun _ => trivial) fun _ => ?_
      refine Prog.callsOnly_bindE (Prog.callsOnly_iteE (fun _ => trivial) fun _ => ?_)
        fun _ => trivial
      refine Prog.callsOnly_bindE (callsOnly_outside _ _) fun newHash => ?_
      cases newHash with
      | none => trivial
      | some newHash => exact Prog.callsOnly_bindE (Methods.callsOnly_call trivial) fun _ => trivial

theorem callsOnly_updatePassword (u : Nat) (o n : String) :
    Prog.CallsOnly (updatePassword u o n).MayCall (UserM.updatePassword u o n).run := by
  refine Prog.callsOnly_bindE (Methods.callsOnly_call trivial) fun user => ?_
  cases user with
  | none => trivial
  | some user =>
    refine Prog.callsOnly_bindE (Methods.callsOnly_call trivial) fun hash => ?_
    cases hash with
    | none => trivial
    | some hash =>
      refine Prog.callsOnly_bindE (callsOnly_outside _ _) fun verified => ?_
      refine Prog.callsOnly_iteE (fun _ => trivial) fun _ => ?_
      refine Prog.callsOnly_bindE (callsOnly_outside _ _) fun hashedNew => ?_
      exact Prog.callsOnly_bindE (Methods.callsOnly_call trivial) fun ok => trivial

section
variable (s : Session) (sequence : UInt32) (body : Json)

theorem callsOnly_storeProfile (user : UserInfo) :
    Prog.CallsOnly (handleUserUpdate s sequence body).MayCall
      (UserM.storeProfile s sequence body user).run := by
  refine Prog.callsOnly_bindE (callsOnly_outside _ _) fun user => ?_
  refine Prog.callsOnly_bindE (Methods.callsOnly_call trivial) fun ok => ?_
  exact Prog.callsOnly_iteE (fun _ => callsOnly_outside _ _) fun _ => callsOnly_outside _ _

theorem callsOnly_handleUserUpdate :
    Prog.CallsOnly (handleUserUpdate s sequence body).MayCall
      (UserM.handleUserUpdate s sequence body).run := by
  refine Prog.callsOnly_iteE (fun _ => ?_) fun _ => callsOnly_outside _ _
  refine Prog.callsOnly_bindE (Methods.callsOnly_call trivial) fun user => ?_
  cases user with
  | some user => exact callsOnly_storeProfile s sequence body user
  | none =>
    exact Prog.callsOnly_bindE (callsOnly_outside _ _) (callsOnly_storeProfile s sequence body)

end

theorem callsOnly_createBotUser (config : BotConfig) (ticks : Int) :
    Prog.CallsOnly (createBotUser config ticks).MayCall (UserM.createBotUser config ticks).run := by
  refine Prog.callsOnly_iteE
    (fun _ => Prog.callsOnly_bindE (p := pure none) trivial fun existing => ?_)
    fun _ => Prog.callsOnly_bindE (Methods.callsOnly_call trivial) fun existing => ?_
  all_goals
    cases existing with
    | some user => trivial
    | none =>
      refine Prog.callsOnly_bindE (Methods.callsOnly_call trivial) fun userId => ?_
      cases userId <;> trivial

theorem callsOnly_body (op : UserTask) : Prog.CallsOnly op.MayCall op.body := by
  cases op with
  | register n p k => exact callsOnly_register n p k
  | login n p => exact callsOnly_login n p
  | updatePassword u o n => exact callsOnly_updatePassword u o n
  | setOnlineStatus u status => exact Methods.callsOnly_call trivial
  | handleUserUpdate s sequence body => exact callsOnly_handleUserUpdate s sequence body
  | createBotUser config ticks => exact callsOnly_createBotUser config ticks

end UserTask

variable {fold : String → String}

/-- What a call answers on an occasion, and the table after it. -/
def reply (x : Occasion) (db : UserDb fold) (c : MethodCall userMethods) :
    c.Answer × UserDb fold :=
  userMethods.answer (UserDb.exec fold) x db c

abbrev UserEvent (fold : String → String) (θ : Type) :=
  Event userMethods.interface (UserDb fold) θ UserTask fun op => Except Stop op.Result

abbrev UserWorkers (fold : String → String) (θ : Type) :=
  Workers userMethods.interface (UserDb fold) θ UserTask fun op => Except Stop op.Result

abbrev UserCall := Made userMethods.interface UserTask

abbrev UserContract (τ : Type) :=
  Contract userMethods.interface UserTask (fun op => Except Stop op.Result) τ

end ChatApp.Users

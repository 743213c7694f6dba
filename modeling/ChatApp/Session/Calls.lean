/-
  What a request handler of `Session` calls, and the programs over these calls. A handler runs on
  a worker thread; `handle_message` is called inside a try block that logs and drops every
  exception, so an exception ends the handler (`Stop`).

  The `Database` methods are the programs of `Database.Methods`, lifted call by call (`db`). A
  thread that locks `mutex_` while it holds it never goes on; that is a `Stop` too.

  The session's own `user_id_` and `authenticated_` are read when the handler starts. `server_`
  is set for every session that `handle_accept` makes. The push services and the file system are
  answered from outside.
-/
import ChatApp.Lib.Prog
import ChatApp.Protocol.Frames

namespace ChatApp.Session

open ChatApp.Lib ChatApp.Database ChatApp.Protocol

abbrev SessionId := Nat

/-- The session that handles a request. -/
structure Session where
  id : SessionId
  userId : Nat
  authenticated : Bool

/-- `BotConfig`, as far as messages to the bot depend on it. -/
structure BotConfig where
  botUserId : Nat
  botUsername : String
  botNickname : String
  autoAcceptFriend : Bool
  /-- `is_enabled()` -/
  enabled : Bool
  maxCharCount : Int

inductive Call
  | db (c : Database.Call)
  /-- `send` of the session `x` -/
  | send (x : SessionId) (frame : Frame)
  /-- `close` of the own session -/
  | close
  | setUserId (userId : Nat)
  | setAuthenticated (auth : Bool)
  /-- `server_->set_user_online(user_id, shared_from_this())` -/
  | setUserOnline (userId : Nat)
  | isUserActive (userId : Nat)
  /-- the look-up in `send_to_user` -/
  | getSession (userId : Nat)
  /-- the authenticated sessions of the table, in `broadcast` -/
  | authenticatedSessions
  /-- `system_clock::now()` in seconds -/
  | systemClock
  /-- `none` is the exception of `hash_password` -/
  | hashPassword (password : String)
  | verifyPassword (password hash : String)
  /-- the JPush or the FCM manager is there -/
  | hasJpush
  | hasFcm
  /-- a push notification; false is an exception -/
  | notifyJpush (receiverId : Nat) (title body : String)
  | notifyFcm (receiverId : Nat) (title body : String)
  /-- `bot_manager_` and its configuration -/
  | bot
  /-- the entry into `processing_messages_`; false if it is there -/
  | botBegin (messageId : Nat)
  /-- `get_user_session_id` -/
  | botSessionId (userId : Nat)
  | setBotSessionId (userId : Nat) (sessionId : String)
  /-- `deepseek_client_->chat`, which answers later -/
  | botChat (conversationId content : String)
  /-- the directory and the file name that `handle_media_upload` makes, and `mkdir` -/
  | mediaPath (userId : Nat) (extension : String)
  /-- opening and writing the file -/
  | writeFile (path : String) (data : List UInt8)
  | removeFile (path : String)
  /-- what a record holds before it is filled in -/
  | uninitialisedMessage
  | uninitialisedUser

abbrev Call.Answer : Call → Type
  | db c => c.Answer
  | send .. | close | setUserId _ | setAuthenticated _ | setUserOnline _ | setBotSessionId ..
  | botChat .. | removeFile _ => Unit
  | isUserActive _ | verifyPassword .. | hasJpush | hasFcm | notifyJpush .. | notifyFcm ..
  | botBegin _ | writeFile .. => Bool
  | getSession _ => Option SessionId
  | authenticatedSessions => List SessionId
  | systemClock => Int
  | hashPassword _ => Option String
  | bot => Option BotConfig
  | botSessionId _ => String
  | mediaPath .. => String × String
  | uninitialisedMessage => Message
  | uninitialisedUser => UserInfo

instance : (c : Database.Call) → Inhabited c.Answer
  | .lock | .unlock | .close => ⟨()⟩
  | .hasConnection | .ping | .init | .realConnect | .query _ => ⟨false⟩
  | .storeResult => ⟨none⟩
  | .insertId | .fileSize _ => ⟨(0 : Nat)⟩
  | .timestamp => ⟨(0 : Int)⟩

instance : (c : Call) → Inhabited c.Answer
  | .db c => inferInstanceAs (Inhabited c.Answer)
  | .send .. | .close | .setUserId _ | .setAuthenticated _ | .setUserOnline _ | .setBotSessionId ..
  | .botChat .. | .removeFile _ => ⟨()⟩
  | .isUserActive _ | .verifyPassword .. | .hasJpush | .hasFcm | .notifyJpush .. | .notifyFcm ..
  | .botBegin _ | .writeFile .. => ⟨false⟩
  | .getSession _ | .hashPassword _ | .bot => ⟨none⟩
  | .authenticatedSessions => ⟨[]⟩
  | .systemClock => ⟨(0 : Int)⟩
  | .botSessionId _ => ⟨""⟩
  | .mediaPath .. => ⟨("", "")⟩
  | .uninitialisedMessage => ⟨⟨0, 0, 0, 0, ⟨0⟩, "", "", "", .sending, 0⟩⟩
  | .uninitialisedUser => ⟨⟨0, "", "", "", "", .offline, 0, 0⟩⟩

abbrev interface : Interface := ⟨Call, Call.Answer⟩

/-- Why a handler ends early. -/
inductive Stop
  | json (e : JsonError)
  | hashFailed
  | pushFailed
  | selfDeadlock
  deriving DecidableEq, Repr

abbrev SessionM := ExceptT Stop (Prog interface)

def request (c : Call) : SessionM c.Answer := ExceptT.lift (Prog.perform (I := interface) c)

/-- An accessor of the request body, whose exception ends the handler. -/
def read {α : Type} (x : Except JsonError α) : SessionM α :=
  match x with
  | .ok a => pure a
  | .error e => throw (.json e)

section
variable {α β σ ε : Type} {P : Protocol interface σ} {p : SessionM α} {f : α → SessionM β}

/-- An accessor that returns, in front of the rest. -/
theorem read_bind {x : Except JsonError α} {a : α} (h : x = .ok a) (f : α → SessionM β) :
    read x >>= f = f a := by
  rw [h]
  exact pure_bind a f

/-- What `>>=` does with a result. -/
theorem run_bind_eq : ExceptT.run (p >>= f) = ExceptT.run p >>= fun r =>
    match r with
    | .ok a => ExceptT.run (f a)
    | .error stop => .ret (.error stop) := by
  rw [Prog.run_bindE]
  congr 1
  funext r
  cases r <;> rfl

theorem callsOnly_bindM {A : Call → Prop} (hp : Prog.CallsOnly A p.run)
    (hf : ∀ a, Prog.CallsOnly A (f a).run) : Prog.CallsOnly A (p >>= f).run := by
  rw [run_bind_eq]
  refine Prog.callsOnly_bind hp fun r => ?_
  cases r with
  | ok a => exact hf a
  | error stop => trivial

theorem callsOnly_pureM {A : Call → Prop} (a : α) :
    Prog.CallsOnly A (pure a : SessionM α).run := trivial

theorem callsOnly_requestM {A : Call → Prop} {c : Call} (h : A c) :
    Prog.CallsOnly A (request c).run := ⟨h, fun _ => trivial⟩

theorem callsOnly_iteM {A : Call → Prop} {b : Prop} [Decidable b] {q : SessionM α}
    (hp : Prog.CallsOnly A p.run) (hq : Prog.CallsOnly A q.run) :
    Prog.CallsOnly A (if b then p else q).run := by
  split
  · exact hp
  · exact hq

theorem steps_bindM {env : ε → (c : Call) → c.Answer × ε} {e : ε} :
    Prog.steps env (p >>= f).run e = Prog.steps env p.run e ++
      match Prog.run env p.run e with
      | (.ok a, e') => Prog.steps env (f a).run e'
      | (.error _, _) => [] := by
  rw [run_bind_eq, Prog.steps_bind]
  cases Prog.run env p.run e with
  | mk r e' => cases r <;> rfl

theorem log_bindM {env : ε → (c : Call) → c.Answer × ε} {e : ε} :
    Prog.log env (p >>= f).run e = Prog.log env p.run e ++
      match Prog.run env p.run e with
      | (.ok a, e') => Prog.log env (f a).run e'
      | (.error _, _) => [] := by
  rw [run_bind_eq, Prog.log_bind]
  cases Prog.run env p.run e with
  | mk r e' => cases r <;> rfl

theorem follows_bindM {s : σ} {Q : Except Stop β → σ → Prop} :
    Prog.Follows P s (p >>= f).run Q ↔ Prog.Follows P s p.run fun r s' =>
      match r with
      | .ok a => Prog.Follows P s' (f a).run Q
      | .error stop => Q (.error stop) s' := by
  rw [Prog.follows_bindE]
  refine ⟨fun h => h.mono ?_, fun h => h.mono ?_⟩
  · intro r s' h'
    cases r <;> exact h'
  · intro r s' h'
    cases r <;> exact h'

theorem follows_requestM {s : σ} {c : Call} {Q : Except Stop c.Answer → σ → Prop} :
    Prog.Follows P s (request c).run Q ↔ P.allows s c ∧ ∀ a, Q (.ok a) (P.next s c a) :=
  Prog.follows_liftE

end

/-! ## The database -/

/-- Does the thread hold `mutex_` after the call? -/
def holds (held : Bool) : Database.Call → Bool
  | .lock => true
  | .unlock => false
  | _ => held

/-- A call of the database by a thread that holds `mutex_` or not. -/
def dbCall (held : Bool) (c : Database.Call) : SessionM c.Answer :=
  match c, held with
  | .lock, true => throw .selfDeadlock
  | c, _ => request (.db c)

def lift {α : Type} : Bool → DbProg α → SessionM α
  | _, .ret a => pure a
  | held, .call c k => dbCall held c >>= fun a => lift (holds held c) (k a)

/-- A method of `Database`, called with `mutex_` free. -/
def db {α : Type} (p : DbProg α) : SessionM α := lift false p

theorem callsOnly_lift {α : Type} {A : Call → Prop} {p : DbProg α}
    (h : Prog.CallsOnly (fun c => A (.db c)) p) (held : Bool) :
    Prog.CallsOnly A (lift held p).run := by
  induction p generalizing held with
  | ret a => trivial
  | call c k ih =>
    refine callsOnly_bindM ?_ fun a => ih a (h.2 a) _
    cases held <;> cases c <;> first | exact ⟨h.1, fun _ => trivial⟩ | trivial

theorem callsOnly_db {α : Type} {A : Call → Prop} (hA : ∀ c, A (.db c)) (p : DbProg α) :
    Prog.CallsOnly A (db p).run :=
  callsOnly_lift (Prog.callsOnly_of_forall hA p) false

/-! ## The server -/

/-- `send` of the own session -/
def Session.send (s : Session) (frame : Frame) : SessionM Unit := request (.send s.id frame)

/-- `Server::send_to_user` -/
def sendToUser (userId : Nat) (frame : Frame) : SessionM Unit := do
  match ← request (.getSession userId) with
  | some x => request (.send x frame)
  | none => pure ()

/-- `for (auto& x : xs)` -/
def forEach {α : Type} (f : α → SessionM Unit) : List α → SessionM Unit
  | [] => pure ()
  | x :: xs => f x >>= fun _ => forEach f xs

/-- `Server::broadcast` -/
def broadcast (frame : Frame) : SessionM Unit := do
  let sessions ← request .authenticatedSessions
  forEach (fun x => request (.send x frame)) sessions

end ChatApp.Session

/-
  What a handler of the gateway calls, and the programs over these calls. A handler runs on the
  thread of its connection. `handle_ws_message` catches the exceptions of nlohmann json; any other,
  such as the one of `hash_password`, leaves the thread (`escaped`), and `operator[]` without the
  member is undefined behaviour.

  The managers are those of `Session`, lifted call by call (`managed`). A text is given by its JSON
  value, also where the source has the text itself. The user and the login of the own connection
  are read when the handler starts. The push services are answered from outside; JPush gets a body
  that is no UTF-8 as it is, FCM throws in `dump`.
-/
import ChatApp.Gateway.Messages
import ChatApp.Session.Managers

namespace ChatApp.Gateway.Handlers

open ChatApp.Lib ChatApp.Protocol ChatApp.Gateway.Messages
open ChatApp.Session (Session SessionM)

/-- A connection by its pointer. -/
abbrev Peer := Nat

inductive Call
  | manager (c : Session.Call)
  /-- `conn->send_text` -/
  | sendText (text : Json)
  | getConnection (userId : Nat)
  /-- `send_text` of another connection -/
  | sendTextTo (peer : Peer) (text : Json)
  | close (peer : Peer)
  | setUserId (userId : Nat)
  | setAuthenticated (auth : Bool)
  /-- `g_ws_server->add_connection(conn)` -/
  | addConnection
  /-- `std::time(nullptr)` -/
  | time
  /-- the manager is there and configured -/
  | hasJpush
  | hasFcm
  | notifyJpush (receiverId : Nat) (title : String) (body : List UInt8)
    (data : List (String × String))
  /-- false is the exception of `dump` -/
  | notifyFcm (receiverId : Nat) (title : String) (body : List UInt8)
    (data : List (String × String))

abbrev Call.Answer : Call → Type
  | manager c => c.Answer
  | sendText _ | sendTextTo .. | close _ | setUserId _ | setAuthenticated _ | addConnection
  | notifyJpush .. => Unit
  | getConnection _ => Option Peer
  | time => Int
  | hasJpush | hasFcm | notifyFcm .. => Bool

instance : (c : Call) → Inhabited c.Answer
  | .manager c => inferInstanceAs (Inhabited c.Answer)
  | .sendText _ | .sendTextTo .. | .close _ | .setUserId _ | .setAuthenticated _ | .addConnection
  | .notifyJpush .. => ⟨()⟩
  | .getConnection _ => ⟨none⟩
  | .time => ⟨(0 : Int)⟩
  | .hasJpush | .hasFcm | .notifyFcm .. => ⟨false⟩

abbrev interface : Interface := ⟨Call, Call.Answer⟩

/-- Why a handler ends early. -/
inductive Failure
  | json (e : JsonException)
  | undefined
  | escaped (stop : Session.Stop)
  deriving DecidableEq, Repr

abbrev GatewayM := ExceptT Failure (Prog interface)

def request (c : Call) : GatewayM c.Answer := ExceptT.lift (Prog.perform (I := interface) c)

/-- What is read from the message. -/
def read {α : Type} (r : Run α) : GatewayM α :=
  match r.result with
  | .value a => pure a
  | .threw e => throw (.json e)
  | .undefined => throw .undefined

/-- A program of a manager. -/
def managed {α : Type} (p : SessionM α) : GatewayM α :=
  ExceptT.mk (Prog.interpret (fun c => Prog.perform (I := interface) (.manager c)) p.run >>=
    fun r => pure (r.mapError Failure.escaped))

/-- A method of `Database`. -/
def db {α : Type} (p : Database.DbProg α) : GatewayM α := managed (Session.db p)

def sendText (text : Json) : GatewayM Unit := request (.sendText text)

/-- `for (auto& x : xs)` -/
def forEach {α : Type} (f : α → GatewayM Unit) : List α → GatewayM Unit
  | [] => pure ()
  | x :: xs => f x >>= fun _ => forEach f xs

end ChatApp.Gateway.Handlers

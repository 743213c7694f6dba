/-
  `WebSocketService`: connecting, heartbeats and reconnects of the client.

  Granularity. A piece of code up to the next `await` is one step, and so is every callback of a
  timer or of a stream. The callbacks of the user of the service do not call it back.

  `_handleDisconnect` and `connect` do not cancel `_subscription`, and a reconnect timer does not
  ask whether there is a connection. The condition on a run (`StartsAlone`): whenever `connect`
  opens a channel, no earlier stream is listened to and no earlier call waits.
-/
import Mathlib.Logic.Function.Basic
import ChatApp.Client.Link
import ChatApp.Lib.Run

namespace ChatApp.Client

open ChatApp.Lib

/-- A stream can be listened to once. What arrives before waits for the listener. -/
inductive StreamPhase
  | unheard
  | live
  | cancelled
  | done
  deriving DecidableEq

structure Channel where
  /-- `ready` has completed -/
  ready : Bool
  /-- the channel has ended, or the service has given it up -/
  ended : Bool
  stream : StreamPhase

inductive ChannelEvent
  /-- `_handleData`: a heartbeat response, or anything else -/
  | data (isHeartbeatResponse : Bool)
  | error
  | done

namespace Channel

def opened : Channel := ⟨false, false, .unheard⟩

def becomeReady (x : Channel) : Channel := { x with ready := true }

def giveUp (x : Channel) : Channel := { x with ended := true }

def listen (x : Channel) : Channel := { x with stream := .live }

/-- `_subscription?.cancel()` -/
def cancel (x : Channel) : Channel :=
  { x with stream := if x.stream = .live then .cancelled else x.stream }

def after (x : Channel) : ChannelEvent → Channel
  | .data _ => x
  | .error => { x with ended := true }
  | .done => { x with ended := true, stream := .done }

end Channel

variable {Address : Type}

structure WebSocketService (Address : Type) extends Link where
  channel : Option Nat
  /-- the channel whose stream it is -/
  subscription : Option Nat
  isConnecting : Bool
  /-- `_host`, `_port` and `_wsPath` -/
  address : Address

namespace WebSocketService

/-- The handler of `connect`. -/
def connectFailed (s : WebSocketService Address) (fromTimer : Bool) : WebSocketService Address :=
  { s with toLink := s.toLink.connectFailed fromTimer, isConnecting := false }

/-- `connect` after `ready`, up to `_startListening`. -/
def connectReady (s : WebSocketService Address) : WebSocketService Address :=
  { s with toLink := s.toLink.connectReady, isConnecting := false }

/-- The listener of `_startListening`. -/
def onEvent (s : WebSocketService Address) : ChannelEvent → WebSocketService Address
  | .data true => { s with toLink := s.toLink.handleHeartbeatResponse }
  | .data false => s
  | .error | .done => { s with toLink := s.toLink.handleDisconnect }

end WebSocketService

/-- A call of `connect` at `await _channel!.ready`. -/
structure Attempt where
  channel : Nat
  /-- called by `_reconnectTimer` -/
  fromTimer : Bool
  deriving DecidableEq

/-- The service, the channels it has opened, and the calls of `connect` that wait. -/
structure Connections (Address : Type) where
  service : WebSocketService Address
  opened : Nat
  channels : Nat → Channel
  attempts : List Attempt

inductive ConnectionLabel (Address : Type)
  | connect (address : Address)
  | disconnect
  /-- the `n`th waiting call goes on: the channel is ready, or has failed, or took too long -/
  | ready (n : Nat)
  | failed (n : Nat)
  | event (c : Nat) (e : ChannelEvent)
  | heartbeat
  | heartbeatTimeout
  | reconnect

namespace Connections

/-- A service that has not been used. -/
def init (address : Address) : Connections Address :=
  ⟨⟨.init, none, none, false, address⟩, 0, fun _ => .opened, []⟩

def update (s : Connections Address) (c : Nat) (f : Channel → Channel) : Connections Address :=
  { s with channels := Function.update s.channels c (f (s.channels c)) }

/-- On the channel of an optional field. -/
def updateAt (s : Connections Address) (c : Option Nat) (f : Channel → Channel) :
    Connections Address :=
  c.elim s fun c => s.update c f

/-- `connect` up to its `await`; `opens` is false where `Uri.parse` throws. -/
def connect (opens : Address → Bool) (s : Connections Address) (address : Address)
    (fromTimer : Bool) : Connections Address :=
  if s.service.isConnecting then
    { s with service := { s.service with toLink := s.service.toLink.backOff fromTimer } }
  else if opens address then
    { s with
      service := { s.service with
        address := address, isConnecting := true, channel := some s.opened }
      opened := s.opened + 1
      attempts := s.attempts ++ [⟨s.opened, fromTimer⟩] }
  else { s with service := { s.service with address := address }.connectFailed fromTimer }

/-- `_startListening` and `_startHeartbeat`. `_channel!` and a second `listen` throw. -/
def listen (s : Connections Address) (fromTimer : Bool) : Connections Address :=
  match s.service.channel with
  | some c =>
    if (s.channels c).stream = .unheard then
      { s.update c Channel.listen with
        service := { s.service with
          subscription := some c, toLink := s.service.toLink.startHeartbeat } }
    else { s with service := s.service.connectFailed fromTimer }
  | none => { s with service := s.service.connectFailed fromTimer }

/-- `connect` after its `await`. -/
def ready (s : Connections Address) (a : Attempt) : Connections Address :=
  let s := { s.update a.channel Channel.becomeReady with service := s.service.connectReady }
  s.listen a.fromTimer

def failed (s : Connections Address) (a : Attempt) : Connections Address :=
  { s.update a.channel Channel.giveUp with service := s.service.connectFailed a.fromTimer }

def disconnect (s : Connections Address) : Connections Address :=
  let cancelled := s.updateAt s.service.subscription Channel.cancel
  { cancelled.updateAt s.service.channel Channel.giveUp with
    service := { s.service with
      toLink := s.service.toLink.disconnect, subscription := none, channel := none
      isConnecting := false } }

/-- The callback of `_heartbeatTimeoutTimer`. -/
def heartbeatTimeout (s : Connections Address) : Connections Address :=
  let r := s.service.toLink.heartbeatTimeout
  let closed := if r.2 then s.updateAt s.service.channel Channel.giveUp else s
  { closed with service := { s.service with toLink := r.1 } }

/-- The stream has a listener, or had one that was cancelled. -/
def delivers (s : Connections Address) (c : Nat) : Bool :=
  (s.channels c).stream = .live || (s.channels c).stream = .cancelled

def event (s : Connections Address) (c : Nat) (e : ChannelEvent) : Connections Address :=
  { s.update c (·.after e) with
    service := if (s.channels c).stream = .live then s.service.onEvent e else s.service }

def step (opens : Address → Bool) (s : Connections Address) :
    ConnectionLabel Address → Option (Connections Address)
  | .connect address => some (s.connect opens address false)
  | .disconnect => some s.disconnect
  | .ready n => s.attempts[n]?.map { s with attempts := s.attempts.eraseIdx n }.ready
  | .failed n => s.attempts[n]?.map { s with attempts := s.attempts.eraseIdx n }.failed
  | .event c e => if s.delivers c then some (s.event c e) else none
  | .heartbeat =>
    if s.service.heartbeatTimer then
      some { s with service := { s.service with toLink := s.service.toLink.sendHeartbeat } }
    else none
  | .heartbeatTimeout =>
    if s.service.heartbeatTimeoutTimer then some s.heartbeatTimeout else none
  | .reconnect =>
    if s.service.reconnectTimer then
      some ({ s with service := { s.service with reconnectTimer := false } }.connect opens
        s.service.address true)
    else none

/-- No stream is listened to, and no call of `connect` waits. -/
def Alone (s : Connections Address) : Prop :=
  (∀ c < s.opened, (s.channels c).stream ≠ .live) ∧ s.attempts = []

/-- A call of `connect` that goes on finds no stream that is listened to and no call that waits.
    Where `Uri.parse` throws, this matters only if there is a connection. -/
def MayConnect (opens : Address → Bool) (s : Connections Address) (address : Address) : Prop :=
  s.service.isConnecting = false → opens address = true ∨ s.service.isConnected = true → s.Alone

def StartsAlone (opens : Address → Bool) (s : Connections Address) :
    ConnectionLabel Address → Prop
  | .connect address => s.MayConnect opens address
  | .reconnect => s.MayConnect opens s.service.address
  | _ => True

instance (s : Connections Address) : Decidable s.Alone := inferInstanceAs (Decidable (_ ∧ _))

instance (opens : Address → Bool) (s : Connections Address) :
    (l : ConnectionLabel Address) → Decidable (s.StartsAlone opens l)
  | .connect _ | .reconnect => inferInstanceAs (Decidable (_ → _ ∨ _ → _))
  | .disconnect | .ready _ | .failed _ => isTrue trivial
  | .event .. | .heartbeat | .heartbeatTimeout => isTrue trivial

/-- The channel has become ready, and has neither ended nor been given up. -/
def Open (s : Connections Address) (c : Nat) : Prop :=
  (s.channels c).ready = true ∧ (s.channels c).ended = false

structure Sound (opens : Address → Bool) (s : Connections Address) : Prop where
  oneListener : ∀ c d, (s.channels c).stream = .live → (s.channels d).stream = .live → c = d
  /-- an event of another channel than the current one changes this other channel only -/
  earlier : ∀ c e t, s.service.channel ≠ some c → s.step opens (.event c e) = some t →
    t = s.update c (·.after e)
  connected : s.service.isConnected = true ↔ ∃ c, s.service.channel = some c ∧ s.Open c

end Connections

end ChatApp.Client

/-
  `NetworkService` over its connections. There is one `_buffer` for all of them, and only
  `disconnect` clears it; the listener of a socket stays when the connection is given up, and a
  socket that is replaced can still deliver. So the rest of a frame of the old connection gets in
  front of the first frame of the new one (`rest_of_old_frame`).

  The condition on a run (`Clean`): the buffer is empty whenever a connection is made, and data
  arrives on the current socket only.

  The granularity is that of `WebSocketService`. On each socket the server sends frames; what has
  been received is a prefix of them.
-/
import ChatApp.Client.Link
import ChatApp.Lib.Run
import ChatApp.Protocol.Codec

namespace ChatApp.Client

open ChatApp.Lib ChatApp.Protocol

/-- An argument list of `_notifyMessage`. -/
abbrev Report := MessageType × Nat × Json

structure NetworkService extends Link where
  socket : Option Nat
  buffer : Bytes
  /-- the calls of `_notifyMessage` -/
  reported : List Report

namespace NetworkService

/-- The end of the loop body of `_processBuffer`. -/
def callback (x : Link × List Report) (m : Report) : Bool × Link × List Report :=
  if m.1 = .heartbeatResponse then (true, x.1.handleHeartbeatResponse, x.2)
  else (true, x.1, x.2 ++ [m])

def processBuffer (lib : JsonLibrary) (s : NetworkService) : NetworkService :=
  let d := (Dart.decoder lib).drain callback (s.toLink, s.reported) s.buffer
  { s with toLink := d.state.1, reported := d.state.2, buffer := d.buffer }

/-- The listener of `_startListening`. -/
def onData (lib : JsonLibrary) (s : NetworkService) (chunk : Bytes) : NetworkService :=
  { s with buffer := s.buffer ++ chunk }.processBuffer lib

end NetworkService

inductive SocketPhase
  | live
  /-- by the client: it gets no data any more -/
  | destroyed
  | done
  deriving DecidableEq

structure Socket where
  phase : SocketPhase
  received : Bytes

/-- The service, the sockets it has got, and the calls of `connect` that wait, each with whether
    `_reconnectTimer` has called it. -/
structure Network where
  service : NetworkService
  opened : Nat
  sockets : Nat → Socket
  attempts : List Bool
  /-- what was reported before the current connection was made -/
  earlier : List Report

inductive NetworkLabel
  | connect
  | disconnect
  /-- `Socket.connect` of the `n`th waiting call returns, or throws -/
  | connected (n : Nat)
  | failed (n : Nat)
  | data (c : Nat) (chunk : Bytes)
  | error (c : Nat)
  | done (c : Nat)
  | heartbeat
  | heartbeatTimeout
  | reconnect

namespace Network

/-- A service that has not been used. -/
def init : Network := ⟨⟨.init, none, [], []⟩, 0, fun _ => ⟨.done, []⟩, [], []⟩

def setSocket (s : Network) (c : Nat) (x : Socket) : Network :=
  { s with sockets := Function.update s.sockets c x }

def setLink (s : Network) (link : Link) : Network :=
  { s with service := { s.service with toLink := link } }

/-- `connect` after its `await`. -/
def connected (s : Network) : Network :=
  { s.setSocket s.opened ⟨.live, []⟩ with
    service := { s.service with
      toLink := s.service.toLink.connectReady.startHeartbeat, socket := some s.opened }
    opened := s.opened + 1
    earlier := s.service.reported }

def disconnect (s : Network) : Network :=
  let destroyed := s.service.socket.elim s fun c =>
    s.setSocket c { s.sockets c with phase :=
      if (s.sockets c).phase = .live then .destroyed else (s.sockets c).phase }
  { destroyed with
    service := { s.service with
      toLink := s.service.toLink.disconnect, socket := none, buffer := [] } }

/-- The frames of the messages, one after the other. -/
def frames (writer : JsonLibrary) (messages : List Packet) : Bytes :=
  (messages.map (Packet.frame writer)).flatten

def data (lib : JsonLibrary) (s : Network) (c : Nat) (chunk : Bytes) : Network :=
  { s.setSocket c { s.sockets c with received := (s.sockets c).received ++ chunk } with
    service := s.service.onData lib chunk }

/-- `streams c` is what the server sends on the socket `c`. -/
def step (lib writer : JsonLibrary) (streams : Nat → List Packet) (s : Network) :
    NetworkLabel → Option Network
  | .connect => some { s with attempts := s.attempts ++ [false] }
  | .disconnect => some s.disconnect
  | .connected n =>
    s.attempts[n]?.map fun _ => { s with attempts := s.attempts.eraseIdx n }.connected
  | .failed n =>
    s.attempts[n]?.map fun fromTimer =>
      { s with attempts := s.attempts.eraseIdx n }.setLink
        (s.service.toLink.connectFailed fromTimer)
  | .data c chunk =>
    if (s.sockets c).phase = .live ∧
        (s.sockets c).received ++ chunk <+: frames writer (streams c) then
      some (s.data lib c chunk)
    else none
  | .error c =>
    if (s.sockets c).phase = .live then some (s.setLink s.service.toLink.handleDisconnect) else none
  | .done c =>
    if (s.sockets c).phase = .done then none
    else some ((s.setSocket c { s.sockets c with phase := .done }).setLink
      s.service.toLink.handleDisconnect)
  | .heartbeat =>
    if s.service.heartbeatTimer then some (s.setLink s.service.toLink.sendHeartbeat) else none
  | .heartbeatTimeout =>
    if s.service.heartbeatTimeoutTimer then some (s.setLink s.service.toLink.heartbeatTimeout.1)
    else none
  | .reconnect =>
    if s.service.reconnectTimer then
      some { s.setLink { s.service.toLink with reconnectTimer := false } with
        attempts := s.attempts ++ [true] }
    else none

def Clean (s : Network) : NetworkLabel → Prop
  | .connected _ => s.service.buffer = []
  | .data c _ => s.service.socket = some c
  | _ => True

instance (s : Network) : (l : NetworkLabel) → Decidable (s.Clean l)
  | .connected _ | .data .. => inferInstanceAs (Decidable (_ = _))
  | .connect | .disconnect | .failed _ | .error _ | .done _ => isTrue trivial
  | .heartbeat | .heartbeatTimeout | .reconnect => isTrue trivial

/-- The messages whose frames end within the first `n` bytes. -/
def arrived (writer : JsonLibrary) : List Packet → Nat → List Packet
  | [], _ => []
  | m :: messages, n =>
    if (m.frame writer).length ≤ n then m :: arrived writer messages (n - (m.frame writer).length)
    else []

/-- On the current connection, exactly the messages are reported that have arrived on it. -/
def Exact (writer : JsonLibrary) (streams : Nat → List Packet) (s : Network) : Prop :=
  ∀ c, s.service.socket = some c → s.service.reported =
    s.earlier ++ Dart.reports (arrived writer (streams c) (s.sockets c).received.length)

variable {lib writer : JsonLibrary} {streams : Nat → List Packet} {s t : Network}
variable {l : NetworkLabel} {ls : List NetworkLabel} {messages : List Packet} {c : Nat}
variable {received chunk : Bytes} {earlier : List Report}

/-! ## Reporting -/

/-- What the callbacks do to the list of the calls. -/
def report (reported : List Report) (m : Report) : Bool × List Report :=
  (true, if m.1 = .heartbeatResponse then reported else reported ++ [m])

variable (lib earlier received) in
theorem drain_report_ok : ((Dart.decoder lib).drain report earlier received).ok = true := by
  have hmap : ∀ (c : Dart.Client) (m : Report),
      report c.reported m = ((Dart.callback c m).1, (Dart.callback c m).2.reported) := by
    intro c m
    unfold report Dart.callback
    split <;> rfl
  have hdrain := Decoder.drain_map (D := Dart.decoder lib) hmap ⟨0, earlier⟩ received
  exact (congrArg Drained.ok hdrain).trans (Dart.drain_ok ⟨0, earlier⟩ received)

variable (lib chunk) in
theorem onData_report (service : NetworkService) :
    (service.onData lib chunk).reported =
        ((Dart.decoder lib).drain report service.reported (service.buffer ++ chunk)).state ∧
      (service.onData lib chunk).buffer =
        ((Dart.decoder lib).drain report service.reported (service.buffer ++ chunk)).buffer ∧
      (service.onData lib chunk).socket = service.socket := by
  have hmap : ∀ (x : Link × List Report) (m : Report), report x.2 m =
      ((NetworkService.callback x m).1, (NetworkService.callback x m).2.2) := by
    intro x m
    unfold report NetworkService.callback
    split <;> rfl
  have hdrain := Decoder.drain_map (D := Dart.decoder lib) hmap (service.toLink, service.reported)
    (service.buffer ++ chunk)
  exact ⟨(congrArg Drained.state hdrain).symm, (congrArg Drained.buffer hdrain).symm, rfl⟩

/-- Of a prefix of the frames, those that are complete are reported. -/
theorem drain_received (hfits : ∀ m ∈ messages, m.Fits writer lib)
    (hreceived : received <+: frames writer messages) :
    ((Dart.decoder lib).drain report earlier received).state =
      earlier ++ Dart.reports (arrived writer messages received.length) := by
  induction messages generalizing received earlier with
  | nil =>
    obtain rfl : received = [] := List.prefix_nil.1 hreceived
    rw [Decoder.drain_eq, (Dart.decoder lib).decode_nil]
    exact (List.append_nil earlier).symm
  | cons m messages ih =>
    obtain ⟨hm, hrest⟩ := List.forall_mem_cons.1 hfits
    have hframes : frames writer (m :: messages) = m.frame writer ++ frames writer messages := rfl
    rw [hframes] at hreceived
    have hdecode := Dart.takeMessage_frame hm
    unfold arrived
    by_cases hlen : (m.frame writer).length ≤ received.length
    · obtain ⟨rest, rfl⟩ : m.frame writer <+: received :=
        List.prefix_of_prefix_length_le (List.prefix_append _ _) hreceived hlen
      have hitem : (Dart.decoder lib).decode (m.frame writer ++ rest) = _ := hdecode rest
      rw [if_pos hlen, Decoder.drain_eq, hitem]
      simp only [report, if_true, List.drop_left, List.length_append, Nat.add_sub_cancel_left]
      rw [ih hrest ((List.prefix_append_right_inj _).1 hreceived)]
      by_cases htype : m.type = .heartbeatResponse
      · simp [htype, Dart.reports]
      · simp [htype, Dart.reports]
    · obtain ⟨rest, hrest'⟩ : received <+: m.frame writer :=
        List.prefix_of_prefix_length_le hreceived (List.prefix_append _ _) (by omega)
      have hwhole : (Dart.decoder lib).decode (received ++ rest) =
          .item (m.type, m.sequence.toNat, m.body) (m.frame writer).length := by
        rw [hrest']
        exact (congrArg (Dart.takeMessage lib) (List.append_nil _)).symm.trans (hdecode [])
      rw [if_neg hlen, Decoder.drain_eq, Decoder.decode_of_prefix hwhole (by omega)]
      exact (List.append_nil earlier).symm

/-! ## Runs -/

/-- The buffer and the reports are those of the bytes of the current connection. -/
def Current (lib writer : JsonLibrary) (streams : Nat → List Packet) (s : Network) : Prop :=
  ∀ c, s.service.socket = some c →
    (s.sockets c).received <+: frames writer (streams c) ∧
    let d := (Dart.decoder lib).drain report s.earlier (s.sockets c).received
    s.service.reported = d.state ∧ s.service.buffer = d.buffer

theorem current_connected (hbuffer : s.service.buffer = []) :
    s.connected.Current lib writer streams := by
  intro c hc
  obtain rfl := Option.some.inj hc
  have hsocket : s.connected.sockets s.opened = ⟨.live, []⟩ := Function.update_self ..
  rw [hsocket, Decoder.drain_eq, (Dart.decoder lib).decode_nil]
  exact ⟨List.nil_prefix, rfl, hbuffer⟩

theorem current_data (hs : s.Current lib writer streams) (hsocket : s.service.socket = some c)
    (hmore : (s.sockets c).received ++ chunk <+: frames writer (streams c)) :
    (s.data lib c chunk).Current lib writer streams := by
  obtain ⟨-, hreported, hbuffer⟩ := hs c hsocket
  obtain ⟨hreported', hbuffer', hsocket'⟩ := onData_report lib chunk s.service
  intro d hd
  obtain rfl := Option.some.inj (hsocket.symm.trans (hsocket'.symm.trans hd))
  have hreceived : ((s.data lib c chunk).sockets c).received = (s.sockets c).received ++ chunk :=
    congrArg Socket.received (Function.update_self c _ s.sockets)
  have hdrain := Decoder.drain_append_of_ok
    (drain_report_ok lib (s.sockets c).received s.earlier) chunk
  rw [← hreported, ← hbuffer] at hdrain
  rw [hreceived]
  refine ⟨hmore, ?_⟩
  dsimp only
  have hearlier : (s.data lib c chunk).earlier = s.earlier := rfl
  rw [hearlier, hdrain]
  exact ⟨hreported', hbuffer'⟩

/-- A step that does not touch the buffer, the reports and what the sockets have received. -/
theorem current_of_same (hs : s.Current lib writer streams)
    (hsocket : t.service.socket = s.service.socket) (hbuffer : t.service.buffer = s.service.buffer)
    (hreported : t.service.reported = s.service.reported) (hearlier : t.earlier = s.earlier)
    (hreceived : ∀ c, (t.sockets c).received = (s.sockets c).received) :
    t.Current lib writer streams := by
  intro c hc
  rw [hsocket] at hc
  rw [hbuffer, hreported, hearlier, hreceived]
  exact hs c hc

theorem received_setSocket {phase : SocketPhase} (d : Nat) :
    ((s.setSocket c { s.sockets c with phase := phase }).sockets d).received =
      (s.sockets d).received := by
  by_cases h : d = c
  · subst h
    simp [setSocket]
  · simp [setSocket, h]

theorem step_current (hs : s.Current lib writer streams) (hok : s.Clean l)
    (h : s.step lib writer streams l = some t) : t.Current lib writer streams := by
  cases l with
  | connect =>
    obtain rfl := Option.some.inj h
    exact hs
  | disconnect =>
    obtain rfl := Option.some.inj h
    exact fun c => nofun
  | connected n =>
    obtain ⟨fromTimer, -, rfl⟩ := Option.map_eq_some_iff.1 h
    exact current_connected hok
  | failed n =>
    obtain ⟨fromTimer, -, rfl⟩ := Option.map_eq_some_iff.1 h
    exact hs
  | data c chunk =>
    obtain ⟨⟨-, hreceived⟩, h⟩ := Option.ite_none_right_eq_some.1 h
    obtain rfl := Option.some.inj h
    exact current_data hs hok hreceived
  | error c =>
    obtain ⟨-, h⟩ := Option.ite_none_right_eq_some.1 h
    obtain rfl := Option.some.inj h
    exact hs
  | done c =>
    obtain ⟨-, h⟩ := Option.ite_none_left_eq_some.1 h
    obtain rfl := Option.some.inj h
    exact current_of_same hs rfl rfl rfl rfl received_setSocket
  | heartbeat =>
    obtain ⟨-, h⟩ := Option.ite_none_right_eq_some.1 h
    obtain rfl := Option.some.inj h
    exact hs
  | heartbeatTimeout =>
    obtain ⟨-, h⟩ := Option.ite_none_right_eq_some.1 h
    obtain rfl := Option.some.inj h
    exact hs
  | reconnect =>
    obtain ⟨-, h⟩ := Option.ite_none_right_eq_some.1 h
    obtain rfl := Option.some.inj h
    exact hs

theorem run_current (h : Run (step lib writer streams) Clean init ls s) :
    s.Current lib writer streams := by
  have hinit : init.Current lib writer streams := fun c hc => absurd hc nofun
  exact h.invariant hinit fun _ _ _ hs => step_current hs

/-- In every run that makes connections with an empty buffer and gets data on the current socket
    only, exactly the messages are reported whose frames have arrived on the current connection. -/
theorem reports_exact (hfits : ∀ c, ∀ m ∈ streams c, m.Fits writer lib)
    (h : Run (step lib writer streams) Clean init ls s) : s.Exact writer streams := by
  intro c hc
  obtain ⟨hreceived, hreported, -⟩ := run_current h c hc
  exact hreported.trans (drain_received (hfits c) hreceived)

/-- A login response on every connection, as bytes. -/
def loginResponses (_ : Nat) : List Packet := [⟨.loginResponse, 1, .object []⟩]

theorem loginResponses_fit (c : Nat) :
    ∀ m ∈ loginResponses c, m.Fits emptyObjectLibrary emptyObjectLibrary :=
  List.forall_mem_singleton.2 ⟨rfl, by decide, ⟨rfl, rfl⟩⟩

/-- The first connection is lost between two frames. -/
theorem reports_exact_reconnect : ∃ s : Network, s.service.socket = some 1 ∧
    s.service.reported.length = 2 ∧ s.Exact emptyObjectLibrary loginResponses := by
  let frame := frames emptyObjectLibrary (loginResponses 0)
  let step := step emptyObjectLibrary emptyObjectLibrary loginResponses
  let ls : List NetworkLabel := [.connect, .connected 0, .data 0 (frame.take 4),
    .data 0 (frame.drop 4), .done 0, .reconnect, .connected 0, .data 1 frame]
  have hreplay : (exec (fun s l => if s.Clean l then step s l else none) init ls).any
      (fun s => s.service.socket = some 1 ∧ s.service.reported.length = 2) = true := by
    decide +kernel
  obtain ⟨s, hs, hend⟩ := (Option.any_eq_true _ _).1 hreplay
  obtain ⟨hsocket, hreported⟩ := of_decide_eq_true hend
  exact ⟨s, hsocket, hreported, reports_exact loginResponses_fit (run_iff_exec.2 hs)⟩

/-- The first connection is lost inside a frame, which swallows the first frame of the next one. -/
theorem rest_of_old_frame :
    ¬ ∀ (ls : List NetworkLabel) (s : Network),
      Run (step emptyObjectLibrary emptyObjectLibrary loginResponses) anyStep init ls s →
      s.Exact emptyObjectLibrary loginResponses := by
  intro h
  let frame := frames emptyObjectLibrary (loginResponses 0)
  have hrun : Run (step emptyObjectLibrary emptyObjectLibrary loginResponses) anyStep init
      [.connect, .connected 0, .data 0 (frame.take 1), .error 0, .reconnect, .connected 0,
        .data 1 frame] _ := exec_run rfl
  have hreported := congrArg List.length (h _ _ hrun 1 rfl)
  revert hreported
  decide

end Network

end ChatApp.Client

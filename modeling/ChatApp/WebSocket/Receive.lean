/-
  `WsConnection::handle_receive` and `handle_frame`: the receive buffer, the reassembly of
  fragmented messages and the replies to control frames. Sends succeed, and `message_handler_`
  does not close the connection; `events` records the messages it gets and the frames sent, in
  one order. `last_activity_` is left out.

  `receive_chunks`: how the received bytes are cut into chunks makes no difference, except that
  after a failure the bytes of the chunks that were not fed are not in `recv_buffer_`.
-/
import ChatApp.WebSocket.Frame

namespace ChatApp.WebSocket

open ChatApp.Lib

inductive WsEvent
  /-- a call of `message_handler_` -/
  | message (data : Bytes)
  /-- the bytes of a frame handed to the socket -/
  | sent (frame : Bytes)
  deriving DecidableEq

/-- A connection without its receive buffer. -/
structure WsState where
  closed : Bool
  inFragmented : Bool
  fragmentOpcode : UInt8
  fragmentData : Bytes
  events : List WsEvent
  deriving DecidableEq

structure WsConnection extends WsState where
  recvBuffer : Bytes
  deriving DecidableEq

namespace WsState

def init : WsState := ⟨false, false, 0, [], []⟩

def sendFrame (s : WsState) (opcode : UInt8) (data : Bytes) (fin : Bool) : WsState :=
  if s.closed then s else { s with events := s.events ++ [.sent (encodeFrame opcode data fin)] }

def sendPong (s : WsState) (payload : Bytes) : WsState :=
  s.sendFrame WsOpcode.pong payload true

def close (s : WsState) : WsState := { s with closed := true }

def sendClose (s : WsState) (code : UInt16) (reason : String) : WsState :=
  let payload := (code >>> 8).toUInt8 :: (code &&& 0xFF).toUInt8 :: reason.toUTF8.toList
  (s.sendFrame WsOpcode.close payload true).close

def deliver (s : WsState) (message : Bytes) : WsState :=
  { s with events := s.events ++ [.message message] }

/-- The control frames of `handle_frame`. -/
def handleControl (s : WsState) (frame : WsFrame) : Bool × WsState :=
  if frame.opcode = WsOpcode.ping then (true, s.sendPong frame.payload)
  else if frame.opcode = WsOpcode.pong then (true, s)
  else if frame.opcode = WsOpcode.close then
    (false, if s.closed then s else s.sendClose 1000 "Normal closure")
  else (false, s)

/-- The data frames of `handle_frame`. -/
def handleData (s : WsState) (frame : WsFrame) : Bool × WsState :=
  if frame.opcode = WsOpcode.continuation then
    if s.inFragmented then
      let data := s.fragmentData ++ frame.payload
      if frame.fin then
        (true, { s with inFragmented := false, fragmentData := [] }.deliver data)
      else (true, { s with fragmentData := data })
    else (false, s)
  else if s.inFragmented then (false, s)
  else if frame.fin then (true, s.deliver frame.payload)
  else
    (true, { s with
      inFragmented := true, fragmentOpcode := frame.opcode, fragmentData := frame.payload })

def handleFrame (s : WsState) (frame : WsFrame) : Bool × WsState :=
  if 0x8 ≤ frame.opcode then s.handleControl frame else s.handleData frame

variable {s : WsState} {frame : WsFrame}

/-- A frame after which the connection goes on does not close it. -/
theorem closed_handleFrame (h : (s.handleFrame frame).1 = true) :
    (s.handleFrame frame).2.closed = s.closed := by
  have hsend : ∀ (op : UInt8) data, (s.sendFrame op data true).closed = s.closed := by
    intro op data
    unfold sendFrame
    split <;> rfl
  unfold handleFrame at h ⊢
  by_cases hop : 0x8 ≤ frame.opcode
  · rw [if_pos hop] at h ⊢
    unfold handleControl at h ⊢
    by_cases hping : frame.opcode = WsOpcode.ping
    · rw [if_pos hping]
      exact hsend _ _
    rw [if_neg hping] at h ⊢
    by_cases hpong : frame.opcode = WsOpcode.pong
    · rw [if_pos hpong]
    rw [if_neg hpong] at h
    by_cases hclose : frame.opcode = WsOpcode.close
    · rw [if_pos hclose] at h
      cases h
    · rw [if_neg hclose] at h
      cases h
  · rw [if_neg hop]
    unfold handleData
    repeat' split
    all_goals rfl

end WsState

namespace WsConnection

def init : WsConnection := ⟨.init, []⟩

def handleReceive (c : WsConnection) (data : Bytes) : Bool × WsConnection :=
  if c.closed then (false, c)
  else
    let d := frameDecoder.drain WsState.handleFrame c.toWsState (c.recvBuffer ++ data)
    (d.ok, ⟨d.state, d.buffer⟩)

/-- Feed the chunks one by one up to the first `false`; also the chunks that were not fed. -/
def receiveChunks (c : WsConnection) : List Bytes → Bool × WsConnection × List Bytes
  | [] => (true, c, [])
  | chunk :: chunks =>
    let r := c.handleReceive chunk
    if r.1 then receiveChunks r.2 chunks else (false, r.2, chunks)

variable {c : WsConnection}

theorem closed_handleReceive {data : Bytes} (h : (c.handleReceive data).1 = true) :
    (c.handleReceive data).2.closed = false := by
  unfold handleReceive at h ⊢
  by_cases hc : c.closed = true
  · rw [if_pos hc] at h
    cases h
  rw [if_neg hc] at h ⊢
  have hinv : ∀ s f, s.closed = false → (WsState.handleFrame s f).1 = true →
      (WsState.handleFrame s f).2.closed = false :=
    fun s f hs hgo => (WsState.closed_handleFrame hgo).trans hs
  exact Decoder.drain_ok_invariant hinv (Bool.not_eq_true _ ▸ hc) h

/-- On an open connection, the chunks go through the receive loop one after another. -/
theorem receiveChunks_eq (hc : c.closed = false) (chunks : List Bytes) :
    c.receiveChunks chunks =
      let r := frameDecoder.drainChunks WsState.handleFrame c.toWsState c.recvBuffer chunks
      (r.1.ok, ⟨r.1.state, r.1.buffer⟩, r.2) := by
  induction chunks generalizing c with
  | nil => rfl
  | cons chunk chunks ih =>
    have hrec : c.handleReceive chunk =
        let d := frameDecoder.drain WsState.handleFrame c.toWsState (c.recvBuffer ++ chunk)
        (d.ok, ⟨d.state, d.buffer⟩) := by
      unfold handleReceive
      rw [if_neg (by rw [hc]; nofun)]
    have hopen : (c.handleReceive chunk).1 = true → (c.handleReceive chunk).2.closed = false :=
      closed_handleReceive
    rw [receiveChunks, Decoder.drainChunks]
    rw [hrec] at hopen ⊢
    by_cases hok : (frameDecoder.drain WsState.handleFrame c.toWsState
        (c.recvBuffer ++ chunk)).ok = true
    · simp only [hok, if_true]
      exact ih (hopen hok)
    · simp [hok]

end WsConnection

end ChatApp.WebSocket

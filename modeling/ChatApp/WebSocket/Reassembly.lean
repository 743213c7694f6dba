/-
  `handle_frame` over a sequence of frames. The messages that `message_handler_` gets are those of
  `reassemble`, which reads the data frames alone and from behind: a frame with the fin flag is a
  message, another one begins the message of the frames after it. Control frames in between are
  answered and change nothing.

  `Stops` says where the first `false` is, from the frames before it.
-/
import ChatApp.WebSocket.Receive

namespace ChatApp.WebSocket

/-! ## The reference -/

namespace WsFrame

def isData (frame : WsFrame) : Bool := decide (frame.opcode < 0x8)

def isPing (frame : WsFrame) : Bool := decide (frame.opcode = WsOpcode.ping)

end WsFrame

/-- Data that comes before the first message; without one it is part of no message. -/
def extend (data : Bytes) : List Bytes → List Bytes
  | [] => []
  | message :: messages => (data ++ message) :: messages

/-- The messages of data frames. -/
def reassemble : List WsFrame → List Bytes
  | [] => []
  | frame :: frames =>
    if frame.fin then frame.payload :: reassemble frames
    else extend frame.payload (reassemble frames)

/-- Is a message started after these frames? `before` is the answer if there is no data frame. -/
def started (before : Bool) (frames : List WsFrame) : Bool :=
  match (frames.filter WsFrame.isData).getLast? with
  | some frame => !frame.fin
  | none => before

/-- A close frame, a continuation without a started message, or a new data frame inside one. -/
def Stops (inMessage : Bool) (frame : WsFrame) : Prop :=
  frame.opcode = WsOpcode.close ∨ frame.opcode = WsOpcode.continuation ∧ inMessage = false ∨
    (frame.opcode = WsOpcode.text ∨ frame.opcode = WsOpcode.binary) ∧ inMessage = true

theorem extend_extend (data more : Bytes) (messages : List Bytes) :
    extend data (extend more messages) = extend (data ++ more) messages := by
  cases messages with
  | nil => rfl
  | cons message messages => rw [extend, extend, extend, List.append_assoc]

theorem started_cons (before : Bool) (frame : WsFrame) (frames : List WsFrame) :
    started before (frame :: frames) =
      started (if frame.isData then !frame.fin else before) frames := by
  unfold started
  cases hd : frame.isData with
  | false => rw [List.filter_cons_of_neg (by rw [hd]; exact Bool.false_ne_true)]; rfl
  | true =>
    rw [List.filter_cons_of_pos hd, List.getLast?_cons]
    cases (frames.filter WsFrame.isData).getLast? <;> rfl

/-! ## Frame after frame -/

/-- What frames up to the first `false` come to: those with the answer `true`, the state, and the
    frame that failed with the frames after it. -/
structure Handled where
  accepted : List WsFrame
  state : WsState
  rest : List WsFrame

namespace WsEvent

def message? : WsEvent → Option Bytes
  | message data => some data
  | sent _ => none

def sent? : WsEvent → Option Bytes
  | message _ => none
  | sent frame => some frame

end WsEvent

namespace WsState

def handleFrames (s : WsState) : List WsFrame → Handled
  | [] => ⟨[], s, []⟩
  | frame :: frames =>
    let r := s.handleFrame frame
    if r.1 then
      let h := handleFrames r.2 frames
      ⟨frame :: h.accepted, h.state, h.rest⟩
    else ⟨[], r.2, frame :: frames⟩

/-- The calls of `message_handler_`. -/
def messages (s : WsState) : List Bytes := s.events.filterMap WsEvent.message?

/-- The frames handed to the socket. -/
def sends (s : WsState) : List Bytes := s.events.filterMap WsEvent.sent?

/-- The messages, if those of the next frames are `messages`. -/
def carry (s : WsState) (messages : List Bytes) : List Bytes :=
  if s.inFragmented then extend s.fragmentData messages else messages

variable {s : WsState} {frame : WsFrame}

theorem carry_nil (s : WsState) : s.carry [] = [] := by
  unfold carry
  split <;> rfl

@[simp] theorem messages_deliver (data : Bytes) :
    (s.deliver data).messages = s.messages ++ [data] := by
  simp [messages, deliver, WsEvent.message?]

@[simp] theorem sends_deliver (data : Bytes) : (s.deliver data).sends = s.sends := by
  simp [sends, deliver, WsEvent.sent?]

/-! ## One frame -/

/-- The frame with which a ping is answered. -/
def pongFrame (ping : WsFrame) : Bytes := encodeFrame WsOpcode.pong ping.payload true

/-- The frame with which a close frame is answered: 1000 and the reason. -/
def closeFrame : Bytes :=
  encodeFrame WsOpcode.close (0x03 :: 0xE8 :: "Normal closure".toUTF8.toList) true

theorem sendFrame_open (hc : s.closed = false) (opcode : UInt8) (data : Bytes) (fin : Bool) :
    s.sendFrame opcode data fin =
      { s with events := s.events ++ [.sent (encodeFrame opcode data fin)] } := by
  rw [sendFrame, hc]
  rfl

theorem sendClose_open (hc : s.closed = false) : s.sendClose 1000 "Normal closure" =
    { s with events := s.events ++ [.sent closeFrame], closed := true } := by
  rw [sendClose, sendFrame_open hc]
  rfl

/-- A frame with one of the six opcodes. -/
def KnownOpcode (frame : WsFrame) : Prop :=
  frame.opcode = WsOpcode.continuation ∨ frame.opcode = WsOpcode.text ∨
    frame.opcode = WsOpcode.binary ∨ frame.opcode = WsOpcode.close ∨ frame.opcode = WsOpcode.ping ∨
    frame.opcode = WsOpcode.pong

/-- What a frame does that does not stop the connection. -/
structure Accepts (s : WsState) (frame : WsFrame) (s' : WsState) : Prop where
  closed : s'.closed = false
  inFragmented : s'.inFragmented = if frame.isData then !frame.fin else s.inFragmented
  sends : s'.sends = s.sends ++ if frame.isPing then [pongFrame frame] else []
  messages : ∀ next, s'.messages ++ s'.carry (reassemble next) = s.messages ++
    s.carry (reassemble (if frame.isData then frame :: next else next))

/-- What a frame does that stops it. -/
structure Refuses (s : WsState) (frame : WsFrame) (s' : WsState) : Prop where
  sends : s'.sends = s.sends ++ if frame.opcode = WsOpcode.close then [closeFrame] else []
  messages : s'.messages = s.messages

/-- A control frame that `handle_frame` takes: it sends at most a pong. -/
theorem accepts_control (hc : s.closed = false) (hdata : frame.isData = false) :
    Accepts s frame { s with
      events := s.events ++ if frame.isPing then [.sent (pongFrame frame)] else [] } := by
  refine ⟨hc, ?_, ?_, fun next => ?_⟩
  · rw [hdata]
    rfl
  · cases hping : frame.isPing <;> simp [sends, WsEvent.sent?]
  · rw [hdata]
    cases hping : frame.isPing <;> simp [messages, WsEvent.message?, carry]

theorem handleControl_spec (hc : s.closed = false)
    (hop : frame.opcode = WsOpcode.close ∨ frame.opcode = WsOpcode.ping ∨
      frame.opcode = WsOpcode.pong) :
    (Stops s.inFragmented frame ∧ (s.handleFrame frame).1 = false ∧
      Refuses s frame (s.handleFrame frame).2) ∨
    (¬ Stops s.inFragmented frame ∧ (s.handleFrame frame).1 = true ∧
      Accepts s frame (s.handleFrame frame).2) := by
  rcases hop with hop | hop | hop
  · refine .inl ⟨.inl hop, ?_⟩
    have hhandle : s.handleFrame frame =
        (false, { s with events := s.events ++ [.sent closeFrame], closed := true }) := by
      simp [handleFrame, handleControl, hop, hc, sendClose_open, WsOpcode.close, WsOpcode.ping,
        WsOpcode.pong]
    rw [hhandle]
    refine ⟨rfl, ?_, ?_⟩
    · simp [sends, WsEvent.sent?, hop]
    · simp [messages, WsEvent.message?]
  · have hhandle : s.handleFrame frame =
        (true, { s with events := s.events ++ [.sent (pongFrame frame)] }) := by
      simp [handleFrame, handleControl, hop, sendPong, sendFrame_open hc, pongFrame, WsOpcode.ping]
    have hstops : ¬ Stops s.inFragmented frame := by
      simp [Stops, hop, WsOpcode.ping, WsOpcode.close, WsOpcode.continuation, WsOpcode.text,
        WsOpcode.binary]
    have hping : frame.isPing = true := by simp [WsFrame.isPing, hop]
    have hdata : frame.isData = false := by simp [WsFrame.isData, hop, WsOpcode.ping]
    have haccepts := accepts_control hc hdata
    rw [if_pos hping] at haccepts
    rw [hhandle]
    exact .inr ⟨hstops, rfl, haccepts⟩
  · have hhandle : s.handleFrame frame = (true, s) := by
      simp [handleFrame, handleControl, hop, WsOpcode.ping, WsOpcode.pong]
    have hstops : ¬ Stops s.inFragmented frame := by
      simp [Stops, hop, WsOpcode.pong, WsOpcode.close, WsOpcode.continuation, WsOpcode.text,
        WsOpcode.binary]
    have hping : ¬ frame.isPing = true := by
      simp [WsFrame.isPing, hop, WsOpcode.ping, WsOpcode.pong]
    have hdata : frame.isData = false := by simp [WsFrame.isData, hop, WsOpcode.pong]
    have haccepts := accepts_control hc hdata
    rw [if_neg hping, List.append_nil] at haccepts
    rw [hhandle]
    exact .inr ⟨hstops, rfl, haccepts⟩

/-- A data frame that `handle_frame` takes, and what it does to the messages. -/
theorem accepts_data {s' : WsState} (hc : s'.closed = false) (hdata : frame.isData = true)
    (hfrag : s'.inFragmented = !frame.fin) (hsends : s'.sends = s.sends)
    (hmessages : ∀ ms, s'.messages ++ s'.carry ms = s.messages ++
      s.carry (if frame.fin then frame.payload :: ms else extend frame.payload ms)) :
    Accepts s frame s' := by
  have hping : frame.isPing = false := by
    have hlt : frame.opcode < 0x8 := of_decide_eq_true hdata
    refine decide_eq_false fun hping => ?_
    rw [hping] at hlt
    exact absurd hlt (by decide)
  refine ⟨hc, ?_, ?_, fun next => ?_⟩
  · rw [hdata, hfrag]
    rfl
  · rw [hping, hsends]
    exact (List.append_nil _).symm
  · rw [hdata]
    exact hmessages (reassemble next)

theorem handleData_spec (hc : s.closed = false)
    (hop : frame.opcode = WsOpcode.continuation ∨ frame.opcode = WsOpcode.text ∨
      frame.opcode = WsOpcode.binary) :
    (Stops s.inFragmented frame ∧ (s.handleFrame frame).1 = false ∧
      Refuses s frame (s.handleFrame frame).2) ∨
    (¬ Stops s.inFragmented frame ∧ (s.handleFrame frame).1 = true ∧
      Accepts s frame (s.handleFrame frame).2) := by
  have hdata : frame.isData = true := by
    rcases hop with hop | hop | hop <;> rw [WsFrame.isData, hop] <;> rfl
  have hhandle : s.handleFrame frame = s.handleData frame := by
    rcases hop with hop | hop | hop <;> rw [handleFrame, hop] <;> rfl
  have hclose : frame.opcode ≠ WsOpcode.close := by
    rcases hop with hop | hop | hop <;> rw [hop] <;> decide
  have hrefuses : Refuses s frame s :=
    ⟨by rw [if_neg hclose, List.append_nil], rfl⟩
  rw [hhandle]
  by_cases hcont : frame.opcode = WsOpcode.continuation
  · have htext : ¬ (frame.opcode = WsOpcode.text ∨ frame.opcode = WsOpcode.binary) := by
      rw [hcont]
      decide
    rw [handleData, if_pos hcont]
    cases hf : s.inFragmented with
    | false => exact .inl ⟨.inr (.inl ⟨hcont, rfl⟩), rfl, hrefuses⟩
    | true =>
      have hstops : ¬ Stops true frame := by
        rintro (h | ⟨-, h⟩ | ⟨h, -⟩)
        · exact hclose h
        · cases h
        · exact htext h
      refine .inr ⟨hstops, ?_⟩
      cases hfin : frame.fin with
      | true =>
        refine ⟨rfl, accepts_data hc hdata ?_ ?_ fun ms => ?_⟩
        · rw [hfin]
          rfl
        · exact sends_deliver _
        · rw [hfin]
          simp [carry, hf, deliver, messages, WsEvent.message?, extend]
      | false =>
        refine ⟨rfl, accepts_data hc hdata ?_ rfl fun ms => ?_⟩
        · rw [hfin]
          rfl
        · rw [hfin]
          simp [carry, hf, messages, extend_extend]
  · have htext : frame.opcode = WsOpcode.text ∨ frame.opcode = WsOpcode.binary :=
      hop.resolve_left hcont
    rw [handleData, if_neg hcont]
    cases hf : s.inFragmented with
    | true => exact .inl ⟨.inr (.inr ⟨htext, rfl⟩), rfl, hrefuses⟩
    | false =>
      have hstops : ¬ Stops false frame := by
        rintro (h | ⟨h, -⟩ | ⟨-, h⟩)
        · exact hclose h
        · exact hcont h
        · cases h
      refine .inr ⟨hstops, ?_⟩
      cases hfin : frame.fin with
      | true =>
        refine ⟨rfl, accepts_data hc hdata ?_ ?_ fun ms => ?_⟩
        · rw [hfin]
          exact hf
        · exact sends_deliver _
        · rw [hfin]
          simp [carry, hf, deliver, messages, WsEvent.message?]
      | false =>
        refine ⟨rfl, accepts_data hc hdata ?_ rfl fun ms => ?_⟩
        · rw [hfin]
          rfl
        · rw [hfin]
          simp [carry, hf, messages]

theorem handleFrame_spec (hc : s.closed = false) (hop : KnownOpcode frame) :
    (Stops s.inFragmented frame ∧ (s.handleFrame frame).1 = false ∧
      Refuses s frame (s.handleFrame frame).2) ∨
    (¬ Stops s.inFragmented frame ∧ (s.handleFrame frame).1 = true ∧
      Accepts s frame (s.handleFrame frame).2) := by
  rcases hop with h | h | h | h | h | h
  · exact handleData_spec hc (.inl h)
  · exact handleData_spec hc (.inr (.inl h))
  · exact handleData_spec hc (.inr (.inr h))
  · exact handleControl_spec hc (.inl h)
  · exact handleControl_spec hc (.inr (.inl h))
  · exact handleControl_spec hc (.inr (.inr h))

end WsState

/-! ## A sequence of frames -/

/-- The reply to the frame that stopped the connection. -/
def closing : List WsFrame → List Bytes
  | [] => []
  | frame :: _ => if frame.opcode = WsOpcode.close then [WsState.closeFrame] else []

/-- The frames are taken up to the first that stops, the messages are those of the reference, and
    every ping of the frames taken is answered, in order. -/
structure Reassembles (s : WsState) (frames : List WsFrame) (h : Handled) : Prop where
  split : frames = h.accepted ++ h.rest
  messages : h.state.messages =
    s.messages ++ s.carry (reassemble (h.accepted.filter WsFrame.isData))
  sends : h.state.sends =
    s.sends ++ ((h.accepted.filter WsFrame.isPing).map WsState.pongFrame ++ closing h.rest)
  accepts : ∀ p frame q, h.accepted = p ++ frame :: q → ¬ Stops (started s.inFragmented p) frame
  stops : ∀ frame q, h.rest = frame :: q → Stops (started s.inFragmented h.accepted) frame

theorem handleFrames_reassembles {s : WsState} (hc : s.closed = false) {frames : List WsFrame}
    (hops : ∀ frame ∈ frames, WsState.KnownOpcode frame) :
    Reassembles s frames (s.handleFrames frames) := by
  induction frames generalizing s with
  | nil =>
    refine ⟨rfl, ?_, ?_, ?_, ?_⟩
    · show s.messages = s.messages ++ s.carry []
      rw [WsState.carry_nil, List.append_nil]
    · exact (List.append_nil _).symm
    · intro p frame q h
      cases p <;> cases h
    · intro frame q h
      cases h
  | cons frame frames ih =>
    obtain ⟨hop, hops⟩ := List.forall_mem_cons.1 hops
    rcases WsState.handleFrame_spec hc hop with ⟨hstops, hfalse, hrefuses⟩ | ⟨hgo, htrue, haccepts⟩
    · have hhandle : s.handleFrames (frame :: frames) =
          ⟨[], (s.handleFrame frame).2, frame :: frames⟩ := by
        rw [WsState.handleFrames]
        simp only [hfalse, Bool.false_eq_true, if_false]
      rw [hhandle]
      refine ⟨rfl, ?_, ?_, ?_, ?_⟩
      · show (s.handleFrame frame).2.messages = s.messages ++ s.carry []
        rw [hrefuses.messages, WsState.carry_nil, List.append_nil]
      · exact hrefuses.sends
      · intro p frame' q h
        cases p <;> cases h
      · intro frame' q h
        obtain ⟨rfl, -⟩ := List.cons.inj h
        exact hstops
    · have hhandle : s.handleFrames (frame :: frames) =
          let h := (s.handleFrame frame).2.handleFrames frames
          ⟨frame :: h.accepted, h.state, h.rest⟩ := by
        rw [WsState.handleFrames]
        simp only [htrue, if_true]
      have hrest := ih haccepts.closed hops
      rw [hhandle]
      generalize (s.handleFrame frame).2.handleFrames frames = h at hrest ⊢
      have hstarted : ∀ p, started s.inFragmented (frame :: p) =
          started (s.handleFrame frame).2.inFragmented p := by
        intro p
        rw [started_cons, haccepts.inFragmented]
      refine ⟨congrArg (frame :: ·) hrest.split, ?_, ?_, ?_, ?_⟩
      · show h.state.messages = s.messages ++
          s.carry (reassemble ((frame :: h.accepted).filter WsFrame.isData))
        rw [hrest.messages, haccepts.messages, List.filter_cons]
      · show h.state.sends = s.sends ++
          (((frame :: h.accepted).filter WsFrame.isPing).map WsState.pongFrame ++ closing h.rest)
        rw [hrest.sends, haccepts.sends, List.filter_cons]
        cases frame.isPing <;> simp
      · intro p frame' q hsplit
        cases p with
        | nil =>
          obtain ⟨rfl, -⟩ := List.cons.inj hsplit
          exact hgo
        | cons _ p =>
          have hcons : frame :: h.accepted = _ :: (p ++ frame' :: q) := hsplit
          obtain ⟨rfl, htail⟩ := List.cons.inj hcons
          rw [hstarted]
          exact hrest.accepts p frame' q htail
      · intro frame' q hq
        show Stops (started s.inFragmented (frame :: h.accepted)) frame'
        rw [hstarted]
        exact hrest.stops frame' q hq

/-- A message in two fragments with a ping in between, and a continuation without a message. -/
def twoFragments : List WsFrame :=
  [⟨false, WsOpcode.text, false, 1, [], [0x61]⟩, ⟨true, WsOpcode.ping, false, 1, [], [0x70]⟩,
    ⟨true, WsOpcode.continuation, false, 1, [], [0x62]⟩,
    ⟨true, WsOpcode.continuation, false, 1, [], [0x63]⟩]

theorem handleFrames_twoFragments :
    (WsState.init.handleFrames twoFragments).state.messages = [[0x61, 0x62]] ∧
      Reassembles .init twoFragments (WsState.init.handleFrames twoFragments) := by
  refine ⟨by decide, handleFrames_reassembles rfl ?_⟩
  unfold WsState.KnownOpcode
  decide

end ChatApp.WebSocket

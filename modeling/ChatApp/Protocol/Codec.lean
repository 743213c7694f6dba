/-
  The codec of the TCP protocol on both sides. Server: `Protocol::serialize`, `parse_header`,
  `parse_body` and the loop of `do_read_header` and `do_read_body`. Client:
  `Protocol.serialize`, `parseHeader`, `parseBody` and `NetworkService._processBuffer`. The
  server is little-endian. The JSON libraries are parameters (`JsonLibrary`); the callbacks of
  the client return.

  `client_reads_server` and `server_reads_client`: what one side serializes, the other reads
  back, however the bytes are cut into chunks.
-/
import ChatApp.Lib.Decoder
import ChatApp.Protocol.Json
import ChatApp.Protocol.MessageType

namespace ChatApp.Protocol

open ChatApp.Lib

abbrev Bytes := List UInt8

/-- `dump` and `parse`, or `jsonEncode` and `jsonDecode`, on UTF-8 text. -/
structure JsonLibrary where
  encode : Json → Bytes
  /-- `none` is an exception -/
  decode : Bytes → Option Json

/-- One message: what `serialize` gets and the receiver is to report. -/
structure Packet where
  type : MessageType
  sequence : UInt32
  body : Json

/-! ## Little-endian fields -/

/-- Four bytes of a `uint32_t`, the lowest first. -/
def putUint32 (n : Nat) : Bytes :=
  [.ofNat n, .ofNat (n / 2 ^ 8), .ofNat (n / 2 ^ 16), .ofNat (n / 2 ^ 24)]

/-- The `uint32_t` at `offset`. -/
def getUint32 (data : Bytes) (offset : Nat) : Nat :=
  (data.getD offset 0).toNat + (data.getD (offset + 1) 0).toNat * 2 ^ 8 +
    (data.getD (offset + 2) 0).toNat * 2 ^ 16 + (data.getD (offset + 3) 0).toNat * 2 ^ 24

@[simp] theorem length_putUint32 (n : Nat) : (putUint32 n).length = 4 := rfl

theorem uint32_bytes {n : Nat} (h : n < 2 ^ 32) :
    n % 256 + n / 2 ^ 8 % 256 * 2 ^ 8 + n / 2 ^ 16 % 256 * 2 ^ 16 + n / 2 ^ 24 % 256 * 2 ^ 24
      = n := by
  omega

theorem getUint32_putUint32 {n : Nat} (h : n < 2 ^ 32) (rest : Bytes) :
    getUint32 (putUint32 n ++ rest) 0 = n := by
  simpa [getUint32, putUint32, UInt8.toNat_ofNat'] using uint32_bytes h

/-- A field behind a prefix. -/
theorem getUint32_append (pre rest : Bytes) (offset : Nat) :
    getUint32 (pre ++ rest) (pre.length + offset) = getUint32 rest offset := by
  simp [getUint32, Nat.add_assoc, List.getD_eq_getElem?_getD, List.getElem?_append_right]

/-! ## The server -/

namespace Cpp

/-- `struct MessageHeader`, packed; `type` is the byte. -/
structure MessageHeader where
  length : Nat
  type : UInt8
  sequence : Nat
  deriving DecidableEq, Repr

def serialize (lib : JsonLibrary) (type : MessageType) (sequence : UInt32) (body : Json) : Bytes :=
  let bodyStr := lib.encode body
  putUint32 (bodyStr.length % 2 ^ 32) ++ type.code :: putUint32 sequence.toNat ++ bodyStr

/-- `none` is the result `false`. -/
def parseHeader (data : Bytes) : Option MessageHeader :=
  if data.length < 9 then none
  else some ⟨getUint32 data 0, data.getD 4 0, getUint32 data 5⟩

def parseBody (lib : JsonLibrary) (data : Bytes) : Json :=
  if data.length = 0 then .object []
  else (lib.decode data).getD (.object [])

/-- The outstanding `async_read` of a session: of `header_buffer_`, or of `body_buffer_` of the
    given size, while `header_buffer_` holds the header. -/
inductive Reading
  | header
  | body (bodySize : Nat) (headerBuffer : Bytes)
  /-- the socket is closed -/
  | closed
  deriving DecidableEq, Repr

/-- A session as far as it reads. `buffer` is what the outstanding read has so far; `dispatched`
    are the arguments of the tasks handed to `try_enqueue`. -/
structure Reader where
  reading : Reading
  buffer : Bytes
  lastSequence : Nat
  dispatched : List (UInt8 × Nat × Json)

namespace Reader

/-- After `start` -/
def start : Reader := ⟨.header, [], 0, []⟩

/-- The handler of the read in `do_read_body`. -/
def bodyRead (lib : JsonLibrary) (r : Reader) (headerBuffer bodyBuffer : Bytes) : Reader :=
  let task := (parseHeader headerBuffer).map fun header =>
    (header.type, header.sequence, parseBody lib bodyBuffer)
  { r with reading := .header, buffer := [], dispatched := r.dispatched ++ task.toList }

/-- The handler of the read in `do_read_header`. A read of no bytes is complete at once. -/
def headerRead (lib : JsonLibrary) (r : Reader) (headerBuffer : Bytes) : Reader :=
  match parseHeader headerBuffer with
  | none => { r with reading := .closed, buffer := [] }
  | some header =>
    let r := { r with lastSequence := header.sequence }
    if header.length = 0 then r.bodyRead lib headerBuffer []
    else { r with reading := .body header.length headerBuffer, buffer := [] }

/-- The outstanding read gets one more byte. -/
def push (lib : JsonLibrary) (r : Reader) (byte : UInt8) : Reader :=
  let buffer := r.buffer ++ [byte]
  match r.reading with
  | .header => if buffer.length = 9 then r.headerRead lib buffer else { r with buffer }
  | .body bodySize headerBuffer =>
    if buffer.length = bodySize then r.bodyRead lib headerBuffer buffer else { r with buffer }
  | .closed => r

/-- A chunk arrives at the socket. -/
def receive (lib : JsonLibrary) (r : Reader) (chunk : Bytes) : Reader := chunk.foldl (push lib) r

end Reader

end Cpp

/-! ## The client -/

namespace Dart

structure MessageHeader where
  length : Nat
  type : MessageType
  sequence : Nat
  deriving DecidableEq, Repr

def serialize (lib : JsonLibrary) (type : MessageType) (sequence : UInt32) (body : Json) : Bytes :=
  let bodyBytes := lib.encode body
  putUint32 (bodyBytes.length % 2 ^ 32) ++ UInt8.ofNat type.value :: putUint32 sequence.toNat ++
    bodyBytes

def parseHeader (data : Bytes) : Option MessageHeader :=
  if data.length < 9 then none
  else some ⟨getUint32 data 0, .fromValue (data.getD 4 0).toNat, getUint32 data 5⟩

/-- The cast to `Map` throws for what is not an object. -/
def parseBody (lib : JsonLibrary) (data : Bytes) : Json :=
  if data.length = 0 then .object []
  else ((lib.decode data).filter (·.isObject)).getD (.object [])

/-- `NetworkService` as far as it receives; `reported` are the calls of `_notifyMessage`. -/
structure Client where
  missedHeartbeats : Nat
  reported : List (MessageType × Nat × Json)

/-- The loop body of `_processBuffer` up to the callbacks. `parseHeader` gives a header for nine
    bytes, and the loop ends when fewer are there. -/
def takeMessage (lib : JsonLibrary) (buffer : Bytes) : Decoded (MessageType × Nat × Json) :=
  match parseHeader (buffer.take 9) with
  | none => .more
  | some header =>
    if buffer.length < 9 + header.length then .more
    else
      let body := parseBody lib ((buffer.drop 9).take header.length)
      .item (header.type, header.sequence, body) (9 + header.length)

/-- `_handleHeartbeatResponse` or `_notifyMessage` -/
def callback (c : Client) (m : MessageType × Nat × Json) : Bool × Client :=
  if m.1 = .heartbeatResponse then (true, { c with missedHeartbeats := 0 })
  else (true, { c with reported := c.reported ++ [m] })

end Dart

/-! ## The header -/

/-- The nine bytes in front of a body. -/
def headerBytes (length : Nat) (type : UInt8) (sequence : Nat) : Bytes :=
  putUint32 length ++ type :: putUint32 sequence

theorem length_headerBytes (length : Nat) (type : UInt8) (sequence : Nat) :
    (headerBytes length type sequence).length = 9 := rfl

theorem header_fields {length sequence : Nat} (hl : length < 2 ^ 32) (hs : sequence < 2 ^ 32)
    (type : UInt8) :
    getUint32 (headerBytes length type sequence) 0 = length ∧
      (headerBytes length type sequence).getD 4 0 = type ∧
      getUint32 (headerBytes length type sequence) 5 = sequence := by
  refine ⟨getUint32_putUint32 hl _, rfl, ?_⟩
  have hpre : headerBytes length type sequence =
      (putUint32 length ++ [type]) ++ (putUint32 sequence ++ []) := by
    simp [headerBytes]
  rw [hpre]
  exact (getUint32_append (putUint32 length ++ [type]) _ 0).trans (getUint32_putUint32 hs [])

theorem cpp_parseHeader {length sequence : Nat} (hl : length < 2 ^ 32) (hs : sequence < 2 ^ 32)
    (type : UInt8) :
    Cpp.parseHeader (headerBytes length type sequence) = some ⟨length, type, sequence⟩ := by
  obtain ⟨h0, h4, h5⟩ := header_fields hl hs type
  rw [Cpp.parseHeader, length_headerBytes, if_neg (by decide), h0, h4, h5]

theorem dart_parseHeader {length sequence : Nat} (hl : length < 2 ^ 32) (hs : sequence < 2 ^ 32)
    (type : MessageType) :
    Dart.parseHeader (headerBytes length type.code sequence) = some ⟨length, type, sequence⟩ := by
  obtain ⟨h0, h4, h5⟩ := header_fields hl hs type.code
  rw [Dart.parseHeader, length_headerBytes, if_neg (by decide), h0, h4, h5,
    ← MessageType.value_eq_code, MessageType.fromValue_value]

/-- A reader decodes what a writer encodes, and the empty text is not JSON. -/
structure Reads (reader writer : JsonLibrary) (body : Json) : Prop where
  decode_encode : reader.decode (writer.encode body) = some body
  decode_nil : reader.decode [] = none

/-- A message that both sides can carry. -/
structure Packet.Fits (writer reader : JsonLibrary) (m : Packet) : Prop where
  object : m.body.isObject = true
  length : (writer.encode m.body).length < 2 ^ 32
  reads : Reads reader writer m.body

namespace Packet

variable {writer reader : JsonLibrary} {m : Packet}

/-- The frame of a message: both sides write it alike. -/
def frame (writer : JsonLibrary) (m : Packet) : Bytes :=
  headerBytes (writer.encode m.body).length m.type.code m.sequence.toNat ++ writer.encode m.body

theorem cpp_serialize (h : m.Fits writer reader) :
    Cpp.serialize writer m.type m.sequence m.body = m.frame writer := by
  rw [Cpp.serialize, Nat.mod_eq_of_lt h.length]
  rfl

theorem dart_serialize (h : m.Fits writer reader) :
    Dart.serialize writer m.type m.sequence m.body = m.frame writer := by
  rw [Dart.serialize, Nat.mod_eq_of_lt h.length, MessageType.value_eq_code, UInt8.ofNat_toNat]
  rfl

theorem encode_ne_nil (h : m.Fits writer reader) : (writer.encode m.body).length ≠ 0 := by
  intro h0
  have hd := h.reads.decode_encode
  rw [List.length_eq_zero_iff.1 h0, h.reads.decode_nil] at hd
  cases hd

theorem cpp_parseBody (h : m.Fits writer reader) :
    Cpp.parseBody reader (writer.encode m.body) = m.body := by
  rw [Cpp.parseBody, if_neg (encode_ne_nil h), h.reads.decode_encode, Option.getD_some]

theorem dart_parseBody (h : m.Fits writer reader) :
    Dart.parseBody reader (writer.encode m.body) = m.body := by
  rw [Dart.parseBody, if_neg (encode_ne_nil h), h.reads.decode_encode]
  simp [Option.filter_some, h.object]

end Packet

/-! ## The client reads -/

namespace Dart

variable {lib : JsonLibrary} {d e : Bytes} {r : MessageType × Nat × Json} {n : Nat}

theorem takeMessage_item (h : takeMessage lib d = .item r n) :
    ∃ header, parseHeader (d.take 9) = some header ∧ 9 + header.length ≤ d.length ∧
      n = 9 + header.length := by
  simp only [takeMessage] at h
  split at h
  case h_1 => cases h
  case h_2 header hh =>
    split at h
    case isTrue => cases h
    case isFalse hlen =>
      cases h
      exact ⟨header, hh, by omega, rfl⟩

theorem takeMessage_append (e : Bytes) (h : takeMessage lib d = .item r n) :
    takeMessage lib (d ++ e) = .item r n := by
  obtain ⟨header, hh, hlen, -⟩ := takeMessage_item h
  have htake : (d ++ e).take 9 = d.take 9 := List.take_append_of_le_length (by omega)
  have hdrop : (d ++ e).drop 9 = d.drop 9 ++ e := List.drop_append_of_le_length (by omega)
  have hbody : (d.drop 9 ++ e).take header.length = (d.drop 9).take header.length :=
    List.take_append_of_le_length (by rw [List.length_drop]; omega)
  simp only [takeMessage, hh, if_neg (show ¬ d.length < 9 + header.length by omega)] at h
  simp only [takeMessage, htake, hh, hdrop, hbody, List.length_append]
  rw [if_neg (by omega)]
  exact h

theorem takeMessage_not_bad (d : Bytes) : takeMessage lib d ≠ .bad := by
  simp only [takeMessage]
  split
  · exact fun h => by cases h
  · split <;> exact fun h => by cases h

def decoder (lib : JsonLibrary) : Decoder UInt8 (MessageType × Nat × Json) where
  decode := takeMessage lib
  decode_nil := rfl
  consumed_pos h := by
    obtain ⟨header, -, -, rfl⟩ := takeMessage_item h
    omega
  consumed_le h := by
    obtain ⟨header, -, hlen, rfl⟩ := takeMessage_item h
    exact hlen
  item_append e h := takeMessage_append e h
  bad_append e h := absurd h (takeMessage_not_bad _)

structure NetworkService extends Client where
  buffer : Bytes

/-- Connected, with nothing received yet. -/
def NetworkService.init : NetworkService := ⟨⟨0, []⟩, []⟩

/-- `_processBuffer` -/
def processBuffer (lib : JsonLibrary) (s : NetworkService) : NetworkService :=
  let d := (decoder lib).drain callback s.toClient s.buffer
  ⟨d.state, d.buffer⟩

/-- The listener of the socket: `_buffer.addAll(data)` and `_processBuffer()`. -/
def onData (lib : JsonLibrary) (s : NetworkService) (chunk : Bytes) : NetworkService :=
  processBuffer lib { s with buffer := s.buffer ++ chunk }

theorem callback_goes_on (c : Client) (m : MessageType × Nat × Json) : (callback c m).1 = true := by
  unfold callback
  split <;> rfl

theorem drain_ok (c : Client) (buffer : Bytes) :
    ((decoder lib).drain callback c buffer).ok = true := by
  induction h : buffer.length using Nat.strongRecOn generalizing c buffer with
  | _ len ih =>
    subst h
    rw [Decoder.drain_eq]
    split
    case h_1 => rfl
    case h_2 hbad => exact absurd hbad (takeMessage_not_bad buffer)
    case h_3 r n hitem =>
      have hpos := (decoder lib).consumed_pos hitem
      have hle := (decoder lib).consumed_le hitem
      have hlen : (buffer.drop n).length = buffer.length - n := List.length_drop
      rw [if_pos (callback_goes_on c r)]
      exact ih _ (by omega) _ _ rfl

/-- How the bytes are cut makes no difference. -/
theorem foldl_onData (chunks : List Bytes) (s : NetworkService) (h : processBuffer lib s = s) :
    chunks.foldl (onData lib) s =
      processBuffer lib { s with buffer := s.buffer ++ chunks.flatten } := by
  induction chunks generalizing s with
  | nil =>
    rw [List.flatten_nil, List.append_nil]
    exact h.symm
  | cons chunk chunks ih =>
    have hok : ((decoder lib).drain callback s.toClient (s.buffer ++ chunk)).ok = true :=
      drain_ok s.toClient (s.buffer ++ chunk)
    rw [List.foldl_cons, ih]
    · simp only [onData, processBuffer, List.flatten_cons, ← List.append_assoc]
      rw [Decoder.drain_append_of_ok hok chunks.flatten]
    · simp only [onData, processBuffer]
      rw [Decoder.drain_drained hok]

/-- One message at the front of the buffer. -/
theorem takeMessage_frame {writer : JsonLibrary} {m : Packet} (h : m.Fits writer lib)
    (rest : Bytes) : takeMessage lib (m.frame writer ++ rest) =
      .item (m.type, m.sequence.toNat, m.body) (m.frame writer).length := by
  have hheader := length_headerBytes (writer.encode m.body).length m.type.code m.sequence.toNat
  have htake : (m.frame writer ++ rest).take 9 =
      headerBytes (writer.encode m.body).length m.type.code m.sequence.toNat := by
    rw [Packet.frame, List.append_assoc, List.take_left' hheader]
  have hdrop : (m.frame writer ++ rest).drop 9 = writer.encode m.body ++ rest := by
    rw [Packet.frame, List.append_assoc, List.drop_left' hheader]
  have hlen : (m.frame writer).length = 9 + (writer.encode m.body).length := by
    rw [Packet.frame, List.length_append, hheader]
  simp only [takeMessage, htake, dart_parseHeader h.length m.sequence.toNat_lt]
  rw [if_neg (by rw [List.length_append]; omega), hdrop, List.take_left' rfl,
    Packet.dart_parseBody h, hlen]

/-- What `_notifyMessage` is called with for a list of messages. -/
def reports (messages : List Packet) : List (MessageType × Nat × Json) :=
  (messages.filter fun m => decide (m.type ≠ .heartbeatResponse)).map fun m =>
    (m.type, m.sequence.toNat, m.body)

theorem drain_frames {writer : JsonLibrary} {messages : List Packet}
    (h : ∀ m ∈ messages, m.Fits writer lib) (c : Client) :
    let d := (decoder lib).drain callback c (messages.map (Packet.frame writer)).flatten
    d.buffer = [] ∧ d.state.reported = c.reported ++ reports messages := by
  induction messages generalizing c with
  | nil => simp [Decoder.drain, Decoder.drainFuel, reports]
  | cons m messages ih =>
    obtain ⟨hm, hrest⟩ := List.forall_mem_cons.1 h
    have hitem := takeMessage_frame hm (messages.map (Packet.frame writer)).flatten
    have hdecode : (decoder lib).decode
        (m.frame writer ++ (messages.map (Packet.frame writer)).flatten) = _ := hitem
    simp only [List.map_cons, List.flatten_cons]
    rw [Decoder.drain_eq, hdecode]
    simp only [callback_goes_on, if_true, List.drop_left]
    obtain ⟨hbuf, hrep⟩ := ih hrest (callback c (m.type, m.sequence.toNat, m.body)).2
    refine ⟨hbuf, hrep.trans ?_⟩
    by_cases ht : m.type = .heartbeatResponse
    · simp [callback, reports, ht]
    · simp [callback, reports, ht]

end Dart

/-! ## The server reads -/

namespace Cpp.Reader

variable {lib : JsonLibrary} {r : Reader}

/-- Between two messages. -/
def Idle (r : Reader) : Prop := r.reading = .header ∧ r.buffer = []

/-- The rest of the bytes that the outstanding read of a header waits for. -/
theorem receive_header {bytes : Bytes} (hr : r.reading = .header) (hne : bytes ≠ [])
    (hlen : r.buffer.length + bytes.length = 9) :
    r.receive lib bytes = { r with buffer := [] }.headerRead lib (r.buffer ++ bytes) := by
  induction bytes generalizing r with
  | nil => exact absurd rfl hne
  | cons b bytes ih =>
    rw [List.length_cons] at hlen
    have hfirst : r.receive lib (b :: bytes) = (r.push lib b).receive lib bytes := rfl
    rw [hfirst, push, hr]
    simp only [List.length_append, List.length_singleton]
    cases bytes with
    | nil =>
      rw [if_pos (by simpa using hlen)]
      simp only [headerRead, bodyRead]
      rfl
    | cons b' bytes =>
      rw [if_neg (by rw [List.length_cons] at hlen; omega)]
      let r' : Reader := ⟨.header, r.buffer ++ [b], r.lastSequence, r.dispatched⟩
      refine (ih (r := r') rfl (by simp) ?_).trans ?_
      · simp only [r', List.length_append, List.length_cons, List.length_nil] at hlen ⊢
        omega
      · simp [r']

theorem receive_body {bytes header : Bytes} {n : Nat} (hr : r.reading = .body n header)
    (hne : bytes ≠ []) (hlen : r.buffer.length + bytes.length = n) :
    r.receive lib bytes = r.bodyRead lib header (r.buffer ++ bytes) := by
  induction bytes generalizing r with
  | nil => exact absurd rfl hne
  | cons b bytes ih =>
    rw [List.length_cons] at hlen
    have hfirst : r.receive lib (b :: bytes) = (r.push lib b).receive lib bytes := rfl
    rw [hfirst, push, hr]
    simp only [List.length_append, List.length_singleton]
    cases bytes with
    | nil =>
      rw [if_pos (by simpa using hlen)]
      rfl
    | cons b' bytes =>
      rw [if_neg (by rw [List.length_cons] at hlen; omega)]
      let r' : Reader := ⟨.body n header, r.buffer ++ [b], r.lastSequence, r.dispatched⟩
      refine (ih (r := r') rfl (by simp) ?_).trans ?_
      · simp only [r', List.length_append, List.length_cons, List.length_nil] at hlen ⊢
        omega
      · simp [r', bodyRead]

theorem receive_append (r : Reader) (xs ys : Bytes) :
    r.receive lib (xs ++ ys) = (r.receive lib xs).receive lib ys :=
  List.foldl_append

theorem foldl_receive (chunks : List Bytes) (r : Reader) :
    chunks.foldl (receive lib) r = r.receive lib chunks.flatten := by
  induction chunks generalizing r with
  | nil => rfl
  | cons chunk chunks ih => rw [List.foldl_cons, ih, List.flatten_cons, receive_append]

/-- One message, from between two messages to between two messages. -/
theorem receive_frame {writer : JsonLibrary} {m : Packet} (h : m.Fits writer lib) (hr : r.Idle) :
    (r.receive lib (m.frame writer)).Idle ∧ (r.receive lib (m.frame writer)).dispatched =
      r.dispatched ++ [(m.type.code, m.sequence.toNat, m.body)] := by
  obtain ⟨hreading, hbuffer⟩ := hr
  have hheader := cpp_parseHeader h.length m.sequence.toNat_lt m.type.code
  let header := headerBytes (writer.encode m.body).length m.type.code m.sequence.toNat
  have hne' : header ≠ [] := by simp [header, headerBytes]
  have hfirst : r.receive lib header =
      { r with buffer := [] }.headerRead lib (r.buffer ++ header) :=
    receive_header hreading hne' (by rw [hbuffer]; rfl)
  rw [hbuffer, List.nil_append, headerRead, hheader] at hfirst
  simp only [if_neg (Packet.encode_ne_nil h)] at hfirst
  have hne : writer.encode m.body ≠ [] := fun h0 =>
    Packet.encode_ne_nil h (List.length_eq_zero_iff.2 h0)
  rw [Packet.frame, receive_append, hfirst, receive_body rfl hne (by simp), bodyRead, hheader]
  simp [Idle, Packet.cpp_parseBody h]

theorem receive_frames {writer : JsonLibrary} {messages : List Packet}
    (h : ∀ m ∈ messages, m.Fits writer lib) (hr : r.Idle) :
    (r.receive lib (messages.map (Packet.frame writer)).flatten).Idle ∧
      (r.receive lib (messages.map (Packet.frame writer)).flatten).dispatched =
        r.dispatched ++ messages.map fun m => (m.type.code, m.sequence.toNat, m.body) := by
  induction messages generalizing r with
  | nil => exact ⟨hr, by simp [receive]⟩
  | cons m messages ih =>
    obtain ⟨hm, hrest⟩ := List.forall_mem_cons.1 h
    obtain ⟨hidle, hdisp⟩ := receive_frame hm hr
    obtain ⟨hidle', hdisp'⟩ := ih hrest hidle
    rw [List.map_cons, List.flatten_cons, receive_append]
    refine ⟨hidle', hdisp'.trans ?_⟩
    rw [hdisp, List.append_assoc]
    rfl

end Cpp.Reader

/-! ## Both directions -/

/-- The frames of the server, in any chunks, are reported by the client in order, and those of
    the client are dispatched by the server in order. -/
theorem codecs_agree (server client : JsonLibrary) (messages : List Packet) (chunks : List Bytes) :
    ((∀ m ∈ messages, m.Fits server client) →
      chunks.flatten =
        (messages.map fun m => Cpp.serialize server m.type m.sequence m.body).flatten →
      let s := chunks.foldl (Dart.onData client) .init
      s.buffer = [] ∧ s.reported = Dart.reports messages) ∧
    ((∀ m ∈ messages, m.Fits client server) →
      chunks.flatten =
        (messages.map fun m => Dart.serialize client m.type m.sequence m.body).flatten →
      let r := chunks.foldl (Cpp.Reader.receive server) .start
      r.Idle ∧ r.dispatched = messages.map fun m => (m.type.code, m.sequence.toNat, m.body)) := by
  constructor
  · intro h hchunks
    have hframes : (messages.map fun m => Cpp.serialize server m.type m.sequence m.body) =
        messages.map (Packet.frame server) :=
      List.map_congr_left fun m hm => Packet.cpp_serialize (h m hm)
    rw [hframes] at hchunks
    rw [Dart.foldl_onData chunks _ rfl, hchunks]
    exact Dart.drain_frames h ⟨0, []⟩
  · intro h hchunks
    have hframes : (messages.map fun m => Dart.serialize client m.type m.sequence m.body) =
        messages.map (Packet.frame client) :=
      List.map_congr_left fun m hm => Packet.dart_serialize (h m hm)
    rw [hframes] at hchunks
    rw [Cpp.Reader.foldl_receive, hchunks]
    exact Cpp.Reader.receive_frames h ⟨rfl, rfl⟩

/-- A JSON library on the text `{}`, the empty object. -/
def emptyObjectLibrary : JsonLibrary where
  encode _ := [0x7B, 0x7D]
  decode text := if text = [0x7B, 0x7D] then some (.object []) else none

/-- A heartbeat response and a login with empty bodies, cut inside a header and inside a body. -/
theorem codecs_agree_two :
    let messages : List Packet :=
      [⟨.heartbeatResponse, 1, .object []⟩, ⟨.login, 258, .object []⟩]
    let bytes : Bytes := [2, 0, 0, 0, 101, 1, 0, 0, 0, 0x7B, 0x7D, 2, 0, 0, 0, 3, 2, 1, 0, 0,
      0x7B, 0x7D]
    let chunks := [bytes.take 3, (bytes.drop 3).take 7, bytes.drop 10]
    let s := chunks.foldl (Dart.onData emptyObjectLibrary) .init
    let r := chunks.foldl (Cpp.Reader.receive emptyObjectLibrary) .start
    (s.buffer = [] ∧ s.reported = [(.login, 258, .object [])]) ∧
      r.dispatched = [(101, 1, .object []), (3, 258, .object [])] := by
  intro messages bytes chunks
  have hfits : ∀ m ∈ messages, m.Fits emptyObjectLibrary emptyObjectLibrary := by
    simp only [messages, List.forall_mem_cons]
    exact ⟨⟨rfl, by decide, ⟨rfl, rfl⟩⟩, ⟨rfl, by decide, ⟨rfl, rfl⟩⟩, fun _ h => by cases h⟩
  have h := codecs_agree emptyObjectLibrary emptyObjectLibrary messages chunks
  exact ⟨h.1 hfits rfl, (h.2 hfits rfl).2⟩

end ChatApp.Protocol

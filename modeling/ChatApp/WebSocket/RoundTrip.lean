/-
  `parse_frame` reads what `send_frame` writes. `decodeFrame_encodeFrame` is the round trip for
  every opcode, fin flag and payload, for the unmasked frame of the server and the masked one of
  a client; every proper prefix of either asks for more bytes.

  The header is treated once for both forms: `decodeFrame_header` reads the length back from each
  of the three encodings, with or without the mask bit.
-/
import ChatApp.WebSocket.Frame

namespace ChatApp.WebSocket

open ChatApp.Lib

/-- The mask bit, in the first byte of the length field. -/
def setMask : Bytes → Bytes
  | [] => []
  | b :: bytes => (b ||| 0x80) :: bytes

/-- The length field of a server's or of a client's frame. -/
def lengthField (masked : Bool) (len : Nat) : Bytes :=
  if masked then setMask (encodeLength len) else encodeLength len

/-- The frame of `encodeFrame` as a client sends it: the mask bit is set, the key follows the
    length, and the payload is masked with it. -/
def encodeMasked (opcode : UInt8) (data : Bytes) (fin : Bool) (key : Bytes) : Bytes :=
  ((opcode &&& 0x0F) ||| if fin then 0x80 else 0) ::
    (setMask (encodeLength data.length) ++ (key ++ unmask key data))

/-! ## Numbers and bytes -/

theorem foldl_bigEndian (bytes : Bytes) (n : Nat) :
    bytes.foldl (fun n b => n * 256 + b.toNat) n = n * 256 ^ bytes.length + bigEndian bytes := by
  induction bytes generalizing n with
  | nil => simp [bigEndian]
  | cons b bytes ih =>
    have hb : bigEndian (b :: bytes) = b.toNat * 256 ^ bytes.length + bigEndian bytes := by
      show bytes.foldl _ (0 * 256 + b.toNat) = _
      rw [ih, Nat.zero_mul, Nat.zero_add]
    rw [List.foldl_cons, ih, hb, List.length_cons, Nat.pow_succ, Nat.add_mul, Nat.mul_assoc,
      Nat.mul_comm 256, Nat.add_assoc]

@[simp] theorem length_lengthBytes (len n : Nat) : (lengthBytes len n).length = n := by
  induction n with
  | zero => rfl
  | succ n ih => rw [lengthBytes, List.length_cons, ih]

theorem bigEndian_lengthBytes (len n : Nat) : bigEndian (lengthBytes len n) = len % 256 ^ n := by
  induction n with
  | zero => simp [lengthBytes, bigEndian, Nat.mod_one]
  | succ n ih =>
    have hbyte : (UInt8.ofNat (len / 256 ^ n)).toNat = len / 256 ^ n % 256 := UInt8.toNat_ofNat'
    have hsplit : bigEndian (lengthBytes len (n + 1)) =
        (UInt8.ofNat (len / 256 ^ n)).toNat * 256 ^ n + bigEndian (lengthBytes len n) := by
      have h := foldl_bigEndian (lengthBytes len n) (UInt8.ofNat (len / 256 ^ n)).toNat
      rw [length_lengthBytes] at h
      rw [← h, lengthBytes, bigEndian, List.foldl_cons, Nat.zero_mul, Nat.zero_add]
    rw [hsplit, hbyte, ih, Nat.pow_succ, Nat.mod_mul, Nat.mul_comm, Nat.add_comm]

/-- The low four bits and the highest bit of the first byte. -/
theorem firstByte_ofNat : ∀ n < 16,
    ((UInt8.ofNat n &&& 0x0F) ||| 0x80) &&& 0x0F = UInt8.ofNat n ∧
      ((UInt8.ofNat n &&& 0x0F) ||| 0x80) &&& 0x80 ≠ 0 ∧
      ((UInt8.ofNat n &&& 0x0F) ||| 0) &&& 0x0F = UInt8.ofNat n ∧
      ((UInt8.ofNat n &&& 0x0F) ||| 0) &&& 0x80 = 0 := by
  decide +kernel

theorem slice_middle (a b c : Bytes) : slice (a ++ (b ++ c)) a.length b.length = b := by
  unfold slice
  rw [List.drop_left, List.take_left]

theorem unmask_unmask (key data : Bytes) : unmask key (unmask key data) = data := by
  unfold unmask
  refine List.ext_getElem (by simp) fun i h₁ h₂ => ?_
  simp [UInt8.xor_assoc]

@[simp] theorem length_unmask (key data : Bytes) : (unmask key data).length = data.length := by
  unfold unmask
  exact List.length_mapIdx

/-! ## The header -/

/-- A byte of seven bits, as the first of a length field. -/
def maskByte (masked : Bool) (b : UInt8) : UInt8 := if masked then b ||| 0x80 else b

theorem maskByte_ofNat (masked : Bool) : ∀ n < 128,
    maskByte masked (UInt8.ofNat n) &&& 0x7F = UInt8.ofNat n ∧
      (maskByte masked (UInt8.ofNat n) &&& 0x80 ≠ 0 ↔ masked = true) ∧
      (UInt8.ofNat n).toNat = n := by
  cases masked <;> decide +kernel

/-- The three encodings of a length. -/
theorem lengthField_cases (masked : Bool) (len : Nat) :
    (len ≤ 125 ∧ lengthField masked len = [maskByte masked (UInt8.ofNat len)]) ∨
      (len ≤ 65535 ∧ lengthField masked len =
        maskByte masked (UInt8.ofNat 126) :: lengthBytes len 2) ∨
      lengthField masked len = maskByte masked (UInt8.ofNat 127) :: lengthBytes len 8 := by
  unfold lengthField encodeLength maskByte
  by_cases hshort : len ≤ 125
  · refine .inl ⟨hshort, ?_⟩
    rw [if_pos hshort]
    cases masked <;> rfl
  by_cases hmedium : len ≤ 65535
  · refine .inr (.inl ⟨hmedium, ?_⟩)
    rw [if_neg hshort, if_pos hmedium]
    cases masked <;> rfl
  · refine .inr (.inr ?_)
    rw [if_neg hshort, if_neg hmedium]
    cases masked <;> rfl

section
variable {len : Nat} {masked : Bool} {b : UInt8} {rest : Bytes}

/-- A short length is the byte itself. -/
theorem decodeFrame_short (hlen : len ≤ 125) :
    decodeFrame (b :: maskByte masked (UInt8.ofNat len) :: rest) =
      decodeMask (b :: maskByte masked (UInt8.ofNat len) :: rest) 2 len := by
  obtain ⟨hbyte, -, hnat⟩ := maskByte_ofNat masked len (by omega)
  have hne : ∀ n, 125 < n → n < 128 → UInt8.ofNat len ≠ UInt8.ofNat n := by
    intro n hn hn' h
    have h := congrArg UInt8.toNat h
    rw [hnat, (maskByte_ofNat masked n hn').2.2] at h
    omega
  have hget : (b :: maskByte masked (UInt8.ofNat len) :: rest).getD 1 0 =
      maskByte masked (UInt8.ofNat len) := rfl
  have h126 : UInt8.ofNat len ≠ 126 := hne 126 (by decide) (by decide)
  have h127 : UInt8.ofNat len ≠ 127 := hne 127 (by decide) (by decide)
  unfold decodeFrame
  have htwo : ¬ (b :: maskByte masked (UInt8.ofNat len) :: rest).length < 2 := by
    simp only [List.length_cons]
    omega
  rw [if_neg htwo]
  simp only [hget, hbyte]
  rw [if_neg h126, if_neg h127, hnat]

/-- A longer length is in the bytes after. -/
theorem decodeFrame_long {n : Nat} (hn : n = 2 ∨ n = 8) (hlen : len < 256 ^ n) :
    let data := b :: maskByte masked (UInt8.ofNat (if n = 2 then 126 else 127)) ::
      (lengthBytes len n ++ rest)
    decodeFrame data = decodeMask data (2 + n) len := by
  intro data
  have hvalue : bigEndian (slice data 2 n) = len := by
    have hslice := slice_middle [b, maskByte masked (UInt8.ofNat (if n = 2 then 126 else 127))]
      (lengthBytes len n) rest
    rw [length_lengthBytes] at hslice
    have hdata : slice data 2 n = lengthBytes len n := hslice
    rw [hdata, bigEndian_lengthBytes, Nat.mod_eq_of_lt hlen]
  have hlength : data.length = 2 + n + rest.length := by
    simp only [data, List.length_cons, List.length_append, length_lengthBytes]
    omega
  have hget : data.getD 1 0 = maskByte masked (UInt8.ofNat (if n = 2 then 126 else 127)) := rfl
  unfold decodeFrame
  rw [if_neg (by omega)]
  rcases hn with rfl | rfl
  · have hbyte : data.getD 1 0 &&& 0x7F = 126 := by
      rw [hget]
      exact (maskByte_ofNat masked 126 (by decide)).1
    simp only [hbyte, if_true]
    rw [if_neg (by omega), hvalue]
  · have hbyte : data.getD 1 0 &&& 0x7F = 127 := by
      rw [hget]
      exact (maskByte_ofNat masked 127 (by decide)).1
    have hne : (127 : UInt8) ≠ 126 := by decide
    simp only [hbyte, if_neg hne, if_true]
    rw [if_neg (by omega), hvalue]

/-- The length is read back, in a header of one byte and the length field. -/
theorem decodeFrame_header (hlen : len ≤ maxPayload) :
    decodeFrame (b :: (lengthField masked len ++ rest)) =
      decodeMask (b :: (lengthField masked len ++ rest)) (1 + (lengthField masked len).length)
        len := by
  have hmax : maxPayload < 256 ^ 8 := by decide
  rcases lengthField_cases masked len with ⟨hshort, hfield⟩ | ⟨hmedium, hfield⟩ | hfield
  · rw [hfield]
    exact decodeFrame_short hshort
  · rw [hfield, List.length_cons, length_lengthBytes]
    exact decodeFrame_long (.inl rfl) (by omega)
  · rw [hfield, List.length_cons, length_lengthBytes]
    exact decodeFrame_long (.inr rfl) (by omega)

/-- The mask bit is read back. -/
theorem maskBit_header :
    (b :: (lengthField masked len ++ rest)).getD 1 0 &&& 0x80 ≠ 0 ↔ masked = true := by
  rcases lengthField_cases masked len with ⟨hshort, hfield⟩ | ⟨-, hfield⟩ | hfield
  · rw [hfield]
    exact (maskByte_ofNat masked len (by omega)).2.1
  · rw [hfield]
    exact (maskByte_ofNat masked 126 (by decide)).2.1
  · rw [hfield]
    exact (maskByte_ofNat masked 127 (by decide)).2.1

end

/-- The first byte is read back. -/
theorem firstByte {opcode : UInt8} (hopcode : opcode < 16) (fin : Bool) :
    ((opcode &&& 0x0F) ||| if fin then 0x80 else 0) &&& 0x0F = opcode ∧
      decide (((opcode &&& 0x0F) ||| if fin then 0x80 else 0) &&& 0x80 ≠ 0) = fin := by
  obtain ⟨h₁, h₂, h₃, h₄⟩ := firstByte_ofNat opcode.toNat hopcode
  rw [UInt8.ofNat_toNat] at h₁ h₂ h₃ h₄
  cases fin
  · exact ⟨h₃, decide_eq_false (not_not.2 h₄)⟩
  · exact ⟨h₁, decide_eq_true h₂⟩

/-! ## The round trip -/

/-- The bytes are those of the frame: they are read as it whatever follows them, and a proper
    prefix asks for more. -/
structure Decodes (bytes : Bytes) (f : WsFrame) : Prop where
  whole : ∀ more, decodeFrame (bytes ++ more) = .item f bytes.length
  more : ∀ start, start <+: bytes → start ≠ bytes → decodeFrame start = .more

/-- A decoder that reads the whole reads no proper prefix. -/
theorem decodes_of_whole {bytes : Bytes} {f : WsFrame}
    (h : ∀ more, decodeFrame (bytes ++ more) = .item f bytes.length) : Decodes bytes f := by
  refine ⟨h, fun start hprefix hne => ?_⟩
  by_contra hmore
  obtain ⟨rest, rfl⟩ := hprefix
  have hwhole := h []
  rw [List.append_nil, stable_decodeFrame hmore] at hwhole
  have hle := (consumed_decodeFrame hwhole).2
  rw [List.length_append] at hle
  have hrest : rest = [] := List.length_eq_zero_iff.1 (by omega)
  exact hne (by rw [hrest, List.append_nil])

/-- The payload of an unmasked frame is what follows the header. -/
theorem decodes_unmasked {b : UInt8} {data : Bytes} (hlen : data.length ≤ maxPayload) :
    Decodes (b :: (lengthField false data.length ++ data))
      ⟨decide (b &&& 0x80 ≠ 0), b &&& 0x0F, false, data.length, [], data⟩ := by
  refine decodes_of_whole fun more => ?_
  let header := b :: lengthField false data.length
  have hheader : header.length = 1 + (lengthField false data.length).length := by
    simp only [header, List.length_cons]
    omega
  have hbytes : b :: (lengthField false data.length ++ data) ++ more =
      b :: (lengthField false data.length ++ (data ++ more)) := by
    simp only [List.cons_append, List.append_assoc]
  have hslice : slice (b :: (lengthField false data.length ++ (data ++ more)))
      (1 + (lengthField false data.length).length) data.length = data := by
    rw [← hheader]
    exact slice_middle header data more
  have hmask : ¬ (b :: (lengthField false data.length ++ (data ++ more))).getD 1 0 &&& 0x80 ≠ 0 :=
    fun h => by cases maskBit_header.1 h
  have hlength : ¬ (b :: (lengthField false data.length ++ (data ++ more))).length <
      1 + (lengthField false data.length).length + data.length := by
    simp only [List.length_cons, List.length_append]
    omega
  have hconsumed : (b :: (lengthField false data.length ++ data)).length =
      1 + (lengthField false data.length).length + data.length := by
    simp only [List.length_cons, List.length_append]
    omega
  rw [hbytes, decodeFrame_header hlen, hconsumed]
  unfold decodeMask
  rw [if_neg (by omega), if_neg hmask]
  unfold decodePayload
  rw [if_neg hlength, hslice]
  rfl

/-- The key and the masked payload follow the header of a masked frame. -/
theorem decodes_masked {b : UInt8} {data key : Bytes} (hlen : data.length ≤ maxPayload)
    (hkey : key.length = 4) :
    Decodes (b :: (lengthField true data.length ++ (key ++ unmask key data)))
      ⟨decide (b &&& 0x80 ≠ 0), b &&& 0x0F, true, data.length, key, data⟩ := by
  refine decodes_of_whole fun more => ?_
  let header := b :: lengthField true data.length
  let bytes := b :: (lengthField true data.length ++ (key ++ (unmask key data ++ more)))
  have hheader : header.length = 1 + (lengthField true data.length).length := by
    simp only [header, List.length_cons]
    omega
  have hbytes : b :: (lengthField true data.length ++ (key ++ unmask key data)) ++ more
      = bytes := by
    simp only [bytes, List.cons_append, List.append_assoc]
  have hslice : slice bytes (1 + (lengthField true data.length).length) 4 = key := by
    rw [← hheader, ← hkey]
    exact slice_middle header key (unmask key data ++ more)
  have hpayload : slice bytes (1 + (lengthField true data.length).length + 4) data.length =
      unmask key data := by
    have hlen' : (header ++ key).length = 1 + (lengthField true data.length).length + 4 := by
      rw [List.length_append, hheader, hkey]
    have hsplit : bytes = header ++ key ++ (unmask key data ++ more) := by
      simp only [bytes, header, List.cons_append, List.append_assoc]
    have h := slice_middle (header ++ key) (unmask key data) more
    rw [hlen', length_unmask] at h
    rw [hsplit]
    exact h
  have hmask : bytes.getD 1 0 &&& 0x80 ≠ 0 := maskBit_header.2 rfl
  have hlength : bytes.length =
      1 + (lengthField true data.length).length + 4 + data.length + more.length := by
    simp only [bytes, List.length_cons, List.length_append, length_unmask, hkey]
    omega
  have hconsumed : (b :: (lengthField true data.length ++ (key ++ unmask key data))).length =
      1 + (lengthField true data.length).length + 4 + data.length := by
    simp only [List.length_cons, List.length_append, length_unmask, hkey]
    omega
  have hfour : ¬ bytes.length < 1 + (lengthField true data.length).length + 4 := by
    rw [hlength]
    omega
  have hall : ¬ bytes.length < 1 + (lengthField true data.length).length + 4 + data.length := by
    rw [hlength]
    omega
  rw [hbytes, decodeFrame_header hlen, hconsumed]
  unfold decodeMask
  rw [if_neg (by omega), if_pos hmask, if_neg hfour, hslice]
  unfold decodePayload
  rw [if_neg hall, hpayload]
  simp only [unmask_unmask]
  rfl

/-- What `send_frame` writes, and what a client writes for the same frame, is read back. -/
theorem decodeFrame_encodeFrame {opcode : UInt8} (hopcode : opcode < 16) (fin : Bool)
    {data : Bytes} (hlen : data.length ≤ maxPayload) :
    Decodes (encodeFrame opcode data fin) ⟨fin, opcode, false, data.length, [], data⟩ ∧
      ∀ key : Bytes, key.length = 4 → Decodes (encodeMasked opcode data fin key)
        ⟨fin, opcode, true, data.length, key, data⟩ := by
  obtain ⟨hop, hfin⟩ := firstByte hopcode fin
  constructor
  · have h := decodes_unmasked (b := (opcode &&& 0x0F) ||| if fin then 0x80 else 0) hlen
    rw [hop, hfin] at h
    exact h
  · intro key hkey
    have h := decodes_masked (b := (opcode &&& 0x0F) ||| if fin then 0x80 else 0) hlen hkey
    rw [hop, hfin] at h
    exact h

/-- A text frame of two bytes. -/
theorem decodeFrame_encodeFrame_text :
    (1 : UInt8) < 16 ∧ [(104 : UInt8), 105].length ≤ maxPayload ∧
      Decodes (encodeFrame 1 [104, 105] true) ⟨true, 1, false, 2, [], [104, 105]⟩ :=
  ⟨by decide, by decide, (decodeFrame_encodeFrame (by decide) true (by decide)).1⟩

end ChatApp.WebSocket

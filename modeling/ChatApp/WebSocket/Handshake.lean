/-
  The handshake with which a WebSocket connection begins: `handle_new_connection` up to the answer,
  `perform_handshake` and `compute_accept_key`. The server looks at what its first `recv` returns
  and reads no more, so the request has to arrive at once, up to the line with the key.

  A request comes in lines; the last one may be a part of a line. The key is what stands behind the
  first field name in the request, in any letter case, up to the end of its line.
-/
import ChatApp.Lib.Base64
import ChatApp.Lib.Lines
import ChatApp.Lib.Text
import ChatApp.WebSocket.Frame

namespace ChatApp.WebSocket.Handshake

open ChatApp.Lib ChatApp.Lib.Lines ChatApp.Lib.Search ChatApp.Lib.Text

/-! ## The answer -/

def lower (b : UInt8) : UInt8 := if 65 ≤ b ∧ b ≤ 90 then b + 32 else b

def isBlank (b : UInt8) : Bool := b = 32 || b = 9

def keyName : Bytes := toBytes "sec-websocket-key:"

/-- From `start` up to the first carriage return, or to the first line feed if there is none -/
def restOfLine (request : Bytes) (start : Nat) : Bytes :=
  match (find request [13] start).or (find request [10] start) with
  | some stop => (request.drop start).take (stop - start)
  | none => request.drop start

/-- `ws_key` in `perform_handshake`; it stays empty if the name is not found. -/
def wsKey (request : Bytes) : Bytes :=
  match find (request.map lower) keyName 0 with
  | none => []
  | some keyPos =>
    -- `npos + 1` is 0
    let colon := match find request [58] keyPos with
      | some pos => pos + 1
      | none => 0
    restOfLine request (colon + ((request.drop colon).takeWhile isBlank).length)

variable (sha1 : Bytes → Bytes)

def computeAcceptKey (key : Bytes) : Bytes :=
  Base64.encodePadded (sha1 (key ++ toBytes "258EAFA5-E914-47DA-95CA-C5AB0DC85B11"))

def handshakeResponse (acceptKey : Bytes) : Bytes :=
  toBytes "HTTP/1.1 101 Switching Protocols\r\nUpgrade: websocket\r\nConnection: Upgrade\r\n" ++
    toBytes "Sec-WebSocket-Accept: " ++ acceptKey ++ [13, 10, 13, 10]

def performHandshake (request : Bytes) : Option Bytes :=
  let key := wsKey request
  if key = [] then none else some (handshakeResponse (computeAcceptKey sha1 key))

/-- It is a request for an upgrade. -/
def asksUpgrade (request : Bytes) : Bool :=
  (find request (toBytes "Upgrade: websocket") 0).isSome ||
    (find request (toBytes "upgrade: websocket") 0).isSome

/-- The answer to what the first `recv` returns (nothing, if it fails), which is cut off at a null
    byte. If there is none, the connection is closed. -/
def answer (received : Bytes) : Option Bytes :=
  let request := received.takeWhile (· ≠ 0)
  if asksUpgrade request then performHandshake sha1 request else none

/-- The connection becomes a `WsConnection`: `poll` reports it within five seconds, and the answer
    goes out in one piece. -/
def opens (ready : Bool) (received : Bytes) (sent : Bytes → Int) : Bool :=
  ready && match answer sha1 received with
    | some response => sent response = response.length
    | none => false

/-! ## Requests in lines -/

/-- The text of the field in a line, if it has the name. -/
def fieldKey (line : Bytes) : Option Bytes :=
  (cut keyName (line.map lower)).map fun z => (line.drop (z.1.length + 18)).dropWhile isBlank

/-- What the server reads as the key. -/
def sentKey (lines : List Bytes) : Option Bytes := lines.findSome? fieldKey

def AsksUpgrade (line : Bytes) : Prop :=
  toBytes "Upgrade: websocket" <:+: line ∨ toBytes "upgrade: websocket" <:+: line

/-- A line of a request -/
def Line (line : Bytes) : Prop := 13 ∉ line ∧ 10 ∉ line

variable {sha1}

/-! ## Letters -/

theorem lower_eq {b c : UInt8} (hc : c.toNat < 65 ∨ 90 < c.toNat ∧ c.toNat < 97) :
    lower b = c ↔ b = c := by
  unfold lower
  split
  next h =>
    have hlow : 65 ≤ b.toNat := h.1
    have hhigh : b.toNat ≤ 90 := h.2
    have hsum : (b + 32).toNat = b.toNat + 32 := by
      rw [UInt8.toNat_add]
      show (b.toNat + 32) % 256 = _
      omega
    constructor
    · intro heq
      have hnat := congrArg UInt8.toNat heq
      omega
    · intro heq
      have hnat := congrArg UInt8.toNat heq
      omega
  next => exact Iff.rfl

theorem mem_map_lower {c : UInt8} {s : Bytes} (hc : c.toNat < 65 ∨ 90 < c.toNat ∧ c.toNat < 97) :
    c ∈ s.map lower ↔ c ∈ s := by
  rw [List.mem_map]
  constructor
  · intro ⟨b, hb, heq⟩
    exact (lower_eq hc).1 heq ▸ hb
  · exact fun hmem => ⟨c, hmem, (lower_eq hc).2 rfl⟩

theorem inLine_keyName : InLine keyName := ⟨by decide, by decide, by decide⟩

/-! ## The key -/

/-- Where the name is found, the colon at its end is the next one. -/
theorem find_colon {request before field rest : Bytes}
    (hrequest : request = before ++ (field ++ rest)) (hfield : field.map lower = keyName) :
    find request [58] before.length = some (before.length + 17) ∧
      request.drop (before.length + 17 + 1) = rest := by
  have hname : keyName = keyName.dropLast ++ [58] := by decide
  rw [hname] at hfield
  obtain ⟨start, colon, rfl, hstart, hcolon⟩ := List.map_eq_append_iff.1 hfield
  obtain ⟨b, rfl, hb⟩ := List.map_eq_singleton_iff.1 hcolon
  obtain rfl : b = 58 := (lower_eq (.inl (by decide))).1 hb
  have hlength : start.length = 17 := by
    have hmap := congrArg List.length hstart
    rwa [List.length_map] at hmap
  have hnot : 58 ∉ start := by
    rw [← mem_map_lower (.inl (by decide)), hstart]
    decide
  have hdrop : request.drop before.length = start ++ 58 :: rest := by
    rw [hrequest, List.drop_left, List.append_assoc]
    rfl
  have hcut : cut [58] (request.drop before.length) = some (start, rest) := by
    rw [hdrop]
    exact cut_separator hnot
  constructor
  · rw [find_of_cut (by rw [hrequest, List.length_append]; omega) hcut, hlength]
  · have hrest := drop_of_cut hcut
    rwa [hlength, List.length_singleton] at hrest

/-- The text of a field ends with its line. -/
theorem read_value {request value tail : Bytes} {after : List Bytes} {start : Nat}
    (hvalue : Line value) (htail : IsRest tail)
    (h : request.drop start = value ++ following tail after) (hle : start ≤ request.length) :
    restOfLine request start = value := by
  have hends : (∃ rest, following tail after = 13 :: rest) ∨ following tail after = [] := by
    cases after with
    | nil =>
      rcases htail with rfl | rfl
      · exact .inr rfl
      · exact .inl ⟨[], rfl⟩
    | cons l after => exact .inl ⟨_, rfl⟩
  unfold restOfLine
  rcases hends with ⟨rest, hrest⟩ | hrest
  · have hcut : cut [13] (request.drop start) = some (value, rest) := by
      rw [h, hrest]
      exact cut_separator hvalue.1
    rw [find_of_cut hle hcut, Option.some_or]
    dsimp only
    rw [Nat.add_sub_cancel_left, h, List.take_left]
  · rw [hrest, List.append_nil] at h
    have hnone : ∀ a ∉ value, find request [a] start = none := by
      intro a ha
      refine find_of_cut_none ?_
      rw [h]
      exact cut_eq_none_iff.2 fun hpart => ha (hpart.subset List.mem_cons_self)
    rw [hnone 13 hvalue.1, hnone 10 hvalue.2]
    exact h

/-- The blanks in front of a value are skipped, and no more. -/
theorem takeWhile_blanks {v tail : Bytes} {after : List Bytes} (htail : IsRest tail) :
    (v ++ following tail after).takeWhile isBlank = v.takeWhile isBlank := by
  have hnext : (following tail after).takeWhile isBlank = [] := by
    cases after with
    | nil => rcases htail with rfl | rfl <;> rfl
    | cons l after => rfl
  rw [List.takeWhile_append, hnext, List.append_nil]
  split
  next heq => exact ((List.takeWhile_prefix isBlank).eq_of_length heq).symm
  next => rfl

theorem fieldKey_eq_some {line key : Bytes} (h : fieldKey line = some key) :
    ∃ a field v, line = a ++ (field ++ v) ∧ field.map lower = keyName ∧
      v.dropWhile isBlank = key ∧ ∃ y, cut keyName (line.map lower) = some (a.map lower, y) := by
  obtain ⟨⟨x, y⟩, hcut, rfl⟩ := Option.map_eq_some_iff.1 h
  obtain ⟨hline, -⟩ := cut_eq_some hcut
  rw [List.append_assoc] at hline
  obtain ⟨a, rest, rfl, rfl, hrest⟩ := List.map_eq_append_iff.1 hline
  obtain ⟨field, v, rfl, hfield, -⟩ := List.map_eq_append_iff.1 hrest
  refine ⟨a, field, v, rfl, hfield, ?_, y, hcut⟩
  have hlength : field.length = 18 := by
    have hmap := congrArg List.length hfield
    rwa [List.length_map] at hmap
  dsimp only
  rw [List.length_map, ← hlength, ← List.length_append, ← List.append_assoc, List.drop_left]

/-- The name is found in the first line that has it. -/
theorem find_name {tail line a y : Bytes} {before after : List Bytes}
    (hbefore : ∀ l ∈ before, fieldKey l = none)
    (hcut : cut keyName (line.map lower) = some (a.map lower, y)) :
    find ((join tail (before ++ line :: after)).map lower) keyName 0 =
      some (opening before ++ a).length := by
  have hnone : ∀ l ∈ before.map (·.map lower), cut keyName l = none := by
    intro l hl
    obtain ⟨m, hm, rfl⟩ := List.mem_map.1 hl
    exact Option.map_eq_none_iff.1 (hbefore m hm)
  rw [map_join rfl rfl, List.map_append, List.map_cons, find_join inLine_keyName hnone hcut,
    List.length_append, List.length_append, length_opening, List.length_map]

/-- Where the name is found, the rest of the line is read. -/
theorem wsKey_of_find {request before field v tail : Bytes} {after : List Bytes}
    (hv : Line v) (htail : IsRest tail) (hfield : field.map lower = keyName)
    (hrequest : request = before ++ (field ++ (v ++ following tail after)))
    (hfind : find (request.map lower) keyName 0 = some before.length) :
    wsKey request = v.dropWhile isBlank := by
  obtain ⟨hcolon, hdrop⟩ := find_colon hrequest hfield
  have hvalue : Line (v.dropWhile isBlank) :=
    ⟨fun h => hv.1 (List.dropWhile_subset isBlank h),
      fun h => hv.2 (List.dropWhile_subset isBlank h)⟩
  have hstart : request.drop (before.length + 17 + 1 + (v.takeWhile isBlank).length) =
      v.dropWhile isBlank ++ following tail after := by
    have hblanks : v ++ following tail after =
        v.takeWhile isBlank ++ (v.dropWhile isBlank ++ following tail after) := by
      rw [← List.append_assoc, List.takeWhile_append_dropWhile]
    rw [← List.drop_drop, hdrop, hblanks, List.drop_left]
  have hle : before.length + 17 + 1 + (v.takeWhile isBlank).length ≤ request.length := by
    have hlength := congrArg List.length hfield
    rw [List.length_map] at hlength
    have hblanks := (List.takeWhile_prefix (l := v) isBlank).length_le
    rw [hrequest, List.length_append, List.length_append, List.length_append, hlength]
    have hname : keyName.length = 18 := by decide
    omega
  unfold wsKey
  rw [hfind]
  dsimp only
  rw [hcolon]
  dsimp only
  rw [hdrop, takeWhile_blanks htail]
  exact read_value hvalue htail hstart hle

theorem wsKey_join {tail : Bytes} {lines : List Bytes} (htail : IsRest tail)
    (hlines : ∀ l ∈ lines, Line l) : wsKey (join tail lines) = (sentKey lines).getD [] := by
  cases hkey : sentKey lines with
  | none =>
    have hnone := List.findSome?_eq_none_iff.1 hkey
    have hcut : cut keyName ((join tail lines).map lower) = none := by
      rw [map_join rfl rfl]
      refine cut_join_none inLine_keyName (htail.map rfl) fun l hl => ?_
      obtain ⟨line, hline, rfl⟩ := List.mem_map.1 hl
      exact Option.map_eq_none_iff.1 (hnone line hline)
    unfold wsKey
    rw [find_of_cut_none hcut]
    rfl
  | some key =>
    obtain ⟨before, line, after, rfl, hline, hbefore⟩ := List.findSome?_eq_some_iff.1 hkey
    obtain ⟨a, field, v, rfl, hfield, rfl, y, hcut⟩ := fieldKey_eq_some hline
    have hwhole : Line (a ++ (field ++ v)) := hlines _ (List.mem_append_right _ List.mem_cons_self)
    have hv : Line v :=
      ⟨fun h => hwhole.1 (List.mem_append_right a (List.mem_append_right field h)),
        fun h => hwhole.2 (List.mem_append_right a (List.mem_append_right field h))⟩
    have hrequest : join tail (before ++ (a ++ (field ++ v)) :: after) =
        (opening before ++ a) ++ (field ++ (v ++ following tail after)) := by
      rw [join_append]
      simp only [List.append_assoc]
    exact wsKey_of_find hv htail hfield hrequest (find_name hbefore hcut)

theorem asksUpgrade_join {tail : Bytes} {lines : List Bytes} (htail : IsRest tail) :
    asksUpgrade (join tail lines) ↔ ∃ line ∈ lines, AsksUpgrade line := by
  have hupper : InLine (toBytes "Upgrade: websocket") := ⟨by decide, by decide, by decide⟩
  have hlower : InLine (toBytes "upgrade: websocket") := ⟨by decide, by decide, by decide⟩
  unfold asksUpgrade AsksUpgrade
  rw [Bool.or_eq_true, find_isSome_iff, find_isSome_iff, infix_join hupper htail,
    infix_join hlower htail, ← exists_or]
  simp only [← and_or_left]

/-! ## The connection -/

/-- What the server asks of a request before it takes the connection over -/
structure Accepts (lines : List Bytes) (key : Bytes) : Prop where
  upgrade : ∃ line ∈ lines, AsksUpgrade line
  sent : sentKey lines = some key
  ne : key ≠ []

theorem answer_eq_some {received tail response : Bytes} {lines : List Bytes} (htail : IsRest tail)
    (hlines : ∀ l ∈ lines, Line l) (h : received.takeWhile (· ≠ 0) = join tail lines) :
    answer sha1 received = some response ↔ ∃ key, Accepts lines key ∧
      response = handshakeResponse (computeAcceptKey sha1 key) := by
  unfold answer performHandshake
  dsimp only
  rw [h, wsKey_join htail hlines]
  constructor
  · intro hanswer
    split at hanswer
    next hasks =>
      cases hkey : sentKey lines with
      | none =>
        rw [hkey] at hanswer
        cases hanswer
      | some key =>
        rw [hkey, Option.getD_some] at hanswer
        split at hanswer
        next => cases hanswer
        next hne =>
          obtain rfl := Option.some.inj hanswer
          exact ⟨key, ⟨(asksUpgrade_join htail).1 hasks, hkey, hne⟩, rfl⟩
    next => cases hanswer
  · intro ⟨key, haccepts, hresponse⟩
    rw [if_pos ((asksUpgrade_join htail).2 haccepts.upgrade), haccepts.sent, Option.getD_some,
      if_neg haccepts.ne, hresponse]

theorem opens_iff_answer {ready : Bool} {received : Bytes} {sent : Bytes → Int} :
    opens sha1 ready received sent ↔ ready ∧ ∃ response, answer sha1 received = some response ∧
      sent response = response.length := by
  unfold opens
  rw [Bool.and_eq_true]
  refine and_congr Iff.rfl ?_
  cases answer sha1 received with
  | none =>
    constructor
    · intro hopens
      cases hopens
    · intro ⟨response, hanswer, _⟩
      cases hanswer
  | some response =>
    constructor
    · exact fun hopens => ⟨response, rfl, of_decide_eq_true hopens⟩
    · intro ⟨response', hanswer, hsent⟩
      obtain rfl := Option.some.inj hanswer
      exact decide_eq_true hsent

/-- The connection opens exactly if the first part of the request to arrive has, line by line, what
    the server asks for, and the answer to its key goes out whole. -/
theorem connection_opens_iff {ready : Bool} {received tail : Bytes} {lines : List Bytes}
    {sent : Bytes → Int} (htail : IsRest tail) (hlines : ∀ l ∈ lines, Line l)
    (h : received.takeWhile (· ≠ 0) = join tail lines) :
    opens sha1 ready received sent ↔ ready ∧ ∃ key, Accepts lines key ∧
      sent (handshakeResponse (computeAcceptKey sha1 key)) =
        (handshakeResponse (computeAcceptKey sha1 key)).length := by
  rw [opens_iff_answer]
  refine and_congr Iff.rfl ?_
  constructor
  · intro ⟨response, hanswer, hsent⟩
    obtain ⟨key, haccepts, rfl⟩ := (answer_eq_some htail hlines h).1 hanswer
    exact ⟨key, haccepts, hsent⟩
  · intro ⟨key, haccepts, hsent⟩
    exact ⟨_, (answer_eq_some htail hlines h).2 ⟨key, haccepts, rfl⟩, hsent⟩

theorem connection_opens_iff_chat :
    opens (fun _ => [179, 122, 79, 44, 192, 98, 79, 22, 144, 246, 70, 6, 207, 56, 89, 69, 178, 190,
        196, 234]) true (toBytes ("GET /ws HTTP/1.1\r\nHost: chat\r\nUpgrade: websocket\r\n" ++
        "sec-webSocket-Key: dGhlIHNhbXBsZSBub25jZQ==\r\n\r\n"))
      (fun response => response.length) := by
  have hlines : ∀ l ∈ [toBytes "GET /ws HTTP/1.1", toBytes "Host: chat",
      toBytes "Upgrade: websocket", toBytes "sec-webSocket-Key: dGhlIHNhbXBsZSBub25jZQ==", [], []],
      Line l := by
    unfold Line
    decide +kernel
  refine (connection_opens_iff (.inl rfl) hlines (by decide +kernel)).2 ⟨rfl,
    toBytes "dGhlIHNhbXBsZSBub25jZQ==", ⟨?_, by decide +kernel, by decide⟩, rfl⟩
  exact ⟨toBytes "Upgrade: websocket", by simp, .inl (List.infix_refl _)⟩

/-! ## Requests -/

/-- The key of a request is the value of its field, in any letter case of the name, if no line
    before it has the name. -/
theorem sentKey_field {name value : Bytes} {before after : List Bytes}
    (hbefore : ∀ l ∈ before, ¬ keyName <:+: l.map lower)
    (hname : (name ++ [58]).map lower = keyName) :
    sentKey (before ++ (name ++ 58 :: value) :: after) = some (value.dropWhile isBlank) := by
  have hfield : fieldKey (name ++ 58 :: value) = some (value.dropWhile isBlank) := by
    have hline : name ++ 58 :: value = (name ++ [58]) ++ value := by
      rw [List.append_assoc]
      rfl
    have hlength : (name ++ [58]).length = 18 := by
      have hmap := congrArg List.length hname
      rwa [List.length_map] at hmap
    unfold fieldKey
    rw [hline, List.map_append, hname, cut_self, Option.map_some]
    dsimp only
    rw [List.length_nil, Nat.zero_add, ← hlength, List.drop_left]
  refine List.findSome?_eq_some_iff.2 ⟨before, _, after, rfl, hfield, fun l hl => ?_⟩
  exact Option.map_eq_none_iff.2 (cut_eq_none_iff.2 (hbefore l hl))

end ChatApp.WebSocket.Handshake

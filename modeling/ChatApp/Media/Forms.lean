/-
  The parsing part of `HttpGateway::handle_upload`, for every request. It always ends, and no
  position leaves its string; but a delimiter directly behind a blank line makes a range that ends
  before it begins, and `std::stoi` throws where no number follows the key, which nothing catches.
-/
import ChatApp.Media.Base64
import ChatApp.Media.Downloads
import ChatApp.Media.Multipart

namespace ChatApp.Media

open ChatApp.Lib.Search ChatApp.Lib.Text

/-! ## Numbers -/

/-- `std::isspace` -/
def isSpace (b : UInt8) : Bool := b = 32 || (9 ≤ b && b ≤ 13)

def isDigit (b : UInt8) : Bool := 48 ≤ b && b ≤ 57

/-- Without a sign -/
def dropSign : Bytes → Bytes
  | 43 :: s => s
  | 45 :: s => s
  | s => s

/-- The number at the begin of a text, as `strtol` and `strtoull` read it: whether it has a minus
    sign, and its digits. -/
def scanNumber (s : Bytes) : Option (Bool × Nat) :=
  let s := s.dropWhile isSpace
  let digits := (dropSign s).takeWhile isDigit
  if digits = [] then none
  else some (s.head? = some 45, digits.foldl (fun n d => 10 * n + (d.toNat - 48)) 0)

/-- `std::stoi` -/
def stoi (s : Bytes) : Except Fault Int :=
  match scanNumber s with
  | none => .error .number
  | some (negative, n) =>
    let value : Int := cond negative (-n) n
    if -2 ^ 31 ≤ value ∧ value < 2 ^ 31 then .ok value else .error .number

/-- `std::stoull`, or an exception -/
def stoull (s : Bytes) : Option Nat :=
  match scanNumber s with
  | none => none
  | some (negative, n) =>
    if n < 2 ^ 64 then some (if negative then (2 ^ 64 - n) % 2 ^ 64 else n) else none

/-! ## The request -/

structure UploadRequest where
  authorization : Bytes
  contentType : Bytes
  body : Bytes

def cleanToken (token : Bytes) : Except Fault Bytes :=
  if find token (toBytes "Bearer ") 0 = some 0 then substr token 7 token.length else .ok token

/-- The id in front of the colon; `user_id` stays 0 if there is none. -/
def tokenUserId (token : Bytes) : Option Nat :=
  match find token (toBytes ":") 0 with
  | some colonPos =>
    -- `catch (...)`
    match substr token 0 colonPos with
    | .ok userId => stoull userId
    | .error _ => none
  | none => some 0

/-- The id of the user, if the token is accepted. -/
def verifyToken (token : Bytes) : Except Fault (Option Nat) :=
  if token = [] then .ok none else (cleanToken token).map tokenUserId

def extractString (body key : Bytes) : Except Fault Bytes :=
  let search := toBytes "\"" ++ key ++ toBytes "\":\""
  match find body search 0 with
  | none => .ok []
  | some pos =>
    let pos := pos + search.length
    match find body (toBytes "\"") pos with
    | none => .ok []
    | some stop => substr body pos (stop - pos)

def extractInt (body key : Bytes) : Except Fault Int :=
  let search := toBytes "\"" ++ key ++ toBytes "\":"
  match find body search 0 with
  | none => .ok 0
  | some pos => do stoi (← substr body (pos + search.length) body.length)

def readJson (body : Bytes) : Except Fault Form := do
  let fileName ← extractString body (toBytes "file_name")
  let mediaType ← extractInt body (toBytes "media_type")
  let base64Data ← extractString body (toBytes "file_data")
  return ⟨fileName, if base64Data = [] then [] else gatewayDecode base64Data, mediaType⟩

/-- What the parsing part ends with -/
inductive Parsed
  | refused (response : HttpResponse)
  | form (userId : Nat) (form : Form)

def parseUpload (request : UploadRequest) : Option (Except Fault Parsed) :=
  match verifyToken request.authorization with
  | .error e => some (.error e)
  | .ok none => some (.ok (.refused (.error 401 "Unauthorized")))
  | .ok (some userId) =>
    if (find request.contentType (toBytes "multipart/form-data") 0).isSome then
      match find request.contentType (toBytes "boundary=") 0 with
      | none => some (.ok (.refused (.error 400 "Missing boundary")))
      | some boundaryPos =>
        match substr request.contentType (boundaryPos + 9) request.contentType.length with
        | .error e => some (.error e)
        | .ok boundary =>
          (multipart (toBytes "--" ++ boundary) request.body).map fun r => r.map (.form userId)
    else some ((readJson request.body).map (.form userId))

/-- The parsing part ends, without a fault. -/
def Safe (request : UploadRequest) : Prop := ∃ parsed, parseUpload request = some (.ok parsed)

/-! ## When it is safe -/

/-- A text begins with a number that fits into an `int`. -/
def BeginsWithInt (s : Bytes) : Prop :=
  ∃ negative n, scanNumber s = some (negative, n) ∧ (n < 2 ^ 31 ∨ negative = true ∧ n = 2 ^ 31)

/-- No content of a multipart body is empty, not even without its line end; and in any other body,
    a number follows the key of the media type. -/
structure WellFormed (request : UploadRequest) : Prop where
  multipart : toBytes "multipart/form-data" <:+: request.contentType → ∀ before boundary,
    cut (toBytes "boundary=") request.contentType = some (before, boundary) →
    ∀ p ∈ pieces (toBytes "--" ++ boundary) request.body, p.content ≠ some []
  json : ¬ toBytes "multipart/form-data" <:+: request.contentType → ∀ before text,
    cut (toBytes "\"media_type\":") request.body = some (before, text) → BeginsWithInt text

variable {request : UploadRequest} {s body : Bytes}

/-! ## Faults -/

theorem stoi_ok_iff : (∃ value, stoi s = .ok value) ↔ BeginsWithInt s := by
  unfold stoi BeginsWithInt
  rcases scanNumber s with _ | ⟨negative, n⟩
  · simp
  · have hrange : (-2 ^ 31 ≤ cond negative (-(n : Int)) n ∧ cond negative (-(n : Int)) n < 2 ^ 31) ↔
        n < 2 ^ 31 ∨ negative = true ∧ n = 2 ^ 31 := by
      cases negative with
      | false =>
        simp only [cond_false, Bool.false_eq_true, false_and, or_false]
        omega
      | true =>
        simp only [cond_true, true_and]
        omega
    dsimp only
    constructor
    · rintro ⟨value, h⟩
      split at h
      next hfits => exact ⟨negative, n, rfl, hrange.1 hfits⟩
      next => exact nomatch h
    · rintro ⟨negative', n', heq, hsmall⟩
      obtain ⟨rfl, rfl⟩ := Prod.mk.inj (Option.some.inj heq)
      exact ⟨_, if_pos (hrange.2 hsmall)⟩

theorem verifyToken_ok (token : Bytes) : ∃ userId, verifyToken token = .ok userId := by
  unfold verifyToken cleanToken
  split
  next => exact ⟨none, rfl⟩
  next =>
    split
    next hbearer =>
      have hlength : 7 ≤ token.length := find_le hbearer
      rw [substr_ok hlength]
      exact ⟨_, rfl⟩
    next => exact ⟨_, rfl⟩

theorem extractString_ok (body key : Bytes) : ∃ t, extractString body key = .ok t := by
  unfold extractString
  dsimp only
  split
  next => exact ⟨[], rfl⟩
  next pos hfind =>
    split
    next => exact ⟨[], rfl⟩
    next => exact ⟨_, substr_ok (find_le hfind)⟩

theorem readJson_ok_iff : (∃ form, readJson body = .ok form) ↔
    ∀ before text, cut (toBytes "\"media_type\":") body = some (before, text) →
      BeginsWithInt text := by
  obtain ⟨fileName, hname⟩ := extractString_ok body (toBytes "file_name")
  obtain ⟨base64Data, hdata⟩ := extractString_ok body (toBytes "file_data")
  have hread : (∃ form, readJson body = .ok form) ↔
      ∃ value, extractInt body (toBytes "media_type") = .ok value := by
    unfold readJson
    rw [hname, hdata]
    rcases extractInt body (toBytes "media_type") with e | value
    · exact ⟨fun ⟨_, h⟩ => (nomatch h), fun ⟨_, h⟩ => (nomatch h)⟩
    · exact ⟨fun _ => ⟨value, rfl⟩, fun _ => ⟨_, rfl⟩⟩
  have hsearch : toBytes "\"" ++ toBytes "media_type" ++ toBytes "\":" =
      toBytes "\"media_type\":" := rfl
  rw [hread]
  unfold extractInt
  rw [hsearch]
  dsimp only
  rcases hcut : cut (toBytes "\"media_type\":") body with _ | ⟨before, text⟩
  · rw [find_of_cut_none (by rwa [List.drop_zero])]
    exact ⟨fun _ => nofun, fun _ => ⟨0, rfl⟩⟩
  · obtain ⟨hfind, htext⟩ := substr_of_cut hcut
    rw [hfind]
    dsimp only
    rw [htext]
    show (∃ value, stoi text = .ok value) ↔ _
    rw [stoi_ok_iff]
    exact ⟨fun h _ _ heq => (Prod.mk.inj (Option.some.inj heq)).2 ▸ h, fun h => h before text rfl⟩

/-- The multipart loop ends without a fault exactly if no content is empty. -/
theorem multipart_ok_iff (boundary body : Bytes) :
    (∃ form, multipart boundary body = some (.ok form)) ↔
      ∀ p ∈ pieces boundary body, p.content ≠ some [] := by
  rw [multipart_eq, ← readPieces_ok_iff .start]
  exact ⟨fun ⟨form, h⟩ => ⟨form, Option.some.inj h⟩, fun ⟨form, h⟩ => ⟨form, congrArg some h⟩⟩

theorem wellFormed_multipart (h : toBytes "multipart/form-data" <:+: request.contentType) :
    WellFormed request ↔ ∀ before boundary,
      cut (toBytes "boundary=") request.contentType = some (before, boundary) →
      ∀ p ∈ pieces (toBytes "--" ++ boundary) request.body, p.content ≠ some [] :=
  ⟨fun hwell => hwell.multipart h, fun hpieces => ⟨fun _ => hpieces, fun hnot => absurd h hnot⟩⟩

theorem wellFormed_json (h : ¬ toBytes "multipart/form-data" <:+: request.contentType) :
    WellFormed request ↔ ∀ before text,
      cut (toBytes "\"media_type\":") request.body = some (before, text) → BeginsWithInt text :=
  ⟨fun hwell => hwell.json h, fun hnumber => ⟨fun hyes => absurd hyes h, fun _ => hnumber⟩⟩

/-! ## Every request -/

/-- The parsing part ends; it is safe if the token is not accepted, and otherwise exactly if the
    body is well formed. -/
theorem safe_iff (request : UploadRequest) : Safe request ↔
    (verifyToken request.authorization ≠ .ok none → WellFormed request) := by
  obtain ⟨userId, htoken⟩ := verifyToken_ok request.authorization
  unfold Safe parseUpload
  rw [htoken]
  rcases userId with _ | userId
  · exact ⟨fun _ h => absurd rfl h, fun _ => ⟨_, rfl⟩⟩
  have haccepted : (Except.ok (some userId) : Except Fault (Option Nat)) ≠ .ok none := nofun
  rw [imp_iff_right haccepted]
  dsimp only
  split
  next hfound =>
    rw [wellFormed_multipart (find_isSome_iff.1 hfound)]
    rcases hcut : cut (toBytes "boundary=") request.contentType with _ | ⟨before, boundary⟩
    · rw [find_of_cut_none (by rwa [List.drop_zero])]
      exact ⟨fun _ => nofun, fun _ => ⟨_, rfl⟩⟩
    · obtain ⟨hfind, hboundary⟩ := substr_of_cut hcut
      have hlength : (toBytes "boundary=").length = 9 := rfl
      rw [hlength] at hboundary
      rw [hfind]
      dsimp only
      rw [hboundary]
      dsimp only
      have hloop := multipart_ok_iff (toBytes "--" ++ boundary) request.body
      constructor
      · rintro ⟨parsed, h⟩ before' boundary' heq
        obtain rfl := (Prod.mk.inj (Option.some.inj heq)).2
        obtain ⟨r, hr, hparsed⟩ := Option.map_eq_some_iff.1 h
        rcases r with e | form
        · exact nomatch hparsed
        · exact hloop.1 ⟨form, hr⟩
      · intro hpieces
        obtain ⟨form, hform⟩ := hloop.2 (hpieces before boundary rfl)
        exact ⟨.form userId form, by rw [hform]; rfl⟩
  next hfound =>
    rw [wellFormed_json (mt find_isSome_iff.2 hfound), ← readJson_ok_iff]
    rcases readJson request.body with e | form
    · exact ⟨fun ⟨_, h⟩ => (nomatch h), fun ⟨_, h⟩ => (nomatch h)⟩
    · exact ⟨fun _ => ⟨form, rfl⟩, fun _ => ⟨_, rfl⟩⟩

/-- The delimiter stands directly behind a blank line. -/
def emptyPart : UploadRequest where
  authorization := toBytes "Bearer 1:token"
  contentType := toBytes "multipart/form-data; boundary=b"
  body := toBytes "--b\r\n\r\n--b"

/-- No number follows the key of the media type. -/
def unnumbered : UploadRequest where
  authorization := toBytes "Bearer 1:token"
  contentType := toBytes "application/json"
  body := toBytes "\x7b\"media_type\":\"image\"\x7d"

theorem emptyPart_faults : parseUpload emptyPart = some (.error .range) ∧
    parseUpload unnumbered = some (.error .number) ∧ ¬ Safe emptyPart ∧ ¬ Safe unnumbered := by
  have hempty : parseUpload emptyPart = some (.error .range) := rfl
  have hnumber : parseUpload unnumbered = some (.error .number) := rfl
  refine ⟨hempty, hnumber, fun ⟨_, h⟩ => ?_, fun ⟨_, h⟩ => ?_⟩
  · exact absurd (hempty.symm.trans h) nofun
  · exact absurd (hnumber.symm.trans h) nofun

end ChatApp.Media

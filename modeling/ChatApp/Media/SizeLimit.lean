/-
  The size check of `handle_media_upload`. The limit on the bytes of a file is tested on their
  base64 text, of which `max_file_size * 4 / 3` bytes are let through; the division rounds down, and
  the padding rounds up.
-/
import ChatApp.Lib.Base64
import ChatApp.Lib.Text
import ChatApp.Session.Handlers

namespace ChatApp.Media

open ChatApp.Lib ChatApp.Protocol ChatApp.Session

/-- `max_file_size` -/
def maxRawSize : Nat := 10 * 1024 * 1024

/-- The answer to a file that is too large. -/
def sizeRefusal (s : Session) (sequence : UInt32) : Call :=
  .send s.id (createError sequence 400 "File size exceeds limit (10MB)")

/-- Whatever else goes wrong, the size of the file is not refused. -/
def PassesSizeCheck (s : Session) (sequence : UInt32) (body : Json) : Prop :=
  Prog.CallsOnly (· ≠ sizeRefusal s sequence) (s.handleMediaUpload sequence body).run

/-- The request for a file `data` under a name. -/
structure Sends (body : Json) (fileName : String) (data : List UInt8) (mediaType : Int) : Prop where
  name : body.valueString "file_name" "" = .ok fileName
  data : body.valueString "file_data" "" = .ok (Text.ofBytes (Base64.encodePadded data))
  mediaType : body.valueInt "media_type" 0 = .ok mediaType

section
variable {s : Session} {sequence : UInt32} {body : Json} {fileName text : String} {mediaType : Int}
  {data : List UInt8}

theorem ne_sizeRefusal {frame : Frame} (h : frame.body ≠ .object [("code", .number 400),
    ("message", .string "File size exceeds limit (10MB)")]) (x : SessionId) :
    Call.send x frame ≠ sizeRefusal s sequence := by
  intro heq
  obtain ⟨-, rfl⟩ := Call.send.inj heq
  exact h rfl

theorem passes_sendError {message : String} {code : Int}
    (h : message ≠ "File size exceeds limit (10MB)") :
    Prog.CallsOnly (· ≠ sizeRefusal s sequence) (s.sendError sequence code message).run := by
  refine callsOnly_requestM (ne_sizeRefusal (fun heq => h ?_) _)
  simp only [createError, Json.object.injEq, List.cons.injEq, Prod.mk.injEq, Json.string.injEq]
    at heq
  exact heq.2.1.2

/-- The check lets a text through exactly if it has at most 13981013 bytes. -/
theorem passesSizeCheck_iff (hs : s.authenticated = true)
    (hname : body.valueString "file_name" "" = .ok fileName)
    (htext : body.valueString "file_data" "" = .ok text)
    (hmedia : body.valueInt "media_type" 0 = .ok mediaType)
    (hfile : fileName ≠ "") (hne : text ≠ "") :
    PassesSizeCheck s sequence body ↔ text.utf8ByteSize ≤ 13981013 := by
  have hloose : fileName.isEmpty = false ∧ text.isEmpty = false := by
    simpa using ⟨hfile, hne⟩
  rw [PassesSizeCheck, Session.handleMediaUpload, Session.authenticatedOnly, if_pos hs,
    read_bind hname, read_bind htext, read_bind hmedia, hloose.1, hloose.2]
  rw [if_neg (show ¬ (false || false) = true by decide)]
  split
  next hlarge =>
    refine iff_of_false (fun hpass => hpass.1 rfl) (by omega)
  next hsmall =>
    refine iff_of_true ?_ (by omega)
    refine callsOnly_iteM (passes_sendError (by decide)) (callsOnly_bindM
      (callsOnly_requestM nofun) fun path => callsOnly_bindM (callsOnly_requestM nofun)
        fun written => callsOnly_iteM (callsOnly_bindM (callsOnly_db (fun _ => nofun) _)
          fun saved => ?_) (passes_sendError (by decide)))
    cases saved with
    | none =>
      exact callsOnly_bindM (callsOnly_requestM nofun) fun _ => passes_sendError (by decide)
    | some file => exact callsOnly_requestM (ne_sizeRefusal (by simp [createResponse]) _)

theorem text_size (data : List UInt8) :
    (Text.ofBytes (Base64.encodePadded data)).utf8ByteSize = 4 * ((data.length + 2) / 3) := by
  rw [Text.utf8ByteSize_ofBytes (Base64.encodePadded_ascii data), Base64.encodePadded_length]

theorem text_ne (hdata : 1 ≤ data.length) : Text.ofBytes (Base64.encodePadded data) ≠ "" := by
  intro hempty
  have hsize := text_size data
  rw [hempty] at hsize
  have hzero : "".utf8ByteSize = 0 := rfl
  omega

/-- The check admits the files of at most 10 MiB, except that it also refuses those of exactly
    this size. -/
theorem sizeCheck_iff (hs : s.authenticated = true) (h : Sends body fileName data mediaType)
    (hfile : fileName ≠ "") (hdata : 1 ≤ data.length) :
    (PassesSizeCheck s sequence body ↔ data.length ≤ maxRawSize) ↔
      data.length ≠ maxRawSize := by
  rw [passesSizeCheck_iff hs h.name h.data h.mediaType hfile (text_ne hdata), text_size,
    maxRawSize]
  -- both bounds hold up to the size before, and fail from the size after on
  omega

end

/-! ## A file of 10 MiB -/

def signedIn : Session := ⟨1, 7, true⟩

def uploadOf (data : List UInt8) : Json := .object [
  ("file_name", .string "photo.png"),
  ("file_data", .string (Text.ofBytes (Base64.encodePadded data)))]

theorem sends_uploadOf (data : List UInt8) : Sends (uploadOf data) "photo.png" data 0 :=
  ⟨rfl, rfl, rfl⟩

theorem sizeCheck_iff_small : (PassesSizeCheck signedIn 1 (uploadOf [1, 2, 3]) ↔
    [(1 : UInt8), 2, 3].length ≤ maxRawSize) ↔ [(1 : UInt8), 2, 3].length ≠ maxRawSize :=
  sizeCheck_iff rfl (sends_uploadOf _) (by decide) (by decide)

/-- The file is no larger than the limit, and its text is. -/
theorem tenMebibytes_refused :
    ¬ (PassesSizeCheck signedIn 1 (uploadOf (List.replicate maxRawSize 0)) ↔
      (List.replicate maxRawSize (0 : UInt8)).length ≤ maxRawSize) := by
  have hlength := List.length_replicate (n := maxRawSize) (a := (0 : UInt8))
  have hdata : 1 ≤ (List.replicate maxRawSize (0 : UInt8)).length := by
    rw [hlength, maxRawSize]
    omega
  have hsends := sends_uploadOf (List.replicate maxRawSize 0)
  have hpass : PassesSizeCheck signedIn 1 (uploadOf _) ↔ _ :=
    passesSizeCheck_iff rfl hsends.name hsends.data hsends.mediaType (by decide) (text_ne hdata)
  rw [hpass, text_size, hlength]
  decide

end ChatApp.Media

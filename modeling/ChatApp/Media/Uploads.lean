/-
  Where uploads are stored. `Session::handle_media_upload` and `HttpGateway::handle_upload` name a
  file after the user, a reading of the clock in milliseconds and the extension that the client
  chose, in a directory for the day. `localtime` turns seconds into a date. Both services store
  into the directory `mediaDir`.

  A run writes files and saves rows of `media_files`, in any order in which an upload is saved
  after it is written; the uploads are the successful ones. Two uploads have one path exactly if
  they agree on `SameKey` (`storedPath_eq`).
-/
import Mathlib.Data.List.Basic
import Mathlib.Data.List.Pairwise
import Mathlib.Logic.Function.Basic
import ChatApp.Lib.Run
import ChatApp.Lib.Text
import ChatApp.Session.Handlers

namespace ChatApp.Media

open ChatApp.Lib ChatApp.Session

/-! ## Names -/

/-- The date in a `std::tm`. -/
structure Tm where
  year : Int
  month : Nat
  day : Nat

def twoDigits (n : Nat) : String := if n < 10 then "0" ++ toString n else toString n

/-- `strftime` with %Y/%m/%d -/
def datePath (tm : Tm) : String :=
  toString tm.year ++ "/" ++ twoDigits tm.month ++ "/" ++ twoDigits tm.day

/-- The two places that store uploads. -/
inductive Service
  | session
  | http
  deriving DecidableEq

/-- `now` is `system_clock::now()` in nanoseconds, `time` is `std::time` of the gateway. -/
structure Upload where
  service : Service
  userId : Nat
  fileName : String
  data : List UInt8
  time : Int
  now : Int
  deriving DecidableEq

namespace Upload

/-- The seconds of which the directory is named. -/
def dateTime (u : Upload) : Int :=
  match u.service with
  | .session => u.now.tdiv 1000000000
  | .http => u.time

/-- Milliseconds -/
def timestamp (u : Upload) : Int := u.now.tdiv 1000000

def extension (u : Upload) : String := Session.fileExtension u.fileName

def uniqueName (u : Upload) : String :=
  toString u.userId ++ "_" ++ toString u.timestamp ++ u.extension

end Upload

variable (localtime : Int → Tm) (mediaDir : String)

def Upload.datePath (u : Upload) : String := Media.datePath (localtime u.dateTime)

def fullDir (u : Upload) : String := mediaDir ++ "/" ++ u.datePath localtime

def storedPath (u : Upload) : String := fullDir localtime mediaDir u ++ "/" ++ u.uniqueName

/-- Uploads of one user on one day and in one millisecond, with one extension. -/
def SameKey (u v : Upload) : Prop :=
  u.datePath localtime = v.datePath localtime ∧ u.userId = v.userId ∧ u.timestamp = v.timestamp ∧
    u.extension = v.extension

instance (u v : Upload) : Decidable (SameKey localtime u v) := inferInstanceAs (Decidable (_ ∧ _))

/-! ## A path says where it comes from -/

section
variable {localtime : Int → Tm} {mediaDir : String}

theorem isDigit_of_mem_twoDigits {n : Nat} {c : Char} (h : c ∈ (twoDigits n).toList) :
    c.isDigit = true := by
  unfold twoDigits at h
  split at h
  · rw [String.toList_append] at h
    rcases List.mem_append.1 h with h | h
    · obtain rfl : c = '0' := List.mem_singleton.1 h
      rfl
    · exact Text.isDigit_of_mem_toString h
  · exact Text.isDigit_of_mem_toString h

/-- The extension is empty or begins with a dot. -/
theorem extension_eq (fileName : String) : Session.fileExtension fileName = "" ∨
    ∃ rest, (Session.fileExtension fileName).toList = '.' :: rest := by
  unfold Session.fileExtension
  split
  case h_1 last _ _ _ => exact .inr ⟨last.toList, String.toList_append⟩
  case h_2 => exact .inl rfl

/-- What comes before an extension can be found again. -/
theorem append_extension_inj {a b : List Char} {f g : String} (ha : '.' ∉ a) (hb : '.' ∉ b)
    (h : a ++ (Session.fileExtension f).toList = b ++ (Session.fileExtension g).toList) :
    a = b ∧ Session.fileExtension f = Session.fileExtension g := by
  rcases extension_eq f with hf | ⟨x, hx⟩ <;> rcases extension_eq g with hg | ⟨y, hy⟩
  · rw [hf, hg] at h ⊢
    exact ⟨List.append_cancel_right h, rfl⟩
  · rw [hf, hy] at h
    refine absurd ?_ ha
    have hab : a = b ++ '.' :: y := by simpa using h
    rw [hab]
    simp
  · rw [hx, hg] at h
    refine absurd ?_ hb
    have hab : b = a ++ '.' :: x := by simpa using h.symm
    rw [hab]
    simp
  · rw [hx, hy] at h
    obtain ⟨hab, hxy⟩ := Text.append_cons_inj ha hb h
    exact ⟨hab, String.toList_inj.1 (by rw [hx, hy, hxy])⟩

theorem uniqueName_eq {u v : Upload} : u.uniqueName = v.uniqueName ↔
    u.userId = v.userId ∧ u.timestamp = v.timestamp ∧ u.extension = v.extension := by
  refine ⟨fun h => ?_, fun ⟨hu, ht, he⟩ => by rw [Upload.uniqueName, hu, ht, he, Upload.uniqueName]⟩
  have hlist : ∀ w : Upload, w.uniqueName.toList = (toString w.userId).toList ++ '_' ::
      ((toString w.timestamp).toList ++ w.extension.toList) := by
    intro w
    simp [Upload.uniqueName, String.toList_append]
  have hunder : ∀ n : Nat, '_' ∉ (toString n).toList := fun n hmem =>
    absurd (Text.isDigit_of_mem_toString hmem) (by decide)
  have hdot : ∀ i : Int, '.' ∉ (toString i).toList := fun i hmem =>
    (Text.mem_toString_int hmem).elim (absurd · (by decide)) (absurd · (by decide))
  have hlists := congrArg String.toList h
  rw [hlist, hlist] at hlists
  obtain ⟨hu, hrest⟩ := Text.append_cons_inj (hunder u.userId) (hunder v.userId) hlists
  obtain ⟨ht, he⟩ := append_extension_inj (hdot u.timestamp) (hdot v.timestamp) hrest
  exact ⟨Text.toString_nat_inj.1 (String.toList_inj.1 hu),
    Text.toString_int_inj.1 (String.toList_inj.1 ht), he⟩

/-- A date and what follows it can be told apart. -/
theorem append_datePath_inj {s t : Tm} {x y : List Char}
    (h : (datePath s).toList ++ '/' :: x = (datePath t).toList ++ '/' :: y) :
    datePath s = datePath t ∧ x = y := by
  have hlist : ∀ (tm : Tm) (z : List Char), (datePath tm).toList ++ '/' :: z =
      (toString tm.year).toList ++ '/' :: ((twoDigits tm.month).toList ++ '/' ::
        ((twoDigits tm.day).toList ++ '/' :: z)) := by
    intro tm z
    simp [datePath, String.toList_append]
  have hyear : ∀ i : Int, '/' ∉ (toString i).toList := fun i hmem =>
    (Text.mem_toString_int hmem).elim (absurd · (by decide)) (absurd · (by decide))
  have hdigits : ∀ n : Nat, '/' ∉ (twoDigits n).toList := fun n hmem =>
    absurd (isDigit_of_mem_twoDigits hmem) (by decide)
  rw [hlist, hlist] at h
  obtain ⟨hy, h⟩ := Text.append_cons_inj (hyear s.year) (hyear t.year) h
  obtain ⟨hm, h⟩ := Text.append_cons_inj (hdigits s.month) (hdigits t.month) h
  obtain ⟨hd, h⟩ := Text.append_cons_inj (hdigits s.day) (hdigits t.day) h
  refine ⟨?_, h⟩
  rw [datePath, datePath, String.toList_inj.1 hy, String.toList_inj.1 hm, String.toList_inj.1 hd]

theorem storedPath_eq {u v : Upload} :
    storedPath localtime mediaDir u = storedPath localtime mediaDir v ↔ SameKey localtime u v := by
  constructor
  · intro h
    have hlist : ∀ w, (storedPath localtime mediaDir w).toList = mediaDir.toList ++ '/' ::
        ((w.datePath localtime).toList ++ '/' :: w.uniqueName.toList) := by
      intro w
      simp [storedPath, fullDir, String.toList_append]
    have hlists := congrArg String.toList h
    rw [hlist, hlist] at hlists
    have hrest := (List.cons.inj (List.append_cancel_left hlists)).2
    obtain ⟨hdate, hname⟩ := append_datePath_inj hrest
    exact ⟨hdate, uniqueName_eq.1 (String.toList_inj.1 hname)⟩
  · rintro ⟨hdate, hkey⟩
    rw [storedPath, storedPath, fullDir, fullDir, hdate, uniqueName_eq.2 hkey]

end

/-! ## Runs -/

/-- A row of `media_files`, with the bytes it was saved for. -/
structure MediaRow where
  userId : Nat
  fileName : String
  filePath : String
  data : List UInt8

def Upload.row (u : Upload) : MediaRow :=
  ⟨u.userId, u.uniqueName, storedPath localtime mediaDir u, u.data⟩

structure Store where
  files : String → Option (List UInt8)
  rows : List MediaRow
  /-- the uploads whose bytes were written, in this order -/
  uploads : List Upload

def Store.empty : Store := ⟨fun _ => none, [], []⟩

inductive Label
  | write (u : Upload)
  | save (u : Upload)

variable (maxUploadSize : Nat)

/-- The checks before a file is written. The session checks the length of the base64 text, which
    leaves as many bytes. -/
def Upload.accepted (u : Upload) : Bool :=
  !u.fileName.isEmpty && !u.data.isEmpty && match u.service with
    | .session => u.data.length ≤ 10485759
    | .http => u.data.length ≤ maxUploadSize

def step (s : Store) : Label → Option Store
  | .write u =>
    -- `std::ofstream` truncates a file that exists
    if u.accepted maxUploadSize then
      some { s with
        files := Function.update s.files (storedPath localtime mediaDir u) (some u.data)
        uploads := s.uploads ++ [u] }
    else none
  | .save u =>
    if u ∈ s.uploads then some { s with rows := s.rows ++ [u.row localtime mediaDir] } else none

section
variable {localtime : Int → Tm} {mediaDir : String} {maxUploadSize : Nat} {s t : Store}
  {ls : List Label}

/-- Rows belong to uploads, and uploads with different keys are all on the disk. -/
structure Intact (localtime : Int → Tm) (mediaDir : String) (s : Store) : Prop where
  saved : ∀ row ∈ s.rows, ∃ u ∈ s.uploads, row = u.row localtime mediaDir
  stored : s.uploads.Pairwise (fun u v => ¬ SameKey localtime u v) →
    ∀ u ∈ s.uploads, s.files (storedPath localtime mediaDir u) = some u.data

theorem intact_empty : Intact localtime mediaDir .empty :=
  ⟨fun _ h => absurd h List.not_mem_nil, fun _ _ h => absurd h List.not_mem_nil⟩

theorem intact_write {u : Upload} (hi : Intact localtime mediaDir s)
    (h : step localtime mediaDir maxUploadSize s (.write u) = some t) :
    Intact localtime mediaDir t := by
  obtain ⟨-, hs⟩ := Option.ite_none_right_eq_some.1 h
  obtain rfl := Option.some.inj hs
  constructor
  · intro row hrow
    obtain ⟨v, hv, hrow⟩ := hi.saved row hrow
    exact ⟨v, List.mem_append_left _ hv, hrow⟩
  · intro hkeys v hv
    obtain ⟨hbefore, -, hnew⟩ := List.pairwise_append.1 hkeys
    rcases List.mem_append.1 hv with hv | hv
    · have hne : storedPath localtime mediaDir v ≠ storedPath localtime mediaDir u :=
        fun heq => hnew v hv u List.mem_cons_self (storedPath_eq.1 heq)
      exact (Function.update_of_ne hne _ _).trans (hi.stored hbefore v hv)
    · obtain rfl := List.mem_singleton.1 hv
      exact Function.update_self _ _ _

theorem intact_save {u : Upload} (hi : Intact localtime mediaDir s)
    (h : step localtime mediaDir maxUploadSize s (.save u) = some t) :
    Intact localtime mediaDir t := by
  obtain ⟨hu, hs⟩ := Option.ite_none_right_eq_some.1 h
  obtain rfl := Option.some.inj hs
  refine ⟨fun row hrow => ?_, hi.stored⟩
  rcases List.mem_append.1 hrow with hrow | hrow
  · exact hi.saved row hrow
  · exact ⟨u, hu, List.mem_singleton.1 hrow⟩

theorem intact_run (h : Run (step localtime mediaDir maxUploadSize) anyStep .empty ls s) :
    Intact localtime mediaDir s := by
  refine h.invariant intact_empty fun s l t hi _ hs => ?_
  cases l with
  | write u => exact intact_write hi hs
  | save u => exact intact_save hi hs

end

/-! ## Two uploads in one millisecond -/

def firstOfJanuary (_ : Int) : Tm := ⟨2024, 1, 1⟩

def cat : Upload := ⟨.session, 7, "photo.png", [1], 1704067200, 1704067200000000000⟩

/-- Another picture of the same user, in the same millisecond -/
def dog : Upload := ⟨.http, 7, "photo.png", [2, 3], 1704067200, 1704067200000400000⟩

/-- A picture of another user at the same time -/
def bird : Upload := { cat with userId := 8 }

end ChatApp.Media

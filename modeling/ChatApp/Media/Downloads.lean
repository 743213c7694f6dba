/-
  Downloads of what was uploaded: `HttpGateway::handle_upload`, from the check of the name and the
  bytes on, and `HttpGateway::handle_download`, over a directory that `media_server` serves too.
  Each character of a name stands for a byte.

  The name in a URL is that of the stored file, with the extension as the client chose it. What
  libmicrohttpd passes to a handler ends before the first '?' and is decoded, so the servers look
  for another name if the extension has a '?', or something that is decoded (`requestedName`).

  The directory has what the uploads have written, in any order, and nothing else (`Stores`).
-/
import ChatApp.Media.FileServer
import ChatApp.Media.Uploads
import Mathlib.Data.List.TakeWhile

namespace ChatApp.Media

open ChatApp.Lib ChatApp.Session

/-! ## URLs in libmicrohttpd -/

/-- `MHD_http_unescape`, which changes escapes only. -/
structure HttpUnescape where
  unescape : List Char → List Char
  nil : unescape [] = []
  cons : ∀ c s, c ≠ '%' → unescape (c :: s) = c :: unescape s

def hexDigit (c : Char) : Option Nat :=
  if c.isDigit then some (c.toNat - '0'.toNat)
  else if 'a' ≤ c ∧ c ≤ 'f' then some (c.toNat - 'a'.toNat + 10)
  else if 'A' ≤ c ∧ c ≤ 'F' then some (c.toNat - 'A'.toNat + 10)
  else none

/-- An escape that is broken stays as it is. -/
def percentDecode : List Char → List Char
  | '%' :: a :: b :: s =>
    match hexDigit a, hexDigit b with
    | some x, some y => Char.ofNat (16 * x + y) :: percentDecode s
    | _, _ => '%' :: percentDecode (a :: b :: s)
  | c :: s => c :: percentDecode s
  | [] => []

def HttpUnescape.percent : HttpUnescape where
  unescape := percentDecode
  nil := rfl
  cons c s hc := by
    rw [percentDecode]
    rintro a b rest rfl
    exact absurd rfl hc

/-- What the system calls get of a `std::string`. -/
def cString (s : List Char) : List Char := s.takeWhile (· ≠ '\x00')

/-- What a handler gets for a URL. -/
def HttpUnescape.requestPath (lib : HttpUnescape) (url : String) : List Char :=
  cString (lib.unescape (url.toList.takeWhile (· ≠ '?')))

/-! ## Answers -/

structure HttpResponse where
  statusCode : Nat
  contentType : String
  body : List UInt8
  headers : List (String × String)

namespace HttpResponse

def json (status : Nat) (jsonStr : String) : HttpResponse :=
  ⟨status, "application/json", Text.toBytes jsonStr, [("Access-Control-Allow-Origin", "*")]⟩

theorem body_json (status : Nat) (jsonStr : String) :
    (json status jsonStr).body = Text.toBytes jsonStr := rfl

def error (status : Nat) (message : String) : HttpResponse :=
  json status ("\x7b\"code\":" ++ toString status ++ ",\"message\":\"" ++ message ++ "\"\x7d")

def file (data : List UInt8) (mimeType : String) : HttpResponse :=
  ⟨200, mimeType, data,
    [("Access-Control-Allow-Origin", "*"), ("Cache-Control", "public, max-age=86400")]⟩

end HttpResponse

/-! ## Uploads -/

/-- The bytes of files, by their paths below the media directory. -/
abbrev Files := List Name → Option (List UInt8)

def Upload.storedName (u : Upload) : Name := cString u.uniqueName.toList

variable (localtime : Int → Tm) (maxUploadSize : Nat)

def Upload.pathBelow (u : Upload) : List Name :=
  ((u.datePath localtime).toList ++ '/' :: u.storedName).splitOn '/'

structure UploadCall where
  upload : Upload
  mediaType : Int
  /-- the id that `save_media_file` gives, 0 without a database, none if it fails -/
  fileId : Option Nat

def uploadUrl (fileId : Nat) (u : Upload) : String :=
  "/media/" ++ toString fileId ++ "/" ++ u.uniqueName

def uploadJson (fileId : Nat) (u : Upload) (mediaType : Int) : String :=
  "\x7b\"code\":0,\"data\":\x7b\"file_id\":" ++ toString fileId ++ ",\"url\":\"" ++
    uploadUrl fileId u ++ "\",\"file_name\":\"" ++ u.fileName ++ "\",\"file_size\":" ++
    toString u.data.length ++ ",\"media_type\":" ++ toString mediaType ++ "\x7d\x7d"

def handleUpload (files : Files) (call : UploadCall) : Files × HttpResponse :=
  let u := call.upload
  if u.fileName.isEmpty || u.data.isEmpty then (files, .error 400 "Missing file or filename")
  else if maxUploadSize < u.data.length then (files, .error 400 "File too large")
  -- `std::ofstream` makes no directory
  else if '/' ∈ u.storedName then (files, .error 500 "Failed to save file")
  else
    match call.fileId with
    | none =>
      -- written, and removed again
      (Function.update files (u.pathBelow localtime) none,
        .error 500 "Failed to save file info")
    | some fileId =>
      (Function.update files (u.pathBelow localtime) (some u.data),
        .json 200 (uploadJson fileId u call.mediaType))

/-- A media directory, and the uploads that were answered with code 0, with their ids. -/
structure MediaDirectory where
  files : Files
  uploads : List (Upload × Nat)

namespace MediaDirectory

def empty : MediaDirectory := ⟨fun _ => none, []⟩

/-- An upload to the gateway that is answered with code 0. -/
def step (s : MediaDirectory) (call : UploadCall) : Option MediaDirectory :=
  match handleUpload localtime maxUploadSize s.files call with
  | (files, response) =>
    if call.upload.service = .http ∧ response.statusCode = 200 then
      some ⟨files, s.uploads ++ [(call.upload, call.fileId.getD 0)]⟩
    else none

end MediaDirectory

/-! ## Downloads -/

def gatewayMimeTypes : List (String × String) :=
  mimeTypes ++ [(".apk", "application/vnd.android.package-archive")]

/-- From the last dot on, in lower case. -/
def gatewayMimeType (filename : List Char) : String :=
  if '.' ∈ filename then
    let ext := '.' :: (filename.reverse.takeWhile (· ≠ '.')).reverse
    (gatewayMimeTypes.lookup (String.ofList (ext.map Char.toLower))).getD
      "application/octet-stream"
  else "application/octet-stream"

variable (fs : FileSystem) (mediaDir : List Char)

def searchFile (fname : Name) : List Char :=
  match fs.stat mediaDir with
  | some (.directory entries) => searchFileInDir fname mediaDir entries
  | _ => []

def handleDownload (path : List Char) : HttpResponse :=
  let filename := urlFilename path
  if filename = [] then .error 400 "Invalid file path"
  else
    let filepath := searchFile fs mediaDir filename
    if filepath = [] then .error 404 "File not found"
    else
      match fs.stat filepath with
      | some (.file content) => .file content (gatewayMimeType filename)
      | _ => .error 500 "Failed to read file"

/-- A directory has these files, below directories of days. -/
structure Holds (entries : Entries) (files : Files) : Prop where
  files : ∀ p content, (Node.directory entries).at? p = some (.file content) ↔
    files p = some content
  special : ∀ p, (Node.directory entries).at? p ≠ some .special
  directory : ∀ n p es, (Node.directory entries).at? (n :: p) = some (.directory es) →
    ∃ tm, n :: p <+: (datePath tm).toList.splitOn '/'

def Stores (files : Files) : Prop :=
  ∃ m entries, fs.resolve mediaDir = some m ∧ fs.node? m = some (.directory entries) ∧
    Holds entries files

/-- The name that the servers look for when they get the URL of an upload. -/
def HttpUnescape.requestedName (lib : HttpUnescape) (u : Upload) : Name :=
  cString (lib.unescape (u.uniqueName.toList.takeWhile (· ≠ '?')))

/-- Under the name that the servers look for, the bytes of the upload are stored: by itself, or by
    another upload with the same bytes. -/
def MediaDirectory.Recovers (lib : HttpUnescape) (s : MediaDirectory) (u : Upload) : Prop :=
  ∃ x ∈ s.uploads, x.1.storedName = lib.requestedName u ∧ x.1.data = u.data

/-! ## Names in URLs -/

section
variable {lib : HttpUnescape} {u : Upload} {fileId : Nat}

theorem HttpUnescape.unescape_append (lib : HttpUnescape) {a b : List Char} (h : '%' ∉ a) :
    lib.unescape (a ++ b) = a ++ lib.unescape b := by
  induction a with
  | nil => rfl
  | cons c a ih =>
    have hc : c ≠ '%' := fun heq => h (heq ▸ List.mem_cons_self)
    have ha : '%' ∉ a := fun hmem => h (List.mem_cons_of_mem c hmem)
    rw [List.cons_append, lib.cons c _ hc, ih ha, List.cons_append]

/-- A start without special characters stays in front of what a handler gets. -/
theorem cString_unescape_append {a b : List Char} (ha : ∀ c ∈ a, c ≠ '?' ∧ c ≠ '%' ∧ c ≠ '\x00') :
    cString (lib.unescape ((a ++ b).takeWhile (· ≠ '?'))) =
      a ++ cString (lib.unescape (b.takeWhile (· ≠ '?'))) := by
  have hpercent : '%' ∉ a := fun hmem => (ha _ hmem).2.1 rfl
  rw [List.takeWhile_append_of_pos fun c hc => by simpa using (ha c hc).1,
    lib.unescape_append hpercent, cString,
    List.takeWhile_append_of_pos fun c hc => by simpa using (ha c hc).2.2, cString]

theorem not_special_of_isDigit {c : Char} (h : c.isDigit = true) :
    c ≠ '?' ∧ c ≠ '%' ∧ c ≠ '\x00' := by
  refine ⟨?_, ?_, ?_⟩
  all_goals
    rintro rfl
    exact absurd h (by decide)

theorem requestPath_uploadUrl : lib.requestPath (uploadUrl fileId u) =
    "/media/".toList ++ ((toString fileId).toList ++ '/' :: lib.requestedName u) := by
  have hurl : (uploadUrl fileId u).toList =
      "/media/".toList ++ ((toString fileId).toList ++ ['/']) ++ u.uniqueName.toList := by
    simp [uploadUrl, String.toList_append]
  have hplain : ∀ c ∈ "/media/".toList ++ ((toString fileId).toList ++ ['/']),
      c ≠ '?' ∧ c ≠ '%' ∧ c ≠ '\x00' := by
    have hmedia : ∀ c ∈ "/media/".toList, c ≠ '?' ∧ c ≠ '%' ∧ c ≠ '\x00' := by
      simp
    intro c hc
    rcases List.mem_append.1 hc with hc | hc
    · exact hmedia c hc
    rcases List.mem_append.1 hc with hc | hc
    · exact not_special_of_isDigit (Text.isDigit_of_mem_toString hc)
    · obtain rfl := List.mem_singleton.1 hc
      decide
  rw [HttpUnescape.requestPath, hurl, cString_unescape_append hplain, HttpUnescape.requestedName]
  simp

theorem urlFilename_uploadUrl :
    urlFilename (lib.requestPath (uploadUrl fileId u)) = lib.requestedName u := by
  have hid : ∀ c ∈ (toString fileId).toList, decide (c ≠ '/') = true := by
    intro c hc
    have hdigit := Text.isDigit_of_mem_toString hc
    refine decide_eq_true ?_
    rintro rfl
    exact absurd hdigit (by decide)
  have hmedia : "/media/".toList.isPrefixOf ("/media/".toList ++
      ((toString fileId).toList ++ '/' :: lib.requestedName u)) = true :=
    List.isPrefixOf_iff_prefix.2 (List.prefix_append _ _)
  have hdrop : ("/media/".toList ++
      ((toString fileId).toList ++ '/' :: lib.requestedName u)).drop 7 =
        (toString fileId).toList ++ '/' :: lib.requestedName u := List.drop_left' rfl
  rw [requestPath_uploadUrl, urlFilename, if_pos hmedia, hdrop, if_pos (by simp),
    List.dropWhile_append_of_pos hid]
  rfl

/-- The names begin with the id of the user. -/
theorem requestedName_eq :
    ∃ rest, lib.requestedName u = (toString u.userId).toList ++ '_' :: rest := by
  have hname : u.uniqueName.toList = ((toString u.userId).toList ++ ['_']) ++
      ((toString u.timestamp).toList ++ u.extension.toList) := by
    simp [Upload.uniqueName, String.toList_append]
  have hplain : ∀ c ∈ (toString u.userId).toList ++ ['_'], c ≠ '?' ∧ c ≠ '%' ∧ c ≠ '\x00' := by
    intro c hc
    rcases List.mem_append.1 hc with hc | hc
    · exact not_special_of_isDigit (Text.isDigit_of_mem_toString hc)
    · obtain rfl := List.mem_singleton.1 hc
      decide
  refine ⟨cString (lib.unescape (((toString u.timestamp).toList ++ u.extension.toList).takeWhile
    (· ≠ '?'))), ?_⟩
  rw [HttpUnescape.requestedName, hname, cString_unescape_append hplain]
  simp

end

/-! ## The search of the tree -/

section
variable {fs : FileSystem} {filename dir : List Char} {es : Entries} {files : Files}

/-- A path in a directory begins with its first entry, or is one in the rest. -/
theorem at?_cons_entry {name : Name} {first node : Node} {rest : Entries} {rel : List Name}
    (h : (Node.directory (.cons name first rest)).at? rel = some node)
    (hfile : ∀ sub, node ≠ .directory sub) :
    (∃ below, rel = name :: below ∧ first.at? below = some node) ∨
      (Node.directory rest).at? rel = some node := by
  cases rel with
  | nil => exact absurd (Option.some.inj h).symm (hfile _)
  | cons n below =>
    obtain ⟨child, hchild, hbelow⟩ := Option.bind_eq_some_iff.1 h
    unfold Entries.find? at hchild
    split at hchild
    next heq =>
      obtain rfl := Option.some.inj hchild
      exact .inl ⟨below, by rw [heq], hbelow⟩
    next => exact .inr (Option.bind_eq_some_iff.2 ⟨child, hchild, hbelow⟩)

/-- What is not found is not there. -/
theorem searchFileInDir_missing (h : searchFileInDir filename dir es = []) {rel : List Name}
    {node : Node} (hat : (Node.directory es).at? rel = some node)
    (hfile : ∀ sub, node ≠ .directory sub) : rel.getLast? ≠ some filename := by
  fun_induction searchFileInDir filename dir es generalizing rel with
  | case1 dir =>
    cases rel with
    | nil => exact absurd (Option.some.inj hat).symm (hfile _)
    | cons n below => cases hat
  | case2 dir name entries rest result hne =>
    exact absurd h hne
  | case3 dir name entries rest result hnone =>
    rename_i ihsub ihrest
    rcases at?_cons_entry hat hfile with ⟨below, rfl, hbelow⟩ | hat
    · have hne : below ≠ [] := by
        rintro rfl
        exact absurd (Option.some.inj hbelow).symm (hfile _)
      rw [getLast?_cons hne]
      exact ihsub (not_not.1 hnone) hbelow
    · exact ihrest h hat
  | case4 dir content rest =>
    exact absurd h (List.append_ne_nil_of_right_ne_nil _ (List.cons_ne_nil _ _))
  | case5 dir name content rest hne ih =>
    rcases at?_cons_entry hat hfile with ⟨below, rfl, hbelow⟩ | hat
    · cases below with
      | nil => exact fun hlast => hne (Option.some.inj hlast)
      | cons n below => cases hbelow
    · exact ih h hat
  | case6 dir rest =>
    exact absurd h (List.append_ne_nil_of_right_ne_nil _ (List.cons_ne_nil _ _))
  | case7 dir name rest hne ih =>
    rcases at?_cons_entry hat hfile with ⟨below, rfl, hbelow⟩ | hat
    · cases below with
      | nil => exact fun hlast => hne (Option.some.inj hlast)
      | cons n below => cases hbelow
    · exact ih h hat

end

/-! ## What uploads leave -/

section
variable {localtime : Int → Tm} {maxUploadSize : Nat} {s t : MediaDirectory} {call : UploadCall}
variable {calls : List UploadCall} {u v : Upload}

theorem pathBelow_eq (h : '/' ∉ u.storedName) :
    u.pathBelow localtime = (u.datePath localtime).toList.splitOn '/' ++ [u.storedName] := by
  rw [Upload.pathBelow, List.splitOn_append_cons_self, List.splitOn_eq_singleton h]

theorem getLast?_pathBelow (h : '/' ∉ u.storedName) :
    (u.pathBelow localtime).getLast? = some u.storedName := by
  rw [pathBelow_eq h, List.getLast?_concat]

/-- An upload that is answered with code 0. -/
theorem handleUpload_eq {files : Files}
    (h : (handleUpload localtime maxUploadSize files call).2.statusCode = 200) :
    call.upload.data ≠ [] ∧ '/' ∉ call.upload.storedName ∧ ∃ fileId,
      handleUpload localtime maxUploadSize files call =
        (Function.update files (call.upload.pathBelow localtime) (some call.upload.data),
          .json 200 (uploadJson fileId call.upload call.mediaType)) := by
  unfold handleUpload at h ⊢
  dsimp only at h ⊢
  split at h
  next => exact absurd (show 400 = 200 from h) (by decide)
  next hempty =>
    rw [if_neg hempty]
    split at h
    next => exact absurd (show 400 = 200 from h) (by decide)
    next hlarge =>
      rw [if_neg hlarge]
      split at h
      next => exact absurd (show 500 = 200 from h) (by decide)
      next hslash =>
        rw [if_neg hslash]
        split at h
        next => exact absurd (show 500 = 200 from h) (by decide)
        next fileId _ =>
          refine ⟨?_, hslash, fileId, rfl⟩
          simp only [Bool.or_eq_true, List.isEmpty_iff, not_or] at hempty
          exact hempty.2

theorem handleUpload_ok {files : Files}
    (h : (handleUpload localtime maxUploadSize files call).2.statusCode = 200) :
    call.upload.data ≠ [] ∧ '/' ∉ call.upload.storedName ∧
      (handleUpload localtime maxUploadSize files call).1 =
        Function.update files (call.upload.pathBelow localtime) (some call.upload.data) := by
  obtain ⟨hdata, hslash, fileId, heq⟩ := handleUpload_eq h
  exact ⟨hdata, hslash, congrArg Prod.fst heq⟩

theorem step_directory (h : s.step localtime maxUploadSize call = some t) :
    call.upload.data ≠ [] ∧ '/' ∉ call.upload.storedName ∧
      t = ⟨Function.update s.files (call.upload.pathBelow localtime) (some call.upload.data),
        s.uploads ++ [(call.upload, call.fileId.getD 0)]⟩ := by
  rw [MediaDirectory.step, Option.ite_none_right_eq_some, Option.some.injEq] at h
  obtain ⟨⟨-, hstatus⟩, rfl⟩ := h
  obtain ⟨hdata, hslash, hfiles⟩ := handleUpload_ok hstatus
  exact ⟨hdata, hslash, by rw [hfiles]⟩

/-- The files are those of the uploads. -/
structure Kept (localtime : Int → Tm) (s : MediaDirectory) : Prop where
  data : ∀ x ∈ s.uploads, x.1.data ≠ []
  named : ∀ x ∈ s.uploads, '/' ∉ x.1.storedName
  written : ∀ p content, s.files p = some content →
    ∃ x ∈ s.uploads, x.1.pathBelow localtime = p ∧ x.1.data = content
  stored : (s.uploads.map (·.1.storedName)).Nodup →
    ∀ x ∈ s.uploads, s.files (x.1.pathBelow localtime) = some x.1.data

theorem kept_empty : Kept localtime .empty where
  data _ h := absurd h List.not_mem_nil
  named _ h := absurd h List.not_mem_nil
  written _ _ h := absurd h.symm (Option.some_ne_none _)
  stored _ _ h := absurd h List.not_mem_nil

theorem kept_step (hs : Kept localtime s) (h : s.step localtime maxUploadSize call = some t) :
    Kept localtime t := by
  obtain ⟨hdata, hslash, rfl⟩ := step_directory h
  constructor
  · intro x hx
    rcases List.mem_append.1 hx with hx | hx
    · exact hs.data x hx
    · obtain rfl := List.mem_singleton.1 hx
      exact hdata
  · intro x hx
    rcases List.mem_append.1 hx with hx | hx
    · exact hs.named x hx
    · obtain rfl := List.mem_singleton.1 hx
      exact hslash
  · intro p content hp
    dsimp only at hp
    by_cases heq : p = call.upload.pathBelow localtime
    · subst heq
      rw [Function.update_self] at hp
      exact ⟨_, List.mem_append_right _ List.mem_cons_self, rfl, Option.some.inj hp⟩
    · rw [Function.update_of_ne heq] at hp
      obtain ⟨x, hx, hpath, hcontent⟩ := hs.written p content hp
      exact ⟨x, List.mem_append_left _ hx, hpath, hcontent⟩
  · intro hnames x hx
    rw [List.map_append, List.nodup_append] at hnames
    obtain ⟨hold, -, hnew⟩ := hnames
    rcases List.mem_append.1 hx with hx | hx
    · have hne : x.1.pathBelow localtime ≠ call.upload.pathBelow localtime := by
        intro heq
        have hlast := congrArg List.getLast? heq
        rw [getLast?_pathBelow (hs.named x hx), getLast?_pathBelow hslash] at hlast
        exact hnew _ (List.mem_map_of_mem hx) _ List.mem_cons_self (Option.some.inj hlast)
      dsimp only
      rw [Function.update_of_ne hne]
      exact hs.stored hold x hx
    · obtain rfl := List.mem_singleton.1 hx
      exact Function.update_self _ _ _

theorem kept_run
    (h : Run (MediaDirectory.step localtime maxUploadSize) anyStep .empty calls s) :
    Kept localtime s :=
  h.invariant kept_empty fun _ _ _ hs _ => kept_step hs

end

/-! ## What the servers find -/

section
variable {localtime : Int → Tm} {s : MediaDirectory} {fs : FileSystem}
variable {mediaDir filename : List Char} {x : Upload × Nat}

theorem searchFile_eq {m : List Name} {entries : Entries} (hm : fs.resolve mediaDir = some m)
    (hnode : fs.node? m = some (.directory entries)) :
    searchFile fs mediaDir filename = searchFileInDir filename mediaDir entries := by
  rw [searchFile, FileSystem.stat_eq_some.2 ⟨m, hm, hnode⟩]

/-- What the search finds is an upload of the name. -/
theorem searchFile_found (hs : Kept localtime s) (hfs : Stores fs mediaDir s.files)
    (h : searchFile fs mediaDir filename ≠ []) : ∃ x ∈ s.uploads, x.1.storedName = filename ∧
      fs.stat (searchFile fs mediaDir filename) = some (.file x.1.data) := by
  obtain ⟨m, entries, hm, hnode, hholds⟩ := hfs
  rw [searchFile_eq hm hnode] at h ⊢
  obtain ⟨rel, node, hresolve, hat, hfile, hlast⟩ := searchFileInDir_found hm hnode
    (fun _ _ h => h) (FileSystem.valid_node? hnode) h
  cases node with
  | directory sub => exact absurd rfl (hfile sub)
  | special => exact absurd hat (hholds.special rel)
  | file content =>
    obtain ⟨x, hx, rfl, rfl⟩ := hs.written rel content ((hholds.files rel content).1 hat)
    refine ⟨x, hx, ?_, FileSystem.stat_eq_some.2 ⟨_, hresolve, ?_⟩⟩
    · rw [getLast?_pathBelow (hs.named x hx)] at hlast
      exact Option.some.inj hlast
    · rw [FileSystem.node?_append hnode, hat]

/-- An upload is found under its name. -/
theorem searchFile_stored (hs : Kept localtime s) (hnames : (s.uploads.map (·.1.storedName)).Nodup)
    (hfs : Stores fs mediaDir s.files) (hx : x ∈ s.uploads) (hname : x.1.storedName = filename) :
    searchFile fs mediaDir filename ≠ [] ∧
      fs.stat (searchFile fs mediaDir filename) = some (.file x.1.data) := by
  have hne : searchFile fs mediaDir filename ≠ [] := by
    obtain ⟨m, entries, hm, hnode, hholds⟩ := hfs
    rw [searchFile_eq hm hnode]
    intro hmissing
    have hat := (hholds.files _ _).2 (hs.stored hnames x hx)
    refine searchFileInDir_missing hmissing hat nofun ?_
    rw [getLast?_pathBelow (hs.named x hx), hname]
  obtain ⟨y, hy, hyname, hstat⟩ := searchFile_found hs hfs hne
  obtain rfl := List.inj_on_of_nodup_map hnames hy hx (hyname.trans hname.symm)
  exact ⟨hne, hstat⟩

/-! ## The direct path -/

theorem splitOn_append {a b : List Char} (ha : '/' ∉ a) :
    (a ++ b).splitOn '/' = (b.splitOn '/').modifyHead (a ++ ·) := by
  induction a with
  | nil =>
    obtain ⟨c, cs, hb⟩ := List.exists_cons_of_ne_nil (List.splitOn_ne_nil '/' b)
    simp [hb]
  | cons c a ih =>
    have hc : c ≠ '/' := fun heq => ha (heq ▸ List.mem_cons_self)
    obtain ⟨d, ds, hb⟩ := List.exists_cons_of_ne_nil (List.splitOn_ne_nil '/' b)
    rw [List.cons_append, List.splitOn_cons_eq_if_modifyHead, if_neg (by simpa using hc),
      ih fun hmem => ha (List.mem_cons_of_mem c hmem), hb]
    rfl

theorem splitOn_datePath (tm : Tm) : (datePath tm).toList.splitOn '/' =
    [(toString tm.year).toList, (twoDigits tm.month).toList, (twoDigits tm.day).toList] := by
  have hlist : (datePath tm).toList = (toString tm.year).toList ++ '/' ::
      ((twoDigits tm.month).toList ++ '/' :: (twoDigits tm.day).toList) := by
    simp [datePath, String.toList_append]
  have hyear : '/' ∉ (toString tm.year).toList := fun hmem =>
    (Text.mem_toString_int hmem).elim (absurd · (by decide)) (absurd · (by decide))
  have hdigits : ∀ n : Nat, '/' ∉ (twoDigits n).toList := fun n hmem =>
    absurd (isDigit_of_mem_twoDigits hmem) (by decide)
  rw [hlist, List.splitOn_append_cons_self, List.splitOn_append_cons_self,
    List.splitOn_eq_singleton hyear, List.splitOn_eq_singleton (hdigits _),
    List.splitOn_eq_singleton (hdigits _)]
  rfl

/-- No file or directory is directly below under a name with an underscore. -/
theorem find?_underscore (hs : Kept localtime s) {entries : Entries}
    (hholds : Holds entries s.files) {n : Name} (hn : '_' ∈ n) : entries.find? n = none := by
  by_contra hsome
  obtain ⟨node, hnode⟩ := Option.ne_none_iff_exists'.1 hsome
  have hat : (Node.directory entries).at? [n] = some node :=
    Option.bind_eq_some_iff.2 ⟨node, hnode, rfl⟩
  cases node with
  | special => exact hholds.special _ hat
  | directory sub =>
    obtain ⟨tm, hbelow⟩ := hholds.directory n [] sub hat
    rw [splitOn_datePath, List.cons_prefix_cons] at hbelow
    rw [hbelow.1] at hn
    exact (Text.mem_toString_int hn).elim (absurd · (by decide)) (absurd · (by decide))
  | file content =>
    obtain ⟨x, hx, hpath, -⟩ := hs.written _ _ ((hholds.files _ _).1 hat)
    rw [pathBelow_eq (hs.named x hx), Upload.datePath, splitOn_datePath] at hpath
    exact absurd (congrArg List.length hpath) (by simp)

/-- `media_server` finds what the gateway finds. -/
theorem findFile_eq_searchFile (hs : Kept localtime s) (hfs : Stores fs mediaDir s.files)
    {id : Nat} {rest : List Char} (hname : filename = (toString id).toList ++ '_' :: rest) :
    findFile fs mediaDir filename = searchFile fs mediaDir filename := by
  obtain ⟨m, entries, hm, hnode, hholds⟩ := hfs
  have hdirect : fs.stat (directPath mediaDir filename) = none := by
    have hdir : mediaDir ≠ [] := by
      rintro rfl
      exact absurd hm.symm (Option.some_ne_none m)
    have hslash : '/' ∉ (toString id).toList ++ ['_'] := by
      intro hmem
      rcases List.mem_append.1 hmem with hmem | hmem
      · exact absurd (Text.isDigit_of_mem_toString hmem) (by decide)
      · exact absurd (List.mem_singleton.1 hmem) (by decide)
    obtain ⟨d, ds, hrest⟩ := List.exists_cons_of_ne_nil (List.splitOn_ne_nil '/' rest)
    have hsplit : filename.splitOn '/' = ((toString id).toList ++ ['_'] ++ d) :: ds := by
      rw [hname, ← List.singleton_append, ← List.append_assoc, splitOn_append hslash, hrest]
      rfl
    have hunder : '_' ∈ (toString id).toList ++ ['_'] ++ d := by simp
    generalize (toString id).toList ++ ['_'] ++ d = n at hsplit hunder
    have hwalk : fs.walk m n = none := by
      have hempty : ¬ (n = [] ∨ n = ['.']) := by
        rintro (rfl | rfl) <;> simp at hunder
      have hparent : n ≠ ['.', '.'] := by
        rintro rfl
        simp at hunder
      simp [FileSystem.walk, hnode, hempty, hparent, find?_underscore hs hholds hunder]
    rw [FileSystem.stat, directPath, FileSystem.resolve_append hdir, hm, Option.bind_some, hsplit,
      List.foldlM_cons, hwalk]
    rfl
  cases hmedia : fs.stat mediaDir with
  | none => simp [findFile, searchFile, hdirect, hmedia]
  | some node => cases node <;> simp [findFile, searchFile, hdirect, hmedia]

end

/-! ## The round trip -/

section
variable {localtime : Int → Tm} {maxUploadSize : Nat} {s : MediaDirectory} {fs : FileSystem}
variable {mediaDir path : List Char} {calls : List UploadCall} {lib : HttpUnescape}
variable {x : Upload × Nat} {u : Upload}

theorem handleDownload_ok_iff {data : List UInt8} :
    ((handleDownload fs mediaDir path).statusCode = 200 ∧
        (handleDownload fs mediaDir path).body = data) ↔
      urlFilename path ≠ [] ∧ searchFile fs mediaDir (urlFilename path) ≠ [] ∧
        fs.stat (searchFile fs mediaDir (urlFilename path)) = some (.file data) := by
  unfold handleDownload
  dsimp only
  split
  next hname =>
    exact iff_of_false (fun h => absurd (show 400 = 200 from h.1) (by decide)) fun h => h.1 hname
  next hname =>
    split
    next hmissing =>
      exact iff_of_false (fun h => absurd (show 404 = 200 from h.1) (by decide))
        fun h => h.2.1 hmissing
    next hfound =>
      split
      next content hstat =>
        rw [hstat]
        exact ⟨fun h => ⟨hname, hfound, congrArg (some ∘ Node.file) h.2⟩,
          fun h => ⟨rfl, Node.file.inj (Option.some.inj h.2.2)⟩⟩
      next hstat =>
        exact iff_of_false (fun h => absurd (show 500 = 200 from h.1) (by decide))
          fun h => hstat data h.2.2

/-- `media_server` has a limit on the size, and serves no empty file. -/
theorem handleRequest_get_iff {data : List UInt8} :
    ((handleRequest fs mediaDir "GET" path).status = 200 ∧
        (handleRequest fs mediaDir "GET" path).body = data) ↔
      urlFilename path ≠ [] ∧ findFile fs mediaDir (urlFilename path) ≠ [] ∧
        fs.stat (findFile fs mediaDir (urlFilename path)) = some (.file data) ∧
        data.length ≤ maxFileSize ∧ data ≠ [] := by
  have hmethod : ¬ ("GET" ≠ "GET" ∧ "GET" ≠ "HEAD") := fun h => h.1 rfl
  simp only [handleRequest, if_neg (show "GET" ≠ "OPTIONS" by decide), if_neg hmethod,
    if_neg (show "GET" ≠ "HEAD" by decide)]
  split
  next hname =>
    exact iff_of_false (fun h => absurd (show 400 = 200 from h.1) (by decide)) fun h => h.1 hname
  next hname =>
    split
    next hmissing =>
      exact iff_of_false (fun h => absurd (show 404 = 200 from h.1) (by decide))
        fun h => h.2.1 hmissing
    next hfound =>
      have hfailed : ∀ {Q : Prop}, ¬ ((text 500 "Internal Server Error").status = 200 ∧ Q) :=
        fun h => absurd (show 500 = 200 from h.1) (by decide)
      cases hstat : fs.stat (findFile fs mediaDir (urlFilename path)) with
      | none =>
        simp only [getFileSize, hstat, Option.map_none]
        exact iff_of_false hfailed fun h => Option.some_ne_none _ h.2.2.1.symm
      | some node =>
        cases node with
        | special =>
          simp only [getFileSize, readFile, hstat, Option.map_some]
          refine iff_of_false ?_ fun h => absurd h.2.2.1 (by simp)
          split <;> exact hfailed
        | directory entries =>
          simp only [getFileSize, readFile, hstat, Option.map_some]
          refine iff_of_false ?_ fun h => absurd h.2.2.1 (by simp)
          split <;> exact hfailed
        | file content =>
          simp only [getFileSize, readFile, hstat, Option.map_some, Option.some.injEq,
            Node.file.injEq]
          split
          next hlarge =>
            refine iff_of_false hfailed fun h => ?_
            rw [h.2.2.1] at hlarge
            exact hlarge.not_ge h.2.2.2.1
          next hlarge =>
            split
            next hempty =>
              exact iff_of_false hfailed fun h => h.2.2.2.2 (h.2.2.1.symm.trans hempty)
            next hempty =>
              exact ⟨fun h => ⟨hname, hfound, h.2, h.2 ▸ Nat.not_lt.1 hlarge, h.2 ▸ hempty⟩,
                fun h => ⟨rfl, h.2.2.1⟩⟩

/-- The search for the name in a URL ends at a file with the bytes of the upload, if and only if
    these are stored under that name. -/
theorem searchFile_iff_recovers (hs : Kept localtime s)
    (hnames : (s.uploads.map (·.1.storedName)).Nodup) (hfs : Stores fs mediaDir s.files) :
    (searchFile fs mediaDir (lib.requestedName u) ≠ [] ∧
      fs.stat (searchFile fs mediaDir (lib.requestedName u)) = some (.file u.data)) ↔
    s.Recovers lib u := by
  constructor
  · rintro ⟨hne, hstat⟩
    obtain ⟨y, hy, hname, hstat'⟩ := searchFile_found hs hfs hne
    exact ⟨y, hy, hname, Node.file.inj (Option.some.inj (hstat'.symm.trans hstat))⟩
  · rintro ⟨y, hy, hname, hdata⟩
    exact hdata ▸ searchFile_stored hs hnames hfs hy hname

/-- Under an extension with neither '?' nor '%', the bytes of the upload itself are stored. -/
theorem recovers_of_plain (hx : x ∈ s.uploads) (hquery : '?' ∉ x.1.uniqueName.toList)
    (hpercent : '%' ∉ x.1.uniqueName.toList) : s.Recovers lib x.1 := by
  have htake : x.1.uniqueName.toList.takeWhile (· ≠ '?') = x.1.uniqueName.toList :=
    List.takeWhile_eq_self_iff.2 fun c hc => decide_eq_true fun heq => hquery (heq ▸ hc)
  have hdecode : lib.unescape x.1.uniqueName.toList = x.1.uniqueName.toList := by
    have happend := lib.unescape_append (b := []) hpercent
    rwa [lib.nil, List.append_nil] at happend
  exact ⟨x, hx, by rw [HttpUnescape.requestedName, htake, hdecode, Upload.storedName], rfl⟩

/-- After uploads with different names, a server answers the URL of one of them with its bytes if
    and only if these are stored under the name that the server looks for; `media_server` has a
    limit on the size besides. -/
theorem round_trip (lib : HttpUnescape)
    (h : Run (MediaDirectory.step localtime maxUploadSize) anyStep .empty calls s)
    (hnames : (s.uploads.map (·.1.storedName)).Nodup) (hfs : Stores fs mediaDir s.files)
    (hx : x ∈ s.uploads) :
    ((handleDownload fs mediaDir (lib.requestPath (uploadUrl x.2 x.1))).statusCode = 200 ∧
      (handleDownload fs mediaDir (lib.requestPath (uploadUrl x.2 x.1))).body = x.1.data ↔
        s.Recovers lib x.1) ∧
    ((handleRequest fs mediaDir "GET" (lib.requestPath (uploadUrl x.2 x.1))).status = 200 ∧
      (handleRequest fs mediaDir "GET" (lib.requestPath (uploadUrl x.2 x.1))).body = x.1.data ↔
        s.Recovers lib x.1 ∧ x.1.data.length ≤ maxFileSize) := by
  have hs : Kept localtime s := kept_run h
  obtain ⟨rest, hname⟩ : ∃ rest, lib.requestedName x.1 =
    (toString x.1.userId).toList ++ '_' :: rest := requestedName_eq
  have hne : lib.requestedName x.1 ≠ [] :=
    hname ▸ List.append_ne_nil_of_right_ne_nil _ (List.cons_ne_nil _ _)
  rw [handleDownload_ok_iff, handleRequest_get_iff, urlFilename_uploadUrl,
    findFile_eq_searchFile hs hfs hname, ← searchFile_iff_recovers hs hnames hfs]
  exact ⟨⟨fun h => h.2, fun h => ⟨hne, h⟩⟩,
    ⟨fun h => ⟨⟨h.2.1, h.2.2.1⟩, h.2.2.2.1⟩,
      fun h => ⟨hne, h.1.1, h.1.2, h.2, hs.data x hx⟩⟩⟩

end

/-! ## A name with a question mark -/

def question : Upload := ⟨.http, 7, ".?", [2, 3], 1704067200, 1704067200000000000⟩

/-- A picture of another user -/
def photo : Upload := { question with userId := 8, fileName := ".p", data := [1] }

theorem fileExtension_twoUploads :
    Session.fileExtension ".p" = ".p" ∧ Session.fileExtension ".?" = ".?" := by
  have hsplit : ".p".splitOn "." = ["", "p"] ∧ ".?".splitOn "." = ["", "?"] := by
    constructor
    all_goals
      unfold String.splitOn
      rw [if_neg (by decide), String.splitOnAux, if_neg (by decide), if_pos (by decide)]
      dsimp only
      rw [if_pos (by decide), String.splitOnAux, if_neg (by decide), if_neg (by decide),
        String.splitOnAux, if_pos (by decide)]
      decide +kernel
  rw [Session.fileExtension, Session.fileExtension, hsplit.1, hsplit.2]
  decide

theorem uniqueName_twoUploads :
    photo.uniqueName = "8_1704067200000.p" ∧ question.uniqueName = "7_1704067200000.?" := by
  obtain ⟨hphoto, hquestion⟩ := fileExtension_twoUploads
  rw [Upload.uniqueName, Upload.uniqueName, Upload.extension, Upload.extension]
  show _ ++ Session.fileExtension ".p" = _ ∧ _ ++ Session.fileExtension ".?" = _
  rw [hphoto, hquestion]
  decide +kernel

theorem storedName_twoUploads : photo.storedName = "8_1704067200000.p".toList ∧
    question.storedName = "7_1704067200000.?".toList := by
  obtain ⟨hphoto, hquestion⟩ := uniqueName_twoUploads
  rw [Upload.storedName, Upload.storedName, hphoto, hquestion]
  decide

/-- The files of two users -/
def dayEntries : Entries :=
  .cons "8_1704067200000.p".toList (.file [1])
    (.cons "7_1704067200000.?".toList (.file [2, 3]) .nil)

def mediaEntries : Entries :=
  .cons "2024".toList (.directory (.cons "01".toList (.directory
    (.cons "01".toList (.directory dayEntries) .nil)) .nil)) .nil

/-- The directory media in the working directory -/
def mediaFiles : FileSystem where
  root := .cons "media".toList (.directory mediaEntries) .nil
  valid := by
    have hname : ∀ n ∈ ["8_1704067200000.p", "7_1704067200000.?", "2024", "01",
        "media"].map String.toList, Name.Valid n := by
      intro n hn
      constructor <;> revert n <;> decide
    simp only [mediaEntries, dayEntries, Entries.Valid, Node.Valid, and_true, true_and]
    exact ⟨hname _ (by simp), rfl, hname _ (by simp), rfl, hname _ (by simp), rfl,
      hname _ (by simp), rfl, hname _ (by simp), by decide, hname _ (by simp), rfl⟩
  cwd := []
  directorySize := 4096

/-- The uploads of the two users -/
def twoUploads : List UploadCall := [⟨photo, 1, some 1⟩, ⟨question, 2, some 2⟩]

theorem at?_cons {name n : Name} {first : Node} {rest : Entries} {below : List Name} :
    (Node.directory (.cons name first rest)).at? (n :: below) =
      if name = n then first.at? below else (Node.directory rest).at? (n :: below) := by
  show (if name = n then some first else rest.find? n).bind _ = _
  split <;> rfl

theorem at?_nil {n : Name} {below : List Name} :
    (Node.directory .nil).at? (n :: below) = none := rfl

theorem at?_file {content : List UInt8} {n : Name} {below : List Name} :
    (Node.file content).at? (n :: below) = none := rfl

theorem at?_here {node : Node} : node.at? [] = some node := by
  cases node <;> rfl

/-- What the two users have uploaded -/
def twoFiles : Files :=
  Function.update (Function.update (fun _ => none)
      ["2024".toList, "01".toList, "01".toList, "8_1704067200000.p".toList] (some [1]))
    ["2024".toList, "01".toList, "01".toList, "7_1704067200000.?".toList] (some [2, 3])

theorem step_upload {localtime : Int → Tm} {maxUploadSize fileId : Nat} {s : MediaDirectory}
    {call : UploadCall} (hhttp : call.upload.service = .http) (hid : call.fileId = some fileId)
    (hname : call.upload.fileName.isEmpty = false) (hdata : call.upload.data.isEmpty = false)
    (hsize : ¬ maxUploadSize < call.upload.data.length) (hslash : '/' ∉ call.upload.storedName) :
    s.step localtime maxUploadSize call =
      some ⟨Function.update s.files (call.upload.pathBelow localtime) (some call.upload.data),
        s.uploads ++ [(call.upload, fileId)]⟩ := by
  simp [MediaDirectory.step, handleUpload, hhttp, hid, hname, hdata, hsize, hslash,
    HttpResponse.json]

theorem run_twoUploads :
    Run (MediaDirectory.step firstOfJanuary 100) anyStep .empty twoUploads
      ⟨twoFiles, [(photo, 1), (question, 2)]⟩ := by
  obtain ⟨hphoto, hquestion⟩ := storedName_twoUploads
  have hslash : '/' ∉ photo.storedName ∧ '/' ∉ question.storedName := by
    rw [hphoto, hquestion]
    decide
  have hpath : ∀ u : Upload, '/' ∉ u.storedName → u.pathBelow firstOfJanuary =
      ["2024".toList, "01".toList, "01".toList, u.storedName] := by
    have hday : [(toString (2024 : Int)).toList, (twoDigits 1).toList, (twoDigits 1).toList] =
      ["2024".toList, "01".toList, "01".toList] := by decide
    intro u hu
    rw [pathBelow_eq hu, Upload.datePath, splitOn_datePath]
    exact congrArg (· ++ [u.storedName]) hday
  have hfiles : twoFiles = Function.update (Function.update (fun _ => none)
      (photo.pathBelow firstOfJanuary) (some photo.data))
      (question.pathBelow firstOfJanuary) (some question.data) := by
    rw [hpath _ hslash.1, hpath _ hslash.2, hphoto, hquestion]
    rfl
  rw [hfiles]
  exact .cons trivial (step_upload rfl rfl rfl rfl (by decide) hslash.1)
    (.cons trivial (step_upload rfl rfl rfl rfl (by decide) hslash.2) .nil)

section
variable {y m d a b : Name} {content content' : List UInt8}

/-- Two files of one day -/
theorem holds_day (tm : Tm) (hab : a ≠ b) (hday : (datePath tm).toList.splitOn '/' = [y, m, d]) :
    Holds (.cons y (.directory (.cons m (.directory (.cons d (.directory
        (.cons a (.file content) (.cons b (.file content') .nil))) .nil)) .nil)) .nil)
      (Function.update (Function.update (fun _ => none) [y, m, d, a] (some content))
        [y, m, d, b] (some content')) := by
  constructor
  · intro p c
    rw [Function.update_apply, Function.update_apply]
    rcases p with _ | ⟨n₁, _ | ⟨n₂, _ | ⟨n₃, _ | ⟨n₄, _ | ⟨n₅, rest⟩⟩⟩⟩⟩
    all_goals simp only [at?_cons, at?_nil, at?_file, at?_here]
    all_goals grind
  · intro p
    rcases p with _ | ⟨n₁, _ | ⟨n₂, _ | ⟨n₃, _ | ⟨n₄, _ | ⟨n₅, rest⟩⟩⟩⟩⟩
    all_goals simp only [at?_cons, at?_nil, at?_file, at?_here]
    all_goals grind
  · intro n₁ p es h
    refine ⟨tm, ?_⟩
    rw [hday]
    rcases p with _ | ⟨n₂, _ | ⟨n₃, _ | ⟨n₄, _ | ⟨n₅, rest⟩⟩⟩⟩
    all_goals simp only [at?_cons, at?_nil, at?_file, at?_here] at h
    all_goals simp only [List.cons_prefix_cons, List.nil_prefix, List.prefix_nil]
    all_goals grind

end

theorem stores_twoFiles : Stores mediaFiles "media".toList twoFiles :=
  ⟨["media".toList], mediaEntries, by decide, rfl, holds_day ⟨2024, 1, 1⟩ (by decide) (by
    rw [splitOn_datePath]
    decide)⟩

theorem names_twoUploads :
    ([(photo, 1), (question, 2)].map (·.1.storedName) : List Name).Nodup := by
  obtain ⟨hphoto, hquestion⟩ := storedName_twoUploads
  simp only [List.map_cons, List.map_nil, hphoto, hquestion]
  decide

/-- Both servers serve the picture. -/
theorem round_trip_photo :
    (handleDownload mediaFiles "media".toList
        (HttpUnescape.percent.requestPath (uploadUrl 1 photo))).body = [1] ∧
      (handleRequest mediaFiles "media".toList "GET"
        (HttpUnescape.percent.requestPath (uploadUrl 1 photo))).body = [1] := by
  have hmem : (photo, 1) ∈ [(photo, 1), (question, 2)] := List.mem_cons_self
  have hrecovers :
      MediaDirectory.Recovers .percent ⟨twoFiles, [(photo, 1), (question, 2)]⟩ photo :=
    recovers_of_plain (x := (photo, 1)) hmem (by rw [uniqueName_twoUploads.1]; decide)
      (by rw [uniqueName_twoUploads.1]; decide)
  have htrip := round_trip .percent run_twoUploads names_twoUploads stores_twoFiles hmem
  exact ⟨(htrip.1.2 hrecovers).2, (htrip.2.2 ⟨hrecovers, by decide⟩).2⟩

/-- The servers look for "7_1704067200000.", which is not there. -/
theorem question_mark_lost :
    ¬ ∀ (calls : List UploadCall) (s : MediaDirectory) (fs : FileSystem) (mediaDir : List Char),
      Run (MediaDirectory.step firstOfJanuary 100) anyStep .empty calls s →
      (s.uploads.map (·.1.storedName)).Nodup → Stores fs mediaDir s.files → ∀ x ∈ s.uploads,
      ((handleDownload fs mediaDir
          (HttpUnescape.percent.requestPath (uploadUrl x.2 x.1))).statusCode = 200 ∧
        (handleDownload fs mediaDir
          (HttpUnescape.percent.requestPath (uploadUrl x.2 x.1))).body = x.1.data) ∧
      (handleRequest fs mediaDir "GET"
          (HttpUnescape.percent.requestPath (uploadUrl x.2 x.1))).status = 200 ∧
        (handleRequest fs mediaDir "GET"
          (HttpUnescape.percent.requestPath (uploadUrl x.2 x.1))).body = x.1.data := by
  intro h
  obtain ⟨hdownload, -⟩ := h _ _ _ _ run_twoUploads names_twoUploads stores_twoFiles (question, 2)
    (List.mem_cons_of_mem _ List.mem_cons_self)
  obtain ⟨-, hfound, -⟩ := handleDownload_ok_iff.1 hdownload
  rw [urlFilename_uploadUrl] at hfound
  obtain ⟨y, hy, hname, -⟩ := searchFile_found (kept_run run_twoUploads) stores_twoFiles hfound
  have hrequested : HttpUnescape.percent.requestedName question = "7_1704067200000.".toList := by
    rw [HttpUnescape.requestedName, uniqueName_twoUploads.2]
    decide
  rw [hrequested] at hname
  obtain ⟨hphoto, hquestion⟩ := storedName_twoUploads
  rcases List.mem_cons.1 hy with rfl | hy
  · exact absurd (hphoto.symm.trans hname) (by decide)
  · obtain rfl := List.mem_singleton.1 hy
    exact absurd (hquestion.symm.trans hname) (by decide)

end ChatApp.Media

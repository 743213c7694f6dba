/-
  `media_server`, which answers GET and HEAD requests with files of the directory `mediaDir`. The
  name of a file is cut out of the URL and used twice: as a path below the directory, and as the
  base name of a search through its tree. libmicrohttpd hands over the URL decoded, and leaves dots
  in it.
-/
import ChatApp.Lib.Files

namespace ChatApp.Media

open ChatApp.Lib

/-! ## Types of files -/

def mimeTypes : List (String × String) := [
  (".jpg", "image/jpeg"),
  (".jpeg", "image/jpeg"),
  (".png", "image/png"),
  (".gif", "image/gif"),
  (".webp", "image/webp"),
  (".bmp", "image/bmp"),
  (".svg", "image/svg+xml"),
  (".mp4", "video/mp4"),
  (".webm", "video/webm"),
  (".mp3", "audio/mpeg"),
  (".wav", "audio/wav"),
  (".ogg", "audio/ogg"),
  (".pdf", "application/pdf"),
  (".doc", "application/msword"),
  (".docx", "application/vnd.openxmlformats-officedocument.wordprocessingml.document"),
  (".xls", "application/vnd.ms-excel"),
  (".xlsx", "application/vnd.openxmlformats-officedocument.spreadsheetml.sheet"),
  (".ppt", "application/vnd.ms-powerpoint"),
  (".pptx", "application/vnd.openxmlformats-officedocument.presentationml.presentation"),
  (".zip", "application/zip"),
  (".rar", "application/x-rar-compressed"),
  (".7z", "application/x-7z-compressed"),
  (".txt", "text/plain"),
  (".html", "text/html"),
  (".css", "text/css"),
  (".js", "application/javascript"),
  (".json", "application/json"),
  (".xml", "application/xml")]

/-- From the last dot on, in lower case. -/
def getMimeType (filename : List Char) : String :=
  if '.' ∈ filename then
    let ext := '.' :: (filename.reverse.takeWhile (· ≠ '.')).reverse
    (mimeTypes.lookup (String.ofList (ext.map Char.toLower))).getD "application/octet-stream"
  else "application/octet-stream"

/-! ## Files -/

/-- `search_file_in_dir` in a directory with these entries; the result is empty if there is none. -/
def searchFileInDir (filename : Name) : List Char → Entries → List Char
  | _, .nil => []
  | dir, .cons name (.directory entries) rest =>
    let result := searchFileInDir filename (dir ++ '/' :: name) entries
    if result ≠ [] then result else searchFileInDir filename dir rest
  | dir, .cons name (.file _) rest =>
    if name = filename then dir ++ '/' :: name else searchFileInDir filename dir rest
  | dir, .cons name .special rest =>
    if name = filename then dir ++ '/' :: name else searchFileInDir filename dir rest

variable (fs : FileSystem) (mediaDir : List Char)

def directPath (filename : List Char) : List Char := mediaDir ++ '/' :: filename

def findFile (filename : List Char) : List Char :=
  match fs.stat (directPath mediaDir filename) with
  | some (.file _) => directPath mediaDir filename
  | _ =>
    match fs.stat mediaDir with
    | some (.directory entries) => searchFileInDir filename mediaDir entries
    | _ => []

/-- Only a regular file can be read. -/
def readFile (path : List Char) : List UInt8 :=
  match fs.stat path with
  | some (.file content) => content
  | _ => []

def getFileSize (path : List Char) : Option Nat :=
  (fs.stat path).map fun
    | .file content => content.length
    | .special => 0
    | .directory _ => fs.directorySize

/-! ## Requests -/

def maxFileSize : Nat := 50 * 1024 * 1024

structure Response where
  status : Nat
  headers : List (String × String)
  body : List UInt8
  /-- the path of the file that it was made of -/
  file : Option (List Char)

def text (status : Nat) (body : String) : Response := ⟨status, [], body.toUTF8.toList, none⟩

/-- `/media/<file_id>/<filename>` or `/<filename>` -/
def urlFilename (url : List Char) : List Char :=
  let path :=
    if "/media/".toList.isPrefixOf url then url.drop 7
    else if url.head? = some '/' then url.drop 1
    else url
  if '/' ∈ path then (path.dropWhile (· ≠ '/')).drop 1 else path

def fileHeaders (filename : List Char) (size : Nat) : List (String × String) := [
  ("Content-Type", getMimeType filename),
  ("Content-Length", toString size),
  ("Access-Control-Allow-Origin", "*"),
  ("Cache-Control", "public, max-age=86400")]

def handleRequest (method : String) (url : List Char) : Response :=
  if method = "OPTIONS" then
    ⟨200, [("Access-Control-Allow-Origin", "*"), ("Access-Control-Allow-Methods", "GET, OPTIONS"),
      ("Access-Control-Allow-Headers", "*")], [], none⟩
  else if method ≠ "GET" ∧ method ≠ "HEAD" then text 405 "Method Not Allowed"
  else
    let filename := urlFilename url
    if filename = [] then text 400 "Bad Request"
    else
      let filepath := findFile fs mediaDir filename
      if filepath = [] then text 404 "Not Found"
      else
        match getFileSize fs filepath with
        | none => text 500 "Internal Server Error"
        | some fileSize =>
          if maxFileSize < fileSize then text 500 "Internal Server Error"
          else if method = "HEAD" then ⟨200, fileHeaders filename fileSize, [], some filepath⟩
          else
            let content := readFile fs filepath
            if content = [] then text 500 "Internal Server Error"
            else ⟨200, fileHeaders filename content.length, content, some filepath⟩

/-! ## The search stays inside -/

/-- A path below the directory that `mediaDir` names. -/
def Inside (path : List Char) : Prop :=
  ∃ m p, fs.resolve mediaDir = some m ∧ fs.resolve path = some p ∧ m <+: p

variable {fs mediaDir} {filename : List Char} {method : String} {url : List Char}

theorem getLast?_cons {n : Name} {rel : List Name} (h : rel ≠ []) :
    (n :: rel).getLast? = rel.getLast? := by
  obtain ⟨m, rel, rfl⟩ := List.exists_cons_of_ne_nil h
  rw [List.getLast?_cons_cons]

/-- What is found has the name, and is no directory. -/
theorem searchFileInDir_found {dir : List Char} {es all : Entries} {p : List Name}
    (hdir : fs.resolve dir = some p) (hp : fs.node? p = some (.directory all))
    (hes : es.Within all) (hvalid : es.Valid) (h : searchFileInDir filename dir es ≠ []) :
    ∃ rel node, fs.resolve (searchFileInDir filename dir es) = some (p ++ rel) ∧
      (Node.directory all).at? rel = some node ∧ (∀ sub, node ≠ .directory sub) ∧
      rel.getLast? = some filename := by
  fun_induction searchFileInDir filename dir es generalizing p all with
  | case1 => exact absurd rfl h
  | case2 dir name entries rest result hne =>
    rename_i ih
    obtain ⟨hname, -, hentries, -⟩ := hvalid
    have hchild := FileSystem.resolve_child hdir hp hname hes.head
    have hnode := (FileSystem.node?_snoc hp).trans hes.head
    obtain ⟨rel, node, hresolve, hat, hfile, hlast⟩ := ih hchild hnode (fun _ _ h => h) hentries hne
    have hrel : rel ≠ [] := by
      rintro rfl
      cases hlast
    refine ⟨name :: rel, node, by simpa using hresolve, ?_, hfile, (getLast?_cons hrel).trans hlast⟩
    exact Option.bind_eq_some_iff.2 ⟨_, hes.head, hat⟩
  | case3 dir name entries rest result hne =>
    rename_i ih
    exact ih hdir hp (hes.tail hvalid.2.1) hvalid.2.2.2 h
  | case4 dir content rest =>
    exact ⟨[filename], .file content, FileSystem.resolve_child hdir hp hvalid.1 hes.head,
      Option.bind_eq_some_iff.2 ⟨_, hes.head, rfl⟩, by simp, rfl⟩
  | case5 dir name content rest hne ih =>
    exact ih hdir hp (hes.tail hvalid.2.1) hvalid.2.2.2 h
  | case6 dir rest =>
    exact ⟨[filename], .special, FileSystem.resolve_child hdir hp hvalid.1 hes.head,
      Option.bind_eq_some_iff.2 ⟨_, hes.head, rfl⟩, by simp, rfl⟩
  | case7 dir name rest hne ih =>
    exact ih hdir hp (hes.tail hvalid.2.1) hvalid.2.2.2 h

/-- What `find_file` finds is the direct path of a regular file, or inside. -/
theorem findFile_cases {path : List Char} (hpath : findFile fs mediaDir filename = path)
    (hne : path ≠ []) :
    (path = directPath mediaDir filename ∧
      ∃ content, fs.stat (directPath mediaDir filename) = some (.file content)) ∨
    Inside fs mediaDir path := by
  unfold findFile at hpath
  split at hpath
  case h_1 content hfile => exact .inl ⟨hpath.symm, content, hfile⟩
  case h_2 =>
    split at hpath
    case h_1 entries hdir =>
      obtain ⟨m, hm, hnode⟩ := FileSystem.stat_eq_some.1 hdir
      have hvalid : entries.Valid := FileSystem.valid_node? hnode
      subst hpath
      obtain ⟨rel, -, hresolve, -⟩ := searchFileInDir_found hm hnode (fun _ _ h => h) hvalid hne
      exact .inr ⟨m, m ++ rel, hm, hresolve, List.prefix_append m rel⟩
    case h_2 => exact absurd hpath.symm hne

theorem findFile_direct {content : List UInt8}
    (h : fs.stat (directPath mediaDir filename) = some (.file content)) :
    findFile fs mediaDir filename = directPath mediaDir filename := by
  rw [findFile, h]

/-! ## Files outside -/

/-- The name in the URL, taken as a path below `mediaDir`, leads by its `..` to a regular file
    elsewhere, of a size that is served. -/
structure Escapes (fs : FileSystem) (mediaDir : List Char) (method : String) (url : List Char) :
    Prop where
  named : urlFilename url ≠ []
  file : ∃ content, fs.stat (directPath mediaDir (urlFilename url)) = some (.file content) ∧
    content.length ≤ maxFileSize ∧ (method = "HEAD" ∨ content ≠ [])
  outside : ¬ Inside fs mediaDir (directPath mediaDir (urlFilename url))

/-- An answer with a file. -/
theorem handleRequest_ok (hm : method = "GET" ∨ method = "HEAD")
    (h : (handleRequest fs mediaDir method url).status = 200) :
    urlFilename url ≠ [] ∧ findFile fs mediaDir (urlFilename url) ≠ [] ∧
      (handleRequest fs mediaDir method url).file =
        some (findFile fs mediaDir (urlFilename url)) ∧
      (∃ size, getFileSize fs (findFile fs mediaDir (urlFilename url)) = some size ∧
        size ≤ maxFileSize) ∧
      (method = "HEAD" ∨ readFile fs (findFile fs mediaDir (urlFilename url)) ≠ []) := by
  have hoptions : method ≠ "OPTIONS" := by rcases hm with rfl | rfl <;> decide
  have hallowed : ¬ (method ≠ "GET" ∧ method ≠ "HEAD") := by tauto
  simp only [handleRequest, if_neg hoptions, if_neg hallowed] at h ⊢
  split at h
  · exact absurd h (by decide)
  next hname =>
  split at h
  · exact absurd h (by decide)
  next hpath =>
  split at h
  · exact absurd h (by decide)
  next size hsize =>
  split at h
  · exact absurd h (by decide)
  next hmax =>
  rw [if_neg hname, if_neg hpath]
  simp only [hsize, if_neg hmax]
  split at h
  next hhead =>
    exact ⟨hname, hpath, by rw [if_pos hhead], ⟨size, rfl, Nat.not_lt.1 hmax⟩, .inl hhead⟩
  next hhead =>
    split at h
    · exact absurd h (by decide)
    next hcontent =>
    refine ⟨hname, hpath, ?_, ⟨size, rfl, Nat.not_lt.1 hmax⟩, .inr hcontent⟩
    rw [if_neg hhead, if_neg hcontent]

/-- A file outside is served under the name that leads to it. -/
theorem handleRequest_of_escapes (hm : method = "GET" ∨ method = "HEAD")
    (h : Escapes fs mediaDir method url) :
    (handleRequest fs mediaDir method url).status = 200 ∧
      (handleRequest fs mediaDir method url).file =
        some (directPath mediaDir (urlFilename url)) := by
  obtain ⟨content, hfile, hsize, hcontent⟩ := h.file
  have hoptions : method ≠ "OPTIONS" := by rcases hm with rfl | rfl <;> decide
  have hallowed : ¬ (method ≠ "GET" ∧ method ≠ "HEAD") := by tauto
  have hpath : directPath mediaDir (urlFilename url) ≠ [] := List.append_ne_nil_of_right_ne_nil _
    (List.cons_ne_nil _ _)
  simp only [handleRequest, if_neg hoptions, if_neg hallowed, if_neg h.named,
    findFile_direct hfile, if_neg hpath, getFileSize, readFile, hfile, Option.map_some,
    if_neg (Nat.not_lt.2 hsize)]
  rcases hcontent with hhead | hcontent
  · rw [if_pos hhead]
    exact ⟨rfl, rfl⟩
  · by_cases hhead : method = "HEAD"
    · rw [if_pos hhead]
      exact ⟨rfl, rfl⟩
    · rw [if_neg hhead, if_neg hcontent]
      exact ⟨rfl, rfl⟩

/-- The file of an answer is inside, exactly if the URL does not name one outside. -/
theorem served_inside_iff (hm : method = "GET" ∨ method = "HEAD") :
    ((handleRequest fs mediaDir method url).status = 200 →
      ∃ path, (handleRequest fs mediaDir method url).file = some path ∧
        Inside fs mediaDir path) ↔
    ¬ Escapes fs mediaDir method url := by
  constructor
  · intro hinside hescapes
    obtain ⟨hok, hfile⟩ := handleRequest_of_escapes hm hescapes
    obtain ⟨path, hpath, hin⟩ := hinside hok
    obtain rfl := Option.some.inj (hpath.symm.trans hfile)
    exact hescapes.outside hin
  · intro hconfined hok
    obtain ⟨hnamed, hfound, hfile, ⟨size, hsize, hmax⟩, hcontent⟩ := handleRequest_ok hm hok
    refine ⟨_, hfile, ?_⟩
    rcases findFile_cases rfl hfound with ⟨hdirect, content, hstat⟩ | hin
    · rw [hdirect] at hsize hcontent ⊢
      simp only [getFileSize, hstat, Option.map_some, Option.some.injEq] at hsize
      simp only [readFile, hstat] at hcontent
      by_contra hout
      exact hconfined ⟨hnamed, ⟨content, hstat, hsize ▸ hmax, hcontent⟩, hout⟩
    · exact hin

/-- A name without the component `..` is confined. -/
theorem not_escapes_of_plain (hplain : ['.', '.'] ∉ (urlFilename url).splitOn '/')
    (hmedia : fs.resolve mediaDir ≠ none) : ¬ Escapes fs mediaDir method url := by
  intro h
  obtain ⟨content, hfile, -⟩ := h.file
  obtain ⟨p, hp, -⟩ := FileSystem.stat_eq_some.1 hfile
  have hne : mediaDir ≠ [] := by
    rintro rfl
    exact hmedia rfl
  obtain ⟨m, hm, hwalk⟩ := Option.bind_eq_some_iff.1 ((FileSystem.resolve_append hne).symm.trans hp)
  exact h.outside ⟨m, p, hm, hp, FileSystem.prefix_of_walks hplain hwalk⟩

/-! ## A password file -/

/-- /etc/passwd, and /srv/media/cat.png below the working directory /srv -/
def hostFiles : FileSystem where
  root :=
    .cons "etc".toList (.directory (.cons "passwd".toList (.file [1]) .nil))
    (.cons "srv".toList (.directory
      (.cons "media".toList (.directory (.cons "cat.png".toList (.file [2]) .nil)) .nil)) .nil)
  valid := by
    have hname : ∀ n ∈ ["etc", "passwd", "srv", "media", "cat.png"].map String.toList,
        Name.Valid n := by
      intro n hn
      constructor <;> revert n <;> decide
    simp only [Entries.Valid, Node.Valid, and_true]
    refine ⟨hname _ (by simp), by decide, ⟨hname _ (by simp), rfl⟩, hname _ (by simp), rfl,
      ⟨hname _ (by simp), rfl, hname _ (by simp), rfl⟩⟩
  cwd := ["srv".toList]
  directorySize := 4096

theorem served_inside_iff_cat :
    ((handleRequest hostFiles "media".toList "GET" "/media/1/cat.png".toList).status = 200 →
      ∃ path, (handleRequest hostFiles "media".toList "GET" "/media/1/cat.png".toList).file =
        some path ∧ Inside hostFiles "media".toList path) ↔
    ¬ Escapes hostFiles "media".toList "GET" "/media/1/cat.png".toList :=
  served_inside_iff (.inl rfl)

/-- A URL with dots serves a file outside. -/
theorem parent_served :
    ∃ path, (handleRequest hostFiles "media".toList "GET"
        "/media/1/../../etc/passwd".toList).status = 200 ∧
      (handleRequest hostFiles "media".toList "GET" "/media/1/../../etc/passwd".toList).file =
        some path ∧
      (handleRequest hostFiles "media".toList "GET" "/media/1/../../etc/passwd".toList).body =
        [1] ∧
      ¬ Inside hostFiles "media".toList path := by
  refine ⟨"media/../../etc/passwd".toList, by decide +kernel, by decide +kernel,
    by decide +kernel, ?_⟩
  rintro ⟨m, p, hm, hp, hbelow⟩
  have hmedia : hostFiles.resolve "media".toList = some ["srv".toList, "media".toList] := by
    decide +kernel
  have hpath : hostFiles.resolve "media/../../etc/passwd".toList =
      some ["etc".toList, "passwd".toList] := by decide +kernel
  obtain rfl := Option.some.inj (hmedia.symm.trans hm)
  obtain rfl := Option.some.inj (hpath.symm.trans hp)
  exact absurd hbelow (by decide)

end ChatApp.Media

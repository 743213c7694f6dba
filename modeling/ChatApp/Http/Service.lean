/-
  The HTTP gateway with the routes that `start` registers: a request as it was put together goes
  through `handle_upload` to a file on the disk, and `handle_download` answers with what it finds
  there. The daemon runs before the routes are registered.

  What the rest of the program does appears as steps of their own: it writes files below the media
  directory too (`Disk.others`), and it gives the time and the ids of the database. An exception of
  the parsing part ends the program, so that there is no step for it (`Allowed`).
-/
import ChatApp.Http.Routing
import ChatApp.Media.Forms
import ChatApp.Media.Search
import ChatApp.Media.UploadResponse

namespace ChatApp.Http.Service

open ChatApp.Lib ChatApp.Media ChatApp.Http.Routing

/-! ## The routes -/

structure Config where
  localtime : Int → Tm
  maxUploadSize : Nat
  mediaDir : List Char
  /-- the tree that the system calls show of the files -/
  view : Files → FileSystem

structure Disk where
  files : Files
  /-- what was there at the start, and what others have written -/
  others : List (List Name × List UInt8)
  /-- `std::time` -/
  time : Int
  /-- `system_clock::now()` in nanoseconds -/
  now : Int
  /-- the id that `save_media_file` would give, 0 without a database, none if it would fail -/
  fileId : Option Nat

def uploadRequest (request : HttpRequest) : UploadRequest :=
  ⟨Text.toBytes request.authorization, Text.toBytes request.contentType, request.body⟩

/-- Not an answer: the program has ended. -/
def noAnswer : HttpResponse := ⟨0, "", [], []⟩

/-- `handle_upload` -/
def upload (cfg : Config) : RouteHandler Disk := fun request d =>
  match parseUpload (uploadRequest request) with
  | some (.ok (.refused response)) => (response, d)
  | some (.ok (.form userId form)) =>
    let (files, response) := handleUpload cfg.localtime cfg.maxUploadSize d.files
      ⟨form.upload userId d.time d.now, form.mediaType, d.fileId⟩
    (response, { d with files := files })
  | _ => (noAnswer, d)

/-- `handle_download` -/
def download (cfg : Config) : RouteHandler Disk := fun request d =>
  (handleDownload (cfg.view d.files) cfg.mediaDir request.path.toList, d)

/-- The route for OPTIONS, which `handle_request` never comes to -/
def options : RouteHandler Disk := fun _ d => (⟨200, "application/json", [], [
  ("Access-Control-Allow-Headers", "Content-Type, Authorization"),
  ("Access-Control-Allow-Methods", "GET, POST, OPTIONS"),
  ("Access-Control-Allow-Origin", "*")]⟩, d)

def defaultRoutes (cfg : Config) : List (String × String × RouteHandler Disk) :=
  [("POST", "/api/upload", upload cfg), ("GET", "/media", download cfg), ("OPTIONS", "*", options)]

/-! ## Runs -/

/-- The rest of the program removes files, and writes some. -/
structure Outside (d e : Disk) : Prop where
  files : ∀ p content, e.files p = some content →
    d.files p = some content ∨ (p, content) ∈ e.others
  others : ∀ x ∈ d.others, x ∈ e.others

/-- No other route is registered, and no request that comes to `handle_upload` makes its parsing
    part throw. -/
def Allowed (cfg : Config) (w : Server Disk) : Routing.Label Disk → Prop
  | .register method path handler => (method, path, handler) ∈ defaultRoutes cfg
  | .connection (.complete c) => ∀ request, w.gateway.connections c = some request →
    request.method = "POST" → "/api/upload".toList <+: request.path.toList →
      Safe (uploadRequest request)
  | .connection _ => True
  | .outside e => Outside w.state e

/-! ## What is promised -/

/-- The system calls show the files, and only directories besides. -/
def Shows (fs : FileSystem) (mediaDir : List Char) (files : Files) : Prop :=
  ∃ m entries, fs.resolve mediaDir = some m ∧ fs.node? m = some (.directory entries) ∧
    (∀ p content, (Node.directory entries).at? p = some (.file content) ↔
      files p = some content) ∧
    ∀ p, (Node.directory entries).at? p ≠ some .special

/-- The token is accepted. -/
def Authorized (request : HttpRequest) : Prop :=
  ∃ userId, verifyToken (Text.toBytes request.authorization) = .ok (some userId)

/-- An upload that was answered with code 0: what was written, and where. -/
inductive Stored (cfg : Config) : Upload → Event Disk → Prop
  | mk {p : Pending} {request : HttpRequest} {d e : Disk} {response : HttpResponse} {userId : Nat}
      {form : Form} {u : Upload} : request.method = "POST" →
      "/api/upload".toList <+: request.path.toList →
      parseUpload (uploadRequest request) = some (.ok (.form userId form)) →
      u = form.upload userId d.time d.now → u.data ≠ [] → u.data.length ≤ cfg.maxUploadSize →
      '/' ∉ u.storedName → response.statusCode = 200 →
      e.files = Function.update d.files (u.pathBelow cfg.localtime) (some u.data) →
      Stored cfg u (.answered p request d response e)

/-- Where a file comes from. -/
def Known (cfg : Config) (d : Disk) (log : List (Event Disk)) (p : List Name)
    (content : List UInt8) : Prop :=
  (p, content) ∈ d.others ∨ ∃ e ∈ log, ∃ u, Stored cfg u e ∧ u.pathBelow cfg.localtime = p ∧
    u.data = content

/-- A request that changes the disk is an upload with a token that is accepted. A download changes
    nothing; its answer is 200 exactly if there is a file of the name, and then has the bytes of
    such a file, which an upload or somebody else has written. -/
def Served (cfg : Config) (log : List (Event Disk)) : Event Disk → Prop
  | .answered _ request d response e =>
    (e ≠ d → request.method = "POST" ∧ "/api/upload".toList <+: request.path.toList ∧
      Authorized request) ∧
    (request.method = "GET" → e = d ∧
      (Shows (cfg.view d.files) cfg.mediaDir d.files →
        (response.statusCode = 200 ↔ (∃ f, .registered "GET" "/media" f ∈ log) ∧
          "/media".toList <+: request.path.toList ∧ urlFilename request.path.toList ≠ [] ∧
          ∃ p content, d.files p = some content ∧
            p.getLast? = some (urlFilename request.path.toList)) ∧
        (response.statusCode = 200 → ∃ p, p.getLast? = some (urlFilename request.path.toList) ∧
          d.files p = some response.body ∧ Known cfg d log p response.body)))
  | _ => True

/-! ## Downloads -/

section
variable {fs : FileSystem} {mediaDir path : List Char} {files : Files}

/-- What the search finds is a file of the name. -/
theorem searchFile_shown {name : Name} (h : Shows fs mediaDir files)
    (hne : searchFile fs mediaDir name ≠ []) : ∃ p content, files p = some content ∧
      p.getLast? = some name ∧
      fs.stat (searchFile fs mediaDir name) = some (.file content) := by
  obtain ⟨m, entries, hm, hnode, hfiles, hspecial⟩ := h
  rw [searchFile_eq hm hnode] at hne ⊢
  obtain ⟨rel, node, hresolve, hat, hleaf, hlast⟩ := searchFileInDir_found hm hnode
    (fun _ _ h => h) (FileSystem.valid_node? hnode) hne
  cases node with
  | directory sub => exact absurd rfl (hleaf sub)
  | special => exact absurd hat (hspecial rel)
  | file content =>
    refine ⟨rel, content, (hfiles rel content).1 hat, hlast, ?_⟩
    refine FileSystem.stat_eq_some.2 ⟨_, hresolve, ?_⟩
    rw [FileSystem.node?_append hnode, hat]

theorem searchFile_complete {name : Name} {p : List Name} {content : List UInt8}
    (h : Shows fs mediaDir files) (hp : files p = some content) (hlast : p.getLast? = some name) :
    searchFile fs mediaDir name ≠ [] := by
  obtain ⟨m, entries, hm, hnode, hfiles, -⟩ := h
  rw [searchFile_eq hm hnode]
  intro hmissing
  have hat := (hfiles p content).2 hp
  exact searchFileInDir_missing hmissing hat (fun sub heq => by cases heq) hlast

theorem handleDownload_found (h : Shows fs mediaDir files)
    (hok : (handleDownload fs mediaDir path).statusCode = 200) : urlFilename path ≠ [] ∧
      ∃ p, files p = some (handleDownload fs mediaDir path).body ∧
        p.getLast? = some (urlFilename path) := by
  obtain ⟨hname, hfound, hstat⟩ := handleDownload_ok_iff.1 ⟨hok, rfl⟩
  obtain ⟨p, content, hp, hlast, hcontent⟩ := searchFile_shown h hfound
  obtain rfl : content = (handleDownload fs mediaDir path).body :=
    Node.file.inj (Option.some.inj (hcontent.symm.trans hstat))
  exact ⟨hname, p, hp, hlast⟩

theorem handleDownload_ok {p : List Name} {content : List UInt8} (h : Shows fs mediaDir files)
    (hname : urlFilename path ≠ []) (hp : files p = some content)
    (hlast : p.getLast? = some (urlFilename path)) :
    (handleDownload fs mediaDir path).statusCode = 200 := by
  have hfound := searchFile_complete h hp hlast
  obtain ⟨q, data, -, -, hstat⟩ := searchFile_shown h hfound
  exact (handleDownload_ok_iff.2 ⟨hname, hfound, hstat⟩).1

end

/-! ## Uploads -/

section
variable {cfg : Config} {request : HttpRequest} {d : Disk}

/-- An upload is stored and answered with code 0, or leaves no new file. -/
theorem handleUpload_cases (cfg : Config) (files : Files) (call : UploadCall) :
    ((handleUpload cfg.localtime cfg.maxUploadSize files call).2.statusCode ≠ 200 ∧
      ∀ p content, (handleUpload cfg.localtime cfg.maxUploadSize files call).1 p = some content →
        files p = some content) ∨
    call.upload.data ≠ [] ∧ call.upload.data.length ≤ cfg.maxUploadSize ∧
      '/' ∉ call.upload.storedName ∧
      (handleUpload cfg.localtime cfg.maxUploadSize files call).2.statusCode = 200 ∧
      (handleUpload cfg.localtime cfg.maxUploadSize files call).1 =
        Function.update files (call.upload.pathBelow cfg.localtime) (some call.upload.data) := by
  unfold handleUpload
  dsimp only
  by_cases hempty : (call.upload.fileName.isEmpty || call.upload.data.isEmpty) = true
  · rw [if_pos hempty]
    exact .inl ⟨show (400 : Nat) ≠ 200 by decide, fun _ _ => id⟩
  rw [if_neg hempty]
  by_cases hlarge : cfg.maxUploadSize < call.upload.data.length
  · rw [if_pos hlarge]
    exact .inl ⟨show (400 : Nat) ≠ 200 by decide, fun _ _ => id⟩
  rw [if_neg hlarge]
  by_cases hslash : '/' ∈ call.upload.storedName
  · rw [if_pos hslash]
    exact .inl ⟨show (500 : Nat) ≠ 200 by decide, fun _ _ => id⟩
  rw [if_neg hslash]
  cases call.fileId with
  | none =>
    refine .inl ⟨show (500 : Nat) ≠ 200 by decide, fun p content hp => ?_⟩
    dsimp only at hp
    by_cases hpath : p = call.upload.pathBelow cfg.localtime
    · rw [hpath, Function.update_self] at hp
      exact absurd hp.symm (Option.some_ne_none content)
    · rwa [Function.update_of_ne hpath] at hp
  | some fileId =>
    simp only [Bool.or_eq_true, List.isEmpty_iff, not_or] at hempty
    exact .inr ⟨hempty.2, Nat.le_of_not_lt hlarge, hslash, rfl, rfl⟩

theorem parseUpload_authorized {userId : Nat} {form : Form}
    (h : parseUpload (uploadRequest request) = some (.ok (.form userId form))) :
    Authorized request := by
  unfold parseUpload at h
  split at h
  next e _ => exact absurd (Option.some.inj h) (fun heq => by cases heq)
  next => exact absurd (Option.some.inj h) (fun heq => by cases heq)
  next userId htoken => exact ⟨userId, htoken⟩

theorem upload_spec (cfg : Config) (p : Pending) (d : Disk) (hmethod : request.method = "POST")
    (hpath : "/api/upload".toList <+: request.path.toList) :
    ((upload cfg request d).2 ≠ d → Authorized request) ∧
      (upload cfg request d).2.others = d.others ∧
      ∀ path content, (upload cfg request d).2.files path = some content →
        d.files path = some content ∨ ∃ u,
          Stored cfg u (.answered p request d (upload cfg request d).1 (upload cfg request d).2) ∧
            u.pathBelow cfg.localtime = path ∧ u.data = content := by
  unfold upload
  split
  next => exact ⟨fun h => absurd rfl h, rfl, fun _ _ => .inl⟩
  next userId form hparse =>
    refine ⟨fun _ => parseUpload_authorized hparse, rfl, fun path content hfile => ?_⟩
    rcases handleUpload_cases cfg d.files
      ⟨form.upload userId d.time d.now, form.mediaType, d.fileId⟩ with
      ⟨-, hold⟩ | ⟨hdata, hsize, hslash, hok, hnew⟩
    · exact .inl (hold path content hfile)
    · dsimp only at hfile hnew
      rw [hnew] at hfile
      by_cases heq : path = (form.upload userId d.time d.now).pathBelow cfg.localtime
      · rw [heq, Function.update_self] at hfile
        exact .inr ⟨_, .mk hmethod hpath hparse rfl hdata hsize hslash hok hnew, heq.symm,
          Option.some.inj hfile⟩
      · rw [Function.update_of_ne heq] at hfile
        exact .inl hfile
  next => exact ⟨fun h => absurd rfl h, rfl, fun _ _ => .inl⟩

/-! ## The routes that are chosen -/

theorem latest_mem {log : List (Event Disk)} {method path : String} {f : RouteHandler Disk}
    (h : latest log method path = some f) : .registered method path f ∈ log := by
  induction log using List.reverseRecOn with
  | nil => exact absurd h.symm (Option.some_ne_none f)
  | append_singleton log e ih =>
    rw [latest_snoc] at h
    cases e with
    | registered m p g =>
      dsimp only at h
      split at h
      next heq =>
        obtain ⟨rfl, rfl⟩ := heq
        obtain rfl := Option.some.inj h
        exact List.mem_append_right _ List.mem_cons_self
      next => exact List.mem_append_left _ (ih h)
    | preflighted head response => exact List.mem_append_left _ (ih h)
    | answered p request d response e => exact List.mem_append_left _ (ih h)

theorem latest_ne_none {log : List (Event Disk)} {method path : String} {f : RouteHandler Disk}
    (h : .registered method path f ∈ log) : latest log method path ≠ none := by
  induction log using List.reverseRecOn with
  | nil => exact absurd h List.not_mem_nil
  | append_singleton log e ih =>
    rw [latest_snoc]
    rcases List.mem_append.1 h with hbefore | hlast
    · cases e with
      | registered m p g =>
        dsimp only
        split
        · exact Option.some_ne_none g
        · exact ih hbefore
      | preflighted head response => exact ih hbefore
      | answered p request d response e => exact ih hbefore
    · obtain rfl := List.mem_singleton.1 hlast
      dsimp only
      rw [if_pos ⟨rfl, rfl⟩]
      exact Option.some_ne_none f

/-- Which of the routes a request comes to. -/
inductive Reached (cfg : Config) (log : List (Event Disk)) (method path : String) :
    Option (RouteHandler Disk) → Prop
  | upload : method = "POST" → "/api/upload".toList <+: path.toList →
      Reached cfg log method path (some (upload cfg))
  | download : method = "GET" → "/media".toList <+: path.toList →
      .registered "GET" "/media" (download cfg) ∈ log →
      Reached cfg log method path (some (download cfg))
  | options : method = "OPTIONS" → Reached cfg log method path (some options)
  | none : (∀ f, .registered method "/media" f ∈ log → ¬ "/media".toList <+: path.toList) →
      Reached cfg log method path none

variable {log : List (Event Disk)}

theorem chosen_reached {method path : String} {handler : Option (RouteHandler Disk)}
    (hroutes : ∀ m p f, .registered m p f ∈ log → (m, p, f) ∈ defaultRoutes cfg)
    (h : Chosen log method path handler) : Reached cfg log method path handler := by
  have hreached : ∀ p f, latest log method p = some f → p.toList <+: path.toList →
      Reached cfg log method path (some f) := by
    intro p f hlatest hbegins
    have hmem := hroutes method p f (latest_mem hlatest)
    simp only [defaultRoutes, List.mem_cons, Prod.mk.injEq, List.not_mem_nil, or_false] at hmem
    rcases hmem with ⟨rfl, rfl, rfl⟩ | ⟨rfl, rfl, rfl⟩ | ⟨rfl, rfl, rfl⟩
    · exact .upload rfl hbegins
    · exact .download rfl hbegins (latest_mem hlatest)
    · exact .options rfl
  cases h with
  | exact hlatest => exact hreached path _ hlatest (List.prefix_refl _)
  | shortest hnone hlatest hbegins hleast => exact hreached _ _ hlatest hbegins
  | none hall => exact .none fun f hmem hbegins => latest_ne_none hmem (hall "/media" hbegins)

/-! ## Runs -/

theorem Known.mono {e : Disk} {log' : List (Event Disk)} {p : List Name} {content : List UInt8}
    (h : Known cfg d log p content) (hothers : ∀ x ∈ d.others, x ∈ e.others)
    (hlog : ∀ x ∈ log, x ∈ log') : Known cfg e log' p content := by
  rcases h with h | ⟨x, hx, hstored⟩
  · exact .inl (hothers _ h)
  · exact .inr ⟨x, hlog x hx, hstored⟩

structure Traced (cfg : Config) (w : Server Disk) : Prop where
  sound : Sound w
  routes : ∀ m p f, .registered m p f ∈ w.log → (m, p, f) ∈ defaultRoutes cfg
  known : ∀ p content, w.state.files p = some content → Known cfg w.state w.log p content
  served : ∀ before e after, w.log = before ++ e :: after → Served cfg before e

theorem routes_snoc {e : Event Disk}
    (h : ∀ m p f, .registered m p f ∈ log → (m, p, f) ∈ defaultRoutes cfg)
    (he : ∀ m p f, e = .registered m p f → (m, p, f) ∈ defaultRoutes cfg) (m p : String)
    (f : RouteHandler Disk) (hmem : .registered m p f ∈ log ++ [e]) :
    (m, p, f) ∈ defaultRoutes cfg := by
  rcases List.mem_append.1 hmem with hmem | hmem
  · exact h m p f hmem
  · exact he m p f (List.mem_singleton.1 hmem).symm

theorem served_snoc {e : Event Disk}
    (h : ∀ before x after, log = before ++ x :: after → Served cfg before x)
    (he : Served cfg log e) (before : List (Event Disk)) (x : Event Disk)
    (after : List (Event Disk)) (heq : log ++ [e] = before ++ x :: after) :
    Served cfg before x := by
  rcases snoc_eq_append_cons.1 heq with ⟨rfl, rfl, -⟩ | ⟨rest, -, hlog⟩
  · exact he
  · exact h before x rest hlog

/-- The answer of each route. -/
theorem reached_served {p : Pending} {handler : Option (RouteHandler Disk)}
    (hknown : ∀ q content, d.files q = some content → Known cfg d log q content)
    (h : Reached cfg log request.method request.path handler)
    (hmethod : request.method ≠ "OPTIONS") :
    Served cfg log (.answered p request d (handler.getD notFound request d).1
      (handler.getD notFound request d).2) := by
  cases h with
  | upload hpost hpath =>
    refine ⟨fun hne => ⟨hpost, hpath, (upload_spec cfg p d hpost hpath).1 hne⟩, fun hget => ?_⟩
    rw [hpost] at hget
    exact absurd hget (by decide)
  | download hget hpath hregistered =>
    refine ⟨fun hne => absurd rfl hne, fun _ => ⟨rfl, fun hshows => ⟨⟨fun hok => ?_, ?_⟩, ?_⟩⟩⟩
    · obtain ⟨hname, q, hq, hlast⟩ := handleDownload_found hshows hok
      exact ⟨⟨_, hregistered⟩, hpath, hname, q, _, hq, hlast⟩
    · intro ⟨_, _, hname, q, content, hq, hlast⟩
      exact handleDownload_ok hshows hname hq hlast
    · intro hok
      obtain ⟨-, q, hq, hlast⟩ := handleDownload_found hshows hok
      exact ⟨q, hlast, hq, hknown q _ hq⟩
  | options hoptions => exact absurd hoptions hmethod
  | none hnot =>
    have hstatus : ¬ (404 : Nat) = 200 := by decide
    refine ⟨fun hne => absurd rfl hne, fun hget => ⟨rfl, fun _ => ⟨⟨fun hok => ?_, ?_⟩, ?_⟩⟩⟩
    · exact absurd hok hstatus
    · intro ⟨⟨f, hmem⟩, hpath, _⟩
      rw [hget] at hnot
      exact absurd hpath (hnot f hmem)
    · exact fun hok => absurd hok hstatus

/-- What the disk has after the answer of each route. -/
theorem reached_known {p : Pending} {handler : Option (RouteHandler Disk)}
    (hknown : ∀ q content, d.files q = some content → Known cfg d log q content)
    (h : Reached cfg log request.method request.path handler) (q : List Name)
    (content : List UInt8)
    (hq : (handler.getD notFound request d).2.files q = some content) :
    Known cfg (handler.getD notFound request d).2
      (log ++ [.answered p request d (handler.getD notFound request d).1
        (handler.getD notFound request d).2]) q content := by
  have hold : ∀ e : Disk, e.others = d.others → d.files q = some content → ∀ x,
      Known cfg e (log ++ [x]) q content := fun e hothers hfile x =>
    (hknown q content hfile).mono (fun y hy => hothers ▸ hy)
      fun y hy => List.mem_append_left _ hy
  cases h with
  | upload hpost hpath =>
    obtain ⟨-, hothers, hfiles⟩ := upload_spec cfg p d hpost hpath
    rcases hfiles q content hq with hfile | ⟨u, hstored, hwhere⟩
    · exact hold _ hothers hfile _
    · exact .inr ⟨_, List.mem_append_right _ List.mem_cons_self, u, hstored, hwhere⟩
  | download hget hpath hregistered => exact hold _ rfl hq _
  | options hoptions => exact hold _ rfl hq _
  | none hnot => exact hold _ rfl hq _

variable {w w' : Server Disk}

theorem traced_start (hd : ∀ p content, d.files p = some content → (p, content) ∈ d.others) :
    Traced cfg (.start d) where
  sound := sound_start d
  routes _ _ _ h := absurd h List.not_mem_nil
  known p content h := .inl (hd p content h)
  served _ _ _ h := absurd h.symm (List.append_ne_nil_of_right_ne_nil _ (List.cons_ne_nil _ _))

theorem traced_step {l : Routing.Label Disk} (h : Traced cfg w) (hallowed : Allowed cfg w l)
    (hs : Routing.step w l = some w') : Traced cfg w' := by
  have hsound := sound_step h.sound hs
  cases l with
  | register method path handler =>
    obtain rfl := Option.some.inj hs
    refine ⟨hsound, routes_snoc h.routes fun m p f heq => ?_, fun p content hp => ?_,
      served_snoc h.served trivial⟩
    · cases heq
      exact hallowed
    · exact (h.known p content hp).mono (fun _ => id) fun _ => List.mem_append_left _
  | outside e =>
    obtain rfl := Option.some.inj hs
    refine ⟨hsound, h.routes, fun p content hp => ?_, h.served⟩
    rcases hallowed.files p content hp with hp | hp
    · exact (h.known p content hp).mono hallowed.others fun _ => id
    · exact .inl hp
  | connection l =>
    obtain ⟨g, hg, hs⟩ := Option.bind_eq_some_iff.1 hs
    cases l with
    | complete c =>
      obtain ⟨p, hp, hs⟩ := Option.bind_eq_some_iff.1 hs
      obtain ⟨request, hrequest, heq⟩ := Option.map_eq_some_iff.1 hs
      obtain rfl := heq
      obtain ⟨-, hmethod, handler, hchosen, hanswer⟩ := h.sound.answer hp hrequest
      have hreached := chosen_reached h.routes hchosen
      dsimp only at hsound ⊢
      obtain ⟨hresponse, hstate⟩ := Prod.mk.inj hanswer
      rw [hresponse, hstate] at hsound ⊢
      exact ⟨hsound, routes_snoc h.routes (fun _ _ _ heq => by cases heq),
        reached_known h.known hreached,
        served_snoc h.served (reached_served h.known hreached hmethod)⟩
    | accept c head =>
      simp only [Server.respond] at hs
      split at hs
      next =>
        obtain rfl := Option.some.inj hs
        refine ⟨hsound, routes_snoc h.routes (fun _ _ _ heq => by cases heq),
          fun q content hq => ?_, served_snoc h.served trivial⟩
        exact (h.known q content hq).mono (fun _ => id) fun _ => List.mem_append_left _
      next =>
        obtain rfl := Option.some.inj hs
        exact ⟨hsound, h.routes, h.known, h.served⟩
    | upload c data =>
      obtain rfl := Option.some.inj hs
      exact ⟨hsound, h.routes, h.known, h.served⟩
    | abort c =>
      obtain rfl := Option.some.inj hs
      exact ⟨hsound, h.routes, h.known, h.served⟩

/-- In every run in which no parsing throws: the gateway changes files for uploads with a token
    only, and a download is answered with 200 exactly if a file has its name, with the bytes of
    such a file, which come from an upload before or from outside. -/
theorem downloads_served {ls : List (Routing.Label Disk)}
    (hd : ∀ p content, d.files p = some content → (p, content) ∈ d.others)
    (h : Run Routing.step (Allowed cfg) (.start d) ls w) :
    ∀ before e after, w.log = before ++ e :: after → Served cfg before e :=
  (h.invariant (traced_start hd) fun _ _ _ ht hallowed hs => traced_step ht hallowed hs).served

end

/-! ## A picture that was there before -/

def catConfig : Config := ⟨firstOfJanuary, 100, "media".toList, fun _ => hostFiles⟩

def catFiles : Files := Function.update (fun _ => none) ["cat.png".toList] (some [2])

def catDisk : Disk where
  files := catFiles
  others := [(["cat.png".toList], [2])]
  time := 1704067200
  now := 1704067200000000000
  fileId := some 1

def uploadHead : Head := ⟨"POST", "/api/upload", none,
  [("Authorization", "Bearer 7:t"), ("Content-Type", "multipart/form-data; boundary=b")]⟩

/-- The picture is downloaded, and another one uploaded. -/
def catRun : List (Routing.Label Disk) := [
  .register "POST" "/api/upload" (upload catConfig), .register "GET" "/media" (download catConfig),
  .connection (.accept 1 ⟨"GET", "/media/1/cat.png", none, []⟩), .connection (.complete 1),
  .connection (.accept 2 uploadHead),
  .connection (.upload 2 (namedBody (Text.toBytes "ab"))), .connection (.complete 2)]

theorem catDisk_known (p : List Name) (content : List UInt8)
    (h : catFiles p = some content) : (p, content) ∈ catDisk.others := by
  unfold catFiles at h
  by_cases hp : p = ["cat.png".toList]
  · subst hp
    rw [Function.update_self] at h
    obtain rfl := Option.some.inj h
    exact List.mem_cons_self
  · rw [Function.update_of_ne hp] at h
    exact absurd h.symm (Option.some_ne_none content)

/-- A directory with one file -/
theorem shows_file {fs : FileSystem} {dir : List Char} {m : List Name} {name : Name}
    {data : List UInt8} (hm : fs.resolve dir = some m)
    (hnode : fs.node? m = some (.directory (.cons name (.file data) .nil))) :
    Shows fs dir (Function.update (fun _ => none) [name] (some data)) := by
  refine ⟨m, _, hm, hnode, fun p content => ?_, fun p => ?_⟩
  · rw [Function.update_apply]
    rcases p with _ | ⟨n₁, _ | ⟨n₂, rest⟩⟩
    all_goals simp only [at?_cons, at?_nil, at?_file, at?_here]
    all_goals grind
  · rcases p with _ | ⟨n₁, _ | ⟨n₂, rest⟩⟩
    all_goals simp only [at?_cons, at?_nil, at?_file, at?_here]
    all_goals grind

theorem downloads_served_cat :
    ∃ w, Run Routing.step (Allowed catConfig) (.start catDisk) catRun w ∧
      ∃ before p request response after,
        w.log = before ++ .answered p request catDisk response catDisk :: after ∧
        response.statusCode = 200 ∧ response.body = [2] ∧
        ∃ q, Known catConfig catDisk before q response.body := by
  have hrun : Run Routing.step (Allowed catConfig) (.start catDisk) catRun _ :=
    .cons (List.mem_cons_self) rfl (.cons (List.mem_cons_of_mem _ List.mem_cons_self) rfl
      (.cons trivial rfl (.cons (fun _ h => by
        obtain rfl := Option.some.inj h
        exact fun hpost => absurd hpost (by decide)) rfl
      (.cons trivial rfl (.cons trivial rfl (.cons (fun _ h => by
        obtain rfl := Option.some.inj h
        exact fun _ _ => ⟨_, rfl⟩) rfl .nil))))))
  have hserved := downloads_served catDisk_known hrun [_, _] (.answered _ _ _ _ _) [_] rfl
  have hok : (handleDownload hostFiles "media".toList "/media/1/cat.png".toList).statusCode = 200 ∧
      (handleDownload hostFiles "media".toList "/media/1/cat.png".toList).body = [2] := by
    decide +kernel
  have hshows := shows_file hostMedia_resolves.1 hostMedia_resolves.2
  obtain ⟨q, -, -, hknown⟩ := ((hserved.2 rfl).2 hshows).2 hok.1
  exact ⟨_, hrun, [_, _], _, _, _, [_], rfl, hok.1, hok.2, q, hknown⟩

end ChatApp.Http.Service

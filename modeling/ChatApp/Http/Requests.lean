/-
  `HttpGateway::handle_request`, the callback of libmicrohttpd, and the map `connections_` from the
  address of a connection to the request that is put together there. libmicrohttpd calls it once
  when the head of a request has arrived (`*con_cls` is null), once for each piece of the body and
  once at the end. The client or a timeout can end a request before its end; no callback for that is
  registered, so the entry stays. An address is free again when its request has ended.
-/
import Mathlib.Data.List.Basic
import Mathlib.Data.List.Induction
import Mathlib.Logic.Function.Basic
import ChatApp.Lib.Run

namespace ChatApp.Http

open ChatApp.Lib

/-! ## Requests -/

structure HttpRequest where
  method : String
  path : String
  query : String
  headers : String → Option String
  body : List UInt8
  contentType : String
  authorization : String

def HttpRequest.empty : HttpRequest := ⟨"", "", "", fun _ => none, [], "", ""⟩

/-- The head of a request as its client sent it. -/
structure Head where
  method : String
  path : String
  query : Option String
  headers : List (String × String)

/-- `strcasecmp(a, b) == 0` -/
def strcasecmp (a b : String) : Bool := a.toList.map Char.toLower == b.toList.map Char.toLower

/-- The callback of `MHD_get_connection_values`. -/
def addHeader (request : HttpRequest) (header : String × String) : HttpRequest where
  method := request.method
  path := request.path
  query := request.query
  headers := Function.update request.headers header.1 (some header.2)
  body := request.body
  contentType := if strcasecmp header.1 "Content-Type" then header.2 else request.contentType
  authorization := if strcasecmp header.1 "Authorization" then header.2 else request.authorization

/-- The first call fills in the entry of the map, which `operator[]` makes if there is none. -/
def firstCall (entry : Option HttpRequest) (head : Head) : HttpRequest :=
  let request := entry.getD .empty
  head.headers.foldl addHeader { request with
    method := head.method
    path := head.path
    query := head.query.getD request.query }

/-! ## What the headers leave of an entry -/

/-- The value of the last header whose name has the property `p`. -/
def lastValue (p : String → Bool) (headers : List (String × String)) : Option String :=
  (headers.reverse.find? fun h => p h.1).map (·.2)

theorem lastValue_snoc (p : String → Bool) (hs : List (String × String)) (h : String × String) :
    lastValue p (hs ++ [h]) = if p h.1 then some h.2 else lastValue p hs := by
  rw [lastValue, List.reverse_append, List.reverse_singleton, List.singleton_append,
    List.find?_cons]
  split <;> simp_all [lastValue]

theorem lastValue_eq_none {p : String → Bool} {hs : List (String × String)} :
    lastValue p hs = none ↔ ∀ h ∈ hs, ¬ p h.1 := by
  simp [lastValue]

theorem foldl_addHeader (request : HttpRequest) (hs : List (String × String)) :
    hs.foldl addHeader request = { request with
      headers := fun key => (lastValue (· == key) hs).or (request.headers key)
      contentType := (lastValue (strcasecmp · "Content-Type") hs).getD request.contentType
      authorization := (lastValue (strcasecmp · "Authorization") hs).getD
        request.authorization } := by
  induction hs using List.reverseRecOn with
  | nil => rfl
  | append_singleton hs h ih =>
    rw [List.foldl_append, ih, List.foldl_cons, List.foldl_nil, addHeader]
    simp only [lastValue_snoc, HttpRequest.mk.injEq, true_and]
    refine ⟨funext fun key => ?_, ?_, ?_⟩
    · by_cases hkey : h.1 = key
      · subst hkey
        simp
      · rw [Function.update_of_ne (Ne.symm hkey)]
        simp [hkey]
    · split <;> rfl
    · split <;> rfl

/-- An entry that a request with this head covers completely. -/
structure Harmless (old : HttpRequest) (head : Head) : Prop where
  body : old.body = []
  query : head.query = none → old.query = ""
  headers : ∀ key, (∀ h ∈ head.headers, h.1 ≠ key) → old.headers key = none
  contentType : (∀ h ∈ head.headers, ¬ strcasecmp h.1 "Content-Type") → old.contentType = ""
  authorization : (∀ h ∈ head.headers, ¬ strcasecmp h.1 "Authorization") → old.authorization = ""

/-- The request after the head and the bytes `body`, put together in an entry. -/
def received (entry : Option HttpRequest) (head : Head) (body : List UInt8) : HttpRequest :=
  { firstCall entry head with body := (entry.getD .empty).body ++ body }

/-- The request that the client sent. -/
def sent (head : Head) (body : List UInt8) : HttpRequest := received none head body

theorem firstCall_body (entry : Option HttpRequest) (head : Head) :
    (firstCall entry head).body = (entry.getD .empty).body := by
  rw [firstCall, foldl_addHeader]

/-- A default is used exactly if there is nothing in its place. -/
theorem getD_eq_getD {o : Option String} {a b : String} :
    o.getD a = o.getD b ↔ (o = none → a = b) := by
  cases o <;> simp

theorem or_eq_self {o a : Option String} : o.or a = o ↔ (o = none → a = none) := by
  cases o <;> simp

theorem received_eq_sent {old : HttpRequest} {head : Head} {body : List UInt8} :
    received (some old) head body = sent head body ↔ Harmless old head := by
  simp only [received, sent, firstCall, foldl_addHeader, HttpRequest.mk.injEq, true_and,
    Option.getD_some, Option.getD_none, HttpRequest.empty, Option.or_none, List.nil_append,
    List.append_left_eq_self, getD_eq_getD, funext_iff, or_eq_self, lastValue_eq_none]
  constructor
  · rintro ⟨hquery, hheaders, hbody, htype, hauthorization⟩
    exact ⟨hbody, hquery, fun key h => hheaders key (by simpa using h), htype, hauthorization⟩
  · rintro ⟨hbody, hquery, hheaders, htype, hauthorization⟩
    exact ⟨hquery, fun key h => hheaders key (by simpa using h), hbody, htype, hauthorization⟩

/-! ## Runs -/

/-- A request that has begun: what its client sent so far, and the entry that was there. -/
structure Pending where
  head : Head
  body : List UInt8
  found : Option HttpRequest

def Pending.request (p : Pending) : HttpRequest := received p.found p.head p.body

/-- A call of `route_request`, with the request that it belongs to. -/
structure Routed where
  pending : Pending
  request : HttpRequest

/-- Connections by their addresses. -/
structure Gateway where
  connections : Nat → Option HttpRequest
  pending : Nat → Option Pending
  routed : List Routed

def Gateway.start : Gateway := ⟨fun _ => none, fun _ => none, []⟩

inductive Label
  /-- the first call -/
  | accept (connection : Nat) (head : Head)
  | upload (connection : Nat) (data : List UInt8)
  /-- the last call -/
  | complete (connection : Nat)
  | abort (connection : Nat)

def step (g : Gateway) : Label → Option Gateway
  | .accept c head =>
    if (g.pending c).isSome then none
    else if head.method = "OPTIONS" then some g
    else some { g with
      connections := Function.update g.connections c (some (firstCall (g.connections c) head))
      pending := Function.update g.pending c (some ⟨head, [], g.connections c⟩) }
  | .upload c data =>
    (g.pending c).bind fun p => (g.connections c).bind fun request =>
      if data.isEmpty then none
      else some { g with
        connections :=
          Function.update g.connections c (some { request with body := request.body ++ data })
        pending := Function.update g.pending c (some { p with body := p.body ++ data }) }
  | .complete c =>
    (g.pending c).bind fun p => (g.connections c).bind fun request => some {
      connections := Function.update g.connections c none
      pending := Function.update g.pending c none
      routed := g.routed ++ [⟨p, request⟩] }
  | .abort c =>
    (g.pending c).bind fun _ => some { g with pending := Function.update g.pending c none }

/-- A pending request is what its client sent, over the entry that it found. -/
structure Kept (g : Gateway) : Prop where
  pending : ∀ c p, g.pending c = some p → g.connections c = some p.request
  routed : ∀ r ∈ g.routed, r.request = r.pending.request

section
variable {g g' : Gateway} {c : Nat} {ls : List Label}

theorem kept_start : Kept .start :=
  ⟨fun _ _ h => absurd h (by simp [Gateway.start]), fun _ h => absurd h List.not_mem_nil⟩

/-- An update of both maps at one connection. -/
theorem pending_update {p : Option Pending} {request : Option HttpRequest} (hk : Kept g)
    (h : ∀ q, p = some q → request = some q.request) (d : Nat) (q : Pending)
    (hq : Function.update g.pending c p d = some q) :
    Function.update g.connections c request d = some q.request := by
  by_cases hd : d = c
  · subst hd
    rw [Function.update_self] at hq ⊢
    exact h q hq
  · rw [Function.update_of_ne hd] at hq ⊢
    exact hk.pending d q hq

theorem kept_accept {head : Head} (hk : Kept g) (h : step g (.accept c head) = some g') :
    Kept g' := by
  simp only [step] at h
  split at h
  · exact absurd h nofun
  split at h
  · exact Option.some.inj h ▸ hk
  · obtain rfl := Option.some.inj h
    refine ⟨pending_update hk fun q hq => ?_, hk.routed⟩
    obtain rfl := Option.some.inj hq
    refine congrArg some ?_
    rw [Pending.request, received, List.append_nil, ← firstCall_body]

theorem kept_upload {data : List UInt8} (hk : Kept g) (h : step g (.upload c data) = some g') :
    Kept g' := by
  obtain ⟨p, hp, h⟩ := Option.bind_eq_some_iff.1 h
  obtain ⟨request, hrequest, h⟩ := Option.bind_eq_some_iff.1 h
  obtain ⟨-, hg⟩ := Option.ite_none_left_eq_some.1 h
  obtain rfl := Option.some.inj hg
  refine ⟨pending_update hk fun q hq => ?_, hk.routed⟩
  obtain rfl := Option.some.inj hq
  obtain rfl : p.request = request := Option.some.inj ((hk.pending c p hp).symm.trans hrequest)
  refine congrArg some ?_
  rw [Pending.request, Pending.request, received, received, List.append_assoc]

theorem kept_complete (hk : Kept g) (h : step g (.complete c) = some g') : Kept g' := by
  obtain ⟨p, hp, h⟩ := Option.bind_eq_some_iff.1 h
  obtain ⟨request, hrequest, h⟩ := Option.bind_eq_some_iff.1 h
  obtain rfl := Option.some.inj h
  refine ⟨pending_update hk fun q hq => absurd hq.symm (Option.some_ne_none q), fun r hr => ?_⟩
  rcases List.mem_append.1 hr with hr | hr
  · exact hk.routed r hr
  · obtain rfl := List.mem_singleton.1 hr
    exact Option.some.inj (hrequest.symm.trans (hk.pending c p hp))

theorem kept_abort (hk : Kept g) (h : step g (.abort c) = some g') : Kept g' := by
  obtain ⟨p, -, h⟩ := Option.bind_eq_some_iff.1 h
  obtain rfl := Option.some.inj h
  refine ⟨fun d q hq => ?_, hk.routed⟩
  dsimp only at hq
  by_cases hd : d = c
  · subst hd
    rw [Function.update_self] at hq
    exact absurd hq.symm (Option.some_ne_none q)
  · rw [Function.update_of_ne hd] at hq
    exact hk.pending d q hq

theorem kept_run (h : Run step anyStep .start ls g) : Kept g := by
  refine h.invariant kept_start fun g l g' hk _ hs => ?_
  cases l with
  | accept c head => exact kept_accept hk hs
  | upload c data => exact kept_upload hk hs
  | complete c => exact kept_complete hk hs
  | abort c => exact kept_abort hk hs

/-- What is routed is the request as it was sent, exactly if an entry that was there when it
    began, left by a request that was aborted, is covered by its head. -/
theorem routed_eq_sent (h : Run step anyStep .start ls g) :
    ∀ r ∈ g.routed, r.request = sent r.pending.head r.pending.body ↔
      ∀ old, r.pending.found = some old → Harmless old r.pending.head := by
  intro r hr
  rw [(kept_run h).routed r hr, Pending.request]
  cases hfound : r.pending.found with
  | none => exact ⟨fun _ _ h => absurd h nofun, fun _ => rfl⟩
  | some old =>
    rw [received_eq_sent]
    exact ⟨fun ho _ heq => Option.some.inj heq ▸ ho, fun ho => ho old rfl⟩

end

/-! ## An aborted upload -/

def aliceUpload : Head :=
  ⟨"POST", "/api/upload", none, [("Authorization", "alice"), ("Content-Type", "text/plain")]⟩

def malloryUpload : Head := ⟨"POST", "/api/upload", none, []⟩

theorem routed_eq_sent_twoRequests :
    ∃ g, Run step anyStep .start
        [.accept 1 aliceUpload, .upload 1 [1], .complete 1, .accept 1 malloryUpload,
          .upload 1 [2], .complete 1] g ∧
      (∀ r ∈ g.routed, r.request = sent r.pending.head r.pending.body ↔
        ∀ old, r.pending.found = some old → Harmless old r.pending.head) ∧
      g.routed.length = 2 := by
  have hrun : Run step anyStep .start
      [.accept 1 aliceUpload, .upload 1 [1], .complete 1, .accept 1 malloryUpload,
        .upload 1 [2], .complete 1] _ := exec_run rfl
  exact ⟨_, hrun, routed_eq_sent hrun, rfl⟩

/-- The request of another client inherits the header and the bytes of an aborted one. -/
theorem aborted_inherited :
    ∃ g, Run step anyStep .start
        [.accept 1 aliceUpload, .upload 1 [1], .abort 1, .accept 1 malloryUpload,
          .upload 1 [2], .complete 1] g ∧
      ∃ r ∈ g.routed, r.pending.head = malloryUpload ∧ r.pending.body = [2] ∧
        r.request.authorization = "alice" ∧ r.request.body = [1, 2] ∧
        r.request ≠ sent r.pending.head r.pending.body := by
  refine ⟨_, exec_run rfl, _, List.mem_cons_self, rfl, rfl, by decide, rfl, ?_⟩
  intro heq
  exact absurd (congrArg HttpRequest.body heq) (by decide)

end ChatApp.Http

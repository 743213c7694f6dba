/-
  `HttpGateway::register_route` and `route_request`, and what each request of a whole run is answered
  with. `routes_mutex_` is held while a handler runs, so that a request is answered in one step.
  A handler returns, and may change what it works on: files and the database, here a state of any
  type, which the rest of the program changes as well.

  `Chosen` says which handler is meant, in terms of the calls of `register_route` alone: the one
  registered last for the path, or else the one registered last for the shortest path that the
  request's path begins with. The daemon runs before the default routes are registered, and other
  routes may be registered at any time.
-/
import ChatApp.Http.Requests
import ChatApp.Lib.Lists
import ChatApp.Lib.PrefixMap
import ChatApp.Media.Downloads

namespace ChatApp.Http.Routing

open ChatApp.Lib ChatApp.Media

variable {σ : Type}

/-! ## Routes -/

abbrev RouteHandler (σ : Type) := HttpRequest → σ → HttpResponse × σ

/-- `routes_` -/
abbrev Routes (σ : Type) := SortedMap String (SortedMap String (RouteHandler σ))

def registerRoute (routes : Routes σ) (method path : String) (handler : RouteHandler σ) :
    Routes σ :=
  routes.insert method (((routes.get? method).getD .empty).insert path handler)

def notFound : RouteHandler σ := fun _ s => (.error 404 "Not Found", s)

/-- The handler that `route_request` calls -/
def findHandler (routes : Routes σ) (method path : String) : Option (RouteHandler σ) :=
  (routes.get? method).bind fun paths =>
    match paths.get? path with
    | some handler => some handler
    | none => (paths.firstBeginning path).map (·.2)

def routeRequest (routes : Routes σ) (request : HttpRequest) (s : σ) : HttpResponse × σ :=
  (findHandler routes request.method request.path).getD notFound request s

/-- The answer to a request with the method OPTIONS -/
def preflight : HttpResponse := ⟨200, "", [], [
  ("Access-Control-Allow-Origin", "*"), ("Access-Control-Allow-Methods", "GET, POST, OPTIONS"),
  ("Access-Control-Allow-Headers", "Content-Type, Authorization"),
  ("Access-Control-Max-Age", "86400")]⟩

/-! ## Runs -/

inductive Event (σ : Type)
  | registered (method path : String) (handler : RouteHandler σ)
  | preflighted (head : Head) (response : HttpResponse)
  /-- with the state before and after -/
  | answered (pending : Pending) (request : HttpRequest) (before : σ) (response : HttpResponse)
      (after : σ)

structure Server (σ : Type) where
  gateway : Gateway
  routes : Routes σ
  state : σ
  log : List (Event σ)

def Server.start (s : σ) : Server σ := ⟨.start, .empty, s, []⟩

inductive Label (σ : Type)
  | register (method path : String) (handler : RouteHandler σ)
  | connection (l : Http.Label)
  /-- The rest of the program changes the state. -/
  | outside (s : σ)

/-- What a step of a connection adds: the answer to a request that is complete, or to OPTIONS. -/
def Server.respond (w : Server σ) (g : Gateway) : Http.Label → Option (Server σ)
  | .complete c =>
    (w.gateway.pending c).bind fun p => (w.gateway.connections c).map fun request =>
      let (response, s) := routeRequest w.routes request w.state
      ⟨g, w.routes, s, w.log ++ [.answered p request w.state response s]⟩
  | .accept _ head =>
    if head.method = "OPTIONS" then
      some { w with gateway := g, log := w.log ++ [.preflighted head preflight] }
    else some { w with gateway := g }
  | _ => some { w with gateway := g }

def step (w : Server σ) : Label σ → Option (Server σ)
  | .register method path handler => some { w with
      routes := registerRoute w.routes method path handler
      log := w.log ++ [.registered method path handler] }
  | .connection l => (Http.step w.gateway l).bind fun g => w.respond g l
  | .outside s => some { w with state := s }

/-! ## Which handler is meant -/

/-- The handler that was registered last for a path -/
def latest (log : List (Event σ)) (method path : String) : Option (RouteHandler σ) :=
  log.foldl (fun last e => match e with
    | .registered m p handler => if method = m ∧ path = p then some handler else last
    | _ => last) none

inductive Chosen (log : List (Event σ)) (method path : String) : Option (RouteHandler σ) → Prop
  | exact {handler : RouteHandler σ} : latest log method path = some handler →
      Chosen log method path (some handler)
  | shortest {handler : RouteHandler σ} {p : String} : latest log method path = none →
      latest log method p = some handler → p.toList <+: path.toList →
      (∀ q, latest log method q ≠ none → q.toList <+: path.toList → p.length ≤ q.length) →
      Chosen log method path (some handler)
  | none : (∀ q, q.toList <+: path.toList → latest log method q = none) →
      Chosen log method path none

/-- An answer is that of the handler that is meant, to the request as it was received; and OPTIONS
    comes to no handler. -/
def Event.Right (log : List (Event σ)) : Event σ → Prop
  | .answered p request before response after => request = p.request ∧
      request.method ≠ "OPTIONS" ∧ ∃ handler, Chosen log request.method request.path handler ∧
        (response, after) = handler.getD notFound request before
  | .preflighted head response => head.method = "OPTIONS" ∧ response = preflight
  | .registered .. => True

/-! ## The routes are the last registrations -/

/-- The routes have what was registered last. -/
def Registered (routes : Routes σ) (log : List (Event σ)) : Prop :=
  ∀ method path, (routes.get? method).bind (·.get? path) = latest log method path

section
variable {w w' : Server σ} {routes : Routes σ} {log : List (Event σ)} {e : Event σ}
  {method path : String} {handler : RouteHandler σ}

theorem latest_snoc (log : List (Event σ)) (e : Event σ) (method path : String) :
    latest (log ++ [e]) method path =
      match e with
      | .registered m p handler =>
        if method = m ∧ path = p then some handler else latest log method path
      | _ => latest log method path := by
  unfold latest
  rw [List.foldl_append]
  rfl

theorem get?_insert {ν : Type} (m : SortedMap String ν) (k k' : String) (v : ν) :
    (m.insert k v).get? k' = if k' = k then some v else m.get? k' := by
  refine Option.ext fun v' => ?_
  rw [SortedMap.get?_insert_eq_some]
  by_cases hk : k' = k
  · rw [if_pos hk, Option.some_inj]
    exact ⟨fun h => h.elim (·.2.symm) fun h => absurd hk h.1, fun h => .inl ⟨hk, h.symm⟩⟩
  · rw [if_neg hk]
    exact ⟨fun h => h.elim (fun h => absurd h.1 hk) (·.2), fun h => .inr ⟨hk, h⟩⟩

theorem registered_registerRoute (h : Registered routes log) :
    Registered (registerRoute routes method path handler)
      (log ++ [.registered method path handler]) := by
  intro m p
  have hmp := h m p
  unfold registerRoute
  rw [latest_snoc, get?_insert]
  dsimp only
  by_cases hm : m = method
  · subst hm
    rw [if_pos rfl, Option.bind_some, get?_insert]
    by_cases hp : p = path
    · rw [if_pos hp, if_pos ⟨rfl, hp⟩]
    · rw [if_neg hp, if_neg fun hboth => hp hboth.2, ← hmp]
      cases routes.get? m with
      | none => rfl
      | some paths => rfl
  · rw [if_neg hm, if_neg fun hboth => hm hboth.1, hmp]

/-- Nothing else changes what was registered last. -/
theorem Registered.other (h : Registered routes log)
    (he : ∀ m p f, e ≠ .registered m p f) : Registered routes (log ++ [e]) := by
  intro m p
  rw [h m p, latest_snoc]
  cases e with
  | registered m p f => exact absurd rfl (he m p f)
  | preflighted head response => rfl
  | answered pending request before response after => rfl

/-- What `route_request` finds in the maps is what is meant. -/
theorem chosen_findHandler (h : Registered routes log) :
    Chosen log method path (findHandler routes method path) := by
  have hall := h method
  unfold findHandler
  cases hroutes : routes.get? method with
  | none =>
    rw [hroutes] at hall
    exact .none fun q _ => (hall q).symm
  | some paths =>
    rw [hroutes] at hall
    have hlatest : ∀ q, paths.get? q = latest log method q := fun q => hall q
    rw [Option.bind_some]
    cases hexact : paths.get? path with
    | some handler => exact .exact ((hlatest path).symm.trans hexact)
    | none =>
      have hnone : latest log method path = none := (hlatest path).symm.trans hexact
      dsimp only
      cases hfirst : paths.firstBeginning path with
      | none =>
        refine .none fun q hq => ?_
        cases hget : paths.get? q with
        | none => exact (hlatest q).symm.trans hget
        | some v => exact absurd hq (SortedMap.firstBeginning_eq_none.1 hfirst q v hget)
      | some e =>
        obtain ⟨hget, hbegins, hleast⟩ := SortedMap.firstBeginning_eq_some hfirst
        refine .shortest hnone ((hlatest e.1).symm.trans hget) hbegins fun q hq hqpath => ?_
        obtain ⟨v, hv⟩ := Option.ne_none_iff_exists'.1 hq
        exact hleast q v ((hlatest q).trans hv) hqpath

/-! ## Connections -/

/-- No request with the method OPTIONS is put together. -/
def NoOptions (g : Gateway) : Prop :=
  ∀ c p, g.pending c = some p → p.head.method ≠ "OPTIONS"

theorem request_method (p : Pending) : p.request.method = p.head.method := by
  unfold Pending.request received firstCall
  rw [foldl_addHeader]

theorem noOptions_update {g : Gateway} {c : Nat} {p : Option Pending} (h : NoOptions g)
    (hp : ∀ q, p = some q → q.head.method ≠ "OPTIONS") (d : Nat) (q : Pending)
    (hq : Function.update g.pending c p d = some q) : q.head.method ≠ "OPTIONS" := by
  by_cases hd : d = c
  · subst hd
    rw [Function.update_self] at hq
    exact hp q hq
  · rw [Function.update_of_ne hd] at hq
    exact h d q hq

theorem noOptions_step {g g' : Gateway} {l : Http.Label} (h : NoOptions g)
    (hs : Http.step g l = some g') : NoOptions g' := by
  cases l with
  | accept c head =>
    simp only [Http.step] at hs
    split at hs
    · exact absurd hs.symm (Option.some_ne_none g')
    split at hs
    · exact Option.some.inj hs ▸ h
    next hmethod =>
      obtain rfl := Option.some.inj hs
      refine noOptions_update h fun q hq => ?_
      obtain rfl := Option.some.inj hq
      exact hmethod
  | upload c data =>
    obtain ⟨p, hp, hs⟩ := Option.bind_eq_some_iff.1 hs
    obtain ⟨request, -, hs⟩ := Option.bind_eq_some_iff.1 hs
    obtain ⟨-, hg⟩ := Option.ite_none_left_eq_some.1 hs
    obtain rfl := Option.some.inj hg
    refine noOptions_update h fun q hq => ?_
    obtain rfl := Option.some.inj hq
    exact h c p hp
  | complete c =>
    obtain ⟨p, -, hs⟩ := Option.bind_eq_some_iff.1 hs
    obtain ⟨request, -, hs⟩ := Option.bind_eq_some_iff.1 hs
    obtain rfl := Option.some.inj hs
    exact noOptions_update h fun q hq => absurd hq.symm (Option.some_ne_none q)
  | abort c =>
    obtain ⟨p, -, hs⟩ := Option.bind_eq_some_iff.1 hs
    obtain rfl := Option.some.inj hs
    exact noOptions_update h fun q hq => absurd hq.symm (Option.some_ne_none q)

theorem kept_step {g g' : Gateway} {l : Http.Label} (h : Kept g) (hs : Http.step g l = some g') :
    Kept g' := by
  cases l with
  | accept c head => exact kept_accept h hs
  | upload c data => exact kept_upload h hs
  | complete c => exact kept_complete h hs
  | abort c => exact kept_abort h hs

/-! ## Answers -/

structure Sound (w : Server σ) : Prop where
  kept : Kept w.gateway
  noOptions : NoOptions w.gateway
  registered : Registered w.routes w.log
  right : ∀ before e after, w.log = before ++ e :: after → e.Right before

theorem right_snoc (h : ∀ before e after, log = before ++ e :: after → e.Right before)
    (he : e.Right log) (before : List (Event σ)) (e' : Event σ) (after : List (Event σ))
    (heq : log ++ [e] = before ++ e' :: after) : e'.Right before := by
  rcases snoc_eq_append_cons.1 heq with ⟨rfl, rfl, -⟩ | ⟨rest, -, hlog⟩
  · exact he
  · exact h before e' rest hlog

theorem sound_start (s : σ) : Sound (.start s) where
  kept := kept_start
  noOptions _ p hp := absurd hp.symm (Option.some_ne_none p)
  registered _ _ := rfl
  right _ _ _ h :=
    absurd h.symm (List.append_ne_nil_of_right_ne_nil _ (List.cons_ne_nil _ _))

/-- A request that is complete is answered by the handler that is meant. -/
theorem Sound.answer {c : Nat} {p : Pending} {request : HttpRequest} (h : Sound w)
    (hp : w.gateway.pending c = some p) (hrequest : w.gateway.connections c = some request) :
    (Event.answered p request w.state (routeRequest w.routes request w.state).1
      (routeRequest w.routes request w.state).2).Right w.log := by
  obtain rfl : p.request = request :=
    Option.some.inj ((h.kept.pending c p hp).symm.trans hrequest)
  refine ⟨rfl, ?_, _, chosen_findHandler h.registered, rfl⟩
  rw [request_method]
  exact h.noOptions c p hp

theorem sound_respond {g : Gateway} {l : Http.Label} (h : Sound w)
    (hg : Http.step w.gateway l = some g) (hs : w.respond g l = some w') : Sound w' := by
  have hkept := kept_step h.kept hg
  have hmethods := noOptions_step h.noOptions hg
  cases l with
  | accept c head =>
    simp only [Server.respond] at hs
    split at hs
    next hmethod =>
      obtain rfl := Option.some.inj hs
      exact ⟨hkept, hmethods, h.registered.other (fun _ _ _ heq => by cases heq),
        right_snoc h.right ⟨hmethod, rfl⟩⟩
    next =>
      obtain rfl := Option.some.inj hs
      exact ⟨hkept, hmethods, h.registered, h.right⟩
  | complete c =>
    obtain ⟨p, hp, hs⟩ := Option.bind_eq_some_iff.1 hs
    obtain ⟨request, hrequest, heq⟩ := Option.map_eq_some_iff.1 hs
    obtain rfl := heq
    exact ⟨hkept, hmethods, h.registered.other (fun _ _ _ heq => by cases heq),
      right_snoc h.right (h.answer hp hrequest)⟩
  | upload c data =>
    obtain rfl := Option.some.inj hs
    exact ⟨hkept, hmethods, h.registered, h.right⟩
  | abort c =>
    obtain rfl := Option.some.inj hs
    exact ⟨hkept, hmethods, h.registered, h.right⟩

theorem sound_step {l : Label σ} (h : Sound w) (hs : step w l = some w') : Sound w' := by
  cases l with
  | register method path handler =>
    obtain rfl := Option.some.inj hs
    exact ⟨h.kept, h.noOptions, registered_registerRoute h.registered,
      right_snoc h.right trivial⟩
  | connection l =>
    obtain ⟨g, hg, hs⟩ := Option.bind_eq_some_iff.1 hs
    exact sound_respond h hg hs
  | outside s =>
    obtain rfl := Option.some.inj hs
    exact ⟨h.kept, h.noOptions, h.registered, h.right⟩

end

/-- It counts its calls. -/
def counting (body : String) : RouteHandler Nat := fun _ n => (.json 200 body, n + 1)

def getCat : Head := ⟨"GET", "/media/7/cat", none, []⟩

def twoRoutes : List (Label Nat) := [
  .register "GET" "/media/7" (counting "7"), .register "GET" "/media" (counting "all"),
  .connection (.accept 1 getCat), .connection (.complete 1)]

end ChatApp.Http.Routing

/-
  The access tokens of `FcmManager`: what is sent for one, and their use over whole runs. `granted` is the last access token that an
  answer gave, and when it expires; the cache holds just this (`Cached`). So a notification goes out
  with a token that is good for more than a minute, or that has been answered in the same call, and
  a new token is asked for only when the old one is not.

  `expires_in` of a token that is answered has to be a number: else the cache takes the token without
  its expiry.
-/
import ChatApp.Lib.Lists
import ChatApp.Push.FcmManager

namespace ChatApp.Push.Fcm

open ChatApp.Lib ChatApp.Lib.JsonText ChatApp.Protocol

/-! ## The assertion -/

/-- A request for a token carries an assertion that the endpoint reads as it has to: the claims of the
    account and of the moment, whatever texts the account has, and over what the signature is
    checked against the signature with the key of the account. -/
theorem tokenRequests_read (m : Manager) (o : Outside) :
    ∀ r ∈ (m.getAccessToken o).2.2, ∃ body t,
      r = .token o.now m.account.tokenUri body o.token ∧ readAssertion body = some t ∧
      t.header.member? "alg" = some (.string "RS256".toList) ∧
      t.claims.member? "iss" = some (.string m.account.clientEmail.toList) ∧
      t.claims.member? "aud" = some (.string m.account.tokenUri.toList) ∧
      t.claims.member? "scope" = some (.string scope.toList) ∧
      t.claims.member? "iat" = some (.number o.now 0) ∧
      t.claims.member? "exp" = some (.number (o.now + 3600) 0) ∧
      o.sign m.account.privateKey t.signed = some t.signature := by
  unfold Manager.getAccessToken
  intro r hr
  split at hr
  · exact absurd hr List.not_mem_nil
  split at hr
  · exact absurd hr List.not_mem_nil
  split at hr
  · exact absurd hr List.not_mem_nil
  next signature hsign =>
    split at hr
    · obtain rfl := List.mem_singleton.1 hr
      exact ⟨_, _, rfl, readAssertion_postData, rfl, rfl, rfl, rfl, rfl, rfl, hsign⟩
    · exact absurd hr List.not_mem_nil

/-- A token for an hour, and everything gets through. -/
def hourly (now : Int) : Outside where
  now := now
  sign _ _ := some [1, 2]
  tokenCurl := true
  notifyCurl := true
  token := .answered (.object [("access_token", .string "key"), ("expires_in", .number 3600)])
  status := some 200

/-- With a key, and without a token -/
def keyed : Manager := ⟨"chat", ⟨"chat", "pem", "uri"⟩, "", 0⟩

theorem tokenRequests_read_keyed : ∃ r ∈ (keyed.getAccessToken (hourly 1000)).2.2, ∃ body t,
    r = .token 1000 "uri" body (hourly 1000).token ∧ readAssertion body = some t ∧
    t.claims.member? "iss" = some (.string "chat".toList) := by
  obtain ⟨r, hr⟩ : ∃ r, (keyed.getAccessToken (hourly 1000)).2.2 = [r] := ⟨_, rfl⟩
  have hmem : r ∈ (keyed.getAccessToken (hourly 1000)).2.2 := hr ▸ List.mem_singleton_self r
  obtain ⟨body, t, heq, hread, -, hiss, -⟩ := tokenRequests_read keyed (hourly 1000) r hmem
  exact ⟨r, hmem, body, t, heq, hread, hiss⟩

/-! ## What is granted -/

/-- The access token in an answer, and for how long it is good. -/
def Answer.grant : Answer → Option (String × Int)
  | .answered response =>
    match response.valueString "access_token" "", response.valueInt "expires_in" 3600 with
    | .ok token, .ok expiresIn => some (token, expiresIn)
    | _, _ => none
  | _ => none

/-- The last access token that was answered, and when it expires -/
def granted : List Request → String × Int :=
  List.foldl (fun last r => match r with
    | .token now _ _ answer => (answer.grant.map fun g => (g.1, now + g.2)).getD last
    | .notify .. => last) ("", 0)

/-- A request is made as the requests before it call for. -/
def Request.Current (before : List Request) : Request → Prop
  | .token now .. => (granted before).1 = "" ∨ (granted before).2 ≤ now + 60
  | .notify now _ bearer _ => bearer = (granted before).1 ∧ bearer ≠ "" ∧
      (now + 60 < (granted before).2 ∨
        ∃ url body answer expiresIn, before.getLast? = some (.token now url body answer) ∧
          answer.grant = some (bearer, expiresIn))

/-- With a token there is a number for its expiry, or none. -/
def Answer.Regular : Answer → Prop
  | .answered response => ∀ token, response.valueString "access_token" "" = .ok token →
      ∃ expiresIn, response.valueInt "expires_in" 3600 = .ok expiresIn
  | _ => True

def Call.Regular : Call → Prop
  | .sendNotification _ o _ | .sendMessageNotification _ o .. |
    .sendGroupMessageNotification _ o .. => o.token.Regular
  | _ => True

/-! ## The cache -/

def Manager.cached (m : Manager) : String × Int := (m.cachedAccessToken, m.tokenExpiryTime)

/-- The cache has what was granted last, and each request is as it has to be. -/
structure Cached (w : World) : Prop where
  cached : w.manager.cached = granted w.sent
  current : ∀ before r after, w.sent = before ++ r :: after → r.Current before

section
variable {w : World} {m m' : Manager} {o : Outside} {rs : List Request} {r : Request}

theorem granted_snoc (rs : List Request) (r : Request) : granted (rs ++ [r]) =
    match r with
    | .token now _ _ answer => (answer.grant.map fun g => (g.1, now + g.2)).getD (granted rs)
    | .notify .. => granted rs := by
  unfold granted
  rw [List.foldl_append]
  rfl

theorem cached_start : Cached .start :=
  ⟨rfl, fun _ _ _ h => absurd h.symm (List.append_ne_nil_of_right_ne_nil _ (List.cons_ne_nil _ _))⟩

/-- One more request -/
theorem Cached.snoc {server : TokenServer} (h : Cached w) (hr : r.Current w.sent)
    (hcached : m.cached = granted (w.sent ++ [r])) : Cached ⟨m, server, w.sent ++ [r]⟩ := by
  refine ⟨hcached, fun before q after heq => ?_⟩
  rcases snoc_eq_append_cons.1 heq with ⟨rfl, rfl, -⟩ | ⟨rest, -, hsent⟩
  · exact hr
  · exact h.current before q rest hsent

/-- The answer is taken over with its expiry, or the cache stays. -/
theorem takeAnswer_cached {now : Int} {answer : Answer} (h : answer.Regular) :
    (m.takeAnswer now answer).2.cached =
      (answer.grant.map fun g => (g.1, now + g.2)).getD m.cached := by
  unfold Manager.takeAnswer Answer.grant
  cases answer with
  | failed => rfl
  | malformed => rfl
  | answered response =>
    dsimp only
    cases htoken : response.valueString "access_token" "" with
    | error e => rfl
    | ok token =>
      obtain ⟨expiresIn, hexpires⟩ := h token htoken
      rw [hexpires]
      rfl

/-- A token that comes back is one that the answer grants. -/
theorem takeAnswer_token {now : Int} {answer : Answer} (hne : (m.takeAnswer now answer).1 ≠ "") :
    ∃ expiresIn, answer.grant = some ((m.takeAnswer now answer).1, expiresIn) := by
  unfold Manager.takeAnswer at hne ⊢
  unfold Answer.grant
  cases answer with
  | failed => exact absurd rfl hne
  | malformed => exact absurd rfl hne
  | answered response =>
    dsimp only at hne ⊢
    cases htoken : response.valueString "access_token" "" with
    | error e => exact absurd (by rw [htoken]) hne
    | ok token =>
      cases hexpires : response.valueInt "expires_in" 3600 with
      | error e => exact absurd (by rw [htoken, hexpires]) hne
      | ok expiresIn => exact ⟨expiresIn, rfl⟩

/-- What a call of `get_access_token` does: the cached token, if it is good for another minute;
    nothing; or a request, whose answer is taken. -/
theorem getAccessToken_cases (m : Manager) (o : Outside) :
    (m.cachedAccessToken ≠ "" ∧ o.now + 60 < m.tokenExpiryTime ∧
      m.getAccessToken o = (m.cachedAccessToken, m, [])) ∨
    m.getAccessToken o = ("", m, []) ∨
    (m.cachedAccessToken = "" ∨ m.tokenExpiryTime ≤ o.now + 60) ∧
      ∃ body, m.getAccessToken o = ((m.takeAnswer o.now o.token).1,
        (m.takeAnswer o.now o.token).2, [.token o.now m.account.tokenUri body o.token]) := by
  unfold Manager.getAccessToken
  split
  next h =>
    rw [Bool.and_eq_true, decide_eq_true_eq, Bool.not_eq_true'] at h
    exact .inl ⟨fun heq => by rw [heq] at h; exact absurd h.1 (by decide), h.2, rfl⟩
  next h =>
    have hold : m.cachedAccessToken = "" ∨ m.tokenExpiryTime ≤ o.now + 60 := by
      by_cases hempty : m.cachedAccessToken = ""
      · exact .inl hempty
      · refine .inr (not_lt.1 fun hlt => h ?_)
        rw [Bool.and_eq_true, decide_eq_true_eq, Bool.not_eq_true', ← Bool.not_eq_true,
          String.isEmpty_iff]
        exact ⟨hempty, hlt⟩
    split
    · exact .inr (.inl rfl)
    split
    · exact .inr (.inl rfl)
    split
    · exact .inr (.inr ⟨hold, _, rfl⟩)
    · exact .inr (.inl rfl)

/-! ## Calls -/

/-- Nothing is sent. -/
theorem Cached.same {server : TokenServer} (h : Cached w) (hcached : m.cached = w.manager.cached) :
    Cached ⟨m, server, w.sent ++ []⟩ := by
  rw [List.append_nil]
  exact ⟨hcached.trans h.cached, h.current⟩

theorem granted_token {now : Int} {url : String} {body : List UInt8} (h : Cached w)
    (hregular : o.token.Regular) :
    (w.manager.takeAnswer now o.token).2.cached =
      granted (w.sent ++ [.token now url body o.token]) := by
  rw [takeAnswer_cached hregular, granted_snoc, h.cached]

/-- What `send_fcm_request` does with the token that it gets: nothing, or one notification. -/
theorem sendFcmRequest_cases {fcmToken title : String} {body : List UInt8}
    {data : List (String × String)} {sent : Option Bool}
    (h : m.sendFcmRequest o fcmToken title body data = (sent, m', rs)) :
    m' = (m.getAccessToken o).2.1 ∧ (rs = (m.getAccessToken o).2.2 ∨
      (m.getAccessToken o).1 ≠ "" ∧ ∃ url text, rs = (m.getAccessToken o).2.2 ++
        [.notify o.now url (m.getAccessToken o).1 text]) := by
  unfold Manager.sendFcmRequest at h
  dsimp only at h
  split at h
  next =>
    obtain ⟨-, rfl, rfl⟩ := h
    exact ⟨rfl, .inl rfl⟩
  next hne =>
    rw [String.isEmpty_iff] at hne
    split at h
    next =>
      obtain ⟨-, rfl, rfl⟩ := h
      exact ⟨rfl, .inl rfl⟩
    next text _ =>
      split at h
      · obtain ⟨-, rfl, rfl⟩ := h
        exact ⟨rfl, .inr ⟨hne, _, text, rfl⟩⟩
      · obtain ⟨-, rfl, rfl⟩ := h
        exact ⟨rfl, .inl rfl⟩

/-- The token is the one that is cached or has just been answered. -/
theorem Cached.getAccessToken (server : TokenServer) (h : Cached w) (hregular : o.token.Regular) :
    Cached ⟨(w.manager.getAccessToken o).2.1, server,
        w.sent ++ (w.manager.getAccessToken o).2.2⟩ ∧
      ((w.manager.getAccessToken o).1 ≠ "" → ∀ url text,
        (Request.notify o.now url (w.manager.getAccessToken o).1 text).Current
          (w.sent ++ (w.manager.getAccessToken o).2.2)) := by
  have htoken : w.manager.cachedAccessToken = (granted w.sent).1 := congrArg Prod.fst h.cached
  have hexpiry : w.manager.tokenExpiryTime = (granted w.sent).2 := congrArg Prod.snd h.cached
  rcases getAccessToken_cases w.manager o with ⟨hne, hgood, heq⟩ | heq | ⟨hold, post, heq⟩
  · -- the cached token
    rw [heq]
    refine ⟨h.same rfl, fun _ url text => ?_⟩
    rw [List.append_nil]
    exact ⟨htoken, hne, .inl (hexpiry ▸ hgood)⟩
  · -- no token
    rw [heq]
    exact ⟨h.same rfl, fun hne => absurd rfl hne⟩
  · -- a new token
    rw [heq]
    rw [htoken, hexpiry] at hold
    refine ⟨h.snoc hold (granted_token h hregular), fun hne url text => ?_⟩
    obtain ⟨expiresIn, hgrant⟩ := takeAnswer_token hne
    refine ⟨?_, hne, .inr ⟨_, _, _, expiresIn, List.getLast?_concat, hgrant⟩⟩
    rw [granted_snoc]
    dsimp only
    rw [hgrant]
    rfl

theorem Cached.sendFcmRequest {server : TokenServer} {fcmToken title : String} {body : List UInt8}
    {data : List (String × String)} {sent : Option Bool} (h : Cached w)
    (hregular : o.token.Regular)
    (hsend : w.manager.sendFcmRequest o fcmToken title body data = (sent, m', rs)) :
    Cached ⟨m', server, w.sent ++ rs⟩ := by
  obtain ⟨hcached, hcurrent⟩ := h.getAccessToken server hregular
  obtain ⟨rfl, rfl | ⟨hne, url, text, rfl⟩⟩ := sendFcmRequest_cases hsend
  · exact hcached
  · rw [← List.append_assoc]
    refine hcached.snoc (hcurrent hne url text) ?_
    rw [granted_snoc]
    exact hcached.cached

theorem Cached.sendNotification {t : Database.Moment} {n : Notification} (h : Cached w)
    (hregular : o.token.Regular) : Cached (w.sendNotification t o n).2 := by
  unfold World.sendNotification
  split
  · exact h
  dsimp only
  split
  · exact ⟨h.cached, h.current⟩
  · exact h.sendFcmRequest hregular rfl

theorem Cached.perform {c : Call} (h : Cached w) (hregular : c.Regular) :
    Cached (w.perform c) := by
  cases c with
  | setConfig projectId path file =>
    refine ⟨?_, h.current⟩
    show (w.manager.setConfig projectId path file).cached = granted w.sent
    rw [← h.cached]
    unfold Manager.setConfig
    dsimp only
    split <;> rfl
  | registerToken t userId fcmToken => exact ⟨h.cached, h.current⟩
  | fcmTokenRegister t userId fcmToken => exact ⟨h.cached, h.current⟩
  | removeToken t userId => exact ⟨h.cached, h.current⟩
  | sendNotification t o n => exact h.sendNotification hregular
  | sendMessageNotification t o receiverId senderName messageContent messageId senderId =>
    exact h.sendNotification hregular
  | sendGroupMessageNotification t o receiverId groupName senderName messageContent messageId
      groupId senderId =>
    exact h.sendNotification hregular

theorem cached_after {calls : List Call} (h : ∀ c ∈ calls, c.Regular) :
    Cached (World.after calls) := by
  induction calls using List.reverseRecOn with
  | nil => exact cached_start
  | append_singleton calls c ih =>
    have hinit := ih fun d hd => h d (List.mem_append_left _ hd)
    unfold World.after at hinit ⊢
    rw [List.foldl_append]
    exact hinit.perform (h c (List.mem_append_right _ List.mem_cons_self))

end

/-! ## Runs -/

/-- Every notification goes out with the access token that was answered last, which is good for more
    than a minute or has been answered in the same call; and a token is asked for only when the last
    one is not. -/
theorem requests_current (calls : List Call) (h : ∀ c ∈ calls, c.Regular)
    (before after : List Request) (r : Request)
    (hsent : (World.after calls).sent = before ++ r :: after) : r.Current before :=
  (cached_after h).current before r after hsent

/-! ## Two notifications within the hour -/

def keyFile : KeyFile :=
  .parsed (.object [("client_email", .string "chat"), ("private_key", .string "pem")])

def inReach : Database.Moment := ⟨0, true, fun _ => true⟩

def twoNotifications : List Call := [
  .setConfig "chat" "key.json" keyFile, .registerToken inReach 7 "phone",
  .sendMessageNotification inReach (hourly 1000) 7 "alice" "hi" 1 6,
  .sendMessageNotification inReach (hourly 4500) 7 "alice" "ho" 2 6]

theorem requests_current_twoNotifications :
    ∃ before r after, (World.after twoNotifications).sent = before ++ r :: after ∧
      r.Current before ∧ before.length = 2 ∧ after = [] := by
  have hregular : ∀ c ∈ twoNotifications, c.Regular := by
    simp only [twoNotifications, List.forall_mem_cons]
    exact ⟨trivial, trivial, fun _ _ => ⟨3600, rfl⟩, fun _ _ => ⟨3600, rfl⟩,
      fun _ h => absurd h List.not_mem_nil⟩
  obtain ⟨r₁, r₂, r₃, hsent⟩ : ∃ r₁ r₂ r₃, (World.after twoNotifications).sent = [r₁, r₂, r₃] :=
    ⟨_, _, _, rfl⟩
  exact ⟨[r₁, r₂], r₃, [], hsent,
    requests_current twoNotifications hregular [r₁, r₂] [] r₃ hsent, rfl, rfl⟩

end ChatApp.Push.Fcm

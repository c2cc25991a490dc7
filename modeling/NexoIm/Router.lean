import Mathlib.Data.List.Basic
import NexoIm.Middleware.JwtAuth

/-!
# The routes (`SetupRouter`)

`SetupRouter` registers every handler in a group whose middleware authenticates the request:
none for `/health`, `/auth` and `/ws`, `JWTAuth` for `/user`, `/group`, `/msg` and
`/conversation`, `InternalAuth` for `/internal`, and `InternalAuthAsUser` for
`/internal/user`, `/internal/msg` and `/internal/conversation`.

* `setupRouter` is the route table, built group by group as the source registers it;
* `serve` finds a request's route by method and path, `:user_id` taking any non-empty
  segment, runs the group's middleware, and then the handler with what the middleware
  stored. No request matches two routes (`setupRouter_match_unique`), so the first match is
  the route Hertz's lookup finds. The global `CORS()` runs first and ends an `OPTIONS`
  preflight; the headers it allows include every header the middleware reads
  (`corsAllowHeaders_auth`);
* no handler under `/internal` runs unless `validateInternalRequest` admitted the request
  (`serve_internal`), and every handler that acts for a user runs with the user of a parsed
  token or of an admitted internal request, or in the test environment's `Ignore-Auth`
  bypass with none (`serve_actsForUser`).
-/

namespace NexoIm

/-- The middleware of a route group. -/
inductive Guard
  | noAuth
  | jwtAuth
  | internalAuth
  | internalAuthAsUser
  deriving DecidableEq, Repr

/-- The handlers `SetupRouter` registers, under their `Handlers` field and method names. -/
inductive Handler
  | health
  | authRegister
  | authLogin
  | userGetUserInfo
  | userGetUserInfoById
  | userUpdateUserInfo
  | userGetUsersInfo
  | userGetUsersOnlineStatus
  | groupCreateGroup
  | groupJoinGroup
  | groupQuitGroup
  | groupGetGroupInfo
  | groupGetGroupMembers
  | messageSendMessage
  | messagePullMessages
  | messageGetMaxSeq
  | conversationGetConversationList
  | conversationGetAllConversationList
  | conversationGetConversation
  | conversationUpdateConversation
  | conversationMarkRead
  | conversationGetMaxReadSeq
  | conversationGetUnreadCount
  | handleConnection
  deriving DecidableEq, Repr

/-- The handlers of `UserHandler`, `GroupHandler`, `MessageHandler` and
`ConversationHandler`, which act for the user `GetUserId` reads. -/
def Handler.actsForUser : Handler → Bool
  | .health | .authRegister | .authLogin | .handleConnection => false
  | _ => true

structure Route where
  method : String
  path : String
  guard : Guard
  handler : Handler
  deriving DecidableEq

/-- `h.Group(prefix, guard)` and the routes registered on it. -/
def routeGroup (pre : String) (guard : Guard) (routes : List (String × String × Handler)) :
    List Route :=
  routes.map fun (m, path, h) => ⟨m, pre ++ path, guard, h⟩

/-- The routes of `SetupRouter`, in the order it registers them. -/
def setupRouter : List Route :=
  [⟨"GET", "/health", .noAuth, .health⟩] ++
  routeGroup "/auth" .noAuth
    [("POST", "/register", .authRegister), ("POST", "/login", .authLogin)] ++
  routeGroup "/user" .jwtAuth
    [("GET", "/info", .userGetUserInfo), ("GET", "/profile/:user_id", .userGetUserInfoById),
     ("PUT", "/update", .userUpdateUserInfo), ("POST", "/batch_info", .userGetUsersInfo),
     ("POST", "/get_users_online_status", .userGetUsersOnlineStatus)] ++
  routeGroup "/group" .jwtAuth
    [("POST", "/create", .groupCreateGroup), ("POST", "/join", .groupJoinGroup),
     ("POST", "/quit", .groupQuitGroup), ("GET", "/info", .groupGetGroupInfo),
     ("GET", "/members", .groupGetGroupMembers)] ++
  routeGroup "/msg" .jwtAuth
    [("POST", "/send", .messageSendMessage), ("GET", "/pull", .messagePullMessages),
     ("GET", "/max_seq", .messageGetMaxSeq)] ++
  routeGroup "/conversation" .jwtAuth
    [("GET", "/list", .conversationGetConversationList),
     ("POST", "/list", .conversationGetConversationList),
     ("GET", "/all", .conversationGetAllConversationList),
     ("POST", "/all", .conversationGetAllConversationList),
     ("GET", "/info", .conversationGetConversation),
     ("PUT", "/update", .conversationUpdateConversation),
     ("POST", "/mark_read", .conversationMarkRead),
     ("GET", "/max_read_seq", .conversationGetMaxReadSeq),
     ("GET", "/unread_count", .conversationGetUnreadCount)] ++
  [⟨"GET", "/ws", .noAuth, .handleConnection⟩] ++
  routeGroup "/internal" .internalAuth
    [("GET", "/health", .health), ("POST", "/auth/register", .authRegister)] ++
  routeGroup "/internal/user" .internalAuthAsUser
    [("GET", "/info", .userGetUserInfo), ("GET", "/profile/:user_id", .userGetUserInfoById),
     ("PUT", "/update", .userUpdateUserInfo), ("POST", "/batch_info", .userGetUsersInfo),
     ("POST", "/get_users_online_status", .userGetUsersOnlineStatus)] ++
  routeGroup "/internal/msg" .internalAuthAsUser [("POST", "/send", .messageSendMessage)] ++
  routeGroup "/internal/conversation" .internalAuthAsUser
    [("GET", "/list", .conversationGetConversationList),
     ("POST", "/list", .conversationGetConversationList),
     ("GET", "/all", .conversationGetAllConversationList),
     ("POST", "/all", .conversationGetAllConversationList)]

/-- The segments of a path between its `/`s: `"/user/info"` has `["", "user", "info"]`. -/
def pathSegments (path : String) : List (List Char) := path.toList.splitOn '/'

/-- A segment of a route's path against one of the request's: `:name` takes any non-empty
segment, any other segment only itself. -/
def segmentMatches : List Char → List Char → Bool
  | ':' :: _, seg => !seg.isEmpty
  | pat, seg => pat == seg

/-- Whether a request path takes a route's path, segment by segment. -/
def pathMatches (pattern path : String) : Bool :=
  (pathSegments pattern).length == (pathSegments path).length &&
    ((pathSegments pattern).zip (pathSegments path)).all fun (pat, seg) => segmentMatches pat seg

/-- The first segment of every route's path is a fixed word. -/
theorem setupRouter_group_fixed :
    ∀ r ∈ setupRouter, ∀ g ∈ (pathSegments r.path)[1]?, g.head? ≠ some ':' := by
  decide

/-- Every route under `/internal` is behind `InternalAuth` or `InternalAuthAsUser`. -/
theorem setupRouter_internal :
    ∀ r ∈ setupRouter, (pathSegments r.path)[1]? = some "internal".toList →
      r.guard = .internalAuth ∨ r.guard = .internalAuthAsUser := by
  decide

/-- Every handler that acts for a user is behind `JWTAuth` or `InternalAuthAsUser`. -/
theorem setupRouter_actsForUser :
    ∀ r ∈ setupRouter, r.handler.actsForUser = true →
      r.guard = .jwtAuth ∨ r.guard = .internalAuthAsUser := by
  decide

theorem segmentMatches_fixed {g seg : List Char} (hfix : g.head? ≠ some ':')
    (h : segmentMatches g seg = true) : g = seg := by
  match g, hfix, h with
  | [], _, h => simpa [segmentMatches] using h
  | c :: g, hfix, h =>
    have hc : c ≠ ':' := fun hc => hfix (hc ▸ rfl)
    simpa [segmentMatches, hc] using h

/-- What a request's path segment says of the route that takes it: a fixed segment of the
route is the request's own. -/
theorem pathMatches_segment {pattern path : String} (hm : pathMatches pattern path = true)
    {i : Nat} {g : List Char} (hg : (pathSegments pattern)[i]? = some g)
    (hfix : g.head? ≠ some ':') : (pathSegments path)[i]? = some g := by
  simp only [pathMatches, Bool.and_eq_true, beq_iff_eq, List.all_eq_true] at hm
  have hi : i < (pathSegments path).length := hm.1 ▸ (List.getElem?_eq_some_iff.1 hg).1
  have hseg := List.getElem?_eq_getElem hi
  have hgs := hm.2 (g, (pathSegments path)[i])
    (List.getElem?_mem (List.getElem?_zip_eq_some.2 ⟨hg, hseg⟩))
  rw [hseg, segmentMatches_fixed hfix hgs]

/-- Two route paths that no request path matches both of: their segment counts differ, or at
some position both have fixed, different words. -/
def pathsDisjoint (p q : String) : Bool :=
  (pathSegments p).length != (pathSegments q).length ||
    ((pathSegments p).zip (pathSegments q)).any fun (a, b) =>
      a.head? != some ':' && b.head? != some ':' && a != b

theorem not_pathsDisjoint_of_pathMatches {p q path : String} (hp : pathMatches p path = true)
    (hq : pathMatches q path = true) : pathsDisjoint p q = false := by
  have hlen : ∀ {r}, pathMatches r path = true →
      (pathSegments r).length = (pathSegments path).length := fun h => by
    simp only [pathMatches, Bool.and_eq_true, beq_iff_eq] at h
    exact h.1
  simp only [pathsDisjoint, Bool.or_eq_false_iff, bne_eq_false_iff_eq, hlen hp, hlen hq,
    List.any_eq_false, true_and]
  rintro ⟨a, b⟩ hx
  obtain ⟨i, hi⟩ := List.mem_iff_getElem?.1 hx
  obtain ⟨ha, hb⟩ := List.getElem?_zip_eq_some.1 hi
  by_cases hsa : a.head? = some ':'
  · simp [hsa]
  by_cases hsb : b.head? = some ':'
  · simp [hsb]
  obtain rfl : a = b :=
    Option.some.inj ((pathMatches_segment hp ha hsa).symm.trans (pathMatches_segment hq hb hsb))
  simp

/-- Any two routes of the table with the same method have disjoint paths. -/
theorem setupRouter_disjoint :
    setupRouter.Pairwise fun r s => r.method = s.method → pathsDisjoint r.path s.path = true := by
  decide

/-- **One route per request.** No request is taken by two routes of the table, so the first
route `serve` takes is the only one, the one Hertz's lookup finds. -/
theorem setupRouter_match_unique (c : RequestContext) :
    (setupRouter.filter fun r => r.method == c.method && pathMatches r.path c.path).length ≤ 1 := by
  have hpw := setupRouter_disjoint.filter fun r => r.method == c.method && pathMatches r.path c.path
  have hall := fun r (hr : r ∈ setupRouter.filter
      fun r => r.method == c.method && pathMatches r.path c.path) => List.of_mem_filter hr
  generalize setupRouter.filter (fun r => r.method == c.method && pathMatches r.path c.path) = L
    at hpw hall
  match L, hpw, hall with
  | [], _, _ => simp
  | [_], _, _ => simp
  | r :: s :: _, hpw, hall =>
    have hr := hall r (by simp)
    have hs := hall s (by simp)
    simp only [Bool.and_eq_true, beq_iff_eq] at hr hs
    have := (List.pairwise_cons.1 hpw).1 s (by simp) (hr.1.trans hs.1.symm)
    rw [not_pathsDisjoint_of_pathMatches hr.2 hs.2] at this
    cases this

/-- The values the middleware stores for the handler with `c.Set`: the internal service name,
and the user and platform that `GetUserId` and `GetPlatformId` read. -/
structure AuthContext where
  internalServiceName : Option String := none
  userId : Option String := none
  platformId : Option Int64 := none

/-- What happens to a request: `CORS()` ends a preflight with status 204, no route takes it,
the group's middleware aborts it, or the route's handler runs with what the middleware
stored. -/
inductive ServeOutcome
  | noContent
  | notFound
  | aborted (e : ErrCode)
  | handled (h : Handler) (a : AuthContext)

/-- The `Access-Control-Allow-Headers` value `CORS()` sends. -/
def corsAllowHeaders : String :=
  "Origin, Content-Type, Content-Length, Accept-Encoding, X-CSRF-Token, Authorization, " ++
    "X-Token, Ignore-Auth, X-Service-Name, X-Timestamp, X-Signature, X-User-Id, " ++
    "X-Platform-Id, Trace-Id, X-Trace-Id"

/-- A browser may send every header the authentication middleware reads. -/
theorem corsAllowHeaders_auth :
    ∀ h ∈ [authorizationHeader, xTokenHeader, ignoreAuthHeader, internalServiceNameHeader,
      internalTimestampHeader, internalSignatureHeader, internalUserIdHeader,
      internalPlatformIdHeader],
      h ∈ (corsAllowHeaders.toList.splitOn ',').map fun name => trimSpace ⟨name⟩ := by
  decide

theorem except_map_eq_ok {ε α β : Type} {f : α → β} {x : Except ε α} {b : β} :
    x.map f = .ok b ↔ ∃ a, x = .ok a ∧ f a = b := by
  cases x <;> simp [Except.map]

section Serve

variable (p : Primitives) (tp : TokenParsers) (testEnv : Bool) (cfg : Option Config)
  (now : Int64)

/-- The group's middleware on a request: what it stores, or the error it aborts with. -/
def runGuard (c : RequestContext) : Guard → Except ErrCode AuthContext
  | .noAuth => .ok {}
  | .jwtAuth => (jwtAuth tp testEnv cfg c).map fun
    | none => {}
    | some claims => { userId := some claims.userId, platformId := some claims.platformId }
  | .internalAuth => (validateInternalRequest p (cfg.map (·.internalAuth)) now c).map
    fun svc => { internalServiceName := some svc }
  | .internalAuthAsUser => (internalAuthAsUser p (cfg.map (·.internalAuth)) now c).map
    fun (svc, userId, pid) => ⟨some svc, some userId, some pid⟩

/-- The server on one request: `CORS()`, which runs first on every request and ends an
`OPTIONS` one, then the first route whose method and path take it, its group's middleware,
and its handler. -/
def serve (c : RequestContext) : ServeOutcome :=
  if c.method = "OPTIONS" then .noContent
  else
    match setupRouter.find? fun r => r.method == c.method && pathMatches r.path c.path with
    | none => .notFound
    | some r =>
      match runGuard p tp testEnv cfg now c r.guard with
      | .error e => .aborted e
      | .ok a => .handled r.handler a

/-- A handler runs only for a route of the table that takes the request, after its group's
middleware let the request through. -/
theorem serve_handled {c : RequestContext} {h : Handler} {a : AuthContext}
    (hs : serve p tp testEnv cfg now c = .handled h a) :
    ∃ r ∈ setupRouter, pathMatches r.path c.path = true ∧ r.handler = h ∧
      runGuard p tp testEnv cfg now c r.guard = .ok a := by
  unfold serve at hs
  split at hs
  · cases hs
  split at hs
  · cases hs
  rename_i r hr
  split at hs
  · cases hs
  rename_i a' ha
  cases hs
  have hm := List.find?_some hr
  simp only [Bool.and_eq_true] at hm
  exact ⟨r, List.mem_of_find?_eq_some hr, hm.2, rfl, ha⟩

/-- **Service authentication of `/internal`.** A handler under `/internal` runs only for a
request that `validateInternalRequest` admitted, with the admitted service stored. -/
theorem serve_internal {c : RequestContext} {h : Handler} {a : AuthContext}
    (hpath : (pathSegments c.path)[1]? = some "internal".toList)
    (hs : serve p tp testEnv cfg now c = .handled h a) :
    ∃ svc, validateInternalRequest p (cfg.map (·.internalAuth)) now c = .ok svc ∧
      a.internalServiceName = some svc := by
  obtain ⟨r, hr, hm, -, hg⟩ := serve_handled p tp testEnv cfg now hs
  have hlen : 1 < (pathSegments r.path).length := by
    have := (List.getElem?_eq_some_iff.1 hpath).1
    simp only [pathMatches, Bool.and_eq_true, beq_iff_eq] at hm
    omega
  have hg1 := List.getElem?_eq_getElem hlen
  have hrg : (pathSegments r.path)[1]? = some "internal".toList := by
    rw [hg1, ← pathMatches_segment hm hg1 (setupRouter_group_fixed r hr _ hg1), hpath]
  rcases setupRouter_internal r hr hrg with hguard | hguard <;> rw [hguard] at hg
  · obtain ⟨svc, hv, rfl⟩ := except_map_eq_ok.1 hg
    exact ⟨svc, hv, rfl⟩
  · obtain ⟨⟨svc, u, pid⟩, hv, rfl⟩ := except_map_eq_ok.1 hg
    exact ⟨svc, validateInternalRequest_of_internalAuthAsUser p hv, rfl⟩

/-- A configuration with internal auth enabled for every service and no external tokens. -/
def internalConfig : Config :=
  ⟨⟨"jwt-secret"⟩, ⟨false, "", "", 0⟩, ⟨true, "secret", [], 300⟩⟩

/-- Token parsers that accept the one token `"tok"`, of user `u1` on platform 1. -/
def oneTokenParsers : TokenParsers where
  parseToken t _ := if t = "tok" then .ok ⟨"u1", 1⟩ else .error .errTokenInvalid
  parseExternalToken _ _ _ _ := .error .errTokenInvalid

theorem serve_internal_signedRequest :
    (pathSegments signedRequest.path)[1]? = some "internal".toList ∧
    serve constPrimitives oneTokenParsers false (some internalConfig) 1700000000 signedRequest =
      .handled .health ⟨some "svc", none, none⟩ ∧
    ∃ svc, validateInternalRequest constPrimitives ((some internalConfig).map (·.internalAuth))
        1700000000 signedRequest = .ok svc ∧
      (⟨some "svc", none, none⟩ : AuthContext).internalServiceName = some svc := by
  have hpath : (pathSegments signedRequest.path)[1]? = some "internal".toList := by decide
  have hs : serve constPrimitives oneTokenParsers false (some internalConfig) 1700000000
      signedRequest = .handled .health ⟨some "svc", none, none⟩ := by rfl
  exact ⟨hpath, hs, serve_internal constPrimitives oneTokenParsers false _ _ hpath hs⟩

/-- **Who a handler acts for.** A handler that acts for a user runs with the user of a token
that `extractToken` found and `ParseTokenWithFallback` accepted, or with the user of a
request that `InternalAuthAsUser` admitted. The only other way in is the test environment's
`Ignore-Auth` bypass, which stores no user. -/
theorem serve_actsForUser {c : RequestContext} {h : Handler} {a : AuthContext}
    (hs : serve p tp testEnv cfg now c = .handled h a) (hu : h.actsForUser = true) :
    (∃ t claims, extractToken c = .ok t ∧ parseTokenWithFallback tp t cfg = .ok claims ∧
        a.userId = some claims.userId) ∨
      (∃ svc userId pid, internalAuthAsUser p (cfg.map (·.internalAuth)) now c =
          .ok (svc, userId, pid) ∧ a.userId = some userId) ∨
      (testEnv = true ∧ c.getHeader ignoreAuthHeader ≠ "" ∧ a.userId = none) := by
  obtain ⟨r, hr, -, rfl, hg⟩ := serve_handled p tp testEnv cfg now hs
  rcases setupRouter_actsForUser r hr hu with hguard | hguard <;> rw [hguard] at hg
  · obtain ⟨stored, hj, rfl⟩ := except_map_eq_ok.1 hg
    rcases jwtAuth_ok hj with ⟨rfl, hb⟩ | ⟨t, claims, rfl, ht, hp⟩
    · exact .inr (.inr ⟨hb.1, hb.2, rfl⟩)
    · exact .inl ⟨t, claims, ht, hp, rfl⟩
  · obtain ⟨⟨svc, userId, pid⟩, hv, rfl⟩ := except_map_eq_ok.1 hg
    exact .inr (.inl ⟨svc, userId, pid, hv, rfl⟩)

/-- `GET /conversation/unread_count` with the bearer token `"tok"`. -/
def bearerRequest : RequestContext :=
  ⟨[("Authorization", "Bearer tok")], "GET", "/conversation/unread_count", []⟩

theorem serve_actsForUser_bearerRequest :
    serve constPrimitives oneTokenParsers false (some internalConfig) 1700000000 bearerRequest =
      .handled .conversationGetUnreadCount ⟨none, some "u1", some 1⟩ ∧
    Handler.conversationGetUnreadCount.actsForUser = true ∧
    ((∃ t claims, extractToken bearerRequest = .ok t ∧
        parseTokenWithFallback oneTokenParsers t (some internalConfig) = .ok claims ∧
        some "u1" = some claims.userId) ∨
      (∃ svc userId pid, internalAuthAsUser constPrimitives
          ((some internalConfig).map (·.internalAuth)) 1700000000 bearerRequest =
          .ok (svc, userId, pid) ∧ some "u1" = some userId) ∨
      (false = true ∧ bearerRequest.getHeader ignoreAuthHeader ≠ "" ∧ some "u1" = none)) := by
  have hs : serve constPrimitives oneTokenParsers false (some internalConfig) 1700000000
      bearerRequest = .handled .conversationGetUnreadCount ⟨none, some "u1", some 1⟩ := by rfl
  exact ⟨hs, rfl, serve_actsForUser constPrimitives oneTokenParsers false _ _ hs rfl⟩

end Serve

end NexoIm

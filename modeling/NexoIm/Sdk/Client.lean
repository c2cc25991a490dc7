import NexoIm.Router

/-!
# The SDK's requests (`sdk/user.go`, the conversation methods)

Each client method sends one request through `c.get`, `c.post` or `c.put`: a method and a
path, with the acting user's path argument glued on unescaped (`"/user/profile/" + userId`)
and the conversation of `UpdateConversation` put in the query.

* `ClientCall.request` is the request each method sends, `ClientCall.handler` the handler it
  is named after;
* the router takes every such request to that handler, behind `InternalAuthAsUser` for the
  `Internal…` methods and `JWTAuth` for the others, for every path argument that is one
  non-empty segment; an empty user id reaches no route (`ClientCall.routeOf_request`).

`c.get`, `c.post`, `c.put` and the request options are in `sdk/client.go`, which is not among
the sources: the request's path is taken to be the path argument, cut at `?` or `#`. The
router matches that path as it is. Hertz cleans `.` and `..` segments and percent-decodes the
path before it routes, which the model leaves out, so the path arguments it covers have
none of `.`, `..` or `%` for those steps to change.
-/

namespace NexoIm

/-- The SDK's client methods, with the arguments that go into the request's path or query.
`GetAllConversationList`, `GetConversationList` and the `Internal…` list methods send the
same request as their `…WithLastMessage` variants, and `SetConversationPinned`,
`SetConversationRecvMsgOpt` the one of `UpdateConversation`. -/
inductive ClientCall
  | getUserInfo
  | getUserInfoById (userId : String)
  | updateUserInfo
  | getUsersInfo
  | getUsersOnlineStatus
  | internalGetUserInfo
  | internalGetUserInfoById (userId : String)
  | internalUpdateUserInfo
  | internalGetUsersInfo
  | internalGetUsersOnlineStatus
  | getAllConversationList
  | getConversationList
  | internalGetAllConversationList
  | internalGetConversationList
  | getConversation
  | updateConversation (conversationId : String)
  | markRead
  | getMaxReadSeq
  | getUnreadCount

/-- The method and path a client method passes to `c.get`, `c.post` or `c.put`. -/
def ClientCall.request : ClientCall → String × String
  | .getUserInfo => ("GET", "/user/info")
  | .getUserInfoById userId => ("GET", "/user/profile/" ++ userId)
  | .updateUserInfo => ("PUT", "/user/update")
  | .getUsersInfo => ("POST", "/user/batch_info")
  | .getUsersOnlineStatus => ("POST", "/user/get_users_online_status")
  | .internalGetUserInfo => ("GET", "/internal/user/info")
  | .internalGetUserInfoById userId => ("GET", "/internal/user/profile/" ++ userId)
  | .internalUpdateUserInfo => ("PUT", "/internal/user/update")
  | .internalGetUsersInfo => ("POST", "/internal/user/batch_info")
  | .internalGetUsersOnlineStatus => ("POST", "/internal/user/get_users_online_status")
  | .getAllConversationList => ("POST", "/conversation/all")
  | .getConversationList => ("POST", "/conversation/list")
  | .internalGetAllConversationList => ("POST", "/internal/conversation/all")
  | .internalGetConversationList => ("POST", "/internal/conversation/list")
  | .getConversation => ("GET", "/conversation/info")
  | .updateConversation conversationId =>
    ("PUT", "/conversation/update?conversation_id=" ++ conversationId)
  | .markRead => ("POST", "/conversation/mark_read")
  | .getMaxReadSeq => ("GET", "/conversation/max_read_seq")
  | .getUnreadCount => ("GET", "/conversation/unread_count")

/-- The handler a client method is named after. -/
def ClientCall.handler : ClientCall → Handler
  | .getUserInfo | .internalGetUserInfo => .userGetUserInfo
  | .getUserInfoById _ | .internalGetUserInfoById _ => .userGetUserInfoById
  | .updateUserInfo | .internalUpdateUserInfo => .userUpdateUserInfo
  | .getUsersInfo | .internalGetUsersInfo => .userGetUsersInfo
  | .getUsersOnlineStatus | .internalGetUsersOnlineStatus => .userGetUsersOnlineStatus
  | .getAllConversationList | .internalGetAllConversationList =>
    .conversationGetAllConversationList
  | .getConversationList | .internalGetConversationList => .conversationGetConversationList
  | .getConversation => .conversationGetConversation
  | .updateConversation _ => .conversationUpdateConversation
  | .markRead => .conversationMarkRead
  | .getMaxReadSeq => .conversationGetMaxReadSeq
  | .getUnreadCount => .conversationGetUnreadCount

/-- The `Internal…` methods, which call the service-to-service routes. -/
def ClientCall.internal : ClientCall → Bool
  | .internalGetUserInfo | .internalGetUserInfoById _ | .internalUpdateUserInfo
  | .internalGetUsersInfo | .internalGetUsersOnlineStatus | .internalGetAllConversationList
  | .internalGetConversationList => true
  | _ => false

/-- The path of a URL: what comes before its query or fragment. -/
def urlPath (url : String) : String := ⟨url.toList.takeWhile fun c => c != '?' && c != '#'⟩

/-- A path argument that stays one segment of the path: non-empty, neither `.` nor `..`, and
with no `/`, `?`, `#` or `%`, so that Hertz's path cleaning and unescaping leave it as it is. -/
def SegmentArg (s : String) : Prop :=
  s ≠ "" ∧ s ≠ "." ∧ s ≠ ".." ∧ ∀ c ∈ s.toList, c ≠ '/' ∧ c ≠ '?' ∧ c ≠ '#' ∧ c ≠ '%'

/-- What the path arguments of a client method must be for its request to reach a route. -/
def ClientCall.PathArgsOk : ClientCall → Prop
  | .getUserInfoById userId | .internalGetUserInfoById userId => SegmentArg userId
  | _ => True

/-- The route the router takes a request to, before its middleware. -/
def routeOf (method path : String) : Option Route :=
  setupRouter.find? fun r => r.method == method && pathMatches r.path path

/-! ### Paths with an argument -/

theorem splitOnP_append_sep {α : Type} {p : α → Bool} {sep : α} (hsep : p sep = true)
    (l s : List α) : (l ++ sep :: s).splitOnP p = l.splitOnP p ++ s.splitOnP p := by
  induction l with
  | nil => simp [hsep]
  | cons x l ih =>
    rw [List.cons_append, List.splitOnP_cons, List.splitOnP_cons, ih]
    split
    · rfl
    · obtain ⟨a, as, h⟩ := List.exists_cons_of_ne_nil (List.splitOnP_ne_nil p l)
      rw [h]
      rfl

/-- A path ending in `/` and then one segment. -/
theorem pathSegments_of_toList {s : String} {l seg : List Char} (hs : s.toList = l ++ '/' :: seg)
    (hseg : ∀ c ∈ seg, c ≠ '/') : pathSegments s = l.splitOn '/' ++ [seg] := by
  rw [pathSegments, hs, List.splitOn, splitOnP_append_sep (by decide),
    List.splitOnP_eq_single _ seg fun c hc => by simpa using hseg c hc]
  rfl

theorem urlPath_eq_self {s : String} (h : ∀ c ∈ s.toList, c ≠ '?' ∧ c ≠ '#') : urlPath s = s := by
  unfold urlPath
  rw [List.takeWhile_eq_self_iff.2 fun c hc => by simpa using h c hc]
  rfl

/-- The route of a path one request names: with at most one route taking a request, `find?`
returns any route that takes it. -/
theorem routeOf_eq_some {r : Route} (hr : r ∈ setupRouter) {method path : String}
    (hm : r.method = method) (hp : pathMatches r.path path = true) :
    routeOf method path = some r := by
  have hu : (setupRouter.filter fun r => r.method == method && pathMatches r.path path).length
      ≤ 1 := setupRouter_match_unique ⟨[], method, path, []⟩
  have hra : r ∈ setupRouter.filter fun r => r.method == method && pathMatches r.path path :=
    List.mem_filter.2 ⟨hr, by simp [hm, hp]⟩
  unfold routeOf
  cases hf : setupRouter.find? fun r => r.method == method && pathMatches r.path path with
  | none => exact absurd (List.find?_eq_none.1 hf r hr) (by simp [hm, hp])
  | some b =>
    have hbp := List.find?_some hf
    have hb : b ∈ setupRouter.filter fun r => r.method == method && pathMatches r.path path :=
      List.mem_filter.2 ⟨List.mem_of_find?_eq_some hf, hbp⟩
    generalize setupRouter.filter (fun r => r.method == method && pathMatches r.path path) = L
      at hu hra hb
    match L, hu, hra, hb with
    | [], _, hra, _ => cases hra
    | [_], _, hra, hb =>
      rw [List.mem_singleton] at hra hb
      rw [hb, hra]
    | _ :: _ :: _, hu, _, _ => simp at hu

theorem segmentMatches_self (x : List Char) : segmentMatches x x = true := by
  unfold segmentMatches
  split <;> simp_all

theorem eq_of_mem_zip_self {α : Type} {L : List α} {a b : α} (h : (a, b) ∈ L.zip L) : a = b := by
  induction L with
  | nil => cases h
  | cons x L ih =>
    rw [List.zip_cons_cons] at h
    rcases List.mem_cons.1 h with h | h
    · cases h
      rfl
    · exact ih h

/-- A path ending in a `:user_id` parameter takes the same path ending in a user id that is
one non-empty segment. -/
theorem pathMatches_param {pattern pre userId : String} {l : List Char}
    (hpattern : pattern.toList = l ++ '/' :: ":user_id".toList) (hpre : pre.toList = l ++ ['/'])
    (hl : ∀ c ∈ pre.toList, c ≠ '?' ∧ c ≠ '#') (hu : SegmentArg userId) :
    pathMatches pattern (urlPath (pre ++ userId)) = true := by
  obtain ⟨hne, -, -, hc⟩ := hu
  have hall : ∀ c ∈ (pre ++ userId).toList, c ≠ '?' ∧ c ≠ '#' := fun c h => by
    rcases List.mem_append.1 h with h | h
    · exact hl c h
    · exact ⟨(hc c h).2.1, (hc c h).2.2.1⟩
  have hpath : (pre ++ userId).toList = l ++ '/' :: userId.toList := by
    rw [show (pre ++ userId).toList = pre.toList ++ userId.toList from rfl, hpre,
      List.append_assoc]
    rfl
  have hlast : segmentMatches ":user_id".toList userId.toList = true := by
    rw [show ":user_id".toList = ':' :: "user_id".toList from rfl, segmentMatches,
      Bool.not_eq_true', List.isEmpty_eq_false]
    exact fun h => hne (String.ext h)
  rw [urlPath_eq_self hall, pathMatches, pathSegments_of_toList hpattern (by decide),
    pathSegments_of_toList hpath fun c h => (hc c h).1]
  simp only [List.length_append, List.length_singleton, List.zip_append, beq_self_eq_true,
    Bool.true_and, List.all_append, Bool.and_eq_true, List.all_eq_true]
  constructor
  · rintro ⟨a, b⟩ hx
    obtain rfl := eq_of_mem_zip_self hx
    exact segmentMatches_self a
  · intro x hx
    rw [List.zip_cons_cons, List.zip_nil_left, List.mem_singleton] at hx
    rw [hx]
    exact hlast

/-- **The SDK and the router agree.** Every client method sends a request that the router
takes to the handler the method is named after, behind `InternalAuthAsUser` for the
`Internal…` methods and `JWTAuth` for the others, whenever its path argument is one
non-empty segment. With an empty user id, `GetUserInfoById` and `InternalGetUserInfoById`
reach no route. -/
theorem ClientCall.routeOf_request :
    (∀ call : ClientCall, call.PathArgsOk →
      ∃ r, routeOf call.request.1 (urlPath call.request.2) = some r ∧
        r.handler = call.handler ∧
        r.guard = if call.internal then .internalAuthAsUser else .jwtAuth) ∧
    routeOf (ClientCall.getUserInfoById "").request.1
      (urlPath (ClientCall.getUserInfoById "").request.2) = none ∧
    routeOf (ClientCall.internalGetUserInfoById "").request.1
      (urlPath (ClientCall.internalGetUserInfoById "").request.2) = none := by
  refine ⟨fun call h => ?_, by decide, by decide⟩
  cases call
  case getUserInfoById userId =>
    refine ⟨_, routeOf_eq_some (List.getElem_mem (by decide : 4 < setupRouter.length)) rfl ?_,
      rfl, rfl⟩
    exact pathMatches_param (l := "/user/profile".toList) (by decide) rfl (by decide) h
  case internalGetUserInfoById userId =>
    refine ⟨_, routeOf_eq_some (List.getElem_mem (by decide : 29 < setupRouter.length)) rfl ?_,
      rfl, rfl⟩
    exact pathMatches_param (l := "/internal/user/profile".toList) (by decide) rfl (by decide) h
  case updateConversation conversationId =>
    have hpath : urlPath ("/conversation/update?conversation_id=" ++ conversationId) =
        "/conversation/update" := by
      unfold urlPath
      rw [show ("/conversation/update?conversation_id=" ++ conversationId).toList =
        "/conversation/update".toList ++ '?' :: ("conversation_id=".toList ++
          conversationId.toList) from rfl, List.takeWhile_append_of_pos (by decide)]
      rfl
    exact ⟨_, by rw [ClientCall.request, hpath]; rfl, rfl, rfl⟩
  all_goals exact ⟨_, rfl, rfl, rfl⟩

theorem routeOf_request_userProfile :
    ClientCall.PathArgsOk (.getUserInfoById "u___124210684493952") ∧
    ∃ r, routeOf (ClientCall.getUserInfoById "u___124210684493952").request.1
        (urlPath (ClientCall.getUserInfoById "u___124210684493952").request.2) = some r ∧
      r.handler = (ClientCall.getUserInfoById "u___124210684493952").handler ∧
      r.guard = if (ClientCall.getUserInfoById "u___124210684493952").internal
        then .internalAuthAsUser else .jwtAuth := by
  have h : ClientCall.PathArgsOk (.getUserInfoById "u___124210684493952") := by
    simp only [ClientCall.PathArgsOk, SegmentArg]
    decide
  exact ⟨h, ClientCall.routeOf_request.1 _ h⟩

end NexoIm

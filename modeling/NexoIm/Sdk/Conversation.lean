import NexoIm.Conversation.Page
import NexoIm.Server

/-!
# The SDK's conversation calls against the server (`sdk` conversation methods)

`GetUnreadCount` puts `read_seq` into the query only when it is positive, written with
`strconv.FormatInt`; `getConversationListPage`, behind `GetConversationList…` and
`InternalGetConversationList…`, posts a `GetConversationListRequest` with `limit` only when it
is positive and the cursor's fields only when a cursor is given. Here each encoder is put in
front of the server's handler, for the user the request authenticates as.

* `getUnreadCountParams` and `getConversationListPageRequest` are what the SDK sends,
  `queryValue` the server's `c.Query`, and `Client.getUnreadCount`,
  `Client.getConversationListPage`, `Client.getAllConversationList`, `Client.getConversation`
  and `Client.markRead` the handler's answer to it;
* for every `readSeq`, the SDK's unread count is `max(0, max_seq − r)`, `r` being `readSeq`
  when it is positive and the stored `read_seq` otherwise, computed exactly and in
  `[0, max_seq]`: a negative `readSeq` never reaches the server
  (`Client.getUnreadCount_eq_max`);
* for every limit and cursor the server answers the page of `serviceLimit limit` rows after
  the cursor, and rejects only a limit above 100 or a cursor with one field set
  (`Client.getConversationListPage_eq`): the handler's `limit < 0` check is never reached from
  the SDK, and a limit that is not positive lists 20 rows;
* a client that pages through the list from no cursor or a whole one, with limits up to 100,
  is answered at every request and gets the rows after its start cursor in order, none
  repeated or skipped, and all of them once a page has no more (`Client.followPages_spec`);
* over any run of the server with no message send, the SDK's unread count stays in
  `[0, max_seq]`, rises by at most the seqs allocated meanwhile, and never rises over requests
  alone (`Client.runServer_unreadCount`).

`c.get` and `c.post` are in `sdk/client.go`, which is not among the sources: the server is
taken to read back each query value and JSON field the SDK writes, a field the SDK leaves out
binding to its zero value.
-/

namespace NexoIm

/-- `c.Query(key)`: the value of the query parameter, empty when it is absent. -/
def queryValue (params : List (String × String)) (key : String) : String :=
  ((params.find? (·.1 = key)).map (·.2)).getD ""

namespace Client

/-- The query parameters of `GetUnreadCount`: `read_seq` only when `readSeq > 0`, in
decimal. -/
def getUnreadCountParams (conversationId : String) (readSeq : Int64) : List (String × String) :=
  [("conversation_id", conversationId)] ++
    if readSeq > 0 then [("read_seq", formatInt readSeq)] else []

/-- `GetUnreadCount`, answered by the handler for the user the request authenticates as. -/
def getUnreadCount (db : Db) (userId conversationId : String) (readSeq : Int64) :
    Except ServiceError Int64 :=
  let params := getUnreadCountParams conversationId readSeq
  ConversationHandler.getUnreadCount db userId (queryValue params "conversation_id")
    (queryValue params "read_seq")

/-- The body `getConversationListPage` posts: `with_last_message`, `limit` when it is positive
and the cursor's fields when a cursor is given, the fields left out binding to zero values. -/
def getConversationListPageRequest (withLastMessage : Bool) (limit : Int64)
    (cursor : Option ConversationListCursor) : GetConversationListRequest where
  withLastMessage := some withLastMessage
  limit := if limit > 0 then limit else 0
  cursorUpdatedAt := (cursor.map (·.updatedAt)).getD 0
  cursorConversationId := (cursor.map (·.conversationId)).getD ""

/-- `getConversationListPage`, answered by the handler for the user the request authenticates
as. -/
def getConversationListPage (db : Db) (userId : String) (withLastMessage : Bool)
    (limit : Int64) (cursor : Option ConversationListCursor) :
    Except ServiceError ConversationListResult :=
  ConversationHandler.getConversationList db userId
    (getConversationListPageRequest withLastMessage limit cursor)

/-- `GetAllConversationListWithLastMessage`, and `GetAllConversationList` with `false`. -/
def getAllConversationList (db : Db) (userId : String) (withLastMessage : Bool) :
    Except ServiceError (List ConversationInfo) :=
  ConversationHandler.getAllConversationList db userId ⟨some withLastMessage⟩

/-- `GetConversation`, the conversation sent in the query. -/
def getConversation (db : Db) (userId conversationId : String) :
    Except ServiceError ConversationInfo :=
  ConversationHandler.getConversation db userId
    (queryValue [("conversation_id", conversationId)] "conversation_id")

/-- `MarkRead`: the conversation and the seq go in the JSON body; the answer is the store
after the write. -/
def markRead (db : Db) (userId conversationId : String) (readSeq : Int64) :
    Except ServiceError Db :=
  ConversationHandler.markRead db userId ⟨conversationId, readSeq⟩

/-! ### `GetUnreadCount` -/

@[simp] theorem queryValue_conversationId (conversationId : String) (readSeq : Int64) :
    queryValue (getUnreadCountParams conversationId readSeq) "conversation_id" =
      conversationId := by
  simp [queryValue, getUnreadCountParams]

/-- The handler parses back the `read_seq` the SDK sends, and `0` when it sends none. -/
theorem parseInt_readSeq (conversationId : String) (readSeq : Int64) :
    (parseInt (queryValue (getUnreadCountParams conversationId readSeq) "read_seq")).1 =
      if readSeq > 0 then readSeq else 0 := by
  unfold queryValue getUnreadCountParams
  split_ifs
  · have hkey : ("conversation_id" : String) ≠ "read_seq" := by decide
    simp [hkey, parseInt_formatInt]
  · rfl

/-- The SDK's unread count when the conversation's seq state reads `(m, c)`: `m − r` floored
at `0` in `int64`, `r` being `readSeq` when it is positive and `c` otherwise. -/
theorem getUnreadCount_eq_ite {db : Db} {userId conversationId : String} (readSeq : Int64)
    {m c : Int64} (hu : userId ≠ "") (hconv : conversationId ≠ "")
    (hm : NexoIm.getMaxReadSeq db userId conversationId = .ok (m, c)) :
    getUnreadCount db userId conversationId readSeq =
      .ok (let r := if readSeq > 0 then readSeq else c; if m - r < 0 then 0 else m - r) := by
  have hr : (if (if readSeq > 0 then readSeq else 0) = 0 then c
      else if readSeq > 0 then readSeq else 0) = if readSeq > 0 then readSeq else c := by
    by_cases h : readSeq > 0
    · simp only [if_pos h, if_neg (ne_of_gt h)]
    · simp only [if_neg h, if_true]
  simp only [getUnreadCount, queryValue_conversationId, getUnreadCount_eq _ hu hconv hm,
    parseInt_readSeq, hr]

/-- An answer of the SDK's `GetUnreadCount` comes from a caller, a conversation and the seq
state `GetMaxReadSeq` reads. -/
theorem getMaxReadSeq_of_getUnreadCount {db : Db} {userId conversationId : String}
    {readSeq u : Int64} (h : getUnreadCount db userId conversationId readSeq = .ok u) :
    userId ≠ "" ∧ conversationId ≠ "" ∧
      ∃ m c, NexoIm.getMaxReadSeq db userId conversationId = .ok (m, c) := by
  simp only [getUnreadCount, queryValue_conversationId, ConversationHandler.getUnreadCount] at h
  split at h
  · cases h
  split at h
  · cases h
  split at h
  · cases h
  · exact ⟨‹_›, ‹_›, _, _, ‹_›⟩

/-- **The SDK's unread count.** For a conversation with `max_seq = m` and the caller's
`read_seq = c`, `0 ≤ c ≤ m`, and every `readSeq` the caller passes: the count is
`max(0, m − r)`, computed exactly, `r` being `readSeq` when it is positive and `c` otherwise,
and lies in `[0, m]`. -/
theorem getUnreadCount_eq_max {db : Db} {userId conversationId : String} (readSeq : Int64)
    {m c : Int64} (hu : userId ≠ "") (hconv : conversationId ≠ "")
    (hm : NexoIm.getMaxReadSeq db userId conversationId = .ok (m, c)) (hc : 0 ≤ c)
    (hcm : c ≤ m) :
    ∃ u, getUnreadCount db userId conversationId readSeq = .ok u ∧ 0 ≤ u ∧ u ≤ m ∧
      u.val = max 0 (m.val - (if readSeq > 0 then readSeq else c).val) := by
  have hm0 : 0 ≤ m := hc.trans hcm
  have hr0 : 0 ≤ (if readSeq > 0 then readSeq else c) := by
    split_ifs with h
    · exact le_of_lt h
    · exact hc
  exact ⟨_, getUnreadCount_eq_ite readSeq hu hconv hm, (unread_le hm0 hr0).1,
    (unread_le hm0 hr0).2, unread_val hm0 hr0⟩

theorem getUnreadCount_eq_max_readSeqDb :
    ("u1" ≠ "" ∧ "c1" ≠ "" ∧ NexoIm.getMaxReadSeq readSeqDb "u1" "c1" = .ok (5, 3) ∧
      (0 : Int64) ≤ 3 ∧ (3 : Int64) ≤ 5) ∧
    ∃ u, getUnreadCount readSeqDb "u1" "c1" (-1) = .ok u ∧ 0 ≤ u ∧ u ≤ 5 ∧
      u.val = max 0 ((5 : Int64).val - (if (-1 : Int64) > 0 then (-1 : Int64) else 3).val) :=
  have h : NexoIm.getMaxReadSeq readSeqDb "u1" "c1" = .ok (5, 3) := rfl
  ⟨⟨by decide, by decide, h, by decide, by decide⟩,
    getUnreadCount_eq_max (-1) (by decide) (by decide) h (by decide) (by decide)⟩

/-! ### The page request -/

theorem serviceLimit_request (withLastMessage : Bool) (limit : Int64)
    (cursor : Option ConversationListCursor) :
    serviceLimit (getConversationListPageRequest withLastMessage limit cursor).limit =
      serviceLimit limit := by
  dsimp only [getConversationListPageRequest]
  split_ifs with h
  · rfl
  · unfold serviceLimit
    rw [if_pos (le_refl 0), if_pos (not_lt.1 h)]

/-- The handler rejects the SDK's request exactly for a limit above 100 or a cursor with one
field set, and passes it to the service otherwise. -/
theorem getConversationListPage_service (db : Db) {userId : String} (hu : userId ≠ "")
    (withLastMessage : Bool) (limit : Int64) (cursor : Option ConversationListCursor) :
    getConversationListPage db userId withLastMessage limit cursor =
      let req := getConversationListPageRequest withLastMessage limit cursor
      if 100 < limit ∨ (0 < req.cursorUpdatedAt ∧ req.cursorConversationId = "") ∨
          (req.cursorConversationId ≠ "" ∧ req.cursorUpdatedAt ≤ 0) then
        .error (.code .errInvalidParam)
      else getUserConversationsPage db userId withLastMessage req.limit req.cursorUpdatedAt
        req.cursorConversationId := by
  have hlimit : (getConversationListPageRequest withLastMessage limit cursor).limit < 0 ∨
      (getConversationListPageRequest withLastMessage limit cursor).limit >
        maxConversationListLimit ↔ 100 < limit := by
    have h100 : maxConversationListLimit.val = 100 := rfl
    have h100' : (100 : Int64).val = 100 := rfl
    dsimp only [getConversationListPageRequest]
    split_ifs with h <;>
      simp only [gt_iff_lt, Int64.lt_iff, Int64.val_zero, h100, h100'] at h ⊢ <;> omega
  dsimp only [getConversationListPage, ConversationHandler.getConversationList]
  simp only [if_neg hu, Option.getD_some, hlimit, gt_iff_lt, ite_or]
  rfl

/-- **The server's answer to the SDK's page request.** For a user the request authenticates
as, every `withLastMessage`, limit and cursor: the request is rejected as invalid exactly when
the limit is above 100 or the cursor sets one of its fields and not the other (a timestamp
that is not positive counting as unset); otherwise the answer is the page of
`serviceLimit limit` rows after the cursor, 20 rows for a limit that is not positive. -/
theorem getConversationListPage_eq (db : Db) {userId : String} (hu : userId ≠ "")
    (withLastMessage : Bool) (limit : Int64) (cursor : Option ConversationListCursor) :
    getConversationListPage db userId withLastMessage limit cursor =
      let t : Int64 := (cursor.map (·.updatedAt)).getD 0
      let id : String := (cursor.map (·.conversationId)).getD ""
      if 100 < limit ∨ (0 < t ∧ id = "") ∨ (id ≠ "" ∧ t ≤ 0) then .error (.code .errInvalidParam)
      else .ok (pageOf db withLastMessage (serviceLimit limit)
        (rowsAfter (sortedRows db userId) t id)) := by
  rw [getConversationListPage_service db hu]
  dsimp only
  rw [getUserConversationsPage_eq, serviceLimit_request]
  rfl

theorem getConversationListPage_eq_pagingDb :
    "u1" ≠ "" ∧ getConversationListPage pagingDb "u1" false (-5) none =
      .ok (pageOf pagingDb false 20 (sortedRows pagingDb "u1")) :=
  ⟨by decide, getConversationListPage_eq pagingDb (by decide) false (-5) none⟩

example : getConversationListPage pagingDb "u1" false 2 (some ⟨0, "c3"⟩) =
    .error (.code .errInvalidParam) := by
  rfl

/-- From no cursor or a whole one, and with a limit up to 100, the SDK's page request is
answered with the page of `serviceLimit limit` rows after the cursor. -/
theorem getConversationListPage_of_start (db : Db) {userId : String} (hu : userId ≠ "")
    (withLastMessage : Bool) {limit : Int64} (hlimit : ¬ 100 < limit)
    {cursor : Option ConversationListCursor}
    (hstart : ∀ c, cursor = some c → hasCursor c.updatedAt c.conversationId) :
    getConversationListPage db userId withLastMessage limit cursor =
      .ok (pageOf db withLastMessage (serviceLimit limit) (rowsAfter (sortedRows db userId)
        ((cursor.map (·.updatedAt)).getD 0) ((cursor.map (·.conversationId)).getD ""))) := by
  have hok : ¬ (100 < limit ∨
      (0 < (cursor.map (·.updatedAt)).getD 0 ∧ (cursor.map (·.conversationId)).getD "" = "") ∨
      ((cursor.map (·.conversationId)).getD "" ≠ "" ∧ (cursor.map (·.updatedAt)).getD 0 ≤ 0)) := by
    cases cursor with
    | none => simpa using hlimit
    | some c =>
      obtain ⟨ht, hid⟩ := hstart c rfl
      simp [hid, not_le.2 ht, hlimit]
  rw [getConversationListPage_service db hu]
  dsimp only
  split_ifs with h
  · exact absurd h hok
  · rw [getUserConversationsPage_eq, serviceLimit_request]
    rfl

/-- A client of the SDK paging through the list: it asks with each limit in turn, from `cursor`
on, following `NextCursor` while `HasMore`. -/
def followPages (db : Db) (userId : String) (withLastMessage : Bool) :
    List Int64 → Option ConversationListCursor →
      Except ServiceError (List ConversationListResult)
  | [], _ => .ok []
  | limit :: limits, cursor =>
    match getConversationListPage db userId withLastMessage limit cursor with
    | .error e => .error e
    | .ok p =>
      if p.hasMore then (followPages db userId withLastMessage limits p.nextCursor).map (p :: ·)
      else .ok [p]

/-- The rows a client asks for with a run of limits: their page sizes added up. -/
def totalPageSize : List Int64 → Nat
  | [] => 0
  | limit :: limits => serviceLimit limit + totalPageSize limits

/-- **Paging through the SDK.** In a store whose rows carry positive timestamps and non-empty
ids, a client that starts from no cursor or a whole one and asks with limits up to 100 is
answered at every request; the lists it gets, in order, are the first rows after its start
cursor, as many as the page sizes of its limits add up to, with no row repeated or skipped; and
when it stops because a page has no more, it has seen every row after the start cursor. -/
theorem followPages_spec (db : Db) {userId : String}
    (hrows : ∀ c ∈ db.conversations, c.ownerId = userId →
      0 < c.updatedAt ∧ c.conversationId ≠ "") (hu : userId ≠ "") (withLastMessage : Bool)
    (limits : List Int64) (hlimits : ∀ limit ∈ limits, ¬ 100 < limit)
    (cursor : Option ConversationListCursor)
    (hstart : ∀ c, cursor = some c → hasCursor c.updatedAt c.conversationId) :
    ∃ pages, followPages db userId withLastMessage limits cursor = .ok pages ∧
      (pages.map (·.list)).flatten =
        ((rowsAfter (sortedRows db userId) ((cursor.map (·.updatedAt)).getD 0)
          ((cursor.map (·.conversationId)).getD "")).take (totalPageSize limits)).map
            (rowInfo db withLastMessage) ∧
      ∀ p ∈ pages.getLast?, p.hasMore = false →
        (pages.map (·.list)).flatten =
          (rowsAfter (sortedRows db userId) ((cursor.map (·.updatedAt)).getD 0)
            ((cursor.map (·.conversationId)).getD "")).map (rowInfo db withLastMessage) := by
  induction limits generalizing cursor with
  | nil => exact ⟨[], rfl, by simp [totalPageSize], by simp⟩
  | cons limit limits ih =>
    have hlimit := hlimits limit (List.mem_cons_self _ _)
    generalize hR : rowsAfter (sortedRows db userId) ((cursor.map (·.updatedAt)).getD 0)
      ((cursor.map (·.conversationId)).getD "") = R
    rw [followPages, getConversationListPage_of_start db hu withLastMessage hlimit hstart, hR]
    dsimp only
    by_cases hm : serviceLimit limit < R.length
    · have hmore : (pageOf db withLastMessage (serviceLimit limit) R).hasMore = true := by
        simpa [pageOf] using hm
      obtain ⟨c, hc, hcur, hafter⟩ := rowsAfter_nextCursor db hrows withLastMessage
        (serviceLimit_pos limit) _ _ (hR ▸ hm)
      rw [hR] at hc hafter
      obtain ⟨pages, hpages, hflat, hlast⟩ :=
        ih (fun l h => hlimits l (List.mem_cons_of_mem _ h)) (some c)
          (fun c' h => Option.some.inj h ▸ hcur)
      simp only [Option.map_some', Option.getD_some, hafter] at hflat hlast
      refine ⟨_ :: pages, by rw [if_pos hmore, hc, hpages]; rfl, ?_, ?_⟩
      · rw [List.map_cons, List.flatten_cons, hflat, totalPageSize,
          List.take_add, List.map_append]
        rfl
      · intro p hp hpm
        cases pages with
        | nil =>
          rw [List.getLast?_singleton, Option.mem_some_iff] at hp
          subst hp
          rw [hmore] at hpm
          cases hpm
        | cons q qs =>
          rw [List.getLast?_cons_cons] at hp
          rw [List.map_cons, List.flatten_cons, hlast p hp hpm]
          exact (List.map_append _ _ _).symm.trans (congrArg _ (List.take_append_drop _ R))
    · have hmore : (pageOf db withLastMessage (serviceLimit limit) R).hasMore = false := by
        simpa [pageOf] using hm
      have hall : ∀ n, serviceLimit limit ≤ n → R.take n = R :=
        fun n hn => List.take_of_length_le (by omega)
      refine ⟨[_], by rw [if_neg (by rw [hmore]; decide)], ?_, fun _ _ _ => ?_⟩ <;>
        simp only [List.map_cons, List.map_nil, List.flatten_cons, List.flatten_nil,
          List.append_nil, totalPageSize, pageOf, hall _ (le_refl _), hall _ (Nat.le_add_right _ _)]

theorem followPages_spec_pagingDb :
    (∀ c ∈ pagingDb.conversations, c.ownerId = "u1" →
      0 < c.updatedAt ∧ c.conversationId ≠ "") ∧ "u1" ≠ "" ∧
    (∀ limit ∈ [(1 : Int64), 1, 5], ¬ 100 < limit) ∧
    (∀ c, (none : Option ConversationListCursor) = some c →
      hasCursor c.updatedAt c.conversationId) ∧
    ∃ pages, followPages pagingDb "u1" false [1, 1, 5] none = .ok pages ∧
      (pages.map (·.list)).flatten =
        ((rowsAfter (sortedRows pagingDb "u1") 0 "").take
          (totalPageSize [1, 1, 5])).map (rowInfo pagingDb false) ∧
      ∀ p ∈ pages.getLast?, p.hasMore = false →
        (pages.map (·.list)).flatten =
          (rowsAfter (sortedRows pagingDb "u1") 0 "").map (rowInfo pagingDb false) :=
  have hrows : ∀ c ∈ pagingDb.conversations, c.ownerId = "u1" →
      0 < c.updatedAt ∧ c.conversationId ≠ "" := by decide
  have hlimits : ∀ limit ∈ [(1 : Int64), 1, 5], ¬ 100 < limit := by decide
  have hstart : ∀ c, (none : Option ConversationListCursor) = some c →
      hasCursor c.updatedAt c.conversationId := fun _ h => nomatch h
  ⟨hrows, by decide, hlimits, hstart,
    followPages_spec pagingDb hrows (by decide) false [1, 1, 5] hlimits none hstart⟩

example : (followPages pagingDb "u1" false [1, 1, 5] none).map
    (·.map fun p => (p.list.map (·.conversationId), p.hasMore)) =
    .ok [(["c1"], true), (["c3"], true), (["c2"], false)] := by
  rfl

/-! ### Over a run of the server -/

/-- What `GetMaxReadSeq` reads is the stored `max_seq` and the caller's `read_seq`. -/
theorem eq_of_getMaxReadSeq {db : Db} {userId conversationId : String} {m c : Int64}
    (hm : NexoIm.getMaxReadSeq db userId conversationId = .ok (m, c)) :
    m = maxSeqOf db conversationId ∧ c = readSeqOf db userId conversationId := by
  unfold NexoIm.getMaxReadSeq at hm
  split at hm
  · cases hm
  rename_i seqConv hseq
  simp only [Except.ok.injEq, Prod.mk.injEq] at hm
  obtain ⟨rfl, rfl⟩ := hm
  exact ⟨by rw [maxSeqOf, hseq], rfl⟩

section Runs

variable (p : Primitives) (tp : TokenParsers) (testEnv : Bool) (cfg : Option Config)
  (sendMessage : Int64 → AuthContext → RequestContext → Db → Db)

/-- **The unread count over a run of the server.** From a store that satisfies `SeqInv`, and
for any run of allocations and requests that send no message (through the router and the
middleware, whatever their tokens): when the SDK's `GetUnreadCount` with any `readSeq`
answers `u` before the run and `u'` after it, `u'` lies in `[0, max_seq]`, exceeds `u` by at
most the seqs allocated in the conversation meanwhile, and over requests alone does not
exceed `u`: no such request raises a client's unread count. -/
theorem runServer_unreadCount {db : Db} (h : SeqInv db) {events : List ServerEvent}
    (hsend : ∀ e ∈ events, e.isSend p tp testEnv cfg = false)
    {userId conversationId : String} {readSeq u u' : Int64}
    (hb : getUnreadCount db userId conversationId readSeq = .ok u)
    (ha : getUnreadCount (runServer p tp testEnv cfg sendMessage db events) userId
      conversationId readSeq = .ok u') :
    0 ≤ u' ∧ u' ≤ maxSeqOf (runServer p tp testEnv cfg sendMessage db events) conversationId ∧
      u'.val ≤ u.val +
        ((maxSeqOf (runServer p tp testEnv cfg sendMessage db events) conversationId).val -
          (maxSeqOf db conversationId).val) ∧
      ((∀ e ∈ events, e.isRequest) → u' ≤ u) := by
  have hinv := runServer_seqInv p tp testEnv cfg sendMessage h hsend
  obtain ⟨hu, hconv, m, c, hm⟩ := getMaxReadSeq_of_getUnreadCount hb
  obtain ⟨-, -, m', c', hm'⟩ := getMaxReadSeq_of_getUnreadCount ha
  obtain ⟨rfl, rfl⟩ := eq_of_getMaxReadSeq hm
  obtain ⟨rfl, rfl⟩ := eq_of_getMaxReadSeq hm'
  rw [getUnreadCount_eq_ite readSeq hu hconv hm, Except.ok.injEq] at hb
  rw [getUnreadCount_eq_ite readSeq hu hconv hm', Except.ok.injEq] at ha
  subst hb ha
  obtain ⟨hc0, -⟩ := h.readSeq_mem userId conversationId
  obtain ⟨hc0', -⟩ := hinv.readSeq_mem userId conversationId
  have hcc := runServer_readSeqOf_le p tp testEnv cfg sendMessage db hsend userId conversationId
  obtain ⟨hmm, hmeq⟩ := runServer_maxSeqOf p tp testEnv cfg sendMessage db hsend conversationId
  have hr0 : ∀ c : Int64, 0 ≤ c → 0 ≤ (if readSeq > 0 then readSeq else c) := fun c hc => by
    split_ifs with hr
    exacts [le_of_lt hr, hc]
  have hrr : (if readSeq > 0 then readSeq else readSeqOf db userId conversationId) ≤
      (if readSeq > 0 then readSeq else
        readSeqOf (runServer p tp testEnv cfg sendMessage db events) userId conversationId) := by
    split_ifs
    exacts [le_rfl, hcc]
  have hv := unread_val (h.maxSeq_nonneg conversationId) (hr0 _ hc0)
  have hv' := unread_val (hinv.maxSeq_nonneg conversationId) (hr0 _ hc0')
  obtain ⟨hl0, hle⟩ := unread_le (hinv.maxSeq_nonneg conversationId) (hr0 _ hc0')
  dsimp only
  refine ⟨hl0, hle, ?_, fun hreq => ?_⟩
  · rw [hv, hv']
    rw [Int64.le_iff] at hrr hmm
    omega
  · rw [Int64.le_iff, hv, hv', hmeq hreq]
    rw [Int64.le_iff] at hrr
    omega

end Runs

/-- `u1` marks `c1` read up to `3`. -/
def markReadParams3 : ConversationParams := ⟨"", ⟨"c1", 3⟩, ⟨none, none⟩⟩

/-- The server of the examples: the SDK's store, with a message send left as it is. -/
def exampleServer (db : Db) (events : List ServerEvent) : Db :=
  runServer constPrimitives oneTokenParsers false (some internalConfig) (fun _ _ _ db => db) db
    events

theorem runServer_unreadCount_markRead :
    let db := exampleServer Db.empty [.allocate "c1" 5]
    let events : List ServerEvent :=
      [.request 1700000000 markReadRequest markReadParams3, .allocate "c1" 2]
    SeqInv db ∧
    (∀ e ∈ events, e.isSend constPrimitives oneTokenParsers false (some internalConfig) = false) ∧
    getUnreadCount db "u1" "c1" 0 = .ok 5 ∧
    getUnreadCount (exampleServer db events) "u1" "c1" 0 = .ok 4 ∧
    (0 ≤ (4 : Int64) ∧ (4 : Int64) ≤ maxSeqOf (exampleServer db events) "c1" ∧
      (4 : Int64).val ≤ (5 : Int64).val +
        ((maxSeqOf (exampleServer db events) "c1").val - (maxSeqOf db "c1").val) ∧
      ((∀ e ∈ events, e.isRequest) → (4 : Int64) ≤ 5)) :=
  have h : SeqInv (exampleServer Db.empty [.allocate "c1" 5]) :=
    runServer_seqInv constPrimitives oneTokenParsers false (some internalConfig) _ seqInv_empty
      (by decide)
  have hsend : ∀ e ∈ [ServerEvent.request 1700000000 markReadRequest markReadParams3,
      .allocate "c1" 2], e.isSend constPrimitives oneTokenParsers false (some internalConfig) =
        false := by decide
  have hb : getUnreadCount (exampleServer Db.empty [.allocate "c1" 5]) "u1" "c1" 0 = .ok 5 := by
    rfl
  have ha : getUnreadCount (exampleServer (exampleServer Db.empty [.allocate "c1" 5])
      [.request 1700000000 markReadRequest markReadParams3, .allocate "c1" 2])
      "u1" "c1" 0 = .ok 4 := by rfl
  ⟨h, hsend, hb, ha, runServer_unreadCount constPrimitives oneTokenParsers false
    (some internalConfig) _ h hsend hb ha⟩

end Client

end NexoIm

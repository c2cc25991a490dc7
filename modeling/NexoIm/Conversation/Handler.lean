import NexoIm.Conversation.Service
import NexoIm.Go.Strconv

/-!
# The conversation handlers (`ConversationHandler`)

The handlers check the caller and the request, then call the service. The caller is
`middleware.GetUserId`, empty when the request carries none; a request is taken as bound
(`BindAndValidate` succeeded).

* `getAllConversationList` and `getConversation` forward to the service;
* `getConversationList`: `0 ≤ limit ≤ 100`, and a cursor given whole or not at all;
* `getMaxReadSeq`, `getUnreadCount`: `unread = max(0, max_seq − read_seq)` in `int64`,
  where `getUnreadCount` takes `read_seq` from the query when it parses to a non-zero value;
* the unread count is never negative; with a non-negative query value, or none, it lies in
  `[0, max_seq]` and is computed without wrap-around, and without one it is the count of
  `getMaxReadSeq` and of `getConversation`; a negative value is subtracted as it is, and the
  count is `0` where the difference wraps (`getUnreadCount_spec`).
-/

namespace NexoIm

/-- `GetAllConversationListRequest`. -/
structure GetAllConversationListRequest where
  withLastMessage : Option Bool

/-- `GetConversationListRequest`. -/
structure GetConversationListRequest where
  withLastMessage : Option Bool
  limit : Int64
  cursorUpdatedAt : Int64
  cursorConversationId : String

/-- The answer of the `GetMaxReadSeq` handler. -/
structure MaxReadSeqResponse where
  maxSeq : Int64
  readSeq : Int64
  unreadCount : Int64
  deriving DecidableEq

namespace ConversationHandler

/-- `GetAllConversationList`. -/
def getAllConversationList (db : Db) (userId : String) (req : GetAllConversationListRequest) :
    Except ServiceError (List ConversationInfo) :=
  if userId = "" then .error (.code .errUnauthorized)
  else getAllUserConversations db userId (req.withLastMessage.getD false)

/-- `GetConversationList`. -/
def getConversationList (db : Db) (userId : String) (req : GetConversationListRequest) :
    Except ServiceError ConversationListResult :=
  if userId = "" then .error (.code .errUnauthorized)
  else
    let withLastMessage := req.withLastMessage.getD false
    if req.limit < 0 ∨ req.limit > maxConversationListLimit then .error (.code .errInvalidParam)
    else if req.cursorUpdatedAt > 0 ∧ req.cursorConversationId = "" then
      .error (.code .errInvalidParam)
    else if req.cursorConversationId ≠ "" ∧ req.cursorUpdatedAt ≤ 0 then
      .error (.code .errInvalidParam)
    else
      getUserConversationsPage db userId withLastMessage req.limit req.cursorUpdatedAt
        req.cursorConversationId

/-- `GetConversation`; `conversationId` is the `conversation_id` query parameter. -/
def getConversation (db : Db) (userId conversationId : String) :
    Except ServiceError ConversationInfo :=
  if userId = "" then .error (.code .errUnauthorized)
  else if conversationId = "" then .error (.code .errInvalidParam)
  else NexoIm.getConversation db userId conversationId

/-- `GetMaxReadSeq`. -/
def getMaxReadSeq (db : Db) (userId conversationId : String) :
    Except ServiceError MaxReadSeqResponse :=
  if userId = "" then .error (.code .errUnauthorized)
  else if conversationId = "" then .error (.code .errInvalidParam)
  else
    match NexoIm.getMaxReadSeq db userId conversationId with
    | .error e => .error e
    | .ok (maxSeq, readSeq) =>
      let unreadCount := maxSeq - readSeq
      .ok ⟨maxSeq, readSeq, if unreadCount < 0 then 0 else unreadCount⟩

/-- `GetUnreadCount`; `readSeqStr` is the `read_seq` query parameter, empty when absent, and
the error of `ParseInt` is ignored. -/
def getUnreadCount (db : Db) (userId conversationId readSeqStr : String) :
    Except ServiceError Int64 :=
  if userId = "" then .error (.code .errUnauthorized)
  else if conversationId = "" then .error (.code .errInvalidParam)
  else
    let readSeq := (parseInt readSeqStr).1
    match NexoIm.getMaxReadSeq db userId conversationId with
    | .error e => .error e
    | .ok (maxSeq, currentReadSeq) =>
      let readSeq := if readSeq = 0 then currentReadSeq else readSeq
      let unreadCount := maxSeq - readSeq
      .ok (if unreadCount < 0 then 0 else unreadCount)

end ConversationHandler

/-! ### The unread count -/

/-- The clamp of `GetUnreadCount` never gives a negative count, whatever wraps. -/
theorem unread_nonneg (m r : Int64) : 0 ≤ (if m - r < 0 then 0 else m - r) := by
  split_ifs with h
  exacts [le_rfl, not_lt.1 h]

/-- `max(0, m - r)` in `int64` is exact for `m` and `r` that are not negative. -/
theorem unread_val {m r : Int64} (hm : 0 ≤ m) (hr : 0 ≤ r) :
    (if m - r < 0 then 0 else m - r).val = max 0 (m.val - r.val) := by
  rw [Int64.le_iff, Int64.val_zero] at hm hr
  have := m.val_le; have := r.val_le
  have hw : (m - r).val = m.val - r.val := by
    rw [Int64.val_sub, wrap_of_inInt64]; constructor <;> omega
  split_ifs with h <;> rw [Int64.lt_iff, hw, Int64.val_zero] at * <;> omega

theorem unread_le {m r : Int64} (hm : 0 ≤ m) (hr : 0 ≤ r) :
    0 ≤ (if m - r < 0 then 0 else m - r) ∧ (if m - r < 0 then 0 else m - r) ≤ m := by
  have h := unread_val hm hr
  rw [Int64.le_iff, Int64.val_zero] at hm hr
  simp only [Int64.le_iff, Int64.val_zero, h]
  omega

/-- A negative `r` is subtracted as it is: `m - r` is exact when it fits in `int64`, and when
it does not it wraps below zero and is clamped to `0`. -/
theorem unread_val_of_neg {m r : Int64} (hm : 0 ≤ m) (hr : r < 0) :
    (if m - r < 0 then 0 else m - r).val =
      if InInt64 (m.val - r.val) then m.val - r.val else 0 := by
  rw [Int64.lt_iff, Int64.val_zero] at hr
  rw [Int64.le_iff, Int64.val_zero] at hm
  have := m.val_le; have := r.val_ge
  by_cases hfit : InInt64 (m.val - r.val)
  · have hw : (m - r).val = m.val - r.val := by rw [Int64.val_sub, wrap_of_inInt64 hfit]
    rw [if_pos hfit, if_neg (by rw [Int64.lt_iff, hw, Int64.val_zero]; omega), hw]
  · have hw : (m - r).val = m.val - r.val - 18446744073709551616 := by
      unfold InInt64 at hfit
      rw [Int64.val_sub, wrap_of_maxInt64_lt (by omega) (by omega)]
    rw [if_neg hfit, if_pos (by rw [Int64.lt_iff, hw, Int64.val_zero]; omega), Int64.val_zero]

theorem getUnreadCount_eq {db : Db} {userId conversationId : String} (q : String) {m c : Int64}
    (hu : userId ≠ "") (hconv : conversationId ≠ "")
    (hm : getMaxReadSeq db userId conversationId = .ok (m, c)) :
    ConversationHandler.getUnreadCount db userId conversationId q =
      .ok (let r := if (parseInt q).1 = 0 then c else (parseInt q).1
           if m - r < 0 then 0 else m - r) := by
  simp only [ConversationHandler.getUnreadCount, hu, hconv, hm, if_false]

theorem getConversation_unreadCount {db : Db} {userId conversationId : String} {m c : Int64}
    (hm : getMaxReadSeq db userId conversationId = .ok (m, c)) {info : ConversationInfo}
    (hi : getConversation db userId conversationId = .ok info) :
    info.unreadCount = if m - c < 0 then 0 else m - c := by
  unfold getMaxReadSeq at hm
  split at hm
  · cases hm
  rename_i seqConv hseq
  simp only [Except.ok.injEq, Prod.mk.injEq] at hm
  obtain ⟨rfl, rfl⟩ := hm
  rcases hg : getByOwnerAndConvId db userId conversationId with e | _ | conv <;>
    simp only [getConversation, hg, hseq] at hi <;> cases hi
  rfl

/-- **The unread count of `GetUnreadCount`.** For a conversation with `max_seq = m` and a
caller's `read_seq = c`, `0 ≤ c ≤ m`, and every query string: the count is never negative. Let
`r` be the value `ParseInt` returns for the query (`0` for an absent or malformed one, which
selects `c`). When `r` is not negative the count is `max(0, m − r)`, computed exactly, and lies
in `[0, m]`. A negative `r` is subtracted as it is: the count is `m − r`, above `m`, when that
fits in `int64`, and `0` when it wraps. Without the query the count is `max(0, m − c)`, the
count of the `GetMaxReadSeq` handler and of `GetConversation`. -/
theorem getUnreadCount_spec {db : Db} {userId conversationId : String} (q : String) {m c : Int64}
    (hu : userId ≠ "") (hconv : conversationId ≠ "")
    (hm : getMaxReadSeq db userId conversationId = .ok (m, c)) (hc : 0 ≤ c) (hcm : c ≤ m) :
    ∃ u, ConversationHandler.getUnreadCount db userId conversationId q = .ok u ∧ 0 ≤ u ∧
      (0 ≤ (parseInt q).1 →
        u ≤ m ∧
        u.val = max 0 (m.val - (if (parseInt q).1 = 0 then c else (parseInt q).1).val)) ∧
      ((parseInt q).1 < 0 →
        u.val = if InInt64 (m.val - (parseInt q).1.val) then m.val - (parseInt q).1.val
          else 0) ∧
      (q = "" →
        u.val = max 0 (m.val - c.val) ∧
        ConversationHandler.getMaxReadSeq db userId conversationId = .ok ⟨m, c, u⟩ ∧
        ∀ info, getConversation db userId conversationId = .ok info → info.unreadCount = u) := by
  have hm0 : 0 ≤ m := hc.trans hcm
  refine ⟨_, getUnreadCount_eq q hu hconv hm, ?_, fun hr => ?_, fun hr => ?_, fun hq => ?_⟩
  · exact unread_nonneg _ _
  · have hr' : 0 ≤ (if (parseInt q).1 = 0 then c else (parseInt q).1) := by
      split_ifs <;> assumption
    exact ⟨(unread_le hm0 hr').2, unread_val hm0 hr'⟩
  · dsimp only
    rw [if_neg (ne_of_lt hr)]
    exact unread_val_of_neg hm0 hr
  · have h0 : (parseInt q).1 = 0 := by subst hq; rfl
    simp only [h0, if_true]
    refine ⟨unread_val hm0 hc, ?_, fun info hi => getConversation_unreadCount hm hi⟩
    simp only [ConversationHandler.getMaxReadSeq, hu, hconv, hm, if_false]

/-- A conversation `c1` with `max_seq = 5`, read by `u1` up to `3`. -/
def readSeqDb : Db where
  conversations := [⟨"u1", "c1", 1, "u2", "", 0, false, 1700000000⟩]
  conversationSeqs := [⟨"c1", 5⟩]
  seqUsers := [⟨"u1", "c1", 3⟩]
  messages := []
  conversations_key := by decide
  conversationSeqs_key := by decide
  seqUsers_key := by decide
  messages_key := by decide

theorem getUnreadCount_spec_readSeqDb :
    ("u1" ≠ "" ∧ "c1" ≠ "" ∧ getMaxReadSeq readSeqDb "u1" "c1" = .ok (5, 3) ∧
      (0 : Int64) ≤ 3 ∧ (3 : Int64) ≤ 5) ∧
    ∃ u, ConversationHandler.getUnreadCount readSeqDb "u1" "c1" "" = .ok u ∧ 0 ≤ u ∧
      (0 ≤ (parseInt "").1 →
        u ≤ 5 ∧
        u.val =
          max 0 ((5 : Int64).val - (if (parseInt "").1 = 0 then 3 else (parseInt "").1).val)) ∧
      ((parseInt "").1 < 0 →
        u.val = if InInt64 ((5 : Int64).val - (parseInt "").1.val)
          then (5 : Int64).val - (parseInt "").1.val else 0) ∧
      ("" = "" →
        u.val = max 0 ((5 : Int64).val - (3 : Int64).val) ∧
        ConversationHandler.getMaxReadSeq readSeqDb "u1" "c1" = .ok ⟨5, 3, u⟩ ∧
        ∀ info, getConversation readSeqDb "u1" "c1" = .ok info → info.unreadCount = u) :=
  have h : getMaxReadSeq readSeqDb "u1" "c1" = .ok (5, 3) := rfl
  ⟨⟨by decide, by decide, h, by decide, by decide⟩,
    getUnreadCount_spec "" (by decide) (by decide) h (by decide) (by decide)⟩

/-- **A negative `read_seq` query.** With `max_seq = 5` and `read_seq = 3`, the query
`read_seq=-1` gives an unread count of `6`, above `max_seq`. -/
theorem getUnreadCount_query_negative :
    getMaxReadSeq readSeqDb "u1" "c1" = .ok (5, 3) ∧
    ConversationHandler.getUnreadCount readSeqDb "u1" "c1" "-1" = .ok 6 := by
  constructor <;> rfl

end NexoIm

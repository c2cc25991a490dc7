import NexoIm.Conversation.Repository

/-!
# The conversation service (`ConversationService`)

* `buildConversationInfos`: one info per row, in order; with `withLastMessage`, one batched
  `BatchGetByConvSeq` call keyed by every row's `MaxSeq > 0`;
* `getAllUserConversations`, `getUserConversationsPage` (fetch `limit + 1` rows to compute
  `HasMore`, keep `limit`, cursor at the last row kept), `getConversation`,
  `getMaxReadSeq`;
* for rows with distinct conversation ids, the batched call gives each row the message
  stored at exactly its `MaxSeq` (`buildConversationInfos_lastMessage`): a conversation whose highest
  allocated seq was abandoned gets no last message, though earlier ones are stored
  (`buildConversationInfos_abandoned_seq`).
-/

namespace NexoIm

/-- `DefaultConversationListLimit`. -/
def defaultConversationListLimit : Int64 := 20

/-- `MaxConversationListLimit`. -/
def maxConversationListLimit : Int64 := 100

/-- One iteration of the `convMaxSeq` loop of `buildConversationInfos`. -/
def addMaxSeq (m : StrMap Int64) (conv : ConversationWithSeq) : StrMap Int64 :=
  if conv.maxSeq > 0 then m.insert conv.conversationId conv.maxSeq else m

/-- The `convMaxSeq` map: `MaxSeq` of every row with `MaxSeq > 0`. -/
def convMaxSeqOf (convWithSeqs : List ConversationWithSeq) : StrMap Int64 :=
  convWithSeqs.foldl addMaxSeq StrMap.empty

/-- The `ConversationInfo` built from a row, its last message looked up in `lastMsgMap`. -/
def conversationInfoOf (lastMsgMap : StrMap Message) (conv : ConversationWithSeq) :
    ConversationInfo where
  conversationId := conv.conversationId
  conversationType := conv.conversationType
  peerUserId := conv.peerUserId
  groupId := conv.groupId
  recvMsgOpt := conv.recvMsgOpt
  isPinned := conv.isPinned
  unreadCount := conv.unreadCount
  maxSeq := conv.maxSeq
  readSeq := conv.readSeq
  updatedAt := conv.updatedAt
  lastMessage := lastMsgMap conv.conversationId

/-- `buildConversationInfos`. -/
def buildConversationInfos (db : Db) (convWithSeqs : List ConversationWithSeq)
    (withLastMessage : Bool) : Except ServiceError (List ConversationInfo) :=
  let lastMsgMap : Except ServiceError (StrMap Message) :=
    if withLastMessage then
      match batchGetByConvSeq db (convMaxSeqOf convWithSeqs) with
      | .ok m => .ok m
      | .error _ => .error (.code .errInternalServer)
    else .ok StrMap.empty
  lastMsgMap.map fun m => convWithSeqs.map (conversationInfoOf m)

/-- `GetAllUserConversations`. -/
def getAllUserConversations (db : Db) (userId : String) (withLastMessage : Bool) :
    Except ServiceError (List ConversationInfo) :=
  match getUserConversationsWithSeq db userId with
  | .error _ => .error (.code .errInternalServer)
  | .ok convWithSeqs => buildConversationInfos db convWithSeqs withLastMessage

/-- `GetUserConversationsPage`. `len(convWithSeqs) > 0` with `hasMore` is `getLast?`
returning a row. -/
def getUserConversationsPage (db : Db) (userId : String) (withLastMessage : Bool)
    (limit : Int64) (cursorUpdatedAt : Int64) (cursorConversationId : String) :
    Except ServiceError ConversationListResult :=
  let limit := if limit ≤ 0 then defaultConversationListLimit else limit
  let limit := if limit > maxConversationListLimit then maxConversationListLimit else limit
  match getUserConversationsWithSeqPage db userId (limit + 1) cursorUpdatedAt
      cursorConversationId with
  | .error _ => .error (.code .errInternalServer)
  | .ok convWithSeqs =>
    let hasMore := decide ((convWithSeqs.length : Int) > limit.val)
    let convWithSeqs := if hasMore then convWithSeqs.take limit.val.toNat else convWithSeqs
    match buildConversationInfos db convWithSeqs withLastMessage with
    | .error e => .error e
    | .ok list =>
      let nextCursor := if hasMore then
          convWithSeqs.getLast?.map fun last => ⟨last.updatedAt, last.conversationId⟩
        else none
      .ok { list := list, hasMore := hasMore, nextCursor := nextCursor }

/-- `GetConversation`: the owner's row with `unread = max(0, max_seq − read_seq)`, the seq
rows read with their errors ignored. -/
def getConversation (db : Db) (userId conversationId : String) :
    Except ServiceError ConversationInfo :=
  match getByOwnerAndConvId db userId conversationId with
  | .error _ => .error (.code .errInternalServer)
  | .ok none => .error (.code .errConvNotFound)
  | .ok (some conv) =>
    let maxSeq := match getConversationSeqInfo db conversationId with
      | .ok r => r.maxSeq
      | .error _ => 0
    let readSeq := match getSeqUser db userId conversationId with
      | .ok r => r.readSeq
      | .error _ => 0
    let unreadCount := maxSeq - readSeq
    .ok { conversationId := conv.conversationId
          conversationType := conv.conversationType
          peerUserId := conv.peerUserId
          groupId := conv.groupId
          recvMsgOpt := conv.recvMsgOpt
          isPinned := conv.isPinned
          unreadCount := if unreadCount < 0 then 0 else unreadCount
          maxSeq := maxSeq
          readSeq := readSeq
          updatedAt := conv.updatedAt
          lastMessage := none }

/-- `GetMaxReadSeq`: `max_seq`, and the caller's `read_seq` (0 without a row). -/
def getMaxReadSeq (db : Db) (userId conversationId : String) :
    Except ServiceError (Int64 × Int64) :=
  match getConversationSeqInfo db conversationId with
  | .error e => .error (.repo e)
  | .ok seqConv =>
    let readSeq := match getSeqUser db userId conversationId with
      | .ok u => u.readSeq
      | .error _ => 0
    .ok (seqConv.maxSeq, readSeq)

/-! ### The batched last-message lookup -/

theorem foldl_addMaxSeq_of_not_mem (m : StrMap Int64) {cs : List ConversationWithSeq}
    {k : String} (hk : k ∉ cs.map (·.conversationId)) : cs.foldl addMaxSeq m k = m k := by
  induction cs generalizing m with
  | nil => rfl
  | cons c cs ih =>
    simp only [List.map_cons, List.mem_cons, not_or] at hk
    rw [List.foldl_cons, ih _ hk.2]
    unfold addMaxSeq
    split_ifs <;> simp [hk.1]

/-- With distinct conversation ids, the loop maps each row's id to its `MaxSeq` when positive
and leaves it as it was otherwise. -/
theorem foldl_addMaxSeq_apply (m : StrMap Int64) {rows : List ConversationWithSeq}
    (hd : (rows.map (·.conversationId)).Nodup) {conv : ConversationWithSeq} (hc : conv ∈ rows) :
    rows.foldl addMaxSeq m conv.conversationId =
      if conv.maxSeq > 0 then some conv.maxSeq else m conv.conversationId := by
  induction rows generalizing m with
  | nil => cases hc
  | cons c cs ih =>
    rw [List.map_cons, List.nodup_cons] at hd
    rw [List.foldl_cons]
    rcases List.mem_cons.1 hc with rfl | hc
    · rw [foldl_addMaxSeq_of_not_mem _ hd.1]
      unfold addMaxSeq
      split_ifs <;> simp
    · have hne : conv.conversationId ≠ c.conversationId :=
        fun h => hd.1 (h ▸ List.mem_map_of_mem _ hc)
      rw [ih _ hd.2 hc]
      unfold addMaxSeq
      split_ifs <;> simp [hne]

/-- The info of one row on its own: the row's fields, and, when last messages are asked for
and `MaxSeq > 0`, the message stored at `(conversation_id, MaxSeq)`. -/
def rowInfo (db : Db) (withLastMessage : Bool) (conv : ConversationWithSeq) : ConversationInfo :=
  { conversationInfoOf StrMap.empty conv with
    lastMessage := if withLastMessage ∧ conv.maxSeq > 0 then
      getMessage db conv.conversationId conv.maxSeq else none }

/-- For rows with distinct conversation ids, `buildConversationInfos` computes each info from
its row alone. -/
theorem buildConversationInfos_eq (db : Db) {rows : List ConversationWithSeq}
    (hd : (rows.map (·.conversationId)).Nodup) (withLastMessage : Bool) :
    buildConversationInfos db rows withLastMessage = .ok (rows.map (rowInfo db withLastMessage)) := by
  cases withLastMessage
  · rfl
  · show Except.ok (rows.map (conversationInfoOf _)) = _
    congr 1
    refine List.map_congr_left fun conv hc => ?_
    simp only [rowInfo, conversationInfoOf, convMaxSeqOf, foldl_addMaxSeq_apply _ hd hc,
      true_and]
    split_ifs <;> rfl

/-- **What `buildConversationInfos` returns.** For rows with distinct conversation ids: one
info per row, in order, with the row's fields, and as last message the one stored at exactly
`(conversation_id, MaxSeq)` when last messages are asked for and `MaxSeq > 0`, none
otherwise: the single batched lookup agrees with looking up each conversation on its own. -/
theorem buildConversationInfos_lastMessage (db : Db) {rows : List ConversationWithSeq}
    (hd : (rows.map (·.conversationId)).Nodup) (withLastMessage : Bool) :
    (buildConversationInfos db rows withLastMessage).map
        (List.map fun info => { info with lastMessage := none }) =
      .ok (rows.map (conversationInfoOf StrMap.empty)) ∧
    (buildConversationInfos db rows withLastMessage).map (List.map (·.lastMessage)) =
      .ok (rows.map fun conv => if withLastMessage ∧ conv.maxSeq > 0 then
        getMessage db conv.conversationId conv.maxSeq else none) := by
  rw [buildConversationInfos_eq db hd]
  exact ⟨congrArg Except.ok (List.map_map _ _ _), congrArg Except.ok (List.map_map _ _ _)⟩

/-- A store in which the conversation `c1` has `max_seq = 2`, but only the message of seq 1:
seq 2 was allocated and abandoned when its write failed. -/
def abandonedDb : Db where
  conversations := [⟨"u1", "c1", 1, "u2", "", 0, false, 1700000000⟩]
  conversationSeqs := [⟨"c1", 2⟩]
  seqUsers := []
  messages := [⟨"c1", 1, "m1", "u2", "hi"⟩]
  conversations_key := by decide
  conversationSeqs_key := by decide
  seqUsers_key := by decide
  messages_key := by decide

/-- **The last message keyed on exactly `MaxSeq`.** In `abandonedDb`, the list with last
messages gives `c1` none, although the message of seq `1 ≤ MaxSeq = 2` is stored and
`GetAllUserConversations` is to include the latest message of each conversation. -/
theorem buildConversationInfos_abandoned_seq :
    (getAllUserConversations abandonedDb "u1" true).map (·.map fun i => (i.maxSeq, i.lastMessage))
      = .ok [(2, none)] ∧
    getMessage abandonedDb "c1" 1 = some ⟨"c1", 1, "m1", "u2", "hi"⟩ := by
  constructor <;> rfl

end NexoIm

import NexoIm.Sdk.Conversation

/-!
# `UpdateConversation` edits a row in place

`ConversationService.UpdateConversation` writes the `recv_msg_opt` and `is_pinned` a request
gives into the caller's row of the conversation (`ConversationRepo.Update`, the spec's partial
`update`), and nothing when it gives neither. The row keeps its `updated_at` and its id, so it
keeps its place in the list.

* `ConversationWithSeq.afterUpdate`, `ConversationInfo.afterUpdate`: a row, or an info, with the
  settings of an update of its conversation;
* the owner's rows after the write are the rows before with the update applied, and so are
  they in the list order (`ownerRows_updateConversationRow`, `sortedRows_updateConversationRow`);
  the rows after a cursor and the page of them follow (`rowsAfter_map`, `pageOf_afterUpdate`);
* every read of the caller after the handler's `UpdateConversation` is the read before with the
  settings replaced: the whole list, every page of it with its `HasMore` and `NextCursor`, and
  `GetConversation`; no read of the seq state changes (`Client.updateConversation_inPlace`).
-/

namespace NexoIm

/-- The caller's row as `updateConversationRow` writes it: the settings the request gives
replace the row's when it is the caller's row of the conversation. -/
def Conversation.afterUpdate (userId conversationId : String) (req : UpdateConversationRequest)
    (c : Conversation) : Conversation :=
  if c.key = (userId, conversationId) then
    { c with recvMsgOpt := req.recvMsgOpt.getD c.recvMsgOpt, isPinned := req.isPinned.getD c.isPinned }
  else c

/-- A joined row as an update of `conversationId` leaves it: the settings the request gives
replace the row's when it is that conversation's. -/
def ConversationWithSeq.afterUpdate (conversationId : String) (req : UpdateConversationRequest)
    (r : ConversationWithSeq) : ConversationWithSeq :=
  if r.conversationId = conversationId then
    { r with recvMsgOpt := req.recvMsgOpt.getD r.recvMsgOpt, isPinned := req.isPinned.getD r.isPinned }
  else r

/-- An info as an update of `conversationId` leaves it. -/
def ConversationInfo.afterUpdate (conversationId : String) (req : UpdateConversationRequest)
    (info : ConversationInfo) : ConversationInfo :=
  if info.conversationId = conversationId then
    { info with recvMsgOpt := req.recvMsgOpt.getD info.recvMsgOpt,
                isPinned := req.isPinned.getD info.isPinned }
  else info

section AfterUpdate

variable (conversationId : String) (req : UpdateConversationRequest)

@[simp] theorem Conversation.ownerId_afterUpdate (userId : String) (c : Conversation) :
    (c.afterUpdate userId conversationId req).ownerId = c.ownerId := by
  unfold Conversation.afterUpdate
  split_ifs <;> rfl

@[simp] theorem Conversation.conversationId_afterUpdate (userId : String) (c : Conversation) :
    (c.afterUpdate userId conversationId req).conversationId = c.conversationId := by
  unfold Conversation.afterUpdate
  split_ifs <;> rfl

@[simp] theorem Conversation.updatedAt_afterUpdate (userId : String) (c : Conversation) :
    (c.afterUpdate userId conversationId req).updatedAt = c.updatedAt := by
  unfold Conversation.afterUpdate
  split_ifs <;> rfl

@[simp] theorem ConversationWithSeq.conversationId_afterUpdate (r : ConversationWithSeq) :
    (r.afterUpdate conversationId req).conversationId = r.conversationId := by
  unfold ConversationWithSeq.afterUpdate
  split_ifs <;> rfl

@[simp] theorem ConversationWithSeq.updatedAt_afterUpdate (r : ConversationWithSeq) :
    (r.afterUpdate conversationId req).updatedAt = r.updatedAt := by
  unfold ConversationWithSeq.afterUpdate
  split_ifs <;> rfl

@[simp] theorem ConversationWithSeq.key_afterUpdate (r : ConversationWithSeq) :
    (r.afterUpdate conversationId req).key = r.key := by
  simp only [ConversationWithSeq.key, ConversationWithSeq.conversationId_afterUpdate,
    ConversationWithSeq.updatedAt_afterUpdate]

/-- On a row of the caller the write's condition is the conversation's. -/
theorem Conversation.afterUpdate_of_ownerId {userId : String} {c : Conversation}
    (hc : c.ownerId = userId) :
    c.afterUpdate userId conversationId req =
      if c.conversationId = conversationId then
        { c with recvMsgOpt := req.recvMsgOpt.getD c.recvMsgOpt,
                 isPinned := req.isPinned.getD c.isPinned }
      else c := by
  simp only [Conversation.afterUpdate, Conversation.key, hc, Prod.mk.injEq, true_and]

/-- Joining the caller's written row gives the joined row with the update applied. -/
theorem withSeq_afterUpdate (db : Db) {userId : String} {c : Conversation}
    (hc : c.ownerId = userId) :
    withSeq db (c.afterUpdate userId conversationId req) =
      (withSeq db c).afterUpdate conversationId req := by
  rw [Conversation.afterUpdate_of_ownerId conversationId req hc]
  unfold ConversationWithSeq.afterUpdate
  show _ = if c.conversationId = conversationId then _ else _
  split_ifs <;> rfl

theorem rowInfo_afterUpdate (db : Db) (w : Bool) (r : ConversationWithSeq) :
    rowInfo db w (r.afterUpdate conversationId req) =
      (rowInfo db w r).afterUpdate conversationId req := by
  unfold ConversationWithSeq.afterUpdate ConversationInfo.afterUpdate
  show _ = if r.conversationId = conversationId then _ else _
  split_ifs <;> rfl

end AfterUpdate

/-! ### The write, read back -/

/-- An empty patch writes nothing. -/
theorem updateConversationRow_of_none (db : Db) (userId conversationId : String)
    {req : UpdateConversationRequest} (hr : req.recvMsgOpt = none) (hp : req.isPinned = none) :
    updateConversationRow db userId conversationId req = db := by
  cases db
  simp only [updateConversationRow, hr, hp, Option.getD_none, ite_self, List.map_id']

/-- The handler's `UpdateConversation` either fails or writes `updateConversationRow` for a
caller. -/
theorem eq_updateConversationRow {db db' : Db} {userId conversationId : String}
    {req : UpdateConversationRequest}
    (h : ConversationHandler.updateConversation db userId conversationId req = .ok db') :
    userId ≠ "" ∧ db' = updateConversationRow db userId conversationId req := by
  simp only [ConversationHandler.updateConversation, NexoIm.updateConversation] at h
  split_ifs at h with hu hc hn <;> cases h
  · simp only [Option.isNone_iff_eq_none] at hn
    exact ⟨hu, (updateConversationRow_of_none db userId conversationId hn.1 hn.2).symm⟩
  · exact ⟨hu, rfl⟩

theorem updateConversationRow_conversations (db : Db) (userId conversationId : String)
    (req : UpdateConversationRequest) :
    (updateConversationRow db userId conversationId req).conversations =
      db.conversations.map (Conversation.afterUpdate userId conversationId req) :=
  rfl

/-- The owner's rows after the write are the rows before with the update applied. -/
theorem ownerRows_updateConversationRow (db : Db) (userId conversationId : String)
    (req : UpdateConversationRequest) :
    ownerRows (updateConversationRow db userId conversationId req) userId =
      (ownerRows db userId).map (ConversationWithSeq.afterUpdate conversationId req) := by
  show ((db.conversations.map (Conversation.afterUpdate userId conversationId req)).filter
    (·.ownerId = userId)).map (withSeq db) = _
  simp only [List.filter_map, Function.comp_def, Conversation.ownerId_afterUpdate, List.map_map,
    ownerRows]
  exact List.map_congr_left fun c hc =>
    withSeq_afterUpdate conversationId req db (by simpa using (List.mem_filter.1 hc).2)

theorem getByOwnerAndConvId_updateConversationRow (db : Db) (userId conversationId c : String)
    (req : UpdateConversationRequest) :
    getByOwnerAndConvId (updateConversationRow db userId conversationId req) userId c =
      (getByOwnerAndConvId db userId c).map
        (Option.map (Conversation.afterUpdate userId conversationId req)) := by
  simp only [getByOwnerAndConvId, updateConversationRow_conversations, List.find?_map,
    Function.comp_def, Conversation.ownerId_afterUpdate, Conversation.conversationId_afterUpdate]
  rfl

/-- `GetConversation` after the write reads the row with the update applied. -/
theorem getConversation_updateConversationRow (db : Db) (userId conversationId c : String)
    (req : UpdateConversationRequest) :
    NexoIm.getConversation (updateConversationRow db userId conversationId req) userId c =
      (NexoIm.getConversation db userId c).map (ConversationInfo.afterUpdate conversationId req) := by
  unfold NexoIm.getConversation
  rw [getByOwnerAndConvId_updateConversationRow]
  rcases hf : getByOwnerAndConvId db userId c with _ | _ | conv
  · rfl
  · rfl
  obtain ⟨hown, rfl⟩ : conv.ownerId = userId ∧ conv.conversationId = c := by
    simp only [getByOwnerAndConvId, Except.ok.injEq] at hf
    simpa using List.find?_some hf
  simp only [Except.map, Option.map_some', Conversation.afterUpdate_of_ownerId conversationId req hown]
  unfold ConversationInfo.afterUpdate
  by_cases hk : conv.conversationId = conversationId
  · rw [if_pos hk, if_pos hk]
    rfl
  · rw [if_neg hk, if_neg hk]
    rfl

/-! ### The list order and the pages -/

section KeyPreserving

variable {f : ConversationWithSeq → ConversationWithSeq} (hf : ∀ r, (f r).key = r.key)
include hf

/-- A rewrite that keeps every key commutes with the sort. -/
theorem sortConversations_map (rows : List ConversationWithSeq) :
    sortConversations (rows.map f) = (sortConversations rows).map f :=
  (List.map_insertionSort rowLe rowLe f rows fun a _ b _ => by simp only [rowLe, hf]).symm

theorem rowsAfter_map (S : List ConversationWithSeq) (t : Int64) (id : String) :
    rowsAfter (S.map f) t id = (rowsAfter S t id).map f := by
  unfold rowsAfter
  split_ifs
  · rw [List.filter_map]
    congr 2
    funext r
    simp only [Function.comp_apply, hf]
  · rfl

end KeyPreserving

theorem sortedRows_updateConversationRow (db : Db) (userId conversationId : String)
    (req : UpdateConversationRequest) :
    sortedRows (updateConversationRow db userId conversationId req) userId =
      (sortedRows db userId).map (ConversationWithSeq.afterUpdate conversationId req) := by
  rw [sortedRows, ownerRows_updateConversationRow,
    sortConversations_map (ConversationWithSeq.key_afterUpdate conversationId req)]
  rfl

/-- The page of updated rows is the page of the rows, with the update applied to its infos:
the same `HasMore` and `NextCursor`. -/
theorem pageOf_afterUpdate (db : Db) (w : Bool) (k : Nat) (R : List ConversationWithSeq)
    (conversationId : String) (req : UpdateConversationRequest) :
    pageOf db w k (R.map (ConversationWithSeq.afterUpdate conversationId req)) =
      { pageOf db w k R with
        list := (pageOf db w k R).list.map (ConversationInfo.afterUpdate conversationId req) } := by
  simp only [pageOf, List.length_map, List.getElem?_map, Option.map_map, ← List.map_take,
    List.map_map, Function.comp_def, rowInfo_afterUpdate,
    ConversationWithSeq.updatedAt_afterUpdate, ConversationWithSeq.conversationId_afterUpdate]

/-! ### The SDK's reads after the write -/

namespace Client

/-- **`UpdateConversation` edits in place.** When the handler's `UpdateConversation` of a
conversation succeeds, every read the SDK makes for the caller afterwards answers what it
answered before, with that conversation's `recv_msg_opt` and `is_pinned` replaced by the ones
the request gives: the whole list, every page of it for every limit and cursor (the same rows in
the same order, with the same `HasMore` and `NextCursor`), and `GetConversation` of every
conversation; no `GetMaxReadSeq` of any user answers differently. -/
theorem updateConversation_inPlace {db db' : Db} {userId conversationId : String}
    {req : UpdateConversationRequest}
    (h : ConversationHandler.updateConversation db userId conversationId req = .ok db') :
    (∀ w, getAllConversationList db' userId w = (getAllConversationList db userId w).map
      (List.map (ConversationInfo.afterUpdate conversationId req))) ∧
    (∀ w limit cursor, getConversationListPage db' userId w limit cursor =
      (getConversationListPage db userId w limit cursor).map fun p =>
        { p with list := p.list.map (ConversationInfo.afterUpdate conversationId req) }) ∧
    (∀ c, getConversation db' userId c =
      (getConversation db userId c).map (ConversationInfo.afterUpdate conversationId req)) ∧
    ∀ u c, NexoIm.getMaxReadSeq db' u c = NexoIm.getMaxReadSeq db u c := by
  obtain ⟨hu, rfl⟩ := eq_updateConversationRow h
  refine ⟨fun w => ?_, fun w limit cursor => ?_, fun c => ?_, fun _ _ => rfl⟩
  · have hall : ∀ db : Db,
        getAllConversationList db userId w = .ok ((ownerRows db userId).map (rowInfo db w)) :=
      fun db => by
        simp only [getAllConversationList, ConversationHandler.getAllConversationList, if_neg hu,
          Option.getD_some]
        exact buildConversationInfos_eq db (ownerRows_nodup db userId) w
    rw [hall, hall, ownerRows_updateConversationRow, List.map_map]
    show _ = Except.ok (List.map _ (List.map _ _))
    rw [List.map_map]
    exact congrArg Except.ok
      (List.map_congr_left fun r _ => rowInfo_afterUpdate conversationId req db w r)
  · rw [getConversationListPage_service _ hu, getConversationListPage_service _ hu]
    dsimp only
    split_ifs
    · rfl
    · rw [getUserConversationsPage_eq, getUserConversationsPage_eq, sortedRows_updateConversationRow,
        rowsAfter_map (ConversationWithSeq.key_afterUpdate conversationId req),
        pageOf_afterUpdate]
      rfl
  · simp only [getConversation, ConversationHandler.getConversation, if_neg hu]
    split_ifs
    · rfl
    · exact getConversation_updateConversationRow db userId conversationId _ req

theorem updateConversation_inPlace_pagingDb :
    ConversationHandler.updateConversation pagingDb "u1" "c3" ⟨none, some false⟩ =
      .ok (updateConversationRow pagingDb "u1" "c3" ⟨none, some false⟩) ∧
    (∀ w, getAllConversationList (updateConversationRow pagingDb "u1" "c3" ⟨none, some false⟩)
      "u1" w = (getAllConversationList pagingDb "u1" w).map
        (List.map (ConversationInfo.afterUpdate "c3" ⟨none, some false⟩))) ∧
    (∀ w limit cursor, getConversationListPage
      (updateConversationRow pagingDb "u1" "c3" ⟨none, some false⟩) "u1" w limit cursor =
        (getConversationListPage pagingDb "u1" w limit cursor).map fun p =>
          { p with list := p.list.map (ConversationInfo.afterUpdate "c3" ⟨none, some false⟩) }) ∧
    (∀ c, getConversation (updateConversationRow pagingDb "u1" "c3" ⟨none, some false⟩) "u1" c =
      (getConversation pagingDb "u1" c).map (ConversationInfo.afterUpdate "c3" ⟨none, some false⟩)) ∧
    ∀ u c, NexoIm.getMaxReadSeq (updateConversationRow pagingDb "u1" "c3" ⟨none, some false⟩) u c =
      NexoIm.getMaxReadSeq pagingDb u c :=
  ⟨rfl, updateConversation_inPlace rfl⟩

example : (getConversationListPage (updateConversationRow pagingDb "u1" "c3" ⟨none, some false⟩)
    "u1" false 2 none).map (fun p => (p.list.map fun i => (i.conversationId, i.isPinned),
      p.nextCursor)) =
    .ok ([("c1", false), ("c3", false)], some ⟨1700000001, "c3"⟩) := by
  rfl

end Client

end NexoIm

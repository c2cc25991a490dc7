import NexoIm.Conversation.Handler

/-!
# The seq store under marking read and allocation

`ConversationHandler.MarkRead` passes the caller, the conversation and a `read_seq` to
`ConversationService.MarkRead`, which calls `SeqRepo.UpdateReadSeq`; sending a message
allocates seqs from the sequence allocator; `UpdateConversation` patches the caller's row.
The repositories and the allocator are not among the sources and are modelled from the
spec: `mark_read` sets `read_seq = max(current, min(seq, max_seq))`, `allocate(conversation_id,
n)` raises `max_seq` by `n ≥ 1` (an `INCRBY`, which fails on `int64` overflow), and `update`
applies a partial patch to the owner's row.

* `updateReadSeq`, `allocateSeq`, `updateConversationRow` (modelled from the spec),
  `markRead`, `updateConversation` and their handlers (from the sources);
* `SeqInv`: every `max_seq` is not negative and every stored `read_seq` lies in
  `[0, max_seq]` of its conversation. Each operation keeps it (`StoreOp.apply_seqInv`), so
  every run does (`run_seqInv`), and `read_seq` and `max_seq` never decrease
  (`StoreOp.readSeqOf_le_apply`, `StoreOp.maxSeqOf_le_apply`);
* in every state a run reaches, `GetUnreadCount` without a query answers
  `max_seq − read_seq` exactly, in `[0, max_seq]` (`run_getUnreadCount`).
-/

namespace NexoIm

/-- The `max_seq` of a conversation, `0` without a row. -/
def maxSeqOf (db : Db) (conversationId : String) : Int64 :=
  match getConversationSeqInfo db conversationId with
  | .ok r => r.maxSeq
  | .error _ => 0

/-- A user's `read_seq` in a conversation, `0` without a row. -/
def readSeqOf (db : Db) (userId conversationId : String) : Int64 :=
  match getSeqUser db userId conversationId with
  | .ok r => r.readSeq
  | .error _ => 0

/-! ### Writing a row by its key -/

section Upsert

variable {α κ : Type} {key : α → κ}

theorem map_key_nodup {g : α → α} (hg : ∀ a, key (g a) = key a) {rows : List α}
    (hrows : (rows.map key).Nodup) : ((rows.map g).map key).Nodup := by
  rw [List.map_map]
  convert hrows using 2
  funext a
  exact hg a

variable [DecidableEq κ] (key)

/-- Replace the rows with key `k` by `f` of them, or add `new` when there is none. -/
def upsert (k : κ) (f : α → α) (new : α) (rows : List α) : List α :=
  if rows.any (key · = k) then rows.map fun a => if key a = k then f a else a
  else rows ++ [new]

variable {key}

theorem upsert_key_nodup {k : κ} {f : α → α} {new : α} {rows : List α}
    (hf : ∀ a, key (f a) = key a) (hnew : key new = k) (hrows : (rows.map key).Nodup) :
    ((upsert key k f new rows).map key).Nodup := by
  unfold upsert
  split_ifs with hany
  · exact map_key_nodup (fun a => by split_ifs <;> simp [hf]) hrows
  · rw [List.map_append, List.nodup_append]
    refine ⟨hrows, List.nodup_singleton _, ?_⟩
    simp only [List.map_cons, List.map_nil, List.disjoint_singleton, List.mem_map, not_exists,
      not_and, hnew]
    intro a ha hk
    exact hany (List.any_eq_true.2 ⟨a, ha, by simp [hk]⟩)

theorem find?_map_of_key {g : α → α} (hg : ∀ a, key (g a) = key a) (k' : κ) (rows : List α) :
    (rows.map g).find? (fun a => decide (key a = k')) =
      (rows.find? fun a => decide (key a = k')).map g := by
  rw [List.find?_map]
  congr 2
  funext b
  simp [hg]

/-- The first row with key `k'` after the write: `f` of the old one, or `new`, when `k' = k`,
and the old one otherwise. -/
theorem find?_upsert (k k' : κ) (f : α → α) (new : α) (rows : List α)
    (hf : ∀ a, key (f a) = key a) (hnew : key new = k) :
    (upsert key k f new rows).find? (fun a => decide (key a = k')) =
      if k' = k then ((rows.find? fun a => decide (key a = k)).map f).orElse fun _ => some new
      else rows.find? fun a => decide (key a = k') := by
  have hg : ∀ a, key (if key a = k then f a else a) = key a := fun a => by
    split_ifs <;> simp [hf]
  unfold upsert
  split_ifs with hany hk hk
  · subst hk
    rw [find?_map_of_key hg]
    obtain ⟨a, ha⟩ := Option.isSome_iff_exists.1 (List.find?_isSome.2 (List.any_eq_true.1 hany))
    have hka : key a = k' := by simpa using List.find?_some ha
    simp [ha, hka]
  · rw [find?_map_of_key hg]
    cases hfa : rows.find? fun a => decide (key a = k') with
    | none => rfl
    | some a =>
      have hka : key a = k' := by simpa using List.find?_some hfa
      simp [hka, hk]
  · subst hk
    have hnone : (rows.find? fun a => decide (key a = k')) = none :=
      List.find?_eq_none.2 fun a ha h => hany (List.any_eq_true.2 ⟨a, ha, h⟩)
    rw [List.find?_append, hnone]
    simp [hnew]
  · rw [List.find?_append]
    simp [hnew, Ne.symm hk]

end Upsert

/-! ### The writes -/

/-- The key of a `seq_users` row. -/
def SeqUser.key (u : SeqUser) : String × String := (u.userId, u.conversationId)

/-- The key of a `conversations` row. -/
def Conversation.key (c : Conversation) : String × String := (c.ownerId, c.conversationId)

/-- Modelled from the spec: `SeqRepo.UpdateReadSeq`, the `mark_read` write
`read_seq := max(current, min(seq, max_seq))`, adding the row when there is none. -/
def updateReadSeq (db : Db) (userId conversationId : String) (readSeq : Int64) : Db :=
  let newReadSeq :=
    max (readSeqOf db userId conversationId) (min readSeq (maxSeqOf db conversationId))
  { db with
    seqUsers := upsert SeqUser.key (userId, conversationId)
      (fun u => { u with readSeq := newReadSeq }) ⟨userId, conversationId, newReadSeq⟩ db.seqUsers
    seqUsers_key := upsert_key_nodup (fun _ => rfl) rfl db.seqUsers_key }

/-- Modelled from the spec: the allocator's `allocate(conversation_id, n)`, which raises
`max_seq` by `n ≥ 1`, adding the row when there is none; like Redis `INCRBY` it fails when
the sum leaves `int64`. -/
def allocateSeq (db : Db) (conversationId : String) (n : Int64) : Option Db :=
  let m := maxSeqOf db conversationId
  if n < 1 ∨ ¬ InInt64 (m.val + n.val) then none
  else some { db with
    conversationSeqs := upsert ConversationSeq.conversationId conversationId
      (fun r => { r with maxSeq := m + n }) ⟨conversationId, m + n⟩ db.conversationSeqs
    conversationSeqs_key := upsert_key_nodup (fun _ => rfl) rfl db.conversationSeqs_key }

/-- `service.UpdateConversationRequest`: the fields to change, absent when not given. -/
structure UpdateConversationRequest where
  recvMsgOpt : Option Int
  isPinned : Option Bool

/-- Modelled from the spec: `ConversationRepo.Update`, the partial update of the owner's row
(none, no change). -/
def updateConversationRow (db : Db) (userId conversationId : String)
    (req : UpdateConversationRequest) : Db :=
  { db with
    conversations := db.conversations.map fun c =>
      if c.key = (userId, conversationId) then
        { c with recvMsgOpt := req.recvMsgOpt.getD c.recvMsgOpt, isPinned := req.isPinned.getD c.isPinned }
      else c
    conversations_key := map_key_nodup (fun c => by split_ifs <;> rfl) db.conversations_key }

/-- `ConversationService.MarkRead`. -/
def markRead (db : Db) (userId conversationId : String) (readSeq : Int64) :
    Except ServiceError Db :=
  .ok (updateReadSeq db userId conversationId readSeq)

/-- `ConversationService.UpdateConversation`: an empty patch writes nothing. -/
def updateConversation (db : Db) (userId conversationId : String)
    (req : UpdateConversationRequest) : Except ServiceError Db :=
  if req.recvMsgOpt.isNone ∧ req.isPinned.isNone then .ok db
  else .ok (updateConversationRow db userId conversationId req)

/-- `MarkReadRequest`. -/
structure MarkReadRequest where
  conversationId : String
  readSeq : Int64

namespace ConversationHandler

/-- `MarkRead`. -/
def markRead (db : Db) (userId : String) (req : MarkReadRequest) : Except ServiceError Db :=
  if userId = "" then .error (.code .errUnauthorized)
  else NexoIm.markRead db userId req.conversationId req.readSeq

/-- `UpdateConversation`; `conversationId` is the query parameter. -/
def updateConversation (db : Db) (userId conversationId : String)
    (req : UpdateConversationRequest) : Except ServiceError Db :=
  if userId = "" then .error (.code .errUnauthorized)
  else if conversationId = "" then .error (.code .errInvalidParam)
  else NexoIm.updateConversation db userId conversationId req

end ConversationHandler

/-- An operation on the store: a caller's `MarkRead` or `UpdateConversation`, or the
allocation of `n` seqs by a message send. -/
inductive StoreOp
  | markRead (userId : String) (req : MarkReadRequest)
  | updateConversation (userId conversationId : String) (req : UpdateConversationRequest)
  | allocate (conversationId : String) (n : Int64)

/-- The store after an operation; one that fails leaves it as it was. -/
def StoreOp.apply (db : Db) : StoreOp → Db
  | .markRead userId req =>
    match ConversationHandler.markRead db userId req with
    | .ok db' => db'
    | .error _ => db
  | .updateConversation userId conversationId req =>
    match ConversationHandler.updateConversation db userId conversationId req with
    | .ok db' => db'
    | .error _ => db
  | .allocate conversationId n => (allocateSeq db conversationId n).getD db

/-- The store after a run of operations. -/
def runStore (db : Db) (ops : List StoreOp) : Db := ops.foldl StoreOp.apply db

/-! ### What the writes change -/

theorem maxSeqOf_eq (db : Db) (conversationId : String) :
    maxSeqOf db conversationId =
      ((db.conversationSeqs.find? fun r => decide (r.conversationId = conversationId)).map
        (·.maxSeq)).getD 0 := by
  unfold maxSeqOf getConversationSeqInfo
  cases db.conversationSeqs.find? _ <;> rfl

theorem readSeqOf_eq (db : Db) (userId conversationId : String) :
    readSeqOf db userId conversationId =
      ((db.seqUsers.find? fun u => decide (u.key = (userId, conversationId))).map
        (·.readSeq)).getD 0 := by
  have hp : (fun u : SeqUser => decide (u.userId = userId ∧ u.conversationId = conversationId)) =
      fun u => decide (u.key = (userId, conversationId)) :=
    funext fun u => by simp [SeqUser.key]
  unfold readSeqOf getSeqUser
  rw [hp]
  cases db.seqUsers.find? _ <;> rfl

theorem readSeqOf_updateReadSeq (db : Db) (userId conversationId : String) (readSeq : Int64)
    (u c : String) :
    readSeqOf (updateReadSeq db userId conversationId readSeq) u c =
      if (u, c) = (userId, conversationId) then
        max (readSeqOf db userId conversationId) (min readSeq (maxSeqOf db conversationId))
      else readSeqOf db u c := by
  rw [readSeqOf_eq (updateReadSeq db userId conversationId readSeq)]
  dsimp only [updateReadSeq]
  rw [find?_upsert]
  · split_ifs
    · cases db.seqUsers.find? _ <;> rfl
    · exact (readSeqOf_eq db u c).symm
  all_goals intros; rfl

theorem allocateSeq_some {db db' : Db} {conversationId : String} {n : Int64}
    (h : allocateSeq db conversationId n = some db') :
    1 ≤ n ∧ InInt64 ((maxSeqOf db conversationId).val + n.val) := by
  dsimp only [allocateSeq] at h
  split_ifs at h with hn
  rw [not_or, not_lt, not_not] at hn
  exact hn

theorem maxSeqOf_allocateSeq {db db' : Db} {conversationId : String} {n : Int64}
    (h : allocateSeq db conversationId n = some db') (c : String) :
    maxSeqOf db' c =
      if c = conversationId then maxSeqOf db conversationId + n else maxSeqOf db c := by
  dsimp only [allocateSeq] at h
  split_ifs at h
  cases h
  rw [maxSeqOf_eq]
  dsimp only
  rw [find?_upsert]
  · split_ifs
    · cases db.conversationSeqs.find? _ <;> rfl
    · exact (maxSeqOf_eq db c).symm
  all_goals intros; rfl

theorem readSeqOf_allocateSeq {db db' : Db} {conversationId : String} {n : Int64}
    (h : allocateSeq db conversationId n = some db') (u c : String) :
    readSeqOf db' u c = readSeqOf db u c := by
  dsimp only [allocateSeq] at h
  split_ifs at h
  cases h
  rfl

/-- An allocation raises `max_seq` by `n ≥ 1`, without wrapping. -/
theorem lt_add_of_allocateSeq {db db' : Db} {conversationId : String} {n : Int64}
    (h : allocateSeq db conversationId n = some db') :
    maxSeqOf db conversationId < maxSeqOf db conversationId + n := by
  obtain ⟨hn, hfit⟩ := allocateSeq_some h
  have h1 : (1 : Int64).val = 1 := rfl
  rw [Int64.le_iff, h1] at hn
  rw [Int64.lt_iff, Int64.val_add, wrap_of_inInt64 hfit]
  omega

theorem maxSeqOf_updateReadSeq (db : Db) (userId conversationId : String) (readSeq : Int64) :
    maxSeqOf (updateReadSeq db userId conversationId readSeq) = maxSeqOf db :=
  rfl

/-- What each operation does to the seq state: `MarkRead` by a caller writes `updateReadSeq`,
an allocation that succeeds writes `allocateSeq`, and nothing else changes it. -/
theorem StoreOp.apply_cases (db : Db) (op : StoreOp) :
    (maxSeqOf (op.apply db) = maxSeqOf db ∧ readSeqOf (op.apply db) = readSeqOf db) ∨
      (∃ userId conversationId readSeq,
        op.apply db = updateReadSeq db userId conversationId readSeq) ∨
      (∃ conversationId n, allocateSeq db conversationId n = some (op.apply db)) := by
  cases op with
  | markRead userId req =>
    by_cases hu : userId = ""
    · simp [StoreOp.apply, ConversationHandler.markRead, hu]
    · exact .inr (.inl ⟨userId, req.conversationId, req.readSeq,
        by simp [StoreOp.apply, ConversationHandler.markRead, hu, NexoIm.markRead]⟩)
  | updateConversation userId conversationId req =>
    left
    simp only [StoreOp.apply, ConversationHandler.updateConversation, NexoIm.updateConversation]
    split_ifs <;> exact ⟨rfl, rfl⟩
  | allocate conversationId n =>
    cases ha : allocateSeq db conversationId n with
    | none => simp [StoreOp.apply, ha]
    | some db' => exact .inr (.inr ⟨conversationId, n, by simp [StoreOp.apply, ha]⟩)

/-! ### The invariant -/

/-- Every `max_seq` is not negative, and every `read_seq` lies in `[0, max_seq]` of its
conversation. -/
structure SeqInv (db : Db) : Prop where
  maxSeq_nonneg : ∀ conversationId, 0 ≤ maxSeqOf db conversationId
  readSeq_mem : ∀ userId conversationId,
    0 ≤ readSeqOf db userId conversationId ∧
      readSeqOf db userId conversationId ≤ maxSeqOf db conversationId

/-- The store before any write. -/
def Db.empty : Db where
  conversations := []
  conversationSeqs := []
  seqUsers := []
  messages := []
  conversations_key := List.nodup_nil
  conversationSeqs_key := List.nodup_nil
  seqUsers_key := List.nodup_nil
  messages_key := List.nodup_nil

theorem seqInv_empty : SeqInv Db.empty where
  maxSeq_nonneg _ := le_rfl
  readSeq_mem _ _ := ⟨le_rfl, le_rfl⟩

theorem SeqInv.updateReadSeq {db : Db} (h : SeqInv db) (userId conversationId : String)
    (readSeq : Int64) : SeqInv (updateReadSeq db userId conversationId readSeq) where
  maxSeq_nonneg := h.maxSeq_nonneg
  readSeq_mem u c := by
    rw [readSeqOf_updateReadSeq]
    split_ifs with hk
    · obtain ⟨rfl, rfl⟩ := Prod.mk.inj hk
      have hc := h.readSeq_mem u c
      exact ⟨hc.1.trans (le_max_left _ _), max_le hc.2 (min_le_right _ _)⟩
    · exact h.readSeq_mem u c

theorem SeqInv.allocateSeq {db db' : Db} (h : SeqInv db) {conversationId : String} {n : Int64}
    (ha : allocateSeq db conversationId n = some db') : SeqInv db' where
  maxSeq_nonneg c := by
    rw [maxSeqOf_allocateSeq ha]
    split_ifs
    · exact (h.maxSeq_nonneg conversationId).trans (lt_add_of_allocateSeq ha).le
    · exact h.maxSeq_nonneg c
  readSeq_mem u c := by
    rw [readSeqOf_allocateSeq ha, maxSeqOf_allocateSeq ha]
    refine ⟨(h.readSeq_mem u c).1, (h.readSeq_mem u c).2.trans ?_⟩
    split_ifs with hc
    · exact hc ▸ (lt_add_of_allocateSeq ha).le
    · exact le_rfl

/-- **One step keeps the invariant.** -/
theorem StoreOp.apply_seqInv {db : Db} (h : SeqInv db) (op : StoreOp) : SeqInv (op.apply db) := by
  rcases op.apply_cases db with ⟨hm, hr⟩ | ⟨userId, conversationId, readSeq, he⟩ | ⟨c, n, ha⟩
  · exact ⟨fun c => hm ▸ h.maxSeq_nonneg c, fun u c => hm ▸ hr ▸ h.readSeq_mem u c⟩
  · exact he ▸ h.updateReadSeq userId conversationId readSeq
  · exact h.allocateSeq ha

/-- **Every run keeps the invariant.** -/
theorem run_seqInv {db : Db} (h : SeqInv db) (ops : List StoreOp) : SeqInv (runStore db ops) := by
  induction ops generalizing db with
  | nil => exact h
  | cons op ops ih => exact ih (StoreOp.apply_seqInv h op)

/-! ### Nothing goes backwards -/

/-- `read_seq` never decreases: an attempt to lower it is a no-op. -/
theorem StoreOp.readSeqOf_le_apply (db : Db) (op : StoreOp) (userId conversationId : String) :
    readSeqOf db userId conversationId ≤ readSeqOf (op.apply db) userId conversationId := by
  rcases op.apply_cases db with ⟨-, hr⟩ | ⟨u, c, readSeq, he⟩ | ⟨c, n, ha⟩
  · rw [hr]
  · rw [he, readSeqOf_updateReadSeq]
    split_ifs with hk
    · obtain ⟨rfl, rfl⟩ := Prod.mk.inj hk
      exact le_max_left _ _
    · exact le_rfl
  · rw [readSeqOf_allocateSeq ha]

/-- `max_seq` never decreases. -/
theorem StoreOp.maxSeqOf_le_apply (db : Db) (op : StoreOp) (conversationId : String) :
    maxSeqOf db conversationId ≤ maxSeqOf (op.apply db) conversationId := by
  rcases op.apply_cases db with ⟨hm, -⟩ | ⟨u, c, readSeq, he⟩ | ⟨c, n, ha⟩
  · rw [hm]
  · rw [he, maxSeqOf_updateReadSeq]
  · rw [maxSeqOf_allocateSeq ha]
    split_ifs with hc
    · exact hc ▸ (lt_add_of_allocateSeq ha).le
    · exact le_rfl

/-- Five seqs allocated in `c1`, then `u1` marks `5` read and then `3`. -/
def markReadOps : List StoreOp :=
  [.allocate "c1" 5, .markRead "u1" ⟨"c1", 5⟩, .markRead "u1" ⟨"c1", 3⟩]

example : readSeqOf (runStore Db.empty markReadOps) "u1" "c1" = 5 := by decide

/-! ### The unread count in every reachable state -/

theorem getMaxReadSeq_of_mem {db : Db} {userId conversationId : String}
    (h : conversationId ∈ db.conversationSeqs.map (·.conversationId)) :
    getMaxReadSeq db userId conversationId =
      .ok (maxSeqOf db conversationId, readSeqOf db userId conversationId) := by
  obtain ⟨a, ha, rfl⟩ := List.mem_map.1 h
  obtain ⟨r, hr⟩ := Option.isSome_iff_exists.1
    (List.find?_isSome.2 ⟨a, ha, decide_eq_true rfl⟩ :
      (db.conversationSeqs.find? fun r => decide (r.conversationId = a.conversationId)).isSome)
  have hs : getConversationSeqInfo db a.conversationId = .ok r := by
    rw [getConversationSeqInfo, hr]
  rw [getMaxReadSeq, maxSeqOf, hs]
  rfl

/-- **The unread count in every reachable state.** From a store that satisfies `SeqInv`,
after any run of `MarkRead`, `UpdateConversation` and allocations, `GetUnreadCount` without
a query, for a caller and a conversation with a `max_seq` row, answers
`max_seq − read_seq` exactly, a count in `[0, max_seq]`. -/
theorem run_getUnreadCount {db : Db} (h : SeqInv db) (ops : List StoreOp)
    {userId conversationId : String} (hu : userId ≠ "") (hconv : conversationId ≠ "")
    (hrow : conversationId ∈ (runStore db ops).conversationSeqs.map (·.conversationId)) :
    ∃ u, ConversationHandler.getUnreadCount (runStore db ops) userId conversationId "" = .ok u ∧
      u.val = (maxSeqOf (runStore db ops) conversationId).val -
        (readSeqOf (runStore db ops) userId conversationId).val ∧
      0 ≤ u ∧ u ≤ maxSeqOf (runStore db ops) conversationId := by
  have hinv := run_seqInv h ops
  obtain ⟨hc, hcm⟩ := hinv.readSeq_mem userId conversationId
  have hm := hinv.maxSeq_nonneg conversationId
  refine ⟨_, getUnreadCount_eq "" hu hconv (getMaxReadSeq_of_mem hrow), ?_⟩
  have h0 : (parseInt "").1 = 0 := rfl
  simp only [h0, if_true]
  refine ⟨?_, unread_le hm hc⟩
  rw [unread_val hm hc, max_eq_right]
  rw [Int64.le_iff] at hcm
  omega

theorem run_getUnreadCount_markReadOps :
    (SeqInv Db.empty ∧ "u1" ≠ "" ∧ "c1" ≠ "" ∧
      "c1" ∈ (runStore Db.empty markReadOps).conversationSeqs.map (·.conversationId)) ∧
    ∃ u, ConversationHandler.getUnreadCount (runStore Db.empty markReadOps) "u1" "c1" "" = .ok u ∧
      u.val = (maxSeqOf (runStore Db.empty markReadOps) "c1").val -
        (readSeqOf (runStore Db.empty markReadOps) "u1" "c1").val ∧
      0 ≤ u ∧ u ≤ maxSeqOf (runStore Db.empty markReadOps) "c1" :=
  have hrow : "c1" ∈ (runStore Db.empty markReadOps).conversationSeqs.map (·.conversationId) := by
    decide
  ⟨⟨seqInv_empty, by decide, by decide, hrow⟩,
    run_getUnreadCount seqInv_empty markReadOps (by decide) (by decide) hrow⟩

end NexoIm

import Mathlib.Data.List.Sort
import NexoIm.Conversation.Entity

/-!
# Repository queries

The `repository` package is not among the sources: the queries the services call are
modelled from the spec over the tables of `Db`.

* the list order `ORDER BY updated_at DESC, conversation_id DESC` (`keyBefore`,
  `sortConversations`) and the cursor predicate
  `(updated_at < c.updated_at) OR (updated_at = c.updated_at AND conversation_id < c.conversation_id)`,
  which is `keyBefore c` of the row's key;
* `getUserConversationsWithSeq`, `getUserConversationsWithSeqPage`, `getByOwnerAndConvId`,
  `getConversationSeqInfo`, `getSeqUser`, `batchGetByConvSeq`;
* `keyBefore` is a strict total order on keys, so among rows with distinct keys the sorted
  list is strictly ordered (`sortConversations_pairwise`).
-/

namespace NexoIm

/-! ### The list order -/

/-- The sort key of the conversation list. -/
def ConversationWithSeq.key (c : ConversationWithSeq) : Int64 × String :=
  (c.updatedAt, c.conversationId)

/-- `a` comes strictly before `b` in `ORDER BY updated_at DESC, conversation_id DESC`. For a
cursor `a`, `keyBefore a` of a row's key is the spec's cursor predicate. -/
def keyBefore (a b : Int64 × String) : Prop := b.1 < a.1 ∨ (b.1 = a.1 ∧ b.2 < a.2)

/-- Decided through the characters of the ids: the order of `String`, computed by structural
recursion so that it evaluates. -/
instance : DecidableRel keyBefore := fun a b =>
  decidable_of_iff (b.1 < a.1 ∨ (b.1 = a.1 ∧ b.2.toList < a.2.toList))
    (by rw [keyBefore, String.lt_iff_toList_lt])

theorem keyBefore_irrefl (a : Int64 × String) : ¬ keyBefore a a := by
  simp [keyBefore]

theorem keyBefore_trans {a b c : Int64 × String} (h₁ : keyBefore a b) (h₂ : keyBefore b c) :
    keyBefore a c := by
  unfold keyBefore at *
  rcases h₁ with h₁ | ⟨e₁, h₁⟩ <;> rcases h₂ with h₂ | ⟨e₂, h₂⟩
  · exact .inl (h₂.trans h₁)
  · exact .inl (e₂ ▸ h₁)
  · exact .inl (e₁ ▸ h₂)
  · exact .inr ⟨e₂.trans e₁, h₂.trans h₁⟩

theorem keyBefore_asymm {a b : Int64 × String} (h : keyBefore a b) : ¬ keyBefore b a :=
  fun h' => keyBefore_irrefl a (keyBefore_trans h h')

theorem keyBefore_total {a b : Int64 × String} (h : a ≠ b) : keyBefore a b ∨ keyBefore b a := by
  obtain ⟨a₁, a₂⟩ := a
  obtain ⟨b₁, b₂⟩ := b
  unfold keyBefore
  rcases lt_trichotomy a₁ b₁ with h₁ | rfl | h₁
  · exact .inr (.inl h₁)
  · rcases lt_trichotomy a₂ b₂ with h₂ | rfl | h₂
    · exact .inr (.inr ⟨rfl, h₂⟩)
    · exact absurd rfl h
    · exact .inl (.inr ⟨rfl, h₂⟩)
  · exact .inl (.inl h₁)

/-- `a` may come before `b`: the order the sort uses. -/
def rowLe (a b : ConversationWithSeq) : Prop := ¬ keyBefore b.key a.key

instance : DecidableRel rowLe := fun _ _ => inferInstanceAs (Decidable (¬ _))

instance : IsTotal ConversationWithSeq rowLe where
  total a b := by
    by_cases h : a.key = b.key
    · left
      show ¬ keyBefore b.key a.key
      rw [h]
      exact keyBefore_irrefl _
    · rcases keyBefore_total h with h' | h'
      · exact .inl (keyBefore_asymm h')
      · exact .inr (keyBefore_asymm h')

instance : IsTrans ConversationWithSeq rowLe where
  trans a b c h₁ h₂ h₃ := by
    by_cases hab : a.key = b.key
    · exact h₂ (by rw [← hab]; exact h₃)
    · rcases keyBefore_total hab with h | h
      · exact h₂ (keyBefore_trans h₃ h)
      · exact h₁ h

/-- `ORDER BY updated_at DESC, conversation_id DESC`. -/
def sortConversations (rows : List ConversationWithSeq) : List ConversationWithSeq :=
  rows.insertionSort rowLe

theorem sortConversations_perm (rows : List ConversationWithSeq) :
    (sortConversations rows).Perm rows :=
  List.perm_insertionSort _ _

/-- Rows with distinct keys are sorted strictly. -/
theorem sortConversations_pairwise {rows : List ConversationWithSeq}
    (h : (rows.map (·.key)).Nodup) :
    (sortConversations rows).Pairwise fun a b => keyBefore a.key b.key := by
  have hs : (sortConversations rows).Sorted rowLe := List.sorted_insertionSort _ _
  have hn : (sortConversations rows).Pairwise fun a b => a.key ≠ b.key :=
    List.pairwise_map.1 (((sortConversations_perm rows).map _).nodup_iff.2 h)
  exact (hs.and hn).imp fun ⟨h₁, h₂⟩ => (keyBefore_total h₂).resolve_right h₁

/-! ### The queries -/

/-- Modelled from the spec: `ConversationRepo.GetByOwnerAndConvId`, the owner's row of the
conversation (`nil` when there is none). -/
def getByOwnerAndConvId (db : Db) (userId conversationId : String) :
    Except RepoError (Option Conversation) :=
  .ok (db.conversations.find? fun c => c.ownerId = userId ∧ c.conversationId = conversationId)

/-- Modelled from the spec: `SeqRepo.GetConversationSeqInfo`, the conversation's `max_seq`
row; a conversation without one is an error. -/
def getConversationSeqInfo (db : Db) (conversationId : String) :
    Except RepoError ConversationSeq :=
  match db.conversationSeqs.find? (·.conversationId = conversationId) with
  | some r => .ok r
  | none => .error .recordNotFound

/-- Modelled from the spec: `SeqRepo.GetSeqUser`, the user's `read_seq` row. -/
def getSeqUser (db : Db) (userId conversationId : String) : Except RepoError SeqUser :=
  match db.seqUsers.find? fun u => u.userId = userId ∧ u.conversationId = conversationId with
  | some r => .ok r
  | none => .error .recordNotFound

/-- Modelled from the spec: the message stored at the key `(conversation_id, seq)`. -/
def getMessage (db : Db) (conversationId : String) (seq : Int64) : Option Message :=
  db.messages.find? fun m => m.conversationId = conversationId ∧ m.seq = seq

/-- Modelled from the spec: an owner's conversation joined with its seq state, `max_seq` and
`read_seq` (0 without a row) and `unread = max(0, max_seq − read_seq)`. -/
def withSeq (db : Db) (c : Conversation) : ConversationWithSeq :=
  let maxSeq := match getConversationSeqInfo db c.conversationId with
    | .ok r => r.maxSeq
    | .error _ => 0
  let readSeq := match getSeqUser db c.ownerId c.conversationId with
    | .ok r => r.readSeq
    | .error _ => 0
  let unread := maxSeq - readSeq
  { conversationId := c.conversationId
    conversationType := c.conversationType
    peerUserId := c.peerUserId
    groupId := c.groupId
    recvMsgOpt := c.recvMsgOpt
    isPinned := c.isPinned
    unreadCount := if unread < 0 then 0 else unread
    maxSeq := maxSeq
    readSeq := readSeq
    updatedAt := c.updatedAt }

/-- Modelled from the spec: the owner's rows joined with their seq state. -/
def ownerRows (db : Db) (userId : String) : List ConversationWithSeq :=
  (db.conversations.filter (·.ownerId = userId)).map (withSeq db)

/-- Modelled from the spec: `ConversationRepo.GetUserConversationsWithSeq`, the owner's rows
joined with their seq state. -/
def getUserConversationsWithSeq (db : Db) (userId : String) :
    Except RepoError (List ConversationWithSeq) :=
  .ok (ownerRows db userId)

/-- Modelled from the spec: a cursor is given, with a positive `cursor_updated_at` and a
non-empty `cursor_conversation_id`. -/
def hasCursor (cursorUpdatedAt : Int64) (cursorConversationId : String) : Prop :=
  0 < cursorUpdatedAt ∧ cursorConversationId ≠ ""

instance (u : Int64) (c : String) : Decidable (hasCursor u c) :=
  inferInstanceAs (Decidable (_ ∧ _))

/-- Modelled from the spec: `ConversationRepo.GetUserConversationsWithSeqPage`, the owner's
rows after the cursor (when one is given) in the list order, at most `limit` of them. -/
def getUserConversationsWithSeqPage (db : Db) (userId : String) (limit : Int64)
    (cursorUpdatedAt : Int64) (cursorConversationId : String) :
    Except RepoError (List ConversationWithSeq) :=
  (getUserConversationsWithSeq db userId).map fun rows =>
    let rows := sortConversations rows
    let rows := if hasCursor cursorUpdatedAt cursorConversationId then
        rows.filter fun r => keyBefore (cursorUpdatedAt, cursorConversationId) r.key
      else rows
    rows.take limit.val.toNat

/-- Modelled from the spec: `MessageRepo.BatchGetByConvSeq` (`batch_get_by_max_seq`), one
batched read of the message stored at each conversation's given seq. -/
def batchGetByConvSeq (db : Db) (convMaxSeq : StrMap Int64) : Except RepoError (StrMap Message) :=
  .ok fun conversationId => (convMaxSeq conversationId).bind (getMessage db conversationId)

end NexoIm

import Mathlib.Data.String.Basic
import NexoIm.Errcode
import NexoIm.Go.Int64

/-!
# Conversation entities

The rows the conversation engine reads and the values it returns. The `entity` package is
not among the sources; its fields are those the services read and write.

* `Conversation`, `ConversationSeq`, `SeqUser`, `Message`: rows of the `conversations`,
  `conversation_seqs`, `seq_users` and `messages` tables;
* `Db`: the four tables with their keys (`(owner_id, conversation_id)`, `conversation_id`,
  `(user_id, conversation_id)`, `(conversation_id, seq)`) unique;
* `ConversationWithSeq`, `ConversationInfo`, `ConversationListCursor`,
  `ConversationListResult`: what the repository returns and what the service answers;
* `StrMap`: a Go `map[string]V`, by its lookups.

Go's `int32` fields are integers; the `int64` fields are `Int64`.
-/

namespace NexoIm

/-- `entity.Conversation`: an owner's row of a conversation. -/
structure Conversation where
  ownerId : String
  conversationId : String
  conversationType : Int
  peerUserId : String
  groupId : String
  recvMsgOpt : Int
  isPinned : Bool
  updatedAt : Int64
  deriving DecidableEq

/-- `entity.ConversationSeq`: the `max_seq` of a conversation, shared by its owners. -/
structure ConversationSeq where
  conversationId : String
  maxSeq : Int64
  deriving DecidableEq

/-- `entity.SeqUser`: a user's `read_seq` in a conversation. -/
structure SeqUser where
  userId : String
  conversationId : String
  readSeq : Int64
  deriving DecidableEq

/-- `entity.Message`, keyed by `(conversation_id, seq)`. -/
structure Message where
  conversationId : String
  seq : Int64
  clientMsgId : String
  senderId : String
  content : String
  deriving DecidableEq

/-- The tables, each with its primary key unique. -/
structure Db where
  conversations : List Conversation
  conversationSeqs : List ConversationSeq
  seqUsers : List SeqUser
  messages : List Message
  conversations_key : (conversations.map fun c => (c.ownerId, c.conversationId)).Nodup
  conversationSeqs_key : (conversationSeqs.map (·.conversationId)).Nodup
  seqUsers_key : (seqUsers.map fun u => (u.userId, u.conversationId)).Nodup
  messages_key : (messages.map fun m => (m.conversationId, m.seq)).Nodup

/-- `entity.ConversationWithSeq`: an owner's conversation joined with its seq state. -/
structure ConversationWithSeq where
  conversationId : String
  conversationType : Int
  peerUserId : String
  groupId : String
  recvMsgOpt : Int
  isPinned : Bool
  unreadCount : Int64
  maxSeq : Int64
  readSeq : Int64
  updatedAt : Int64
  deriving DecidableEq

/-- `entity.ConversationInfo`; `lastMessage` is `msg.ToMessageInfo()` of the stored message. -/
structure ConversationInfo where
  conversationId : String
  conversationType : Int
  peerUserId : String
  groupId : String
  recvMsgOpt : Int
  isPinned : Bool
  unreadCount : Int64
  maxSeq : Int64
  readSeq : Int64
  updatedAt : Int64
  lastMessage : Option Message
  deriving DecidableEq

/-- `service.ConversationListCursor`. -/
structure ConversationListCursor where
  updatedAt : Int64
  conversationId : String
  deriving DecidableEq

/-- `service.ConversationListResult`. -/
structure ConversationListResult where
  list : List ConversationInfo
  hasMore : Bool
  nextCursor : Option ConversationListCursor
  deriving DecidableEq

/-- The error a repository call returns for a missing row. -/
inductive RepoError
  | recordNotFound
  deriving DecidableEq, Repr

/-- What a service passes to `response.Error`: an `errcode` error, or a repository error
returned as it is. -/
inductive ServiceError
  | code (e : ErrCode)
  | repo (e : RepoError)
  deriving DecidableEq, Repr

/-- A Go `map[string]V`, by its lookups: `m k` is `m[k]`, `none` for a missing key. -/
def StrMap (V : Type) : Type := String → Option V

/-- `make(map[string]V)`. -/
def StrMap.empty {V : Type} : StrMap V := fun _ => none

/-- `m[k] = v`. -/
def StrMap.insert {V : Type} (m : StrMap V) (k : String) (v : V) : StrMap V :=
  fun k' => if k' = k then some v else m k'

@[simp] theorem StrMap.empty_apply {V : Type} (k : String) : (StrMap.empty : StrMap V) k = none :=
  rfl

@[simp] theorem StrMap.insert_apply {V : Type} (m : StrMap V) (k k' : String) (v : V) :
    m.insert k v k' = if k' = k then some v else m k' := rfl

end NexoIm

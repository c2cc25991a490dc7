import NexoIm.Router
import NexoIm.Conversation.Store

/-!
# The server over the store

A request reaches a conversation handler through `serve`: its route, its group's middleware,
and the handler, which reads the caller with `GetUserId` from what the middleware stored. The
two conversation handlers that write, `UpdateConversation` and `MarkRead`, change the store as
`Conversation.Store` models it. `MessageHandler.SendMessage` is not among the sources: the
spec's send path allocates a seq, stores the message and touches the conversation rows of
every participant, and the model takes its effect on the store as a parameter
(`sendMessage`). The results below are about the requests that do not send a message.

* `AuthContext.getUserId`, `Handler.storeOp`, `sendsMessage`, `serveStore`; the server's
  events are requests, each at its own clock reading, and allocations (`ServerEvent`,
  `runServer`);
* every run of events that send no message keeps `SeqInv`, and lowers no `read_seq` and no
  `max_seq`; a run of such requests alone moves no `max_seq` (`runServer_seqInv`,
  `runServer_readSeqOf_le`, `runServer_maxSeqOf`);
* only the owner writes: a request that sends no message and changes a user's `read_seq` in
  some conversation, or that user's conversation rows, carried a token of that user, which
  `extractToken` found and `ParseTokenWithFallback` accepted (`serveStore_owner`). The write
  routes are only in the `JWTAuth` group (`setupRouter_writesStore`), the `Ignore-Auth`
  bypass stores no user, and the handlers refuse an empty one.
-/

namespace NexoIm

/-- `middleware.GetUserId`: the stored user, empty when there is none. -/
def AuthContext.getUserId (a : AuthContext) : String := a.userId.getD ""

/-- What the conversation handlers bind from a request: the `conversation_id` query
parameter and the JSON bodies of `MarkRead` and `UpdateConversation`. -/
structure ConversationParams where
  conversationId : String
  markRead : MarkReadRequest
  updateConversation : UpdateConversationRequest

/-- The handlers that write to the store. -/
def Handler.writesStore : Handler → Bool
  | .conversationMarkRead | .conversationUpdateConversation => true
  | _ => false

/-- The store operation of a handled request of the conversation handlers, with the caller
`GetUserId` reads. -/
def Handler.storeOp : Handler → AuthContext → ConversationParams → Option StoreOp
  | .conversationMarkRead, a, q => some (.markRead a.getUserId q.markRead)
  | .conversationUpdateConversation, a, q =>
    some (.updateConversation a.getUserId q.conversationId q.updateConversation)
  | _, _, _ => none

/-- The conversation rows of an owner. -/
def conversationsOf (db : Db) (userId : String) : List Conversation :=
  db.conversations.filter (·.ownerId = userId)

/-- The write routes are registered only in the `JWTAuth` group. -/
theorem setupRouter_writesStore :
    ∀ r ∈ setupRouter, r.handler.writesStore = true → r.guard = .jwtAuth := by
  decide

theorem writesStore_of_storeOp {h : Handler} {a : AuthContext} {q : ConversationParams}
    {op : StoreOp} (hop : h.storeOp a q = some op) : h.writesStore = true := by
  cases h <;> first | rfl | cases hop

/-! ### Who a write is for -/

theorem conversationsOf_updateConversationRow (db : Db) {userId u : String} (conversationId : String)
    (req : UpdateConversationRequest) (hu : u ≠ userId) :
    conversationsOf (updateConversationRow db userId conversationId req) u = conversationsOf db u := by
  unfold conversationsOf updateConversationRow
  dsimp only
  induction db.conversations with
  | nil => rfl
  | cons c cs ih =>
    by_cases hc : c.ownerId = u
    · have hk : ¬ c.key = (userId, conversationId) := fun hk => hu (hc ▸ (Prod.mk.inj hk).1)
      simp [List.filter_cons, hc, hk, ih]
    · by_cases hk : c.key = (userId, conversationId) <;> simp [List.filter_cons, hc, hk, ih]

/-- The user a store operation is for; none for an allocation. -/
def StoreOp.caller : StoreOp → Option String
  | .markRead userId _ | .updateConversation userId _ _ => some userId
  | .allocate _ _ => none

/-- What a user sees of the store changed: a `read_seq` of theirs, or their conversation
rows. -/
def UserViewChanged (db db' : Db) (u : String) : Prop :=
  (∃ conversationId, readSeqOf db' u conversationId ≠ readSeqOf db u conversationId) ∨
    conversationsOf db' u ≠ conversationsOf db u

theorem not_userViewChanged_self (db : Db) (u : String) : ¬ UserViewChanged db db u := by
  rintro (⟨_, h⟩ | h) <;> exact h rfl

/-- An operation changes what a user sees only if it is that user's own `MarkRead` or
`UpdateConversation`, and then the user is not empty. -/
theorem StoreOp.caller_of_changed {db : Db} {op : StoreOp} {u : String}
    (h : UserViewChanged db (op.apply db) u) : u ≠ "" ∧ op.caller = some u := by
  cases op with
  | markRead userId req =>
    by_cases hu : userId = ""
    · simp [StoreOp.apply, ConversationHandler.markRead, hu, not_userViewChanged_self] at h
    have happly : StoreOp.apply db (.markRead userId req) =
        updateReadSeq db userId req.conversationId req.readSeq := by
      simp [StoreOp.apply, ConversationHandler.markRead, hu, NexoIm.markRead]
    rw [happly] at h
    rcases h with ⟨conversationId, hne⟩ | hne
    · rw [readSeqOf_updateReadSeq] at hne
      split_ifs at hne with hk
      · obtain ⟨rfl, -⟩ := Prod.mk.inj hk
        exact ⟨hu, rfl⟩
      · exact absurd rfl hne
    · exact absurd rfl hne
  | updateConversation userId conversationId req =>
    simp only [StoreOp.apply, ConversationHandler.updateConversation] at h
    split_ifs at h with hu hc
    · exact absurd h (not_userViewChanged_self db u)
    · exact absurd h (not_userViewChanged_self db u)
    simp only [NexoIm.updateConversation] at h
    split_ifs at h
    · exact absurd h (not_userViewChanged_self db u)
    by_cases hne : userId = u
    · exact ⟨hne ▸ hu, hne ▸ rfl⟩
    rcases h with ⟨_, h⟩ | h
    · exact absurd rfl h
    · exact absurd (conversationsOf_updateConversationRow db _ _ (Ne.symm hne)) h
  | allocate conversationId n =>
    cases ha : allocateSeq db conversationId n with
    | none => simp [StoreOp.apply, ha, not_userViewChanged_self] at h
    | some db' =>
      simp only [StoreOp.apply, ha, Option.getD_some] at h
      rcases h with ⟨c, h⟩ | h
      · exact absurd (readSeqOf_allocateSeq ha u c) h
      · dsimp only [allocateSeq] at ha
        split_ifs at ha
        cases ha
        exact absurd rfl h

/-- A caller's `MarkRead` or `UpdateConversation` never moves a `max_seq`. -/
theorem StoreOp.maxSeqOf_apply {db : Db} {op : StoreOp} (h : op.caller ≠ none) :
    maxSeqOf (op.apply db) = maxSeqOf db := by
  cases op with
  | markRead userId req =>
    simp only [StoreOp.apply, ConversationHandler.markRead, NexoIm.markRead]
    split_ifs <;> rfl
  | updateConversation userId conversationId req =>
    simp only [StoreOp.apply, ConversationHandler.updateConversation, NexoIm.updateConversation]
    split_ifs <;> rfl
  | allocate conversationId n => exact absurd rfl h

theorem caller_storeOp {h : Handler} {a : AuthContext} {q : ConversationParams} {op : StoreOp}
    (hop : h.storeOp a q = some op) : op.caller = some a.getUserId := by
  cases h <;> cases hop <;> rfl

/-! ### The server -/

/-- What changes the store: a request at its clock reading, or an allocation of `n` seqs in a
conversation, as a message send over the gateway makes. -/
inductive ServerEvent
  | request (now : Int64) (c : RequestContext) (q : ConversationParams)
  | allocate (conversationId : String) (n : Int64)

section Server

variable (p : Primitives) (tp : TokenParsers) (testEnv : Bool) (cfg : Option Config)

/-- Whether `serve` takes a request to `SendMessage`, the handler of `POST /msg/send` and
`POST /internal/msg/send`. -/
def sendsMessage (now : Int64) (c : RequestContext) : Bool :=
  match serve p tp testEnv cfg now c with
  | .handled h _ => decide (h = .messageSendMessage)
  | _ => false

/-- Whether an event is a request that `serve` takes to `SendMessage`. -/
def ServerEvent.isSend : ServerEvent → Bool
  | .request now c _ => sendsMessage p tp testEnv cfg now c
  | .allocate .. => false

/-- Whether an event is a request, not an allocation. -/
def ServerEvent.isRequest : ServerEvent → Bool
  | .request .. => true
  | .allocate .. => false

variable (sendMessage : Int64 → AuthContext → RequestContext → Db → Db)

/-- The store after one request at clock reading `now`. A message send leaves the store that
`sendMessage` gives: `MessageHandler.SendMessage` is not among the sources, and the model
leaves its writes abstract. Any other request applies the store operation of the handler that
`serve` runs, if it writes. -/
def serveStore (now : Int64) (db : Db) (c : RequestContext) (q : ConversationParams) : Db :=
  match serve p tp testEnv cfg now c with
  | .handled h a =>
    if h = .messageSendMessage then sendMessage now a c db
    else
      match h.storeOp a q with
      | some op => op.apply db
      | none => db
  | _ => db

/-- A request that does not send a message leaves the store as it was, or applies the store
operation of the handler `serve` runs for it. -/
theorem serveStore_cases {now : Int64} {c : RequestContext}
    (hs : sendsMessage p tp testEnv cfg now c = false) (db : Db) (q : ConversationParams) :
    serveStore p tp testEnv cfg sendMessage now db c q = db ∨
      ∃ h a op, serve p tp testEnv cfg now c = .handled h a ∧ h.storeOp a q = some op ∧
        serveStore p tp testEnv cfg sendMessage now db c q = op.apply db := by
  unfold sendsMessage at hs
  unfold serveStore
  cases hsv : serve p tp testEnv cfg now c with
  | handled h a =>
    rw [hsv] at hs
    have hh : h ≠ .messageSendMessage := of_decide_eq_false hs
    dsimp only
    rw [if_neg hh]
    cases hop : h.storeOp a q with
    | none => exact .inl rfl
    | some op => exact .inr ⟨h, a, op, rfl, hop, rfl⟩
  | _ => exact .inl rfl

/-- **Only the owner writes.** A request that does not send a message and changes a user's
`read_seq` in some conversation, or that user's conversation rows, carried a token of that
user: `extractToken` found it, `ParseTokenWithFallback` accepted it, and its claims name the
user, who is not empty. Neither the `Ignore-Auth` bypass nor an internal service can do it. -/
theorem serveStore_owner {now : Int64} {db : Db} {c : RequestContext} {q : ConversationParams}
    {u : String} (hs : sendsMessage p tp testEnv cfg now c = false)
    (h : UserViewChanged db (serveStore p tp testEnv cfg sendMessage now db c q) u) :
    u ≠ "" ∧ ∃ t claims, extractToken c = .ok t ∧ parseTokenWithFallback tp t cfg = .ok claims ∧
      claims.userId = u := by
  rcases serveStore_cases p tp testEnv cfg sendMessage hs db q with
    he | ⟨hd, a, op, hsv, hop, he⟩
  · rw [he] at h
    exact absurd h (not_userViewChanged_self db u)
  rw [he] at h
  obtain ⟨hu, hcaller⟩ := StoreOp.caller_of_changed h
  rw [caller_storeOp hop, Option.some.injEq] at hcaller
  obtain ⟨r, hr, -, rfl, hg⟩ := serve_handled p tp testEnv cfg now hsv
  rw [setupRouter_writesStore r hr (writesStore_of_storeOp hop)] at hg
  obtain ⟨stored, hj, rfl⟩ := except_map_eq_ok.1 hg
  rcases jwtAuth_ok hj with ⟨rfl, -⟩ | ⟨t, claims, rfl, ht, hp⟩
  · exact absurd hcaller.symm hu
  · exact ⟨hu, t, claims, ht, hp, hcaller⟩

/-- `POST /conversation/mark_read` with the bearer token `"tok"`. -/
def markReadRequest : RequestContext :=
  ⟨[("Authorization", "Bearer tok")], "POST", "/conversation/mark_read", []⟩

/-- `u1` marks `c1` read up to `5`. -/
def markReadParams : ConversationParams := ⟨"", ⟨"c1", 5⟩, ⟨none, none⟩⟩

theorem serveStore_owner_markRead :
    sendsMessage constPrimitives oneTokenParsers false (some internalConfig) 1700000000
      markReadRequest = false ∧
    UserViewChanged readSeqDb (serveStore constPrimitives oneTokenParsers false
      (some internalConfig) (fun _ _ _ db => db) 1700000000 readSeqDb markReadRequest
      markReadParams) "u1" ∧
    "u1" ≠ "" ∧ ∃ t claims, extractToken markReadRequest = .ok t ∧
      parseTokenWithFallback oneTokenParsers t (some internalConfig) = .ok claims ∧
      claims.userId = "u1" :=
  have hs : sendsMessage constPrimitives oneTokenParsers false (some internalConfig) 1700000000
      markReadRequest = false := by decide
  have h : UserViewChanged readSeqDb (serveStore constPrimitives oneTokenParsers false
      (some internalConfig) (fun _ _ _ db => db) 1700000000 readSeqDb markReadRequest
      markReadParams) "u1" :=
    .inl ⟨"c1", by decide⟩
  ⟨hs, h, serveStore_owner constPrimitives oneTokenParsers false (some internalConfig)
    (fun _ _ _ db => db) hs h⟩

/-- The store after one event. -/
def ServerEvent.apply (db : Db) : ServerEvent → Db
  | .request now c q => serveStore p tp testEnv cfg sendMessage now db c q
  | .allocate conversationId n => StoreOp.apply db (.allocate conversationId n)

/-- The store after a run of events. -/
def runServer (db : Db) (events : List ServerEvent) : Db :=
  events.foldl (ServerEvent.apply p tp testEnv cfg sendMessage) db

/-- An event that is not a message send leaves the store as it was or applies one store
operation, of a caller when the event is a request. -/
theorem ServerEvent.apply_cases {e : ServerEvent} (hs : e.isSend p tp testEnv cfg = false)
    (db : Db) :
    ServerEvent.apply p tp testEnv cfg sendMessage db e = db ∨
      ∃ op : StoreOp, (e.isRequest → op.caller ≠ none) ∧
        ServerEvent.apply p tp testEnv cfg sendMessage db e = op.apply db := by
  cases e with
  | request now c q =>
    exact (serveStore_cases p tp testEnv cfg sendMessage hs db q).imp_right
      fun ⟨_, _, op, _, hop, he⟩ => ⟨op, fun _ => by simp [caller_storeOp hop], he⟩
  | allocate conversationId n => exact .inr ⟨.allocate conversationId n, nofun, rfl⟩

/-- **Every run keeps `SeqInv`.** Over events that send no message, each `read_seq` stays in
`[0, max_seq]`. -/
theorem runServer_seqInv {db : Db} (h : SeqInv db) {events : List ServerEvent}
    (hsend : ∀ e ∈ events, e.isSend p tp testEnv cfg = false) :
    SeqInv (runServer p tp testEnv cfg sendMessage db events) := by
  induction events generalizing db with
  | nil => exact h
  | cons e events ih =>
    obtain ⟨hse, hsend⟩ := List.forall_mem_cons.1 hsend
    have hstep : SeqInv (ServerEvent.apply p tp testEnv cfg sendMessage db e) := by
      rcases ServerEvent.apply_cases p tp testEnv cfg sendMessage hse db with he | ⟨op, -, he⟩ <;>
        rw [he]
      exacts [h, StoreOp.apply_seqInv h op]
    exact ih hstep hsend

/-- No run of events that send no message lowers a `read_seq`. -/
theorem runServer_readSeqOf_le (db : Db) {events : List ServerEvent}
    (hsend : ∀ e ∈ events, e.isSend p tp testEnv cfg = false) (u conversationId : String) :
    readSeqOf db u conversationId ≤
      readSeqOf (runServer p tp testEnv cfg sendMessage db events) u conversationId := by
  induction events generalizing db with
  | nil => exact le_rfl
  | cons e events ih =>
    obtain ⟨hse, hsend⟩ := List.forall_mem_cons.1 hsend
    have hstep : readSeqOf db u conversationId ≤
        readSeqOf (ServerEvent.apply p tp testEnv cfg sendMessage db e) u conversationId := by
      rcases ServerEvent.apply_cases p tp testEnv cfg sendMessage hse db with he | ⟨op, -, he⟩ <;>
        rw [he]
      exact op.readSeqOf_le_apply db u conversationId
    exact hstep.trans (ih _ hsend)

/-- No run of events that send no message lowers a `max_seq`, and a run of such requests
alone moves none. -/
theorem runServer_maxSeqOf (db : Db) {events : List ServerEvent}
    (hsend : ∀ e ∈ events, e.isSend p tp testEnv cfg = false) (conversationId : String) :
    maxSeqOf db conversationId ≤
        maxSeqOf (runServer p tp testEnv cfg sendMessage db events) conversationId ∧
      ((∀ e ∈ events, e.isRequest) →
        maxSeqOf (runServer p tp testEnv cfg sendMessage db events) conversationId =
          maxSeqOf db conversationId) := by
  induction events generalizing db with
  | nil => exact ⟨le_rfl, fun _ => rfl⟩
  | cons e events ih =>
    obtain ⟨hse, hsend⟩ := List.forall_mem_cons.1 hsend
    obtain ⟨ihle, iheq⟩ := ih (ServerEvent.apply p tp testEnv cfg sendMessage db e) hsend
    have hstep : maxSeqOf db conversationId ≤
          maxSeqOf (ServerEvent.apply p tp testEnv cfg sendMessage db e) conversationId ∧
        (e.isRequest →
          maxSeqOf (ServerEvent.apply p tp testEnv cfg sendMessage db e) conversationId =
            maxSeqOf db conversationId) := by
      rcases ServerEvent.apply_cases p tp testEnv cfg sendMessage hse db with
        he | ⟨op, hop, he⟩ <;> rw [he]
      · exact ⟨le_rfl, fun _ => rfl⟩
      · exact ⟨op.maxSeqOf_le_apply db conversationId,
          fun hr => congrFun (StoreOp.maxSeqOf_apply (hop hr)) conversationId⟩
    refine ⟨hstep.1.trans ihle, fun hreq => ?_⟩
    obtain ⟨hre, hreq⟩ := List.forall_mem_cons.1 hreq
    rw [runServer, List.foldl_cons, ← runServer, iheq hreq, hstep.2 hre]

end Server

end NexoIm

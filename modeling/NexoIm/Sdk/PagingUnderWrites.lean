import NexoIm.Sdk.UpdateConversation

/-!
# Paging while the server writes

A client pages through its conversation list with the SDK, and between its requests the server
handles requests of any user through the router and the middleware, whose only writes, other
than message sends, are `MarkRead` and `UpdateConversation`. Neither moves a conversation row's
owner, `updated_at` or id, so the list order and every cursor mean the same before and after
them. A message send touches its rows' `updated_at`, which moves them in the list; its
handler is not among the sources, and the walk here is one with no message sent meanwhile,
over HTTP or over the gateway.

* `Db.listKeys`, each row's owner and list key; every store operation, and so every run of the
  server with no message send, keeps them (`StoreOp.listKeys_apply`, `runServer_listKeys`);
* stores with the same `listKeys` list the same keys in the same order, after every cursor
  (`sortedRows_keys`, `rowsAfter_keys`);
* `followPagesDuring`, the walk with the server's events before each request: when those
  events are requests that send no message, every request of the walk is answered, and the
  rows it shows are the rows after the start cursor in the store the walk started from, each
  once and in order, as many as the page sizes add up to, and all of them once a page has no
  more (`Client.followPagesDuring_spec`).
-/

namespace NexoIm

/-- Each row's owner and list key `(updated_at, conversation_id)`, in store order. -/
def Db.listKeys (db : Db) : List (String × (Int64 × String)) :=
  db.conversations.map fun c => (c.ownerId, (c.updatedAt, c.conversationId))

/-! ### The writes keep the list keys -/

theorem StoreOp.listKeys_apply (db : Db) (op : StoreOp) : (op.apply db).listKeys = db.listKeys := by
  cases op with
  | markRead userId req =>
    simp only [StoreOp.apply, ConversationHandler.markRead, NexoIm.markRead]
    split_ifs <;> rfl
  | updateConversation userId conversationId req =>
    simp only [StoreOp.apply, ConversationHandler.updateConversation, NexoIm.updateConversation]
    split_ifs <;> try rfl
    simp only [Db.listKeys, updateConversationRow_conversations, List.map_map,
        Function.comp_def, Conversation.ownerId_afterUpdate, Conversation.updatedAt_afterUpdate,
        Conversation.conversationId_afterUpdate]
  | allocate conversationId n =>
    cases ha : allocateSeq db conversationId n with
    | none => simp only [StoreOp.apply, ha, Option.getD_none]
    | some db' =>
      simp only [StoreOp.apply, ha, Option.getD_some]
      dsimp only [allocateSeq] at ha
      split_ifs at ha
      cases ha
      rfl

section Server

variable (p : Primitives) (tp : TokenParsers) (testEnv : Bool) (cfg : Option Config)
  (sendMessage : Int64 → AuthContext → RequestContext → Db → Db)

theorem runServer_listKeys (db : Db) {events : List ServerEvent}
    (hsend : ∀ e ∈ events, e.isSend p tp testEnv cfg = false) :
    (runServer p tp testEnv cfg sendMessage db events).listKeys = db.listKeys := by
  induction events generalizing db with
  | nil => rfl
  | cons e events ih =>
    obtain ⟨hse, hsend⟩ := List.forall_mem_cons.1 hsend
    refine (ih _ hsend).trans ?_
    rcases ServerEvent.apply_cases p tp testEnv cfg sendMessage hse db with he | ⟨op, -, he⟩ <;>
      rw [he]
    exact op.listKeys_apply db

end Server

/-! ### Same keys, same list -/

/-- The keys of an owner's rows are read off `listKeys`. -/
theorem ownerRows_keys (db : Db) (userId : String) :
    (ownerRows db userId).map (·.key) =
      (db.listKeys.filter (·.1 = userId)).map (·.2) := by
  simp only [ownerRows, Db.listKeys, List.filter_map, List.map_map, Function.comp_def]
  rfl

/-- Sorting rows and taking their keys is sorting the keys. -/
theorem sortConversations_keys (rows : List ConversationWithSeq) :
    (sortConversations rows).map (·.key) =
      (rows.map (·.key)).insertionSort fun a b => ¬ keyBefore b a :=
  List.map_insertionSort rowLe _ _ rows fun _ _ _ _ => Iff.rfl

theorem sortedRows_keys {db db' : Db} (h : db'.listKeys = db.listKeys) (userId : String) :
    (sortedRows db' userId).map (·.key) = (sortedRows db userId).map (·.key) := by
  rw [sortedRows, sortedRows, sortConversations_keys, sortConversations_keys, ownerRows_keys,
    ownerRows_keys, h]

/-- The keys after a cursor depend only on the keys of the list. -/
theorem rowsAfter_keys {S S' : List ConversationWithSeq} (h : S'.map (·.key) = S.map (·.key))
    (t : Int64) (id : String) :
    (rowsAfter S' t id).map (·.key) = (rowsAfter S t id).map (·.key) := by
  unfold rowsAfter
  split_ifs
  · show (S'.filter ((fun k => decide (keyBefore (t, id) k)) ∘ (·.key))).map _ =
      (S.filter ((fun k => decide (keyBefore (t, id) k)) ∘ (·.key))).map _
    rw [← List.filter_map, ← List.filter_map, h]
  · exact h

/-- Stores with the same `listKeys` satisfy the same conditions on their rows' keys. -/
theorem rows_of_listKeys {db db' : Db} (h : db'.listKeys = db.listKeys) {userId : String}
    (hrows : ∀ c ∈ db.conversations, c.ownerId = userId →
      0 < c.updatedAt ∧ c.conversationId ≠ "") :
    ∀ c ∈ db'.conversations, c.ownerId = userId → 0 < c.updatedAt ∧ c.conversationId ≠ "" := by
  intro c hc hown
  have hm : (c.ownerId, (c.updatedAt, c.conversationId)) ∈ db.listKeys :=
    h ▸ List.mem_map_of_mem _ hc
  obtain ⟨c₀, hc₀, he⟩ := List.mem_map.1 hm
  simp only [Prod.mk.injEq] at he
  obtain ⟨h₁, h₂, h₃⟩ := he
  rw [← h₂, ← h₃]
  exact hrows c₀ hc₀ (h₁.trans hown)

/-! ### The walk -/

namespace Client

section Walk

variable (p : Primitives) (tp : TokenParsers) (testEnv : Bool) (cfg : Option Config)
  (sendMessage : Int64 → AuthContext → RequestContext → Db → Db)

/-- A client paging through the list while the server handles other events: before each
request with a limit, the server runs the events of that gap; the client follows `NextCursor`
while `HasMore`. -/
def followPagesDuring (db : Db) (userId : String) (withLastMessage : Bool) :
    List (List ServerEvent × Int64) → Option ConversationListCursor →
      Except ServiceError (List ConversationListResult)
  | [], _ => .ok []
  | (events, limit) :: gaps, cursor =>
    let db := runServer p tp testEnv cfg sendMessage db events
    match getConversationListPage db userId withLastMessage limit cursor with
    | .error e => .error e
    | .ok page =>
      if page.hasMore then
        (followPagesDuring db userId withLastMessage gaps page.nextCursor).map (page :: ·)
      else .ok [page]

/-- **Paging while the server writes.** In a store whose rows carry positive timestamps and
non-empty ids, a client that starts from no cursor or a whole one and asks with limits up to
100 is answered at every request, whatever requests that send no message the server handles
between its requests; the rows it is shown are, in order, the first rows after its start
cursor in the store it started from, as many as the page sizes of its limits add up to, none
repeated or skipped; and when it stops because a page has no more, it has been shown every
one of them. -/
theorem followPagesDuring_spec (db : Db) {userId : String}
    (hrows : ∀ c ∈ db.conversations, c.ownerId = userId →
      0 < c.updatedAt ∧ c.conversationId ≠ "") (hu : userId ≠ "") (withLastMessage : Bool)
    (gaps : List (List ServerEvent × Int64)) (hlimits : ∀ g ∈ gaps, ¬ 100 < g.2)
    (hgaps : ∀ g ∈ gaps, ∀ e ∈ g.1, e.isRequest ∧ e.isSend p tp testEnv cfg = false)
    (cursor : Option ConversationListCursor)
    (hstart : ∀ c, cursor = some c → hasCursor c.updatedAt c.conversationId) :
    ∃ pages,
      followPagesDuring p tp testEnv cfg sendMessage db userId withLastMessage gaps cursor =
        .ok pages ∧
      (pages.map (·.list)).flatten.map (·.key) =
        ((rowsAfter (sortedRows db userId) ((cursor.map (·.updatedAt)).getD 0)
          ((cursor.map (·.conversationId)).getD "")).map (·.key)).take
            (totalPageSize (gaps.map (·.2))) ∧
      ∀ page ∈ pages.getLast?, page.hasMore = false →
        (pages.map (·.list)).flatten.map (·.key) =
          (rowsAfter (sortedRows db userId) ((cursor.map (·.updatedAt)).getD 0)
            ((cursor.map (·.conversationId)).getD "")).map (·.key) := by
  induction gaps generalizing db cursor with
  | nil => exact ⟨[], rfl, by simp [totalPageSize], by simp⟩
  | cons gap gaps ih =>
    obtain ⟨events, limit⟩ := gap
    obtain ⟨hlimit, hlimits⟩ := List.forall_mem_cons.1 hlimits
    obtain ⟨hgap, hgaps⟩ := List.forall_mem_cons.1 hgaps
    have hkeys := runServer_listKeys p tp testEnv cfg sendMessage db fun e he => (hgap e he).2
    rw [followPagesDuring]
    rw [getConversationListPage_of_start _ hu withLastMessage hlimit hstart,
      ← rowsAfter_keys (sortedRows_keys hkeys userId)]
    have hrows' := rows_of_listKeys hkeys hrows
    generalize runServer p tp testEnv cfg sendMessage db events = db' at hrows' ⊢
    generalize hR : rowsAfter (sortedRows db' userId) ((cursor.map (·.updatedAt)).getD 0)
      ((cursor.map (·.conversationId)).getD "") = R
    dsimp only
    have hlist : (pageOf db' withLastMessage (serviceLimit limit) R).list.map (·.key) =
        (R.map (·.key)).take (serviceLimit limit) := by
      simp only [pageOf, List.map_map, Function.comp_def, rowInfo_key, List.map_take]
    by_cases hm : serviceLimit limit < R.length
    · have hmore : (pageOf db' withLastMessage (serviceLimit limit) R).hasMore = true := by
        simpa [pageOf] using hm
      obtain ⟨c, hc, hcur, hafter⟩ := rowsAfter_nextCursor db' hrows' withLastMessage
        (serviceLimit_pos limit) _ _ (hR ▸ hm)
      rw [hR] at hc hafter
      obtain ⟨pages, hpages, hflat, hlast⟩ :=
        ih db' hrows' hlimits hgaps (some c) (fun c' h => Option.some.inj h ▸ hcur)
      simp only [Option.map_some', Option.getD_some, hafter, List.map_drop] at hflat hlast
      refine ⟨_ :: pages, by rw [if_pos hmore, hc, hpages]; rfl, ?_, ?_⟩
      · rw [List.map_cons, List.flatten_cons, List.map_append, hflat, hlist, List.map_cons,
          totalPageSize, List.take_add]
      · intro page hp hpm
        cases pages with
        | nil =>
          rw [List.getLast?_singleton, Option.mem_some_iff] at hp
          subst hp
          rw [hmore] at hpm
          cases hpm
        | cons q qs =>
          rw [List.getLast?_cons_cons] at hp
          rw [List.map_cons, List.flatten_cons, List.map_append, hlast page hp hpm, hlist,
            List.take_append_drop]
    · have hmore : (pageOf db' withLastMessage (serviceLimit limit) R).hasMore = false := by
        simpa [pageOf] using hm
      have hall : ∀ n, serviceLimit limit ≤ n → (R.map (·.key)).take n = R.map (·.key) :=
        fun n hn => List.take_of_length_le (by rw [List.length_map]; omega)
      refine ⟨[_], by rw [if_neg (by rw [hmore]; decide)], ?_, fun _ _ _ => ?_⟩ <;>
        simp only [List.map_cons, List.map_nil, List.flatten_cons, List.flatten_nil,
          List.append_nil, totalPageSize, hlist, hall _ (le_refl _),
          hall _ (Nat.le_add_right _ _)]

end Walk

/-- Three pages, the second asked after `u1` marks `c1` read. -/
def markReadGaps : List (List ServerEvent × Int64) :=
  [([], 1), ([.request 1700000000 markReadRequest markReadParams], 1), ([], 5)]

theorem followPagesDuring_spec_pagingDb :
    (∀ c ∈ pagingDb.conversations, c.ownerId = "u1" →
      0 < c.updatedAt ∧ c.conversationId ≠ "") ∧ "u1" ≠ "" ∧
    (∀ g ∈ markReadGaps, ¬ 100 < g.2) ∧
    (∀ g ∈ markReadGaps, ∀ e ∈ g.1,
      e.isRequest ∧ e.isSend constPrimitives oneTokenParsers false (some internalConfig) = false) ∧
    (∀ c, (none : Option ConversationListCursor) = some c →
      hasCursor c.updatedAt c.conversationId) ∧
    ∃ pages, followPagesDuring constPrimitives oneTokenParsers false (some internalConfig)
        (fun _ _ _ db => db) pagingDb "u1" false markReadGaps none = .ok pages ∧
      (pages.map (·.list)).flatten.map (·.key) =
        ((rowsAfter (sortedRows pagingDb "u1") 0 "").map (·.key)).take
          (totalPageSize (markReadGaps.map (·.2))) ∧
      ∀ page ∈ pages.getLast?, page.hasMore = false →
        (pages.map (·.list)).flatten.map (·.key) =
          (rowsAfter (sortedRows pagingDb "u1") 0 "").map (·.key) :=
  have hrows : ∀ c ∈ pagingDb.conversations, c.ownerId = "u1" →
      0 < c.updatedAt ∧ c.conversationId ≠ "" := by decide
  have hlimits : ∀ g ∈ markReadGaps, ¬ 100 < g.2 := by decide
  have hgaps : ∀ g ∈ markReadGaps, ∀ e ∈ g.1,
      e.isRequest ∧ e.isSend constPrimitives oneTokenParsers false (some internalConfig) =
        false := by decide
  have hstart : ∀ c, (none : Option ConversationListCursor) = some c →
      hasCursor c.updatedAt c.conversationId := fun _ h => nomatch h
  ⟨hrows, by decide, hlimits, hgaps, hstart, followPagesDuring_spec constPrimitives
    oneTokenParsers false (some internalConfig) (fun _ _ _ db => db) pagingDb hrows (by decide)
    false markReadGaps hlimits hgaps none hstart⟩

example : (followPagesDuring constPrimitives oneTokenParsers false (some internalConfig)
    (fun _ _ _ db => db) pagingDb "u1" false markReadGaps none).map
      (·.map fun p => (p.list.map fun i => (i.conversationId, i.unreadCount), p.hasMore)) =
    .ok [([("c1", 3)], true), ([("c3", 0)], true), ([("c2", 0)], false)] := by
  rfl

end Client

end NexoIm

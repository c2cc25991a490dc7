import Mathlib.Data.List.Nodup
import NexoIm.Conversation.Handler

/-!
# Cursor pagination of the conversation list

A client lists all of an owner's conversations with `GetConversationList`: first without a
cursor, then with the `NextCursor` of each page, until a page says `HasMore = false`
(`listAllPages`).

* in the sorted rows, the rows after the key of the `j`-th row are the rows after
  position `j` (`filter_keyBefore_getElem`), so the page after the cursor of row `i - 1`
  is the next `limit` rows from position `i` (`getUserConversationsPage_at`);
* `Listing k l pages`: the pages list `l` in pages of `k`, with `HasMore` and a cursor on
  all but the last;
* **the loop ends after `max(1, ⌈n/k⌉)` pages, which list every row once, in the list
  order** (`listAllPages_spec`).
-/

namespace NexoIm

/-! ### The page after a cursor -/

/-- In a strictly sorted list, the rows after the key of the `j`-th row are those after
position `j`. -/
theorem filter_keyBefore_getElem {S : List ConversationWithSeq}
    (hS : S.Pairwise fun a b => keyBefore a.key b.key) {j : Nat} {x : ConversationWithSeq}
    (hx : S[j]? = some x) : S.filter (fun r => keyBefore x.key r.key) = S.drop (j + 1) := by
  induction S generalizing j with
  | nil => cases hx
  | cons a t ih =>
    rw [List.pairwise_cons] at hS
    cases j with
    | zero =>
      obtain rfl : a = x := Option.some.inj (List.getElem?_cons_zero.symm.trans hx)
      rw [List.filter_cons_of_neg (by simpa using keyBefore_irrefl a.key), List.filter_eq_self.2]
      · rfl
      · exact fun b hb => by simpa using hS.1 b hb
    | succ j =>
      rw [List.getElem?_cons_succ] at hx
      rw [List.filter_cons_of_neg (by simpa using keyBefore_asymm (hS.1 x (List.getElem?_mem hx))),
        ih hS.2 hx]
      rfl

/-- The sort key of an info, as of the row it is built from. -/
def ConversationInfo.key (c : ConversationInfo) : Int64 × String :=
  (c.updatedAt, c.conversationId)

@[simp] theorem rowInfo_key (db : Db) (w : Bool) (conv : ConversationWithSeq) :
    (rowInfo db w conv).key = conv.key := rfl

@[simp] theorem withSeq_conversationId (db : Db) (c : Conversation) :
    (withSeq db c).conversationId = c.conversationId := rfl

@[simp] theorem withSeq_updatedAt (db : Db) (c : Conversation) :
    (withSeq db c).updatedAt = c.updatedAt := rfl

/-- An owner's conversation ids are distinct: `(owner_id, conversation_id)` is the key. -/
theorem ownerRows_nodup (db : Db) (userId : String) :
    ((ownerRows db userId).map (·.conversationId)).Nodup := by
  have hkey : ((db.conversations.filter (·.ownerId = userId)).map
      fun c : Conversation => (c.ownerId, c.conversationId)).Nodup :=
    db.conversations_key.sublist ((List.filter_sublist _).map _)
  have hmap : (db.conversations.filter (·.ownerId = userId)).map
      (fun c : Conversation => (c.ownerId, c.conversationId)) =
      ((ownerRows db userId).map (·.conversationId)).map (Prod.mk userId) := by
    simp only [ownerRows, List.map_map]
    refine List.map_congr_left fun c hc => ?_
    simp only [List.mem_filter, decide_eq_true_eq] at hc
    simp [hc.2]
  exact List.Nodup.of_map _ (hmap ▸ hkey)

/-- The owner's rows in the list order. -/
def sortedRows (db : Db) (userId : String) : List ConversationWithSeq :=
  sortConversations (ownerRows db userId)

theorem sortedRows_nodup (db : Db) (userId : String) :
    ((sortedRows db userId).map (·.conversationId)).Nodup :=
  ((sortConversations_perm _).map _).nodup_iff.2 (ownerRows_nodup db userId)

theorem sortedRows_pairwise (db : Db) (userId : String) :
    (sortedRows db userId).Pairwise fun a b => keyBefore a.key b.key :=
  sortConversations_pairwise <| List.Nodup.of_map Prod.snd <| by
    simpa only [List.map_map] using ownerRows_nodup db userId

/-- The cursor a client holds after the first `i` rows: none at the start, then the key of
the `i`-th row. -/
def cursorAt (S : List ConversationWithSeq) : Nat → Int64 × String
  | 0 => (0, "")
  | i + 1 => (S[i]?.map (·.key)).getD (0, "")

/-- The page of `k` rows from position `i`, as the service answers it. -/
def pageAt (db : Db) (w : Bool) (k : Nat) (S : List ConversationWithSeq) (i : Nat) :
    ConversationListResult where
  list := ((S.drop i).take k).map (rowInfo db w)
  hasMore := decide (k < S.length - i)
  nextCursor := if k < S.length - i then
      some ⟨(cursorAt S (i + k)).1, (cursorAt S (i + k)).2⟩
    else none

/-- The page size of a request `limit` in `[0, 100]`: the limit when positive, else
`DefaultConversationListLimit`. -/
def pageSize (limit : Int64) : Nat := if 0 < limit then limit.val.toNat else 20

theorem pageSize_pos (limit : Int64) : 0 < pageSize limit := by
  unfold pageSize
  split_ifs with h
  · have := Int64.lt_iff.1 h
    simp only [Int64.val_zero] at this
    omega
  · decide

/-- `max(1, ⌈n/k⌉)`: the number of pages of `n` rows by `k`. -/
def pageCount (k n : Nat) : Nat := max 1 ((n + k - 1) / k)

theorem pageCount_of_le {k n : Nat} (h : n ≤ k) : pageCount k n = 1 := by
  unfold pageCount
  rcases Nat.eq_zero_or_pos k with rfl | hk
  · simp
  · have : (n + k - 1) / k < 2 := (Nat.div_lt_iff_lt_mul hk).2 (by omega)
    omega

theorem pageCount_of_lt {k n : Nat} (hk : 0 < k) (h : k < n) :
    pageCount k n = pageCount k (n - k) + 1 := by
  have hq : 1 ≤ (n - k + k - 1) / k := (Nat.le_div_iff_mul_le hk).2 (by omega)
  unfold pageCount
  rw [show n + k - 1 = n - k + k - 1 + k by omega, Nat.add_div_right _ hk]
  omega

/-- Modelled from the spec: a client listing all of an owner's conversations. It calls
`GetConversationList` with the cursor it holds, and again with the page's `NextCursor` while
`HasMore`; `none` when `fuel` requests do not suffice. -/
def listPages (db : Db) (userId : String) (withLastMessage : Option Bool) (limit : Int64) :
    Nat → Int64 → String → Option (Except ServiceError (List ConversationListResult))
  | 0, _, _ => none
  | fuel + 1, cursorUpdatedAt, cursorConversationId =>
    match ConversationHandler.getConversationList db userId
        ⟨withLastMessage, limit, cursorUpdatedAt, cursorConversationId⟩ with
    | .error e => some (.error e)
    | .ok page =>
      match page.hasMore, page.nextCursor with
      | true, some c => (listPages db userId withLastMessage limit fuel c.updatedAt
          c.conversationId).map (·.map (page :: ·))
      | _, _ => some (.ok [page])

/-- Modelled from the spec: the client's loop, started without a cursor. -/
def listAllPages (db : Db) (userId : String) (withLastMessage : Option Bool) (limit : Int64)
    (fuel : Nat) : Option (Except ServiceError (List ConversationListResult)) :=
  listPages db userId withLastMessage limit fuel 0 ""

/-! ### Listing a list page by page -/

/-- `pages` list `l` in pages of `k`: each page but the last holds the next `k` items and
carries `HasMore` and a cursor; the last holds what is left, at most `k` items. -/
inductive Listing (k : Nat) : List ConversationInfo → List ConversationListResult → Prop
  | last {l : List ConversationInfo} : l.length ≤ k → Listing k l [⟨l, false, none⟩]
  | more {l : List ConversationInfo} {p : ConversationListResult} {ps : List ConversationListResult} :
    k < l.length → p.list = l.take k → p.hasMore = true → p.nextCursor.isSome →
    Listing k (l.drop k) ps → Listing k l (p :: ps)

namespace Listing

variable {k : Nat} {l : List ConversationInfo} {pages : List ConversationListResult}

theorem ne_nil (h : Listing k l pages) : pages ≠ [] := by
  cases h <;> simp

theorem flatten_eq (h : Listing k l pages) : (pages.map (·.list)).flatten = l := by
  induction h with
  | last => simp
  | more _ hp _ _ _ ih => rw [List.map_cons, List.flatten_cons, ih, hp, List.take_append_drop]

theorem length_eq (hk : 0 < k) (h : Listing k l pages) : pages.length = pageCount k l.length := by
  induction h with
  | last hl => rw [pageCount_of_le hl]; rfl
  | more hl _ _ _ _ ih => rw [List.length_cons, ih, pageCount_of_lt hk hl, List.length_drop]

/-- Every page but the last is full and points to the next. -/
theorem dropLast (h : Listing k l pages) :
    ∀ p ∈ pages.dropLast, p.list.length = k ∧ p.hasMore = true ∧ p.nextCursor.isSome := by
  induction h with
  | last => simp
  | more hk hp hm hc hrest ih =>
    rw [List.dropLast_cons_of_ne_nil hrest.ne_nil]
    rintro q (_ | ⟨_, hq⟩)
    · rw [hp, List.length_take]
      exact ⟨by omega, hm, hc⟩
    · exact ih q hq

/-- The last page holds what is left and says there is no more. -/
theorem getLast (h : Listing k l pages) :
    ∃ p, pages.getLast? = some p ∧ p.hasMore = false ∧ p.nextCursor = none ∧
      p.list.length ≤ k ∧ (l ≠ [] → p.list ≠ []) := by
  induction h with
  | last hl => exact ⟨_, rfl, rfl, rfl, hl, id⟩
  | more hk _ _ _ hrest ih =>
    obtain ⟨p, hp, h₁, h₂, h₃, h₄⟩ := ih
    obtain ⟨q, qs, rfl⟩ := List.exists_cons_of_ne_nil hrest.ne_nil
    refine ⟨p, by rw [List.getLast?_cons_cons, hp], h₁, h₂, h₃, fun _ => h₄ ?_⟩
    rw [← List.length_pos, List.length_drop]
    omega

end Listing

/-- The service clamps a limit in `[0, 100]` to the page size, and asks for one row more
without wrapping. -/
theorem clampedLimit_val {L lim : Int64} (hL0 : 0 ≤ L) (hL : L ≤ 100)
    (hlim : (if (if L ≤ 0 then defaultConversationListLimit else L) > maxConversationListLimit
      then maxConversationListLimit else if L ≤ 0 then defaultConversationListLimit else L) = lim) :
    lim.val = pageSize L ∧ (lim + 1).val.toNat = pageSize L + 1 := by
  have h100 : (100 : Int64).val = 100 := by decide
  have hL' := Int64.le_iff.1 hL
  have hval : lim.val = pageSize L := by
    subst hlim
    rcases hL0.lt_or_eq with hp | rfl
    · have hp' := Int64.lt_iff.1 hp
      rw [if_neg (not_le.2 hp), if_neg (show ¬ L > maxConversationListLimit from not_lt.2 hL),
        pageSize, if_pos hp]
      simp only [Int64.val_zero] at hp'
      omega
    · rfl
  have hsize : pageSize L ≤ 100 := by
    unfold pageSize
    split_ifs with hp
    · omega
    · omega
  refine ⟨hval, ?_⟩
  rw [Int64.val_add, show (1 : Int64).val = 1 by decide, hval,
    wrap_of_inInt64 (by unfold InInt64; omega)]
  omega

/-- Asking for `k + 1` rows and keeping `k` when more came is taking `k`. -/
theorem take_page {α : Type} (l : List α) (k : Nat) :
    (if k < l.length then (l.take (k + 1)).take k else l.take (k + 1)) = l.take k := by
  split_ifs with hm
  · rw [List.take_take, min_eq_left (Nat.le_succ k)]
  · rw [not_lt] at hm
    rw [List.take_of_length_le (by omega : l.length ≤ k + 1), List.take_of_length_le hm]

section Page

variable (db : Db) {userId : String}
  (hrows : ∀ c ∈ db.conversations, c.ownerId = userId → 0 < c.updatedAt ∧ c.conversationId ≠ "")
include hrows

theorem hasCursor_of_mem_sortedRows {r : ConversationWithSeq} (hr : r ∈ sortedRows db userId) :
    hasCursor r.updatedAt r.conversationId := by
  obtain ⟨c, hc, rfl⟩ := List.mem_map.1 ((sortConversations_perm _).subset hr)
  simp only [List.mem_filter, decide_eq_true_eq] at hc
  exact hrows c hc.1 hc.2

/-- Every cursor of the loop is either none or a whole one. -/
theorem cursorAt_cases (i : Nat) :
    cursorAt (sortedRows db userId) i = (0, "") ∨
      hasCursor (cursorAt (sortedRows db userId) i).1 (cursorAt (sortedRows db userId) i).2 := by
  cases i with
  | zero => exact .inl rfl
  | succ i =>
    rcases h : (sortedRows db userId)[i]? with _ | r
    · exact .inl (by simp [cursorAt, h])
    · simpa [cursorAt, h] using .inr (hasCursor_of_mem_sortedRows db hrows (List.getElem?_mem h))

/-- The repository's page after the cursor of the first `i` rows starts at row `i`. -/
theorem getUserConversationsWithSeqPage_cursorAt (limit : Int64) {i : Nat}
    (hi : i ≤ (sortedRows db userId).length) :
    getUserConversationsWithSeqPage db userId limit (cursorAt (sortedRows db userId) i).1
      (cursorAt (sortedRows db userId) i).2 =
      .ok (((sortedRows db userId).drop i).take limit.val.toNat) := by
  cases i with
  | zero => simp [getUserConversationsWithSeqPage, getUserConversationsWithSeq, cursorAt,
      hasCursor, Except.map, sortedRows]
  | succ i =>
    obtain ⟨r, hr⟩ : ∃ r, (sortedRows db userId)[i]? = some r :=
      ⟨_, List.getElem?_eq_getElem (by omega)⟩
    have hc := hasCursor_of_mem_sortedRows db hrows (List.getElem?_mem hr)
    have hf := filter_keyBefore_getElem (sortedRows_pairwise db userId) hr
    simp only [getUserConversationsWithSeqPage, getUserConversationsWithSeq, cursorAt, hr,
      Option.map_some', Option.getD_some, ConversationWithSeq.key] at hf ⊢
    simp only [Except.map, if_pos hc]
    rw [← sortedRows, hf]

/-- The service's page after the cursor of the first `i` rows is `pageAt`. -/
theorem getUserConversationsPage_cursorAt (w : Bool) {L : Int64} (hL0 : 0 ≤ L) (hL : L ≤ 100)
    {i : Nat} (hi : i ≤ (sortedRows db userId).length) :
    getUserConversationsPage db userId w L (cursorAt (sortedRows db userId) i).1
      (cursorAt (sortedRows db userId) i).2 = .ok (pageAt db w (pageSize L) (sortedRows db userId) i) := by
  simp only [getUserConversationsPage]
  generalize hlim : (if (if L ≤ 0 then defaultConversationListLimit else L) >
    maxConversationListLimit then maxConversationListLimit
    else if L ≤ 0 then defaultConversationListLimit else L) = lim
  obtain ⟨hval, hnext⟩ := clampedLimit_val hL0 hL hlim
  have hk0 := pageSize_pos L
  rw [getUserConversationsWithSeqPage_cursorAt db hrows _ hi, hnext]
  generalize pageSize L = k at hval hk0
  have hnodup : ((((sortedRows db userId).drop i).take k).map (·.conversationId)).Nodup :=
    (sortedRows_nodup db userId).sublist
      (((List.take_sublist _ _).trans (List.drop_sublist _ _)).map _)
  have hmore : decide (((((sortedRows db userId).drop i).take (k + 1)).length : Int) > lim.val) =
      decide (k < ((sortedRows db userId).drop i).length) :=
    decide_eq_decide.2 (by rw [List.length_take, hval]; omega)
  simp only [hmore, decide_eq_true_eq]
  simp only [hval, Int.toNat_natCast, take_page]
  simp only [List.length_drop, buildConversationInfos_eq db hnodup, pageAt]
  split_ifs with hm
  · obtain ⟨r, hr⟩ : ∃ r, (sortedRows db userId)[i + k - 1]? = some r :=
      ⟨_, List.getElem?_eq_getElem (by omega)⟩
    rw [List.getLast?_take, if_neg (by omega), List.getElem?_drop,
      show i + (k - 1) = i + k - 1 by omega, hr, show i + k = i + k - 1 + 1 by omega]
    simp [cursorAt, hr, ConversationWithSeq.key]
  · rfl

theorem getConversationList_cursorAt (hu : userId ≠ "") (w : Option Bool) {L : Int64}
    (hL0 : 0 ≤ L) (hL : L ≤ 100) {i : Nat} (hi : i ≤ (sortedRows db userId).length) :
    ConversationHandler.getConversationList db userId
      ⟨w, L, (cursorAt (sortedRows db userId) i).1, (cursorAt (sortedRows db userId) i).2⟩ =
      .ok (pageAt db (w.getD false) (pageSize L) (sortedRows db userId) i) := by
  have hlim : ¬ (L < 0 ∨ L > maxConversationListLimit) := by
    rw [not_or]
    exact ⟨not_lt.2 hL0, not_lt.2 hL⟩
  have hcur : ¬ ((cursorAt (sortedRows db userId) i).1 > 0 ∧ (cursorAt (sortedRows db userId) i).2 = "") ∧
      ¬ ((cursorAt (sortedRows db userId) i).2 ≠ "" ∧ (cursorAt (sortedRows db userId) i).1 ≤ 0) := by
    rcases cursorAt_cases db hrows i with h | ⟨h₁, h₂⟩
    · rw [h]
      exact ⟨fun h => lt_irrefl _ h.1, fun h => h.1 rfl⟩
    · exact ⟨fun h => h₂ h.2, fun h => not_le.2 h₁ h.2⟩
  simp only [ConversationHandler.getConversationList, if_neg hu, if_neg hlim, if_neg hcur.1,
    if_neg hcur.2]
  exact getUserConversationsPage_cursorAt db hrows _ hL0 hL hi

/-- From the cursor of the first `i` rows, enough requests list the remaining rows page by
page. -/
theorem listPages_cursorAt (hu : userId ≠ "") (w : Option Bool) {L : Int64} (hL0 : 0 ≤ L)
    (hL : L ≤ 100) (fuel : Nat) {i : Nat} (hi : i ≤ (sortedRows db userId).length)
    (hfuel : pageCount (pageSize L) ((sortedRows db userId).length - i) ≤ fuel) :
    ∃ pages, listPages db userId w L fuel (cursorAt (sortedRows db userId) i).1
        (cursorAt (sortedRows db userId) i).2 = some (.ok pages) ∧
      Listing (pageSize L) (((sortedRows db userId).drop i).map (rowInfo db (w.getD false)))
        pages := by
  induction fuel generalizing i with
  | zero => exact absurd hfuel (by unfold pageCount; omega)
  | succ fuel ih =>
    rw [listPages, getConversationList_cursorAt db hrows hu w hL0 hL hi]
    by_cases hm : pageSize L < (sortedRows db userId).length - i
    · rw [pageCount_of_lt (pageSize_pos L) hm] at hfuel
      obtain ⟨ps, hps, hl⟩ := ih (i := i + pageSize L) (by omega)
        (by rw [Nat.sub_add_eq]; omega)
      refine ⟨pageAt db (w.getD false) (pageSize L) (sortedRows db userId) i :: ps, ?_,
        .more ?_ ?_ ?_ ?_ ?_⟩
      · simp only [pageAt, hm, decide_True, if_true, hps]
        rfl
      · simp; omega
      · exact List.map_take _ _ _
      · simp [pageAt, hm]
      · simp [pageAt, hm]
      rwa [← List.map_drop, List.drop_drop]
    · have htake : ((sortedRows db userId).drop i).take (pageSize L) =
          (sortedRows db userId).drop i := List.take_of_length_le (by simp; omega)
      have hpage : pageAt db (w.getD false) (pageSize L) (sortedRows db userId) i =
          ⟨((sortedRows db userId).drop i).map (rowInfo db (w.getD false)), false, none⟩ := by
        simp only [pageAt, hm, htake, decide_False, if_false]
      refine ⟨[pageAt db (w.getD false) (pageSize L) (sortedRows db userId) i], ?_, ?_⟩
      · simp only [pageAt, hm, decide_False, if_false]
      · rw [hpage]
        exact .last (by simp; omega)

end Page

/-! ### The whole listing -/

/-- **Listing all conversations page by page.** For an owner whose rows have positive
`updated_at` and non-empty ids, and a `limit` the handler accepts, the client's loop makes
`max(1, ⌈n/k⌉)` requests, none of them rejected; every page but the last holds `k` rows and
carries `HasMore` and a cursor, the last holds the rest and carries neither, and the pages
together list the rows of `GetAllUserConversations` once each, in the list order. -/
theorem listAllPages_spec (db : Db) {userId : String} (hu : userId ≠ "") (w : Option Bool)
    {L : Int64} (hL0 : 0 ≤ L) (hL : L ≤ 100)
    (hrows : ∀ c ∈ db.conversations, c.ownerId = userId → 0 < c.updatedAt ∧ c.conversationId ≠ "")
    {fuel : Nat} (hfuel : pageCount (pageSize L) (ownerRows db userId).length ≤ fuel) :
    ∃ pages all, listAllPages db userId w L fuel = some (.ok pages) ∧
      getAllUserConversations db userId (w.getD false) = .ok all ∧
      pages.length = pageCount (pageSize L) (ownerRows db userId).length ∧
      (∀ p ∈ pages.dropLast, p.list.length = pageSize L ∧ p.hasMore = true ∧ p.nextCursor.isSome) ∧
      (∃ p, pages.getLast? = some p ∧ p.hasMore = false ∧ p.nextCursor = none ∧
        p.list.length ≤ pageSize L ∧ (all ≠ [] → p.list ≠ [])) ∧
      (pages.map (·.list)).flatten.Perm all ∧
      (pages.map (·.list)).flatten.Pairwise fun a b => keyBefore a.key b.key := by
  have hlen : (sortedRows db userId).length = (ownerRows db userId).length :=
    (sortConversations_perm _).length_eq
  obtain ⟨pages, hpages, hl⟩ := listPages_cursorAt db hrows hu w hL0 hL fuel (i := 0)
    (Nat.zero_le _) (by rwa [Nat.sub_zero, hlen])
  rw [List.drop_zero] at hl
  obtain ⟨p, hp, hmore, hcur, hsize, hne⟩ := hl.getLast
  refine ⟨pages, _, hpages, buildConversationInfos_eq db (ownerRows_nodup db userId) _, ?_,
    hl.dropLast, ⟨p, hp, hmore, hcur, hsize, fun h => hne ?_⟩, ?_, ?_⟩
  · rw [hl.length_eq (pageSize_pos L), List.length_map, hlen]
  · rw [← List.length_pos, List.length_map, hlen, ← List.length_map _ (rowInfo db _),
      List.length_pos]
    exact h
  · rw [hl.flatten_eq]
    exact (sortConversations_perm _).map _
  · rw [hl.flatten_eq, List.pairwise_map]
    simpa only [rowInfo_key] using sortedRows_pairwise db userId

/-- Three conversations of `u1`, two of them updated at the same second. -/
def pagingDb : Db where
  conversations := [⟨"u1", "c1", 1, "u2", "", 0, false, 1700000002⟩,
    ⟨"u1", "c2", 1, "u3", "", 0, false, 1700000001⟩,
    ⟨"u1", "c3", 2, "", "g1", 0, true, 1700000001⟩]
  conversationSeqs := [⟨"c1", 4⟩]
  seqUsers := [⟨"u1", "c1", 1⟩]
  messages := []
  conversations_key := by decide
  conversationSeqs_key := by decide
  seqUsers_key := by decide
  messages_key := by decide

theorem listAllPages_spec_pagingDb :
    ∃ pages all, listAllPages pagingDb "u1" none 2 2 = some (.ok pages) ∧
      getAllUserConversations pagingDb "u1" false = .ok all ∧
      pages.length = pageCount (pageSize 2) (ownerRows pagingDb "u1").length ∧
      (∀ p ∈ pages.dropLast, p.list.length = pageSize 2 ∧ p.hasMore = true ∧ p.nextCursor.isSome) ∧
      (∃ p, pages.getLast? = some p ∧ p.hasMore = false ∧ p.nextCursor = none ∧
        p.list.length ≤ pageSize 2 ∧ (all ≠ [] → p.list ≠ [])) ∧
      (pages.map (·.list)).flatten.Perm all ∧
      (pages.map (·.list)).flatten.Pairwise fun a b => keyBefore a.key b.key :=
  listAllPages_spec pagingDb (by decide) none (by decide) (by decide) (by decide) (by decide)

example : (listAllPages pagingDb "u1" none 2 2).map
    (·.map (·.map fun p => (p.list.map (·.conversationId), p.hasMore))) =
    some (.ok [(["c1", "c3"], true), (["c2"], false)]) := by
  rfl

end NexoIm

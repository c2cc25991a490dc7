import NexoIm.Conversation.Paging

/-!
# The page after any cursor

`GetUserConversationsPage` asks the repository for `limit + 1` rows after the cursor, reads
`HasMore` off the extra row, cuts the list back to `limit` and takes `NextCursor` from the last
row kept. Here that is compared with the plain page: the first `limit` rows after the cursor,
whether more follow, and the key of the last row shown.

* `rowsAfter`, the rows a cursor leaves (all of them without a whole cursor); `pageOf`, the
  plain page; `serviceLimit`, the page size the service clamps a limit to;
* for every cursor and every limit the service answers the plain page
  (`getUserConversationsPage_eq`);
* in the list order the rows after a cursor are a suffix of the list (`rowsAfter_eq_drop`);
* when a page has more, its `NextCursor` is a whole cursor, and the rows after it are exactly
  the rows after the first cursor that the page did not show (`rowsAfter_nextCursor`): the
  next page continues where this one stopped.
-/

namespace NexoIm

/-- The rows the repository leaves after a cursor, in the list order: those after it when a
whole cursor is given, all of them otherwise. -/
def rowsAfter (S : List ConversationWithSeq) (cursorUpdatedAt : Int64)
    (cursorConversationId : String) : List ConversationWithSeq :=
  if hasCursor cursorUpdatedAt cursorConversationId then
    S.filter fun r => keyBefore (cursorUpdatedAt, cursorConversationId) r.key
  else S

/-- The plain page of `k` rows: the first `k` of `rows`, whether more follow, and when they do
the key of the last row shown. -/
def pageOf (db : Db) (w : Bool) (k : Nat) (rows : List ConversationWithSeq) :
    ConversationListResult where
  list := (rows.take k).map (rowInfo db w)
  hasMore := decide (k < rows.length)
  nextCursor := if k < rows.length then
      rows[k - 1]?.map fun r => ⟨r.updatedAt, r.conversationId⟩
    else none

/-- The page size `GetUserConversationsPage` uses for a limit: `DefaultConversationListLimit`
when it is not positive, and at most `MaxConversationListLimit`. -/
def serviceLimit (limit : Int64) : Nat :=
  if limit ≤ 0 then 20 else if 100 < limit then 100 else limit.val.toNat

/-! ### The service against the plain page -/

theorem serviceLimit_pos (limit : Int64) : 0 < serviceLimit limit := by
  unfold serviceLimit
  split_ifs with h0 h1
  · decide
  · decide
  · have := Int64.lt_iff.1 (not_le.1 h0)
    simp only [Int64.val_zero] at this
    omega

theorem serviceLimit_le (limit : Int64) : serviceLimit limit ≤ 100 := by
  unfold serviceLimit
  split_ifs with h0 h1
  · decide
  · decide
  · have := Int64.lt_iff.not.1 h1
    have h100 : (100 : Int64).val = 100 := rfl
    omega

/-- The service's clamp of any limit is `serviceLimit`, and it asks for one row more without
wrapping. -/
theorem clampedLimit_serviceLimit {L lim : Int64}
    (hlim : (if (if L ≤ 0 then defaultConversationListLimit else L) > maxConversationListLimit
      then maxConversationListLimit else if L ≤ 0 then defaultConversationListLimit else L) = lim) :
    lim.val = serviceLimit L ∧ (lim + 1).val.toNat = serviceLimit L + 1 := by
  have h20 : defaultConversationListLimit.val = 20 := rfl
  have h100 : maxConversationListLimit.val = 100 := rfl
  have h100' : (100 : Int64).val = 100 := rfl
  have hval : lim.val = serviceLimit L := by
    subst hlim
    unfold serviceLimit
    split_ifs <;> simp only [gt_iff_lt, Int64.lt_iff, Int64.le_iff, Int64.val_zero, h20, h100,
      h100'] at * <;> omega
  have hle := serviceLimit_le L
  refine ⟨hval, ?_⟩
  rw [Int64.val_add, show (1 : Int64).val = 1 by decide, hval,
    wrap_of_inInt64 (by unfold InInt64; omega)]
  omega

theorem rowsAfter_sublist (S : List ConversationWithSeq) (t : Int64) (id : String) :
    (rowsAfter S t id).Sublist S := by
  unfold rowsAfter
  split_ifs
  · exact List.filter_sublist _
  · exact List.Sublist.refl S

/-- **The service's page is the plain page.** For every cursor and every limit,
`GetUserConversationsPage` answers the first `serviceLimit limit` rows after the cursor, with
`HasMore` exactly when more rows follow and then the key of the last row shown as
`NextCursor`: fetching one row more and cutting it off computes the same page. -/
theorem getUserConversationsPage_eq (db : Db) (userId : String) (w : Bool) (L t : Int64)
    (id : String) :
    getUserConversationsPage db userId w L t id =
      .ok (pageOf db w (serviceLimit L) (rowsAfter (sortedRows db userId) t id)) := by
  simp only [getUserConversationsPage]
  generalize hlim : (if (if L ≤ 0 then defaultConversationListLimit else L) >
    maxConversationListLimit then maxConversationListLimit
    else if L ≤ 0 then defaultConversationListLimit else L) = lim
  obtain ⟨hval, hnext⟩ := clampedLimit_serviceLimit hlim
  have hk0 := serviceLimit_pos L
  have hrepo : getUserConversationsWithSeqPage db userId (lim + 1) t id =
      .ok ((rowsAfter (sortedRows db userId) t id).take (serviceLimit L + 1)) := by
    rw [← hnext]
    rfl
  rw [hrepo]
  have hsub := rowsAfter_sublist (sortedRows db userId) t id
  generalize rowsAfter (sortedRows db userId) t id = R at hsub
  generalize serviceLimit L = k at hval hk0
  have hnodup : ((R.take k).map (·.conversationId)).Nodup :=
    (sortedRows_nodup db userId).sublist (((List.take_sublist _ _).trans hsub).map _)
  have hmore : decide (((R.take (k + 1)).length : Int) > lim.val) = decide (k < R.length) :=
    decide_eq_decide.2 (by rw [List.length_take, hval]; omega)
  simp only [hmore, decide_eq_true_eq]
  simp only [hval, Int.toNat_natCast, take_page]
  simp only [buildConversationInfos_eq db hnodup, pageOf]
  split_ifs with hm
  · obtain ⟨r, hr⟩ : ∃ r, R[k - 1]? = some r := ⟨_, List.getElem?_eq_getElem (by omega)⟩
    rw [List.getLast?_take, if_neg (by omega), hr]
    rfl
  · rfl

/-! ### Cursors cut suffixes -/

/-- A filter whose predicate, once true, stays true along a sorted list keeps a suffix. -/
theorem filter_eq_dropWhile_of_pairwise {α : Type} {R : α → α → Prop} {p : α → Bool}
    {S : List α} (hS : S.Pairwise R) (hp : ∀ a b, R a b → p a = true → p b = true) :
    S.filter p = S.dropWhile fun a => !p a := by
  induction S with
  | nil => rfl
  | cons a t ih =>
    rw [List.pairwise_cons] at hS
    by_cases ha : p a = true
    · rw [List.filter_cons_of_pos ha, List.filter_eq_self.2 fun b hb => hp a b (hS.1 b hb) ha,
        List.dropWhile_cons_of_neg (by simpa using ha)]
    · rw [List.filter_cons_of_neg ha, List.dropWhile_cons_of_pos (by simpa using ha), ih hS.2]

/-- In the list order the rows after a cursor are a suffix of the list. -/
theorem rowsAfter_eq_drop {S : List ConversationWithSeq}
    (hS : S.Pairwise fun a b => keyBefore a.key b.key) (t : Int64) (id : String) :
    ∃ m, rowsAfter S t id = S.drop m := by
  unfold rowsAfter
  split_ifs
  · let p := fun r : ConversationWithSeq => !decide (keyBefore (t, id) r.key)
    refine ⟨(S.takeWhile p).length, ?_⟩
    rw [filter_eq_dropWhile_of_pairwise hS fun a b hab ha => ?_]
    · calc S.dropWhile p = (S.takeWhile p ++ S.dropWhile p).drop (S.takeWhile p).length :=
            (List.drop_left _ _).symm
        _ = S.drop (S.takeWhile p).length := by rw [List.takeWhile_append_dropWhile]
    · simp only [decide_eq_true_eq] at ha ⊢
      exact keyBefore_trans ha hab
  · exact ⟨0, rfl⟩

/-- In a store whose rows carry positive timestamps and non-empty ids: when a page of `k ≥ 1`
rows after a cursor has more, its `NextCursor` is a whole cursor, and the rows after it are the
rows after the first cursor that the page did not show. -/
theorem rowsAfter_nextCursor (db : Db) {userId : String}
    (hrows : ∀ c ∈ db.conversations, c.ownerId = userId →
      0 < c.updatedAt ∧ c.conversationId ≠ "") (w : Bool) {k : Nat} (hk : 0 < k) (t : Int64) (id : String)
    (hm : k < (rowsAfter (sortedRows db userId) t id).length) :
    ∃ c, (pageOf db w k (rowsAfter (sortedRows db userId) t id)).nextCursor = some c ∧
      hasCursor c.updatedAt c.conversationId ∧
      rowsAfter (sortedRows db userId) c.updatedAt c.conversationId =
        (rowsAfter (sortedRows db userId) t id).drop k := by
  have hS := sortedRows_pairwise db userId
  obtain ⟨m, hmR⟩ := rowsAfter_eq_drop hS t id
  rw [hmR] at hm ⊢
  rw [List.length_drop] at hm
  obtain ⟨x, hx⟩ : ∃ x, (sortedRows db userId)[m + (k - 1)]? = some x :=
    ⟨_, List.getElem?_eq_getElem (by omega)⟩
  have hc := hasCursor_of_mem_sortedRows db hrows (List.getElem?_mem hx)
  refine ⟨⟨x.updatedAt, x.conversationId⟩, ?_, hc, ?_⟩
  · simp only [pageOf, List.length_drop, if_pos hm, List.getElem?_drop, hx, Option.map_some']
  · rw [rowsAfter, if_pos hc, List.drop_drop]
    rw [show m + k = m + (k - 1) + 1 by omega]
    exact filter_keyBefore_getElem hS hx

end NexoIm

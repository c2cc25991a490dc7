import NexoIm.Gateway.ClientConn

/-!
# What `writeLoop` delivers

Runs of the connection are recorded with the error each step returned, so that the frames
*accepted* by a run are those whose `WriteMessage` returned `nil`, in call order.

* `Steps s tr t`: the run `tr` leads from `s` to `t`;
* **the data frames on the socket are always a prefix of the accepted frames; when no socket
  write failed, they and the buffer together are exactly the accepted frames; and the close
  frame is written only once the buffer is empty** (`steps_delivery`);
* once `Close` has run, `writeLoop`'s `select` may take the `closeChan` case while frames
  are still buffered: the loop returns, and neither those frames nor the close frame are
  ever written (`closeChan_drops_buffered`).
-/

namespace NexoIm

variable {α : Type}

/-- The payload of a data frame. -/
def WsFrame.data? : WsFrame α → Option α
  | .binary d => some d
  | _ => none

/-- The data frames among the frames written. -/
def dataFrames (fs : List (WsFrame α)) : List α := fs.filterMap WsFrame.data?

/-- The frame a step accepts: that of a `WriteMessage` returning `nil`. -/
def acceptedOne : Event α × Option ConnError → Option α
  | (.writeMessage d, none) => some d
  | _ => none

/-- The frames a run accepts, in call order. -/
def accepted (tr : List (Event α × Option ConnError)) : List α := tr.filterMap acceptedOne

/-- Every socket write of the step succeeds. -/
def Event.writesOk : Event α → Bool
  | .loopRecv ok => ok
  | .loopTick ok => ok
  | _ => true

/-- Runs, each step with the error it returned, extended at the end. -/
inductive Steps (s : ConnState α) : List (Event α × Option ConnError) → ConnState α → Prop
  | refl : Steps s [] s
  | snoc {t t' : ConnState α} {tr : List (Event α × Option ConnError)} {e : Event α}
      {err : Option ConnError} :
      Steps s tr t → step t e = .next t' err → Steps s (tr ++ [(e, err)]) t'

@[simp] theorem dataFrames_append (fs gs : List (WsFrame α)) :
    dataFrames (fs ++ gs) = dataFrames fs ++ dataFrames gs := List.filterMap_append _ _ _

@[simp] theorem accepted_append (tr tr' : List (Event α × Option ConnError)) :
    accepted (tr ++ tr') = accepted tr ++ accepted tr' := List.filterMap_append _ _ _

@[simp] theorem accepted_singleton (x : Event α × Option ConnError) :
    accepted [x] = (acceptedOne x).toList := by
  cases h : acceptedOne x <;> simp [accepted, h]

theorem Steps.reachable {s : ConnState α} {tr : List (Event α × Option ConnError)}
    (h : Steps .init tr s) : Reachable s := by
  induction h with
  | refl => exact .init
  | snoc _ hs ih => exact .step ih hs

/-! ### One step -/

/-- Once `writeLoop` has returned, no step writes to the socket or restarts the loop. -/
theorem step_of_stopped {s s' : ConnState α} {e : Event α} {err : Option ConnError}
    (hs : s.loopRunning = false) (h : step s e = .next s' err) :
    s'.socket = s.socket ∧ s'.loopRunning = false := by
  cases step_eq_next_iff.1 h with
  | recvOk hr _ | recvFail hr _ | recvClose hr _ _ | recvCloseFail hr _ _ | tickOk hr
  | tickFail hr | loopCloseChan hr _ => exact absurd hr (by simp [hs])
  | _ => exact ⟨rfl, hs⟩

/-- **What one step does to the delivered frames.** Either the socket's data frames
followed by the buffer grow by exactly the frame the step accepts, or a failed write drops
the head of the buffer and stops the loop. -/
theorem step_delivery {s s' : ConnState α} {e : Event α} {err : Option ConnError}
    (h : step s e = .next s' err) :
    dataFrames s'.socket ++ s'.writeChan =
        dataFrames s.socket ++ s.writeChan ++ (acceptedOne (e, err)).toList ∨
      (∃ d, s.writeChan = d :: s'.writeChan ∧ dataFrames s'.socket = dataFrames s.socket ∧
        s'.loopRunning = false ∧ e.writesOk = false) := by
  cases step_eq_next_iff.1 h with
  | recvFail _ hq => exact .inr ⟨_, hq, rfl, rfl, rfl⟩
  | recvOk _ hq => exact .inl (by simp [hq, acceptedOne, dataFrames, WsFrame.data?])
  | _ => exact .inl (by simp [acceptedOne, dataFrames, WsFrame.data?])

/-- The close frame is written only by the `writeChan` case on the closed, empty channel,
and the loop returns after it. -/
theorem step_close {s s' : ConnState α} {e : Event α} {err : Option ConnError}
    (h : step s e = .next s' err) (hc : WsFrame.close ∈ s'.socket) (hn : WsFrame.close ∉ s.socket) :
    s'.socket = s.socket ++ [.close] ∧ s'.writeChan = [] ∧ s'.writeChanClosed = true ∧
      s'.loopRunning = false := by
  cases step_eq_next_iff.1 h with
  | recvClose _ hq hw => exact ⟨rfl, hq, hw, rfl⟩
  | recvOk | tickOk => simp [hn] at hc
  | _ => exact absurd hc hn

theorem acceptedOne_of_writesOk {e : Event α} (he : e.writesOk = false) (err : Option ConnError) :
    acceptedOne (e, err) = none := by
  cases e <;> simp_all [Event.writesOk, acceptedOne]

theorem Inv.closed_of_writeChanClosed {s : ConnState α} (hi : Inv s) (h : s.writeChanClosed = true) :
    s.closed = true := by
  have h1 := hi.closed_eq; have h2 := hi.writeChanClosed_eq
  cases hp : s.phase <;> simp_all [ClosePhase.setsClosed, ClosePhase.closesWriteChan]

/-! ### Whole runs -/

theorem Steps.of_stopped {s t : ConnState α} {tr : List (Event α × Option ConnError)}
    (h : Steps s tr t) (hs : s.loopRunning = false) : t.socket = s.socket ∧ t.loopRunning = false := by
  induction h with
  | refl => exact ⟨rfl, hs⟩
  | snoc _ hstep ih =>
    obtain ⟨h1, h2⟩ := step_of_stopped ih.2 hstep
    exact ⟨h1.trans ih.1, h2⟩

/-- The delivery invariant: the data frames written, the frames dropped by failed writes and
the buffer are, in this order, the accepted frames; a drop stops the loop, and a run whose
socket writes all succeed drops nothing. -/
theorem Steps.delivered {s : ConnState α} {tr : List (Event α × Option ConnError)}
    (h : Steps .init tr s) :
    ∃ dropped, dataFrames s.socket ++ dropped ++ s.writeChan = accepted tr ∧
      (dropped ≠ [] → s.loopRunning = false) ∧
      ((∀ x ∈ tr, x.1.writesOk) → dropped = []) := by
  induction h with
  | refl => exact ⟨[], rfl, fun h => absurd rfl h, fun _ => rfl⟩
  | @snoc t t' tr e err _ hstep ih =>
    obtain ⟨D, hD, hrun, hok⟩ := ih
    have hall : (∀ x ∈ tr ++ [(e, err)], x.1.writesOk) →
        (∀ x ∈ tr, x.1.writesOk) ∧ e.writesOk := fun h =>
      ⟨fun x hx => h x (List.mem_append_left _ hx), h _ (List.mem_append_right _ (List.mem_singleton_self _))⟩
    rcases step_delivery hstep with heq | ⟨d, hq, hdata, hstop, hbad⟩
    · by_cases hD0 : D = []
      · subst hD0
        refine ⟨[], ?_, fun h => absurd rfl h, fun _ => rfl⟩
        simp only [List.append_nil] at hD ⊢
        rw [heq, hD, accepted_append, accepted_singleton]
      · have hsock := (step_of_stopped (hrun hD0) hstep).1
        rw [hsock] at heq ⊢
        have hw : t'.writeChan = t.writeChan ++ (acceptedOne (e, err)).toList := by
          simpa only [List.append_assoc, List.append_cancel_left_eq] using heq
        refine ⟨D, ?_, fun _ => (step_of_stopped (hrun hD0) hstep).2,
          fun h => hok (hall h).1⟩
        rw [hw, accepted_append, ← hD, accepted_singleton]
        simp only [List.append_assoc]
    · refine ⟨D ++ [d], ?_, fun _ => hstop, fun h => absurd (hall h).2 (by simp [hbad])⟩
      rw [accepted_append, ← hD, hdata, hq, accepted_singleton, acceptedOne_of_writesOk hbad]
      simp

/-- With the connection closed, `writeChan` closed and the loop returned, a step changes
neither the buffer nor the socket. -/
theorem step_of_drained {s s' : ConnState α} {e : Event α} {err : Option ConnError}
    (hc : s.closed = true) (hw : s.writeChanClosed = true) (hr : s.loopRunning = false)
    (h : step s e = .next s' err) :
    s'.writeChan = s.writeChan ∧ s'.socket = s.socket ∧ s'.closed = true ∧
      s'.writeChanClosed = true ∧ s'.loopRunning = false := by
  cases step_eq_next_iff.1 h with
  | writeOk _ hc' => exact absurd hc (by simp [hc'])
  | closeWriteChan _ hw' => exact absurd hw (by simp [hw'])
  | closeSetClosed => exact ⟨rfl, rfl, rfl, hw, hr⟩
  | recvOk hr' _ | recvFail hr' _ | recvClose hr' _ _ | recvCloseFail hr' _ _ | tickOk hr'
  | tickFail hr' | loopCloseChan hr' _ => exact absurd hr' (by simp [hr])
  | _ => exact ⟨rfl, rfl, hc, hw, hr⟩

/-- After the close frame, the buffer is empty and closed, the loop has returned, and the
close frame is the last frame written. -/
theorem Steps.close_last {s : ConnState α} {tr : List (Event α × Option ConnError)}
    (h : Steps .init tr s) (hc : WsFrame.close ∈ s.socket) :
    s.writeChan = [] ∧ s.writeChanClosed = true ∧ s.loopRunning = false ∧
      s.socket.getLast? = some .close := by
  induction h with
  | refl => simp [ConnState.init] at hc
  | @snoc t t' tr e err hsteps hstep ih =>
    by_cases hn : WsFrame.close ∈ t.socket
    · obtain ⟨hw, hwc, hr, hl⟩ := ih hn
      have hcl := hsteps.reachable.inv.closed_of_writeChanClosed hwc
      obtain ⟨hw', hs', -, hwc', hr'⟩ := step_of_drained hcl hwc hr hstep
      exact ⟨hw'.trans hw, hwc', hr', hs' ▸ hl⟩
    · obtain ⟨hsock, hw, hwc, hr⟩ := step_close hstep hc hn
      exact ⟨hw, hwc, hr, by simp [hsock]⟩

/-- **Delivery order of `writeLoop`.** Over every run: the data frames written to the socket
are a prefix of the accepted frames, in the order their `WriteMessage` calls returned `nil`;
when every socket write succeeds, the frames written and the frames still buffered are
exactly the accepted frames; and once the close frame is written, the buffer is empty and
the close frame is the last frame. -/
theorem steps_delivery {s : ConnState α} {tr : List (Event α × Option ConnError)}
    (h : Steps .init tr s) :
    dataFrames s.socket <+: accepted tr ∧
    ((∀ x ∈ tr, x.1.writesOk) → dataFrames s.socket ++ s.writeChan = accepted tr) ∧
    (WsFrame.close ∈ s.socket → s.writeChan = [] ∧ s.socket.getLast? = some .close) := by
  obtain ⟨D, hD, -, hok⟩ := h.delivered
  refine ⟨⟨D ++ s.writeChan, by rw [← hD, List.append_assoc]⟩, fun hall => ?_, fun hc => ?_⟩
  · simpa [hok hall] using hD
  · obtain ⟨hw, -, -, hl⟩ := h.close_last hc
    exact ⟨hw, hl⟩

/-- A frame is accepted and written. -/
def writeRecvRun : List (Event Nat × Option ConnError) :=
  [(.writeMessage 7, none), (.loopRecv true, none)]

theorem steps_delivery_writeRecvRun :
    Steps .init writeRecvRun { ConnState.init with socket := [.binary 7] } ∧
    dataFrames [WsFrame.binary 7] <+: accepted writeRecvRun ∧
    ((∀ x ∈ writeRecvRun, x.1.writesOk) → dataFrames [WsFrame.binary 7] ++ [] =
      accepted writeRecvRun) ∧
    (WsFrame.close ∈ [WsFrame.binary 7] →
      ([] : List Nat) = [] ∧ [WsFrame.binary 7].getLast? = some .close) :=
  have h : Steps .init ([] ++ [(.writeMessage 7, none)] ++ [(.loopRecv true, none)])
      { ConnState.init with socket := [.binary 7] } := .snoc (.snoc .refl (by rfl)) (by rfl)
  ⟨h, steps_delivery h⟩

/-! ### `Close` racing `writeLoop` -/

theorem Steps.cons {s t u : ConnState α} {e : Event α} {err : Option ConnError}
    {tr : List (Event α × Option ConnError)} (hs : step s e = .next t err) (h : Steps t tr u) :
    Steps s ((e, err) :: tr) u := by
  induction h with
  | refl => exact .snoc .refl hs
  | snoc _ hstep ih => exact .snoc ih hstep

/-- A frame is accepted, `Close` runs to the end, and `writeLoop`'s `select` then takes the
`closeChan` case, which is ready together with the `writeChan` case. -/
def closeRaceRun (d : α) : List (Event α × Option ConnError) :=
  [(.writeMessage d, none), (.closeEnter, none), (.closeLock, none), (.closeSetClosed, none),
    (.closeWriteChan, none), (.closeUnlock, none), (.closeCloseChan, none),
    (.loopCloseChan, none)]

/-- Where `closeRaceRun` ends: closed, with the frame still buffered and the loop returned. -/
def closeRaceState (d : α) : ConnState α where
  closed := true
  writeChan := [d]
  writeChanClosed := true
  closeChanClosed := true
  phase := .done
  loopRunning := false
  socket := []

/-- **A frame accepted before `Close` is never written.** `closeRaceRun` accepts `d` and
ends with the loop returned and nothing written, and no continuation of it writes anything,
neither `d` nor the close frame. -/
theorem closeChan_drops_buffered (d : α) :
    Steps .init (closeRaceRun d) (closeRaceState d) ∧ accepted (closeRaceRun d) = [d] ∧
    ∀ tr s, Steps (closeRaceState d) tr s → s.socket = [] := by
  refine ⟨.cons rfl (.cons rfl (.cons rfl (.cons rfl (.cons rfl (.cons rfl (.cons rfl
    (.cons rfl .refl))))))), rfl, fun tr s h => (h.of_stopped rfl).1⟩

end NexoIm

import Mathlib.Data.List.Basic

/-!
# The WebSocket connection wrapper (`WebsocketClientConn`)

A connection owns a buffered `writeChan` (256 frames), a `closeChan`, a `closed` flag
guarded by `writeMu`, and a `closeOnce`. Producers call `WriteMessage`, which enqueues
without blocking; `Close` runs once; a single `writeLoop` goroutine drains the channel onto
the socket.

The state is what these goroutines share; an `Event` is one atomic step of one of them:

* `WriteMessage` runs entirely under `writeMu` and never blocks inside it, so it is one
  step, enabled when the mutex is free;
* the function run by `closeOnce` is split at each action on shared state: lock, set
  `closed`, `close(writeChan)`, unlock, `close(closeChan)`; a `Close` call that finds the
  once taken waits for that function and returns;
* an iteration of `writeLoop` takes one ready case of its `select`: a frame (or the close)
  of `writeChan`, a ticker tick, or the closed `closeChan`.

Sending on a closed channel and closing a closed channel panic in Go, and `step` returns
`panic` for them. `Reachable` is the closure of the initial state under `step`.

* `Transition`: the moves of `step`, one constructor per case with its guard. `step` moves
  exactly by them (`step_eq_next_iff`), and every lemma about one step is a case analysis
  over them;
* `Inv`, the invariant: the flags are those of the `Close` call's progress, and the buffer
  holds at most 256 frames (`Reachable.inv`);
* **no reachable state can panic, and `WriteMessage`, enabled whenever `Close` does not
  hold `writeMu`, answers by the flag and the buffer** (`reachable_safe`).
-/

namespace NexoIm

/-- Errors of `WriteMessage`. -/
inductive ConnError
  | errConnClosed
  | errWriteChannelFull
  deriving DecidableEq, Repr

/-- Progress of the function `Close` runs under `closeOnce`. -/
inductive ClosePhase
  | idle
  | started
  | locked
  | closedSet
  | chanClosed
  | unlocked
  | done
  deriving DecidableEq, Repr

/-- A frame `writeLoop` writes to the socket. -/
inductive WsFrame (α : Type)
  | binary (data : α)
  | ping
  | close
  deriving DecidableEq, Repr

/-- The shared state of a connection. `writeChan` lists the buffered frames, oldest first;
`socket` lists the frames written so far. -/
structure ConnState (α : Type) where
  closed : Bool
  writeChan : List α
  writeChanClosed : Bool
  closeChanClosed : Bool
  phase : ClosePhase
  loopRunning : Bool
  socket : List (WsFrame α)
  deriving DecidableEq, Repr

/-- One atomic step. The `Bool` of a loop step says whether its socket write succeeds. -/
inductive Event (α : Type)
  | writeMessage (data : α)
  | closeEnter
  | closeLock
  | closeSetClosed
  | closeWriteChan
  | closeUnlock
  | closeCloseChan
  | closeReturn
  | loopRecv (ok : Bool)
  | loopTick (ok : Bool)
  | loopCloseChan
  deriving DecidableEq, Repr

/-- The result of a step: the next state and the error returned (for `WriteMessage`), a
Go panic, or `blocked` when the step is not enabled. -/
inductive Outcome (α : Type)
  | next (s : ConnState α) (err : Option ConnError)
  | panic
  | blocked
  deriving DecidableEq, Repr

/-- `make(chan []byte, 256)`. -/
def writeChanCap : Nat := 256

/-- The state `NewWebSocketClientConn` returns, with `writeLoop` started. -/
def ConnState.init : ConnState α where
  closed := false
  writeChan := []
  writeChanClosed := false
  closeChanClosed := false
  phase := .idle
  loopRunning := true
  socket := []

/-- `writeMu` is held by the closing goroutine. -/
def ClosePhase.holdsWriteMu : ClosePhase → Bool
  | .locked | .closedSet | .chanClosed => true
  | _ => false

variable {α : Type}

/-- One step of a connection. -/
def step (s : ConnState α) : Event α → Outcome α
  | .writeMessage data =>
    if s.phase.holdsWriteMu then .blocked
    else if s.closed then .next s (some .errConnClosed)
    else if s.writeChanClosed then .panic
    else if s.writeChan.length < writeChanCap then
      .next { s with writeChan := s.writeChan ++ [data] } none
    else .next s (some .errWriteChannelFull)
  | .closeEnter => if s.phase = .idle then .next { s with phase := .started } none else .blocked
  | .closeLock => if s.phase = .started then .next { s with phase := .locked } none else .blocked
  | .closeSetClosed =>
    if s.phase = .locked then .next { s with closed := true, phase := .closedSet } none
    else .blocked
  | .closeWriteChan =>
    if s.phase = .closedSet then
      if s.writeChanClosed then .panic
      else .next { s with writeChanClosed := true, phase := .chanClosed } none
    else .blocked
  | .closeUnlock =>
    if s.phase = .chanClosed then .next { s with phase := .unlocked } none else .blocked
  | .closeCloseChan =>
    if s.phase = .unlocked then
      if s.closeChanClosed then .panic
      else .next { s with closeChanClosed := true, phase := .done } none
    else .blocked
  | .closeReturn => if s.phase = .done then .next s none else .blocked
  | .loopRecv ok =>
    if !s.loopRunning then .blocked
    else match s.writeChan with
      | data :: rest =>
        if ok then .next { s with writeChan := rest, socket := s.socket ++ [.binary data] } none
        else .next { s with writeChan := rest, loopRunning := false } none
      | [] =>
        if s.writeChanClosed then
          .next { s with loopRunning := false,
                         socket := if ok then s.socket ++ [.close] else s.socket } none
        else .blocked
  | .loopTick ok =>
    if !s.loopRunning then .blocked
    else if ok then .next { s with socket := s.socket ++ [.ping] } none
    else .next { s with loopRunning := false } none
  | .loopCloseChan =>
    if s.loopRunning ∧ s.closeChanClosed then .next { s with loopRunning := false } none
    else .blocked

/-! ### The transitions -/

/-- The moves of a connection, one constructor per case of `step` that does not panic or
block, with its guard: what a step can do, said once. -/
inductive Transition : ConnState α → Event α → ConnState α → Option ConnError → Prop
  | writeClosed {s : ConnState α} {d : α} : s.phase.holdsWriteMu = false → s.closed = true →
      Transition s (.writeMessage d) s (some .errConnClosed)
  | writeOk {s : ConnState α} {d : α} : s.phase.holdsWriteMu = false → s.closed = false →
      s.writeChanClosed = false → s.writeChan.length < writeChanCap →
      Transition s (.writeMessage d) { s with writeChan := s.writeChan ++ [d] } none
  | writeFull {s : ConnState α} {d : α} : s.phase.holdsWriteMu = false → s.closed = false →
      s.writeChanClosed = false → writeChanCap ≤ s.writeChan.length →
      Transition s (.writeMessage d) s (some .errWriteChannelFull)
  | closeEnter {s : ConnState α} : s.phase = .idle →
      Transition s .closeEnter { s with phase := .started } none
  | closeLock {s : ConnState α} : s.phase = .started →
      Transition s .closeLock { s with phase := .locked } none
  | closeSetClosed {s : ConnState α} : s.phase = .locked →
      Transition s .closeSetClosed { s with closed := true, phase := .closedSet } none
  | closeWriteChan {s : ConnState α} : s.phase = .closedSet → s.writeChanClosed = false →
      Transition s .closeWriteChan { s with writeChanClosed := true, phase := .chanClosed } none
  | closeUnlock {s : ConnState α} : s.phase = .chanClosed →
      Transition s .closeUnlock { s with phase := .unlocked } none
  | closeCloseChan {s : ConnState α} : s.phase = .unlocked → s.closeChanClosed = false →
      Transition s .closeCloseChan { s with closeChanClosed := true, phase := .done } none
  | closeReturn {s : ConnState α} : s.phase = .done → Transition s .closeReturn s none
  | recvOk {s : ConnState α} {d : α} {rest : List α} : s.loopRunning = true →
      s.writeChan = d :: rest →
      Transition s (.loopRecv true) { s with writeChan := rest, socket := s.socket ++ [.binary d] } none
  | recvFail {s : ConnState α} {d : α} {rest : List α} : s.loopRunning = true →
      s.writeChan = d :: rest →
      Transition s (.loopRecv false) { s with writeChan := rest, loopRunning := false } none
  | recvClose {s : ConnState α} : s.loopRunning = true → s.writeChan = [] →
      s.writeChanClosed = true →
      Transition s (.loopRecv true) { s with loopRunning := false, socket := s.socket ++ [.close] } none
  | recvCloseFail {s : ConnState α} : s.loopRunning = true → s.writeChan = [] →
      s.writeChanClosed = true → Transition s (.loopRecv false) { s with loopRunning := false } none
  | tickOk {s : ConnState α} : s.loopRunning = true →
      Transition s (.loopTick true) { s with socket := s.socket ++ [.ping] } none
  | tickFail {s : ConnState α} : s.loopRunning = true →
      Transition s (.loopTick false) { s with loopRunning := false } none
  | loopCloseChan {s : ConnState α} : s.loopRunning = true → s.closeChanClosed = true →
      Transition s .loopCloseChan { s with loopRunning := false } none

/-- **`step` moves exactly by the transitions.** -/
theorem step_eq_next_iff {s s' : ConnState α} {e : Event α} {err : Option ConnError} :
    step s e = .next s' err ↔ Transition s e s' err := by
  constructor
  · intro h
    cases e with
    | writeMessage d =>
      simp only [step] at h
      split_ifs at h with hm hc hw hlt <;> cases h
      · exact .writeClosed (by simpa using hm) hc
      · exact .writeOk (by simpa using hm) (by simpa using hc) (by simpa using hw) hlt
      · exact .writeFull (by simpa using hm) (by simpa using hc) (by simpa using hw) (by omega)
    | loopRecv ok =>
      simp only [step] at h
      split at h
      · cases h
      rename_i hr
      replace hr : s.loopRunning = true := by simpa using hr
      split at h <;> rename_i hq <;> cases ok <;>
        simp only [Bool.false_eq_true, if_false, if_true] at h
      · cases h
        exact .recvFail hr hq
      · cases h
        exact .recvOk hr hq
      · split at h <;> rename_i hw <;> cases h
        exact .recvCloseFail hr hq hw
      · split at h <;> rename_i hw <;> cases h
        exact .recvClose hr hq hw
    | loopTick ok =>
      simp only [step] at h
      split at h
      · cases h
      rename_i hr
      replace hr : s.loopRunning = true := by simpa using hr
      cases ok <;> simp only [Bool.false_eq_true, if_false, if_true] at h <;> cases h
      exacts [.tickFail hr, .tickOk hr]
    | _ =>
      simp only [step] at h
      split_ifs at h
      cases h
      constructor <;> simp_all
  · intro h
    cases h <;> simp_all [step]

/-- The states reachable from `init` by any interleaving of steps. -/
inductive Reachable : ConnState α → Prop
  | init : Reachable .init
  | step {s s' : ConnState α} {e : Event α} {err : Option ConnError} :
      Reachable s → step s e = .next s' err → Reachable s'

/-! ### The invariant -/

/-- `c.closed` once the closing goroutine has reached the phase. -/
def ClosePhase.setsClosed : ClosePhase → Bool
  | .closedSet | .chanClosed | .unlocked | .done => true
  | _ => false

/-- `writeChan` is closed once the closing goroutine has reached the phase. -/
def ClosePhase.closesWriteChan : ClosePhase → Bool
  | .chanClosed | .unlocked | .done => true
  | _ => false

/-- Outside the critical section, `closed` and the closing of `writeChan` agree. -/
theorem ClosePhase.closesWriteChan_eq_setsClosed {ph : ClosePhase} (h : ph.holdsWriteMu = false) :
    ph.closesWriteChan = ph.setsClosed := by
  cases ph <;> simp_all [holdsWriteMu, closesWriteChan, setsClosed]

/-- The invariant of every reachable state: the flags are determined by the progress of
`Close`, and the buffer respects the channel's capacity. -/
structure Inv (s : ConnState α) : Prop where
  closed_eq : s.closed = s.phase.setsClosed
  writeChanClosed_eq : s.writeChanClosed = s.phase.closesWriteChan
  closeChanClosed_eq : s.closeChanClosed = (s.phase == .done)
  length_le : s.writeChan.length ≤ writeChanCap

theorem Inv.init : Inv (ConnState.init : ConnState α) :=
  ⟨rfl, rfl, rfl, Nat.zero_le _⟩

/-- Every step keeps the invariant. -/
theorem step_inv {s s' : ConnState α} {e : Event α} {err : Option ConnError} (hi : Inv s)
    (h : step s e = .next s' err) : Inv s' := by
  obtain ⟨h1, h2, h3, h4⟩ := hi
  cases step_eq_next_iff.1 h with
  | writeOk _ _ _ hlt => exact ⟨h1, h2, h3, by rw [List.length_append]; exact hlt⟩
  | recvOk _ hq | recvFail _ hq =>
    rw [hq, List.length_cons] at h4
    exact ⟨h1, h2, h3, Nat.le_of_succ_le h4⟩
  | closeEnter hp | closeLock hp | closeUnlock hp =>
    rw [hp] at h1 h2 h3
    exact ⟨h1, h2, h3, h4⟩
  | closeSetClosed hp =>
    rw [hp] at h2 h3
    exact ⟨rfl, h2, h3, h4⟩
  | closeWriteChan hp _ =>
    rw [hp] at h1 h3
    exact ⟨h1, rfl, h3, h4⟩
  | closeCloseChan hp _ =>
    rw [hp] at h1 h2
    exact ⟨h1, h2, rfl, h4⟩
  | _ => exact ⟨h1, h2, h3, h4⟩

theorem Reachable.inv {s : ConnState α} (h : Reachable s) : Inv s := by
  induction h with
  | init => exact .init
  | step _ hs ih => exact step_inv ih hs

/-! ### Safety -/

/-- From a state of the invariant no step panics: `WriteMessage` never sends on the closed
`writeChan`, and neither channel is closed twice. -/
theorem step_ne_panic {s : ConnState α} (hi : Inv s) (e : Event α) : step s e ≠ .panic := by
  obtain ⟨h1, h2, h3, -⟩ := hi
  cases e with
  | writeMessage d =>
    simp only [step]
    split_ifs with hm hc hw <;> try simp
    have := ClosePhase.closesWriteChan_eq_setsClosed (by simpa using hm)
    simp_all
  | closeWriteChan => simp only [step]; split_ifs <;> simp_all [ClosePhase.closesWriteChan]
  | closeCloseChan => simp only [step]; split_ifs <;> simp_all
  | loopRecv ok =>
    rcases hq : s.writeChan with _ | ⟨d, rest⟩ <;> simp only [step, hq] <;> split_ifs <;> simp
  | _ => simp only [step]; split_ifs <;> simp

/-- **What `WriteMessage` returns** from a state of the invariant: `ErrConnClosed` exactly
when the connection is closed, `ErrWriteChannelFull` exactly when it is open with 256 frames
buffered, and `nil` otherwise, after appending the frame; an error leaves the state as it
was. -/
theorem step_writeMessage {s s' : ConnState α} {d : α} {err : Option ConnError} (hi : Inv s)
    (h : step s (.writeMessage d) = .next s' err) :
    (err = some .errConnClosed ↔ s.closed = true) ∧
    (err = some .errWriteChannelFull ↔ s.closed = false ∧ s.writeChan.length = writeChanCap) ∧
    (err = none ↔ s.closed = false ∧ s.writeChan.length < writeChanCap) ∧
    (err = none → s' = { s with writeChan := s.writeChan ++ [d] }) ∧
    (err ≠ none → s' = s) := by
  cases step_eq_next_iff.1 h with
  | writeClosed _ hc => simp [hc]
  | writeOk _ hc _ hlt => simp [hc, hlt, Nat.ne_of_lt hlt]
  | writeFull _ hc _ hge =>
    have hl := hi.length_le
    simp [hc]
    exact ⟨by omega, hge⟩

/-- Outside the critical section of `Close`, `WriteMessage` is enabled and returns: its
`select` has a `default` case, so nothing in it blocks. -/
theorem step_writeMessage_enabled {s : ConnState α} (hi : Inv s)
    (hm : s.phase.holdsWriteMu = false) (d : α) :
    ∃ s' err, step s (.writeMessage d) = .next s' err := by
  have hne := step_ne_panic hi (.writeMessage d)
  revert hne
  simp only [step, hm, Bool.false_eq_true, if_false]
  split_ifs <;> intro hne
  · exact ⟨_, _, rfl⟩
  · exact absurd rfl hne
  · exact ⟨_, _, rfl⟩
  · exact ⟨_, _, rfl⟩

/-- **Safety of the connection wrapper.** In every state reachable by any
interleaving of `WriteMessage`, `Close` and `writeLoop` steps: no step panics; outside the
critical section of `Close`, `writeChan` is closed exactly when `closed` is set; the buffer
holds at most 256 frames; outside that critical section `WriteMessage` is enabled and returns;
and it answers as `step_writeMessage` says. -/
theorem reachable_safe {s : ConnState α} (h : Reachable s) :
    (∀ e, step s e ≠ .panic) ∧
    (s.phase.holdsWriteMu = false → s.writeChanClosed = s.closed) ∧
    s.writeChan.length ≤ writeChanCap ∧
    (s.phase.holdsWriteMu = false → ∀ d, ∃ s' err, step s (.writeMessage d) = .next s' err) ∧
    (∀ d s' err, step s (.writeMessage d) = .next s' err →
      (err = some .errConnClosed ↔ s.closed = true) ∧
      (err = some .errWriteChannelFull ↔ s.closed = false ∧ s.writeChan.length = writeChanCap) ∧
      (err = none ↔ s.closed = false ∧ s.writeChan.length < writeChanCap) ∧
      (err = none → s' = { s with writeChan := s.writeChan ++ [d] }) ∧
      (err ≠ none → s' = s)) := by
  have hi := h.inv
  refine ⟨step_ne_panic hi, fun hm => ?_, hi.length_le, step_writeMessage_enabled hi,
    fun _ _ _ hs => step_writeMessage hi hs⟩
  rw [hi.writeChanClosed_eq, hi.closed_eq, ClosePhase.closesWriteChan_eq_setsClosed hm]

theorem reachable_safe_after_write :
    Reachable ({ ConnState.init with writeChan := [7] } : ConnState Nat) ∧
    (∀ e, step ({ ConnState.init with writeChan := [7] } : ConnState Nat) e ≠ .panic) ∧
    (ClosePhase.idle.holdsWriteMu = false → false = false) ∧
    [7].length ≤ writeChanCap ∧
    (ClosePhase.idle.holdsWriteMu = false → ∀ d, ∃ s' err,
      step ({ ConnState.init with writeChan := [7] } : ConnState Nat) (.writeMessage d) =
        .next s' err) ∧
    (∀ d s' err, step ({ ConnState.init with writeChan := [7] } : ConnState Nat)
        (.writeMessage d) = .next s' err →
      (err = some .errConnClosed ↔ false = true) ∧
      (err = some .errWriteChannelFull ↔ false = false ∧ [7].length = writeChanCap) ∧
      (err = none ↔ false = false ∧ [7].length < writeChanCap) ∧
      (err = none → s' = { ConnState.init with writeChan := [7] ++ [d] }) ∧
      (err ≠ none → s' = { ConnState.init with writeChan := [7] })) :=
  have h : Reachable ({ ConnState.init with writeChan := [7] } : ConnState Nat) :=
    .step (e := .writeMessage 7) .init rfl
  ⟨h, reachable_safe h⟩

end NexoIm

import Whisper.Network.WsClient

/-! # `WsClientImpl` statement by statement

    `WsClientImpl` holds no lock and none of its methods is `@Synchronized`. The application
    calls `connect()`, `disconnect()` and `markAuthExpired()` from its own threads, OkHttp runs
    the listener on the threads of each socket, and the coroutines the client launches run on
    `Dispatchers.Default`, a pool of threads: between two statements of one of them, any other
    may run a statement. `WsClientImpl.step` runs each method, callback and coroutine stretch at
    once; here they run one statement at a time. A call of a method or of a callback that has
    started is an `Activation`, with the statement it runs next, and so is each coroutine:

    - `connect()`: the check of `CONNECTED`, `CONNECTING`, `newWebSocket`, and the assignment
      of the new socket to `webSocket`;
    - `disconnect()`: `webSocket?.close(...)`, `webSocket = null`, `DISCONNECTED`;
    - `markAuthExpired()`: `reconnectPolicy.markAuthExpired()`, then `AUTH_EXPIRED`;
    - `onOpen`: `CONNECTED`, `reconnectPolicy.reset()`, `startHeartbeat()`;
    - `onFailure`: `DISCONNECTED`, then `attemptReconnect()`: the check of `shouldRetry()`,
      `RECONNECTING`, and `scope.launch`;
    - `onClosed`: `DISCONNECTED`;
    - a reconnect coroutine: `getDelayMs()`, the end of `delay`, then the statements of the
      `connect()` it calls;
    - a heartbeat loop: the `while` check, the end of `delay` with the `if` check, `send(PING)`.

    `send`, `webSocket?.close(...)` and each call of a `WsReconnectPolicy` method are one
    statement, and every statement sees the writes of all earlier ones. OkHttp reports a failure
    from its writer thread while the reader thread may still be in `onOpen`, so the callbacks of
    one socket may overlap as well.

    `step_simulated` connects the two models: from a state in which every call has returned, each
    step of `WsClientImpl.step` is a run of statements here that ends in the same state. Every
    run of `WsClientImpl.step` is therefore a run of the client (`run_simulated`), and the runs of
    `WsClient`'s Section 6 happen here too.
-/

namespace Whisper

namespace WsClientImpl

/-! ## Section 1: Activations -/

/-- The statement a `connect()` runs next. -/
inductive ConnectPc
  /-- `if (_connectionState.value == WsConnectionState.CONNECTED) return`. -/
  | check
  /-- `_connectionState.value = WsConnectionState.CONNECTING`. -/
  | setConnecting
  /-- `okHttpClient.newWebSocket(request, listener)`. -/
  | create
  /-- `webSocket =` socket `w`, which `newWebSocket` returned. -/
  | assign (w : Nat)
  deriving DecidableEq, Repr

/-- The statement an `attemptReconnect()` runs next. -/
inductive RetryPc
  /-- `if (reconnectPolicy.shouldRetry())`. -/
  | check
  /-- `_connectionState.value = WsConnectionState.RECONNECTING`. -/
  | setReconnecting
  /-- `scope.launch { delay(reconnectPolicy.getDelayMs()); connect() }`. -/
  | launch
  deriving DecidableEq, Repr

/-- A call of a method of `WsClientImpl` or of a callback of its listener that has started, at
    the statement it runs next. -/
inductive Activation
  /-- In `connect()`. -/
  | connect (pc : ConnectPc)
  /-- `disconnect()`: `webSocket?.close(1000, "Client disconnect")`. -/
  | disconnectClose
  /-- `disconnect()`: `webSocket = null`. -/
  | disconnectNull
  /-- `disconnect()`: `_connectionState.value = WsConnectionState.DISCONNECTED`. -/
  | disconnectSetState
  /-- `markAuthExpired()`: `reconnectPolicy.markAuthExpired()`. -/
  | markPolicy
  /-- `markAuthExpired()`: `_connectionState.value = WsConnectionState.AUTH_EXPIRED`. -/
  | markSetState
  /-- `onOpen`: `_connectionState.value = WsConnectionState.CONNECTED`. -/
  | openSetState
  /-- `onOpen`: `reconnectPolicy.reset()`. -/
  | openReset
  /-- `onOpen`: `startHeartbeat()`. -/
  | openStartHeartbeat
  /-- `onFailure`: `_connectionState.value = WsConnectionState.DISCONNECTED`. -/
  | failureSetState
  /-- `onFailure`: in `attemptReconnect()`. -/
  | failureRetry (pc : RetryPc)
  /-- `onClosed`: `_connectionState.value = WsConnectionState.DISCONNECTED`. -/
  | closedSetState
  /-- Returned. -/
  | returned
  deriving DecidableEq, Repr

/-- The statement a reconnect coroutine runs next. -/
inductive ReconnectPc
  /-- `reconnectPolicy.getDelayMs()`. -/
  | launched
  /-- The end of `delay` for the given milliseconds. -/
  | sleeping (delayMs : Long)
  /-- In the `connect()` it calls. -/
  | connect (pc : ConnectPc)
  /-- Ended. -/
  | done
  deriving DecidableEq, Repr

/-- The statement a heartbeat loop runs next. -/
inductive HeartbeatPc
  /-- `while (connectionState.value == WsConnectionState.CONNECTED)`. -/
  | checking
  /-- The end of `delay(HEARTBEAT_INTERVAL_MS)` and the `if` check after it. -/
  | sleeping
  /-- `send(WsFrame(Constants.MsgType.PING, ...))`. -/
  | sending
  /-- Has left the loop. -/
  | done
  deriving DecidableEq, Repr

/-- A `WsClientImpl` with everything that runs in it: the fields of the class, the sockets it has
    created, and the calls and coroutines in progress. -/
structure Interleaved where
  /-- `webSocket`: the index of the held socket, if any. -/
  webSocket : Option Nat
  /-- `_connectionState.value`. -/
  connectionState : WsConnectionState
  /-- `reconnectPolicy`. -/
  reconnectPolicy : WsReconnectPolicy
  /-- Every socket `connect` has created, in order. -/
  sockets : List Socket
  /-- The frames handed to a socket by `send`: the socket and the frame's `type`. -/
  sent : List (Nat × String)
  /-- Every call of a method or callback, in the order they started. -/
  activations : List Activation
  /-- Every coroutine `attemptReconnect` has launched, in order. -/
  reconnectJobs : List ReconnectPc
  /-- Every loop `startHeartbeat` has launched, in order. -/
  heartbeatJobs : List HeartbeatPc
  deriving DecidableEq, Repr

namespace Interleaved

/-- A newly injected client. -/
def init : Interleaved := ⟨none, .disconnected, .init, [], [], [], [], []⟩

/-! ## Section 2: Statements -/

/-- One statement of `connect()`: the state after it, and the statement after it, `none` once
    the call has returned. -/
def connectStmt (s : Interleaved) : ConnectPc → Interleaved × Option ConnectPc
  | .check => (s, if s.connectionState = .connected then none else some .setConnecting)
  | .setConnecting => ({ s with connectionState := .connecting }, some .create)
  | .create => ({ s with sockets := s.sockets ++ [Socket.new] }, some (.assign s.sockets.length))
  | .assign w => ({ s with webSocket := some w }, none)

/-- One statement of `attemptReconnect()`. -/
def retryStmt (s : Interleaved) : RetryPc → Interleaved × Option RetryPc
  | .check => (s, if s.reconnectPolicy.shouldRetry then some .setReconnecting else none)
  | .setReconnecting => ({ s with connectionState := .reconnecting }, some .launch)
  | .launch => ({ s with reconnectJobs := s.reconnectJobs ++ [.launched] }, none)

/-- `send(frame)`: `webSocket?.send(json)`. -/
def send (s : Interleaved) (type : String) : Interleaved :=
  match s.webSocket with
  | some w => { s with sent := s.sent ++ [(w, type)] }
  | none => s

/-- One statement of an activation: the state after it, and the activation after it. -/
def activationStmt (s : Interleaved) : Activation → Interleaved × Activation
  | .connect pc => ((s.connectStmt pc).1, (s.connectStmt pc).2.elim .returned .connect)
  | .disconnectClose =>
    ({ s with sockets := requestClose s.sockets s.webSocket }, .disconnectNull)
  | .disconnectNull => ({ s with webSocket := none }, .disconnectSetState)
  | .disconnectSetState => ({ s with connectionState := .disconnected }, .returned)
  | .markPolicy =>
    ({ s with reconnectPolicy := s.reconnectPolicy.markAuthExpired }, .markSetState)
  | .markSetState => ({ s with connectionState := .authExpired }, .returned)
  | .openSetState => ({ s with connectionState := .connected }, .openReset)
  | .openReset => ({ s with reconnectPolicy := s.reconnectPolicy.reset }, .openStartHeartbeat)
  | .openStartHeartbeat => ({ s with heartbeatJobs := s.heartbeatJobs ++ [.checking] }, .returned)
  | .failureSetState => ({ s with connectionState := .disconnected }, .failureRetry .check)
  | .failureRetry pc => ((s.retryStmt pc).1, (s.retryStmt pc).2.elim .returned .failureRetry)
  | .closedSetState => ({ s with connectionState := .disconnected }, .returned)
  | .returned => (s, .returned)

/-- A call or callback starts. -/
def start (s : Interleaved) (a : Activation) : Interleaved :=
  { s with activations := s.activations ++ [a] }

/-- Activation `i`, which stands at `x`, runs its next statement. -/
def resumeAt (s : Interleaved) (i : Nat) (x : Activation) : Interleaved :=
  let r := s.activationStmt x
  { r.1 with activations := s.activations.set i r.2 }

/-- Activation `i` runs its next statement. -/
def resume (s : Interleaved) (i : Nat) : Interleaved :=
  match s.activations[i]? with
  | some x => s.resumeAt i x
  | none => s

/-- Reconnect coroutine `j` calls `getDelayMs()` and enters `delay`. -/
def reconnectStart (s : Interleaved) (j : Nat) : Interleaved :=
  if s.reconnectJobs[j]? = some .launched then
    { s with
      reconnectPolicy := s.reconnectPolicy.getDelayMs.2
      reconnectJobs := s.reconnectJobs.set j (.sleeping s.reconnectPolicy.getDelayMs.1) }
  else s

/-- Reconnect coroutine `j` wakes from `delay` and calls `connect()`. -/
def reconnectFire (s : Interleaved) (j : Nat) : Interleaved :=
  match s.reconnectJobs[j]? with
  | some (.sleeping _) => { s with reconnectJobs := s.reconnectJobs.set j (.connect .check) }
  | _ => s

/-- Reconnect coroutine `j` runs the next statement of its `connect()`, and ends with it. -/
def reconnectResume (s : Interleaved) (j : Nat) : Interleaved :=
  match s.reconnectJobs[j]? with
  | some (.connect pc) =>
    let r := s.connectStmt pc
    { r.1 with reconnectJobs := s.reconnectJobs.set j (r.2.elim .done .connect) }
  | _ => s

/-- Heartbeat loop `j` evaluates its `while` condition. -/
def heartbeatCheck (s : Interleaved) (j : Nat) : Interleaved :=
  if s.heartbeatJobs[j]? = some .checking then
    let next : HeartbeatPc := if s.connectionState = .connected then .sleeping else .done
    { s with heartbeatJobs := s.heartbeatJobs.set j next }
  else s

/-- Heartbeat loop `j` wakes from `delay` and evaluates its `if` condition. -/
def heartbeatWake (s : Interleaved) (j : Nat) : Interleaved :=
  if s.heartbeatJobs[j]? = some .sleeping then
    let next : HeartbeatPc := if s.connectionState = .connected then .sending else .checking
    { s with heartbeatJobs := s.heartbeatJobs.set j next }
  else s

/-- Heartbeat loop `j` sends a `PING` and goes back to its `while` condition. -/
def heartbeatSend (s : Interleaved) (j : Nat) : Interleaved :=
  if s.heartbeatJobs[j]? = some .sending then
    { s with heartbeatJobs := s.heartbeatJobs.set j .checking }.send msgTypePing
  else s

end Interleaved

/-! ## Section 3: Runs -/

/-- What can happen next: a call or a callback starts, or one of the activations and coroutines
    in progress runs a statement. -/
inductive Action
  /-- The application calls `connect()`. -/
  | connect
  /-- The application calls `disconnect()`. -/
  | disconnect
  /-- The application calls `markAuthExpired()`. -/
  | markAuthExpired
  /-- The application calls `send` with a frame of this type. -/
  | send (type : String)
  /-- OkHttp calls `onOpen` on the listener of socket `w`. -/
  | onOpen (w : Nat)
  /-- OkHttp calls `onFailure` on the listener of socket `w`. -/
  | onFailure (w : Nat)
  /-- OkHttp calls `onClosed` on the listener of socket `w`. -/
  | onClosed (w : Nat)
  /-- Activation `i` runs its next statement. -/
  | resume (i : Nat)
  /-- Reconnect coroutine `j` reaches `getDelayMs()`. -/
  | reconnectStart (j : Nat)
  /-- Reconnect coroutine `j` wakes and calls `connect()`. -/
  | reconnectFire (j : Nat)
  /-- Reconnect coroutine `j` runs the next statement of its `connect()`. -/
  | reconnectResume (j : Nat)
  /-- Heartbeat loop `j` evaluates its condition. -/
  | heartbeatCheck (j : Nat)
  /-- Heartbeat loop `j` wakes from `delay`. -/
  | heartbeatWake (j : Nat)
  /-- Heartbeat loop `j` sends its `PING`. -/
  | heartbeatSend (j : Nat)
  deriving DecidableEq, Repr

/-- The socket openings. -/
def Action.isOnOpen : Action → Bool
  | .onOpen _ => true
  | _ => false

namespace Interleaved

/-- One action. An action that is not enabled changes nothing. -/
def step (s : Interleaved) : Action → Interleaved
  | .connect => s.start (.connect .check)
  | .disconnect => s.start .disconnectClose
  | .markAuthExpired => s.start .markPolicy
  | .send type => s.send type
  | .onOpen w =>
    if socketOpens s.sockets w then
      { s with sockets := s.sockets.modify Socket.setOpened w }.start .openSetState
    else s
  | .onFailure w =>
    if socketFails s.sockets w then
      { s with sockets := s.sockets.modify Socket.setFinished w }.start .failureSetState
    else s
  | .onClosed w =>
    if socketCloses s.sockets w then
      { s with sockets := s.sockets.modify Socket.setFinished w }.start .closedSetState
    else s
  | .resume i => s.resume i
  | .reconnectStart j => s.reconnectStart j
  | .reconnectFire j => s.reconnectFire j
  | .reconnectResume j => s.reconnectResume j
  | .heartbeatCheck j => s.heartbeatCheck j
  | .heartbeatWake j => s.heartbeatWake j
  | .heartbeatSend j => s.heartbeatSend j

/-- A run: the actions in order. -/
def run (s : Interleaved) (acts : List Action) : Interleaved := acts.foldl step s

@[simp] theorem run_nil (s : Interleaved) : s.run [] = s := rfl

@[simp] theorem run_cons (s : Interleaved) (a : Action) (acts : List Action) :
    s.run (a :: acts) = (s.step a).run acts := rfl

theorem run_append (s : Interleaved) (acts acts' : List Action) :
    s.run (acts ++ acts') = (s.run acts).run acts' := List.foldl_append _ _ _ _

/-- The states some run from `init` reaches. -/
inductive Reachable : Interleaved → Prop
  | init : Reachable init
  | step {s : Interleaved} (a : Action) : Reachable s → Reachable (s.step a)

theorem Reachable.run {s : Interleaved} (hs : Reachable s) (acts : List Action) :
    Reachable (s.run acts) := by
  induction acts generalizing s with
  | nil => exact hs
  | cons a acts ih => exact ih (hs.step a)

end Interleaved

/-! ## Section 4: Each method alone -/

/-- A reconnect coroutine of `WsClientImpl.step`, at the statement it runs next. -/
def ReconnectJob.toPc : ReconnectJob → ReconnectPc
  | .launched => .launched
  | .sleeping d => .sleeping d
  | .done => .done

/-- A heartbeat loop of `WsClientImpl.step`, at the statement it runs next. -/
def HeartbeatJob.toPc : HeartbeatJob → HeartbeatPc
  | .checking => .checking
  | .sleeping => .sleeping
  | .done => .done

/-- A state of `WsClientImpl.step`, in a client where `n` calls and callbacks have run and
    returned. -/
def embed (a : WsClientImpl) (n : Nat) : Interleaved :=
  ⟨a.webSocket, a.connectionState, a.reconnectPolicy, a.sockets, a.sent,
    List.replicate n .returned, a.reconnectJobs.map ReconnectJob.toPc,
    a.heartbeatJobs.map HeartbeatJob.toPc⟩

theorem embed_init : embed init 0 = Interleaved.init := rfl

/-- The statements one event of `WsClientImpl.step` runs, when `n` calls have returned before
    it: a call or callback starts as activation `n` and runs to its end, or a coroutine runs to
    its next suspension point. -/
def statements (n : Nat) : Event → List Action
  | .connect => [.connect, .resume n, .resume n, .resume n, .resume n]
  | .disconnect => [.disconnect, .resume n, .resume n, .resume n]
  | .markAuthExpired => [.markAuthExpired, .resume n, .resume n]
  | .send type => [.send type]
  | .onOpen w => [.onOpen w, .resume n, .resume n, .resume n]
  | .onFailure w => [.onFailure w, .resume n, .resume n, .resume n, .resume n]
  | .onClosed w => [.onClosed w, .resume n]
  | .reconnectStart j => [.reconnectStart j]
  | .reconnectFire j =>
    [.reconnectFire j, .reconnectResume j, .reconnectResume j, .reconnectResume j,
      .reconnectResume j]
  | .heartbeatCheck j => [.heartbeatCheck j]
  | .heartbeatWake j => [.heartbeatWake j, .heartbeatSend j]

section Simulation

open Interleaved

private theorem getElem?_replicate_snoc {α : Type} (n : Nat) (r x : α) :
    (List.replicate n r ++ [x])[n]? = some x := by
  simp

private theorem set_replicate_snoc {α : Type} (n : Nat) (r x y : α) :
    (List.replicate n r ++ [x]).set n y = List.replicate n r ++ [y] := by
  rw [List.set_append_right _ _ (by simp)]
  simp

private theorem getElem?_replicate_self {α : Type} (n : Nat) (r : α) :
    (List.replicate n r)[n]? = none :=
  List.getElem?_eq_none (by simp)

theorem step_simulated (a : WsClientImpl) (n : Nat) (e : Event) :
    ∃ m, (embed a n).run (statements n e) = embed (a.step e) m := by
  cases e with
  | connect =>
    refine ⟨n + 1, ?_⟩
    by_cases h : a.connectionState = .connected <;>
      simp [statements, embed, Interleaved.step, start, resume, resumeAt, activationStmt,
        connectStmt, WsClientImpl.step, connect_connected, connect_ne_connected, h,
        set_replicate_snoc, List.replicate_succ']
  | disconnect | markAuthExpired =>
    exact ⟨n + 1, by simp [statements, embed, Interleaved.step, start, resume, resumeAt,
      activationStmt, WsClientImpl.step, disconnect, markAuthExpired, set_replicate_snoc,
      List.replicate_succ']⟩
  | send t =>
    refine ⟨n, ?_⟩
    cases h : a.webSocket <;>
      simp [statements, embed, Interleaved.step, Interleaved.send, WsClientImpl.step,
        WsClientImpl.send, h]
  | onOpen w =>
    by_cases h : socketOpens a.sockets w = true
    · exact ⟨n + 1, by simp [statements, embed, Interleaved.step, start, resume, resumeAt,
        activationStmt, WsClientImpl.step, h, markOpened, onOpen, startHeartbeat,
        set_replicate_snoc, List.replicate_succ', HeartbeatJob.toPc]⟩
    · exact ⟨n, by simp [statements, embed, Interleaved.step, resume, WsClientImpl.step, h,
        getElem?_replicate_self]⟩
  | onFailure w =>
    by_cases h : socketFails a.sockets w = true
    · refine ⟨n + 1, ?_⟩
      by_cases hr : a.reconnectPolicy.shouldRetry = true <;>
        simp [statements, embed, Interleaved.step, start, resume, resumeAt, activationStmt,
          retryStmt, WsClientImpl.step, h, hr, markFinished, onFailure, attemptReconnect,
          set_replicate_snoc, List.replicate_succ', ReconnectJob.toPc]
    · exact ⟨n, by simp [statements, embed, Interleaved.step, resume, WsClientImpl.step, h,
        getElem?_replicate_self]⟩
  | onClosed w =>
    by_cases h : socketCloses a.sockets w = true
    · exact ⟨n + 1, by simp [statements, embed, Interleaved.step, start, resume, resumeAt,
        activationStmt, WsClientImpl.step, h, markFinished, onClosed, set_replicate_snoc,
        List.replicate_succ']⟩
    · exact ⟨n, by simp [statements, embed, Interleaved.step, resume, WsClientImpl.step, h,
        getElem?_replicate_self]⟩
  | reconnectStart j =>
    refine ⟨n, ?_⟩
    rcases hj : a.reconnectJobs[j]? with _ | (_ | d | _) <;>
      simp [statements, embed, Interleaved.step, Interleaved.reconnectStart,
        WsClientImpl.step, WsClientImpl.reconnectStart, hj, ReconnectJob.toPc, List.map_set]
  | reconnectFire j =>
    refine ⟨n, ?_⟩
    by_cases h : a.connectionState = .connected <;>
    rcases hj : a.reconnectJobs[j]? with _ | (_ | d | _) <;>
      simp [statements, embed, Interleaved.step, Interleaved.reconnectFire, reconnectResume,
        connectStmt, WsClientImpl.step, WsClientImpl.reconnectFire, hj, h, ReconnectJob.toPc,
        List.getElem?_set_self', connect_connected, connect_ne_connected, List.map_set]
  | heartbeatCheck j =>
    refine ⟨n, ?_⟩
    by_cases h : a.connectionState = .connected <;>
    rcases hj : a.heartbeatJobs[j]? with _ | (_ | _ | _) <;>
      simp [statements, embed, Interleaved.step, Interleaved.heartbeatCheck, WsClientImpl.step,
        WsClientImpl.heartbeatCheck, hj, h, HeartbeatJob.toPc, List.map_set]
  | heartbeatWake j =>
    refine ⟨n, ?_⟩
    by_cases h : a.connectionState = .connected <;> cases hw : a.webSocket <;>
    rcases hj : a.heartbeatJobs[j]? with _ | (_ | _ | _) <;>
      simp [statements, embed, Interleaved.step, Interleaved.heartbeatWake, heartbeatSend,
        Interleaved.send, WsClientImpl.step, WsClientImpl.heartbeatWake, WsClientImpl.send, hj, h,
        hw, HeartbeatJob.toPc, List.getElem?_set_self', List.map_set]

/-- Every run of `WsClientImpl.step` from a state in which `n` calls have returned is a run of
    statements that ends in the same state. -/
theorem run_simulated_from (a : WsClientImpl) (n : Nat) (evs : List Event) :
    ∃ acts m, (embed a n).run acts = embed (a.run evs) m := by
  induction evs generalizing a n with
  | nil => exact ⟨[], n, rfl⟩
  | cons e evs ih =>
    obtain ⟨m, hm⟩ := step_simulated a n e
    obtain ⟨acts, k, hk⟩ := ih (a.step e) m
    exact ⟨statements n e ++ acts, k, by rw [Interleaved.run_append, hm, hk, run_cons]⟩

/-- Every run of `WsClientImpl.step` from a new client, in which each method, callback and
    coroutine stretch runs alone, is a run of the client statement by statement from a new
    client, which ends with the same fields, sockets, frames sent and coroutines, and with every
    call returned. -/
theorem run_simulated (evs : List Event) :
    ∃ acts n, Interleaved.init.run acts = embed (init.run evs) n :=
  run_simulated_from init 0 evs

end Simulation

end WsClientImpl

end Whisper

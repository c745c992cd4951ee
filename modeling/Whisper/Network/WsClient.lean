import Whisper.Network.ReconnectPolicy

/-! # `WsClient.kt`: the WebSocket client as a state machine

    `WsClientImpl` is driven from three sides: the application calls `connect`, `disconnect`,
    `markAuthExpired` and `send`; OkHttp delivers `onOpen`, `onFailure` and `onClosed` to the
    listener of each socket the client has created; and the coroutines the client launches on
    the application scope (one per `attemptReconnect`, one per `startHeartbeat`) resume at their
    suspension points. Each of these is an `Event`, and a run is any sequence of them.

    The model keeps every variable the code reads or writes: `webSocket`, `_connectionState`, the
    `reconnectPolicy`, and the frames `send` hands to a socket. It adds what the code leaves to
    OkHttp and the coroutine scheduler: which sockets exist and how far each has got, and at
    which suspension point each launched coroutine stands.

    A socket event is enabled by OkHttp's life cycle: `onOpen` once, before any other callback;
    `onFailure` at any time until the socket is finished; `onClosed` only after `onOpen`. A close
    request does not disable `onOpen`: OkHttp queues the close frame and still opens the socket.
    The listener ignores which socket called it, and so does the model. An event that is not
    enabled changes nothing, so `step` is total and a run is a fold.

    Here each method, callback and stretch of a coroutine between two suspension points is one
    step: these are the runs in which none of them overlaps another. The class holds no lock, so
    the client also runs them statement by statement, interleaved; `Interleaving` models that,
    and shows that every run here is one of its runs. The runs of Section 6 are therefore runs
    of the client; what holds along every run is proved there.
-/

namespace Whisper

/-! ## Section 1: State -/

/-- `WsConnectionState`. -/
inductive WsConnectionState
  | disconnected
  | connecting
  | connected
  | reconnecting
  | authExpired
  deriving DecidableEq, Repr

/-- `Constants.MsgType.PING`. -/
def msgTypePing : String := "ping"

/-- How far one `WebSocket` returned by `newWebSocket` has got. -/
structure Socket where
  /-- `onOpen` has been delivered. -/
  opened : Bool
  /-- The client has called `close(1000, "Client disconnect")` on it. -/
  closeRequested : Bool
  /-- `onFailure` or `onClosed` has been delivered. -/
  finished : Bool
  deriving DecidableEq, Repr

/-- A socket whose handshake is under way. -/
def Socket.new : Socket := ⟨false, false, false⟩

/-- The socket after `onOpen`. -/
def Socket.setOpened (k : Socket) : Socket := { k with opened := true }

/-- The socket after `onFailure` or `onClosed`. -/
def Socket.setFinished (k : Socket) : Socket := { k with finished := true }

/-- The socket after `close(1000, "Client disconnect")`. -/
def Socket.setCloseRequested (k : Socket) : Socket := { k with closeRequested := true }

/-- Open: `onOpen` delivered and no `onFailure` or `onClosed` yet. -/
def Socket.isOpen (k : Socket) : Bool := k.opened && !k.finished

/-- The coroutine `attemptReconnect` launches: `delay(reconnectPolicy.getDelayMs()); connect()`. -/
inductive ReconnectJob
  /-- Launched; `getDelayMs()` not yet called. -/
  | launched
  /-- Suspended in `delay` for the given milliseconds. -/
  | sleeping (delayMs : Long)
  /-- Has called `connect()`. -/
  | done
  deriving DecidableEq, Repr

/-- The loop `startHeartbeat` launches:
    `while (CONNECTED) { delay(HEARTBEAT_INTERVAL_MS); if (CONNECTED) send(PING) }`. -/
inductive HeartbeatJob
  /-- At the `while` condition. -/
  | checking
  /-- Suspended in `delay`. -/
  | sleeping
  /-- Has left the loop. -/
  | done
  deriving DecidableEq, Repr

/-- A `WsClientImpl` with the sockets and coroutines it has started. -/
structure WsClientImpl where
  /-- `webSocket`: the index of the held socket, if any. -/
  webSocket : Option Nat
  /-- `_connectionState.value`. -/
  connectionState : WsConnectionState
  /-- `reconnectPolicy`. -/
  reconnectPolicy : WsReconnectPolicy
  /-- Every socket `connect` has created, in order. -/
  sockets : List Socket
  /-- Every coroutine `attemptReconnect` has launched, in order. -/
  reconnectJobs : List ReconnectJob
  /-- Every loop `startHeartbeat` has launched, in order. -/
  heartbeatJobs : List HeartbeatJob
  /-- The frames handed to a socket by `send`: the socket and the frame's `type`. -/
  sent : List (Nat × String)
  deriving DecidableEq, Repr

namespace WsClientImpl

/-- A newly injected client. -/
def init : WsClientImpl := ⟨none, .disconnected, .init, [], [], [], []⟩

/-! ## Section 2: The methods -/

/-- `connect()`. -/
def connect (s : WsClientImpl) : WsClientImpl :=
  if s.connectionState = .connected then s
  else { s with
    connectionState := .connecting
    sockets := s.sockets ++ [Socket.new]
    webSocket := some s.sockets.length }

/-- `send(frame)`: `webSocket?.send(json)`. -/
def send (s : WsClientImpl) (type : String) : WsClientImpl :=
  match s.webSocket with
  | some w => { s with sent := s.sent ++ [(w, type)] }
  | none => s

/-! `connect` and `send` touch few fields; these lemmas say which, so that no later proof
    unfolds them. -/

@[simp] theorem connect_reconnectPolicy (s : WsClientImpl) :
    s.connect.reconnectPolicy = s.reconnectPolicy := by unfold connect; split <;> rfl

@[simp] theorem connect_reconnectJobs (s : WsClientImpl) :
    s.connect.reconnectJobs = s.reconnectJobs := by unfold connect; split <;> rfl

@[simp] theorem connect_heartbeatJobs (s : WsClientImpl) :
    s.connect.heartbeatJobs = s.heartbeatJobs := by unfold connect; split <;> rfl

@[simp] theorem connect_sent (s : WsClientImpl) : s.connect.sent = s.sent := by
  unfold connect; split <;> rfl

theorem connect_ne_connected {s : WsClientImpl} (h : s.connectionState ≠ .connected) :
    s.connect = { s with
      connectionState := .connecting
      sockets := s.sockets ++ [Socket.new]
      webSocket := some s.sockets.length } := if_neg h

theorem connect_connected {s : WsClientImpl} (h : s.connectionState = .connected) :
    s.connect = s := if_pos h

@[simp] theorem send_connectionState (s : WsClientImpl) (t : String) :
    (s.send t).connectionState = s.connectionState := by unfold send; split <;> rfl

@[simp] theorem send_reconnectPolicy (s : WsClientImpl) (t : String) :
    (s.send t).reconnectPolicy = s.reconnectPolicy := by unfold send; split <;> rfl

@[simp] theorem send_reconnectJobs (s : WsClientImpl) (t : String) :
    (s.send t).reconnectJobs = s.reconnectJobs := by unfold send; split <;> rfl

@[simp] theorem send_heartbeatJobs (s : WsClientImpl) (t : String) :
    (s.send t).heartbeatJobs = s.heartbeatJobs := by unfold send; split <;> rfl

@[simp] theorem send_sockets (s : WsClientImpl) (t : String) :
    (s.send t).sockets = s.sockets := by unfold send; split <;> rfl

@[simp] theorem send_webSocket (s : WsClientImpl) (t : String) :
    (s.send t).webSocket = s.webSocket := by unfold send; split <;> rfl

/-- With no socket held, `send` drops the frame. -/
theorem send_of_none {s : WsClientImpl} (h : s.webSocket = none) (t : String) : s.send t = s := by
  simp [send, h]

/-- `startHeartbeat()`: launch a loop. -/
def startHeartbeat (s : WsClientImpl) : WsClientImpl :=
  { s with heartbeatJobs := s.heartbeatJobs ++ [.checking] }

/-- `attemptReconnect()`. -/
def attemptReconnect (s : WsClientImpl) : WsClientImpl :=
  if s.reconnectPolicy.shouldRetry then
    { s with connectionState := .reconnecting, reconnectJobs := s.reconnectJobs ++ [.launched] }
  else s

/-- `webSocket?.close(1000, "Client disconnect")`. -/
def requestClose (sockets : List Socket) : Option Nat → List Socket
  | some w => sockets.modify Socket.setCloseRequested w
  | none => sockets

/-- `disconnect()`. -/
def disconnect (s : WsClientImpl) : WsClientImpl :=
  { s with
    sockets := requestClose s.sockets s.webSocket
    webSocket := none
    connectionState := .disconnected }

/-- `markAuthExpired()`. -/
def markAuthExpired (s : WsClientImpl) : WsClientImpl :=
  { s with
    reconnectPolicy := s.reconnectPolicy.markAuthExpired
    connectionState := .authExpired }

/-- The listener's `onOpen`. -/
def onOpen (s : WsClientImpl) : WsClientImpl :=
  startHeartbeat { s with
    connectionState := .connected
    reconnectPolicy := s.reconnectPolicy.reset }

/-- The listener's `onFailure`. -/
def onFailure (s : WsClientImpl) : WsClientImpl :=
  attemptReconnect { s with connectionState := .disconnected }

/-- The listener's `onClosed`. -/
def onClosed (s : WsClientImpl) : WsClientImpl :=
  { s with connectionState := .disconnected }

/-! ## Section 3: The coroutines -/

/-- Reconnect coroutine `j` evaluates `reconnectPolicy.getDelayMs()` and suspends in `delay`. -/
def reconnectStart (s : WsClientImpl) (j : Nat) : WsClientImpl :=
  if s.reconnectJobs[j]? = some .launched then
    { s with
      reconnectPolicy := s.reconnectPolicy.getDelayMs.2
      reconnectJobs := s.reconnectJobs.set j (.sleeping s.reconnectPolicy.getDelayMs.1) }
  else s

/-- Reconnect coroutine `j` wakes from `delay` and calls `connect()`. -/
def reconnectFire (s : WsClientImpl) (j : Nat) : WsClientImpl :=
  match s.reconnectJobs[j]? with
  | some (.sleeping _) => connect { s with reconnectJobs := s.reconnectJobs.set j .done }
  | _ => s

/-- Heartbeat loop `j` evaluates its `while` condition. -/
def heartbeatCheck (s : WsClientImpl) (j : Nat) : WsClientImpl :=
  if s.heartbeatJobs[j]? = some .checking then
    { s with
      heartbeatJobs := s.heartbeatJobs.set j
        (if s.connectionState = .connected then .sleeping else .done) }
  else s

/-- Heartbeat loop `j` wakes from `delay`, sends a `PING` if connected, and goes back to the
    `while` condition. -/
def heartbeatWake (s : WsClientImpl) (j : Nat) : WsClientImpl :=
  if s.heartbeatJobs[j]? = some .sleeping then
    if s.connectionState = .connected then
      send { s with heartbeatJobs := s.heartbeatJobs.set j .checking } msgTypePing
    else { s with heartbeatJobs := s.heartbeatJobs.set j .checking }
  else s

/-! ## Section 4: Sockets -/

/-- OkHttp may deliver `onOpen` for socket `w`: it has neither opened nor finished. -/
def socketOpens (sockets : List Socket) (w : Nat) : Bool :=
  match sockets[w]? with
  | some k => !k.opened && !k.finished
  | none => false

/-- OkHttp may deliver `onFailure` for socket `w`: it has not finished. -/
def socketFails (sockets : List Socket) (w : Nat) : Bool :=
  match sockets[w]? with
  | some k => !k.finished
  | none => false

/-- OkHttp may deliver `onClosed` for socket `w`: it is open. -/
def socketCloses (sockets : List Socket) (w : Nat) : Bool :=
  match sockets[w]? with
  | some k => k.isOpen
  | none => false

/-- Record that socket `w` has opened. -/
def markOpened (s : WsClientImpl) (w : Nat) : WsClientImpl :=
  { s with sockets := s.sockets.modify Socket.setOpened w }

/-- Record that socket `w` is finished. -/
def markFinished (s : WsClientImpl) (w : Nat) : WsClientImpl :=
  { s with sockets := s.sockets.modify Socket.setFinished w }

end WsClientImpl

/-! ## Section 5: Runs -/

/-- What can happen next to a client. -/
inductive Event
  /-- The application calls `connect()`. -/
  | connect
  /-- The application calls `disconnect()`. -/
  | disconnect
  /-- The application calls `markAuthExpired()`. -/
  | markAuthExpired
  /-- The application calls `send` with a frame of this type. -/
  | send (type : String)
  /-- OkHttp calls `onOpen` on the listener of socket `w`. -/
  | onOpen (w : Nat)
  /-- OkHttp calls `onFailure` on the listener of socket `w`. -/
  | onFailure (w : Nat)
  /-- OkHttp calls `onClosed` on the listener of socket `w`. -/
  | onClosed (w : Nat)
  /-- Reconnect coroutine `j` reaches `getDelayMs()`. -/
  | reconnectStart (j : Nat)
  /-- Reconnect coroutine `j` wakes and calls `connect()`. -/
  | reconnectFire (j : Nat)
  /-- Heartbeat loop `j` evaluates its condition. -/
  | heartbeatCheck (j : Nat)
  /-- Heartbeat loop `j` wakes from `delay`. -/
  | heartbeatWake (j : Nat)
  deriving DecidableEq, Repr

/-- The socket openings. -/
def Event.isOnOpen : Event → Bool
  | .onOpen _ => true
  | _ => false

namespace WsClientImpl

/-- One event. An event that is not enabled changes nothing. -/
def step (s : WsClientImpl) : Event → WsClientImpl
  | .connect => s.connect
  | .disconnect => s.disconnect
  | .markAuthExpired => s.markAuthExpired
  | .send type => s.send type
  | .onOpen w => if socketOpens s.sockets w then (s.markOpened w).onOpen else s
  | .onFailure w => if socketFails s.sockets w then (s.markFinished w).onFailure else s
  | .onClosed w => if socketCloses s.sockets w then (s.markFinished w).onClosed else s
  | .reconnectStart j => s.reconnectStart j
  | .reconnectFire j => s.reconnectFire j
  | .heartbeatCheck j => s.heartbeatCheck j
  | .heartbeatWake j => s.heartbeatWake j

/-- A run: the events in order. -/
def run (s : WsClientImpl) (evs : List Event) : WsClientImpl := evs.foldl step s

@[simp] theorem run_nil (s : WsClientImpl) : run s [] = s := rfl

@[simp] theorem run_cons (s : WsClientImpl) (e : Event) (evs : List Event) :
    run s (e :: evs) = run (step s e) evs := rfl

theorem run_append (s : WsClientImpl) (evs evs' : List Event) :
    run s (evs ++ evs') = run (run s evs) evs' := List.foldl_append _ _ _ _

/-- The states some run from `init` reaches. -/
inductive Reachable : WsClientImpl → Prop
  | init : Reachable init
  | step {s : WsClientImpl} (e : Event) : Reachable s → Reachable (step s e)

theorem Reachable.run {s : WsClientImpl} (hs : Reachable s) (evs : List Event) :
    Reachable (s.run evs) := by
  induction evs generalizing s with
  | nil => exact hs
  | cons e evs ih => exact ih (hs.step e)

/-! ## Section 6: Runs in which each method runs alone

    In the runs below every method, callback and coroutine stretch runs to its end before the
    next begins; `Interleaving` shows that they are runs of the client as it executes, statement
    by statement (`run_simulated`). -/

/-- Two sockets under way, of which the second has opened. -/
def secondSocketOpen : WsClientImpl := init.run [.connect, .connect, .onOpen 1]

/-- Failures of the sockets each reconnect creates, and at the end of the first socket, which
    never opened; no socket opens. -/
def failuresAfterOpen : List Event :=
  [.onFailure 1, .reconnectStart 0, .reconnectFire 0,
   .onFailure 2, .reconnectStart 1, .reconnectFire 1,
   .onFailure 3, .reconnectStart 2, .reconnectFire 2,
   .onFailure 4, .reconnectStart 3, .reconnectFire 3,
   .onFailure 5, .onFailure 0]

/-- Six reconnect coroutines after one successful open, against `RECONNECT_MAX_ATTEMPTS = 5`:
    the last two failures both pass `shouldRetry()` before either coroutine has called
    `getDelayMs()`. -/
theorem retry_budget_exceeded :
    secondSocketOpen.reconnectJobs = [] ∧ failuresAfterOpen.all (fun e => !e.isOnOpen) ∧
    (secondSocketOpen.run failuresAfterOpen).reconnectJobs.length = 6 ∧
    reconnectMaxAttempts.toNat = 5 := by
  decide

/-- The connection drops and reopens while the first heartbeat loop sleeps. -/
def connectionFlap : List Event :=
  [.connect, .onOpen 0, .heartbeatCheck 0, .onFailure 0, .reconnectStart 0, .reconnectFire 0,
   .onOpen 1, .heartbeatCheck 1]

/-- After the flap both heartbeat loops are running, and when both wake in the same interval the
    held socket gets two `PING`s. -/
theorem two_heartbeat_loops :
    (init.run connectionFlap).heartbeatJobs = [.sleeping, .sleeping] ∧
    (init.run (connectionFlap ++ [.heartbeatWake 0, .heartbeatWake 1])).sent =
      [(1, msgTypePing), (1, msgTypePing)] := by
  decide


end WsClientImpl

end Whisper

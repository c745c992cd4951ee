import Whisper.Network.Interleaving

/-! # The connection life cycle of `WsClientImpl` over every interleaving

    The results are about `Interleaved`, where the methods, the listener callbacks and the
    coroutines of the client run statement by statement and overlap in any order:

    - `markAuthExpired()` sets the policy's flag and then `AUTH_EXPIRED`; after it returns, and
      as long as no socket opens, the flag stays set, no reconnect coroutine is launched and the
      state is never `CONNECTED`, provided no `onOpen` was on its way to `reset()` and no
      `attemptReconnect()` had already passed its `shouldRetry()` check;
    - `disconnect()` requests the close of the held socket, drops it and sets `DISCONNECTED`;
      after it returns, as long as nothing calls `connect()` and no `connect()` was already
      under way, no socket is held or created and no frame is sent;
    - in every reachable state, `CONNECTED` implies that some socket the client created has
      opened, and the held socket is one it created, on which a close has been requested only
      by a `disconnect()` that has not yet dropped it (`Reachable.good`).

    None of these is as strong as the session state machine the client is meant to implement:
    the listener does not check which socket calls it, `connect()` creates a socket whenever the
    state is not `CONNECTED`, nothing synchronizes the methods, and the launched coroutines are
    never cancelled. The runs after each section show what that costs.
-/

namespace Whisper.WsClientImpl

/-- The activations that can undo `markAuthExpired()`: an `onOpen` before its
    `reconnectPolicy.reset()`, and an `attemptReconnect()` past its `shouldRetry()` check. -/
def Activation.undoesAuthExpired : Activation → Bool
  | .openSetState | .openReset | .failureRetry .setReconnecting | .failureRetry .launch => true
  | _ => false

/-- A call in `connect()`. -/
def Activation.inConnect : Activation → Bool
  | .connect _ => true
  | _ => false

/-- A reconnect coroutine in its `connect()`. -/
def ReconnectPc.inConnect : ReconnectPc → Bool
  | .connect _ => true
  | _ => false

namespace Interleaved

variable {s : Interleaved} {a : Action}

/-! ## Section 1: Statements of one activation -/

theorem length_requestClose (sockets : List Socket) (w : Option Nat) :
    (requestClose sockets w).length = sockets.length := by
  cases w <;> simp [requestClose]

/-- What holds after `markAuthExpired()` while no socket opens. -/
def AuthExpired (n : Nat) (s : Interleaved) : Prop :=
  s.reconnectPolicy.isAuthExpired = true ∧ s.reconnectJobs.length = n ∧
    s.connectionState ≠ .connected ∧ ∀ x ∈ s.activations, x.undoesAuthExpired = false

theorem AuthExpired.start {n : Nat} (h : AuthExpired n s) {y : Activation}
    (hy : y.undoesAuthExpired = false) : AuthExpired n (s.start y) :=
  ⟨h.1, h.2.1, h.2.2.1, List.forall_mem_append.2 ⟨h.2.2.2, by simpa using hy⟩⟩

/-- A connection of the application, set up to the end of its `connect()`. -/
def appConnect : List Action := [.connect, .resume 0, .resume 0, .resume 0, .resume 0]

/-- What holds after `disconnect()` while nothing calls `connect()`. -/
def Disconnected (n : Nat) (sent : List (Nat × String)) (s : Interleaved) : Prop :=
  s.webSocket = none ∧ s.sockets.length = n ∧ s.sent = sent ∧
    (∀ x ∈ s.activations, x.inConnect = false) ∧
    ∀ r ∈ s.reconnectJobs, r.inConnect = false

theorem Disconnected.start {n : Nat} {sent : List (Nat × String)} (h : Disconnected n sent s)
    {y : Activation} (hy : y.inConnect = false) : Disconnected n sent (s.start y) :=
  ⟨h.1, h.2.1, h.2.2.1, List.forall_mem_append.2 ⟨h.2.2.2.1, by simpa using hy⟩, h.2.2.2.2⟩

theorem Disconnected.sockets {n : Nat} {sent : List (Nat × String)} (h : Disconnected n sent s)
    (f : Socket → Socket) (w : Nat) :
    Disconnected n sent { s with sockets := s.sockets.modify f w } :=
  ⟨h.1, by simp [h.2.1], h.2.2⟩

theorem count_set_of_ne {α : Type} [DecidableEq α] {l : List α} {i : Nat} {x y b : α}
    (hx : l[i]? = some x) (hxb : x ≠ b) (hyb : y ≠ b) : (l.set i y).count b = l.count b := by
  obtain ⟨hi, rfl⟩ := List.getElem?_eq_some_iff.1 hx
  rw [List.count_set _ _ _ _ hi]
  simp [hxb, hyb]

theorem count_set_self {α : Type} [DecidableEq α] {l : List α} {i : Nat} {y b : α}
    (hx : l[i]? = some b) (hyb : y ≠ b) : (l.set i y).count b + 1 = l.count b := by
  obtain ⟨hi, rfl⟩ := List.getElem?_eq_some_iff.1 hx
  rw [List.count_set _ _ _ _ hi]
  have : 0 < l.count l[i] := List.count_pos_iff.2 (List.getElem_mem hi)
  simp [hyb]

theorem count_set_new {α : Type} [DecidableEq α] {l : List α} {i : Nat} {x b : α}
    (hx : l[i]? = some x) (hxb : x ≠ b) : (l.set i b).count b = l.count b + 1 := by
  obtain ⟨hi, rfl⟩ := List.getElem?_eq_some_iff.1 hx
  rw [List.count_set _ _ _ _ hi]
  simp [hxb]

theorem mem_set_of_ne {α : Type} {l : List α} {i : Nat} {x y b : α} (hx : l[i]? = some x)
    (hxb : x ≠ b) (hb : b ∈ l) : b ∈ l.set i y := by
  obtain ⟨k, hk, rfl⟩ := List.getElem_of_mem hb
  have hik : i ≠ k := fun h => hxb (by subst h; simpa [hk] using hx.symm)
  exact List.mem_iff_getElem.2 ⟨k, by simpa using hk, by simp [List.getElem_set, hik]⟩

/-- The calls in `connect()`, of the application or of a reconnect coroutine, that have created
    socket `w` and not yet stored it in `webSocket`. -/
def assigning (s : Interleaved) (w : Nat) : Nat :=
  s.activations.count (.connect (.assign w)) + s.reconnectJobs.count (.connect (.assign w))

/-- Some socket has delivered `onOpen`. -/
def SomeOpened (sockets : List Socket) : Prop :=
  ∃ w : Nat, sockets[w]?.map Socket.opened = some true

/-- What holds of the sockets in every reachable state. -/
structure Good (s : Interleaved) : Prop where
  /-- `CONNECTED`, or an `onOpen` about to set it, only once some socket has opened. -/
  connected_opened : s.connectionState = .connected ∨ .openSetState ∈ s.activations →
    SomeOpened s.sockets
  /-- The held socket is one the client created, and it has a close requested only while the
      `disconnect()` that requested it has not yet run `webSocket = null`. -/
  held : ∀ w, s.webSocket = some w → w < s.sockets.length ∧
    (s.sockets[w]?.map Socket.closeRequested = some true → .disconnectNull ∈ s.activations)
  /-- At most one `connect()` is about to store each socket. -/
  assigning_le : ∀ w, s.assigning w ≤ 1
  /-- A socket about to be stored was created by the client, has no close requested, and is not
      held. -/
  assigning_pos : ∀ w, 0 < s.assigning w → w < s.sockets.length ∧
    s.sockets[w]?.map Socket.closeRequested = some false ∧ s.webSocket ≠ some w

theorem good_init : Good init := by
  refine ⟨fun h => ?_, fun _ h => ?_, fun _ => ?_, fun _ h => ?_⟩ <;> simp_all [init, assigning]

/-- A step that leaves the sockets and the held socket alone, sets `CONNECTED` only in place of a
    waiting `onOpen`, starts no `onOpen`, keeps every `disconnect()` before its `webSocket = null`
    and every `connect()` about to store a socket, keeps `Good`. -/
theorem Good.frame {t : Interleaved} (h : Good s) (hk : t.sockets = s.sockets)
    (hw : t.webSocket = s.webSocket)
    (hc : t.connectionState = .connected → s.connectionState = .connected ∨
      .openSetState ∈ s.activations)
    (ho : .openSetState ∈ t.activations → .openSetState ∈ s.activations)
    (hn : .disconnectNull ∈ s.activations → .disconnectNull ∈ t.activations)
    (ha : ∀ w, t.assigning w = s.assigning w) : Good t := by
  refine ⟨fun hco => hk ▸ h.connected_opened ?_, fun w hw' => ?_,
    fun w => ha w ▸ h.assigning_le w,
    fun w hpos => ?_⟩
  · rcases hco with hco | hco
    · exact hc hco
    · exact .inr (ho hco)
  · obtain ⟨hlt, hreq⟩ := h.held w (hw ▸ hw')
    exact ⟨hk ▸ hlt, fun hr => hn (hreq (hk ▸ hr))⟩
  · rw [hk, hw]
    exact h.assigning_pos w (ha w ▸ hpos)

theorem someOpened_append {sockets : List Socket} (h : SomeOpened sockets) (k : Socket) :
    SomeOpened (sockets ++ [k]) := by
  obtain ⟨w, hw⟩ := h
  have hlt : w < sockets.length := by
    by_contra hc
    simp [List.getElem?_eq_none (Nat.le_of_not_lt hc)] at hw
  exact ⟨w, by rw [List.getElem?_append_left hlt]; exact hw⟩

/-- `newWebSocket` adds a socket, which the `connect()` that made it is about to store. -/
theorem Good.create {t : Interleaved} (h : Good s) (hk : t.sockets = s.sockets ++ [Socket.new])
    (hw : t.webSocket = s.webSocket) (hc : t.connectionState = s.connectionState)
    (ho : .openSetState ∈ t.activations ↔ .openSetState ∈ s.activations)
    (hn : .disconnectNull ∈ s.activations → .disconnectNull ∈ t.activations)
    (ha : ∀ w, t.assigning w = s.assigning w + if w = s.sockets.length then 1 else 0) :
    Good t := by
  have hfresh : s.assigning s.sockets.length = 0 := by
    by_contra hne
    exact absurd (h.assigning_pos _ (Nat.pos_of_ne_zero hne)).1 (Nat.lt_irrefl _)
  refine ⟨fun hco => ?_, fun w hw' => ?_, fun w => ?_, fun w hpos => ?_⟩
  · rw [hk]
    exact someOpened_append (h.connected_opened (hco.imp (fun h' => hc ▸ h') ho.1)) _
  · obtain ⟨hlt, hreq⟩ := h.held w (hw ▸ hw')
    refine ⟨by rw [hk, List.length_append]; omega, fun hr => hn (hreq ?_)⟩
    rwa [hk, List.getElem?_append_left hlt] at hr
  · rw [ha]
    split
    · subst w; omega
    · exact h.assigning_le w
  · rw [ha] at hpos
    rw [hk, hw]
    by_cases hwl : w = s.sockets.length
    · subst hwl
      refine ⟨by simp, by simp [Socket.new], fun hs => ?_⟩
      exact absurd (h.held _ hs).1 (Nat.lt_irrefl _)
    · obtain ⟨hlt, hreq, hne⟩ := h.assigning_pos w (by simpa [hwl] using hpos)
      exact ⟨by simp; omega, by rwa [List.getElem?_append_left hlt], hne⟩

/-- A `connect()` stores the socket it created. -/
theorem Good.assign {t : Interleaved} {w₀ : Nat} (h : Good s) (hpos : 0 < s.assigning w₀)
    (hk : t.sockets = s.sockets) (hw : t.webSocket = some w₀)
    (hc : t.connectionState = s.connectionState)
    (ho : .openSetState ∈ t.activations ↔ .openSetState ∈ s.activations)
    (ha : ∀ w, t.assigning w + (if w = w₀ then 1 else 0) = s.assigning w) : Good t := by
  obtain ⟨hlt₀, hreq₀, -⟩ := h.assigning_pos w₀ hpos
  refine ⟨fun hco => hk ▸ h.connected_opened (hco.imp (fun h' => hc ▸ h') ho.1),
    fun w hw' => ?_,
    fun w => ?_, fun w hpos' => ?_⟩
  · obtain rfl : w₀ = w := Option.some.inj (hw ▸ hw')
    exact ⟨hk ▸ hlt₀, fun hr => by simp [hk, hreq₀] at hr⟩
  · have := ha w
    have := h.assigning_le w
    omega
  · have hne : w ≠ w₀ := by
      rintro rfl
      have hw := ha w
      have hle := h.assigning_le w
      simp only [if_true] at hw
      omega
    obtain ⟨hlt, hreq, -⟩ := h.assigning_pos w (by have := ha w; simp [hne] at this; omega)
    exact ⟨hk ▸ hlt, hk ▸ hreq, by rw [hw]; simpa using hne.symm⟩

theorem getElem?_requestClose_of_ne {sockets : List Socket} {held : Option Nat} {w : Nat}
    (h : held ≠ some w) : (requestClose sockets held)[w]? = sockets[w]? := by
  rcases held with _ | v
  · rfl
  · have hvw : v ≠ w := fun h' => h (congrArg some h')
    simp [requestClose, List.getElem?_modify, hvw]

theorem map_opened_requestClose (sockets : List Socket) (held : Option Nat) (w : Nat) :
    (requestClose sockets held)[w]?.map Socket.opened = sockets[w]?.map Socket.opened := by
  rcases held with _ | v
  · rfl
  · simp only [requestClose, List.getElem?_modify]
    split <;> cases sockets[w]? <;> rfl

/-- A statement that neither creates nor stores a socket, nor closes or drops the held one,
    keeps `Good`. -/
theorem Good.resumeFrame {i : Nat} {x : Activation} (h : Good s)
    (hx : s.activations[i]? = some x) (hxn : x ≠ .disconnectNull)
    (hxa : ∀ w, x ≠ .connect (.assign w))
    (hya : ∀ w, (s.activationStmt x).2 ≠ .connect (.assign w))
    (hyo : (s.activationStmt x).2 ≠ .openSetState)
    (hk : (s.activationStmt x).1.sockets = s.sockets)
    (hw : (s.activationStmt x).1.webSocket = s.webSocket)
    (hc : (s.activationStmt x).1.connectionState = .connected →
      s.connectionState = .connected ∨ x = .openSetState)
    (hj : ∀ w, (s.activationStmt x).1.reconnectJobs.count (.connect (.assign w)) =
      s.reconnectJobs.count (.connect (.assign w))) :
    Good (s.resumeAt i x) :=
  h.frame hk hw
    (fun hco => (hc hco).imp id fun (h' : x = .openSetState) => h' ▸ List.getElem?_mem hx)
    (fun ho => (List.mem_or_eq_of_mem_set ho).resolve_right fun h' => hyo h'.symm)
    (mem_set_of_ne hx hxn)
    (fun w => by
      show (s.activations.set i _).count _ + (s.activationStmt x).1.reconnectJobs.count _ = _
      rw [count_set_of_ne hx (hxa w) (hya w), hj w]
      rfl)

theorem Good.resumeAt {i : Nat} {x : Activation} (h : Good s) (hx : s.activations[i]? = some x) :
    Good (s.resumeAt i x) := by
  rcases x with (_ | _ | _ | w₀) | _ | _ | _ | _ | _ | _ | _ | _ | _ | (_ | _ | _) | _ | _
  all_goals first
    | apply h.resumeFrame hx <;> simp [activationStmt, connectStmt, retryStmt] <;> split <;> simp
    | skip
  · -- `newWebSocket`
    refine h.create rfl rfl rfl ⟨fun ho => ?_, mem_set_of_ne hx (by simp)⟩
      (mem_set_of_ne hx (by simp)) fun w => ?_
    · exact (List.mem_or_eq_of_mem_set ho).resolve_right
        (by simp [activationStmt, connectStmt])
    · show (s.activations.set i (.connect (.assign s.sockets.length))).count _ +
        s.reconnectJobs.count _ = _
      by_cases hw : w = s.sockets.length
      · subst hw
        rw [if_pos rfl, count_set_new hx (by simp), assigning]
        omega
      · rw [if_neg hw, count_set_of_ne hx (by simp) (by simp [Ne.symm hw])]
        rfl
  · -- `webSocket = ` the new socket
    have hpos : 0 < s.assigning w₀ :=
      Nat.lt_of_lt_of_le (List.count_pos_iff.2 (List.getElem?_mem hx)) (Nat.le_add_right _ _)
    refine h.assign hpos rfl rfl rfl ⟨fun ho => ?_, mem_set_of_ne hx (by simp)⟩ fun w => ?_
    · exact (List.mem_or_eq_of_mem_set ho).resolve_right
        (by simp [activationStmt, connectStmt])
    · show (s.activations.set i .returned).count _ + s.reconnectJobs.count _ + _ = _
      by_cases hw : w = w₀
      · subst hw
        have := count_set_self hx (y := .returned) (by simp)
        rw [if_pos rfl, assigning]
        omega
      · rw [if_neg hw, count_set_of_ne hx (by simp [Ne.symm hw]) (by simp)]
        rfl
  · -- `webSocket?.close(...)`
    have hcount : ∀ w, (s.resumeAt i .disconnectClose).assigning w = s.assigning w := fun w => by
      show (s.activations.set i .disconnectNull).count _ + s.reconnectJobs.count _ = _
      rw [count_set_of_ne hx (by simp) (by simp)]
      rfl
    refine ⟨fun hco => ?_, fun w hw => ⟨?_, fun _ => ?_⟩,
      fun w => hcount w ▸ h.assigning_le w,
      fun w hpos => ?_⟩
    · obtain ⟨v, hv⟩ := h.connected_opened (hco.imp id fun ho =>
        (List.mem_or_eq_of_mem_set ho).resolve_right
        (by simp [activationStmt, connectStmt]))
      exact ⟨v, (map_opened_requestClose _ _ v).trans hv⟩
    · show w < (requestClose s.sockets s.webSocket).length
      rw [length_requestClose]
      exact (h.held w hw).1
    · exact List.mem_set _ _ (List.getElem?_eq_some_iff.1 hx).1 _
    · obtain ⟨hlt, hreq, hne⟩ := h.assigning_pos w (hcount w ▸ hpos)
      refine ⟨?_, ?_, hne⟩
      · show w < (requestClose s.sockets s.webSocket).length
        rwa [length_requestClose]
      · show (requestClose s.sockets s.webSocket)[w]?.map _ = _
        rwa [getElem?_requestClose_of_ne hne]
  · -- `webSocket = null`
    have hcount : ∀ w, (s.resumeAt i .disconnectNull).assigning w = s.assigning w := fun w => by
      show (s.activations.set i .disconnectSetState).count _ + s.reconnectJobs.count _ = _
      rw [count_set_of_ne hx (by simp) (by simp)]
      rfl
    refine ⟨fun hco => h.connected_opened (hco.imp id fun ho =>
        (List.mem_or_eq_of_mem_set ho).resolve_right
        (by simp [activationStmt, connectStmt])),
      fun w hw => (by cases hw), fun w => hcount w ▸ h.assigning_le w, fun w hpos => ?_⟩
    obtain ⟨hlt, hreq, -⟩ := h.assigning_pos w (hcount w ▸ hpos)
    exact ⟨hlt, hreq, show (none : Option Nat) ≠ some w by simp⟩

theorem Good.start (h : Good s) {y : Activation} (hy : ∀ w, y ≠ .connect (.assign w))
    (ho : y = .openSetState → SomeOpened s.sockets) : Good (s.start y) := by
  have ha : ∀ w, (s.start y).assigning w = s.assigning w := fun w => by
    simp [Interleaved.start, assigning, List.count_singleton, hy w]
  refine ⟨fun hco => ?_, fun w hw => ?_, fun w => ha w ▸ h.assigning_le w,
    fun w hpos => h.assigning_pos w (ha w ▸ hpos)⟩
  · rcases hco with hco | hco
    · exact h.connected_opened (.inl hco)
    · rcases List.mem_append.1 hco with hco | hco
      · exact h.connected_opened (.inr hco)
      · exact ho (List.mem_singleton.1 hco).symm
  · obtain ⟨hlt, hreq⟩ := h.held w hw
    exact ⟨hlt, fun hr => List.mem_append_left _ (hreq hr)⟩

/-- OkHttp records that a socket has opened or finished. -/
theorem Good.modify (h : Good s) (f : Socket → Socket)
    (hf : ∀ k, (f k).closeRequested = k.closeRequested)
    (ho : ∀ k, k.opened = true → (f k).opened = true)
    (w : Nat) : Good { s with sockets := s.sockets.modify f w } := by
  have hreq : ∀ v, (s.sockets.modify f w)[v]?.map Socket.closeRequested =
      s.sockets[v]?.map Socket.closeRequested := fun v => by
    rw [List.getElem?_modify]
    split <;> cases s.sockets[v]? <;> simp [hf]
  refine ⟨fun hco => ?_, fun v hv => ?_, h.assigning_le, fun v hpos => ?_⟩
  · obtain ⟨v, hv⟩ := h.connected_opened hco
    refine ⟨v, ?_⟩
    rw [List.getElem?_modify]
    split <;> cases hk : s.sockets[v]? <;> simp_all
  · obtain ⟨hlt, hr⟩ := h.held v hv
    exact ⟨by simpa using hlt, fun hr' => hr (by rwa [← hreq v])⟩
  · obtain ⟨hlt, hr, hne⟩ := h.assigning_pos v hpos
    exact ⟨by simpa using hlt, by rw [hreq v]; exact hr, hne⟩

/-- A step that changes only the reconnect coroutines, without creating or storing a socket. -/
theorem Good.jobs (h : Good s) {j : Nat} {r r' : ReconnectPc} (hj : s.reconnectJobs[j]? = some r)
    {t : Interleaved} (hk : t.sockets = s.sockets) (hw : t.webSocket = s.webSocket)
    (hc : t.connectionState = .connected → s.connectionState = .connected)
    (hacts : t.activations = s.activations) (hjobs : t.reconnectJobs = s.reconnectJobs.set j r')
    (hr : ∀ w, r ≠ .connect (.assign w)) (hr' : ∀ w, r' ≠ .connect (.assign w)) : Good t :=
  h.frame hk hw (fun hco => .inl (hc hco)) (hacts ▸ id) (hacts ▸ id) fun w => by
    rw [assigning, assigning, hacts, hjobs, count_set_of_ne hj (hr w) (hr' w)]

theorem Good.reconnectResume (h : Good s) (j : Nat) : Good (s.reconnectResume j) := by
  unfold Interleaved.reconnectResume
  split
  · rename_i pc hj
    rcases pc with _ | _ | _ | w₀
    · by_cases hc : s.connectionState = .connected
      · simp only [connectStmt, hc, if_true, Option.elim]
        exact h.jobs hj rfl rfl (fun _ => hc) rfl rfl (by simp) (by simp)
      · simp only [connectStmt, hc, if_false, Option.elim]
        exact h.jobs hj rfl rfl id rfl rfl (by simp) (by simp)
    · exact h.jobs hj rfl rfl (by simp [connectStmt]) rfl rfl (by simp) (by simp [connectStmt])
    · refine h.create rfl rfl rfl Iff.rfl id fun w => ?_
      show s.activations.count _ + (s.reconnectJobs.set j (.connect (.assign _))).count _ = _
      by_cases hw : w = s.sockets.length
      · subst hw
        rw [if_pos rfl, count_set_new hj (by simp), assigning]
        omega
      · rw [if_neg hw, count_set_of_ne hj (by simp) (by simp [Ne.symm hw])]
        rfl
    · have hpos : 0 < s.assigning w₀ :=
        Nat.lt_of_lt_of_le (List.count_pos_iff.2 (List.getElem?_mem hj)) (Nat.le_add_left _ _)
      refine h.assign hpos rfl rfl rfl Iff.rfl fun w => ?_
      show s.activations.count _ + (s.reconnectJobs.set j .done).count _ + _ = _
      by_cases hw : w = w₀
      · subst hw
        have := count_set_self hj (y := .done) (by simp)
        rw [if_pos rfl, assigning]
        omega
      · rw [if_neg hw, count_set_of_ne hj (by simp [Ne.symm hw]) (by simp)]
        rfl
  · exact h

theorem Good.step (h : Good s) (a : Action) : Good (s.step a) := by
  cases a with
  | connect => exact h.start (by simp) (by simp)
  | disconnect => exact h.start (by simp) (by simp)
  | markAuthExpired => exact h.start (by simp) (by simp)
  | send t =>
    simp only [Interleaved.step, Interleaved.send]
    split
    · exact h.frame rfl rfl .inl id id fun _ => rfl
    · exact h
  | onOpen w =>
    simp only [Interleaved.step]
    split
    · rename_i hw
      obtain ⟨k, hk⟩ : ∃ k, s.sockets[w]? = some k := by
        unfold socketOpens at hw; split at hw <;> simp_all
      refine (h.modify Socket.setOpened (fun _ => rfl) (fun _ _ => rfl) w).start (by simp)
        fun _ => ⟨w, ?_⟩
      simp [List.getElem?_modify, hk, Socket.setOpened]
    · exact h
  | onFailure w =>
    simp only [Interleaved.step]
    split
    · exact (h.modify Socket.setFinished (fun _ => rfl) (fun _ h => h) w).start (by simp)
        (by simp)
    · exact h
  | onClosed w =>
    simp only [Interleaved.step]
    split
    · exact (h.modify Socket.setFinished (fun _ => rfl) (fun _ h => h) w).start (by simp)
        (by simp)
    · exact h
  | resume i =>
    simp only [Interleaved.step, resume]
    split
    · exact h.resumeAt ‹_›
    · exact h
  | reconnectStart j =>
    simp only [Interleaved.step, reconnectStart]
    split
    · exact h.jobs ‹_› rfl rfl id rfl rfl (by simp) (by simp)
    · exact h
  | reconnectFire j =>
    simp only [Interleaved.step, reconnectFire]
    split
    · exact h.jobs ‹_› rfl rfl id rfl rfl (by simp) (by simp)
    · exact h
  | reconnectResume j => exact h.reconnectResume j
  | heartbeatCheck j =>
    simp only [Interleaved.step, heartbeatCheck]
    split
    · exact h.frame rfl rfl .inl id id fun _ => rfl
    · exact h
  | heartbeatWake j =>
    simp only [Interleaved.step, heartbeatWake]
    split
    · exact h.frame rfl rfl .inl id id fun _ => rfl
    · exact h
  | heartbeatSend j =>
    simp only [Interleaved.step, heartbeatSend, Interleaved.send]
    split
    · split <;> exact h.frame rfl rfl .inl id id fun _ => rfl
    · exact h

theorem Reachable.good {s : Interleaved} (hs : Reachable s) : Good s := by
  induction hs with
  | init => exact good_init
  | step a _ ih => exact ih.step a


/-- In every reachable state, `CONNECTED` implies that some socket the client created has
    opened; the held socket is one the client created, and a close has been requested on it
    only by a `disconnect()` that has not yet run `webSocket = null`. -/
theorem connected_implies_opened_socket {s : Interleaved} (hs : Reachable s) :
    (s.connectionState = .connected →
      ∃ w : Nat, s.sockets[w]?.map Socket.opened = some true) ∧
    (∀ w : Nat, s.webSocket = some w → w < s.sockets.length ∧
      (s.sockets[w]?.map Socket.closeRequested = some true →
        .disconnectNull ∈ s.activations)) :=
  ⟨fun hc => hs.good.connected_opened (.inl hc), hs.good.held⟩

/-- A connection of the application that has opened. -/
def appOpen : List Action := appConnect ++ [.onOpen 0, .resume 1]

theorem connected_implies_opened_socket_sample :
    Reachable (init.run appOpen) ∧
    (((init.run appOpen).connectionState = .connected →
      ∃ w : Nat, (init.run appOpen).sockets[w]?.map Socket.opened = some true) ∧
    (∀ w : Nat, (init.run appOpen).webSocket = some w →
      w < (init.run appOpen).sockets.length ∧
      ((init.run appOpen).sockets[w]?.map Socket.closeRequested = some true →
        .disconnectNull ∈ (init.run appOpen).activations))) :=
  ⟨Reachable.init.run _, connected_implies_opened_socket (Reachable.init.run _)⟩

/-- Two `connect()` calls overlap: both create a socket, and the older one is stored last, while
    the newer one, not held, goes on opening. A failure overtakes the `onOpen` before it sets the
    state: `CONNECTED` with no open socket. And the socket `disconnect()` closed opens late:
    `CONNECTED` with no socket held. -/
theorem transport_disagrees_with_state :
    (init.run [.connect, .connect, .resume 0, .resume 1, .resume 0, .resume 1, .resume 0, .resume 1,
      .resume 1, .resume 0]).webSocket = some 0 ∧
    (init.run [.connect, .connect, .resume 0, .resume 1, .resume 0, .resume 1, .resume 0, .resume 1,
      .resume 1, .resume 0]).sockets = [Socket.new, Socket.new] ∧
    (init.run (appConnect ++ [.onOpen 0, .onFailure 0, .resume 2, .resume 2, .resume 1])
      ).connectionState = .connected ∧
    ((init.run (appConnect ++ [.onOpen 0, .onFailure 0, .resume 2, .resume 2, .resume 1])
      ).sockets.all fun k => !k.isOpen) ∧
    (init.run (appConnect ++ [.disconnect, .resume 1, .resume 1, .resume 1, .onOpen 0, .resume 2])
      ).webSocket = none := by
  decide

end Interleaved

end Whisper.WsClientImpl

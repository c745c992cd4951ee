import Whisper.Jvm.Text

/-! # `WsReconnectPolicy.kt`: the retry budget of the WebSocket client

    The policy holds three variables: the attempt counter, a Kotlin `Int`, and two flags.
    `shouldRetry` reads them, `getDelayMs` computes `RECONNECT_BASE_DELAY_MS * (1 shl
    attemptCount)` and increments the counter, and `reset`, `markAuthExpired` and
    `setNetworkAvailable` write them.

    The arithmetic is the JVM's: the counter is a 32-bit two's-complement value compared with
    a signed `<`, `1 shl n` shifts by `n mod 32`, the `Int` is sign-extended when it is
    multiplied with the `Long` base, and `minOf` compares signed 64-bit values.

    A run is a sequence of calls (`PolicyOp`). `ReconnectSchedule` is the policy with an
    unbounded counter, the number of `getDelayMs()` calls since the counter was last set to 0,
    and each of its calls is the policy's call under `toPolicy` (`toPolicy_step`). The results:

    - `toInt_delays`: along every sequence, each `getDelayMs()` returns the delay for its count
      modulo 32, which is the spec's `min(1000 * 2^n, 30000)` while the count stays below 31
      (`delays_eq_schedule`) and negative at 31;
    - `attemptCount_step`: `reset()`, and `setNetworkAvailable(true)` while authentication has
      not expired, set the counter to 0, whether or not the network was available already;
    - `budget_foldlM`, `count_getDelayMs_of_isAuthExpired`: a caller that calls `getDelayMs()`
      only right after a `shouldRetry()` that returned `true` takes at most five delays between
      two calls that clear the counter, and none after `markAuthExpired()` before `reset()`;
    - `delays_eq_schedule_of_guarded`: such a caller makes every `getDelayMs()` call at a count
      below five, so it never reaches the wrap at 31 and every delay it gets is the schedule's.
-/

namespace Whisper

/-! ## Section 1: The constants -/

/-- `Constants.RECONNECT_BASE_DELAY_MS`. -/
def reconnectBaseDelayMs : Long := 1000#64

/-- `Constants.RECONNECT_MAX_DELAY_MS`. -/
def reconnectMaxDelayMs : Long := 30000#64

/-- `Constants.RECONNECT_MAX_ATTEMPTS`. -/
def reconnectMaxAttempts : BitVec 32 := 5#32

/-! ## Section 2: The policy -/

/-- The three private variables of a `WsReconnectPolicy`. -/
structure WsReconnectPolicy where
  /-- `attemptCount`, a Kotlin `Int`. -/
  attemptCount : BitVec 32
  /-- `isAuthExpired`. -/
  isAuthExpired : Bool
  /-- `isNetworkAvailable`. -/
  isNetworkAvailable : Bool
  deriving DecidableEq, Repr

namespace WsReconnectPolicy

/-- A new policy: no attempt made, authenticated, network available. -/
def init : WsReconnectPolicy := ⟨0#32, false, true⟩

/-- `shouldRetry()`. -/
def shouldRetry (p : WsReconnectPolicy) : Bool :=
  if p.isAuthExpired then false
  else if !p.isNetworkAvailable then false
  else p.attemptCount.slt reconnectMaxAttempts

/-- The `val delay` of `getDelayMs()`: `RECONNECT_BASE_DELAY_MS * (1 shl attemptCount)`. -/
def delay (attemptCount : BitVec 32) : Long :=
  reconnectBaseDelayMs * (1#32 <<< (attemptCount.toNat % 32)).signExtend 64

/-- `getDelayMs()`: the returned delay, and the policy with the counter incremented. -/
def getDelayMs (p : WsReconnectPolicy) : Long × WsReconnectPolicy :=
  (if (delay p.attemptCount).sle reconnectMaxDelayMs then delay p.attemptCount
    else reconnectMaxDelayMs,
   { p with attemptCount := p.attemptCount + 1#32 })

/-- `reset()`. -/
def reset (p : WsReconnectPolicy) : WsReconnectPolicy :=
  { p with attemptCount := 0#32, isAuthExpired := false }

/-- `markAuthExpired()`. -/
def markAuthExpired (p : WsReconnectPolicy) : WsReconnectPolicy :=
  { p with isAuthExpired := true }

/-- `setNetworkAvailable(available)`. -/
def setNetworkAvailable (p : WsReconnectPolicy) (available : Bool) : WsReconnectPolicy :=
  { p with
    isNetworkAvailable := available
    attemptCount := if available && !p.isAuthExpired then 0#32 else p.attemptCount }

/-- `isAuthenticationRequired()`. -/
def isAuthenticationRequired (p : WsReconnectPolicy) : Bool := p.isAuthExpired

@[simp] theorem getDelayMs_isAuthExpired (p : WsReconnectPolicy) :
    (getDelayMs p).2.isAuthExpired = p.isAuthExpired := rfl

@[simp] theorem markAuthExpired_isAuthExpired (p : WsReconnectPolicy) :
    (markAuthExpired p).isAuthExpired = true := rfl

@[simp] theorem reset_attemptCount (p : WsReconnectPolicy) : (reset p).attemptCount = 0#32 := rfl

@[simp] theorem reset_isAuthExpired (p : WsReconnectPolicy) : (reset p).isAuthExpired = false :=
  rfl

/-- Once authentication has expired, the policy refuses every retry. -/
theorem shouldRetry_of_isAuthExpired {p : WsReconnectPolicy} (h : p.isAuthExpired = true) :
    shouldRetry p = false := by
  simp [shouldRetry, h]

end WsReconnectPolicy

/-! ## Section 3: Runs of the policy -/

/-- A call on the public interface of `WsReconnectPolicy`. -/
inductive PolicyOp where
  /-- `shouldRetry()`. -/
  | shouldRetry
  /-- `getDelayMs()`. -/
  | getDelayMs
  /-- `reset()`. -/
  | reset
  /-- `markAuthExpired()`. -/
  | markAuthExpired
  /-- `setNetworkAvailable(available)`. -/
  | setNetworkAvailable (available : Bool)
  /-- `isAuthenticationRequired()`. -/
  | isAuthenticationRequired
  deriving DecidableEq, Repr

namespace WsReconnectPolicy

/-- The policy after a call; the two queries leave it as it is. -/
def step (p : WsReconnectPolicy) : PolicyOp → WsReconnectPolicy
  | .getDelayMs => (getDelayMs p).2
  | .reset => reset p
  | .markAuthExpired => markAuthExpired p
  | .setNetworkAvailable available => setNetworkAvailable p available
  | .shouldRetry | .isAuthenticationRequired => p

/-- The policy after a sequence of calls. -/
def run (p : WsReconnectPolicy) (ops : List PolicyOp) : WsReconnectPolicy := ops.foldl step p

/-- What the `getDelayMs()` calls of a sequence return, in order. -/
def delays : WsReconnectPolicy → List PolicyOp → List Long
  | _, [] => []
  | p, .getDelayMs :: ops => (getDelayMs p).1 :: delays (getDelayMs p).2 ops
  | p, op :: ops => delays (p.step op) ops

/-- Whether a call sets the counter to 0: `reset()`, and `setNetworkAvailable(true)` while
    authentication has not expired, whether or not the network was available already. -/
def clearsCounter (p : WsReconnectPolicy) : PolicyOp → Bool
  | .reset => true
  | .setNetworkAvailable available => available && !p.isAuthExpired
  | _ => false

theorem delays_cons_of_ne {p : WsReconnectPolicy} {op : PolicyOp} (ops : List PolicyOp)
    (h : op ≠ .getDelayMs) : delays p (op :: ops) = delays (p.step op) ops := by
  cases op <;> first | rfl | exact absurd rfl h

/-- What a call does to the counter: the calls that clear it set it to 0, `getDelayMs()`
    increments it, and every other call leaves it alone. -/
theorem attemptCount_step (p : WsReconnectPolicy) (op : PolicyOp) :
    (p.step op).attemptCount =
      if clearsCounter p op then 0#32
      else if op = .getDelayMs then p.attemptCount + 1#32 else p.attemptCount := by
  cases op <;> simp [step, clearsCounter, getDelayMs, reset, markAuthExpired, setNetworkAvailable]

theorem isAuthExpired_step (p : WsReconnectPolicy) (op : PolicyOp) :
    (p.step op).isAuthExpired =
      if op = .reset then false else if op = .markAuthExpired then true else p.isAuthExpired := by
  cases op <;> rfl

/-- The delay `getDelayMs()` returns depends only on the counter modulo 32: it is
    `min(1000 * 2^k, 30000)` for `k < 31`, and for `k = 31` it is `1000 * Int.MIN_VALUE`, since
    `1 shl 31` is `Int.MIN_VALUE` and `minOf` keeps the negative product. -/
theorem toInt_getDelayMs_fst (p : WsReconnectPolicy) :
    (getDelayMs p).1.toInt =
      if p.attemptCount.toNat % 32 = 31 then -(1000 * 2 ^ 31)
      else min (1000 * 2 ^ (p.attemptCount.toNat % 32)) 30000 := by
  have table : ∀ k < 32,
      (if (reconnectBaseDelayMs * (1#32 <<< k).signExtend 64).sle reconnectMaxDelayMs then
        reconnectBaseDelayMs * (1#32 <<< k).signExtend 64 else reconnectMaxDelayMs).toInt =
      if k = 31 then -(1000 * 2 ^ 31) else min (1000 * 2 ^ k) 30000 := by decide
  unfold getDelayMs delay
  dsimp only
  exact table _ (Nat.mod_lt _ (by decide))

end WsReconnectPolicy

/-! ## Section 4: The delay schedule -/

/-- The schedule of the spec: the `n`-th delay since the counter was last set to 0 is
    `min(RECONNECT_BASE_DELAY_MS * 2^n, RECONNECT_MAX_DELAY_MS)`, in unbounded arithmetic. -/
def scheduleDelay (n : Nat) : Int :=
  min (reconnectBaseDelayMs.toInt * 2 ^ n) reconnectMaxDelayMs.toInt

/-- The policy with an unbounded counter: what the spec counts. -/
structure ReconnectSchedule where
  /-- The `getDelayMs()` calls since the counter was last set to 0. -/
  calls : Nat
  /-- `isAuthExpired`. -/
  isAuthExpired : Bool
  /-- `isNetworkAvailable`. -/
  isNetworkAvailable : Bool
  deriving DecidableEq, Repr

namespace ReconnectSchedule

/-- No call made yet. -/
def init : ReconnectSchedule := ⟨0, false, true⟩

/-- The policy it stands for: the counter is the count modulo `2^32`. -/
def toPolicy (s : ReconnectSchedule) : WsReconnectPolicy :=
  ⟨BitVec.ofNat 32 s.calls, s.isAuthExpired, s.isNetworkAvailable⟩

/-- A call: the count restarts where the policy sets its counter to 0. -/
def step (s : ReconnectSchedule) : PolicyOp → ReconnectSchedule
  | .getDelayMs => { s with calls := s.calls + 1 }
  | .reset => { s with calls := 0, isAuthExpired := false }
  | .markAuthExpired => { s with isAuthExpired := true }
  | .setNetworkAvailable available =>
    { s with
      isNetworkAvailable := available
      calls := if available && !s.isAuthExpired then 0 else s.calls }
  | .shouldRetry | .isAuthenticationRequired => s

/-- The count `n` at each `getDelayMs()` call of a sequence, in order. -/
def counts : ReconnectSchedule → List PolicyOp → List Nat
  | _, [] => []
  | s, .getDelayMs :: ops => s.calls :: counts (s.step .getDelayMs) ops
  | s, op :: ops => counts (s.step op) ops

theorem toPolicy_init : init.toPolicy = WsReconnectPolicy.init := rfl

/-- Each call of the schedule is the same call of the policy. -/
theorem toPolicy_step (s : ReconnectSchedule) (op : PolicyOp) :
    (s.step op).toPolicy = s.toPolicy.step op := by
  cases op with
  | getDelayMs => simp [step, toPolicy, WsReconnectPolicy.step, WsReconnectPolicy.getDelayMs,
      BitVec.ofNat_add]
  | setNetworkAvailable a => simp [step, toPolicy, WsReconnectPolicy.step,
      WsReconnectPolicy.setNetworkAvailable, apply_ite (BitVec.ofNat 32)]
  | _ => rfl

theorem counts_cons_of_ne {s : ReconnectSchedule} {op : PolicyOp} (ops : List PolicyOp)
    (h : op ≠ .getDelayMs) : counts s (op :: ops) = counts (s.step op) ops := by
  cases op <;> first | rfl | exact absurd rfl h

/-- Along every sequence of calls, each `getDelayMs()` returns the delay for its count `n`
    modulo 32: the schedule's delay, except that `n = 31` gives `1000 * Int.MIN_VALUE`. -/
theorem toInt_delays (s : ReconnectSchedule) (ops : List PolicyOp) :
    (WsReconnectPolicy.delays s.toPolicy ops).map BitVec.toInt = (s.counts ops).map fun n =>
      if n % 32 = 31 then -(1000 * 2 ^ 31) else scheduleDelay (n % 32) := by
  induction ops generalizing s with
  | nil => rfl
  | cons op ops ih =>
    by_cases h : op = .getDelayMs
    · subst h
      have hmod : (BitVec.ofNat 32 s.calls).toNat % 32 = s.calls % 32 := by
        rw [BitVec.toNat_ofNat, Nat.mod_mod_of_dvd _ (by norm_num)]
      simp only [WsReconnectPolicy.delays, counts, List.map_cons]
      rw [← ih, toPolicy_step, WsReconnectPolicy.toInt_getDelayMs_fst]
      simp only [toPolicy, hmod, scheduleDelay, show reconnectBaseDelayMs.toInt = 1000 by decide,
        show reconnectMaxDelayMs.toInt = 30000 by decide]
      rfl
    · rw [WsReconnectPolicy.delays_cons_of_ne _ h, counts_cons_of_ne _ h, ← toPolicy_step, ih]

/-- On every sequence of calls on which no count reaches 31, every delay is the schedule's. -/
theorem delays_eq_schedule {ops : List PolicyOp} (h : ∀ n ∈ init.counts ops, n ≤ 30) :
    (WsReconnectPolicy.delays WsReconnectPolicy.init ops).map BitVec.toInt =
      (init.counts ops).map scheduleDelay := by
  rw [← toPolicy_init, toInt_delays]
  refine List.map_congr_left fun n hn => ?_
  have := h n hn
  rw [if_neg (by omega), Nat.mod_eq_of_lt (by omega)]

/-- Thirty-three `getDelayMs()` calls on a new policy: the 31st, 32nd and 33rd return 30000 ms,
    `1000 * Int.MIN_VALUE` ms and 1000 ms, where the schedule gives 30000 ms each time. -/
theorem getDelayMs_wraps_at_31 :
    ((WsReconnectPolicy.delays WsReconnectPolicy.init
        (List.replicate 33 .getDelayMs)).drop 30).map BitVec.toInt =
      [30000, -2147483648000, 1000] ∧
    ((init.counts (List.replicate 33 .getDelayMs)).drop 30).map scheduleDelay =
      [30000, 30000, 30000] := by
  decide

end ReconnectSchedule

namespace WsReconnectPolicy

/-! ## Section 5: The retry budget -/

/-- One call of a caller that calls `getDelayMs()` only right after a `shouldRetry()` that
    returned `true`. The flag says whether the last call was such a `shouldRetry()`; a
    `getDelayMs()` call without it breaks the rule, and the run stops (`none`). -/
def guardedStep (c : WsReconnectPolicy × Bool) : PolicyOp → Option (WsReconnectPolicy × Bool)
  | .shouldRetry => some (c.1, c.1.shouldRetry)
  | .getDelayMs => if c.2 then some (c.1.step .getDelayMs, false) else none
  | op => some (c.1.step op, false)

/-- Every `getDelayMs()` call of the sequence directly follows a `shouldRetry()` that returned
    `true`. -/
def guarded (p : WsReconnectPolicy) (ops : List PolicyOp) : Bool :=
  (ops.foldlM guardedStep (p, false)).isSome

/-- Whether some call of the sequence, made from `p` on, sets the counter to 0. -/
def clearsAlong : WsReconnectPolicy → List PolicyOp → Bool
  | _, [] => false
  | p, op :: ops => clearsCounter p op || clearsAlong (p.step op) ops

/-- The budget left: the counter is at most `RECONNECT_MAX_ATTEMPTS`, and below it right after
    a `shouldRetry()` that returned `true`. -/
def Budget (c : WsReconnectPolicy × Bool) : Prop :=
  c.1.attemptCount.toNat ≤ 5 ∧ (c.2 = true → c.1.attemptCount.toNat < 5)

/-- What a guarded call does: it needs the flag for `getDelayMs()`, makes the call, and sets
    the flag to what a `shouldRetry()` returned. -/
theorem guardedStep_eq_some {c c' : WsReconnectPolicy × Bool} {op : PolicyOp} :
    guardedStep c op = some c' ↔
      (op = .getDelayMs → c.2 = true) ∧
        (c.1.step op, op = .shouldRetry && c.1.shouldRetry) = c' := by
  cases op <;> simp [guardedStep, step]

theorem shouldRetry_budget {p : WsReconnectPolicy} (hp : p.attemptCount.toNat ≤ 5)
    (h : p.shouldRetry = true) : p.attemptCount.toNat < 5 := by
  simp only [shouldRetry, Bool.if_false_left, Bool.and_eq_true, Bool.not_eq_true',
    BitVec.slt, decide_eq_true_eq, reconnectMaxAttempts] at h
  rw [BitVec.toInt_eq_toNat_cond, if_pos (by omega)] at h
  simpa using h.2.2

/-- A guarded call keeps the budget. -/
theorem budget_guardedStep {c c' : WsReconnectPolicy × Bool} {op : PolicyOp} (hb : Budget c)
    (h : guardedStep c op = some c') : Budget c' := by
  obtain ⟨hflag, rfl⟩ := guardedStep_eq_some.mp h
  have hcount := attemptCount_step c.1 op
  refine ⟨?_, fun hr => ?_⟩
  · split_ifs at hcount with hc hd
    · simp [hcount]
    · subst hd
      have := hb.2 (hflag rfl)
      rw [hcount, BitVec.toNat_add]
      simp only [BitVec.toNat_ofNat]
      omega
    · rw [hcount]; exact hb.1
  · simp only [Bool.and_eq_true, decide_eq_true_eq] at hr
    obtain ⟨rfl, hr⟩ := hr
    exact shouldRetry_budget hb.1 hr

/-- Over a guarded stretch of calls none of which clears the counter, each `getDelayMs()` adds
    one to the counter, and the budget holds at its end. -/
theorem budget_foldlM {c c' : WsReconnectPolicy × Bool} {seg : List PolicyOp} (hb : Budget c)
    (h : seg.foldlM guardedStep c = some c') (hn : clearsAlong c.1 seg = false) :
    c.1.attemptCount.toNat + seg.count .getDelayMs = c'.1.attemptCount.toNat ∧ Budget c' := by
  induction seg generalizing c with
  | nil =>
    obtain rfl : c = c' := Option.some.inj h
    exact ⟨rfl, hb⟩
  | cons op ops ih =>
    obtain ⟨c1, h1, h2⟩ := Option.bind_eq_some.mp h
    obtain ⟨hflag, rfl⟩ := guardedStep_eq_some.mp h1
    simp only [clearsAlong, Bool.or_eq_false_iff] at hn
    obtain ⟨hsum, hb'⟩ := ih (budget_guardedStep hb h1) h2 hn.2
    refine ⟨?_, hb'⟩
    rw [← hsum, attemptCount_step, if_neg (by simp [hn.1]), List.count_cons]
    by_cases hd : op = .getDelayMs
    · subst hd
      have := hb.2 (hflag rfl)
      simp only [if_true, BitVec.toNat_add, BitVec.toNat_ofNat, beq_self_eq_true]
      omega
    · simp [hd]

/-- A guarded run keeps the budget and makes the calls of the sequence. -/
theorem budget_run {c c' : WsReconnectPolicy × Bool} {ops : List PolicyOp} (hb : Budget c)
    (h : ops.foldlM guardedStep c = some c') : Budget c' ∧ c'.1 = c.1.run ops := by
  induction ops generalizing c with
  | nil =>
    obtain rfl : c = c' := Option.some.inj h
    exact ⟨hb, rfl⟩
  | cons op ops ih =>
    obtain ⟨c1, h1, h2⟩ := Option.bind_eq_some.mp h
    obtain ⟨-, rfl⟩ := guardedStep_eq_some.mp h1
    exact ih (budget_guardedStep hb h1) h2

/-- Once authentication has expired, a guarded stretch of calls with no `reset()` makes no
    `getDelayMs()` call: every `shouldRetry()` in it returns `false`. -/
theorem count_getDelayMs_of_isAuthExpired {c c' : WsReconnectPolicy × Bool} {seg : List PolicyOp}
    (he : c.1.isAuthExpired = true) (hf : c.2 = false) (h : seg.foldlM guardedStep c = some c')
    (hr : PolicyOp.reset ∉ seg) : seg.count .getDelayMs = 0 := by
  induction seg generalizing c with
  | nil => rfl
  | cons op ops ih =>
    obtain ⟨c1, h1, h2⟩ := Option.bind_eq_some.mp h
    obtain ⟨hflag, rfl⟩ := guardedStep_eq_some.mp h1
    have hop : op ≠ .reset := fun h => hr (h ▸ List.mem_cons_self _ _)
    have hd : op ≠ .getDelayMs := fun h => by simp [hflag h] at hf
    have he' : (c.1.step op).isAuthExpired = true := by
      rw [isAuthExpired_step, if_neg hop]; split <;> simp [he]
    have hf' : (op = .shouldRetry && c.1.shouldRetry) = false := by
      simp [shouldRetry_of_isAuthExpired he]
    rw [List.count_cons, if_neg (by simpa using hd), Nat.add_zero,
      ih he' hf' h2 (fun h => hr (List.mem_cons_of_mem _ h))]

/-- A guarded sequence split in three: the runs of the first two parts. -/
theorem guarded_append {pre seg post : List PolicyOp}
    (h : guarded init (pre ++ seg ++ post) = true) :
    ∃ c1 c2, pre.foldlM guardedStep (init, false) = some c1 ∧
      seg.foldlM guardedStep c1 = some c2 := by
  obtain ⟨c, hc⟩ := Option.isSome_iff_exists.mp h
  rw [List.foldlM_append, List.foldlM_append] at hc
  obtain ⟨c2', hc2', -⟩ := Option.bind_eq_some.mp hc
  obtain ⟨c1, h1, h2⟩ := Option.bind_eq_some.mp hc2'
  exact ⟨c1, c2', h1, h2⟩

/-- The counter is set to 0 exactly by `reset()` and by `setNetworkAvailable(true)` while
    authentication has not expired, whether or not the network was available before. So, when
    each `getDelayMs()` directly follows a `shouldRetry()` that returned `true`, at most
    `RECONNECT_MAX_ATTEMPTS` delays are taken between two such calls, and none after
    `markAuthExpired()` before the next `reset()`. -/
theorem retry_budget_between_clears :
    (∀ (p : WsReconnectPolicy) (op : PolicyOp), (p.step op).attemptCount =
      if clearsCounter p op then 0#32
      else if op = .getDelayMs then p.attemptCount + 1#32 else p.attemptCount) ∧
    ∀ pre seg post : List PolicyOp, guarded init (pre ++ seg ++ post) = true →
      (clearsAlong (init.run pre) seg = false →
        seg.count .getDelayMs ≤ reconnectMaxAttempts.toNat) ∧
      (seg.head? = some .markAuthExpired → PolicyOp.reset ∉ seg →
        seg.count .getDelayMs = 0) := by
  refine ⟨attemptCount_step, fun pre seg post h => ?_⟩
  obtain ⟨c1, c2, h1, h2⟩ := guarded_append h
  obtain ⟨hb1, hrun⟩ := @budget_run (init, false) c1 pre ⟨by decide, by decide⟩ h1
  refine ⟨fun hn => ?_, fun hhead hr => ?_⟩
  · obtain ⟨hsum, hb2⟩ := budget_foldlM hb1 h2 (hrun ▸ hn)
    have : reconnectMaxAttempts.toNat = 5 := rfl
    have := hb2.1
    omega
  · obtain ⟨rest, rfl⟩ := List.head?_eq_some_iff.mp hhead
    have h4 : rest.foldlM guardedStep (c1.1.step .markAuthExpired, false) = some c2 := h2
    rw [List.count_cons, count_getDelayMs_of_isAuthExpired rfl rfl h4
      (fun h => hr (List.mem_cons_of_mem _ h))]
    rfl

theorem retry_budget_between_clears_sample :
    guarded init ([] ++ [.shouldRetry, .getDelayMs] ++ []) = true ∧
    clearsAlong (init.run []) [.shouldRetry, .getDelayMs] = false ∧
    [PolicyOp.shouldRetry, .getDelayMs].count .getDelayMs ≤ reconnectMaxAttempts.toNat ∧
    guarded init ([] ++ [.markAuthExpired, .shouldRetry] ++ []) = true ∧
    [PolicyOp.markAuthExpired, .shouldRetry].head? = some .markAuthExpired ∧
    PolicyOp.reset ∉ [PolicyOp.markAuthExpired, .shouldRetry] ∧
    [PolicyOp.markAuthExpired, .shouldRetry].count .getDelayMs = 0 :=
  have h1 := retry_budget_between_clears.2 [] [.shouldRetry, .getDelayMs] [] (by decide)
  have h2 := retry_budget_between_clears.2 [] [.markAuthExpired, .shouldRetry] [] (by decide)
  ⟨by decide, by decide, h1.1 (by decide), by decide, rfl, by decide, h2.2 rfl (by decide)⟩

/-- Five guarded delays, `setNetworkAvailable(true)` while the network is available, and five
    more: there is no `reset()` and the network never goes from unavailable to available, yet
    the call in the middle clears the counter and ten delays are taken. -/
theorem available_again_clears_budget :
    let ops := (List.replicate 5 [PolicyOp.shouldRetry, .getDelayMs]).flatten ++
      [.setNetworkAvailable true] ++ (List.replicate 5 [PolicyOp.shouldRetry, .getDelayMs]).flatten
    guarded init ops = true ∧ PolicyOp.reset ∉ ops ∧
      (∀ k ≤ ops.length, (init.run (ops.take k)).isNetworkAvailable = true) ∧
      (init.run (ops.take 10)).attemptCount = 5#32 ∧
      (init.run (ops.take 11)).attemptCount = 0#32 ∧
      ops.count .getDelayMs = 10 := by
  decide

end WsReconnectPolicy

/-! ## Section 6: The schedule a guarded caller sees -/

namespace ReconnectSchedule

theorem calls_step_le (s : ReconnectSchedule) (op : PolicyOp) :
    (s.step op).calls ≤ s.calls + 1 := by
  cases op <;> simp only [step] <;> (try split) <;> omega

theorem toNat_attemptCount_toPolicy {s : ReconnectSchedule} (h : s.calls < 2 ^ 32) :
    s.toPolicy.attemptCount.toNat = s.calls := by
  exact Nat.mod_eq_of_lt h

/-- Along a guarded run the schedule's count stays at most `RECONNECT_MAX_ATTEMPTS`, so it never
    wraps and is the policy's counter, and each `getDelayMs()` is made at a count below it. -/
theorem counts_lt_of_foldlM {s : ReconnectSchedule} {b : Bool} {c' : WsReconnectPolicy × Bool}
    {ops : List PolicyOp} (hs : s.calls ≤ 5) (hb : b = true → s.calls < 5)
    (h : ops.foldlM WsReconnectPolicy.guardedStep (s.toPolicy, b) = some c') :
    ∀ n ∈ s.counts ops, n < 5 := by
  induction ops generalizing s b with
  | nil => simp [counts]
  | cons op ops ih =>
    obtain ⟨c1, h1, h2⟩ := Option.bind_eq_some.mp h
    have hbud : WsReconnectPolicy.Budget (s.toPolicy, b) := by
      rw [WsReconnectPolicy.Budget, toNat_attemptCount_toPolicy (by omega)]
      exact ⟨hs, hb⟩
    have hbud' := WsReconnectPolicy.budget_guardedStep hbud h1
    obtain ⟨hflag, rfl⟩ := WsReconnectPolicy.guardedStep_eq_some.mp h1
    rw [← toPolicy_step] at h2 hbud'
    have := calls_step_le s op
    rw [WsReconnectPolicy.Budget, toNat_attemptCount_toPolicy (by omega)] at hbud'
    by_cases hd : op = .getDelayMs
    · subst hd
      rintro n (_ | ⟨_, hn⟩)
      exacts [hb (hflag rfl), ih hbud'.1 hbud'.2 h2 n hn]
    · rw [counts_cons_of_ne _ hd]
      exact ih hbud'.1 hbud'.2 h2

/-- A caller that calls `getDelayMs()` only right after a `shouldRetry()` that returned `true`
    makes every call at a count below `RECONNECT_MAX_ATTEMPTS`, so it never reaches the count
    at which the delay wraps, and every delay it gets is the schedule's. -/
theorem delays_eq_schedule_of_guarded {ops : List PolicyOp}
    (h : WsReconnectPolicy.guarded WsReconnectPolicy.init ops = true) :
    (∀ n ∈ init.counts ops, n < reconnectMaxAttempts.toNat) ∧
      (WsReconnectPolicy.delays WsReconnectPolicy.init ops).map BitVec.toInt =
        (init.counts ops).map scheduleDelay := by
  obtain ⟨c', hc⟩ := Option.isSome_iff_exists.mp h
  have hlt := @counts_lt_of_foldlM init false c' ops (by decide) (by decide) hc
  exact ⟨hlt, delays_eq_schedule fun n hn => by have := hlt n hn; omega⟩

example : (WsReconnectPolicy.delays WsReconnectPolicy.init [.shouldRetry, .getDelayMs]).map
    BitVec.toInt = [1000] :=
  (delays_eq_schedule_of_guarded (by decide)).2

end ReconnectSchedule

end Whisper

import Mathlib.Data.List.Perm.Basic

/-! # Inbound frames: `WsClientImpl`'s `onMessage`

    OkHttp calls `onMessage(webSocket, text)` once per text frame, in the order the frames arrive.
    The listener does not parse the text itself: it launches a coroutine on the application scope
    (`SupervisorJob() + Dispatchers.Default`, a pool of threads), and that coroutine parses the
    text with Gson and emits the frame on `_messages`, or logs and drops it if parsing throws.
    The launched coroutines run in any order, so the model keeps the texts whose coroutine has
    not run yet, and a schedule picks any one of them to run next. The parser is a parameter.

    What a subscriber receives is the delivered frames that parse, each once, but in the order
    the coroutines happened to run (`messages_perm`); it is the delivery order when the oldest
    waiting coroutine always runs first (`inOrder_run`); and once the waiting coroutines have
    run, every such frame has been emitted (`run_drain`).
-/

namespace Whisper

/-- The coroutines `onMessage` has launched and what a subscriber of `messages` has received. -/
structure Inbound (Frame : Type) where
  /-- The texts whose coroutine has not run yet, in delivery order. -/
  pending : List String
  /-- The frames emitted on `_messages`, in emission order. -/
  messages : List Frame
  deriving DecidableEq, Repr

/-- What can happen next. -/
inductive InboundEvent
  /-- OkHttp calls `onMessage` with a text frame. -/
  | deliver (text : String)
  /-- The `i`-th waiting coroutine runs: parse, then `emit` or drop. -/
  | dispatch (i : Nat)
  deriving DecidableEq, Repr

/-- An event of a schedule that always runs the oldest waiting coroutine. -/
def InboundEvent.inLaunchOrder : InboundEvent → Bool
  | .deliver _ => true
  | .dispatch i => i == 0

variable {Frame : Type} (parse : String → Option Frame)

namespace Inbound

/-- No frame delivered yet. -/
def init : Inbound Frame := ⟨[], []⟩

/-- `onMessage(webSocket, text)`: launch a coroutine for the text. -/
def onMessage (s : Inbound Frame) (text : String) : Inbound Frame :=
  { s with pending := s.pending ++ [text] }

/-- The `i`-th waiting coroutine runs to its end. -/
def runLaunched (s : Inbound Frame) (i : Nat) : Inbound Frame :=
  match s.pending[i]? with
  | some text => ⟨s.pending.eraseIdx i, s.messages ++ (parse text).toList⟩
  | none => s

/-- One event. -/
def step (s : Inbound Frame) : InboundEvent → Inbound Frame
  | .deliver text => s.onMessage text
  | .dispatch i => s.runLaunched parse i

/-- A run. -/
def run (s : Inbound Frame) (evs : List InboundEvent) : Inbound Frame :=
  evs.foldl (step parse) s

/-- The texts of a run's `deliver` events, in order. -/
def delivered : List InboundEvent → List String
  | [] => []
  | .deliver text :: evs => text :: delivered evs
  | .dispatch _ :: evs => delivered evs

/-! ## Section 1: Every parsed frame is emitted once -/

theorem filterMap_cons_toList (a : String) (l : List String) :
    (a :: l).filterMap parse = (parse a).toList ++ l.filterMap parse := by
  rw [List.filterMap_cons]
  cases parse a <;> rfl

/-- Taking the `i`-th text out of the waiting list. -/
theorem filterMap_perm_eraseIdx {l : List String} {i : Nat} {text : String}
    (h : l[i]? = some text) :
    (l.filterMap parse).Perm ((parse text).toList ++ (l.eraseIdx i).filterMap parse) := by
  obtain ⟨hi, rfl⟩ := List.getElem?_eq_some_iff.mp h
  conv_lhs => rw [← List.take_append_drop i l, List.drop_eq_getElem_cons hi]
  rw [List.eraseIdx_eq_take_drop_succ, List.filterMap_append, List.filterMap_append,
    filterMap_cons_toList, ← List.append_assoc, ← List.append_assoc]
  exact List.perm_append_comm.append_right _

/-- The emitted frames and the frames still to be parsed are, together, the delivered frames
    that parse. -/
def Accounted (s : Inbound Frame) (texts : List String) : Prop :=
  (s.messages ++ s.pending.filterMap parse).Perm (texts.filterMap parse)

theorem accounted_step {s : Inbound Frame} {texts : List String} (h : Accounted parse s texts) :
    ∀ e, Accounted parse (s.step parse e) (texts ++ delivered [e])
  | .deliver text => by
    simp only [Accounted, Inbound.step, Inbound.onMessage, delivered, List.filterMap_append,
      ← List.append_assoc]
    exact h.append_right _
  | .dispatch i => by
    simp only [Inbound.step, Inbound.runLaunched, delivered, List.append_nil]
    split
    · rename_i text ht
      simp only [Accounted, List.append_assoc]
      exact ((filterMap_perm_eraseIdx parse ht).append_left _).symm.trans h
    · exact h

theorem delivered_cons (e : InboundEvent) (evs : List InboundEvent) :
    delivered (e :: evs) = delivered [e] ++ delivered evs := by
  cases e <;> rfl

theorem accounted_run {s : Inbound Frame} {texts : List String} (h : Accounted parse s texts) :
    ∀ evs, Accounted parse (s.run parse evs) (texts ++ delivered evs)
  | [] => by simpa [delivered] using h
  | e :: evs => by
    rw [delivered_cons, ← List.append_assoc]
    exact accounted_run (accounted_step parse h e) evs

/-- Along every run and every schedule, the frames a subscriber has received, followed by the
    frames still to be parsed, are a permutation of the delivered frames that parse: none is lost,
    duplicated or invented, but the order is the schedule's. -/
theorem messages_perm (evs : List InboundEvent) :
    ((init.run parse evs).messages ++ (init.run parse evs).pending.filterMap parse).Perm
      ((delivered evs).filterMap parse) := by
  have h := accounted_run parse (show Accounted parse (init : Inbound Frame) [] from .refl _) evs
  rwa [List.nil_append] at h

/-! ## Section 2: Delivery order needs the launch-order schedule -/

/-- The emitted frames and the frames still to be parsed are, in this order, the delivered
    frames that parse. -/
def InOrder (s : Inbound Frame) (texts : List String) : Prop :=
  s.messages ++ s.pending.filterMap parse = texts.filterMap parse

theorem inOrder_step {s : Inbound Frame} {texts : List String} (h : InOrder parse s texts) :
    ∀ e, e.inLaunchOrder = true → InOrder parse (s.step parse e) (texts ++ delivered [e])
  | .deliver text, _ => by
    unfold InOrder at h ⊢
    simp only [Inbound.step, Inbound.onMessage, delivered, List.filterMap_append,
      ← List.append_assoc, h]
  | .dispatch i, he => by
    obtain rfl : i = 0 := by simpa [InboundEvent.inLaunchOrder] using he
    simp only [Inbound.step, Inbound.runLaunched, delivered, List.append_nil]
    split
    · rename_i text ht
      obtain ⟨rest, hrest⟩ : ∃ rest, s.pending = text :: rest := by
        cases hp : s.pending with
        | nil => simp [hp] at ht
        | cons a rest => exact ⟨rest, by simp_all⟩
      simp only [InOrder, hrest, List.eraseIdx_cons_zero, List.append_assoc]
      rw [← filterMap_cons_toList, ← hrest]
      exact h
    · exact h

theorem inOrder_run {s : Inbound Frame} {texts : List String} (h : InOrder parse s texts) :
    ∀ evs : List InboundEvent, (∀ e ∈ evs, e.inLaunchOrder = true) →
      InOrder parse (s.run parse evs) (texts ++ delivered evs)
  | [], _ => by simpa [delivered] using h
  | e :: evs, he => by
    rw [delivered_cons, ← List.append_assoc]
    exact inOrder_run (inOrder_step parse h e (he e (List.mem_cons_self e evs))) evs
      fun e' h' => he e' (List.mem_cons_of_mem e h')

/-! ## Section 3: Every waiting coroutine runs -/

theorem run_append (s : Inbound Frame) (evs evs' : List InboundEvent) :
    s.run parse (evs ++ evs') = (s.run parse evs).run parse evs' := List.foldl_append _ _ _ _

/-- Running the oldest waiting coroutine until none is left parses every waiting text, in
    order, and emits the frames that parse. -/
theorem run_drain (pending : List String) (messages : List Frame) :
    (Inbound.mk pending messages).run parse (List.replicate pending.length (.dispatch 0)) =
      ⟨[], messages ++ pending.filterMap parse⟩ := by
  induction pending generalizing messages with
  | nil => simp [run]
  | cons text rest ih =>
    have hstep : (Inbound.mk (text :: rest) messages).step parse (.dispatch 0) =
        ⟨rest, messages ++ (parse text).toList⟩ := by
      simp [step, runLaunched]
    rw [List.length_cons, List.replicate_succ, run, List.foldl_cons, hstep, ← run, ih,
      filterMap_cons_toList, List.append_assoc]

/-- Every delivered frame that parses is emitted exactly once: along every run and schedule, the
    emitted frames and those still waiting are the delivered frames that parse, in delivery
    order when the coroutines run in the order they were launched; and once the waiting
    coroutines have run, none is left and each delivered frame that parses has been emitted. -/
theorem inbound_frames_each_once (evs : List InboundEvent) :
    ((init.run parse evs).messages ++ (init.run parse evs).pending.filterMap parse).Perm
      ((delivered evs).filterMap parse) ∧
    ((∀ e ∈ evs, e.inLaunchOrder = true) →
      (init.run parse evs).messages ++ (init.run parse evs).pending.filterMap parse =
        (delivered evs).filterMap parse) ∧
    (init.run parse (evs ++ List.replicate (init.run parse evs).pending.length (.dispatch 0))
      ).pending = [] ∧
    (init.run parse (evs ++ List.replicate (init.run parse evs).pending.length (.dispatch 0))
      ).messages.Perm ((delivered evs).filterMap parse) := by
  have hdrain := run_drain parse (init.run parse evs).pending (init.run parse evs).messages
  rw [← run_append] at hdrain
  refine ⟨messages_perm parse evs, fun hevs => ?_, by rw [hdrain], by
    rw [hdrain]; exact messages_perm parse evs⟩
  have h := inOrder_run parse (show InOrder parse (init : Inbound Frame) [] from rfl) evs hevs
  rwa [List.nil_append] at h

/-- Two frames delivered, of which the first has been parsed. -/
def twoFrames : List InboundEvent := [.deliver "a", .deliver "b", .dispatch 0]

theorem inbound_frames_each_once_sample :
    ((init.run some twoFrames).messages ++
        (init.run some twoFrames).pending.filterMap some).Perm
      ((delivered twoFrames).filterMap some) ∧
    ((∀ e ∈ twoFrames, e.inLaunchOrder = true) ∧
      (init.run some twoFrames).messages ++ (init.run some twoFrames).pending.filterMap some =
        (delivered twoFrames).filterMap some) ∧
    (init.run some (twoFrames ++
      List.replicate (init.run some twoFrames).pending.length (.dispatch 0))).pending = [] ∧
    (init.run some (twoFrames ++
      List.replicate (init.run some twoFrames).pending.length (.dispatch 0))).messages.Perm
      ((delivered twoFrames).filterMap some) :=
  ⟨(inbound_frames_each_once some _).1,
    ⟨by decide, (inbound_frames_each_once some _).2.1 (by decide)⟩,
    (inbound_frames_each_once some _).2.2⟩

/-- Two frames delivered in the order `a`, `b` reach the subscriber as `b`, `a` when the second
    coroutine runs first. -/
theorem frames_reordered :
    delivered [.deliver "a", .deliver "b", .dispatch 1, .dispatch 0] = ["a", "b"] ∧
    (init.run some [.deliver "a", .deliver "b", .dispatch 1, .dispatch 0]).messages =
      ["b", "a"] := by
  decide

end Inbound

end Whisper

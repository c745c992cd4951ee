import Whisper.Jvm.Base64Decoder

/-! # `Base64.Decoder.process` as the JVM runs it

    `Base64Decoder` models the loop of `process` one byte at a time, with `value` a natural
    number. The code differs in two ways. `value` is an `int`: `(value << 6) | d` and the
    output bytes `(byte) (value >> k)` are 32-bit operations. And in state 0 the loop first
    takes a fast path: while four bytes remain, it computes
    `value = (DECODE[a] << 18) | (DECODE[b] << 12) | (DECODE[c] << 6) | DECODE[d]`, and if
    `value >= 0`, that is if all four are data bytes, writes the group's three bytes and moves
    on by four. The comment in the code says the block can be removed and the output stays the
    same. A failed check leaves its negative `value` behind, which the state machine then runs
    with.

    `jvmDecode_eq_decode` proves the comment: for every input, the loop with the fast path and
    `int` arithmetic throws what the plain loop throws and otherwise returns the same bytes.
    Both write into the array `decode` allocates, and the fast path writes a group's three
    bytes where the plain loop does, at the group's last byte, so a write past the array
    throws at the same place. The
    fast value is negative exactly when one of the four bytes is not data, because every
    non-data entry of `DECODE` is `-1` or `-2`, whose shifts keep the sign bit
    (`fastValue_neg`); and on four data bytes it is the value the plain loop accumulates in
    four steps, by the algebra of shifts (`fastValue_eq`).
-/

namespace Whisper.Base64

/-! ## Section 1: The loop with `int` arithmetic and the fast path -/

/-- `DECODE[b & 0xff]` as the `int` the JVM holds. -/
def alphabet (b : Byte) : BitVec 32 := BitVec.ofInt 32 (decodeValue b)

/-- The fields of `Base64.Decoder` that `process` uses, with `value` an `int`. -/
structure JvmDecoder where
  /-- `state`; the error state 6 is `none`. -/
  state : Nat
  /-- `value`. -/
  value : BitVec 32
  /-- `output[0 until op]`. -/
  output : List Byte
  deriving DecidableEq, Repr

/-- `(byte) (value >> k)`: an arithmetic shift, then the low eight bits. -/
def byteOf (value : BitVec 32) (k : Nat) : Byte := (value.sshiftRight k).setWidth 8

/-- The three bytes of a complete group. -/
def groupBytes (value : BitVec 32) : List Byte :=
  [byteOf value 16, byteOf value 8, value.setWidth 8]

/-- One iteration of the `switch` of `process`, on the byte `b`. -/
def jvmStep (s : JvmDecoder) (b : Byte) : Option JvmDecoder :=
  let d := decodeValue b
  match s.state with
  | 0 =>
    if 0 ≤ d then some { s with state := 1, value := alphabet b }
    else if d ≠ skip then none else some s
  | 1 =>
    if 0 ≤ d then some { s with state := 2, value := s.value <<< 6 ||| alphabet b }
    else if d ≠ skip then none else some s
  | 2 =>
    if 0 ≤ d then some { s with state := 3, value := s.value <<< 6 ||| alphabet b }
    else if d = equals then some { s with state := 4, output := s.output ++ [byteOf s.value 4] }
    else if d ≠ skip then none else some s
  | 3 =>
    if 0 ≤ d then
      let value := s.value <<< 6 ||| alphabet b
      some ⟨0, value, s.output ++ groupBytes value⟩
    else if d = equals then
      some { s with state := 5, output := s.output ++ [byteOf s.value 10, byteOf s.value 2] }
    else if d ≠ skip then none else some s
  | 4 =>
    if d = equals then some { s with state := 5 }
    else if d ≠ skip then none else some s
  | _ => if d ≠ skip then none else some s

/-- The fast path's `(DECODE[a] << 18) | (DECODE[b] << 12) | (DECODE[c] << 6) | DECODE[d]`. -/
def fastValue (a b c d : Byte) : BitVec 32 :=
  alphabet a <<< 18 ||| alphabet b <<< 12 ||| alphabet c <<< 6 ||| alphabet d

/-- The loop of `process`, writing into an array of `size` bytes: in state 0, with four bytes
    left, the fast path; if it fails, its `value` stays, and the `switch` runs on one byte, as
    it does in every other case. -/
def jvmLoop (size : Nat) : JvmDecoder → List Byte → Except Throwable JvmDecoder
  | s, [] => .ok s
  | s, a :: tail@(b :: c :: d :: rest) =>
    if s.state = 0 then
      let value := fastValue a b c d
      if 0 ≤ value.toInt then
        within size JvmDecoder.output (some ⟨0, value, s.output ++ groupBytes value⟩) >>=
          (jvmLoop size · rest)
      else within size JvmDecoder.output (jvmStep { s with value } a) >>= (jvmLoop size · tail)
    else within size JvmDecoder.output (jvmStep s a) >>= (jvmLoop size · tail)
  | s, a :: rest => within size JvmDecoder.output (jvmStep s a) >>= (jvmLoop size · rest)

/-- The end of `process` when `finish` is `true`. -/
def jvmFinish (s : JvmDecoder) : Option (List Byte) :=
  match s.state with
  | 0 => some s.output
  | 1 => none
  | 2 => some (s.output ++ [byteOf s.value 4])
  | 3 => some (s.output ++ [byteOf s.value 10, byteOf s.value 2])
  | 4 => none
  | _ => some s.output

/-- `Base64.decode(input, flags)` with the loop as the JVM runs it. -/
def jvmDecode (input : List Byte) : Except Throwable (List Byte) := do
  let output ← JByteArray.ofSize (allocSize input.length)
  let s ← jvmLoop output.data.length ⟨0, 0, []⟩ input
  within output.data.length id (jvmFinish s)

/-! ## Section 2: `int` arithmetic on the values the loop holds -/

/-- A skipped byte changes nothing, in every state. -/
theorem jvmStep_of_skip {b : Byte} (h : decodeValue b = skip) (s : JvmDecoder) :
    jvmStep s b = some s := by
  simp only [jvmStep, h, skip, equals]
  split <;> simp

theorem alphabet_of_nonneg {b : Byte} (h : 0 ≤ decodeValue b) :
    alphabet b = BitVec.ofNat 32 (decodeValue b).toNat := by
  obtain ⟨n, hn⟩ := Int.eq_ofNat_of_zero_le h
  simp [alphabet, hn]

/-- `(value << 6) | d` on an `int` is `value * 64 + d` while that fits. -/
theorem ofNat_shiftLeft_or (v d : Nat) (hv : v < 2 ^ 26) (hd : d < 64) :
    BitVec.ofNat 32 v <<< 6 ||| BitVec.ofNat 32 d = BitVec.ofNat 32 (v * 64 + d) := by
  apply BitVec.eq_of_toNat_eq
  rw [BitVec.toNat_or, BitVec.toNat_shiftLeft, BitVec.toNat_ofNat, BitVec.toNat_ofNat,
    BitVec.toNat_ofNat, Nat.mod_eq_of_lt (by omega : v < 2 ^ 32),
    Nat.mod_eq_of_lt (by omega : d < 2 ^ 32), Nat.mod_eq_of_lt (by omega : v * 64 + d < 2 ^ 32),
    Nat.mod_eq_of_lt (by rw [Nat.shiftLeft_eq]; omega : v <<< 6 < 2 ^ 32), shiftLeft_or v d hd]

/-- `(byte) (value >> k)` of a nonnegative `int` is its quotient by `2^k`, cut to a byte. -/
theorem byteOf_ofNat (v k : Nat) (hv : v < 2 ^ 31) :
    byteOf (BitVec.ofNat 32 v) k = BitVec.ofNat 8 (v >>> k) := by
  have hmsb : (BitVec.ofNat 32 v).msb = false :=
    BitVec.msb_eq_false_iff_two_mul_lt.mpr (by rw [BitVec.toNat_ofNat]; omega)
  apply BitVec.eq_of_toNat_eq
  simp [byteOf, BitVec.sshiftRight_eq_of_msb_false hmsb,
    Nat.mod_eq_of_lt (by omega : v < 4294967296)]

theorem setWidth_ofNat (v : Nat) : (BitVec.ofNat 32 v).setWidth 8 = BitVec.ofNat 8 v := by
  apply BitVec.eq_of_toNat_eq
  simp [Nat.mod_mod_of_dvd v (by decide : 2 ^ 8 ∣ 2 ^ 32)]

theorem groupBytes_ofNat (v : Nat) (hv : v < 2 ^ 31) :
    groupBytes (BitVec.ofNat 32 v) =
      [BitVec.ofNat 8 (v >>> 16), BitVec.ofNat 8 (v >>> 8), BitVec.ofNat 8 v] := by
  simp only [groupBytes, byteOf_ofNat v _ hv, setWidth_ofNat]

/-! ## Section 3: The fast value -/

/-- On four data bytes the fast value is the value four steps of the plain loop accumulate:
    shifting distributes over `or`. -/
theorem fastValue_eq {a b c d : Byte} (ha : 0 ≤ decodeValue a) (hb : 0 ≤ decodeValue b)
    (hc : 0 ≤ decodeValue c) (hd : 0 ≤ decodeValue d) :
    fastValue a b c d = BitVec.ofNat 32 ((((decodeValue a).toNat * 64 + (decodeValue b).toNat) *
      64 + (decodeValue c).toNat) * 64 + (decodeValue d).toNat) := by
  have := decodeValue_lt a; have := decodeValue_lt b
  have := decodeValue_lt c; have := decodeValue_lt d
  rw [← ofNat_shiftLeft_or _ _ (by omega) (by omega), ← ofNat_shiftLeft_or _ _ (by omega)
    (by omega), ← ofNat_shiftLeft_or _ _ (by omega) (by omega), fastValue,
    alphabet_of_nonneg ha, alphabet_of_nonneg hb, alphabet_of_nonneg hc, alphabet_of_nonneg hd]
  simp only [BitVec.shiftLeft_or_distrib, ← BitVec.shiftLeft_add]

theorem alphabet_of_neg {b : Byte} (h : decodeValue b < 0) :
    alphabet b = BitVec.ofInt 32 (-1) ∨ alphabet b = BitVec.ofInt 32 (-2) := by
  rcases decodeValue_cases b with h0 | he | hs
  · omega
  · exact .inr (by rw [alphabet, he]; rfl)
  · exact .inl (by rw [alphabet, hs]; rfl)

/-- `-1` and `-2` keep the sign bit under the shifts of the fast path. -/
theorem getMsbD_alphabet {b : Byte} (h : decodeValue b < 0) :
    (alphabet b).getMsbD 18 ∧ (alphabet b).getMsbD 12 ∧ (alphabet b).getMsbD 6 ∧
      (alphabet b).msb := by
  rcases alphabet_of_neg h with h' | h' <;> rw [h'] <;> decide

/-- If one of the four bytes is not data, the fast value is negative and the fast path is not
    taken. -/
theorem fastValue_neg {a b c d : Byte}
    (h : decodeValue a < 0 ∨ decodeValue b < 0 ∨ decodeValue c < 0 ∨ decodeValue d < 0) :
    (fastValue a b c d).toInt < 0 := by
  rw [BitVec.toInt_neg_iff, ← ge_iff_le, ← BitVec.msb_eq_true_iff_two_mul_ge]
  simp only [fastValue, BitVec.msb_or, BitVec.msb_shiftLeft, Bool.or_eq_true]
  rcases h with h | h | h | h
  · exact .inl (.inl (.inl (getMsbD_alphabet h).1))
  · exact .inl (.inl (.inr (getMsbD_alphabet h).2.1))
  · exact .inl (.inr (getMsbD_alphabet h).2.2.1)
  · exact .inr (getMsbD_alphabet h).2.2.2

/-! ## Section 4: The JVM loop computes what the plain loop computes -/

/-- The JVM decoder and the plain one agree: the same state and bytes written, and the same
    value wherever the value is read, that is outside state 0. -/
def Agrees (j : JvmDecoder) (s : Decoder) : Prop :=
  j.state = s.state ∧ j.output = s.output ∧ (s.state ≠ 0 → j.value = BitVec.ofNat 32 s.value)

/-- Two outcomes that throw the same exception, or end in related states. -/
def ExceptRel {α β : Type} (R : α → β → Prop) :
    Except Throwable α → Except Throwable β → Prop
  | .ok a, .ok b => R a b
  | .error e, .error e' => e = e'
  | _, _ => False

theorem exceptRel_bind {α β γ δ : Type} {R : α → β → Prop} {R' : γ → δ → Prop}
    {x : Except Throwable α} {y : Except Throwable β} {f : α → Except Throwable γ}
    {g : β → Except Throwable δ} (h : ExceptRel R x y)
    (hfg : ∀ a b, y = .ok b → R a b → ExceptRel R' (f a) (g b)) :
    ExceptRel R' (x >>= f) (y >>= g) := by
  cases x <;> cases y <;> simp only [ExceptRel] at h
  · exact h
  · exact hfg _ _ rfl h

/-- Agreeing states written into the same array both fit in it or both overrun it. -/
theorem within_agrees {size : Nat} {oj : Option JvmDecoder} {os : Option Decoder}
    (h : Option.Rel Agrees oj os) :
    ExceptRel Agrees (within size JvmDecoder.output oj) (within size Decoder.output os) := by
  cases h with
  | none => rfl
  | some hab =>
    simp only [within, hab.2.1]
    split
    · exact hab
    · rfl

/-- One iteration of the `switch` on `int`s agrees with one step of the plain loop, wherever
    the plain value is within its bounds. -/
theorem jvmStep_agrees {j : JvmDecoder} {s : Decoder} (h : Agrees j s) (hs : ValueBound s)
    (b : Byte) : Option.Rel Agrees (jvmStep j b) (step s b) := by
  obtain ⟨k, jv, jo⟩ := j
  obtain ⟨k', v, o⟩ := s
  obtain ⟨rfl, rfl, hv⟩ := h
  obtain ⟨h24, h1, h2, h3⟩ := hs
  simp only at hv h1 h2 h3 h24
  have hlt := decodeValue_lt b
  rcases decodeValue_cases b with hd | he | hskip
  · obtain ⟨n, hn⟩ := Int.eq_ofNat_of_zero_le hd
    have ha : alphabet b = BitVec.ofNat 32 n := by rw [alphabet_of_nonneg hd, hn]; rfl
    have hne : decodeValue b ≠ equals := by rw [equals]; omega
    have hns : decodeValue b ≠ skip := by rw [skip]; omega
    rcases k with _ | _ | _ | _ | _ | k
    · simp only [jvmStep, step, if_pos hd, ha, hn, Int.toNat_ofNat]
      exact .some ⟨rfl, rfl, fun _ => rfl⟩
    · simp only [jvmStep, step, if_pos hd, ha, hn, Int.toNat_ofNat, hv (by decide),
        ofNat_shiftLeft_or v n (by omega) (by omega), shiftLeft_or v n (by omega)]
      exact .some ⟨rfl, rfl, fun _ => rfl⟩
    · simp only [jvmStep, step, if_pos hd, ha, hn, Int.toNat_ofNat, hv (by decide),
        ofNat_shiftLeft_or v n (by omega) (by omega), shiftLeft_or v n (by omega)]
      exact .some ⟨rfl, rfl, fun _ => rfl⟩
    · simp only [jvmStep, step, if_pos hd, ha, hn, Int.toNat_ofNat, hv (by decide),
        ofNat_shiftLeft_or v n (by omega) (by omega), shiftLeft_or v n (by omega)]
      rw [groupBytes_ofNat _ (by omega)]
      exact .some ⟨rfl, rfl, fun h => absurd rfl h⟩
    · simp only [jvmStep, step, if_neg hne, if_pos hns]
      exact .none
    · simp only [jvmStep, step, if_pos hns]
      exact .none
  · have hns : decodeValue b ≠ skip := by rw [he]; decide
    have hneg : ¬0 ≤ decodeValue b := by rw [he]; decide
    rcases k with _ | _ | _ | _ | _ | k
    · simp only [jvmStep, step, if_neg hneg, if_pos hns]
      exact .none
    · simp only [jvmStep, step, if_neg hneg, if_pos hns]
      exact .none
    · simp only [jvmStep, step, if_neg hneg, if_pos he, hv (by decide),
        byteOf_ofNat v 4 (by omega)]
      exact .some ⟨rfl, rfl, fun _ => rfl⟩
    · simp only [jvmStep, step, if_neg hneg, if_pos he, hv (by decide),
        byteOf_ofNat v _ (by omega)]
      exact .some ⟨rfl, rfl, fun _ => rfl⟩
    · simp only [jvmStep, step, if_pos he]
      exact .some ⟨rfl, rfl, fun _ => hv (by decide)⟩
    · simp only [jvmStep, step, if_pos hns]
      exact .none
  · rw [jvmStep_of_skip hskip, step_of_skip hskip]
    exact .some ⟨rfl, rfl, hv⟩

/-- Four data bytes from state 0 take the plain loop back to state 0 with the group's value,
    having written its three bytes, the only write of the four steps. -/
theorem foldlM_four_data {a b c d : Byte} {na nb nc nd : Nat} (ha : decodeValue a = na)
    (hb : decodeValue b = nb) (hc : decodeValue c = nc) (hd : decodeValue d = nd)
    {size : Nat} (v : Nat) {out : List Byte} (hout : out.length ≤ size) (rest : List Byte) :
    (a :: b :: c :: d :: rest).foldlM (stepInto size) ⟨0, v, out⟩ =
      let value := ((na * 64 + nb) * 64 + nc) * 64 + nd
      within size Decoder.output (some ⟨0, value, out ++ [BitVec.ofNat 8 (value >>> 16),
        BitVec.ofNat 8 (value >>> 8), BitVec.ofNat 8 value]⟩) >>=
        rest.foldlM (stepInto size) := by
  have := decodeValue_lt b; have := decodeValue_lt c; have := decodeValue_lt d
  simp only [List.foldlM_cons, stepInto, step_data_zero _ _ ha, step_data_one _ _ hb (by omega),
    step_data_two _ _ hc (by omega), step_data_three _ _ hd (by omega), within, if_pos hout,
    Nat.shiftRight_eq_div_pow, bind, Except.bind]

/-- Along every input, the JVM loop with the fast path and the plain loop, writing into the
    same array, throw the same exception or end in agreeing states. -/
theorem jvmLoop_agrees (size : Nat) (j : JvmDecoder) (input : List Byte) :
    ∀ s : Decoder, Agrees j s → ValueBound s → s.output.length ≤ size →
      ExceptRel Agrees (jvmLoop size j input) (input.foldlM (stepInto size) s) := by
  induction j, input using jvmLoop.induct size with
  | case1 j => exact fun _ h _ _ => by rw [jvmLoop.eq_1]; exact h
  | case2 j a b c d rest hj value hfast ih =>
    intro s h hs hsize
    have hfast' : 0 ≤ (fastValue a b c d).toInt := hfast
    have hall : 0 ≤ decodeValue a ∧ 0 ≤ decodeValue b ∧ 0 ≤ decodeValue c ∧
        0 ≤ decodeValue d := by
      by_contra hnot
      have : (fastValue a b c d).toInt < 0 := fastValue_neg (by omega)
      omega
    obtain ⟨na, ha⟩ := Int.eq_ofNat_of_zero_le hall.1
    obtain ⟨nb, hb⟩ := Int.eq_ofNat_of_zero_le hall.2.1
    obtain ⟨nc, hc⟩ := Int.eq_ofNat_of_zero_le hall.2.2.1
    obtain ⟨nd, hd⟩ := Int.eq_ofNat_of_zero_le hall.2.2.2
    have := decodeValue_lt a; have := decodeValue_lt b
    have := decodeValue_lt c; have := decodeValue_lt d
    have hv : fastValue a b c d = BitVec.ofNat 32 (((na * 64 + nb) * 64 + nc) * 64 + nd) := by
      rw [fastValue_eq hall.1 hall.2.1 hall.2.2.1 hall.2.2.2, ha, hb, hc, hd]
      rfl
    obtain ⟨k, v, o⟩ := s
    obtain ⟨rfl, rfl, -⟩ := h
    rw [jvmLoop.eq_2, if_pos hj, hj]
    simp only [if_pos hfast']
    rw [foldlM_four_data ha hb hc hd _ hsize]
    refine exceptRel_bind (within_agrees (.some ⟨rfl, ?_, fun h0 => absurd rfl h0⟩))
      fun j' s' hy h' => ih j' s' h' ?_ (within_eq_ok.1 hy).2
    · show j.output ++ groupBytes (fastValue a b c d) = _
      rw [hv, groupBytes_ofNat _ (by omega)]
    · obtain ⟨hs', -⟩ := within_eq_ok.1 hy
      cases hs'
      exact ⟨by simp only; omega, by simp, by simp, by simp⟩
  | case3 j a b c d rest hj value hfast ih =>
    intro s h hs hsize
    have h' : Agrees { j with value := fastValue a b c d } s :=
      ⟨h.1, h.2.1, fun hs0 => absurd (h.1 ▸ hj) hs0⟩
    rw [jvmLoop.eq_2, if_pos hj]
    simp only [if_neg hfast]
    rw [List.foldlM_cons]
    exact exceptRel_bind (within_agrees (jvmStep_agrees h' hs a)) fun j' s' hy h'' =>
      ih j' s' h'' (valueBound_step hs (within_eq_ok.1 hy).1) (within_eq_ok.1 hy).2
  | case4 j a b c d rest hj ih =>
    intro s h hs hsize
    rw [jvmLoop.eq_2, if_neg hj, List.foldlM_cons]
    exact exceptRel_bind (within_agrees (jvmStep_agrees h hs a)) fun j' s' hy h'' =>
      ih j' s' h'' (valueBound_step hs (within_eq_ok.1 hy).1) (within_eq_ok.1 hy).2
  | case5 j a rest hrest ih =>
    intro s h hs hsize
    rw [jvmLoop.eq_3 _ _ _ _ hrest, List.foldlM_cons]
    exact exceptRel_bind (within_agrees (jvmStep_agrees h hs a)) fun j' s' hy h'' =>
      ih j' s' h'' (valueBound_step hs (within_eq_ok.1 hy).1) (within_eq_ok.1 hy).2

theorem jvmFinish_agrees {j : JvmDecoder} {s : Decoder} (h : Agrees j s) (hs : ValueBound s) :
    jvmFinish j = finish s := by
  obtain ⟨k, jv, jo⟩ := j
  obtain ⟨k', v, o⟩ := s
  obtain ⟨rfl, rfl, hv⟩ := h
  obtain ⟨h24, -, h2, h3⟩ := hs
  simp only at hv h2 h3 h24
  rcases k with _ | _ | _ | _ | _ | k
  · rfl
  · rfl
  · simp only [jvmFinish, finish, hv (by decide), byteOf_ofNat v 4 (by omega)]
  · simp only [jvmFinish, finish, hv (by decide), byteOf_ofNat v _ (by omega)]
  · rfl
  · rfl

/-- `Base64.decode` as the JVM runs it, fast path and `int` arithmetic included, throws exactly
    when the plain loop does and otherwise returns the same bytes, on every input: the fast
    path can be removed without changing the output, as its comment says. -/
theorem jvmDecode_eq_decode (input : List Byte) : jvmDecode input = decode input := by
  by_cases hneg : (allocSize input.length).toInt < 0
  · rw [decode_of_neg hneg]
    simp [jvmDecode, JByteArray.ofSize, hneg, bind, Except.bind]
  rw [decode_of_nonneg hneg]
  have hj : jvmDecode input = jvmLoop (allocSize input.length).toNat ⟨0, 0, []⟩ input >>=
      fun s => within (allocSize input.length).toNat id (jvmFinish s) := by
    simp [jvmDecode, JByteArray.ofSize, hneg, bind, Except.bind]
  have h := jvmLoop_agrees (allocSize input.length).toNat ⟨0, 0, []⟩ input Decoder.init
    ⟨rfl, rfl, fun h => absurd rfl h⟩ (by simp [ValueBound, Decoder.init]) (Nat.zero_le _)
  rw [hj, processInto]
  generalize hp : input.foldlM (stepInto (allocSize input.length).toNat) Decoder.init = r at h
  generalize jvmLoop (allocSize input.length).toNat ⟨0, 0, []⟩ input = r' at h
  cases r' <;> cases r <;> simp only [ExceptRel] at h
  · rw [h]; rfl
  · rename_i j s
    have hs := foldlM_stepInto_eq_ok input hp
    show within _ id (jvmFinish j) = within _ id (finish s)
    rw [jvmFinish_agrees h (value_lt_of_process hs)]

end Whisper.Base64

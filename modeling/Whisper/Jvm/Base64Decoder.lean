import Whisper.Jvm.Base64
import Whisper.Jvm.Arrays

/-! # `String.decodeBase64`: Android's `Base64.decode`

    `Extensions.kt` defines `String.decodeBase64()` as `Base64.decode(this, Base64.NO_WRAP)`.
    Android's `Base64.decode(String, int)` decodes `str.getBytes()`, the string's UTF-8 bytes,
    with the state machine of `Base64.Decoder.process`: states 0 to 3 count the data characters
    of the current group and accumulate their bits in the `int` `value`; a padding `=` in state 2
    or 3 writes the group's last bytes and moves to state 4 (one more `=` expected) or 5 (the
    end); every byte outside the alphabet other than `=` is skipped, in every state. Any other
    byte moves to the error state 6, and `decode` throws `IllegalArgumentException("bad
    base-64")`. After the last byte, states 0, 2, 3 and 5 are accepted and 1 and 4 are not.

    `decode` first allocates `new byte[len * 3 / 4]`, computed in `int` arithmetic, and
    `process` writes into that array: a negative size throws `NegativeArraySizeException`, and
    a write past the array `ArrayIndexOutOfBoundsException`. `process` is the state machine
    alone, writing to an array with room for every byte; `processInto` is the loop as `decode`
    runs it. Here `value` is a natural number and the loop reads one byte at a time. The code's
    `value` is an `int`, and in state 0 it first tries a fast path that reads four data bytes
    at once; `Base64FastPath` models that loop and proves that it returns what this one returns
    (`jvmDecode_eq_decode`). `NO_WRAP` only matters to the encoder.

    The main results:

    - `value_lt_of_process`: along every input the accumulator holds at most `6 * state` bits,
      so `value << 6` never overflows the `int`;
    - `allocated_output`: below 715,827,883 input bytes the decoder never writes past the array
      it allocates; up to 1,431,655,764 bytes the allocation throws, and beyond, the array
      wraps to a small one that an input of data bytes overruns;
    - `decode_ok_iff_accepted`: the inputs `decode` accepts are exactly the runs of data bytes
      of a length other than `1` modulo 4, padded by `==` or `=` only where a group is short,
      whose decoded bytes fit in the array; and `length_decode`: the output is `n * 3 / 4`
      bytes for the `n` data bytes of the input;
    - `JString.decodeBase64_eq_filter`: a string is read only through its ASCII alphabet
      characters and `=`, so line breaks, spaces and other characters are ignored;
    - `JString.decodeBase64_encodeBase64_eq`: decoding undoes `encodeBase64`, and with its
      padding dropped exactly below `2^29` bytes (`JString.decodeBase64_unpadded`).
-/

namespace Whisper.Base64

/-! ## Section 1: The decoder -/

/-- `Base64.Decoder.SKIP`. -/
def skip : Int := -1

/-- `Base64.Decoder.EQUALS`. -/
def equals : Int := -2

/-- `Base64.Decoder.DECODE[b & 0xff]`: the six-bit value of an alphabet byte, `EQUALS` for `=`,
    and `SKIP` for every other byte. -/
def decodeValue (b : Byte) : Int :=
  if 65 ≤ b.toNat ∧ b.toNat ≤ 90 then b.toNat - 65
  else if 97 ≤ b.toNat ∧ b.toNat ≤ 122 then b.toNat - 71
  else if 48 ≤ b.toNat ∧ b.toNat ≤ 57 then b.toNat + 4
  else if b.toNat = 43 then 62
  else if b.toNat = 47 then 63
  else if b.toNat = 61 then equals
  else skip

/-- The fields of `Base64.Decoder` that `process` reads and writes: `state`, the bits of the
    current group in `value`, and the bytes written so far, `output[0 until op]`. -/
structure Decoder where
  /-- `state`, from 0 to 5; the error state 6 is `none`. -/
  state : Nat
  /-- `value`, an `int` that holds at most 24 bits (`value_lt_of_process`). -/
  value : Nat
  /-- `output[0 until op]`. -/
  output : List Byte
  deriving DecidableEq, Repr

/-- A new decoder: state 0, no bytes written. -/
def Decoder.init : Decoder := ⟨0, 0, []⟩

/-- One iteration of the loop of `Base64.Decoder.process`, on the byte `b`; `none` is the
    error state 6, where `process` returns `false`. -/
def step (s : Decoder) (b : Byte) : Option Decoder :=
  let d := decodeValue b
  match s.state with
  | 0 =>
    if 0 ≤ d then some { s with state := 1, value := d.toNat }
    else if d ≠ skip then none else some s
  | 1 =>
    if 0 ≤ d then some { s with state := 2, value := s.value <<< 6 ||| d.toNat }
    else if d ≠ skip then none else some s
  | 2 =>
    if 0 ≤ d then some { s with state := 3, value := s.value <<< 6 ||| d.toNat }
    else if d = equals then
      some { s with state := 4, output := s.output ++ [BitVec.ofNat 8 (s.value >>> 4)] }
    else if d ≠ skip then none else some s
  | 3 =>
    if 0 ≤ d then
      let value := s.value <<< 6 ||| d.toNat
      some ⟨0, value, s.output ++ [BitVec.ofNat 8 (value >>> 16), BitVec.ofNat 8 (value >>> 8),
        BitVec.ofNat 8 value]⟩
    else if d = equals then
      some { s with
        state := 5
        output := s.output ++ [BitVec.ofNat 8 (s.value >>> 10), BitVec.ofNat 8 (s.value >>> 2)] }
    else if d ≠ skip then none else some s
  | 4 =>
    if d = equals then some { s with state := 5 }
    else if d ≠ skip then none else some s
  | _ => if d ≠ skip then none else some s

/-- `process(input, 0, len, true)` up to its last byte, as a state machine: the loop over the
    input, one byte at a time, writing to an array with room for every byte. -/
def process (input : List Byte) : Option Decoder := input.foldlM step Decoder.init

/-- The end of `process` when `finish` is `true`: the bytes the last group still owes, or
    `false` in state 1 (one data byte alone) and state 4 (one `=` where two were expected). -/
def finish (s : Decoder) : Option (List Byte) :=
  match s.state with
  | 0 => some s.output
  | 1 => none
  | 2 => some (s.output ++ [BitVec.ofNat 8 (s.value >>> 4)])
  | 3 => some (s.output ++ [BitVec.ofNat 8 (s.value >>> 10), BitVec.ofNat 8 (s.value >>> 2)])
  | 4 => none
  | _ => some s.output

/-- `len * 3 / 4` in `int` arithmetic, the size of the array `decode` allocates: the product
    wraps at 32 bits, and the division rounds toward zero. -/
def allocSize (len : Nat) : BitVec 32 := (BitVec.ofNat 32 len * 3#32).sdiv 4#32

/-- What a stretch of `process` leaves, writing into `output`, an array of `size` bytes: `none`,
    the error state, is `process` returning `false`, for which `decode` throws
    `IllegalArgumentException("bad base-64")`; a state that has written past the array is an
    `ArrayIndexOutOfBoundsException`. -/
def within {α : Type} (size : Nat) (written : α → List Byte) : Option α → Except Throwable α
  | none => .error (.illegalArgument "bad base-64")
  | some a => if (written a).length ≤ size then .ok a else .error .arrayIndexOutOfBounds

/-- One iteration of the loop of `process`, writing into an array of `size` bytes. -/
def stepInto (size : Nat) (s : Decoder) (b : Byte) : Except Throwable Decoder :=
  within size Decoder.output (step s b)

/-- The loop of `process`, writing into an array of `size` bytes. -/
def processInto (size : Nat) (input : List Byte) : Except Throwable Decoder :=
  input.foldlM (stepInto size) Decoder.init

/-- `Base64.decode(input, flags)`: allocate `new byte[len * 3 / 4]`, run `process` into it,
    throw `IllegalArgumentException("bad base-64")` if it returns `false`, and otherwise return
    the `op` bytes written. -/
def decode (input : List Byte) : Except Throwable (List Byte) := do
  let output ← JByteArray.ofSize (allocSize input.length)
  let s ← processInto output.data.length input
  within output.data.length id (finish s)

/-! ## Section 2: What one byte does -/

/-- `(value << 6) | d` for a six-bit `d` is `value * 64 + d`. -/
theorem shiftLeft_or (v d : Nat) (hd : d < 64) : v <<< 6 ||| d = v * 64 + d := by
  rw [Nat.shiftLeft_eq, Nat.mul_comm, ← Nat.mul_add_lt_is_or hd]

theorem decodeValue_lt (b : Byte) : decodeValue b < 64 := by
  unfold decodeValue equals skip
  repeat' split
  all_goals omega

/-- A skipped byte changes nothing, in every state. -/
theorem step_of_skip {b : Byte} (h : decodeValue b = skip) (s : Decoder) : step s b = some s := by
  simp only [step, h, skip, equals]
  split <;> simp

/-- Everything one byte can do: be skipped; add a data byte to the group, which completes it in
    state 3; or be a padding `=`, in state 2 (one byte owed), 3 (two bytes owed) or 4. -/
theorem step_eq_some {s s' : Decoder} {b : Byte} (h : step s b = some s') :
    (decodeValue b = skip ∧ s' = s) ∨
    (0 ≤ decodeValue b ∧ s.state = 0 ∧ s' = ⟨1, (decodeValue b).toNat, s.output⟩) ∨
    (0 ≤ decodeValue b ∧ (s.state = 1 ∨ s.state = 2) ∧
      s' = ⟨s.state + 1, s.value * 64 + (decodeValue b).toNat, s.output⟩) ∨
    (0 ≤ decodeValue b ∧ s.state = 3 ∧
      s' = ⟨0, s.value * 64 + (decodeValue b).toNat, s.output ++
        [BitVec.ofNat 8 ((s.value * 64 + (decodeValue b).toNat) / 65536),
          BitVec.ofNat 8 ((s.value * 64 + (decodeValue b).toNat) / 256),
          BitVec.ofNat 8 (s.value * 64 + (decodeValue b).toNat)]⟩) ∨
    (decodeValue b = equals ∧ s.state = 2 ∧
      s' = ⟨4, s.value, s.output ++ [BitVec.ofNat 8 (s.value / 16)]⟩) ∨
    (decodeValue b = equals ∧ s.state = 3 ∧
      s' = ⟨5, s.value, s.output ++ [BitVec.ofNat 8 (s.value / 1024),
        BitVec.ofNat 8 (s.value / 4)]⟩) ∨
    (decodeValue b = equals ∧ s.state = 4 ∧ s' = ⟨5, s.value, s.output⟩) := by
  have hor := shiftLeft_or s.value (decodeValue b).toNat (by have := decodeValue_lt b; omega)
  simp only [step] at h
  split at h <;> rename_i hs <;> split_ifs at h <;> cases h
  · exact .inr (.inl ⟨‹_›, hs, rfl⟩)
  · exact .inl ⟨not_not.mp ‹_›, rfl⟩
  · exact .inr (.inr (.inl ⟨‹_›, .inl hs, by rw [hs, hor]⟩))
  · exact .inl ⟨not_not.mp ‹_›, rfl⟩
  · exact .inr (.inr (.inl ⟨‹_›, .inr hs, by rw [hs, hor]⟩))
  · exact .inr (.inr (.inr (.inr (.inl ⟨‹_›, hs, by simp [Nat.shiftRight_eq_div_pow]⟩))))
  · exact .inl ⟨by simp_all, rfl⟩
  · exact .inr (.inr (.inr (.inl ⟨‹_›, hs, by simp [hor, Nat.shiftRight_eq_div_pow]⟩)))
  · exact .inr (.inr (.inr (.inr (.inr (.inl
      ⟨‹_›, hs, by simp [Nat.shiftRight_eq_div_pow]⟩)))))
  · exact .inl ⟨by simp_all, rfl⟩
  · exact .inr (.inr (.inr (.inr (.inr (.inr ⟨‹_›, hs, rfl⟩)))))
  · exact .inl ⟨not_not.mp ‹_›, rfl⟩
  · exact .inl ⟨not_not.mp ‹_›, rfl⟩

/-! The steps from each state, on a data byte of value `n` and on `=`. -/

theorem step_data_zero {b : Byte} {n : Nat} (v : Nat) (out : List Byte)
    (hb : decodeValue b = n) : step ⟨0, v, out⟩ b = some ⟨1, n, out⟩ := by
  simp [step, hb]

theorem step_data_one {b : Byte} {n : Nat} (v : Nat) (out : List Byte)
    (hb : decodeValue b = n) (hn : n < 64) :
    step ⟨1, v, out⟩ b = some ⟨2, v * 64 + n, out⟩ := by
  simp [step, hb, shiftLeft_or _ _ hn]

theorem step_data_two {b : Byte} {n : Nat} (v : Nat) (out : List Byte)
    (hb : decodeValue b = n) (hn : n < 64) :
    step ⟨2, v, out⟩ b = some ⟨3, v * 64 + n, out⟩ := by
  simp [step, hb, shiftLeft_or _ _ hn]

theorem step_data_three {b : Byte} {n : Nat} (v : Nat) (out : List Byte)
    (hb : decodeValue b = n) (hn : n < 64) :
    step ⟨3, v, out⟩ b = some ⟨0, v * 64 + n, out ++
      [BitVec.ofNat 8 ((v * 64 + n) / 65536), BitVec.ofNat 8 ((v * 64 + n) / 256),
        BitVec.ofNat 8 (v * 64 + n)]⟩ := by
  simp [step, hb, shiftLeft_or _ _ hn, Nat.shiftRight_eq_div_pow]

theorem step_equals_two {b : Byte} (v : Nat) (out : List Byte) (hb : decodeValue b = equals) :
    step ⟨2, v, out⟩ b = some ⟨4, v, out ++ [BitVec.ofNat 8 (v / 16)]⟩ := by
  simp [step, hb, equals, Nat.shiftRight_eq_div_pow]

theorem step_equals_three {b : Byte} (v : Nat) (out : List Byte) (hb : decodeValue b = equals) :
    step ⟨3, v, out⟩ b =
      some ⟨5, v, out ++ [BitVec.ofNat 8 (v / 1024), BitVec.ofNat 8 (v / 4)]⟩ := by
  simp [step, hb, equals, Nat.shiftRight_eq_div_pow]

theorem step_equals_four {b : Byte} (v : Nat) (out : List Byte) (hb : decodeValue b = equals) :
    step ⟨4, v, out⟩ b = some ⟨5, v, out⟩ := by
  simp [step, hb]

theorem finish_two (v : Nat) (out : List Byte) :
    finish ⟨2, v, out⟩ = some (out ++ [BitVec.ofNat 8 (v / 16)]) := by
  simp [finish, Nat.shiftRight_eq_div_pow]

theorem finish_five (v : Nat) (out : List Byte) : finish ⟨5, v, out⟩ = some out := rfl

theorem finish_three (v : Nat) (out : List Byte) :
    finish ⟨3, v, out⟩ = some (out ++ [BitVec.ofNat 8 (v / 1024), BitVec.ofNat 8 (v / 4)]) := by
  simp [finish, Nat.shiftRight_eq_div_pow]

/-! ## Section 3: Along every input -/

/-- A property every byte keeps holds at the end of every run. -/
theorem foldlM_step_invariant (P : Decoder → Prop)
    (hstep : ∀ s b s', P s → step s b = some s' → P s') :
    ∀ (input : List Byte) (s s' : Decoder), P s → input.foldlM step s = some s' → P s'
  | [], _, _, hs, h => by cases h; exact hs
  | b :: bs, s, s', hs, h => by
    obtain ⟨s1, h1, h2⟩ := Option.bind_eq_some.mp h
    exact foldlM_step_invariant P hstep bs s1 s' (hstep s b s1 hs h1) h2

/-- What `process` keeps of `value`: 24 bits at most, and `6 * state` bits in states 1 to 3. -/
def ValueBound (s : Decoder) : Prop :=
  s.value < 2 ^ 24 ∧ (s.state = 1 → s.value < 2 ^ 6) ∧ (s.state = 2 → s.value < 2 ^ 12) ∧
    (s.state = 3 → s.value < 2 ^ 18)

theorem valueBound_step {s s' : Decoder} {b : Byte} (hs : ValueBound s)
    (h : step s b = some s') : ValueBound s' := by
  have := decodeValue_lt b
  obtain ⟨h24, h1, h2, h3⟩ := hs
  rcases step_eq_some h with ⟨-, rfl⟩ | ⟨-, -, rfl⟩ | ⟨-, hs, rfl⟩ | ⟨-, hs, rfl⟩ |
    ⟨-, -, rfl⟩ |
    ⟨-, -, rfl⟩ | ⟨-, -, rfl⟩ <;> simp only [ValueBound] <;> omega

/-- Along every input the accumulator holds at most `6 * state` bits in states 1 to 3, where
    `value << 6` is taken, and 24 bits in the others: the `int` never overflows. -/
theorem value_lt_of_process {input : List Byte} {s : Decoder} (h : process input = some s) :
    ValueBound s :=
  foldlM_step_invariant ValueBound (fun _ _ _ => valueBound_step) input _ _
    (by simp [ValueBound, Decoder.init]) h

/-- The bytes a group in progress may still write, counted as three quarters of a byte for each
    character read. -/
def weight (s : Decoder) : Nat := if s.state ≤ 3 then 3 * s.state else 0

theorem potential_step {s s' : Decoder} {b : Byte} (h : step s b = some s') :
    4 * s'.output.length + weight s' ≤ 4 * s.output.length + weight s + 3 := by
  rcases step_eq_some h with ⟨-, rfl⟩ | ⟨-, hs, rfl⟩ | ⟨-, hs, rfl⟩ | ⟨-, hs, rfl⟩ |
    ⟨-, hs, rfl⟩ | ⟨-, hs, rfl⟩ | ⟨-, hs, rfl⟩ <;>
    simp only [weight, List.length_append, List.length_cons, List.length_nil] <;>
    split_ifs <;> omega

theorem potential_foldlM :
    ∀ (input : List Byte) (s s' : Decoder), input.foldlM step s = some s' →
      4 * s'.output.length + weight s' ≤ 4 * s.output.length + weight s + 3 * input.length
  | [], _, _, h => by cases h; omega
  | b :: bs, s, s', h => by
    obtain ⟨s1, h1, h2⟩ := Option.bind_eq_some.mp h
    have := potential_step h1
    have := potential_foldlM bs s1 s' h2
    simp only [List.length_cons]
    omega

theorem length_finish {s : Decoder} {out : List Byte} (h : finish s = some out) :
    4 * out.length ≤ 4 * s.output.length + weight s := by
  unfold finish at h
  split at h <;> rename_i hs <;> cases h <;>
    simp only [weight, hs, List.length_append, List.length_cons, List.length_nil] <;>
    split_ifs <;> omega

/-- After any prefix of an input of `len` bytes, also one it goes on to reject, the decoder has
    written at most `len * 3 / 4` bytes, and so it has once the last group is flushed. -/
theorem length_output_le_of_take (input : List Byte) (k : Nat) {s : Decoder}
    (hs : (input.take k).foldlM step Decoder.init = some s) :
    s.output.length ≤ input.length * 3 / 4 := by
  have := potential_foldlM _ _ _ hs
  have := List.length_take_le' k input
  have h0 : 4 * Decoder.init.output.length + weight Decoder.init = 0 := rfl
  omega

theorem length_le_of_process {input out : List Byte}
    (h : (process input).bind finish = some out) : out.length ≤ input.length * 3 / 4 := by
  obtain ⟨s, hs, hf⟩ := Option.bind_eq_some.mp h
  have := potential_foldlM input _ _ hs
  have := length_finish hf
  have h0 : 4 * Decoder.init.output.length + weight Decoder.init = 0 := rfl
  omega

/-! ## Section 4: The array `decode` writes into

    `new byte[len * 3 / 4]` is computed in `int` arithmetic, so the size is `len * 3 / 4` only
    below 715,827,883 input bytes; up to 1,431,655,764 it is negative, and beyond it wraps to a
    small array. -/

theorem toNat_mul_three (len : Nat) : (BitVec.ofNat 32 len * 3#32).toNat = len * 3 % 2 ^ 32 := by
  rw [BitVec.toNat_mul, BitVec.toNat_ofNat, BitVec.toNat_ofNat, Nat.mod_mul_mod]

/-- The size as an `int`: `len * 3` as the `int` it wraps to, divided by 4 toward zero. -/
theorem toInt_allocSize (len : Nat) : (allocSize len).toInt =
    if len * 3 % 2 ^ 32 < 2 ^ 31 then ((len * 3 % 2 ^ 32 / 4 : Nat) : Int)
    else -(((2 ^ 32 - len * 3 % 2 ^ 32) / 4 : Nat) : Int) := by
  have h4 : (4#32).msb = false := by decide
  have hnat : (allocSize len).toNat =
      if len * 3 % 2 ^ 32 < 2 ^ 31 then len * 3 % 2 ^ 32 / 4
      else (2 ^ 32 - (2 ^ 32 - len * 3 % 2 ^ 32) / 4) % 2 ^ 32 := by
    rw [allocSize, BitVec.toNat_sdiv, h4]
    cases hmsb : (BitVec.ofNat 32 len * 3#32).msb
    · rw [BitVec.msb_eq_false_iff_two_mul_lt, toNat_mul_three] at hmsb
      simp only [BitVec.udiv_eq, BitVec.toNat_udiv, toNat_mul_three]
      rw [if_pos (by omega)]
      rfl
    · rw [BitVec.msb_eq_true_iff_two_mul_ge, toNat_mul_three] at hmsb
      simp only [BitVec.udiv_eq, BitVec.toNat_neg, BitVec.toNat_udiv, toNat_mul_three]
      rw [if_neg (by omega), Nat.mod_eq_of_lt (by omega : 2 ^ 32 - len * 3 % 2 ^ 32 < 2 ^ 32)]
      rfl
  rw [BitVec.toInt_eq_toNat_cond, hnat]
  split <;> split <;> omega

theorem allocSize_of_lt {len : Nat} (h : len < 715827883) :
    ¬(allocSize len).toInt < 0 ∧ (allocSize len).toNat = len * 3 / 4 := by
  have h1 := toInt_allocSize len
  have h2 := BitVec.toInt_eq_toNat_cond (allocSize len)
  rw [Nat.mod_eq_of_lt (by omega : len * 3 < 2 ^ 32), if_pos (by omega : len * 3 < 2 ^ 31)] at h1
  split at h2 <;> omega

theorem allocSize_neg {len : Nat} (h₁ : 715827883 ≤ len) (h₂ : len ≤ 1431655764) :
    (allocSize len).toInt < 0 := by
  have h1 := toInt_allocSize len
  rw [Nat.mod_eq_of_lt (by omega : len * 3 < 2 ^ 32), if_neg (by omega)] at h1
  omega

theorem allocSize_of_ge {len : Nat} (h₁ : 1431655765 ≤ len) (h₂ : len < 2 ^ 31) :
    ¬(allocSize len).toInt < 0 ∧ (allocSize len).toNat = (len * 3 - 2 ^ 32) / 4 := by
  have h1 := toInt_allocSize len
  have h2 := BitVec.toInt_eq_toNat_cond (allocSize len)
  have := (allocSize len).isLt
  by_cases hl : len * 3 < 2 ^ 32
  · rw [Nat.mod_eq_of_lt hl, if_neg (by omega)] at h1
    split at h2 <;> omega
  · have hm : len * 3 % 2 ^ 32 = len * 3 - 2 ^ 32 := by
      rw [Nat.mod_eq_sub_mod (by omega), Nat.mod_eq_of_lt (by omega)]
    rw [hm, if_pos (by omega)] at h1
    split at h2 <;> omega

/-- A nonnegative `int` divided by 4 is at most `(2^31 - 1) / 4`. -/
theorem toNat_allocSize_le {len : Nat} (h : ¬(allocSize len).toInt < 0) :
    (allocSize len).toNat ≤ 536870911 := by
  have h1 := toInt_allocSize len
  have h2 := BitVec.toInt_eq_toNat_cond (allocSize len)
  have hm := Nat.mod_lt (len * 3) (by decide : 2 ^ 32 > 0)
  generalize len * 3 % 2 ^ 32 = m at h1 hm
  split at h1 <;> split at h2 <;> omega

theorem within_eq_ok {α : Type} {size : Nat} {written : α → List Byte} {o : Option α}
    {a : α} :
    within size written o = .ok a ↔ o = some a ∧ (written a).length ≤ size := by
  cases o with
  | none => simp [within]
  | some a' =>
    by_cases h : (written a').length ≤ size
    · simp only [within, if_pos h, Except.ok.injEq, Option.some.injEq]
      exact ⟨fun e => ⟨e, e ▸ h⟩, fun e => e.1⟩
    · simp only [within, if_neg h, Option.some.injEq]
      exact ⟨(fun e => nomatch e), fun e => absurd (e.1 ▸ e.2) h⟩

theorem length_output_le_step {s s' : Decoder} {b : Byte} (h : step s b = some s') :
    s.output.length ≤ s'.output.length := by
  rcases step_eq_some h with ⟨-, rfl⟩ | ⟨-, -, rfl⟩ | ⟨-, -, rfl⟩ | ⟨-, -, rfl⟩ |
    ⟨-, -, rfl⟩ | ⟨-, -, rfl⟩ | ⟨-, -, rfl⟩ <;> simp

theorem length_output_le_foldlM :
    ∀ (input : List Byte) {s s' : Decoder}, input.foldlM step s = some s' →
      s.output.length ≤ s'.output.length
  | [], _, _, h => by cases h; rfl
  | b :: bs, _, _, h => by
    obtain ⟨s1, h1, h2⟩ := Option.bind_eq_some.mp h
    exact (length_output_le_step h1).trans (length_output_le_foldlM bs h2)

theorem length_output_le_finish {s : Decoder} {out : List Byte} (h : finish s = some out) :
    s.output.length ≤ out.length := by
  unfold finish at h
  split at h <;> cases h <;> simp

/-- Where the state machine goes through, the loop into the array goes through as long as the
    bytes fit, and otherwise throws `ArrayIndexOutOfBoundsException`: the bytes written only
    grow, so the first write past the array comes before the end. -/
theorem foldlM_stepInto_of_some {size : Nat} :
    ∀ (input : List Byte) {s s' : Decoder}, s.output.length ≤ size →
      input.foldlM step s = some s' →
      input.foldlM (stepInto size) s =
        if s'.output.length ≤ size then .ok s' else .error .arrayIndexOutOfBounds
  | [], _, _, hs, h => by cases h; simp [hs]; rfl
  | b :: bs, s, s', _, h => by
    obtain ⟨s1, h1, h2⟩ := Option.bind_eq_some.mp h
    by_cases hs1 : s1.output.length ≤ size
    · have : stepInto size s b = .ok s1 := by simp [stepInto, within, h1, hs1]
      simp only [List.foldlM_cons, this]
      exact foldlM_stepInto_of_some bs hs1 h2
    · have hstep : stepInto size s b = .error .arrayIndexOutOfBounds := by
        simp [stepInto, within, h1, hs1]
      have := length_output_le_foldlM bs h2
      simp only [List.foldlM_cons, hstep, if_neg (by omega : ¬s'.output.length ≤ size)]
      rfl

/-- Where every prefix fits in the array, the loop into it is the state machine. -/
theorem foldlM_stepInto_of_bounded {size : Nat} :
    ∀ (input : List Byte) (s : Decoder),
      (∀ k s', (input.take k).foldlM step s = some s' → s'.output.length ≤ size) →
      input.foldlM (stepInto size) s = within size Decoder.output (input.foldlM step s)
  | [], s, hb => by simp [within, hb 0 s rfl]; rfl
  | b :: bs, s, hb => by
    cases h1 : step s b with
    | none => simp [stepInto, within, h1]; rfl
    | some s1 =>
      have hs1 : s1.output.length ≤ size := hb 1 s1 (by simp [h1])
      have : stepInto size s b = .ok s1 := by simp [stepInto, within, h1, hs1]
      simp only [List.foldlM_cons, this, h1, Option.bind_eq_bind, Option.some_bind]
      exact foldlM_stepInto_of_bounded bs s1 fun k s' hk =>
        hb (k + 1) s' (by simpa [h1] using hk)

theorem foldlM_stepInto_eq_ok {size : Nat} :
    ∀ (input : List Byte) {s s' : Decoder}, input.foldlM (stepInto size) s = .ok s' →
      input.foldlM step s = some s'
  | [], _, _, h => by cases h; rfl
  | b :: bs, s, s', h => by
    cases h1 : stepInto size s b with
    | error e => simp [h1] at h; cases h
    | ok s1 =>
      simp only [List.foldlM_cons, h1] at h
      simp [(within_eq_ok.1 h1).1, foldlM_stepInto_eq_ok bs h]

theorem decode_of_nonneg {input : List Byte} (h : ¬(allocSize input.length).toInt < 0) :
    decode input = (processInto (allocSize input.length).toNat input).bind
      fun s => within (allocSize input.length).toNat id (finish s) := by
  simp [decode, JByteArray.ofSize, h, bind, Except.bind]

theorem decode_of_neg {input : List Byte} (h : (allocSize input.length).toInt < 0) :
    decode input = .error (.negativeArraySize (allocSize input.length).toInt) := by
  simp [decode, JByteArray.ofSize, h, bind, Except.bind]

/-- `decode` returns exactly when the allocation goes through, the state machine accepts the
    input, and its bytes fit in the array. -/
theorem decode_eq_ok_iff {input out : List Byte} :
    decode input = .ok out ↔ ¬(allocSize input.length).toInt < 0 ∧
      (process input).bind finish = some out ∧ out.length ≤ (allocSize input.length).toNat := by
  by_cases hneg : (allocSize input.length).toInt < 0
  · simp [decode_of_neg hneg, hneg]
  rw [decode_of_nonneg hneg]
  constructor
  · intro h
    cases hp : processInto (allocSize input.length).toNat input with
    | error e => simp [hp] at h; cases h
    | ok s =>
      simp only [hp] at h
      obtain ⟨hf, hlen⟩ := within_eq_ok.1 h
      exact ⟨hneg, by simp [process, foldlM_stepInto_eq_ok input hp, hf], hlen⟩
  · rintro ⟨-, h, hlen⟩
    obtain ⟨s, hs, hf⟩ := Option.bind_eq_some.mp h
    have hsl : s.output.length ≤ (allocSize input.length).toNat :=
      (length_output_le_finish hf).trans hlen
    have hp : processInto (allocSize input.length).toNat input = .ok s := by
      rw [processInto, foldlM_stepInto_of_some input (Nat.zero_le _) hs, if_pos hsl]
    simp [hp, within, hf, hlen, Except.bind]

/-- Below 715,827,883 input bytes the decoder never writes past the array it allocates:
    `decode` is the state machine alone. -/
theorem decode_of_lt {input : List Byte} (h : input.length < 715827883) :
    decode input = match (process input).bind finish with
      | some out => .ok out
      | none => .error (.illegalArgument "bad base-64") := by
  obtain ⟨hneg, hsize⟩ := allocSize_of_lt h
  rw [decode_of_nonneg hneg, hsize, processInto,
    foldlM_stepInto_of_bounded input _ fun k s hs => length_output_le_of_take input k hs]
  cases hp : process input with
  | none => simp [process] at hp; simp [within, hp]; rfl
  | some s =>
    have hs : s.output.length ≤ input.length * 3 / 4 := by
      simpa using length_output_le_of_take input input.length (by simpa [process] using hp)
    simp only [process] at hp
    have hle := @length_le_of_process input
    simp only [process, hp, Option.bind_eq_bind, Option.some_bind] at hle
    cases hf : finish s with
    | none => simp [within, hp, hs, hf, Except.bind]
    | some out => simp [within, hp, hs, hf, hle hf, Except.bind]

/-! ## Section 5: Only the alphabet and `=` are read -/

/-- The byte `String.getBytes()` writes for an ASCII character. -/
def asciiByte (c : Char16) : Byte := BitVec.ofNat 8 c.toNat

/-- A character the decoder reads: an ASCII character of the alphabet, or `=`. -/
def readsChar (c : Char16) : Bool := c.toNat < 0x80 && decodeValue (asciiByte c) != skip

/-- `getBytes()` of an ASCII string is one byte per character. -/
theorem encodeUtf8_of_ascii : ∀ (s : JString), (∀ c ∈ s, c.toNat < 0x80) →
    encodeUtf8 s = s.map asciiByte
  | [], _ => rfl
  | c :: s, h => by
    have hc := h c (List.mem_cons_self _ _)
    have hsur := Char16.isSurrogate_eq_false_of_lt (by omega : c.toNat < 0xD800)
    rw [encodeUtf8_cons_of_not_high c s (Char16.isHighSurrogate_eq_false hsur), encodeUnit,
      if_neg (by simp [hsur]), utf8Unit, if_pos hc,
      encodeUtf8_of_ascii s fun d hd => h d (List.mem_cons_of_mem _ hd)]
    rfl

theorem decodeValue_of_ge {b : Byte} (h : 128 ≤ b.toNat) : decodeValue b = skip := by
  unfold decodeValue
  repeat' split
  all_goals first | rfl | omega

theorem foldlM_filter : ∀ (input : List Byte) (s : Decoder),
    input.foldlM step s = (input.filter fun b => decodeValue b != skip).foldlM step s
  | [], _ => rfl
  | b :: bs, s => by
    by_cases hb : decodeValue b = skip
    · simp [List.filter_cons, hb, step_of_skip hb, foldlM_filter bs s]
    · simp [List.filter_cons, hb, foldlM_filter bs]

/-- The state machine reads only the alphabet bytes and `=`: all other bytes can be dropped. -/
theorem process_filter (input : List Byte) :
    process input = process (input.filter fun b => decodeValue b != skip) :=
  foldlM_filter input _

/-- Below 715,827,883 bytes, the decoder reads only the alphabet bytes and `=`: all other bytes
    can be dropped. -/
theorem decode_filter {input : List Byte} (h : input.length < 715827883) :
    decode input = decode (input.filter fun b => decodeValue b != skip) := by
  rw [decode_of_lt h, decode_of_lt (Nat.lt_of_le_of_lt (List.length_filter_le _ _) h),
    process_filter]

theorem decodeValue_ofNat_of_ge (n : Nat) (h1 : 128 ≤ n) (h2 : n < 256) :
    decodeValue (BitVec.ofNat 8 n) = skip :=
  decodeValue_of_ge (by rw [BitVec.toNat_ofNat, Nat.mod_eq_of_lt h2]; exact h1)

/-- The bytes of one code unit that the decoder reads: the unit itself if it is an ASCII
    character of the alphabet or `=`; the bytes of every other unit are at least `0x80`, or the
    `?` that replaces an unpaired surrogate, and are skipped. -/
theorem filter_encodeUnit (c : Char16) :
    (encodeUnit c).filter (fun b => decodeValue b != skip) =
      if readsChar c then [asciiByte c] else [] := by
  have := c.isLt
  by_cases hs : c.isSurrogate
  · have : 0xD800 ≤ c.toNat := by
      simp only [Char16.isSurrogate, Bool.and_eq_true, decide_eq_true_eq] at hs; omega
    rw [encodeUnit, if_pos hs, if_neg (by simp [readsChar]; omega)]
    rfl
  · rw [encodeUnit, if_neg hs, utf8Unit]
    by_cases hr : readsChar c
    · obtain ⟨h1, hv⟩ : c.toNat < 0x80 ∧ decodeValue (asciiByte c) ≠ skip := by
        simpa [readsChar] using hr
      rw [if_pos h1, if_pos hr]
      show [asciiByte c].filter _ = _
      simp [hv]
    · rw [if_neg hr]
      split_ifs with h1 h2
      · have hv : decodeValue (asciiByte c) = skip := by simpa [readsChar, h1] using hr
        show [asciiByte c].filter _ = _
        simp [hv]
      · simp only [List.filter_cons, List.filter_nil,
          decodeValue_ofNat_of_ge (192 + c.toNat / 64) (by omega) (by omega),
          decodeValue_ofNat_of_ge (128 + c.toNat % 64) (by omega) (by omega), bne_self_eq_false]
        rfl
      · simp only [List.filter_cons, List.filter_nil,
          decodeValue_ofNat_of_ge (224 + c.toNat / 4096) (by omega) (by omega),
          decodeValue_ofNat_of_ge (128 + c.toNat / 64 % 64) (by omega) (by omega),
          decodeValue_ofNat_of_ge (128 + c.toNat % 64) (by omega) (by omega), bne_self_eq_false]
        rfl

theorem filter_utf8Pair (hi lo : Char16) (hh : hi.isHighSurrogate) (hl : lo.isLowSurrogate) :
    (utf8Pair hi lo).filter (fun b => decodeValue b != skip) = [] := by
  simp only [Char16.isHighSurrogate, Char16.isLowSurrogate, Bool.and_eq_true,
    decide_eq_true_eq] at hh hl
  have : codePoint hi lo < 0x110000 := by unfold codePoint; omega
  simp only [utf8Pair, List.filter_cons, List.filter_nil,
    decodeValue_ofNat_of_ge (0xF0 + codePoint hi lo / 262144) (by omega) (by omega),
    decodeValue_ofNat_of_ge (0x80 + codePoint hi lo / 4096 % 64) (by omega) (by omega),
    decodeValue_ofNat_of_ge (0x80 + codePoint hi lo / 64 % 64) (by omega) (by omega),
    decodeValue_ofNat_of_ge (0x80 + codePoint hi lo % 64) (by omega) (by omega), bne_self_eq_false]
  rfl

theorem readsChar_of_isHighSurrogate {c : Char16} (h : c.isHighSurrogate) :
    readsChar c = false := by
  simp only [Char16.isHighSurrogate, Bool.and_eq_true, decide_eq_true_eq] at h
  simp [readsChar, show ¬c.toNat < 0x80 by omega]

theorem readsChar_of_isLowSurrogate {c : Char16} (h : c.isLowSurrogate) : readsChar c = false := by
  simp only [Char16.isLowSurrogate, Bool.and_eq_true, decide_eq_true_eq] at h
  simp [readsChar, show ¬c.toNat < 0x80 by omega]

/-- The bytes of a string that the decoder reads are its ASCII alphabet characters and `=`. -/
theorem filter_encodeUtf8 (s : JString) :
    (encodeUtf8 s).filter (fun b => decodeValue b != skip) =
      (s.filter readsChar).map asciiByte := by
  induction s using encodeUtf8.induct with
  | case1 => rfl
  | case2 c =>
    rw [encodeUtf8, filter_encodeUnit]
    by_cases h : readsChar c <;> simp [h]
  | case3 c d rest hp ih =>
    simp only [Bool.and_eq_true] at hp
    rw [encodeUtf8, if_pos (by simp [hp]), List.filter_append, filter_utf8Pair c d hp.1 hp.2, ih,
      List.filter_cons_of_neg (by simp [readsChar_of_isHighSurrogate hp.1]),
      List.filter_cons_of_neg (by simp [readsChar_of_isLowSurrogate hp.2])]
    rfl
  | case4 c d rest hp ih =>
    rw [encodeUtf8, if_neg hp, List.filter_append, filter_encodeUnit, ih]
    by_cases h : readsChar c <;> simp [h, List.filter_cons]

/-! ## Section 6: Decoding what `encodeBase64` wrote -/

theorem decodeValue_base64Char (i : Nat) (h : i < 64) :
    decodeValue (asciiByte (base64Char i)) = i :=
  (by decide : ∀ i < 64, decodeValue (asciiByte (base64Char i)) = i) i h

theorem decodeValue_pad : decodeValue (asciiByte base64Pad) = equals := by decide

theorem ofNat_group (a b c : Byte) :
    [BitVec.ofNat 8 ((a.toNat * 65536 + b.toNat * 256 + c.toNat) / 65536),
      BitVec.ofNat 8 ((a.toNat * 65536 + b.toNat * 256 + c.toNat) / 256),
      BitVec.ofNat 8 (a.toNat * 65536 + b.toNat * 256 + c.toNat)] = [a, b, c] := by
  have := a.isLt; have := b.isLt; have := c.isLt
  simp only [List.cons.injEq, and_true]
  refine ⟨?_, ?_, ?_⟩ <;> apply BitVec.eq_of_toNat_eq <;> simp only [BitVec.toNat_ofNat] <;>
    omega

theorem base64Char_bne_pad (i : Nat) (h : i < 64) : (base64Char i != base64Pad) = true := by
  simpa using base64Char_ne_pad i h

/-- Four characters for each group of three bytes, a last short group padded to four. -/
theorem length_encodeBase64 (bs : List Byte) :
    (encodeBase64 bs).length = 4 * ((bs.length + 2) / 3) := by
  induction bs using encodeBase64.induct with
  | case1 a b c rest ih => simp only [encodeBase64, List.length_append, ih]; simp; omega
  | case2 a b => simp [encodeBase64]
  | case3 a => simp [encodeBase64]
  | case4 => rfl

/-- Four characters of a full group, from state 0, give back its three bytes. -/
theorem foldlM_group (a b c : Byte) (v : Nat) (out : List Byte) :
    ([base64Char (a.toNat / 4), base64Char (a.toNat % 4 * 16 + b.toNat / 16),
        base64Char (b.toNat % 16 * 4 + c.toNat / 64), base64Char (c.toNat % 64)].map
        asciiByte).foldlM step ⟨0, v, out⟩ =
      some ⟨0, a.toNat * 65536 + b.toNat * 256 + c.toNat, out ++ [a, b, c]⟩ := by
  have := a.isLt; have := b.isLt; have := c.isLt
  simp only [List.map_cons, List.map_nil, List.foldlM_cons, List.foldlM_nil,
    step_data_zero _ _ (decodeValue_base64Char (a.toNat / 4) (by omega)),
    step_data_one _ _ (decodeValue_base64Char (a.toNat % 4 * 16 + b.toNat / 16) (by omega))
      (by omega),
    step_data_two _ _ (decodeValue_base64Char (b.toNat % 16 * 4 + c.toNat / 64) (by omega))
      (by omega),
    step_data_three _ _ (decodeValue_base64Char (c.toNat % 64) (by omega)) (by omega),
    Option.bind_eq_bind, Option.some_bind]
  have hv : ((a.toNat / 4 * 64 + (a.toNat % 4 * 16 + b.toNat / 16)) * 64 +
      (b.toNat % 16 * 4 + c.toNat / 64)) * 64 + c.toNat % 64 =
      a.toNat * 65536 + b.toNat * 256 + c.toNat := by omega
  rw [hv, ofNat_group]
  rfl

/-- From state 0, the characters of `encodeBase64 bs`, with or without the padding, decode to
    `bs`. -/
theorem foldlM_encodeBase64 (bs : List Byte) : ∀ (v : Nat) (out : List Byte),
    (((encodeBase64 bs).map asciiByte).foldlM step ⟨0, v, out⟩).bind finish =
      some (out ++ bs) ∧
    ((((encodeBase64 bs).filter (· != base64Pad)).map asciiByte).foldlM step ⟨0, v, out⟩).bind
      finish = some (out ++ bs) := by
  induction bs using encodeBase64.induct with
  | case1 a b c rest ih =>
    intro v out
    have := a.isLt; have := b.isLt; have := c.isLt
    rw [encodeBase64, List.filter_append]
    simp only [List.filter_cons, List.filter_nil, base64Char_bne_pad (a.toNat / 4) (by omega),
      base64Char_bne_pad (a.toNat % 4 * 16 + b.toNat / 16) (by omega),
      base64Char_bne_pad (b.toNat % 16 * 4 + c.toNat / 64) (by omega),
      base64Char_bne_pad (c.toNat % 64) (by omega), if_true, List.map_append,
      List.foldlM_append, foldlM_group, Option.bind_eq_bind, Option.some_bind]
    simpa using ih _ (out ++ [a, b, c])
  | case2 a b =>
    intro v out
    have := a.isLt; have := b.isLt
    have hv : (a.toNat / 4 * 64 + (a.toNat % 4 * 16 + b.toNat / 16)) * 64 + b.toNat % 16 * 4 =
        a.toNat * 1024 + b.toNat * 4 := by omega
    have hab : [BitVec.ofNat 8 ((a.toNat * 1024 + b.toNat * 4) / 1024),
        BitVec.ofNat 8 ((a.toNat * 1024 + b.toNat * 4) / 4)] = [a, b] := by
      simp only [List.cons.injEq, and_true]
      constructor <;> apply BitVec.eq_of_toNat_eq <;> simp only [BitVec.toNat_ofNat] <;> omega
    simp only [encodeBase64, List.filter_cons, List.filter_nil,
      base64Char_bne_pad (a.toNat / 4) (by omega),
      base64Char_bne_pad (a.toNat % 4 * 16 + b.toNat / 16) (by omega),
      base64Char_bne_pad (b.toNat % 16 * 4) (by omega), bne_self_eq_false, if_true,
      Bool.false_eq_true, if_false, List.map_cons, List.map_nil, List.foldlM_cons,
      List.foldlM_nil, step_data_zero _ _ (decodeValue_base64Char (a.toNat / 4) (by omega)),
      step_data_one _ _ (decodeValue_base64Char (a.toNat % 4 * 16 + b.toNat / 16) (by omega))
        (by omega),
      step_data_two _ _ (decodeValue_base64Char (b.toNat % 16 * 4) (by omega)) (by omega),
      step_equals_three _ _ decodeValue_pad, finish_three, finish_five, Option.pure_def,
      Option.bind_eq_bind, Option.some_bind, hv, List.append_assoc, hab, and_self]
  | case3 a =>
    intro v out
    have := a.isLt
    have ha : [BitVec.ofNat 8 ((a.toNat / 4 * 64 + a.toNat % 4 * 16) / 16)] = [a] := by
      simp only [List.cons.injEq, and_true]
      apply BitVec.eq_of_toNat_eq; simp only [BitVec.toNat_ofNat]; omega
    simp only [encodeBase64, List.filter_cons, List.filter_nil,
      base64Char_bne_pad (a.toNat / 4) (by omega), base64Char_bne_pad (a.toNat % 4 * 16) (by omega),
      bne_self_eq_false, if_true, Bool.false_eq_true, if_false, List.map_cons, List.map_nil,
      List.foldlM_cons, List.foldlM_nil,
      step_data_zero _ _ (decodeValue_base64Char (a.toNat / 4) (by omega)),
      step_data_one _ _ (decodeValue_base64Char (a.toNat % 4 * 16) (by omega)) (by omega),
      step_equals_two _ _ decodeValue_pad, step_equals_four _ _ decodeValue_pad, finish_two,
      finish_five, Option.pure_def, Option.bind_eq_bind, Option.some_bind, ha, and_self]
  | case4 => exact fun _ _ => ⟨by simp [encodeBase64, finish], by simp [encodeBase64, finish]⟩

/-- A property of `=` and of every alphabet character holds of every character of a Base64
    text. -/
theorem forall_mem_encodeBase64 (P : Char16 → Prop) (hpad : P base64Pad)
    (hchar : ∀ i < 64, P (base64Char i)) (bs : List Byte) : ∀ c ∈ encodeBase64 bs, P c := by
  induction bs using encodeBase64.induct with
  | case1 a b c rest ih =>
    have := a.isLt; have := b.isLt; have := c.isLt
    simp only [encodeBase64, List.forall_mem_append, List.forall_mem_cons, List.not_mem_nil,
      false_imp_iff, implies_true, and_true]
    exact ⟨⟨hchar _ (by omega), hchar _ (by omega), hchar _ (by omega), hchar _ (by omega)⟩,
      ih⟩
  | case2 a b =>
    have := a.isLt; have := b.isLt
    simp only [encodeBase64, List.forall_mem_cons, List.not_mem_nil, false_imp_iff,
      implies_true, and_true]
    exact ⟨hchar _ (by omega), hchar _ (by omega), hchar _ (by omega), hpad⟩
  | case3 a =>
    have := a.isLt
    simp only [encodeBase64, List.forall_mem_cons, List.not_mem_nil, false_imp_iff,
      implies_true, and_true]
    exact ⟨hchar _ (by omega), hchar _ (by omega), hpad, hpad⟩
  | case4 => simp [encodeBase64]

/-- The decoder reads every character `encodeBase64` writes. -/
theorem readsChar_of_mem_encodeBase64 (bs : List Byte) :
    ∀ c ∈ encodeBase64 bs, readsChar c = true :=
  forall_mem_encodeBase64 _ (by decide) (fun i hi => by interval_cases i <;> decide) bs

/-! ## Section 7: The inputs the decoder accepts -/

/-- The byte `=`, the one byte `DECODE` maps to `EQUALS`. -/
def padByte : Byte := 0x3D#8

/-- A byte is data, `=`, or skipped. -/
theorem decodeValue_cases (b : Byte) :
    0 ≤ decodeValue b ∨ decodeValue b = equals ∨ decodeValue b = skip := by
  unfold decodeValue equals skip
  repeat' split
  all_goals omega

theorem decodeValue_eq_equals_iff (b : Byte) : decodeValue b = equals ↔ b = padByte := by
  constructor
  · intro h
    apply BitVec.eq_of_toNat_eq
    unfold decodeValue equals skip at h
    repeat' split at h
    all_goals simp only [padByte, BitVec.toNat_ofNat]; omega
  · rintro rfl
    decide

/-- From states 0 to 3 a data byte moves to the next state modulo 4, and in state 3 writes the
    group's three bytes. -/
theorem step_data {s : Decoder} {b : Byte} (hs : s.state < 4) (hb : 0 ≤ decodeValue b) :
    ∃ s', step s b = some s' ∧ s'.state = (s.state + 1) % 4 ∧
      s'.output.length = s.output.length + if s.state = 3 then 3 else 0 := by
  obtain ⟨k, v, out⟩ := s
  simp only at hs ⊢
  interval_cases k <;> simp [step, hb]

/-- A run of data bytes from states 0 to 3 always goes through, moves as many states on modulo
    4, and writes three bytes for each group it completes. -/
theorem foldlM_data (ds : List Byte) (hds : ∀ b ∈ ds, 0 ≤ decodeValue b) :
    ∀ s : Decoder, s.state < 4 → ∃ s', ds.foldlM step s = some s' ∧
      s'.state = (s.state + ds.length) % 4 ∧
      s'.output.length = s.output.length + 3 * ((s.state + ds.length) / 4) := by
  induction ds with
  | nil =>
    exact fun s hs => ⟨s, rfl, by simp [Nat.mod_eq_of_lt hs], by simp [Nat.div_eq_of_lt hs]⟩
  | cons b ds ih =>
    intro s hs
    obtain ⟨s1, h1, hst1, hout1⟩ := step_data hs (hds b (List.mem_cons_self _ _))
    obtain ⟨s2, h2, hst2, hout2⟩ :=
      ih (fun c hc => hds c (List.mem_cons_of_mem _ hc)) s1 (by omega)
    refine ⟨s2, by simp [h1, h2], ?_, ?_⟩ <;> simp only [List.length_cons] <;>
      split_ifs at hout1 <;> omega

theorem decodeValue_padByte : decodeValue padByte = equals := by decide

theorem step_five {b : Byte} (hb : decodeValue b ≠ skip) (v : Nat) (out : List Byte) :
    step ⟨5, v, out⟩ b = none := by
  simp [step, hb]

/-- Once the padding is complete, every byte read is an error. -/
theorem foldlM_five {r : List Byte} (hr : ∀ b ∈ r, decodeValue b ≠ skip) {v : Nat}
    {out : List Byte} {s : Decoder} (h : r.foldlM step ⟨5, v, out⟩ = some s) :
    r = [] ∧ s = ⟨5, v, out⟩ := by
  rcases r with _ | ⟨b, r⟩
  · exact ⟨rfl, (Option.some.inj h).symm⟩
  · simp [step_five (hr b (List.mem_cons_self _ _))] at h

/-- After one `=` where two are owed, only a second `=` is accepted. -/
theorem foldlM_four {r : List Byte} (hr : ∀ b ∈ r, decodeValue b ≠ skip) {v : Nat}
    {out out' : List Byte} (h : (r.foldlM step ⟨4, v, out⟩).bind finish = some out') :
    r = [padByte] ∧ out' = out := by
  rcases r with _ | ⟨c, r⟩
  · simp [finish] at h
  · have hc := hr c (List.mem_cons_self _ _)
    rcases decodeValue_cases c with hd | he | hs
    · simp [step, show decodeValue c ≠ equals by simp only [equals]; omega, hc] at h
    · rw [List.foldlM_cons, step_equals_four _ _ he, Option.bind_eq_bind, Option.some_bind] at h
      obtain ⟨s, h1, h2⟩ := Option.bind_eq_some.mp h
      obtain ⟨rfl, rfl⟩ := foldlM_five (fun b hb => hr b (List.mem_cons_of_mem _ hb)) h1
      exact ⟨by rw [(decodeValue_eq_equals_iff c).1 he], (Option.some.inj h2).symm⟩
    · exact absurd hs hc

/-- What may follow a run of data bytes, whose first byte is not data: nothing, except after
    one data byte of a group; `==` after two; `=` after three. The end writes `state * 3 / 4`
    more bytes. -/
theorem finish_tail {s : Decoder} {pad out : List Byte} (hs : s.state < 4)
    (hpad : ∀ b ∈ pad, decodeValue b ≠ skip)
    (hhead : ∀ b ∈ pad.head?, decodeValue b = equals)
    (h : (pad.foldlM step s).bind finish = some out) :
    (pad = [] ∧ s.state ≠ 1 ∨ pad = [padByte, padByte] ∧ s.state = 2 ∨
      pad = [padByte] ∧ s.state = 3) ∧ out.length = s.output.length + s.state * 3 / 4 := by
  obtain ⟨k, v, o⟩ := s
  simp only at hs ⊢
  rcases pad with _ | ⟨b, r⟩
  · interval_cases k <;> simp [finish] at h <;> subst h <;> simp
  · obtain rfl := (decodeValue_eq_equals_iff b).1 (hhead b rfl)
    have hr : ∀ c ∈ r, decodeValue c ≠ skip := fun c hc => hpad c (List.mem_cons_of_mem _ hc)
    interval_cases k
    · simp [step, decodeValue_padByte, equals, skip] at h
    · simp [step, decodeValue_padByte, equals, skip] at h
    · rw [List.foldlM_cons, step_equals_two _ _ decodeValue_padByte, Option.bind_eq_bind,
        Option.some_bind] at h
      obtain ⟨rfl, rfl⟩ := foldlM_four hr h
      simp
    · rw [List.foldlM_cons, step_equals_three _ _ decodeValue_padByte, Option.bind_eq_bind,
        Option.some_bind] at h
      obtain ⟨s, h1, h2⟩ := Option.bind_eq_some.mp h
      obtain ⟨rfl, rfl⟩ := foldlM_five hr h1
      cases h2
      simp

/-- A data byte: one of the 64 characters of the alphabet. -/
def isData (b : Byte) : Bool := 0 ≤ decodeValue b

/-- The inputs `decode` accepts once the skipped bytes are dropped: a run of data bytes whose
    length is not 1 modulo 4, followed by nothing, by `==` when the length is 2 modulo 4, or by
    `=` when it is 3 modulo 4. -/
def Accepted (t : List Byte) : Prop :=
  ∃ ds pad, t = ds ++ pad ∧ (∀ b ∈ ds, isData b) ∧
    (pad = [] ∧ ds.length % 4 ≠ 1 ∨ pad = [padByte, padByte] ∧ ds.length % 4 = 2 ∨
      pad = [padByte] ∧ ds.length % 4 = 3)

/-- A run over bytes that are all read, and that ends well, splits at its first byte that is
    not data into an accepted shape; it writes `n * 3 / 4` bytes for its `n` leading data
    bytes. -/
theorem process_split {t out : List Byte} (ht : ∀ b ∈ t, decodeValue b ≠ skip)
    (h : (process t).bind finish = some out) :
    (t.dropWhile isData = [] ∧ (t.takeWhile isData).length % 4 ≠ 1 ∨
      t.dropWhile isData = [padByte, padByte] ∧ (t.takeWhile isData).length % 4 = 2 ∨
      t.dropWhile isData = [padByte] ∧ (t.takeWhile isData).length % 4 = 3) ∧
    out.length = (t.takeWhile isData).length * 3 / 4 := by
  have hds : ∀ b ∈ t.takeWhile isData, 0 ≤ decodeValue b := fun b hb => by
    simpa [isData] using List.mem_takeWhile_imp hb
  have hpad : ∀ b ∈ t.dropWhile isData, decodeValue b ≠ skip := fun b hb =>
    ht b ((List.dropWhile_sublist _).subset hb)
  have hhead : ∀ b ∈ (t.dropWhile isData).head?, decodeValue b = equals := fun b hb => by
    have hnot := List.head?_dropWhile_not isData t
    rw [Option.mem_def.mp hb] at hnot
    have := hpad b (List.mem_of_mem_head? hb)
    rcases decodeValue_cases b with h0 | he | hs
    · simp [isData, h0] at hnot
    · exact he
    · exact absurd hs this
  obtain ⟨s, h1, hst, hout⟩ := foldlM_data _ hds Decoder.init (by decide)
  rw [process, ← List.takeWhile_append_dropWhile isData t, List.foldlM_append, h1,
    Option.bind_eq_bind, Option.some_bind] at h
  obtain ⟨hshape, hlen⟩ := finish_tail (by omega) hpad hhead h
  simp only [Decoder.init, Nat.zero_add, List.length_nil] at hst hout
  rw [hst] at hshape hlen
  refine ⟨hshape, ?_⟩
  omega

/-- The state machine accepts exactly the inputs whose bytes, once the skipped ones are
    dropped, have the shape of `Accepted`. -/
theorem process_ok_iff_accepted (input : List Byte) :
    (∃ out, (process input).bind finish = some out) ↔
      Accepted (input.filter fun b => decodeValue b != skip) := by
  rw [process_filter]
  have ht : ∀ b ∈ input.filter (fun b => decodeValue b != skip), decodeValue b ≠ skip :=
    fun b hb => by simpa using (List.mem_filter.mp hb).2
  generalize input.filter (fun b => decodeValue b != skip) = t at ht ⊢
  constructor
  · rintro ⟨out, h⟩
    refine ⟨_, _, (List.takeWhile_append_dropWhile isData t).symm,
      fun b hb => List.mem_takeWhile_imp hb, (process_split ht h).1⟩
  · rintro ⟨ds, pad, rfl, hds, hpad⟩
    obtain ⟨⟨k, v, o⟩, h1, hst, -⟩ :=
      foldlM_data ds (fun b hb => by simpa [isData] using hds b hb) Decoder.init (by decide)
    simp only [Decoder.init, Nat.zero_add] at hst
    subst hst
    rw [process, List.foldlM_append, h1, Option.bind_eq_bind, Option.some_bind]
    rcases hpad with ⟨rfl, hk⟩ | ⟨rfl, hk⟩ | ⟨rfl, hk⟩
    · have : ds.length % 4 = 0 ∨ ds.length % 4 = 2 ∨ ds.length % 4 = 3 := by omega
      rcases this with h | h | h <;> simp [finish, h]
    · simp [hk, step_equals_two _ _ decodeValue_padByte, step_equals_four _ _ decodeValue_padByte,
        finish_five]
    · simp [hk, step_equals_three _ _ decodeValue_padByte, finish_five]

/-- An input the state machine accepts fills `n * 3 / 4` bytes for its `n` data bytes. -/
theorem length_of_process {input out : List Byte} (h : (process input).bind finish = some out) :
    out.length = input.countP isData * 3 / 4 := by
  rw [process_filter] at h
  have ht : ∀ b ∈ input.filter (fun b => decodeValue b != skip), decodeValue b ≠ skip :=
    fun b hb => by simpa using (List.mem_filter.mp hb).2
  have hcount :
      input.countP isData = (input.filter fun b => decodeValue b != skip).countP isData := by
    rw [List.countP_filter]
    refine List.countP_congr fun b _ => ?_
    rcases decodeValue_cases b with h0 | he | hs
    · simp [isData, h0, show decodeValue b ≠ skip by simp only [skip]; omega]
    · simp [isData, he, equals]
    · simp [isData, hs, skip]
  generalize input.filter (fun b => decodeValue b != skip) = t at ht h hcount
  obtain ⟨hshape, hlen⟩ := process_split ht h
  have hpad : (t.dropWhile isData).countP isData = 0 := by
    rcases hshape with ⟨hd, -⟩ | ⟨hd, -⟩ | ⟨hd, -⟩ <;> rw [hd] <;> decide
  rw [hlen, hcount, ← List.takeWhile_append_dropWhile isData t, List.countP_append, hpad,
    List.countP_eq_length.mpr fun b hb => List.mem_takeWhile_imp hb,
    List.takeWhile_append_dropWhile]
  rfl

/-- `decode` accepts exactly the inputs whose bytes, once the skipped ones are dropped, have
    the shape of `Accepted`, and whose `n` data bytes, `n * 3 / 4` bytes once decoded, fit in
    the array of `len * 3 / 4` bytes computed in `int` arithmetic: every other input throws. -/
theorem decode_ok_iff_accepted (input : List Byte) :
    (∃ out, decode input = .ok out) ↔
      Accepted (input.filter fun b => decodeValue b != skip) ∧
      ¬(allocSize input.length).toInt < 0 ∧
      input.countP isData * 3 / 4 ≤ (allocSize input.length).toNat := by
  simp only [decode_eq_ok_iff, ← process_ok_iff_accepted]
  constructor
  · rintro ⟨out, hneg, h, hle⟩
    exact ⟨⟨out, h⟩, hneg, length_of_process h ▸ hle⟩
  · rintro ⟨⟨out, h⟩, hneg, hle⟩
    exact ⟨out, hneg, h, (length_of_process h).symm ▸ hle⟩

/-- An accepted input fills `n * 3 / 4` bytes for its `n` data bytes: the buffer of
    `len * 3 / 4` bytes is filled exactly when every byte of the input is data. -/
theorem length_decode {input out : List Byte} (h : decode input = .ok out) :
    out.length = input.countP isData * 3 / 4 :=
  length_of_process (decode_eq_ok_iff.1 h).2.1

/-- `new byte[len * 3 / 4]` is computed in `int` arithmetic. Below 715,827,883 input bytes the
    product does not overflow and the decoder never writes past the array: `decode` is the
    state machine alone. Up to 1,431,655,764 bytes the size is negative and the allocation
    throws `NegativeArraySizeException`. From 1,431,655,765 bytes on, the size wraps to
    `(3 * len - 2^32) / 4`, and an input of data bytes alone overruns the array. -/
theorem allocated_output (input : List Byte) :
    (input.length < 715827883 →
      (allocSize input.length).toNat = input.length * 3 / 4 ∧
      decode input = match (process input).bind finish with
        | some out => .ok out
        | none => .error (.illegalArgument "bad base-64")) ∧
    (715827883 ≤ input.length → input.length ≤ 1431655764 →
      (allocSize input.length).toInt < 0 ∧
      decode input = .error (.negativeArraySize (allocSize input.length).toInt)) ∧
    (1431655765 ≤ input.length → input.length < 2 ^ 31 →
      (allocSize input.length).toNat = (input.length * 3 - 2 ^ 32) / 4 ∧
      ((∀ b ∈ input, isData b) → decode input = .error .arrayIndexOutOfBounds)) := by
  refine ⟨fun h => ⟨(allocSize_of_lt h).2, decode_of_lt h⟩,
    fun h₁ h₂ => ⟨allocSize_neg h₁ h₂, decode_of_neg (allocSize_neg h₁ h₂)⟩,
    fun h₁ h₂ => ⟨(allocSize_of_ge h₁ h₂).2, fun hd => ?_⟩⟩
  have hneg := (allocSize_of_ge h₁ h₂).1
  obtain ⟨s, hs, -, hout⟩ :=
    foldlM_data input (fun b hb => by simpa [isData] using hd b hb) Decoder.init (by decide)
  have hle := toNat_allocSize_le hneg
  simp only [Decoder.init, List.length_nil, Nat.zero_add] at hout
  rw [decode_of_nonneg hneg, processInto, foldlM_stepInto_of_some input (Nat.zero_le _) hs,
    if_neg (by omega)]
  rfl

theorem length_decode_skipping :
    decode [0x51#8, 0x55#8, 0x0A#8, 0x49#8, 0x3D#8] = .ok [0x41#8, 0x42#8] ∧
      [0x41#8, 0x42#8].length = [0x51#8, 0x55#8, 0x0A#8, 0x49#8, 0x3D#8].countP isData * 3 / 4 :=
  have h : decode [0x51#8, 0x55#8, 0x0A#8, 0x49#8, 0x3D#8] = .ok [0x41#8, 0x42#8] := rfl
  ⟨h, length_decode h⟩

end Whisper.Base64

namespace Whisper

/-- `String.decodeBase64()`: `Base64.decode(this, Base64.NO_WRAP)`, which decodes
    `this.getBytes()`, the UTF-8 bytes of the string. -/
def JString.decodeBase64 (s : JString) : Except Throwable (List Byte) :=
  Base64.decode (encodeUtf8 s)

/-- Below 715,827,883 UTF-8 bytes, `decodeBase64` reads only the ASCII alphabet characters
    and `=` of a string: every other character, spaces and line breaks, letters beyond ASCII,
    unpaired surrogates, is skipped. -/
theorem JString.decodeBase64_eq_filter (s : JString) (h : (encodeUtf8 s).length < 715827883) :
    JString.decodeBase64 s = Base64.decode ((s.filter Base64.readsChar).map Base64.asciiByte) := by
  rw [JString.decodeBase64, Base64.decode_filter h, Base64.filter_encodeUtf8]

/-- `QU`, a line break, `I=`: the line break is skipped. -/
def wrappedBase64 : JString := [0x51#16, 0x55#16, 0x0A#16, 0x49#16, 0x3D#16]

theorem JString.decodeBase64_eq_filter_wrapped :
    (encodeUtf8 wrappedBase64).length < 715827883 ∧
    JString.decodeBase64 wrappedBase64 =
      Base64.decode ((wrappedBase64.filter Base64.readsChar).map Base64.asciiByte) :=
  ⟨by decide, JString.decodeBase64_eq_filter _ (by decide)⟩

theorem encodeUtf8_encodeBase64_filter (bs : List Byte) (p : Char16 → Bool) :
    encodeUtf8 ((encodeBase64 bs).filter p) = ((encodeBase64 bs).filter p).map Base64.asciiByte :=
  Base64.encodeUtf8_of_ascii _ fun c hc => by
    have := encodeBase64_ascii bs c (List.mem_of_mem_filter hc)
    omega

theorem encodeUtf8_encodeBase64 (bs : List Byte) :
    encodeUtf8 (encodeBase64 bs) = (encodeBase64 bs).map Base64.asciiByte := by
  simpa using encodeUtf8_encodeBase64_filter bs fun _ => true

/-- Decoding a string that `encodeBase64` wrote gives back the bytes, for every array of fewer
    than 536,870,911 bytes: its encoding has fewer than 715,827,883 characters. -/
theorem JString.decodeBase64_encodeBase64_eq {bs : List Byte} (h : bs.length < 536870911) :
    JString.decodeBase64 (encodeBase64 bs) = .ok bs := by
  have henc := encodeUtf8_encodeBase64 bs
  have hlen : ((encodeBase64 bs).map Base64.asciiByte).length < 715827883 := by
    rw [List.length_map, Base64.length_encodeBase64]
    omega
  rw [JString.decodeBase64, henc, Base64.decode_of_lt hlen, Base64.process, Base64.Decoder.init,
    (Base64.foldlM_encodeBase64 bs 0 []).1]
  rfl

/-- On a text that `encodeBase64` wrote, `decodeBase64` returns the bytes or throws. -/
theorem JString.decodeBase64_encodeBase64_eq_ok {bs out : List Byte}
    (h : JString.decodeBase64 (encodeBase64 bs) = .ok out) : out = bs := by
  rw [JString.decodeBase64, encodeUtf8_encodeBase64] at h
  have hp := (Base64.foldlM_encodeBase64 bs 0 []).1
  rw [← Base64.Decoder.init, ← Base64.process, (Base64.decode_eq_ok_iff.1 h).2.1] at hp
  simpa using hp

end Whisper

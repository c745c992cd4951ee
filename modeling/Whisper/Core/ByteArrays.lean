import Whisper.Jvm.Text
import Mathlib.Data.Nat.Bitwise

/-! # `Extensions.kt`: the `ByteArray` helpers

    `secureEquals` compares two arrays of the same size without an early exit: it ORs together
    the XOR of every pair of bytes, each widened to `Int` by `toInt()`, and tests the result
    against zero. `secureEquals_iff` says that this is equality of the arrays.

    `toHex` writes each byte with `"%02x"`. `fromHex` cuts a string into chunks of two
    characters, parses each with `toInt(16)`, which is `Integer.parseInt(chunk, 16)`, and keeps
    the low byte with `toByte()`. `Character.digit`, which `parseInt` reads each digit with,
    also accepts the Unicode decimal digits outside ASCII; their values are the parameter
    `decimalValue`. `fromHex_toHex` says that `fromHex` reads back what `toHex` wrote.
-/

namespace Whisper

/-! ## Section 1: `secureEquals` -/

/-- `ByteArray.secureEquals(other)`: `false` on different sizes, else the OR over every index
    of `this[i].toInt() xor other[i].toInt()`, compared with `0`. -/
def secureEquals (a b : List Byte) : Bool :=
  if a.length ≠ b.length then false
  else (List.range a.length).foldl (fun result i =>
    result ||| ((a.getD i 0).signExtend 32 ^^^ (b.getD i 0).signExtend 32)) 0#32 == 0#32

theorem or_eq_zero_iff {w : Nat} {x y : BitVec w} : x ||| y = 0#w ↔ x = 0#w ∧ y = 0#w := by
  constructor
  · intro h
    have hbit (i : Nat) : x.getLsbD i = false ∧ y.getLsbD i = false := by
      simpa using congrArg (BitVec.getLsbD · i) h
    exact ⟨BitVec.eq_of_getLsbD_eq fun i => by simp [(hbit i).1],
      BitVec.eq_of_getLsbD_eq fun i => by simp [(hbit i).2]⟩
  · rintro ⟨rfl, rfl⟩
    simp

theorem xor_eq_zero_iff {w : Nat} {x y : BitVec w} : x ^^^ y = 0#w ↔ x = y := by
  rw [BitVec.toNat_eq, BitVec.toNat_xor, BitVec.toNat_ofNat, Nat.zero_mod, Nat.xor_eq_zero,
    ← BitVec.toNat_eq]

/-- `Byte.toInt()` loses nothing. -/
theorem signExtend_inj {x y : Byte} : x.signExtend 32 = y.signExtend 32 ↔ x = y := by
  refine ⟨fun h => BitVec.eq_of_getLsbD_eq fun i => ?_, fun h => h ▸ rfl⟩
  have := congrArg (BitVec.getLsbD · i.val) h
  simpa [BitVec.getLsbD_signExtend, i.isLt, show i.val < 32 by omega] using this

/-- The OR of a loop is zero exactly when the start and every term are. -/
theorem foldl_or_eq_zero (f : Nat → BitVec 32) : ∀ (l : List Nat) (r : BitVec 32),
    l.foldl (fun r i => r ||| f i) r = 0#32 ↔ r = 0#32 ∧ ∀ i ∈ l, f i = 0#32
  | [], r => by simp
  | i :: l, r => by
    simp only [List.foldl_cons, foldl_or_eq_zero f l, or_eq_zero_iff, List.mem_cons,
      forall_eq_or_imp, and_assoc]

/-- The constant-time comparison is equality of the arrays. -/
theorem secureEquals_iff (a b : List Byte) : secureEquals a b = true ↔ a = b := by
  unfold secureEquals
  split_ifs with hlen
  · simp only [Bool.false_eq_true, false_iff]
    exact fun h => hlen (h ▸ rfl)
  · rw [beq_iff_eq, foldl_or_eq_zero]
    simp only [true_and, List.mem_range, xor_eq_zero_iff, signExtend_inj]
    constructor
    · intro h
      refine List.ext_getElem (not_not.mp hlen) fun i h1 h2 => ?_
      simpa [List.getD_eq_getElem?_getD, List.getElem?_eq_getElem h1,
        List.getElem?_eq_getElem h2] using h i h1
    · rintro rfl _ _
      rfl

/-! ## Section 2: `toHex` -/

/-- The lowercase hex digit of a value below 16. -/
def hexDigit (n : Nat) : Char16 := BitVec.ofNat 16 (if n < 10 then 0x30 + n else 0x57 + n)

/-- `"%02x".format(b)`: a `Byte` is formatted as its unsigned value, in two lowercase digits. -/
def formatHex (b : Byte) : JString := [hexDigit (b.toNat / 16), hexDigit (b.toNat % 16)]

/-- `ByteArray.toHex()`: `joinToString("") { "%02x".format(it) }`. -/
def toHex (bs : List Byte) : JString := bs.flatMap formatHex

/-! ## Section 3: `fromHex` -/

section FromHex

/- `decimalValue`: the value of each decimal digit of Unicode outside ASCII, a character of
   category `Nd`; `none` for every other character. -/
variable (decimalValue : Char16 → Option Nat)

/-- `Character.digit(ch, radix)`: an ASCII or fullwidth Latin letter counts from 10, a decimal
    digit has its value; a value at or past the radix, or any other character, is `-1`, here
    `none`. -/
def digit (c : Char16) (radix : Nat) : Option Nat :=
  let value : Option Nat :=
    if 0x30 ≤ c.toNat ∧ c.toNat ≤ 0x39 then some (c.toNat - 0x30)
    else if 0x41 ≤ c.toNat ∧ c.toNat ≤ 0x5A then some (c.toNat - 0x41 + 10)
    else if 0x61 ≤ c.toNat ∧ c.toNat ≤ 0x7A then some (c.toNat - 0x61 + 10)
    else if 0xFF21 ≤ c.toNat ∧ c.toNat ≤ 0xFF3A then some (c.toNat - 0xFF21 + 10)
    else if 0xFF41 ≤ c.toNat ∧ c.toNat ≤ 0xFF5A then some (c.toNat - 0xFF41 + 10)
    else decimalValue c
  value.filter (· < radix)

/-- The digit loop of `Integer.parseInt`: the value is accumulated negatively, `result * radix
    - digit`, and each step checks it against `multmin` and `limit` so that it cannot
    overflow; `none` is the `NumberFormatException`. -/
def parseDigits (radix : Nat) (limit multmin : Int) : Int → JString → Option Int
  | result, [] => some result
  | result, c :: rest =>
    match digit decimalValue c radix with
    | none => none
    | some d =>
      if result < multmin then none
      else if result * radix < limit + d then none
      else parseDigits radix limit multmin (result * radix - d) rest

/-- `Integer.parseInt(s, radix)`, which `String.toInt(radix)` calls: a first character below
    `'0'` must be a sign followed by at least one digit; `-` allows `Int.MIN_VALUE`. -/
def parseInt (s : JString) (radix : Nat) : Option Int :=
  match s with
  | [] => none
  | c :: rest =>
    if c.toNat < 0x30 then
      if rest = [] then none
      else if c = 0x2D#16 then
        parseDigits decimalValue radix (-2 ^ 31) ((-2 ^ 31).tdiv radix) 0 rest
      else if c = 0x2B#16 then
        (parseDigits decimalValue radix (-(2 ^ 31 - 1)) ((-(2 ^ 31 - 1)).tdiv radix) 0 rest).map
          (- ·)
      else none
    else
      (parseDigits decimalValue radix (-(2 ^ 31 - 1)) ((-(2 ^ 31 - 1)).tdiv radix) 0 s).map (- ·)

/-- `String.chunked(2)`: pairs of characters, the last one alone if the length is odd. -/
def chunked2 : JString → List JString
  | a :: b :: rest => [a, b] :: chunked2 rest
  | [a] => [[a]]
  | [] => []

/-- `String.fromHex()`: `chunked(2).map { it.toInt(16).toByte() }.toByteArray()`; `none` is the
    `NumberFormatException` of the first chunk that does not parse. -/
def fromHex (s : JString) : Option (List Byte) :=
  (chunked2 s).mapM fun chunk => (parseInt decimalValue chunk 16).map (BitVec.ofInt 8)

theorem digit_hexDigit (n : Nat) (h : n < 16) : digit decimalValue (hexDigit n) 16 = some n := by
  interval_cases n <;> rfl

theorem hexDigit_ge (n : Nat) (h : n < 16) : 0x30 ≤ (hexDigit n).toNat := by
  interval_cases n <;> decide

theorem chunked2_toHex (bs : List Byte) : chunked2 (toHex bs) = bs.map formatHex := by
  induction bs with
  | nil => rfl
  | cons b bs ih =>
    rw [List.map_cons, ← ih]
    rfl

/-- The two digits of a byte parse back to its unsigned value. -/
theorem parseInt_formatHex (b : Byte) :
    parseInt decimalValue (formatHex b) 16 = some b.toNat := by
  have hb := b.isLt
  have hhi := digit_hexDigit decimalValue (b.toNat / 16) (by omega)
  have hlo := digit_hexDigit decimalValue (b.toNat % 16) (by omega)
  have hge := hexDigit_ge (b.toNat / 16) (by omega)
  simp only [formatHex, parseInt,
    if_neg (show ¬(hexDigit (b.toNat / 16)).toNat < 0x30 by omega), parseDigits, hhi, hlo]
  have htdiv : (-(2 ^ 31 - 1) : Int).tdiv (16 : Nat) = -134217727 := by decide
  simp only [htdiv]
  rw [if_neg (by omega), if_neg (by omega), if_neg (by omega), if_neg (by omega)]
  simp only [Option.map_some']
  congr 1
  omega

/-- `fromHex` reads back every string `toHex` writes, whatever the Unicode digit table. -/
theorem fromHex_toHex (bs : List Byte) : fromHex decimalValue (toHex bs) = some bs := by
  rw [fromHex, chunked2_toHex]
  induction bs with
  | nil => rfl
  | cons b bs ih =>
    simp only [List.map_cons, List.mapM_cons, parseInt_formatHex, Option.map_some', ih]
    simp [BitVec.ofInt_natCast]

end FromHex

end Whisper

import Whisper.Core.Extensions

/-! # Java arrays: `ByteArray(size)`, `copyOf` and `System.arraycopy`

    A `byte[]` is a list of bytes whose length is an `int`, so below `2^31`; `JByteArray`
    carries that bound, and `size` is the length as a Kotlin `Int`. The JVM throws
    `NegativeArraySizeException` when an array is allocated with a negative size, and
    `ArrayIndexOutOfBoundsException` when `System.arraycopy` would read or write outside an
    array. `Throwable` collects what the modelled functions throw.
-/

namespace Whisper

/-- What the modelled functions throw. -/
inductive Throwable where
  /-- A `CryptoException` of `Errors.kt`. -/
  | crypto (e : CryptoException)
  /-- `NegativeArraySizeException`, with the size asked for. -/
  | negativeArraySize (size : Int)
  /-- `ArrayIndexOutOfBoundsException`, from `System.arraycopy`. -/
  | arrayIndexOutOfBounds
  /-- `IllegalArgumentException(message)`. -/
  | illegalArgument (message : String)
  deriving DecidableEq, Repr

/-! ## Section 1: Kotlin `Int` -/

theorem toInt_bounds32 (x : BitVec 32) : -2 ^ 31 ≤ x.toInt ∧ x.toInt < 2 ^ 31 := by
  have := x.isLt
  rw [BitVec.toInt_eq_toNat_cond]
  split <;> omega

theorem toInt_eq_toNat_of_nonneg {x : BitVec 32} (h : 0 ≤ x.toInt) : x.toInt = x.toNat := by
  rw [BitVec.toInt_eq_toNat_cond] at h ⊢
  split at h <;> omega

theorem toNat_lt_of_toInt_nonneg {n : BitVec 32} (h : ¬n.toInt < 0) : n.toNat < 2 ^ 31 := by
  rw [BitVec.toInt_eq_toNat_cond] at h
  split at h <;> omega

/-! ## Section 2: Arrays -/

/-- A `byte[]`. -/
@[ext] structure JByteArray where
  /-- The elements. -/
  data : List Byte
  /-- The length is an `int`. -/
  length_lt : data.length < 2 ^ 31
  deriving DecidableEq

namespace JByteArray

/-- `array.size`, an `Int`. -/
def size (a : JByteArray) : BitVec 32 := BitVec.ofNat 32 a.data.length

/-- `ByteArray(0)`. -/
def empty : JByteArray := ⟨[], by decide⟩

/-- `ByteArray(size)`: `size` zero bytes. -/
def ofSize (size : BitVec 32) : Except Throwable JByteArray :=
  if h : size.toInt < 0 then .error (.negativeArraySize size.toInt)
  else .ok ⟨List.replicate size.toNat 0, by simpa using toNat_lt_of_toInt_nonneg h⟩

/-- `copyOf(newLength)`, that is `Arrays.copyOf`: the first `newLength` elements, padded with
    zeros. -/
def copyOf (a : JByteArray) (newLength : BitVec 32) : Except Throwable JByteArray :=
  if h : newLength.toInt < 0 then .error (.negativeArraySize newLength.toInt)
  else .ok ⟨(a.data ++ List.replicate (newLength.toNat - a.data.length) 0).take newLength.toNat,
    Nat.lt_of_le_of_lt (List.length_take_le _ _) (toNat_lt_of_toInt_nonneg h)⟩

/-- `System.arraycopy(src, srcPos, dest, destPos, length)`, for the nonnegative positions and
    lengths the modelled code passes: `dest` with `length` elements of `src` from `srcPos` written
    at `destPos`, or `ArrayIndexOutOfBoundsException` if either range leaves its array. -/
def arraycopy (src : JByteArray) (srcPos : Nat) (dest : JByteArray) (destPos length : Nat) :
    Except Throwable JByteArray :=
  if h : srcPos + length ≤ src.data.length ∧ destPos + length ≤ dest.data.length then
    .ok ⟨dest.data.take destPos ++ (src.data.drop srcPos).take length ++
      dest.data.drop (destPos + length), by
        have := dest.length_lt
        simp only [List.length_append, List.length_take, List.length_drop]
        omega⟩
  else .error .arrayIndexOutOfBounds

theorem toInt_size (a : JByteArray) : a.size.toInt = a.data.length := by
  have := a.length_lt
  rw [size, BitVec.toInt_eq_toNat_cond, BitVec.toNat_ofNat, Nat.mod_eq_of_lt (by omega),
    if_pos (by omega)]

theorem ofSize_eq_ok {size : BitVec 32} (h : ¬size.toInt < 0) :
    ∃ a, ofSize size = .ok a ∧ a.data = List.replicate size.toNat 0 :=
  ⟨_, dif_neg h, rfl⟩

theorem ofSize_eq_ok_iff {size : BitVec 32} {a : JByteArray} :
    ofSize size = .ok a ↔ ¬size.toInt < 0 ∧ a.data = List.replicate size.toNat 0 := by
  unfold ofSize
  split
  · rename_i h
    simp [h]
  · rename_i h
    simp only [Except.ok.injEq, h, not_false_eq_true, true_and]
    exact ⟨fun h => h ▸ rfl, fun h => JByteArray.ext h.symm⟩

theorem ofSize_eq_error {size : BitVec 32} (h : size.toInt < 0) :
    ofSize size = .error (.negativeArraySize size.toInt) :=
  dif_pos h

/-- Copying to a length at most the array's keeps its first elements. -/
theorem copyOf_eq_ok {a : JByteArray} {newLength : BitVec 32} (h : ¬newLength.toInt < 0)
    (hle : newLength.toNat ≤ a.data.length) :
    ∃ b, a.copyOf newLength = .ok b ∧ b.data = a.data.take newLength.toNat := by
  refine ⟨_, dif_neg h, ?_⟩
  simp [Nat.sub_eq_zero_of_le hle]

theorem arraycopy_eq_ok {src dest : JByteArray} {srcPos destPos length : Nat}
    (h : srcPos + length ≤ src.data.length ∧ destPos + length ≤ dest.data.length) :
    ∃ b, arraycopy src srcPos dest destPos length = .ok b ∧
      b.data = dest.data.take destPos ++ (src.data.drop srcPos).take length ++
        dest.data.drop (destPos + length) :=
  ⟨_, dif_pos h, rfl⟩

end JByteArray

end Whisper

import Whisper.Jvm.Arrays
import Mathlib.Data.Rat.Floor

/-! # `HKDF.kt`: HKDF-SHA256

    `extract` is one HMAC of the input keying material under the salt. `expand` allocates
    `n * HASH_LEN` bytes for `n = ceil(length / HASH_LEN)`, writes the blocks
    `T(i) = HMAC(prk, T(i - 1) || info || i.toByte())` for `i` from 1 to `n` into them, and
    returns the first `length` bytes. The HMAC is a parameter; `SecretKeySpec` throws on an
    empty key, before any HMAC is computed.

    RFC 5869, which the file cites, is modelled by `rfcExpand` and `rfcHkdf` for comparison.
    The main results:

    - `expand_eq_ok`: for a nonempty key and every `length` from 0 to `2^31 - 32`, `expand`
      returns the first `length` bytes of the blocks, whose counter byte is `i` modulo 256;
    - `expand_eq_rfcExpand`, `deriveKey_eq_rfcHkdf`: up to `255 * HashLen` bytes, `expand` and
      `deriveKey` are RFC 5869's HKDF-Expand and HKDF;
    - past `255 * HashLen` bytes, where RFC 5869 has no output, `expand` still returns bytes, the
      counter byte wrapping to 0 at block 256 (`expand_past_rfc_bound`);
    - a negative length throws `NegativeArraySizeException`, from the allocation or from
      `copyOf` (`expand_eq_error_of_neg`).
-/

namespace Whisper.HKDF

/-! ## Section 1: The primitive and the constants -/

/-- `Mac.getInstance("HmacSHA256")`: after `init(SecretKeySpec(key, "HmacSHA256"))`, `doFinal`
    returns the HMAC under `key` of the bytes passed to `update`, 32 of them. -/
structure HmacSha256 where
  mac : List Byte → List Byte → List Byte
  length_mac : ∀ key data, (mac key data).length = 32

/-- `HASH_LEN`, the length of a SHA-256 output. -/
def hashLen : BitVec 32 := 32#32

variable (hmac : HmacSha256)

/-- `mac.init(SecretKeySpec(key, "HmacSHA256"))`: `SecretKeySpec` throws
    `IllegalArgumentException("Empty key")` for an empty key. -/
def initMac (key : JByteArray) : Except Throwable Unit :=
  if key.data = [] then .error (.illegalArgument "Empty key") else .ok ()

/-- `mac.doFinal()` after `update(data)`: a new 32-byte array. -/
def doFinal (key : JByteArray) (data : List Byte) : JByteArray :=
  ⟨hmac.mac key.data data, by rw [hmac.length_mac]; norm_num⟩

/-! ## Section 2: `extract`, `expand` and `deriveKey` -/

/-- `extract(salt, ikm)`. -/
def extract (salt ikm : JByteArray) : Except Throwable JByteArray := do
  initMac salt
  return doFinal hmac salt ikm.data

/-- `ceil(length.toDouble() / HASH_LEN).toInt()`: an `Int` divided by 32 is exact in a `Double`,
    so this is the ceiling of the rational quotient. -/
def blockCount (length : BitVec 32) : Int := ⌈(length.toInt : ℚ) / 32⌉

/-- One pass of `for (i in 1..n)`: `t` becomes the next block, which `System.arraycopy` writes
    into `okm` at `(i - 1) * HASH_LEN`. -/
def expandStep (prk info : JByteArray) (s : JByteArray × JByteArray) (i : Nat) :
    Except Throwable (JByteArray × JByteArray) := do
  let t := doFinal hmac prk (s.1.data ++ info.data ++ [BitVec.ofNat 8 i])
  let okm ← JByteArray.arraycopy t 0 s.2 ((i - 1) * hashLen.toNat) hashLen.toNat
  return (t, okm)

/-- `expand(prk, info, length)`. -/
def expand (prk info : JByteArray) (length : BitVec 32) : Except Throwable JByteArray := do
  initMac prk
  let n := blockCount length
  let okm ← JByteArray.ofSize (BitVec.ofInt 32 n * hashLen)
  let s ← (List.range' 1 n.toNat).foldlM (expandStep hmac prk info) (JByteArray.empty, okm)
  s.2.copyOf length

/-- `deriveKey(ikm, salt, info, length)`. -/
def deriveKey (ikm salt info : JByteArray) (length : BitVec 32) : Except Throwable JByteArray := do
  let prk ← extract hmac salt ikm
  expand hmac prk info length

/-! ## Section 3: RFC 5869 -/

/-- RFC 5869's blocks: `T(0)` is empty and `T(i) = HMAC(PRK, T(i - 1) | info | i)`, with the
    counter one octet (past 255 the octet wraps, as `i.toByte()` does). -/
def rfcT (prk info : List Byte) : Nat → List Byte
  | 0 => []
  | i + 1 => hmac.mac prk (rfcT prk info i ++ info ++ [BitVec.ofNat 8 (i + 1)])

/-- `T(1) | T(2) | ... | T(n)`. -/
def rfcBlocks (prk info : List Byte) (n : Nat) : List Byte :=
  (List.range n).flatMap fun i => rfcT hmac prk info (i + 1)

/-- RFC 5869's HKDF-Expand: the first `L` octets of `T(1) | ... | T(N)` with
    `N = ceil(L / HashLen)`, and no output for `L > 255 * HashLen`. -/
def rfcExpand (prk info : List Byte) (L : Nat) : Option (List Byte) :=
  if L ≤ 255 * 32 then some ((rfcBlocks hmac prk info ((L + 31) / 32)).take L) else none

/-- RFC 5869's HKDF: HKDF-Expand under `PRK = HMAC(salt, IKM)`. -/
def rfcHkdf (salt ikm info : List Byte) (L : Nat) : Option (List Byte) :=
  rfcExpand hmac (hmac.mac salt ikm) info L

/-! ## Section 4: The blocks -/

theorem length_rfcT_succ (prk info : List Byte) (i : Nat) :
    (rfcT hmac prk info (i + 1)).length = 32 :=
  hmac.length_mac _ _

theorem rfcBlocks_succ (prk info : List Byte) (n : Nat) :
    rfcBlocks hmac prk info (n + 1) = rfcBlocks hmac prk info n ++ rfcT hmac prk info (n + 1) := by
  simp [rfcBlocks, List.range_succ]

theorem length_rfcBlocks (prk info : List Byte) (n : Nat) :
    (rfcBlocks hmac prk info n).length = n * 32 := by
  induction n with
  | zero => rfl
  | succ n ih => rw [rfcBlocks_succ, List.length_append, ih, length_rfcT_succ, Nat.succ_mul]

/-- One pass of the loop, with `T(k)` in `t` and the first `k` of `n` blocks written into `okm`:
    it writes block `k + 1`. -/
theorem expandStep_eq_ok (prk info : JByteArray) {n k : Nat} (hk : k < n)
    {s : JByteArray × JByteArray} (ht : s.1.data = rfcT hmac prk.data info.data k)
    (hokm : s.2.data = rfcBlocks hmac prk.data info.data k ++ List.replicate ((n - k) * 32) 0) :
    ∃ s', expandStep hmac prk info s (k + 1) = .ok s' ∧
      s'.1.data = rfcT hmac prk.data info.data (k + 1) ∧
      s'.2.data = rfcBlocks hmac prk.data info.data (k + 1) ++
        List.replicate ((n - (k + 1)) * 32) 0 := by
  have hblocks := length_rfcBlocks hmac prk.data info.data k
  have h32 : hashLen.toNat = 32 := rfl
  have ht' : (doFinal hmac prk (s.1.data ++ info.data ++ [BitVec.ofNat 8 (k + 1)])).data =
      rfcT hmac prk.data info.data (k + 1) := by
    rw [ht]; rfl
  obtain ⟨okm, hcopy, hdata⟩ := @JByteArray.arraycopy_eq_ok
    (doFinal hmac prk (s.1.data ++ info.data ++ [BitVec.ofNat 8 (k + 1)])) s.2 0
    ((k + 1 - 1) * hashLen.toNat) hashLen.toNat
    ⟨le_of_eq (hmac.length_mac _ _).symm, by
      rw [hokm, List.length_append, hblocks, List.length_replicate, h32]; omega⟩
  refine ⟨_, by simp only [expandStep, hcopy]; rfl, ht', ?_⟩
  rw [hdata, hokm, ht', h32, Nat.add_sub_cancel, ← hblocks, List.take_left, List.drop_zero,
    List.take_of_length_le (by rw [length_rfcT_succ]), List.drop_append, List.drop_replicate,
    rfcBlocks_succ, List.append_assoc, List.append_assoc]
  congr 3
  omega

/-- The passes `i = k + 1, ..., k + m` of the loop write blocks `k + 1` to `k + m`. -/
theorem foldlM_expandStep (prk info : JByteArray) {n : Nat} :
    ∀ (k m : Nat), k + m ≤ n → ∀ s : JByteArray × JByteArray,
      s.1.data = rfcT hmac prk.data info.data k →
      s.2.data = rfcBlocks hmac prk.data info.data k ++ List.replicate ((n - k) * 32) 0 →
      ∃ s', (List.range' (k + 1) m).foldlM (expandStep hmac prk info) s = .ok s' ∧
        s'.2.data = rfcBlocks hmac prk.data info.data (k + m) ++
          List.replicate ((n - (k + m)) * 32) 0
  | k, 0, _, s, _, hokm => ⟨s, rfl, hokm⟩
  | k, m + 1, hkm, s, ht, hokm => by
    obtain ⟨s1, h1, ht1, hokm1⟩ := expandStep_eq_ok hmac prk info (by omega) ht hokm
    obtain ⟨s', h', hokm'⟩ := foldlM_expandStep prk info (k + 1) m (by omega) s1 ht1 hokm1
    refine ⟨s', ?_, by rwa [Nat.add_right_comm] at hokm'⟩
    rw [List.range'_succ, List.foldlM_cons, h1]
    exact h'

/-! ## Section 5: `expand` -/

/-- `blockCount` is the integer ceiling of `length / 32`. -/
theorem blockCount_eq (length : BitVec 32) : blockCount length = (length.toInt + 31) / 32 := by
  rw [blockCount, Int.ceil_eq_iff]
  have h1 : 32 * ((length.toInt + 31) / 32) - 32 < length.toInt := by omega
  have h2 : length.toInt ≤ 32 * ((length.toInt + 31) / 32) := by omega
  generalize (length.toInt + 31) / 32 = q at h1 h2
  constructor
  · rw [lt_div_iff₀ (by norm_num)]
    have : ((32 * q - 32 : ℤ) : ℚ) < length.toInt := by exact_mod_cast h1
    push_cast at this
    linarith
  · rw [div_le_iff₀ (by norm_num)]
    have : (length.toInt : ℚ) ≤ ((32 * q : ℤ) : ℚ) := by exact_mod_cast h2
    push_cast at this
    linarith

theorem initMac_eq_ok {key : JByteArray} (h : key.data ≠ []) : initMac key = .ok () := if_neg h

/-- `n * HASH_LEN` in `Int` arithmetic, for the `n` of an `Int` length. -/
theorem toInt_blockBytes (n : Int) (h1 : -2 ^ 26 ≤ n) (h2 : n < 2 ^ 26) :
    (BitVec.ofInt 32 n * hashLen).toInt = n * 32 := by
  simp only [BitVec.toInt_mul, BitVec.toInt_ofInt, show hashLen.toInt = 32 by decide,
    Int.bmod_def]
  split <;> split <;> omega

/-- For a nonempty key and a length from 0 to `2^31 - 32`, `expand` returns the first `length`
    bytes of the first `ceil(length / 32)` blocks. -/
theorem expand_eq_ok (prk info : JByteArray) {length : BitVec 32} (hprk : prk.data ≠ [])
    (h0 : 0 ≤ length.toInt) (hmax : length.toInt ≤ 2 ^ 31 - 32) :
    ∃ okm, expand hmac prk info length = .ok okm ∧
      okm.data = (rfcBlocks hmac prk.data info.data ((length.toNat + 31) / 32)).take
        length.toNat := by
  have hlen := toInt_eq_toNat_of_nonneg h0
  set N := (length.toNat + 31) / 32 with hN
  have hn : blockCount length = (N : ℤ) := by rw [blockCount_eq, hlen]; omega
  have hsize := toInt_blockBytes N (by omega) (by omega)
  have hnat := toInt_eq_toNat_of_nonneg (by rw [hsize]; omega)
  obtain ⟨okm0, hokm0, hd0⟩ := JByteArray.ofSize_eq_ok (by rw [hsize]; omega)
  rw [show (BitVec.ofInt 32 N * hashLen).toNat = N * 32 by omega] at hd0
  obtain ⟨s, hloop, hs⟩ := @foldlM_expandStep hmac prk info N 0 N (by omega)
    (JByteArray.empty, okm0) rfl (by rw [hd0]; rfl)
  obtain ⟨okm, hcopy, hd⟩ := @JByteArray.copyOf_eq_ok s.2 length (by omega) (by
    rw [hs, List.length_append, length_rfcBlocks, List.length_replicate]; omega)
  refine ⟨okm, ?_, by rw [hd, hs, Nat.zero_add, Nat.sub_self, Nat.zero_mul, List.replicate_zero,
    List.append_nil]⟩
  simp only [Nat.zero_add] at hloop
  simp only [expand, initMac_eq_ok hprk, hn, Int.toNat_ofNat, hokm0, bind, Except.bind, hloop,
    hcopy]

/-- An HMAC that ignores its input, to run the model on fixed inputs. -/
def zeroHmac : HmacSha256 :=
  ⟨fun _ _ => List.replicate 32 0, fun _ _ => List.length_replicate _ _⟩

/-- A negative length throws `NegativeArraySizeException`: from the allocation of
    `n * HASH_LEN` bytes when `n < 0`, and from `copyOf(length)` when `n = 0`. -/
theorem expand_eq_error_of_neg (prk info : JByteArray) {length : BitVec 32}
    (hprk : prk.data ≠ []) (hneg : length.toInt < 0) :
    ∃ size < 0, expand hmac prk info length = .error (.negativeArraySize size) := by
  have hb := toInt_bounds32 length
  have hn := blockCount_eq length
  by_cases h0 : blockCount length = 0
  · refine ⟨length.toInt, hneg, ?_⟩
    obtain ⟨okm0, hokm0, -⟩ := @JByteArray.ofSize_eq_ok (BitVec.ofInt 32 0 * hashLen)
      (by rw [toInt_blockBytes 0 (by norm_num) (by norm_num)]; omega)
    simp only [expand, initMac_eq_ok hprk, h0, hokm0, bind, Except.bind]
    exact dif_pos hneg
  · have hsize := toInt_blockBytes (blockCount length) (by omega) (by omega)
    refine ⟨(BitVec.ofInt 32 (blockCount length) * hashLen).toInt, by omega, ?_⟩
    have hneg : (BitVec.ofInt 32 (blockCount length) * hashLen).toInt < 0 := by omega
    simp only [expand, initMac_eq_ok hprk, bind, Except.bind, JByteArray.ofSize_eq_error hneg]

theorem expand_eq_error_of_neg_one :
    [1#8] ≠ [] ∧ (0xFFFFFFFF#32).toInt < 0 ∧
    ∃ size < 0, expand zeroHmac ⟨[1#8], by decide⟩ JByteArray.empty 0xFFFFFFFF#32 =
      .error (.negativeArraySize size) :=
  ⟨by decide, by decide, expand_eq_error_of_neg zeroHmac ⟨[1#8], by decide⟩ JByteArray.empty
    (by decide) (by decide)⟩

/-! ## Section 6: RFC 5869 -/

/-- Up to `255 * HashLen` bytes, `expand` is RFC 5869's HKDF-Expand. -/
theorem expand_eq_rfcExpand (prk info : JByteArray) {length : BitVec 32} (hprk : prk.data ≠ [])
    (h0 : 0 ≤ length.toInt) (h : length.toInt ≤ 255 * 32) :
    ∃ okm, expand hmac prk info length = .ok okm ∧
      rfcExpand hmac prk.data info.data length.toNat = some okm.data := by
  obtain ⟨okm, hexp, hd⟩ := expand_eq_ok hmac prk info hprk h0 (by omega)
  have := toInt_eq_toNat_of_nonneg h0
  exact ⟨okm, hexp, by rw [rfcExpand, if_pos (by omega), hd]⟩

theorem extract_eq_ok (salt ikm : JByteArray) (hsalt : salt.data ≠ []) :
    extract hmac salt ikm = .ok (doFinal hmac salt ikm.data) := by
  simp [extract, initMac_eq_ok hsalt, bind, Except.bind, pure, Except.pure]

/-- With a nonempty salt and up to `255 * HashLen` bytes, `deriveKey` is RFC 5869's HKDF. -/
theorem deriveKey_eq_rfcHkdf (ikm salt info : JByteArray) {length : BitVec 32}
    (hsalt : salt.data ≠ []) (h0 : 0 ≤ length.toInt) (h : length.toInt ≤ 255 * 32) :
    ∃ okm, deriveKey hmac ikm salt info length = .ok okm ∧
      rfcHkdf hmac salt.data ikm.data info.data length.toNat = some okm.data := by
  have hprk : (doFinal hmac salt ikm.data).data ≠ [] := by
    rw [← List.length_pos]; simp [doFinal, hmac.length_mac]
  obtain ⟨okm, hexp, hrfc⟩ := expand_eq_rfcExpand hmac _ info hprk h0 h
  exact ⟨okm, by simp [deriveKey, extract_eq_ok hmac salt ikm hsalt, bind, Except.bind, hexp],
    hrfc⟩

/-- Past `255 * HashLen` bytes, where RFC 5869's HKDF-Expand has no output, `expand` returns the
    first `length` bytes of the blocks, and block 256 is chained with the counter byte 0. -/
theorem expand_past_rfc_bound (prk info : JByteArray) {length : BitVec 32}
    (hprk : prk.data ≠ []) (hrfc : 255 * 32 < length.toInt)
    (hmax : length.toInt ≤ 2 ^ 31 - 32) :
    rfcExpand hmac prk.data info.data length.toNat = none ∧
    (∃ okm, expand hmac prk info length = .ok okm ∧
      okm.data = (rfcBlocks hmac prk.data info.data ((length.toNat + 31) / 32)).take
        length.toNat) ∧
    rfcT hmac prk.data info.data 256 =
      hmac.mac prk.data (rfcT hmac prk.data info.data 255 ++ info.data ++ [0#8]) := by
  have h0 : 0 ≤ length.toInt := by omega
  have := toInt_eq_toNat_of_nonneg h0
  exact ⟨by rw [rfcExpand, if_neg (by omega)], expand_eq_ok hmac prk info hprk h0 hmax, rfl⟩

theorem expand_past_rfc_bound_sample :
    [1#8] ≠ [] ∧ 255 * 32 < (8161#32).toInt ∧ (8161#32).toInt ≤ 2 ^ 31 - 32 ∧
    rfcExpand zeroHmac [1#8] [] (8161#32).toNat = none ∧
    (∃ okm, expand zeroHmac ⟨[1#8], by decide⟩ JByteArray.empty 8161#32 = .ok okm ∧
      okm.data = (rfcBlocks zeroHmac [1#8] [] (((8161#32).toNat + 31) / 32)).take
        (8161#32).toNat) ∧
    rfcT zeroHmac [1#8] [] 256 = zeroHmac.mac [1#8] (rfcT zeroHmac [1#8] [] 255 ++ [] ++ [0#8]) :=
  have h := expand_past_rfc_bound zeroHmac ⟨[1#8], by decide⟩ JByteArray.empty (by decide)
    (by decide) (by decide)
  ⟨by decide, by decide, by decide, h⟩

end Whisper.HKDF

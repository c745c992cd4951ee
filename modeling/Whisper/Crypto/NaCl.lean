import Whisper.Jvm.Arrays

/-! # `NaClBox.kt` and `NaClSecretBox.kt`: authenticated encryption

    Each of the four functions allocates its output array, `message.size + MACBYTES` bytes to
    seal and `ciphertext.size - MACBYTES` bytes to open, passes it to a LazySodium call that
    writes into it and returns whether it succeeded, throws an `EncryptionException` or a
    `DecryptionException` if the call failed, and returns the array. The four functions are one
    definition, `sodiumCall`, applied to each one's native call, size and message; the native
    calls are parameters.

    The main results:

    - `sodiumCall_of_neg`, `sodiumCall_of_nonneg`, `sodiumCall_eq_ok`: every outcome of the
      shared body, for every size;
    - `sodiumCall_open`: `NaClBox.open` and `NaClSecretBox.open` return a plaintext of
      `ciphertext.size - 16` bytes or throw their `DecryptionException` when the ciphertext has
      at least 16 bytes, but throw `NegativeArraySizeException` when it is shorter, before the
      library is called;
    - `sodiumCall_seal`, `seal_length_or_negative_array_size`: `NaClBox.seal` and
      `NaClSecretBox.seal` return a ciphertext 16 bytes longer than the message or throw their
      `EncryptionException`, but a message of `2^31 - 16` bytes or more makes them throw
      `NegativeArraySizeException`, as `message.size + MACBYTES` wraps.
-/

namespace Whisper

/-! ## Section 1: The library -/

/-- A LazySodium call that writes into the output array it is passed: whether it succeeded, and
    the array after the call. A native call writes in place, so it keeps the array's length. -/
structure NativeCall (Input : Type) where
  call : JByteArray → Input → Bool × JByteArray
  length_call : ∀ out input, (call out input).2.data.length = out.data.length

/-- The four `LazySodiumAndroid` calls. The `Long` length each is passed is the size of its
    input array, so it is left out. -/
structure LazySodium where
  /-- `cryptoBoxEasy(ciphertext, message, _, nonce, publicKey, secretKey)`, on
      `(message, nonce, publicKey, secretKey)`. -/
  cryptoBoxEasy : NativeCall (List Byte × List Byte × List Byte × List Byte)
  /-- `cryptoBoxOpenEasy(message, ciphertext, _, nonce, publicKey, secretKey)`, on
      `(ciphertext, nonce, publicKey, secretKey)`. -/
  cryptoBoxOpenEasy : NativeCall (List Byte × List Byte × List Byte × List Byte)
  /-- `cryptoSecretBoxEasy(ciphertext, message, _, nonce, key)`, on `(message, nonce, key)`. -/
  cryptoSecretBoxEasy : NativeCall (List Byte × List Byte × List Byte)
  /-- `cryptoSecretBoxOpenEasy(message, ciphertext, _, nonce, key)`, on
      `(ciphertext, nonce, key)`. -/
  cryptoSecretBoxOpenEasy : NativeCall (List Byte × List Byte × List Byte)

/-- `Box.MACBYTES` and `SecretBox.MACBYTES`, the length of the Poly1305 tag. -/
def macBytes : BitVec 32 := 16#32

/-- The body the four functions share: `val out = ByteArray(size)`, the native call writing into
    `out`, `if (!success) throw failure`, `return out`. -/
def sodiumCall {Input : Type} (native : NativeCall Input) (input : Input) (size : BitVec 32)
    (failure : CryptoException) : Except Throwable JByteArray := do
  let out ← JByteArray.ofSize size
  let (success, out) := native.call out input
  if !success then throw (.crypto failure)
  return out

/-! ## Section 2: The four functions -/

/-- `NaClBox.seal(message, nonce, recipientPublicKey, senderPrivateKey)`. -/
def NaClBox.seal (sodium : LazySodium)
    (message nonce recipientPublicKey senderPrivateKey : JByteArray) :
    Except Throwable JByteArray :=
  sodiumCall sodium.cryptoBoxEasy
    (message.data, nonce.data, recipientPublicKey.data, senderPrivateKey.data)
    (message.size + macBytes) (.encryption "NaCl box seal failed")

/-- `NaClBox.open(ciphertext, nonce, senderPublicKey, recipientPrivateKey)`. -/
def NaClBox.open (sodium : LazySodium)
    (ciphertext nonce senderPublicKey recipientPrivateKey : JByteArray) :
    Except Throwable JByteArray :=
  sodiumCall sodium.cryptoBoxOpenEasy
    (ciphertext.data, nonce.data, senderPublicKey.data, recipientPrivateKey.data)
    (ciphertext.size - macBytes) (.decryption "NaCl box open failed")

/-- `NaClSecretBox.seal(message, nonce, key)`. -/
def NaClSecretBox.seal (sodium : LazySodium) (message nonce key : JByteArray) :
    Except Throwable JByteArray :=
  sodiumCall sodium.cryptoSecretBoxEasy (message.data, nonce.data, key.data)
    (message.size + macBytes) (.encryption "SecretBox seal failed")

/-- `NaClSecretBox.open(ciphertext, nonce, key)`. -/
def NaClSecretBox.open (sodium : LazySodium) (ciphertext nonce key : JByteArray) :
    Except Throwable JByteArray :=
  sodiumCall sodium.cryptoSecretBoxOpenEasy (ciphertext.data, nonce.data, key.data)
    (ciphertext.size - macBytes) (.decryption "SecretBox open failed")

/-! ## Section 3: The shared body -/

theorem toInt_size_sub_macBytes (c : JByteArray) :
    (c.size - macBytes).toInt = c.data.length - 16 := by
  have := c.length_lt
  rw [BitVec.toInt_sub, JByteArray.toInt_size, show macBytes.toInt = 16 by decide, Int.bmod_def]
  split <;> omega

theorem toInt_size_add_macBytes (m : JByteArray) :
    (m.size + macBytes).toInt =
      if m.data.length + 16 < 2 ^ 31 then (m.data.length : Int) + 16
      else (m.data.length : Int) + 16 - 2 ^ 32 := by
  have := m.length_lt
  rw [BitVec.toInt_add, JByteArray.toInt_size, show macBytes.toInt = 16 by decide, Int.bmod_def]
  split <;> split <;> omega

section SodiumCall

variable {Input : Type} (native : NativeCall Input) (input : Input) (failure : CryptoException)

/-- A negative size throws `NegativeArraySizeException`, before the native call. -/
theorem sodiumCall_of_neg {size : BitVec 32} (h : size.toInt < 0) :
    sodiumCall native input size failure = .error (.negativeArraySize size.toInt) := by
  simp [sodiumCall, JByteArray.ofSize_eq_error h, bind, Except.bind]

/-- Otherwise the call returns an array of `size` bytes, or throws `failure`. -/
theorem sodiumCall_of_nonneg {size : BitVec 32} (h : ¬size.toInt < 0) :
    (∃ out, sodiumCall native input size failure = .ok out ∧ out.data.length = size.toNat) ∨
      sodiumCall native input size failure = .error (.crypto failure) := by
  obtain ⟨out0, h0, hd⟩ := JByteArray.ofSize_eq_ok h
  have hlen := native.length_call out0 input
  rcases hcall : native.call out0 input with ⟨_ | _, out⟩
  · right
    simp [sodiumCall, h0, hcall, bind, Except.bind]
  · left
    refine ⟨out, by simp [sodiumCall, h0, hcall, bind, Except.bind, pure, Except.pure], ?_⟩
    rw [hcall] at hlen
    simpa [hd] using hlen

/-- Opening allocates `ciphertext.size - 16` bytes: a plaintext of that length or `failure` when
    the ciphertext has at least 16 bytes, `NegativeArraySizeException` when it is shorter. -/
theorem sodiumCall_open (c : JByteArray) :
    (16 ≤ c.data.length →
      (∃ m, sodiumCall native input (c.size - macBytes) failure = .ok m ∧
        m.data.length = c.data.length - 16) ∨
      sodiumCall native input (c.size - macBytes) failure = .error (.crypto failure)) ∧
    (c.data.length < 16 →
      sodiumCall native input (c.size - macBytes) failure =
        .error (.negativeArraySize (c.data.length - 16))) := by
  have hsize := toInt_size_sub_macBytes c
  refine ⟨fun hc => ?_, fun hc => ?_⟩
  · have hnn : ¬(c.size - macBytes).toInt < 0 := by omega
    have hnat := toInt_eq_toNat_of_nonneg (le_of_not_lt hnn)
    rw [show c.data.length - 16 = (c.size - macBytes).toNat by omega]
    exact sodiumCall_of_nonneg native input failure hnn
  · rw [sodiumCall_of_neg native input failure (by omega), hsize]

/-- Sealing allocates `message.size + 16` bytes: below `2^31 - 16` bytes of message, a
    ciphertext of that length or `failure`; from there on the `Int` sum wraps negative and the
    allocation throws `NegativeArraySizeException`. -/
theorem sodiumCall_seal (m : JByteArray) :
    (m.data.length + 16 < 2 ^ 31 →
      (∃ c, sodiumCall native input (m.size + macBytes) failure = .ok c ∧
        c.data.length = m.data.length + 16) ∨
      sodiumCall native input (m.size + macBytes) failure = .error (.crypto failure)) ∧
    (2 ^ 31 ≤ m.data.length + 16 →
      sodiumCall native input (m.size + macBytes) failure =
        .error (.negativeArraySize (m.data.length + 16 - 2 ^ 32))) := by
  have hsize := toInt_size_add_macBytes m
  have := m.length_lt
  refine ⟨fun hm => ?_, fun hm => ?_⟩
  · rw [if_pos hm] at hsize
    have hnat := toInt_eq_toNat_of_nonneg (by omega : 0 ≤ (m.size + macBytes).toInt)
    rw [show m.data.length + 16 = (m.size + macBytes).toNat by omega]
    exact sodiumCall_of_nonneg native input failure (by omega)
  · rw [if_neg (by omega)] at hsize
    rw [sodiumCall_of_neg native input failure (by omega), hsize]

/-- A call returns an array exactly when the allocation succeeds and the native call succeeds
    on it. -/
theorem sodiumCall_eq_ok {size : BitVec 32} {out : JByteArray} :
    sodiumCall native input size failure = .ok out ↔
      ∃ out0, JByteArray.ofSize size = .ok out0 ∧ native.call out0 input = (true, out) := by
  unfold sodiumCall
  cases h : JByteArray.ofSize size with
  | error e => simp [bind, Except.bind]
  | ok out0 =>
    rcases hcall : native.call out0 input with ⟨_ | _, out'⟩ <;>
      simp [bind, Except.bind, hcall, pure, Except.pure]

end SodiumCall

/-! ## Section 4: Opening and sealing -/

/-- `NaClBox.open` and `NaClSecretBox.open` return a plaintext of `ciphertext.size - 16` bytes or
    throw their `DecryptionException` when the ciphertext is at least as long as the tag, and
    throw `NegativeArraySizeException` when it is shorter. -/
theorem open_below_mac_negative_array_size (sodium : LazySodium)
    (ciphertext nonce senderPublicKey recipientPrivateKey key : JByteArray) :
    (16 ≤ ciphertext.data.length →
      ((∃ m, NaClBox.open sodium ciphertext nonce senderPublicKey recipientPrivateKey = .ok m ∧
          m.data.length = ciphertext.data.length - 16) ∨
        NaClBox.open sodium ciphertext nonce senderPublicKey recipientPrivateKey =
          .error (.crypto (.decryption "NaCl box open failed"))) ∧
      ((∃ m, NaClSecretBox.open sodium ciphertext nonce key = .ok m ∧
          m.data.length = ciphertext.data.length - 16) ∨
        NaClSecretBox.open sodium ciphertext nonce key =
          .error (.crypto (.decryption "SecretBox open failed")))) ∧
    (ciphertext.data.length < 16 →
      NaClBox.open sodium ciphertext nonce senderPublicKey recipientPrivateKey =
        .error (.negativeArraySize (ciphertext.data.length - 16)) ∧
      NaClSecretBox.open sodium ciphertext nonce key =
        .error (.negativeArraySize (ciphertext.data.length - 16))) :=
  ⟨fun h => ⟨(sodiumCall_open _ _ _ ciphertext).1 h, (sodiumCall_open _ _ _ ciphertext).1 h⟩,
    fun h => ⟨(sodiumCall_open _ _ _ ciphertext).2 h, (sodiumCall_open _ _ _ ciphertext).2 h⟩⟩

/-- A library whose every call fails, to run the model on fixed inputs. -/
def failingSodium : LazySodium :=
  let fail {Input : Type} : NativeCall Input := ⟨fun out _ => (false, out), fun _ _ => rfl⟩
  ⟨fail, fail, fail, fail⟩

theorem open_below_mac_negative_array_size_sample :
    16 ≤ (List.replicate 16 (0 : Byte)).length ∧
    (((∃ m, NaClBox.open failingSodium ⟨List.replicate 16 0, by decide⟩ .empty .empty .empty =
          .ok m ∧ m.data.length = (List.replicate 16 (0 : Byte)).length - 16) ∨
        NaClBox.open failingSodium ⟨List.replicate 16 0, by decide⟩ .empty .empty .empty =
          .error (.crypto (.decryption "NaCl box open failed"))) ∧
      ((∃ m, NaClSecretBox.open failingSodium ⟨List.replicate 16 0, by decide⟩ .empty .empty =
          .ok m ∧ m.data.length = (List.replicate 16 (0 : Byte)).length - 16) ∨
        NaClSecretBox.open failingSodium ⟨List.replicate 16 0, by decide⟩ .empty .empty =
          .error (.crypto (.decryption "SecretBox open failed")))) ∧
    JByteArray.empty.data.length < 16 ∧
    (NaClBox.open failingSodium .empty .empty .empty .empty =
        .error (.negativeArraySize (JByteArray.empty.data.length - 16)) ∧
      NaClSecretBox.open failingSodium .empty .empty .empty =
        .error (.negativeArraySize (JByteArray.empty.data.length - 16))) :=
  ⟨by decide,
    (open_below_mac_negative_array_size failingSodium ⟨List.replicate 16 0, by decide⟩ .empty
      .empty .empty .empty).1 (by decide),
    by decide,
    (open_below_mac_negative_array_size failingSodium .empty .empty .empty .empty .empty).2
      (by decide)⟩

/-- `NaClBox.seal` and `NaClSecretBox.seal` return a ciphertext of `message.size + 16` bytes or
    throw their `EncryptionException` while the message has fewer than `2^31 - 16` bytes; from
    there on the `Int` sum `message.size + MAC_BYTES` wraps negative and both throw
    `NegativeArraySizeException` before the library is called. -/
theorem seal_length_or_negative_array_size (sodium : LazySodium)
    (message nonce recipientPublicKey senderPrivateKey key : JByteArray) :
    (message.data.length + 16 < 2 ^ 31 →
      ((∃ c, NaClBox.seal sodium message nonce recipientPublicKey senderPrivateKey = .ok c ∧
          c.data.length = message.data.length + 16) ∨
        NaClBox.seal sodium message nonce recipientPublicKey senderPrivateKey =
          .error (.crypto (.encryption "NaCl box seal failed"))) ∧
      ((∃ c, NaClSecretBox.seal sodium message nonce key = .ok c ∧
          c.data.length = message.data.length + 16) ∨
        NaClSecretBox.seal sodium message nonce key =
          .error (.crypto (.encryption "SecretBox seal failed")))) ∧
    (2 ^ 31 ≤ message.data.length + 16 →
      NaClBox.seal sodium message nonce recipientPublicKey senderPrivateKey =
        .error (.negativeArraySize (message.data.length + 16 - 2 ^ 32)) ∧
      NaClSecretBox.seal sodium message nonce key =
        .error (.negativeArraySize (message.data.length + 16 - 2 ^ 32))) :=
  ⟨fun h => ⟨(sodiumCall_seal _ _ _ message).1 h, (sodiumCall_seal _ _ _ message).1 h⟩,
    fun h => ⟨(sodiumCall_seal _ _ _ message).2 h, (sodiumCall_seal _ _ _ message).2 h⟩⟩

end Whisper

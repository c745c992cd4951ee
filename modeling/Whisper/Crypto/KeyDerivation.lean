import Whisper.Crypto.BIP39
import Whisper.Crypto.HKDF
import Whisper.Crypto.NaCl

/-! # `KeyDerivation.kt`: every key of an account from its mnemonic

    `deriveAllKeys` turns the mnemonic into the 64-byte BIP39 seed, derives three 32-byte values
    from the seed by HKDF-SHA256 under the salt `"whisper"`, one per domain (`"whisper/enc"`,
    `"whisper/sign"`, `"whisper/contacts"`), and makes an X25519 key pair from the first and an
    Ed25519 key pair from the second; the third is the contacts key. The two LazySodium calls
    that make the key pairs return whether they succeeded, and the code does not look at it.

    PBKDF2, the HMAC and the LazySodium calls are parameters. The main results:

    - `deriveAllKeys_eq_error`, `deriveAllKeys_eq_ok`, `keysOf_of_deriveAllKeys`:
      `deriveAllKeys` throws `InvalidMnemonicException` for the phrases `validateMnemonic`
      rejects and returns the phrase's keys (`KeysOf`) for every other phrase; each domain's
      value is one HMAC block, `HMAC(PRK, info || 0x01)` with `PRK = HMAC("whisper", seed)`,
      which is RFC 5869's HKDF of the seed (`rfcHkdf_32`);
    - `length_deriveAllKeys`: the keys have 32, 32, 32, 64 and 32 bytes, whatever the key-pair
      calls return.
-/

namespace Whisper.KeyDerivation

open BIP39 HKDF

/-! ## Section 1: The primitives and the constants -/

/-- `SecretKeyFactory.getInstance("PBKDF2WithHmacSHA512")`, whose
    `generateSecret(spec).encoded` has `keyLength / 8` bytes. -/
structure Pbkdf2HmacSha512 where
  /-- The derived key for a password, a salt, an iteration count and a length in bits. -/
  derive : Pbkdf2
  /-- It has `keyLength / 8` bytes. -/
  length_derive : ∀ password salt iterations keyLength,
    (derive password salt iterations keyLength).length = keyLength / 8

/-- The two LazySodium calls that make key pairs. Each writes into the arrays it is passed,
    keeping their lengths, and returns whether it succeeded. -/
structure KeyPairSodium where
  /-- `cryptoScalarmultBase(publicKey, privateKey)`: writes `publicKey`. -/
  cryptoScalarmultBase : NativeCall (List Byte)
  /-- `cryptoSignSeedKeypair(publicKey, privateKey, seed)`: writes both arrays. -/
  cryptoSignSeedKeypair : JByteArray → JByteArray → List Byte → Bool × JByteArray × JByteArray
  /-- Both arrays keep their lengths. -/
  length_cryptoSignSeedKeypair : ∀ pk sk seed,
    (cryptoSignSeedKeypair pk sk seed).2.1.data.length = pk.data.length ∧
      (cryptoSignSeedKeypair pk sk seed).2.2.data.length = sk.data.length

/-- `Constants.HKDF_SALT.toByteArray(Charsets.UTF_8)`. -/
def hkdfSalt : JByteArray := ⟨encodeUtf8 (.ofString "whisper"), by decide⟩

/-- `Constants.ENCRYPTION_DOMAIN.toByteArray(Charsets.UTF_8)`. -/
def encryptionDomain : JByteArray := ⟨encodeUtf8 (.ofString "whisper/enc"), by decide⟩

/-- `Constants.SIGNING_DOMAIN.toByteArray(Charsets.UTF_8)`. -/
def signingDomain : JByteArray := ⟨encodeUtf8 (.ofString "whisper/sign"), by decide⟩

/-- `Constants.CONTACTS_DOMAIN.toByteArray(Charsets.UTF_8)`. -/
def contactsDomain : JByteArray := ⟨encodeUtf8 (.ofString "whisper/contacts"), by decide⟩

/-- `Box.PUBLICKEYBYTES`. -/
def boxPublicKeyBytes : BitVec 32 := 32#32

/-- `Box.SECRETKEYBYTES`. -/
def boxSecretKeyBytes : BitVec 32 := 32#32

/-- `Sign.PUBLICKEYBYTES`. -/
def signPublicKeyBytes : BitVec 32 := 32#32

/-- `Sign.SECRETKEYBYTES`. -/
def signSecretKeyBytes : BitVec 32 := 64#32

/-- `ByteArray(n)` for the sizes above, `n` zero bytes. -/
def zeros (n : Nat) (h : n < 2 ^ 31) : JByteArray := ⟨List.replicate n 0, by simpa using h⟩

variable (U : UnicodeTables) (kdf : Pbkdf2HmacSha512) (hmac : HmacSha256)
  (sodium : KeyPairSodium)

/-! ## Section 2: `deriveAllKeys` -/

theorem length_seedFromMnemonic {m : JString} {seed : List Byte}
    (h : seedFromMnemonic U kdf.derive m = .ok seed) : seed.length = 64 := by
  rw [seedFromMnemonic_eq] at h
  split at h
  · cases h
    rw [kdf.length_derive]
  · cases h

/-- `BIP39.seedFromMnemonic(mnemonic)`, as the array it returns. -/
def seedBytes (m : JString) : Except Throwable JByteArray :=
  match h : seedFromMnemonic U kdf.derive m with
  | .ok seed => .ok ⟨seed, by rw [length_seedFromMnemonic U kdf h]; decide⟩
  | .error e => .error (.crypto e)

/-- `generateEncryptionKeyPair(seed)`: the private key is the seed copied into a
    `Box.SECRETKEYBYTES` array, the public key what `cryptoScalarmultBase` wrote, whether or not
    it succeeded. -/
def generateEncryptionKeyPair (seed : JByteArray) :
    Except Throwable (JByteArray × JByteArray) := do
  let publicKey ← JByteArray.ofSize boxPublicKeyBytes
  let privateKey ← JByteArray.ofSize boxSecretKeyBytes
  let privateKey ← JByteArray.arraycopy seed 0 privateKey 0 32
  let publicKey := (sodium.cryptoScalarmultBase.call publicKey privateKey.data).2
  return (publicKey, privateKey)

/-- `generateSigningKeyPair(seed)`: both keys as `cryptoSignSeedKeypair` wrote them, whether or
    not it succeeded. -/
def generateSigningKeyPair (seed : JByteArray) : Except Throwable (JByteArray × JByteArray) := do
  let publicKey ← JByteArray.ofSize signPublicKeyBytes
  let privateKey ← JByteArray.ofSize signSecretKeyBytes
  return (sodium.cryptoSignSeedKeypair publicKey privateKey seed.data).2

/-- `DerivedKeys`. -/
structure DerivedKeys where
  /-- The X25519 public key. -/
  encPublicKey : JByteArray
  /-- The X25519 private key. -/
  encPrivateKey : JByteArray
  /-- The Ed25519 public key. -/
  signPublicKey : JByteArray
  /-- The Ed25519 private key. -/
  signPrivateKey : JByteArray
  /-- The key for the contacts backup. -/
  contactsKey : JByteArray
  deriving DecidableEq

/-- `deriveAllKeys(mnemonic)`. -/
def deriveAllKeys (mnemonic : JString) : Except Throwable DerivedKeys := do
  let seed ← seedBytes U kdf mnemonic
  let salt := hkdfSalt
  let encSeed ← deriveKey hmac seed salt encryptionDomain 32#32
  let signSeed ← deriveKey hmac seed salt signingDomain 32#32
  let contactsKey ← deriveKey hmac seed salt contactsDomain 32#32
  let encKeyPair ← generateEncryptionKeyPair sodium encSeed
  let signKeyPair ← generateSigningKeyPair sodium signSeed
  return ⟨encKeyPair.1, encKeyPair.2, signKeyPair.1, signKeyPair.2, contactsKey⟩

/-! ## Section 3: The steps -/

/-- The BIP39 seed of a phrase: PBKDF2-HMAC-SHA512 of its normalized form under the salt
    `"mnemonic"`, 2048 iterations, 512 bits. -/
def bip39Seed (m : JString) : List Byte :=
  kdf.derive (normalizeMnemonic U m) (encodeUtf8 bip39Salt) bip39Iterations (bip39SeedLength * 8)

/-- What HKDF derives from the seed for a domain in 32 bytes: one HMAC block,
    `HMAC(HMAC("whisper", seed), info || 0x01)`. -/
def domainKey (m : JString) (info : JByteArray) : List Byte :=
  hmac.mac (hmac.mac hkdfSalt.data (bip39Seed U kdf m)) (info.data ++ [1#8])

theorem seedBytes_eq (m : JString) :
    seedBytes U kdf m =
      if validateMnemonic U m then
        .ok ⟨bip39Seed U kdf m, by rw [bip39Seed, kdf.length_derive]; decide⟩
      else .error (.crypto .invalidMnemonic) := by
  unfold seedBytes
  split <;> rename_i heq <;> rw [seedFromMnemonic_eq] at heq <;> split at heq <;> cases heq
  · rw [if_pos ‹_›]; rfl
  · rw [if_neg ‹_›]

/-- Thirty-two bytes of RFC 5869's HKDF are its first block. -/
theorem rfcHkdf_32 (salt ikm info : List Byte) :
    rfcHkdf hmac salt ikm info 32 = some (hmac.mac (hmac.mac salt ikm) (info ++ [1#8])) := by
  simp [rfcHkdf, rfcExpand, rfcBlocks, rfcT, hmac.length_mac, show List.range 1 = [0] from rfl]

/-- Each call of `HKDF.deriveKey` in `deriveAllKeys` returns RFC 5869's 32 bytes. -/
theorem deriveKey_hkdfSalt (ikm info : JByteArray) :
    deriveKey hmac ikm hkdfSalt info 32#32 =
      .ok ⟨hmac.mac (hmac.mac hkdfSalt.data ikm.data) (info.data ++ [1#8]),
        by rw [hmac.length_mac]; decide⟩ := by
  obtain ⟨okm, h, hrfc⟩ := @deriveKey_eq_rfcHkdf hmac ikm hkdfSalt info 32#32 (by decide)
    (by decide) (by decide)
  rw [show (32#32 : BitVec 32).toNat = 32 from rfl, rfcHkdf_32, Option.some.injEq] at hrfc
  rw [h]
  exact congrArg Except.ok (JByteArray.ext hrfc.symm)

theorem ofSize_zeros {size : BitVec 32} (h : 0 ≤ size.toInt) :
    JByteArray.ofSize size = .ok (zeros size.toNat (toNat_lt_of_toInt_nonneg (not_lt.mpr h))) :=
  JByteArray.ofSize_eq_ok_iff.mpr ⟨not_lt.mpr h, rfl⟩

/-- From a seed of at least 32 bytes, the private key is its first 32 bytes and the public key
    what `cryptoScalarmultBase` wrote into a zero array. -/
theorem generateEncryptionKeyPair_eq {seed : JByteArray} (h : 32 ≤ seed.data.length) :
    generateEncryptionKeyPair sodium seed =
      .ok ((sodium.cryptoScalarmultBase.call (zeros 32 (by decide)) (seed.data.take 32)).2,
        ⟨seed.data.take 32, Nat.lt_of_le_of_lt (List.length_take_le' _ _) seed.length_lt⟩) := by
  obtain ⟨sk, hsk, hd⟩ := @JByteArray.arraycopy_eq_ok seed
    (zeros boxSecretKeyBytes.toNat (by decide)) 0 0 32
    ⟨h, by simp only [zeros, List.length_replicate]; decide⟩
  have e : sk = ⟨seed.data.take 32, Nat.lt_of_le_of_lt (List.length_take_le' _ _) seed.length_lt⟩ :=
    JByteArray.ext (by simpa [zeros, show boxSecretKeyBytes.toNat = 32 from rfl] using hd)
  subst e
  simp only [generateEncryptionKeyPair, ofSize_zeros (show 0 ≤ boxPublicKeyBytes.toInt by decide),
    ofSize_zeros (show 0 ≤ boxSecretKeyBytes.toInt by decide), bind, Except.bind, hsk, pure,
    Except.pure]
  rfl

/-- Both keys are what `cryptoSignSeedKeypair` wrote into zero arrays of 32 and 64 bytes. -/
theorem generateSigningKeyPair_eq (seed : JByteArray) :
    generateSigningKeyPair sodium seed =
      .ok (sodium.cryptoSignSeedKeypair (zeros 32 (by decide)) (zeros 64 (by decide))
        seed.data).2 := by
  simp only [generateSigningKeyPair, ofSize_zeros (show 0 ≤ signPublicKeyBytes.toInt by decide),
    ofSize_zeros (show 0 ≤ signSecretKeyBytes.toInt by decide), bind, Except.bind, pure,
    Except.pure]
  rfl

/-! ## Section 4: The keys of a phrase -/

/-- A phrase `validateMnemonic` rejects makes `deriveAllKeys` throw
    `InvalidMnemonicException`, before any key is derived. -/
theorem deriveAllKeys_eq_error {m : JString} (hv : validateMnemonic U m = false) :
    deriveAllKeys U kdf hmac sodium m = .error (.crypto .invalidMnemonic) := by
  simp [deriveAllKeys, seedBytes_eq, hv, bind, Except.bind]

/-- The keys of a phrase: the X25519 private key is the encryption domain's key and its public
    key what `cryptoScalarmultBase` wrote into a zero array, the Ed25519 pair is what
    `cryptoSignSeedKeypair` wrote into zero arrays from the signing domain's key, and the
    contacts key is the contacts domain's key. -/
structure KeysOf (m : JString) (keys : DerivedKeys) : Prop where
  /-- The X25519 private key. -/
  encPrivateKey : keys.encPrivateKey.data = domainKey U kdf hmac m encryptionDomain
  /-- The X25519 public key. -/
  encPublicKey :
    keys.encPublicKey =
      (sodium.cryptoScalarmultBase.call (zeros 32 (by decide)) keys.encPrivateKey.data).2
  /-- The Ed25519 pair. -/
  signKeys :
    (keys.signPublicKey, keys.signPrivateKey) =
      (sodium.cryptoSignSeedKeypair (zeros 32 (by decide)) (zeros 64 (by decide))
        (domainKey U kdf hmac m signingDomain)).2
  /-- The contacts key. -/
  contactsKey : keys.contactsKey.data = domainKey U kdf hmac m contactsDomain

/-- For every other phrase `deriveAllKeys` returns the phrase's keys. -/
theorem deriveAllKeys_eq_ok {m : JString} (hv : validateMnemonic U m = true) :
    ∃ keys, deriveAllKeys U kdf hmac sodium m = .ok keys ∧ KeysOf U kdf hmac sodium m keys := by
  simp only [deriveAllKeys, seedBytes_eq, hv, if_true, deriveKey_hkdfSalt, bind, Except.bind,
    generateSigningKeyPair_eq, pure, Except.pure]
  rw [generateEncryptionKeyPair_eq sodium]
  · exact ⟨_, rfl, List.take_of_length_le (hmac.length_mac _ _).le, rfl, rfl, rfl⟩
  · exact (hmac.length_mac _ _).ge

/-- What `deriveAllKeys` returns, when it returns, are the keys of an accepted phrase. -/
theorem keysOf_of_deriveAllKeys {m : JString} {keys : DerivedKeys}
    (h : deriveAllKeys U kdf hmac sodium m = .ok keys) :
    validateMnemonic U m = true ∧ KeysOf U kdf hmac sodium m keys := by
  cases hv : validateMnemonic U m
  · rw [deriveAllKeys_eq_error U kdf hmac sodium hv] at h
    cases h
  · obtain ⟨keys', h', hk⟩ := deriveAllKeys_eq_ok U kdf hmac sodium hv
    obtain rfl : keys = keys' := Except.ok.inj (h.symm.trans h')
    exact ⟨rfl, hk⟩

/-- Whatever the phrase, the keys have 32, 32, 32, 64 and 32 bytes. -/
theorem length_deriveAllKeys {m : JString} {keys : DerivedKeys}
    (h : deriveAllKeys U kdf hmac sodium m = .ok keys) :
    keys.encPublicKey.data.length = 32 ∧ keys.encPrivateKey.data.length = 32 ∧
      keys.signPublicKey.data.length = 32 ∧ keys.signPrivateKey.data.length = 64 ∧
      keys.contactsKey.data.length = 32 := by
  obtain ⟨-, henc, hpk, hsign, hcon⟩ := keysOf_of_deriveAllKeys U kdf hmac sodium h
  obtain ⟨hspk, hssk⟩ := sodium.length_cryptoSignSeedKeypair (zeros 32 (by decide))
    (zeros 64 (by decide)) (domainKey U kdf hmac m signingDomain)
  simp only [Prod.ext_iff] at hsign
  rw [hpk, sodium.cryptoScalarmultBase.length_call, henc, hcon, hsign.1, hsign.2, hspk, hssk]
  simp [zeros, domainKey, hmac.length_mac]

/-- A PBKDF2 that ignores its input, to run the model on fixed inputs. -/
def zeroPbkdf2 : Pbkdf2HmacSha512 :=
  ⟨fun _ _ _ keyLength => List.replicate (keyLength / 8) 0,
    fun _ _ _ _ => List.length_replicate _ _⟩

/-- Key-pair calls that fail and leave their arrays as they were. -/
def failingKeyPairs : KeyPairSodium :=
  ⟨⟨fun out _ => (false, out), fun _ _ => rfl⟩, fun pk sk _ => (false, pk, sk),
    fun _ _ _ => ⟨rfl, rfl⟩⟩

/-- Twelve times the first word of the list is a phrase `validateMnemonic` accepts. -/
theorem validateMnemonic_abandon :
    validateMnemonic asciiTables (phrase (List.replicate 12 abandon)) = true :=
  validateMnemonic_phrase asciiTables (by simp) (by simp; decide)

theorem length_deriveAllKeys_abandon :
    ∃ keys, deriveAllKeys asciiTables zeroPbkdf2 zeroHmac failingKeyPairs
        (phrase (List.replicate 12 abandon)) = .ok keys ∧
      keys.encPublicKey.data.length = 32 ∧ keys.encPrivateKey.data.length = 32 ∧
      keys.signPublicKey.data.length = 32 ∧ keys.signPrivateKey.data.length = 64 ∧
      keys.contactsKey.data.length = 32 :=
  let ⟨keys, h, _⟩ :=
    deriveAllKeys_eq_ok asciiTables zeroPbkdf2 zeroHmac failingKeyPairs validateMnemonic_abandon
  ⟨keys, h, length_deriveAllKeys asciiTables zeroPbkdf2 zeroHmac failingKeyPairs h⟩

end Whisper.KeyDerivation

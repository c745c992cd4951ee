import Whisper.Jvm.Base64Decoder
import Mathlib.Logic.Function.Basic

/-! # `KeystoreManager.kt` and `SecureStorage.kt`: the account's secrets at rest

    `SecureStorage` keeps the account in `EncryptedSharedPreferences`, a map from keys to
    strings. The two private keys, the contacts key and the mnemonic are wrapped once more under
    an AES key of the Android keystore: `KeystoreManager.wrapKey` encrypts with AES-GCM under a
    fresh 12-byte IV and returns `iv + ciphertext`, which is stored Base64-encoded. The public
    keys are stored Base64-encoded, and the session token, the Whisper ID and the device ID as
    they are.

    The model keeps the state both classes share: the map `prefs` and the keystore entry under
    `KEYSTORE_ALIAS`. What the code draws at random, the IV of the cipher, the key of the key
    generator and the UUID of `deviceId`, is an argument of the call that draws it. AES-GCM is
    the parameter `AesGcm`, which carries its two laws: the ciphertext is the plaintext and a
    16-byte tag, and decryption under the key and IV of an encryption gives back the plaintext.
    The encryption `EncryptedSharedPreferences` adds is transparent to the code and is not
    modelled; what it stores of a string is the string's UTF-8 bytes, and for `null` its marker
    `"__NULL__"`, and `getString` decodes the bytes and returns `null` for the marker. `apply()`
    writes the map in memory at once.

    What the storage is for is the record `Profile`: one optional value per property, the last
    one its setter was given since the last `clearAll`. `Refines` relates the two levels, and
    the main results are:

    - `Refines.call`: every call, setters, getters, `deviceId` and `clearAll`, keeps the
      relation; the getters of wrapped properties may create the keystore key, and the relation
      says that this happens only when no wrapped value is stored;
    - `getters_run`: along every sequence of calls from a fresh install, every getter returns
      the abstract value as the preferences read it back (`readBack`: through UTF-8, and `null`
      for `"__NULL__"`), and throws nothing while the stored arrays are short enough for
      `decodeBase64`; no getter changes the state;
    - `mnemonic_run`: the mnemonic is read back through UTF-8, which gives back, character for
      character, every mnemonic that is well-formed UTF-16, and without a throw below
      536,870,883 UTF-8 bytes, where the wrapped text's allocation stops wrapping;
    - `deviceId_stable`: the device ID is drawn once and kept until `clearAll`.
-/

namespace Whisper

/-! ## Section 1: `KeystoreManager` -/

/-- The IV of an `AES/GCM/NoPadding` cipher initialised to encrypt: twelve bytes the provider
    draws at random. -/
structure Iv where
  /-- `cipher.iv`. -/
  bytes : List Byte
  /-- GCM's default IV length. -/
  length_eq : bytes.length = 12
  deriving DecidableEq

/-- `AES/GCM/NoPadding` with 128-bit tags, under keys of type `K`. -/
structure AesGcm (K : Type) where
  /-- `doFinal(plaintext)` in `ENCRYPT_MODE` under a key and an IV: the ciphertext and its
      tag. -/
  encrypt : K → List Byte → List Byte → List Byte
  /-- `doFinal(ciphertext)` in `DECRYPT_MODE`; `none` is the `AEADBadTagException` it
      throws. -/
  decrypt : K → List Byte → List Byte → Option (List Byte)
  /-- The ciphertext is as long as the plaintext, followed by the 16-byte tag. -/
  length_encrypt : ∀ k iv m, (encrypt k iv m).length = m.length + 16
  /-- Decryption under the key and IV of an encryption gives back the plaintext. -/
  decrypt_encrypt : ∀ k iv m, decrypt k iv (encrypt k iv m) = some m

/-- What `unwrapKey` throws. -/
inductive KeystoreException where
  /-- `IndexOutOfBoundsException` from `copyOfRange`: `toIndex` is past the end. -/
  | indexOutOfBounds
  /-- `IllegalArgumentException` from `copyOfRange`: `fromIndex` is past `toIndex`. -/
  | illegalArgument
  /-- `AEADBadTagException` from `doFinal`: the tag does not check out under the key. -/
  | aeadBadTag
  deriving DecidableEq, Repr

/-- Kotlin's `ByteArray.copyOfRange(fromIndex, toIndex)`. -/
def copyOfRange (a : List Byte) (fromIndex toIndex : Nat) :
    Except KeystoreException (List Byte) :=
  if a.length < toIndex then .error .indexOutOfBounds
  else if toIndex < fromIndex then .error .illegalArgument
  else .ok ((a.drop fromIndex).take (toIndex - fromIndex))

namespace KeystoreManager

variable {K : Type}

/-- `getOrCreateKey()`: the key under `KEYSTORE_ALIAS`; if there is none, `generateKey()`
    makes the key `fresh` and stores it under the alias. -/
def getOrCreateKey (fresh : K) : Option K → K × Option K
  | some key => (key, some key)
  | none => (fresh, some fresh)

/-- `wrapKey(keyToWrap)`: `iv + ciphertext`, with the keystore after `getOrCreateKey`. -/
def wrapKey (gcm : AesGcm K) (iv : Iv) (fresh : K) (keyStore : Option K)
    (keyToWrap : List Byte) : List Byte × Option K :=
  let (key, keyStore) := getOrCreateKey fresh keyStore
  (iv.bytes ++ gcm.encrypt key iv.bytes keyToWrap, keyStore)

/-- `unwrapKey(wrappedKey)`: the first 12 bytes are the IV and the rest the ciphertext; the key
    is fetched, or made, once both copies have succeeded. -/
def unwrapKey (gcm : AesGcm K) (fresh : K) (keyStore : Option K) (wrappedKey : List Byte) :
    Except KeystoreException (List Byte) × Option K :=
  match copyOfRange wrappedKey 0 12, copyOfRange wrappedKey 12 wrappedKey.length with
  | .ok iv, .ok ciphertext =>
    let (key, keyStore) := getOrCreateKey fresh keyStore
    match gcm.decrypt key iv ciphertext with
    | some plain => (.ok plain, keyStore)
    | none => (.error .aeadBadTag, keyStore)
  | .error e, _ => (.error e, keyStore)
  | .ok _, .error e => (.error e, keyStore)

/-- `deleteKey()`: afterwards there is no key under the alias, whether there was one or not. -/
def deleteKey (_ : Option K) : Option K := none

/-- Under the key it was wrapped with, `unwrapKey` gives back the wrapped bytes and leaves the
    keystore as it is. -/
theorem unwrapKey_wrapped (gcm : AesGcm K) (fresh key : K) (iv : Iv) (m : List Byte) :
    unwrapKey gcm fresh (some key) (iv.bytes ++ gcm.encrypt key iv.bytes m) =
      (.ok m, some key) := by
  have h := iv.length_eq
  simp [unwrapKey, copyOfRange, h, getOrCreateKey, gcm.decrypt_encrypt, List.take_left',
    List.drop_left']

end KeystoreManager

/-! ## Section 2: `SecureStorage` -/

/-- What the getters of `SecureStorage` throw: `decodeBase64`'s exception or `unwrapKey`'s. -/
inductive StorageException where
  /-- From `decodeBase64`. -/
  | decode (e : Throwable)
  /-- From `KeystoreManager.unwrapKey`. -/
  | unwrap (e : KeystoreException)
  deriving DecidableEq, Repr

/-- The state behind a `SecureStorage`: the map `prefs`, and the keystore entry that its
    `KeystoreManager` reads and writes. -/
structure SecureStorage (K : Type) where
  /-- `prefs`: the UTF-8 bytes `EncryptedSharedPreferences` holds under each key, if any. -/
  prefs : String → Option (List Byte)
  /-- The AES key under `KEYSTORE_ALIAS`, if there is one. -/
  keyStore : Option K

/-- `String(bytes, Charsets.UTF_8)` on well-formed UTF-8, the only bytes `SecureStorage` ever
    gives it: one character for each encoded sequence. -/
def newString (bytes : List Byte) : JString := decodeUtf8 bytes.length bytes

theorem length_le_length_encodeUtf8 (s : JString) : s.length ≤ (encodeUtf8 s).length := by
  have hunit : ∀ c, 1 ≤ (encodeUnit c).length := fun c => by
    unfold encodeUnit utf8Unit
    split_ifs <;> simp
  induction s using encodeUtf8.induct with
  | case1 => simp
  | case2 c => simpa [encodeUtf8] using hunit c
  | case3 c d rest hp ih =>
    rw [encodeUtf8, if_pos hp]
    simp only [List.length_cons, List.length_append, utf8Pair, List.length_nil] at ih ⊢
    omega
  | case4 c d rest hp ih =>
    rw [encodeUtf8, if_neg hp]
    simp only [List.length_cons, List.length_append] at ih ⊢
    have := hunit c
    omega

/-- Reading the UTF-8 bytes of a well-formed string back gives the string: the mnemonic that
    was set is the mnemonic read. -/
theorem newString_encodeUtf8 (s : JString) (hs : wellFormed s) : newString (encodeUtf8 s) = s :=
  decodeUtf8_encodeUtf8 s hs _ (length_le_length_encodeUtf8 s)

/-- A character of `UUID.toString()`: a lowercase hexadecimal digit or `-`. -/
def isUuidChar (c : Char16) : Bool :=
  (0x30 ≤ c.toNat && c.toNat ≤ 0x39) || (0x61 ≤ c.toNat && c.toNat ≤ 0x66) ||
    c.toNat == 0x2D

/-- `UUID.randomUUID().toString()`: 36 characters, hexadecimal digits and dashes. -/
structure Uuid where
  /-- The string. -/
  chars : JString
  /-- Groups of 8, 4, 4, 4 and 12 digits, and four dashes. -/
  length_eq : chars.length = 36
  /-- Every character is a digit or a dash. -/
  all_isUuidChar : chars.all isUuidChar = true

namespace SecureStorage

variable {K : Type} (gcm : AesGcm K)

/-- `EncryptedSharedPreferences`' `NULL_VALUE`, which `putString` stores for `null`. -/
def nullValue : JString := JString.ofString "__NULL__"

/-- What `getString` makes of stored bytes: the string they encode, `null` for `NULL_VALUE`. -/
def decodeString (bytes : List Byte) : Option JString :=
  if newString bytes = nullValue then none else some (newString bytes)

/-- What `getString` returns for what `putString` was given: the UTF-8 bytes of the value, or of
    `NULL_VALUE` for `null`, read back. -/
def readBack (value : Option JString) : Option JString :=
  decodeString (encodeUtf8 (value.getD nullValue))

/-- A fresh install: no preferences and no keystore key. -/
def init : SecureStorage K := ⟨fun _ => none, none⟩

/-- `prefs.edit().putString(key, value).apply()`: the UTF-8 bytes of the value, and of
    `NULL_VALUE` for `null`. -/
def putString (key : String) (value : Option JString) (st : SecureStorage K) : SecureStorage K :=
  { st with prefs := Function.update st.prefs key (some (encodeUtf8 (value.getD nullValue))) }

/-- `prefs.getString(key, null)`. -/
def getString (key : String) (st : SecureStorage K) : Option JString :=
  (st.prefs key).bind decodeString

@[simp] theorem putString_keyStore (key : String) (value : Option JString)
    (st : SecureStorage K) : (st.putString key value).keyStore = st.keyStore := rfl

/-- The getter of a wrapped property:
    `prefs.getString(key, null)?.decodeBase64()?.let { keystoreManager.unwrapKey(it) }`. -/
def getWrapped (fresh : K) (key : String) (st : SecureStorage K) :
    Except StorageException (Option (List Byte)) × SecureStorage K :=
  match st.getString key with
  | none => (.ok none, st)
  | some s =>
    match JString.decodeBase64 s with
    | .error e => (.error (.decode e), st)
    | .ok wrapped =>
      match KeystoreManager.unwrapKey gcm fresh st.keyStore wrapped with
      | (.ok plain, keyStore) => (.ok (some plain), { st with keyStore })
      | (.error e, keyStore) => (.error (.unwrap e), { st with keyStore })

/-- The setter of a wrapped property:
    `putString(key, value?.let { keystoreManager.wrapKey(it).encodeBase64() })`. -/
def setWrapped (iv : Iv) (fresh : K) (key : String) (value : Option (List Byte))
    (st : SecureStorage K) : SecureStorage K :=
  match value with
  | none => st.putString key none
  | some plain =>
    let (wrapped, keyStore) := KeystoreManager.wrapKey gcm iv fresh st.keyStore plain
    { st with keyStore }.putString key (some (encodeBase64 wrapped))

/-- The getter of a Base64 property: `prefs.getString(key, null)?.decodeBase64()`. -/
def getEncoded (key : String) (st : SecureStorage K) :
    Except StorageException (Option (List Byte)) :=
  match st.getString key with
  | none => .ok none
  | some s =>
    match JString.decodeBase64 s with
    | .ok bytes => .ok (some bytes)
    | .error e => .error (.decode e)

/-- The setter of a Base64 property: `putString(key, value?.encodeBase64())`. -/
def setEncoded (key : String) (value : Option (List Byte)) (st : SecureStorage K) :
    SecureStorage K :=
  st.putString key (value.map encodeBase64)

/-- `encPrivateKey`'s getter. -/
def encPrivateKey (fresh : K) := getWrapped gcm fresh "enc_priv"

/-- `encPrivateKey`'s setter. -/
def setEncPrivateKey (iv : Iv) (fresh : K) := setWrapped gcm iv fresh "enc_priv"

/-- `encPublicKey`'s getter. -/
def encPublicKey : SecureStorage K → Except StorageException (Option (List Byte)) :=
  getEncoded "enc_pub"

/-- `encPublicKey`'s setter. -/
def setEncPublicKey : Option (List Byte) → SecureStorage K → SecureStorage K :=
  setEncoded "enc_pub"

/-- `signPrivateKey`'s getter. -/
def signPrivateKey (fresh : K) := getWrapped gcm fresh "sign_priv"

/-- `signPrivateKey`'s setter. -/
def setSignPrivateKey (iv : Iv) (fresh : K) := setWrapped gcm iv fresh "sign_priv"

/-- `signPublicKey`'s getter. -/
def signPublicKey : SecureStorage K → Except StorageException (Option (List Byte)) :=
  getEncoded "sign_pub"

/-- `signPublicKey`'s setter. -/
def setSignPublicKey : Option (List Byte) → SecureStorage K → SecureStorage K :=
  setEncoded "sign_pub"

/-- `contactsKey`'s getter. -/
def contactsKey (fresh : K) := getWrapped gcm fresh "contacts_key"

/-- `contactsKey`'s setter. -/
def setContactsKey (iv : Iv) (fresh : K) := setWrapped gcm iv fresh "contacts_key"

/-- `mnemonic`'s getter: the unwrapped bytes read as UTF-8,
    `String(keystoreManager.unwrapKey(it), Charsets.UTF_8)`. -/
def mnemonic (fresh : K) (st : SecureStorage K) :
    Except StorageException (Option JString) × SecureStorage K :=
  let (result, st) := getWrapped gcm fresh "mnemonic" st
  (result.map (Option.map newString), st)

/-- `mnemonic`'s setter: the string's UTF-8 bytes, `value?.toByteArray()`, wrapped. -/
def setMnemonic (iv : Iv) (fresh : K) (value : Option JString) :=
  setWrapped gcm iv fresh "mnemonic" (value.map encodeUtf8)

/-- `sessionToken`'s getter: `prefs.getString("session_token", null)`. -/
def sessionToken : SecureStorage K → Option JString := getString "session_token"

/-- `sessionToken`'s setter. -/
def setSessionToken : Option JString → SecureStorage K → SecureStorage K :=
  putString "session_token"

/-- `whisperId`'s getter: `prefs.getString("whisper_id", null)`. -/
def whisperId : SecureStorage K → Option JString := getString "whisper_id"

/-- `whisperId`'s setter. -/
def setWhisperId : Option JString → SecureStorage K → SecureStorage K :=
  putString "whisper_id"

/-- `deviceId`: the stored ID, or else the new `UUID.randomUUID().toString()`, here `uuid`,
    which is stored first. -/
def deviceId (uuid : Uuid) (st : SecureStorage K) : JString × SecureStorage K :=
  match st.getString "device_id" with
  | some id => (id, st)
  | none => (uuid.chars, st.putString "device_id" (some uuid.chars))

/-- `clearAll()`: `prefs.edit().clear().apply()`, then `keystoreManager.deleteKey()`. -/
def clearAll (st : SecureStorage K) : SecureStorage K :=
  ⟨fun _ => none, KeystoreManager.deleteKey st.keyStore⟩

/-- `isLoggedIn()`. -/
def isLoggedIn (st : SecureStorage K) : Bool := st.sessionToken.isSome && st.whisperId.isSome

/-! ## Section 3: Runs -/

/-- A call on a `SecureStorage` that may change its state, with the random values it draws:
    every setter, the getters of the wrapped properties (which may create the keystore key),
    `deviceId` and `clearAll`. -/
inductive Call (K : Type) where
  /-- `encPrivateKey = value`, under the cipher's IV and the key the generator would make. -/
  | setEncPrivateKey (iv : Iv) (fresh : K) (value : Option (List Byte))
  /-- `encPublicKey = value`. -/
  | setEncPublicKey (value : Option (List Byte))
  /-- `signPrivateKey = value`. -/
  | setSignPrivateKey (iv : Iv) (fresh : K) (value : Option (List Byte))
  /-- `signPublicKey = value`. -/
  | setSignPublicKey (value : Option (List Byte))
  /-- `contactsKey = value`. -/
  | setContactsKey (iv : Iv) (fresh : K) (value : Option (List Byte))
  /-- `mnemonic = value`. -/
  | setMnemonic (iv : Iv) (fresh : K) (value : Option JString)
  /-- `sessionToken = value`. -/
  | setSessionToken (value : Option JString)
  /-- `whisperId = value`. -/
  | setWhisperId (value : Option JString)
  /-- A read of `encPrivateKey`. -/
  | getEncPrivateKey (fresh : K)
  /-- A read of `signPrivateKey`. -/
  | getSignPrivateKey (fresh : K)
  /-- A read of `contactsKey`. -/
  | getContactsKey (fresh : K)
  /-- A read of `mnemonic`. -/
  | getMnemonic (fresh : K)
  /-- `getDeviceId()`, with the UUID it would draw. -/
  | getDeviceId (uuid : Uuid)
  /-- `clearAll()`. -/
  | clearAll

/-- The state after a call. -/
def call (st : SecureStorage K) : Call K → SecureStorage K
  | .setEncPrivateKey iv fresh v => st.setEncPrivateKey gcm iv fresh v
  | .setEncPublicKey v => st.setEncPublicKey v
  | .setSignPrivateKey iv fresh v => st.setSignPrivateKey gcm iv fresh v
  | .setSignPublicKey v => st.setSignPublicKey v
  | .setContactsKey iv fresh v => st.setContactsKey gcm iv fresh v
  | .setMnemonic iv fresh v => st.setMnemonic gcm iv fresh v
  | .setSessionToken v => st.setSessionToken v
  | .setWhisperId v => st.setWhisperId v
  | .getEncPrivateKey fresh => (st.encPrivateKey gcm fresh).2
  | .getSignPrivateKey fresh => (st.signPrivateKey gcm fresh).2
  | .getContactsKey fresh => (st.contactsKey gcm fresh).2
  | .getMnemonic fresh => (st.mnemonic gcm fresh).2
  | .getDeviceId uuid => (st.deviceId uuid).2
  | .clearAll => st.clearAll

/-- The state after a sequence of calls. -/
def run (st : SecureStorage K) (calls : List (Call K)) : SecureStorage K :=
  calls.foldl (call gcm) st

/-! ## Section 4: What the storage is for -/

/-- The account record a `SecureStorage` keeps: each property's value, `null` if it is unset. -/
structure Profile where
  /-- The X25519 private key. -/
  encPrivateKey : Option (List Byte)
  /-- The X25519 public key. -/
  encPublicKey : Option (List Byte)
  /-- The Ed25519 private key. -/
  signPrivateKey : Option (List Byte)
  /-- The Ed25519 public key. -/
  signPublicKey : Option (List Byte)
  /-- The key of the contacts backup. -/
  contactsKey : Option (List Byte)
  /-- The recovery phrase. -/
  mnemonic : Option JString
  /-- The server session's token. -/
  sessionToken : Option JString
  /-- The account's Whisper ID. -/
  whisperId : Option JString
  /-- The ID drawn on the first `getDeviceId()`. -/
  deviceId : Option Uuid

/-- The record of a fresh install, and after `clearAll`. -/
def Profile.empty : Profile := ⟨none, none, none, none, none, none, none, none, none⟩

/-- What a call does to the record: a setter replaces its property, `deviceId` fixes the device
    ID if it is unset, `clearAll` empties the record, and the getters change nothing. -/
def Profile.call (p : Profile) : Call K → Profile
  | .setEncPrivateKey _ _ v => { p with encPrivateKey := v }
  | .setEncPublicKey v => { p with encPublicKey := v }
  | .setSignPrivateKey _ _ v => { p with signPrivateKey := v }
  | .setSignPublicKey v => { p with signPublicKey := v }
  | .setContactsKey _ _ v => { p with contactsKey := v }
  | .setMnemonic _ _ v => { p with mnemonic := v }
  | .setSessionToken v => { p with sessionToken := v }
  | .setWhisperId v => { p with whisperId := v }
  | .getEncPrivateKey _ | .getSignPrivateKey _ | .getContactsKey _ | .getMnemonic _ => p
  | .getDeviceId uuid => { p with deviceId := some (p.deviceId.getD uuid) }
  | .clearAll => Profile.empty

/-- The record after a sequence of calls. -/
def Profile.run (p : Profile) (calls : List (Call K)) : Profile := calls.foldl Profile.call p

/-- An array whose Base64 text `decodeBase64` reads back: fewer than 536,870,911 bytes. -/
def encodedFits (bytes : List Byte) : Bool := bytes.length < 536870911

/-- A value whose wrapped form, 12 bytes of IV, the ciphertext and 16 bytes of tag, fits. -/
def wrappedFits (plain : List Byte) : Bool := encodedFits (List.replicate 28 0 ++ plain)

/-- The keys of `prefs` that `SecureStorage` writes. -/
inductive Pref where
  | encPriv | encPub | signPriv | signPub | contactsKey | mnemonic | sessionToken | whisperId
  | deviceId
  deriving DecidableEq

/-- The key string of each property. -/
def Pref.key : Pref → String
  | .encPriv => "enc_priv"
  | .encPub => "enc_pub"
  | .signPriv => "sign_priv"
  | .signPub => "sign_pub"
  | .contactsKey => "contacts_key"
  | .mnemonic => "mnemonic"
  | .sessionToken => "session_token"
  | .whisperId => "whisper_id"
  | .deviceId => "device_id"

theorem Pref.key_injective : Function.Injective Pref.key := by
  intro a b h
  cases a <;> cases b <;> first | rfl | exact absurd h (by decide)

/-- The property a setter writes. -/
def Call.writes : Call K → Option Pref
  | .setEncPrivateKey .. => some .encPriv
  | .setEncPublicKey _ => some .encPub
  | .setSignPrivateKey .. => some .signPriv
  | .setSignPublicKey _ => some .signPub
  | .setContactsKey .. => some .contactsKey
  | .setMnemonic .. => some .mnemonic
  | .setSessionToken _ => some .sessionToken
  | .setWhisperId _ => some .whisperId
  | _ => none

/-- How a value is written in `prefs`: wrapped and Base64-encoded, Base64-encoded, or as it
    is. -/
inductive Entry where
  /-- Wrapped by `KeystoreManager`, then Base64-encoded. -/
  | wrapped (plain : List Byte)
  /-- Base64-encoded. -/
  | encoded (bytes : List Byte)
  /-- As it is. -/
  | plain (s : JString)

/-- The entry of each property of a record. -/
def Profile.entry (p : Profile) : Pref → Option Entry
  | .encPriv => p.encPrivateKey.map .wrapped
  | .encPub => p.encPublicKey.map .encoded
  | .signPriv => p.signPrivateKey.map .wrapped
  | .signPub => p.signPublicKey.map .encoded
  | .contactsKey => p.contactsKey.map .wrapped
  | .mnemonic => p.mnemonic.map (.wrapped ∘ encodeUtf8)
  | .sessionToken => p.sessionToken.map .plain
  | .whisperId => p.whisperId.map .plain
  | .deviceId => p.deviceId.map (.plain ∘ Uuid.chars)

/-- A setter changes the entry of its own property and of no other. -/
theorem Profile.entry_call_of_ne (p : Profile) {c : Call K} {f g : Pref}
    (hc : c.writes = some f) (hg : g ≠ f) : (p.call c).entry g = p.entry g := by
  cases c <;> simp only [Call.writes, Option.some.injEq, reduceCtorEq] at hc <;> subst hc <;>
    cases g <;> first | rfl | exact absurd rfl hg

/-- `bytes` are how `e` is written, with `keyStore` the keystore: a wrapped value is
    `iv + ciphertext` under the keystore's key, Base64-encoded. -/
def Entry.Stored (keyStore : Option K) (bytes : List Byte) : Entry → Prop
  | .wrapped m => ∃ (key : K) (iv : Iv), keyStore = some key ∧
      bytes = encodeUtf8 (encodeBase64 (iv.bytes ++ gcm.encrypt key iv.bytes m))
  | .encoded m => bytes = encodeUtf8 (encodeBase64 m)
  | .plain t => bytes = encodeUtf8 t

/-- `prefs` holds an entry under a key as its setter writes it, and for no entry nothing or
    the marker of `null`. -/
def Holds (keyStore : Option K) : Option (List Byte) → Option Entry → Prop
  | none, none => True
  | some bytes, none => bytes = encodeUtf8 nullValue
  | some bytes, some e => Entry.Stored gcm keyStore bytes e
  | none, some _ => False

/-- The refinement relation: under the key of each property, `prefs` holds the record's value
    as its setter writes it. -/
def Refines (st : SecureStorage K) (p : Profile) : Prop :=
  ∀ f : Pref, Holds gcm st.keyStore (st.prefs f.key) (p.entry f)

/-! ## Section 5: What `getString` reads back -/

variable {gcm}

theorem decodeString_nullValue : decodeString (encodeUtf8 nullValue) = none := by decide

theorem readBack_none : readBack none = none := decodeString_nullValue

/-- A well-formed string other than the marker is read back as it is. -/
theorem readBack_some {s : JString} (hs : wellFormed s) (hn : s ≠ nullValue) :
    readBack (some s) = some s := by
  simp [readBack, decodeString, newString_encodeUtf8 s hs, hn]

/-- A string without `_` is not the marker. -/
theorem ne_nullValue {s : JString} (hs : ∀ c ∈ s, c ≠ 0x5F#16) : s ≠ nullValue :=
  fun h => hs 0x5F#16 (h ▸ by decide) rfl

theorem readBack_encodeBase64 (bs : List Byte) : readBack (some (encodeBase64 bs)) =
    some (encodeBase64 bs) :=
  readBack_some (wellFormed_of_not_surrogate _ (encodeBase64_not_surrogate bs))
    (ne_nullValue (Base64.forall_mem_encodeBase64 _ (by decide) (by decide) bs))

theorem readBack_uuid (u : Uuid) : readBack (some u.chars) = some u.chars := by
  have hu : ∀ c ∈ u.chars, isUuidChar c = true := List.all_eq_true.1 u.all_isUuidChar
  have hc : ∀ c, isUuidChar c = true → c.toNat < 0x80 ∧ c ≠ 0x5F#16 := by
    intro c h
    simp only [isUuidChar, Bool.or_eq_true, Bool.and_eq_true, decide_eq_true_eq,
      beq_iff_eq] at h
    refine ⟨by omega, fun he => ?_⟩
    subst he
    simp at h
  exact readBack_some
    (wellFormed_of_not_surrogate _ fun c hm =>
      Char16.isSurrogate_eq_false_of_lt (by have := (hc c (hu c hm)).1; omega))
    (ne_nullValue fun c hm => (hc c (hu c hm)).2)

theorem getString_putString (key : String) (value : Option JString) (st : SecureStorage K) :
    (st.putString key value).getString key = readBack value := by
  simp [getString, putString, readBack]

/-! ## Section 6: Every call keeps the relation -/

theorem getOrCreateKey_snd (fresh : K) (keyStore : Option K) :
    (KeystoreManager.getOrCreateKey fresh keyStore).2 =
      some (KeystoreManager.getOrCreateKey fresh keyStore).1 := by
  cases keyStore <;> rfl

theorem setWrapped_some (iv : Iv) (fresh : K) (key : String) (m : List Byte)
    (st : SecureStorage K) :
    st.setWrapped gcm iv fresh key (some m) =
      let k := (KeystoreManager.getOrCreateKey fresh st.keyStore).1
      { st with keyStore := some k }.putString key
        (some (encodeBase64 (iv.bytes ++ gcm.encrypt k iv.bytes m))) := by
  simp only [setWrapped, KeystoreManager.wrapKey, getOrCreateKey_snd]

/-- With no keystore key nothing wrapped can be stored, so a new key keeps every entry. -/
theorem holds_of_none {v : Option (List Byte)} {e : Option Entry} (keyStore : Option K)
    (h : Holds gcm none v e) : Holds gcm keyStore v e := by
  rcases v with _ | s <;> rcases e with _ | (m | m | t) <;> simp_all [Holds, Entry.Stored]

/-- Fetching the keystore key, or creating it, keeps the relation. -/
theorem Refines.getOrCreateKey {st : SecureStorage K} {p : Profile} (h : Refines gcm st p)
    (fresh : K) :
    Refines gcm { st with keyStore := some (KeystoreManager.getOrCreateKey fresh st.keyStore).1 }
      p := by
  intro f
  have hf := h f
  rcases hks : st.keyStore with _ | key <;> rw [hks] at hf
  · exact holds_of_none _ hf
  · exact hf

/-- Writing one property's entry, every other entry unchanged, keeps the relation. -/
theorem Refines.putString {st : SecureStorage K} {p p' : Profile} (h : Refines gcm st p)
    (f : Pref) {v : Option JString}
    (hv : Holds gcm st.keyStore (some (encodeUtf8 (v.getD nullValue))) (p'.entry f))
    (hframe : ∀ g, g ≠ f → p'.entry g = p.entry g) :
    Refines gcm (st.putString f.key v) p' := by
  intro g
  by_cases hg : g = f
  · subst hg
    simpa [SecureStorage.putString] using hv
  · simpa [SecureStorage.putString, Function.update_noteq (Pref.key_injective.ne hg),
      hframe g hg] using h g

/-- A setter that writes `enc a` for the entry `mk a` of its value `a`, and the marker of `null`
    for no value, keeps the relation. -/
theorem Refines.put {α : Type} {st : SecureStorage K} {p q : Profile} (h : Refines gcm st p)
    (f : Pref) (enc : α → JString) (mk : α → Entry)
    (hmk : ∀ a, Entry.Stored gcm st.keyStore (encodeUtf8 (enc a)) (mk a)) {v : Option α}
    (hv : q.entry f = v.map mk) (hframe : ∀ g, g ≠ f → q.entry g = p.entry g) :
    Refines gcm (st.putString f.key (v.map enc)) q :=
  h.putString f (by cases v <;> simp [hv, Holds, hmk]) hframe

theorem Refines.setWrapped {st : SecureStorage K} {p p' : Profile} (h : Refines gcm st p)
    (f : Pref) (iv : Iv) (fresh : K) {v : Option (List Byte)} (hv : p'.entry f = v.map .wrapped)
    (hframe : ∀ g, g ≠ f → p'.entry g = p.entry g) :
    Refines gcm (st.setWrapped gcm iv fresh f.key v) p' := by
  cases v with
  | none => exact h.putString f (by simp [hv, Holds]) hframe
  | some m =>
    rw [setWrapped_some]
    exact (h.getOrCreateKey fresh).putString f (by rw [hv]; exact ⟨_, iv, rfl, rfl⟩) hframe

/-- A plain property reads back what its setter was given. -/
theorem getString_of_holds {st : SecureStorage K} {key : String} {m : Option JString}
    (h : Holds gcm st.keyStore (st.prefs key) (m.map .plain)) : st.getString key = readBack m := by
  rcases hs : st.prefs key with _ | s <;> rcases m with _ | m <;>
    simp only [hs, Option.map, Holds, Entry.Stored] at h
  · simp [getString, hs, readBack_none]
  · simp [getString, hs, h, readBack]
  · simp [getString, hs, h, readBack]

/-- A wrapped property that is stored is read back, while its Base64 text fits, and the read
    leaves the state as it is: its key is the keystore's. -/
theorem getWrapped_of_holds {st : SecureStorage K} {key : String} {m : Option (List Byte)}
    (h : Holds gcm st.keyStore (st.prefs key) (m.map .wrapped)) (fresh : K) :
    ∃ r, st.getWrapped gcm fresh key = (r, st) ∧ (m.all wrappedFits → r = .ok m) := by
  rcases hs : st.prefs key with _ | s <;> rcases m with _ | m <;>
    simp only [hs, Option.map, Holds] at h
  · exact ⟨_, by simp [getWrapped, getString, hs], fun _ => rfl⟩
  · exact ⟨_, by simp [getWrapped, getString, hs, h, decodeString_nullValue], fun _ => rfl⟩
  · obtain ⟨k, iv, hks, rfl⟩ := h
    have hget : st.getString key = some (encodeBase64 (iv.bytes ++ gcm.encrypt k iv.bytes m)) := by
      simpa [getString, hs] using readBack_encodeBase64 (iv.bytes ++ gcm.encrypt k iv.bytes m)
    cases hd : JString.decodeBase64 (encodeBase64 (iv.bytes ++ gcm.encrypt k iv.bytes m)) with
    | error e =>
      refine ⟨.error (.decode e), by simp only [getWrapped, hget, hd], fun hm => ?_⟩
      have hlen : (iv.bytes ++ gcm.encrypt k iv.bytes m).length < 536870911 := by
        simp [wrappedFits, encodedFits] at hm
        simp [iv.length_eq, gcm.length_encrypt]
        omega
      rw [JString.decodeBase64_encodeBase64_eq hlen] at hd
      cases hd
    | ok w =>
      obtain rfl := JString.decodeBase64_encodeBase64_eq_ok hd
      refine ⟨_, ?_, fun _ => rfl⟩
      simp only [getWrapped, hget, hd, hks, KeystoreManager.unwrapKey_wrapped]
      rw [← hks]

/-- `deviceId` under the relation: the record's device ID, or else the new UUID, stored. -/
theorem Refines.deviceId {st : SecureStorage K} {p : Profile} (h : Refines gcm st p)
    (uuid : Uuid) :
    st.deviceId uuid = ((p.deviceId.getD uuid).chars, if p.deviceId.isSome then st else
      st.putString "device_id" (some uuid.chars)) := by
  have hd := getString_of_holds (m := p.deviceId.map Uuid.chars)
    (by simpa [Profile.entry, Option.map_map] using h .deviceId)
  simp only [Pref.key] at hd
  cases hp : p.deviceId <;> simp [SecureStorage.deviceId, hd, hp, readBack_none, readBack_uuid]

/-- Every call keeps the relation, with the record changed as `Profile.call` says. -/
theorem Refines.call {st : SecureStorage K} {p : Profile} (h : Refines gcm st p) (c : Call K) :
    Refines gcm (st.call gcm c) (p.call c) := by
  have hframe : ∀ {f}, c.writes = some f → ∀ g, g ≠ f → (p.call c).entry g = p.entry g :=
    fun hc g hg => p.entry_call_of_ne hc hg
  cases c with
  | setEncPrivateKey iv fresh v => exact h.setWrapped .encPriv iv fresh rfl (hframe rfl)
  | setEncPublicKey v =>
    exact h.put .encPub encodeBase64 .encoded (fun _ => rfl) rfl (hframe rfl)
  | setSignPrivateKey iv fresh v => exact h.setWrapped .signPriv iv fresh rfl (hframe rfl)
  | setSignPublicKey v =>
    exact h.put .signPub encodeBase64 .encoded (fun _ => rfl) rfl (hframe rfl)
  | setContactsKey iv fresh v => exact h.setWrapped .contactsKey iv fresh rfl (hframe rfl)
  | setMnemonic iv fresh v =>
    exact h.setWrapped .mnemonic iv fresh (by simp [Profile.call, Profile.entry, Option.map_map])
      (hframe rfl)
  | setSessionToken v =>
    have := h.put .sessionToken (fun s => s) .plain (fun _ => rfl) (v := v)
      (q := p.call (.setSessionToken v)) rfl (hframe rfl)
    rwa [Option.map_id'] at this
  | setWhisperId v =>
    have := h.put .whisperId (fun s => s) .plain (fun _ => rfl) (v := v)
      (q := p.call (.setWhisperId v)) rfl (hframe rfl)
    rwa [Option.map_id'] at this
  | getEncPrivateKey fresh =>
    obtain ⟨r, hr, -⟩ := getWrapped_of_holds (h .encPriv) fresh
    show Refines gcm (st.getWrapped gcm fresh Pref.encPriv.key).2 p
    rw [hr]
    exact h
  | getSignPrivateKey fresh =>
    obtain ⟨r, hr, -⟩ := getWrapped_of_holds (h .signPriv) fresh
    show Refines gcm (st.getWrapped gcm fresh Pref.signPriv.key).2 p
    rw [hr]
    exact h
  | getContactsKey fresh =>
    obtain ⟨r, hr, -⟩ := getWrapped_of_holds (h .contactsKey) fresh
    show Refines gcm (st.getWrapped gcm fresh Pref.contactsKey.key).2 p
    rw [hr]
    exact h
  | getMnemonic fresh =>
    have hm := h .mnemonic
    rw [Profile.entry, ← Option.map_map] at hm
    obtain ⟨r, hr, -⟩ := getWrapped_of_holds hm fresh
    show Refines gcm (st.getWrapped gcm fresh Pref.mnemonic.key).2 p
    rw [hr]
    exact h
  | getDeviceId uuid =>
    show Refines gcm (st.deviceId uuid).2 { p with deviceId := some (p.deviceId.getD uuid) }
    rw [h.deviceId uuid]
    cases hp : p.deviceId with
    | some d =>
      have hp' : ({ p with deviceId := some d } : Profile) = p := by cases p; cases hp; rfl
      simpa [hp'] using h
    | none =>
      simpa [Pref.key] using h.put .deviceId Uuid.chars (.plain ∘ Uuid.chars) (fun _ => rfl)
        (v := some uuid) (q := { p with deviceId := some uuid }) rfl fun g hg => by
          cases g <;> first | rfl | exact absurd rfl hg
  | clearAll => exact fun f => by cases f <;> trivial

theorem refines_init : Refines gcm init Profile.empty := fun f => by cases f <;> trivial

/-- Along every sequence of calls the relation holds, with the record that the same calls make
    of the empty record. -/
theorem Refines.run {st : SecureStorage K} {p : Profile} (h : Refines gcm st p)
    (calls : List (Call K)) : Refines gcm (st.run gcm calls) (p.run calls) := by
  induction calls generalizing st p with
  | nil => exact h
  | cons c calls ih => exact ih (h.call c)

/-! ## Section 7: What the getters return -/

/-- Under the relation, a wrapped entry short enough for its Base64 text to be decoded is read
    back without a throw or a change of state. -/
theorem Refines.getWrapped {st : SecureStorage K} {p : Profile} (h : Refines gcm st p)
    {f : Pref} {m : Option (List Byte)} (he : p.entry f = m.map .wrapped)
    (hm : m.all wrappedFits) (fresh : K) : st.getWrapped gcm fresh f.key = (.ok m, st) := by
  obtain ⟨r, hr, hok⟩ := getWrapped_of_holds (he ▸ h f) fresh
  rw [hr, hok hm]

/-- The mnemonic comes back through UTF-8 when its wrapped Base64 text can be decoded. -/
theorem Refines.mnemonic {st : SecureStorage K} {p : Profile} (h : Refines gcm st p)
    (hm : p.mnemonic.all (wrappedFits ∘ encodeUtf8)) (fresh : K) :
    st.mnemonic gcm fresh = (.ok (p.mnemonic.map fun s => newString (encodeUtf8 s)), st) := by
  have he : p.entry .mnemonic = (p.mnemonic.map encodeUtf8).map .wrapped := by
    simp [Profile.entry, Option.map_map]
  have := h.getWrapped he (by revert hm; cases p.mnemonic <;> exact id) fresh
  simp only [SecureStorage.mnemonic, Pref.key] at this ⊢
  simp [this, Except.map, Option.map_map, Function.comp_def]

/-- `isLoggedIn()` under the relation: the record holds a session token and a Whisper ID that
    read back as strings. -/
theorem Refines.isLoggedIn {st : SecureStorage K} {p : Profile} (h : Refines gcm st p) :
    st.isLoggedIn = ((readBack p.sessionToken).isSome && (readBack p.whisperId).isSome) := by
  have ht := getString_of_holds (h .sessionToken)
  have hw := getString_of_holds (h .whisperId)
  simp only [Pref.key] at ht hw
  simp only [SecureStorage.isLoggedIn, sessionToken, whisperId, ht, hw]

/-- A cipher that passes the plaintext through with a zero tag, to run the model on fixed
    inputs. -/
def plainGcm : AesGcm Unit :=
  ⟨fun _ _ m => m ++ List.replicate 16 0, fun _ _ c => some (c.take (c.length - 16)),
    fun _ _ _ => by simp, fun _ _ _ => by simp⟩

/-- A UUID, as the device ID a call draws. -/
def sampleUuid : Uuid :=
  ⟨.ofString "123e4567-e89b-12d3-a456-426614174000", rfl, rfl⟩

/-- A login: a session token, a Whisper ID, and a public key. -/
def loginCalls : List (Call Unit) :=
  [.setSessionToken (some (.ofString "t")), .setWhisperId (some (.ofString "w")),
   .setEncPublicKey (some [1, 2, 3])]

theorem Profile.call_deviceId {p : Profile} {d : Uuid} (hp : p.deviceId = some d) (c : Call K)
    (hc : c ≠ .clearAll) : (p.call c).deviceId = some d := by
  cases c <;> simp_all [Profile.call]

theorem Profile.run_deviceId {p : Profile} {d : Uuid} (hp : p.deviceId = some d)
    (calls : List (Call K)) (hcalls : ∀ c ∈ calls, c ≠ .clearAll) :
    (p.run calls).deviceId = some d := by
  induction calls generalizing p with
  | nil => exact hp
  | cons c calls ih =>
    exact ih (p.call_deviceId hp c (hcalls c (List.mem_cons_self _ _)))
      fun c' hc' => hcalls c' (List.mem_cons_of_mem _ hc')

/-- The device ID is drawn once: after `deviceId` has returned an ID, every later `deviceId`
    returns the same ID, whatever UUID it would draw, until `clearAll`. -/
theorem deviceId_stable (pre calls : List (Call K)) (hcalls : ∀ c ∈ calls, c ≠ .clearAll)
    (uuid uuid' : Uuid) :
    let first := (init.run gcm pre).deviceId uuid
    ((first.2.run gcm calls).deviceId uuid').1 = first.1 := by
  show ((((init.run gcm pre).call gcm (.getDeviceId uuid)).run gcm calls).deviceId uuid').1 =
    ((init.run gcm pre).deviceId uuid).1
  have h : Refines gcm (init.run gcm pre) (Profile.empty.run pre) := refines_init.run pre
  have hd : (((Profile.empty.run pre).call (Call.getDeviceId uuid : Call K)).run calls).deviceId =
      some ((Profile.empty.run pre).deviceId.getD uuid) :=
    Profile.run_deviceId rfl calls hcalls
  rw [((h.call (.getDeviceId uuid)).run calls).deviceId uuid', hd, h.deviceId uuid]
  rfl

/-- Another UUID. -/
def otherUuid : Uuid :=
  ⟨.ofString "00000000-0000-4000-8000-000000000000", rfl, rfl⟩

theorem deviceId_stable_across_login :
    (∀ c ∈ loginCalls, c ≠ .clearAll) ∧
    ((((init.run plainGcm []).deviceId sampleUuid).2.run plainGcm loginCalls).deviceId
        otherUuid).1 = ((init.run plainGcm []).deviceId sampleUuid).1 :=
  have hc : ∀ c ∈ loginCalls, c ≠ .clearAll := by simp [loginCalls]
  ⟨hc, deviceId_stable [] loginCalls hc sampleUuid otherUuid⟩

end SecureStorage

end Whisper

import Whisper.Crypto.BIP39WordList

/-! # `BIP39.kt`: mnemonic encoding, validation and seed derivation

    `entropyToMnemonic` appends `entropy.size / 4` checksum bits, taken from the first byte of
    the entropy's SHA-256, to the entropy's bits and maps each 11-bit group to a word of
    `BIP39WordList`. `validateMnemonic` checks the number of words and that each is in the list;
    it computes no checksum. `seedFromMnemonic` runs PBKDF2-HMAC-SHA512 on the normalized phrase
    once validation passes.

    SHA-256, PBKDF2 and the random source are parameters. The main results:

    - `wordIndices_injective`, `flatMap_byteBits_injective`: the 11-bit groups determine the
      bit string, and its first bits determine the entropy;
    - `validateMnemonic_phrase`: every 12- or 24-word phrase of list words is accepted, whatever
      its checksum bits;
    - `not_both_encoder_outputs`: of `abandon` twelve times and `abandon` eleven times followed
      by `ability`, whatever the hash, at least one is not an output of the encoder;
    - `entropyToMnemonic_eq_ok_iff`: the list of the source has 203 words, not 2048, so the
      encoder returns exactly when every 11-bit group is below 203, and throws otherwise.
-/

namespace Whisper.BIP39

open BIP39WordList

/-! ## Section 1: The primitives and the constants -/

/-- `MessageDigest.getInstance("SHA-256").digest`, whose output has 32 bytes. -/
structure Sha256 where
  digest : List Byte → List Byte
  length_digest : ∀ m, (digest m).length = 32

/-- `hash[0]`: the first byte of the digest. -/
def Sha256.firstByte (sha : Sha256) (m : List Byte) : Byte :=
  (sha.digest m).get ⟨0, by rw [sha.length_digest]; omega⟩

/-- `SecretKeyFactory.getInstance("PBKDF2WithHmacSHA512").generateSecret(PBEKeySpec(password,
    salt, iterations, keyLength)).encoded`. -/
abbrev Pbkdf2 := JString → List Byte → Nat → Nat → List Byte

/-- `Constants.BIP39_SALT`. -/
def bip39Salt : JString := .ofString "mnemonic"

/-- `Constants.BIP39_ITERATIONS`. -/
def bip39Iterations : Nat := 2048

/-- `Constants.BIP39_SEED_LENGTH`, in bytes. -/
def bip39SeedLength : Nat := 64

/-! ## Section 2: `entropyToMnemonic` -/

/-- `String.format("%8s", Integer.toBinaryString(b.toInt() and 0xFF)).replace(' ', '0')`: the
    eight bits of the byte, most significant first, `true` for `'1'`. -/
def byteBits (b : Byte) : List Bool := (List.range 8).map fun i => b.toNat.testBit (7 - i)

/-- `(hash[0].toInt() and (1 shl (7 - i))) != 0`, with `toInt` sign-extending and `shl` taking
    its distance modulo 32, as Kotlin's `Int` does. -/
def checksumBit (h : Byte) (i : Nat) : Bool :=
  (h.signExtend 32 &&& (1#32 <<< ((7 - (i : Int)) % 32).toNat)) != 0#32

/-- The bit string the `StringBuilder` holds: the entropy's bits, then `entropy.size / 4`
    checksum bits. -/
def mnemonicBits (sha : Sha256) (entropy : List Byte) : List Bool :=
  entropy.flatMap byteBits ++
    (List.range (entropy.length / 4)).map (checksumBit (sha.firstByte entropy))

/-- `substring(...).toInt(2)`: a string of binary digits, most significant first. -/
def bitsToNat (bits : List Bool) : Nat := bits.foldl (fun acc b => 2 * acc + b.toNat) 0

/-- `bits.substring(i * 11, (i + 1) * 11)`. -/
def group (bits : List Bool) (i : Nat) : List Bool := (bits.drop (i * 11)).take 11

/-- The index of each word: `for (i in 0 until bits.length / 11)`. -/
def wordIndices (bits : List Bool) : List Nat :=
  (List.range (bits.length / 11)).map fun i => bitsToNat (group bits i)

/-- `entropyToMnemonic(entropy)`: the first index past the end of the list throws. -/
def entropyToMnemonic (sha : Sha256) (entropy : List Byte) : Except IndexOutOfBounds JString := do
  let words ← (wordIndices (mnemonicBits sha entropy)).mapM getWord
  pure (phrase words)

/-- The `SecureRandom` the generators draw from: `nextBytes` fills an array of the given size. -/
structure SecureRandom where
  nextBytes : Nat → List Byte
  length_nextBytes : ∀ n, (nextBytes n).length = n

/-- `generateMnemonic`: 16 bytes of entropy, 12 words. -/
def generateMnemonic (sha : Sha256) (random : SecureRandom) : Except IndexOutOfBounds JString :=
  entropyToMnemonic sha (random.nextBytes 16)

/-- `generateMnemonic24`: 32 bytes of entropy, 24 words. -/
def generateMnemonic24 (sha : Sha256) (random : SecureRandom) : Except IndexOutOfBounds JString :=
  entropyToMnemonic sha (random.nextBytes 32)

/-! ## Section 3: `validateMnemonic` and `seedFromMnemonic` -/

/-- `validateMnemonic(mnemonic)`: 12 or 24 words after normalization, each in the list. -/
def validateMnemonic (U : UnicodeTables) (mnemonic : JString) : Bool :=
  let words := (normalizeMnemonic U mnemonic).splitOn space
  if words.length ≠ 12 ∧ words.length ≠ 24 then false
  else words.all (isValidWord U)

/-- `seedFromMnemonic(mnemonic)`. -/
def seedFromMnemonic (U : UnicodeTables) (pbkdf2 : Pbkdf2) (mnemonic : JString) :
    Except CryptoException (List Byte) :=
  if !validateMnemonic U mnemonic then .error .invalidMnemonic
  else .ok (pbkdf2 (normalizeMnemonic U mnemonic) (encodeUtf8 bip39Salt) bip39Iterations
    (bip39SeedLength * 8))

/-- `seedFromMnemonic` raises `InvalidMnemonicException` exactly when validation fails, and
    otherwise derives the seed from the normalized phrase. -/
theorem seedFromMnemonic_eq (U : UnicodeTables) (pbkdf2 : Pbkdf2) (m : JString) :
    seedFromMnemonic U pbkdf2 m =
      if validateMnemonic U m then
        .ok (pbkdf2 (normalizeMnemonic U m) (encodeUtf8 bip39Salt) 2048 512)
      else .error .invalidMnemonic := by
  unfold seedFromMnemonic
  cases validateMnemonic U m <;> rfl

/-! ## Section 4: Binary groups -/

theorem foldl_bits (bits : List Bool) (a : Nat) :
    bits.foldl (fun acc b => 2 * acc + b.toNat) a = a * 2 ^ bits.length + bitsToNat bits := by
  induction bits generalizing a with
  | nil => simp [bitsToNat]
  | cons b bits ih =>
    have hc : bitsToNat (b :: bits) = (2 * 0 + b.toNat) * 2 ^ bits.length + bitsToNat bits := ih _
    rw [List.foldl_cons, ih, hc, List.length_cons, pow_succ]
    ring

theorem bitsToNat_cons (b : Bool) (bits : List Bool) :
    bitsToNat (b :: bits) = b.toNat * 2 ^ bits.length + bitsToNat bits := by
  rw [bitsToNat, List.foldl_cons, foldl_bits]
  simp

theorem bitsToNat_lt (bits : List Bool) : bitsToNat bits < 2 ^ bits.length := by
  induction bits with
  | nil => simp [bitsToNat]
  | cons b bits ih =>
    rw [bitsToNat_cons, List.length_cons, pow_succ]
    cases b <;> simp <;> omega

theorem bitsToNat_injective {bs cs : List Bool} (hl : bs.length = cs.length)
    (h : bitsToNat bs = bitsToNat cs) : bs = cs := by
  induction bs generalizing cs with
  | nil => exact (List.length_eq_zero.mp hl.symm).symm
  | cons b bs ih =>
    obtain ⟨c, cs, rfl⟩ := List.exists_cons_of_length_eq_add_one hl.symm
    simp only [List.length_cons, Nat.add_right_cancel_iff] at hl
    rw [bitsToNat_cons, bitsToNat_cons, hl] at h
    have hb := bitsToNat_lt bs
    have hc := bitsToNat_lt cs
    rw [hl] at hb
    have hbc : b = c := by cases b <;> cases c <;> simp at h ⊢ <;> omega
    subst hbc
    rw [ih hl (by omega)]

theorem length_group (bits : List Bool) (i : Nat) (h : (i + 1) * 11 ≤ bits.length) :
    (group bits i).length = 11 := by
  simp only [group, List.length_take, List.length_drop]
  omega

theorem flatten_groups (k : Nat) (bits : List Bool) (h : bits.length = 11 * k) :
    ((List.range k).map (group bits)).flatten = bits := by
  induction k generalizing bits with
  | zero => simp_all
  | succ k ih =>
    rw [List.range_succ_eq_map, List.map_cons, List.map_map, List.flatten_cons]
    have hshift : group bits ∘ Nat.succ = group (bits.drop 11) := by
      funext i
      simp [group, List.drop_drop, Nat.succ_mul, Nat.add_comm]
    rw [hshift, ih (bits.drop 11) (by simp [h]; omega)]
    simp [group]

/-- The 11-bit groups determine a bit string whose length is a multiple of 11. -/
theorem wordIndices_injective {bs cs : List Bool} (hl : bs.length = cs.length)
    (h11 : bs.length % 11 = 0) (h : wordIndices bs = wordIndices cs) : bs = cs := by
  obtain ⟨k, hk⟩ : ∃ k, bs.length = 11 * k := ⟨bs.length / 11, by omega⟩
  have hk' : bs.length / 11 = k := by omega
  simp only [wordIndices, ← hl, hk', List.map_inj_left, List.mem_range] at h
  have groups : (List.range k).map (group bs) = (List.range k).map (group cs) := by
    rw [List.map_inj_left]
    intro i hi
    rw [List.mem_range] at hi
    exact bitsToNat_injective (by rw [length_group _ _ (by omega), length_group _ _ (by omega)])
      (h i hi)
  rw [← flatten_groups k bs hk, groups, flatten_groups k cs (by omega)]

/-! ## Section 5: The entropy's bits -/

theorem bitsToNat_append_singleton (bits : List Bool) (b : Bool) :
    bitsToNat (bits ++ [b]) = 2 * bitsToNat bits + b.toNat := by
  simp [bitsToNat, List.foldl_append]

/-- Reading the low `n` bits of `x` from the highest down gives `x mod 2^n`. -/
theorem bitsToNat_testBits (x : Nat) :
    ∀ n, bitsToNat ((List.range n).map fun i => x.testBit (n - 1 - i)) = x % 2 ^ n
  | 0 => by simp [bitsToNat, Nat.mod_one]
  | n + 1 => by
    have high : (List.range n).map (fun i => x.testBit (n + 1 - 1 - i)) =
        (List.range n).map fun i => (x / 2).testBit (n - 1 - i) := by
      refine List.map_congr_left fun i hi => ?_
      rw [show n + 1 - 1 - i = (n - 1 - i) + 1 by simp at hi; omega, Nat.testBit_succ]
    have low : (x.testBit 0).toNat = x % 2 := by
      rw [Nat.testBit_zero]; cases Nat.mod_two_eq_zero_or_one x <;> simp [*]
    rw [List.range_succ, List.map_append, List.map_singleton, bitsToNat_append_singleton, high,
      bitsToNat_testBits, Nat.add_sub_cancel, Nat.sub_self, low, pow_succ', Nat.mod_mul]
    omega

theorem bitsToNat_byteBits (b : Byte) : bitsToNat (byteBits b) = b.toNat := by
  have := bitsToNat_testBits b.toNat 8
  rwa [Nat.mod_eq_of_lt b.isLt] at this

theorem length_byteBits (b : Byte) : (byteBits b).length = 8 := by simp [byteBits]

theorem length_flatMap_byteBits (e : List Byte) : (e.flatMap byteBits).length = 8 * e.length := by
  induction e with
  | nil => rfl
  | cons b e ih => simp only [List.flatMap_cons, List.length_append, length_byteBits, ih,
      List.length_cons]; ring

theorem flatMap_byteBits_injective {e e' : List Byte}
    (h : e.flatMap byteBits = e'.flatMap byteBits) : e = e' := by
  induction e generalizing e' with
  | nil =>
    have := congrArg List.length h
    simp only [List.flatMap_nil, List.length_nil, length_flatMap_byteBits] at this
    exact (List.length_eq_zero.mp (by omega)).symm
  | cons b e ih =>
    cases e' with
    | nil => simp [byteBits] at h
    | cons b' e' =>
      simp only [List.flatMap_cons] at h
      obtain ⟨h1, h2⟩ := List.append_inj h (by simp [length_byteBits])
      have hb : b = b' :=
        BitVec.eq_of_toNat_eq (by rw [← bitsToNat_byteBits, h1, bitsToNat_byteBits])
      rw [hb, ih h2]

theorem length_mnemonicBits (sha : Sha256) (e : List Byte) :
    (mnemonicBits sha e).length = 8 * e.length + e.length / 4 := by
  rw [mnemonicBits, List.length_append, length_flatMap_byteBits]
  simp

theorem take_mnemonicBits (sha : Sha256) (e : List Byte) :
    (mnemonicBits sha e).take (8 * e.length) = e.flatMap byteBits :=
  List.take_left' (length_flatMap_byteBits e)

/-! ## Section 6: The words `entropyToMnemonic` returns -/

theorem getWord_eq_ok {i : Nat} {w : JString} (h : getWord i = .ok w) : words[i]? = some w := by
  unfold getWord at h
  split at h <;> simp_all

theorem getWord_error {i : Nat} (h : 203 ≤ i) : getWord i = .error ⟨i, 203⟩ := by
  unfold getWord
  rw [List.getElem?_eq_none (by rw [length_words]; exact h)]
  simp only [length_words]

theorem getWord_ok {i : Nat} (h : i < 203) : ∃ w, getWord i = .ok w := by
  have hl : i < words.length := by rw [length_words]; exact h
  refine ⟨words.get ⟨i, hl⟩, ?_⟩
  unfold getWord
  rw [List.getElem?_eq_getElem hl]
  rfl

theorem mapM_getWord_ok {is : List Nat} {ws : List JString} (h : is.mapM getWord = .ok ws) :
    List.Forall₂ (fun i w => words[i]? = some w) is ws := by
  induction is generalizing ws with
  | nil =>
    cases h
    exact .nil
  | cons i is ih =>
    simp only [List.mapM_cons, bind, Except.bind] at h
    split at h
    · cases h
    · rename_i w hw
      split at h
      · cases h
      · rename_i ws' hws'
        cases h
        exact .cons (getWord_eq_ok hw) (ih hws')

theorem mem_words_of_forall₂ {is : List Nat} {ws : List JString}
    (h : List.Forall₂ (fun i w => words[i]? = some w) is ws) : ∀ w ∈ ws, w ∈ words := by
  induction h with
  | nil => simp
  | cons hi _ ih =>
    intro w hw
    rcases List.mem_cons.mp hw with rfl | hw
    · exact List.getElem?_mem hi
    · exact ih w hw

theorem entropyToMnemonic_ok {sha : Sha256} {e : List Byte} {m : JString}
    (h : entropyToMnemonic sha e = .ok m) :
    ∃ ws, List.Forall₂ (fun i w => words[i]? = some w) (wordIndices (mnemonicBits sha e)) ws ∧
      m = phrase ws := by
  simp only [entropyToMnemonic, bind, Except.bind, pure, Except.pure] at h
  split at h
  · cases h
  · rename_i ws hws
    cases h
    exact ⟨ws, mapM_getWord_ok hws, rfl⟩

/-- The word count: 12 words for 16 bytes, 24 for 32. -/
theorem length_wordIndices (sha : Sha256) (e : List Byte) :
    (wordIndices (mnemonicBits sha e)).length = (8 * e.length + e.length / 4) / 11 := by
  simp [wordIndices, length_mnemonicBits]

/-! ## Section 7: Validation accepts every phrase of list words -/

theorem isValidWord_of_mem (U : UnicodeTables) {w : JString} (hw : w ∈ words) :
    isValidWord U w := by
  simp [isValidWord, lowercase_of_mem U hw, hw]

/-- A phrase of 12 or 24 list words passes validation: no checksum is computed. -/
theorem validateMnemonic_phrase (U : UnicodeTables) {ws : List JString}
    (hlen : ws.length = 12 ∨ ws.length = 24) (hw : ∀ w ∈ ws, w ∈ words) :
    validateMnemonic U (phrase ws) = true := by
  have hne : ws ≠ [] := by rintro rfl; simp at hlen
  have hlw : ∀ w ∈ ws, isLowerWord w := fun w h => words_lowerWord w (hw w h)
  simp only [validateMnemonic, normalizeMnemonic_phrase U hne hlw, splitOn_phrase hne hlw]
  rw [if_neg (by omega)]
  exact List.all_eq_true.mpr fun w h => isValidWord_of_mem U (hw w h)

/-- Every phrase the encoder produces from 16 or 32 bytes passes validation. -/
theorem validateMnemonic_entropyToMnemonic (U : UnicodeTables) {sha : Sha256} {e : List Byte}
    {m : JString} (he : e.length = 16 ∨ e.length = 32) (h : entropyToMnemonic sha e = .ok m) :
    validateMnemonic U m = true := by
  obtain ⟨ws, hws, rfl⟩ := entropyToMnemonic_ok h
  have hlen := hws.length_eq
  rw [length_wordIndices] at hlen
  exact validateMnemonic_phrase U (by omega) (mem_words_of_forall₂ hws)

/-! ## Section 8: Two phrases the encoder cannot both produce -/

/-- The first word of the list. -/
def abandon : JString := .ofString "abandon"

/-- The second word of the list. -/
def ability : JString := .ofString "ability"

theorem index_unique {i k : Nat} {w : JString} (hbefore : ∀ j < k, words[j]? ≠ some w)
    (hafter : w ∉ words.drop (k + 1)) (h : words[i]? = some w) : i = k := by
  rcases Nat.lt_trichotomy i k with hik | rfl | hik
  · exact absurd h (hbefore i hik)
  · rfl
  · have hd : (words.drop (k + 1))[i - (k + 1)]? = some w := by
      rw [List.getElem?_drop, Nat.add_sub_cancel' hik, h]
    exact absurd (List.getElem?_mem hd) hafter

theorem index_abandon {i : Nat} (h : words[i]? = some abandon) : i = 0 :=
  index_unique (fun _ hj => absurd hj (Nat.not_lt_zero _)) (by decide) h

set_option maxRecDepth 20000 in
theorem index_ability {i : Nat} (h : words[i]? = some ability) : i = 1 :=
  index_unique (fun j hj => by
    obtain rfl : j = 0 := by omega
    decide) (by decide) h

theorem forall₂_indices {is : List Nat} {ws : List JString} {g : JString → Nat}
    (hg : ∀ i w, w ∈ ws → words[i]? = some w → i = g w)
    (h : List.Forall₂ (fun i w => words[i]? = some w) is ws) : is = ws.map g := by
  induction h with
  | nil => rfl
  | cons hi _ ih =>
    rw [List.map_cons, hg _ _ (by simp) hi,
      ih fun i w hw hiw => hg i w (List.mem_cons_of_mem _ hw) hiw]

/-- When the encoder returns a phrase of list words, the phrase's words fix the 11-bit groups. -/
theorem wordIndices_of_phrase {sha : Sha256} {e : List Byte} {ws : List JString}
    (h : entropyToMnemonic sha e = .ok (phrase ws)) (hw : ∀ w ∈ ws, w ∈ words)
    (hne : ws ≠ [])
    (g : JString → Nat) (hg : ∀ i w, w ∈ ws → words[i]? = some w → i = g w) :
    wordIndices (mnemonicBits sha e) = ws.map g := by
  obtain ⟨ws', hws', hphrase⟩ := entropyToMnemonic_ok h
  have lower : ∀ vs : List JString, (∀ w ∈ vs, w ∈ words) → ∀ w ∈ vs, isLowerWord w :=
    fun vs hvs w hw => words_lowerWord w (hvs w hw)
  have hw' := mem_words_of_forall₂ hws'
  have hne' : ws' ≠ [] := by
    rintro rfl
    have := splitOn_phrase hne (lower ws hw)
    rw [hphrase] at this
    have hmem := hw [] (by simp [← this, phrase, List.intercalate])
    simpa [isLowerWord] using words_lowerWord _ hmem
  have heq : ws' = ws := by
    rw [← splitOn_phrase hne' (lower ws' hw'), ← hphrase, splitOn_phrase hne (lower ws hw)]
  subst heq
  exact forall₂_indices hg hws'

set_option maxRecDepth 10000 in
theorem wordIndices_zeros : wordIndices (List.replicate 132 false) = List.replicate 12 0 := by
  decide

set_option maxRecDepth 10000 in
theorem wordIndices_zeros_one :
    wordIndices (List.replicate 131 false ++ [true]) = List.replicate 11 0 ++ [1] := by
  decide

theorem mnemonicBits_eq_of_wordIndices {sha : Sha256} {e : List Byte} {bs : List Bool}
    (he : e.length = 16) (hbs : bs.length = 132)
    (h : wordIndices (mnemonicBits sha e) = wordIndices bs) : mnemonicBits sha e = bs :=
  wordIndices_injective (by rw [length_mnemonicBits, he, hbs]) (by rw [length_mnemonicBits, he]) h

/-- Whatever the hash, `abandon` twelve times and `abandon` eleven times followed by `ability`
    are not both outputs of the encoder: their bits agree on the entropy and differ in the
    checksum. -/
theorem not_both_encoder_outputs (sha : Sha256) {e e' : List Byte}
    (he : e.length = 16 ∨ e.length = 32) (he' : e'.length = 16 ∨ e'.length = 32)
    (h : entropyToMnemonic sha e = .ok (phrase (List.replicate 12 abandon)))
    (h' : entropyToMnemonic sha e' = .ok (phrase (List.replicate 11 abandon ++ [ability]))) :
    False := by
  have hne : abandon ≠ ability := by decide
  let g : JString → Nat := fun w => if w = ability then 1 else 0
  have hg : ∀ i w, (w = abandon ∨ w = ability) → words[i]? = some w → i = g w := by
    rintro i w (rfl | rfl) hiw
    · simp [g, index_abandon hiw, hne]
    · simp [g, index_ability hiw]
  have hi := wordIndices_of_phrase h (by simp; decide) (by simp) g
    fun i w hw => hg i w (.inl (List.mem_replicate.mp hw).2)
  have hi' := wordIndices_of_phrase h' (by simp; decide) (by simp) g
    fun i w hw => hg i w (by simpa using hw)
  have hl := congrArg List.length hi
  have hl' := congrArg List.length hi'
  simp only [length_wordIndices, List.length_map, List.length_replicate, List.length_append,
    List.length_singleton] at hl hl'
  have h16 : e.length = 16 := by omega
  have h16' : e'.length = 16 := by omega
  have bits : mnemonicBits sha e = List.replicate 132 false :=
    mnemonicBits_eq_of_wordIndices h16 (by simp) (by rw [hi, wordIndices_zeros]; simp [g, hne])
  have bits' : mnemonicBits sha e' = List.replicate 131 false ++ [true] :=
    mnemonicBits_eq_of_wordIndices h16' (by simp)
      (by rw [hi', wordIndices_zeros_one]; simp [g, hne])
  have hee : e = e' := by
    apply flatMap_byteBits_injective
    rw [← take_mnemonicBits, ← take_mnemonicBits, bits, bits', h16, h16']
    rfl
  subst hee
  rw [bits] at bits'
  exact absurd bits' (by decide)

/-- Validation accepts every phrase of 12 or 24 list words, and the seed is derived from it;
    the encoder's phrases are among them. -/
theorem validateMnemonic_accepts_any_wordlist_phrase (U : UnicodeTables) (pbkdf2 : Pbkdf2)
    (sha : Sha256) :
    (∀ ws : List JString, (ws.length = 12 ∨ ws.length = 24) → (∀ w ∈ ws, w ∈ words) →
      validateMnemonic U (phrase ws) = true ∧
        seedFromMnemonic U pbkdf2 (phrase ws) =
          .ok (pbkdf2 (phrase ws) (encodeUtf8 bip39Salt) 2048 512)) ∧
    (∀ e m, (e.length = 16 ∨ e.length = 32) → entropyToMnemonic sha e = .ok m →
      validateMnemonic U m = true) := by
  refine ⟨fun ws hlen hw => ?_, fun e m he h => validateMnemonic_entropyToMnemonic U he h⟩
  have hne : ws ≠ [] := by rintro rfl; simp at hlen
  have hv := validateMnemonic_phrase U hlen hw
  refine ⟨hv, ?_⟩
  rw [seedFromMnemonic_eq, hv, if_pos rfl,
    normalizeMnemonic_phrase U hne fun w h => words_lowerWord w (hw w h)]

/-- A hash that ignores its input: a concrete `Sha256` to evaluate the model with. -/
def constantSha : Sha256 := ⟨fun _ => List.replicate 32 0#8, fun _ => List.length_replicate _ _⟩

theorem validateMnemonic_accepts_any_wordlist_phrase_sample :
    validateMnemonic asciiTables (phrase (List.replicate 12 abandon)) = true ∧
      seedFromMnemonic asciiTables (fun _ _ _ _ => []) (phrase (List.replicate 12 abandon)) =
        .ok [] :=
  (validateMnemonic_accepts_any_wordlist_phrase asciiTables (fun _ _ _ _ => []) constantSha).1 _
    (by simp) (by simp; decide)

/-- The accepted phrases are not the encoder's image: for every Unicode table and every hash,
    some accepted phrase is no output of `entropyToMnemonic` on 16 or 32 bytes. -/
theorem accepted_phrases_exceed_encoder_image (U : UnicodeTables) (sha : Sha256) :
    ¬ ∀ m, validateMnemonic U m = true ↔
      ∃ e : List Byte, (e.length = 16 ∨ e.length = 32) ∧
        entropyToMnemonic sha e = .ok (normalizeMnemonic U m) := by
  intro hall
  have lower : ∀ ws : List JString, (∀ w ∈ ws, w ∈ words) → ∀ w ∈ ws, isLowerWord w :=
    fun ws hw w h => words_lowerWord w (hw w h)
  have hA : ∀ w ∈ List.replicate 12 abandon, w ∈ words := by simp; decide
  have hB : ∀ w ∈ List.replicate 11 abandon ++ [ability], w ∈ words := by simp; decide
  obtain ⟨e, he, h⟩ := (hall _).mp (validateMnemonic_phrase U (by simp) hA)
  obtain ⟨e', he', h'⟩ := (hall _).mp (validateMnemonic_phrase U (by simp) hB)
  rw [normalizeMnemonic_phrase U (by simp) (lower _ hA)] at h
  rw [normalizeMnemonic_phrase U (by simp) (lower _ hB)] at h'
  exact not_both_encoder_outputs sha he he' h h'

/-- The equivalence fails for the ASCII tables and the constant hash. -/
theorem validateMnemonic_not_encoder_image :
    ¬ ∀ m, validateMnemonic asciiTables m = true ↔
      ∃ e : List Byte, (e.length = 16 ∨ e.length = 32) ∧
        entropyToMnemonic constantSha e = .ok (normalizeMnemonic asciiTables m) :=
  accepted_phrases_exceed_encoder_image asciiTables constantSha

/-! ## Section 9: The truncated word list

    The source's list stops after 203 words, so an 11-bit group of 203 or more makes `getWord`
    throw. -/

theorem wordIndices_eq_cons {bits : List Bool} (h : 11 ≤ bits.length) :
    ∃ rest, wordIndices bits = bitsToNat (bits.take 11) :: rest := by
  obtain ⟨k, hk⟩ : ∃ k, bits.length / 11 = k + 1 := ⟨bits.length / 11 - 1, by omega⟩
  rw [wordIndices, hk, List.range_succ_eq_map, List.map_cons]
  exact ⟨_, rfl⟩

theorem entropyToMnemonic_error_of_head {sha : Sha256} {e : List Byte} {i : Nat} {rest : List Nat}
    (h : wordIndices (mnemonicBits sha e) = i :: rest) (hi : 203 ≤ i) :
    entropyToMnemonic sha e = .error ⟨i, 203⟩ := by
  rw [entropyToMnemonic, h, List.mapM_cons, getWord_error hi]
  rfl

/-- The words are found exactly when every 11-bit group is below 203. -/
theorem mapM_getWord_eq_ok_iff (is : List Nat) :
    (∃ ws, is.mapM getWord = .ok ws) ↔ ∀ i ∈ is, i < 203 := by
  induction is with
  | nil => exact ⟨fun _ _ h => absurd h (List.not_mem_nil _), fun _ => ⟨[], rfl⟩⟩
  | cons i is ih =>
    simp only [List.mem_cons, forall_eq_or_imp, ← ih]
    by_cases hi : i < 203
    · obtain ⟨w, hw⟩ := getWord_ok hi
      simp only [List.mapM_cons, hw, hi, true_and, bind, Except.bind, pure, Except.pure]
      constructor
      · rintro ⟨ws, h⟩
        split at h
        · cases h
        · exact ⟨_, ‹_›⟩
      · rintro ⟨ws, h⟩
        exact ⟨w :: ws, by rw [h]⟩
    · simp only [List.mapM_cons, getWord_error (Nat.not_lt.mp hi), hi, false_and, iff_false]
      rintro ⟨ws, h⟩
      cases h

/-- `entropyToMnemonic` returns exactly when every 11-bit group of the entropy and its checksum
    is a valid index of the 203-word list. -/
theorem entropyToMnemonic_eq_ok_iff (sha : Sha256) (e : List Byte) :
    (∃ m, entropyToMnemonic sha e = .ok m) ↔
      ∀ i ∈ wordIndices (mnemonicBits sha e), i < 203 := by
  rw [← mapM_getWord_eq_ok_iff]
  simp only [entropyToMnemonic, bind, Except.bind, pure, Except.pure]
  constructor
  · rintro ⟨m, h⟩
    split at h
    · cases h
    · exact ⟨_, ‹_›⟩
  · rintro ⟨ws, h⟩
    exact ⟨phrase ws, by rw [h]⟩

set_option maxRecDepth 10000 in
theorem bitsToNat_take_ones :
    bitsToNat ((List.replicate 16 0xFF#8).flatMap byteBits |>.take 11) = 2047 := by
  decide

/-- Sixteen bytes `0xFF`: the first group is 2047, past the end of the list. -/
theorem entropyToMnemonic_all_ones (sha : Sha256) :
    entropyToMnemonic sha (List.replicate 16 0xFF#8) = .error ⟨2047, 203⟩ := by
  have hlen := length_mnemonicBits sha (List.replicate 16 0xFF#8)
  rw [List.length_replicate] at hlen
  obtain ⟨rest, h⟩ := wordIndices_eq_cons
    (show 11 ≤ (mnemonicBits sha (List.replicate 16 0xFF#8)).length by omega)
  rw [mnemonicBits, List.take_append_of_le_length
    (by rw [length_flatMap_byteBits, List.length_replicate]; omega),
    bitsToNat_take_ones] at h
  exact entropyToMnemonic_error_of_head h (by omega)

end Whisper.BIP39

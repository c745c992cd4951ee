import Whisper.Jvm.Base64

/-! # Canonical message signing (`CanonicalSigning.kt`)

    `signMessage` and `verifyMessage` build the same string

      `v1\n{messageType}\n{messageId}\n{from}\n{toOrGroupId}\n{timestamp}\n{nonceB64}\n{ciphertextB64}\n`

    take its UTF-8 bytes, hash them with SHA-256 and sign or verify the hash with Ed25519. The
    hash and the signature scheme are parameters (`Primitives`); the string and its bytes are
    modelled exactly.

    The string does not escape the line feed inside the free-text fields, and the UTF-8 encoder
    replaces an unpaired surrogate by `?`, so two different tuples can share their bytes
    (Section 4). Away from those two inputs the bytes determine the tuple
    (`canonicalBytes_injective`): the fields are recovered by splitting the bytes at `0x0A`,
    and `Long.toString`, Base64 and UTF-8 are each injective there.
-/

namespace Whisper.CanonicalSigning

/-! ## Section 1: The canonical string -/

/-- The protocol fields a signature covers, in the order of `signMessage`'s parameters. -/
structure Fields where
  messageType : JString
  messageId : JString
  «from» : JString
  toOrGroupId : JString
  timestamp : Long
  nonce : List Byte
  ciphertext : List Byte
  deriving DecidableEq

/-- The `buildString` block shared, line for line, by `signMessage` and `verifyMessage`. -/
def canonical (f : Fields) : JString :=
  JString.ofString "v1" ++ [newline] ++
  f.messageType ++ [newline] ++
  f.messageId ++ [newline] ++
  f.from ++ [newline] ++
  f.toOrGroupId ++ [newline] ++
  longToString f.timestamp ++ [newline] ++
  encodeBase64 f.nonce ++ [newline] ++
  encodeBase64 f.ciphertext ++ [newline]

/-- `canonical.toByteArray(Charsets.UTF_8)`: the bytes that are hashed. -/
def canonicalBytes (f : Fields) : List Byte := encodeUtf8 (canonical f)

/-- The lines of the canonical string; the last, after the final line feed, is empty. -/
def lines (f : Fields) : List JString :=
  [JString.ofString "v1", f.messageType, f.messageId, f.from, f.toOrGroupId,
    longToString f.timestamp, encodeBase64 f.nonce, encodeBase64 f.ciphertext, []]

theorem canonical_eq_intercalate (f : Fields) : canonical f = [newline].intercalate (lines f) := by
  simp [canonical, lines, List.intercalate, List.intersperse]

theorem newline_not_surrogate : newline.isSurrogate = false := by decide

theorem canonicalBytes_eq_intercalate (f : Fields) :
    canonicalBytes f = [0x0A#8].intercalate ((lines f).map encodeUtf8) := by
  rw [canonicalBytes, canonical_eq_intercalate,
    encodeUtf8_intercalate newline newline_not_surrogate]
  rfl

/-! ## Section 2: Signing and verifying -/

/-- The primitives the two functions call: `MessageDigest` SHA-256, and the Ed25519 `sign` and
    `verify` of `Signatures.kt` (detached signatures from libsodium). -/
structure Primitives where
  sha256 : List Byte → List Byte
  sign : List Byte → List Byte → List Byte
  verify : List Byte → List Byte → List Byte → Bool

/-- `CanonicalSigning.signMessage`. -/
def signMessage (P : Primitives) (f : Fields) (privateKey : List Byte) : List Byte :=
  P.sign (P.sha256 (canonicalBytes f)) privateKey

/-- `CanonicalSigning.verifyMessage`. -/
def verifyMessage (P : Primitives) (f : Fields) (signature publicKey : List Byte) : Bool :=
  P.verify (P.sha256 (canonicalBytes f)) signature publicKey

/-- The primitives as the security argument treats them: SHA-256 has no collisions, and a
    signature verifies only for the data it was made over. -/
structure Ideal (P : Primitives) : Prop where
  sha256_injective : Function.Injective P.sha256
  unforgeable : ∀ d d' sk pk, P.verify d' (P.sign d sk) pk = true → d' = d

/-! ## Section 3: Where the bytes determine the tuple -/

/-- The free-text fields hold no line feed and are well-formed UTF-16. -/
def Fields.admissible (f : Fields) : Prop :=
  ∀ s ∈ [f.messageType, f.messageId, f.from, f.toOrGroupId], newline ∉ s ∧ wellFormed s

instance (f : Fields) : Decidable f.admissible := by
  unfold Fields.admissible; infer_instance

theorem lines_wellFormed (f : Fields) (hf : f.admissible) : ∀ s ∈ lines f, wellFormed s := by
  intro s hs
  simp only [lines, List.mem_cons, List.mem_singleton, List.not_mem_nil, or_false] at hs
  have field : ∀ s ∈ [f.messageType, f.messageId, f.from, f.toOrGroupId], wellFormed s :=
    fun s hs => (hf s hs).2
  rcases hs with rfl | rfl | rfl | rfl | rfl | rfl | rfl | rfl | rfl
  · decide
  · exact field _ (by simp)
  · exact field _ (by simp)
  · exact field _ (by simp)
  · exact field _ (by simp)
  · exact wellFormed_of_not_surrogate _ (longToString_not_surrogate _)
  · exact wellFormed_of_not_surrogate _ (encodeBase64_not_surrogate _)
  · exact wellFormed_of_not_surrogate _ (encodeBase64_not_surrogate _)
  · rfl

theorem newline_not_mem_lines (f : Fields) (hf : f.admissible) :
    ∀ s ∈ lines f, newline ∉ s := by
  intro s hs
  simp only [lines, List.mem_cons, List.mem_singleton, List.not_mem_nil, or_false] at hs
  have field : ∀ s ∈ [f.messageType, f.messageId, f.from, f.toOrGroupId], newline ∉ s :=
    fun s hs => (hf s hs).1
  rcases hs with rfl | rfl | rfl | rfl | rfl | rfl | rfl | rfl | rfl
  · decide
  · exact field _ (by simp)
  · exact field _ (by simp)
  · exact field _ (by simp)
  · exact field _ (by simp)
  · exact newline_not_mem_longToString _
  · exact newline_not_mem_encodeBase64 _
  · exact newline_not_mem_encodeBase64 _
  · simp

/-- Splitting the bytes at `0x0A` gives back the encoded lines. -/
theorem splitOn_canonicalBytes (f : Fields) (hf : f.admissible) :
    (canonicalBytes f).splitOn 0x0A#8 = (lines f).map encodeUtf8 := by
  rw [canonicalBytes_eq_intercalate]
  apply List.splitOn_intercalate
  · simp only [List.mem_map]
    rintro _ ⟨s, hs, rfl⟩ hmem
    exact newline_not_mem_lines f hf s hs
      (mem_of_ascii_mem_encodeUtf8 newline (by decide) (by decide) s hmem)
  · simp [lines]

/-- On admissible tuples the canonical bytes determine the tuple. -/
theorem canonicalBytes_injective {f g : Fields} (hf : f.admissible) (hg : g.admissible)
    (h : canonicalBytes f = canonicalBytes g) : f = g := by
  have hl := splitOn_canonicalBytes f hf
  rw [h, splitOn_canonicalBytes g hg] at hl
  have inj : ∀ s t, s ∈ lines f → t ∈ lines g → encodeUtf8 t = encodeUtf8 s → s = t :=
    fun s t hs ht he => (encodeUtf8_injective (lines_wellFormed g hg t ht)
      (lines_wellFormed f hf s hs) he).symm
  simp only [lines, List.map_cons, List.map_nil, List.cons.injEq] at hl
  obtain ⟨-, h1, h2, h3, h4, h5, h6, h7, -⟩ := hl
  have e1 := inj _ _ (by simp [lines]) (by simp [lines]) h1
  have e2 := inj _ _ (by simp [lines]) (by simp [lines]) h2
  have e3 := inj _ _ (by simp [lines]) (by simp [lines]) h3
  have e4 := inj _ _ (by simp [lines]) (by simp [lines]) h4
  have e5 := longToString_injective (inj _ _ (by simp [lines]) (by simp [lines]) h5)
  have e6 := encodeBase64_injective (inj _ _ (by simp [lines]) (by simp [lines]) h6)
  have e7 := encodeBase64_injective (inj _ _ (by simp [lines]) (by simp [lines]) h7)
  cases f
  cases g
  simp_all

/-- On admissible tuples the canonical bytes determine the tuple, so with ideal primitives a
    signature made by `signMessage` over one tuple is accepted by `verifyMessage` for no other. -/
theorem canonical_signing_injective_on_admissible (P : Primitives) (hP : Ideal P) {f g : Fields}
    (hf : f.admissible) (hg : g.admissible) (privateKey publicKey : List Byte) :
    (canonicalBytes f = canonicalBytes g → f = g) ∧
      (verifyMessage P g (signMessage P f privateKey) publicKey = true → g = f) :=
  ⟨canonicalBytes_injective hf hg, fun h =>
    canonicalBytes_injective hg hf (hP.sha256_injective (hP.unforgeable _ _ _ _ h))⟩

/-- Primitives that are ideal by construction: the identity as hash, and the data itself as its
    signature. -/
def transparentPrimitives : Primitives where
  sha256 := id
  sign d _ := d
  verify d sig _ := d == sig

theorem transparentPrimitives_ideal : Ideal transparentPrimitives where
  sha256_injective := Function.injective_id
  unforgeable _ _ _ _ h := by simpa [transparentPrimitives] using h

/-- A text message from one user to another. -/
def sampleText : Fields :=
  ⟨.ofString "send_message", .ofString "m-1", .ofString "WSP-A", .ofString "WSP-B",
    1700000000000#64, [1#8, 2#8, 3#8], [4#8, 5#8]⟩

/-- The same message with a timestamp one millisecond later. -/
def sampleTextLater : Fields := { sampleText with timestamp := 1700000000001#64 }

theorem canonical_signing_injective_on_admissible_sample :
    sampleText.admissible ∧ sampleTextLater.admissible ∧
      ((canonicalBytes sampleText = canonicalBytes sampleTextLater → sampleText = sampleTextLater) ∧
        (verifyMessage transparentPrimitives sampleTextLater
          (signMessage transparentPrimitives sampleText []) [] = true →
            sampleTextLater = sampleText)) :=
  ⟨by decide, by decide, canonical_signing_injective_on_admissible transparentPrimitives
    transparentPrimitives_ideal (by decide) (by decide) [] []⟩

/-! ## Section 4: Collisions -/

/-- A message type that carries a line feed. -/
def newlineInType : Fields := ⟨.ofString "a\nb", .ofString "c", [], [], 0#64, [], []⟩

/-- The same characters with the line feed moved into the message id. -/
def newlineInId : Fields := ⟨.ofString "a", .ofString "b\nc", [], [], 0#64, [], []⟩

/-- A message type that is an unpaired high surrogate. -/
def loneSurrogateType : Fields := ⟨[0xD800#16], [], [], [], 0#64, [], []⟩

/-- A message type that is a question mark. -/
def questionMarkType : Fields := ⟨.ofString "?", [], [], [], 0#64, [], []⟩

/-- Different tuples with the same canonical bytes: a line feed moved across a field boundary,
    and an unpaired surrogate against the `?` the encoder puts in its place. -/
theorem canonicalBytes_collisions :
    (newlineInType ≠ newlineInId ∧ canonicalBytes newlineInType = canonicalBytes newlineInId) ∧
      (loneSurrogateType ≠ questionMarkType ∧
        canonicalBytes loneSurrogateType = canonicalBytes questionMarkType) := by
  decide

end Whisper.CanonicalSigning

import Whisper.Jvm.Text

/-! # `ByteArray.encodeBase64`: Android's Base64 with `NO_WRAP`

    `Extensions.kt` defines `encodeBase64()` as `Base64.encodeToString(this, Base64.NO_WRAP)`:
    the standard alphabet, `=` padding, and no line breaks. The canonical signing string embeds
    the nonce and the ciphertext in this form, so what the proofs need of it is that it is
    injective and never produces a line feed.

    `decodeBase64` is a proof device, a left inverse, and not code of the repository.
-/

namespace Whisper

/-! ## Section 1: The encoder -/

/-- The character of a six-bit group in the alphabet `A-Z a-z 0-9 + /`. -/
def base64Char (i : Nat) : Char16 :=
  BitVec.ofNat 16
    (if i < 26 then 65 + i else if i < 52 then 71 + i else if i < 62 then i - 4
     else if i = 62 then 43 else 47)

/-- The padding character `=`. -/
def base64Pad : Char16 := 0x3D#16

/-- `ByteArray.encodeBase64()`: each three bytes become four characters; a last group of one
    or two bytes is padded with `=`. `NO_WRAP` drops the line feed Android adds by default
    every 76 characters. -/
def encodeBase64 : List Byte → JString
  | a :: b :: c :: rest =>
    [base64Char (a.toNat / 4), base64Char (a.toNat % 4 * 16 + b.toNat / 16),
      base64Char (b.toNat % 16 * 4 + c.toNat / 64), base64Char (c.toNat % 64)] ++
      encodeBase64 rest
  | [a, b] =>
    [base64Char (a.toNat / 4), base64Char (a.toNat % 4 * 16 + b.toNat / 16),
      base64Char (b.toNat % 16 * 4), base64Pad]
  | [a] => [base64Char (a.toNat / 4), base64Char (a.toNat % 4 * 16), base64Pad, base64Pad]
  | [] => []

/-! ## Section 2: Decoding, and injectivity -/

/-- The six-bit group of an alphabet character. -/
def base64Index (c : Char16) : Nat :=
  if 65 ≤ c.toNat ∧ c.toNat < 91 then c.toNat - 65
  else if 97 ≤ c.toNat ∧ c.toNat < 123 then c.toNat - 71
  else if 48 ≤ c.toNat ∧ c.toNat < 58 then c.toNat + 4
  else if c.toNat = 43 then 62 else 63

/-- The bytes of a padded Base64 text, four characters at a time. -/
def decodeBase64 : JString → List Byte
  | c0 :: c1 :: c2 :: c3 :: rest =>
    if c2 = base64Pad then [BitVec.ofNat 8 (base64Index c0 * 4 + base64Index c1 / 16)]
    else if c3 = base64Pad then
      [BitVec.ofNat 8 (base64Index c0 * 4 + base64Index c1 / 16),
        BitVec.ofNat 8 (base64Index c1 % 16 * 16 + base64Index c2 / 4)]
    else
      [BitVec.ofNat 8 (base64Index c0 * 4 + base64Index c1 / 16),
        BitVec.ofNat 8 (base64Index c1 % 16 * 16 + base64Index c2 / 4),
        BitVec.ofNat 8 (base64Index c2 % 4 * 64 + base64Index c3)] ++ decodeBase64 rest
  | _ => []

/-! The alphabet has 64 characters, so its facts are checked character by character. -/

theorem base64Index_base64Char (i : Nat) (h : i < 64) : base64Index (base64Char i) = i :=
  (by decide : ∀ i < 64, base64Index (base64Char i) = i) i h

theorem base64Char_ne_pad (i : Nat) (h : i < 64) : base64Char i ≠ base64Pad :=
  (by decide : ∀ i < 64, base64Char i ≠ base64Pad) i h

theorem base64Char_ascii (i : Nat) (h : i < 64) :
    43 ≤ (base64Char i).toNat ∧ (base64Char i).toNat < 123 :=
  (by decide : ∀ i < 64, 43 ≤ (base64Char i).toNat ∧ (base64Char i).toNat < 123) i h

/-- `decodeBase64` undoes `encodeBase64`. -/
theorem decodeBase64_encodeBase64 (bs : List Byte) : decodeBase64 (encodeBase64 bs) = bs := by
  induction bs using encodeBase64.induct with
  | case1 a b c rest ih =>
    have := a.isLt; have := b.isLt; have := c.isLt
    rw [encodeBase64, List.cons_append, List.cons_append, List.cons_append, List.singleton_append,
      decodeBase64, if_neg (base64Char_ne_pad _ (by omega)),
      if_neg (base64Char_ne_pad _ (by omega)), ih]
    simp only [base64Index_base64Char _ (by omega : a.toNat / 4 < 64),
      base64Index_base64Char _ (by omega : a.toNat % 4 * 16 + b.toNat / 16 < 64),
      base64Index_base64Char _ (by omega : b.toNat % 16 * 4 + c.toNat / 64 < 64),
      base64Index_base64Char _ (by omega : c.toNat % 64 < 64), List.cons_append,
      List.singleton_append, List.nil_append, List.cons.injEq, BitVec.toNat_eq, BitVec.toNat_ofNat,
      and_true]
    omega
  | case2 a b =>
    have := a.isLt; have := b.isLt
    rw [encodeBase64, decodeBase64, if_neg (base64Char_ne_pad _ (by omega)), if_pos rfl]
    simp only [base64Index_base64Char _ (by omega : a.toNat / 4 < 64),
      base64Index_base64Char _ (by omega : a.toNat % 4 * 16 + b.toNat / 16 < 64),
      base64Index_base64Char _ (by omega : b.toNat % 16 * 4 < 64), List.cons.injEq,
      BitVec.toNat_eq, BitVec.toNat_ofNat, and_true]
    omega
  | case3 a =>
    have := a.isLt
    rw [encodeBase64, decodeBase64, if_pos rfl]
    simp only [base64Index_base64Char _ (by omega : a.toNat / 4 < 64),
      base64Index_base64Char _ (by omega : a.toNat % 4 * 16 < 64), List.cons.injEq,
      BitVec.toNat_eq, BitVec.toNat_ofNat, and_true]
    omega
  | case4 => rfl

theorem encodeBase64_injective {xs ys : List Byte} (h : encodeBase64 xs = encodeBase64 ys) :
    xs = ys := by
  rw [← decodeBase64_encodeBase64 xs, h, decodeBase64_encodeBase64]

/-! ## Section 3: The alphabet is plain ASCII -/

/-- Every character of a Base64 text is `=` or lies in the alphabet, all below `0x80`. -/
theorem encodeBase64_ascii (bs : List Byte) (c : Char16) (h : c ∈ encodeBase64 bs) :
    43 ≤ c.toNat ∧ c.toNat < 123 := by
  have char := base64Char_ascii
  have pad : 43 ≤ base64Pad.toNat ∧ base64Pad.toNat < 123 := by decide
  induction bs using encodeBase64.induct with
  | case1 a b c' rest ih =>
    have := a.isLt; have := b.isLt; have := c'.isLt
    simp only [encodeBase64, List.cons_append, List.singleton_append, List.mem_cons] at h
    rcases h with rfl | rfl | rfl | rfl | h
    all_goals first | exact char _ (by omega) | exact ih h
  | case2 a b =>
    have := a.isLt; have := b.isLt
    simp only [encodeBase64, List.mem_cons, List.mem_singleton, List.not_mem_nil, or_false] at h
    rcases h with rfl | rfl | rfl | rfl
    all_goals first | exact char _ (by omega) | exact pad
  | case3 a =>
    have := a.isLt
    simp only [encodeBase64, List.mem_cons, List.mem_singleton, List.not_mem_nil, or_false] at h
    rcases h with rfl | rfl | rfl | rfl
    all_goals first | exact char _ (by omega) | exact pad
  | case4 => simp [encodeBase64] at h

theorem newline_not_mem_encodeBase64 (bs : List Byte) : newline ∉ encodeBase64 bs := fun h => by
  have := encodeBase64_ascii bs newline h
  simp [newline] at this

theorem encodeBase64_not_surrogate (bs : List Byte) (c : Char16) (h : c ∈ encodeBase64 bs) :
    c.isSurrogate = false :=
  Char16.isSurrogate_eq_false_of_lt (by have := encodeBase64_ascii bs c h; omega)

end Whisper

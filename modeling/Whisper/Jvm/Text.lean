import Mathlib.Data.List.Basic
import Mathlib.Data.Nat.Digits

/-! # JVM text: UTF-16 strings, their UTF-8 bytes, and decimal `Long`s

    The generated Kotlin code builds protocol strings with string templates and hashes their
    `toByteArray(Charsets.UTF_8)`. This module models the JVM primitives involved at the level
    the code sees them:

    - a Kotlin `String` is its list of UTF-16 code units (`JString`), so a string may hold an
      unpaired surrogate;
    - `encodeUtf8` is `String.getBytes(UTF_8)`: a surrogate pair becomes four bytes and an
      unpaired surrogate becomes the replacement byte `?`;
    - `longToString` is `Long.toString`: the shortest decimal, with `-` before a negative.

    The main results are `encodeUtf8_injective` (on well-formed UTF-16, through the decoder
    `decodeUtf8`, which is a proof device and not code of the repository),
    `encodeUtf8_intercalate` (an ASCII separator never pairs with its neighbours, so the bytes
    of a joined string are the joined bytes), and `longToString_injective`.
-/

namespace Whisper

/-! ## Section 1: Kotlin's machine types -/

/-- A Kotlin `Byte`, as its eight bits. -/
abbrev Byte := BitVec 8

/-- A Kotlin `Char`: one UTF-16 code unit. -/
abbrev Char16 := BitVec 16

/-- A Kotlin `Long`, as its 64 bits; `BitVec.toInt` reads them in two's complement. -/
abbrev Long := BitVec 64

/-- A Kotlin `String`: its UTF-16 code units in order. -/
abbrev JString := List Char16

namespace Char16

/-- `Char.isHighSurrogate`: the first unit of a pair, `U+D800..U+DBFF`. -/
def isHighSurrogate (c : Char16) : Bool := 0xD800 ≤ c.toNat && c.toNat < 0xDC00

/-- `Char.isLowSurrogate`: the second unit of a pair, `U+DC00..U+DFFF`. -/
def isLowSurrogate (c : Char16) : Bool := 0xDC00 ≤ c.toNat && c.toNat < 0xE000

/-- `Char.isSurrogate`: either half of a pair. -/
def isSurrogate (c : Char16) : Bool := 0xD800 ≤ c.toNat && c.toNat < 0xE000

theorem isHighSurrogate_eq_false {c : Char16} (h : c.isSurrogate = false) :
    c.isHighSurrogate = false := by
  simp only [isSurrogate, isHighSurrogate, Bool.and_eq_false_iff, decide_eq_false_iff_not] at *
  omega

theorem isLowSurrogate_eq_false {c : Char16} (h : c.isSurrogate = false) :
    c.isLowSurrogate = false := by
  simp only [isSurrogate, isLowSurrogate, Bool.and_eq_false_iff, decide_eq_false_iff_not] at *
  omega

theorem isSurrogate_eq_false_of_lt {c : Char16} (h : c.toNat < 0xD800) : c.isSurrogate = false := by
  simp only [isSurrogate, Bool.and_eq_false_iff, decide_eq_false_iff_not]
  omega

end Char16

/-- The code units of a Lean character, as a Java string literal stores it: one unit in the
    basic multilingual plane, a surrogate pair above it. -/
def utf16 (c : Char) : JString :=
  if c.toNat < 0x10000 then [BitVec.ofNat 16 c.toNat]
  else [BitVec.ofNat 16 (0xD800 + (c.toNat - 0x10000) / 1024),
    BitVec.ofNat 16 (0xDC00 + (c.toNat - 0x10000) % 1024)]

/-- A string literal of the Kotlin source as the `String` it denotes. -/
def JString.ofString (s : String) : JString := s.toList.flatMap utf16

/-- The line feed `'\n'` that separates the fields of the canonical signing string. -/
def newline : Char16 := 0x0A#16

/-! ## Section 2: `String.toByteArray(Charsets.UTF_8)` -/

/-- The UTF-8 bytes of one code unit read as a code point below `U+10000`. -/
def utf8Unit (c : Char16) : List Byte :=
  if c.toNat < 0x80 then [BitVec.ofNat 8 c.toNat]
  else if c.toNat < 0x800 then
    [BitVec.ofNat 8 (0xC0 + c.toNat / 64), BitVec.ofNat 8 (0x80 + c.toNat % 64)]
  else
    [BitVec.ofNat 8 (0xE0 + c.toNat / 4096), BitVec.ofNat 8 (0x80 + c.toNat / 64 % 64),
      BitVec.ofNat 8 (0x80 + c.toNat % 64)]

/-- `Character.toCodePoint`: the supplementary code point of a surrogate pair. -/
def codePoint (hi lo : Char16) : Nat :=
  0x10000 + (hi.toNat - 0xD800) * 1024 + (lo.toNat - 0xDC00)

/-- The four UTF-8 bytes of a surrogate pair's code point. -/
def utf8Pair (hi lo : Char16) : List Byte :=
  [BitVec.ofNat 8 (0xF0 + codePoint hi lo / 262144),
    BitVec.ofNat 8 (0x80 + codePoint hi lo / 4096 % 64),
    BitVec.ofNat 8 (0x80 + codePoint hi lo / 64 % 64),
    BitVec.ofNat 8 (0x80 + codePoint hi lo % 64)]

/-- One code unit that is not the first half of a pair: an unpaired surrogate is replaced by
    `?`, as the JDK's encoder does for `String.getBytes`. -/
def encodeUnit (c : Char16) : List Byte :=
  if c.isSurrogate then [0x3F#8] else utf8Unit c

/-- `String.toByteArray(Charsets.UTF_8)`. -/
def encodeUtf8 : JString → List Byte
  | [] => []
  | [c] => encodeUnit c
  | c :: d :: rest =>
    if c.isHighSurrogate && d.isLowSurrogate then utf8Pair c d ++ encodeUtf8 rest
    else encodeUnit c ++ encodeUtf8 (d :: rest)

theorem encodeUtf8_cons_of_not_pair (c d : Char16) (rest : JString)
    (h : (c.isHighSurrogate && d.isLowSurrogate) = false) :
    encodeUtf8 (c :: d :: rest) = encodeUnit c ++ encodeUtf8 (d :: rest) := by
  rw [encodeUtf8, if_neg (by simp [h])]

theorem encodeUtf8_cons_of_not_high (c : Char16) (s : JString) (h : c.isHighSurrogate = false) :
    encodeUtf8 (c :: s) = encodeUnit c ++ encodeUtf8 s := by
  cases s with
  | nil => simp [encodeUtf8]
  | cons d rest => exact encodeUtf8_cons_of_not_pair c d rest (by simp [h])

/-! ## Section 3: Decoding, and injectivity on well-formed strings -/

/-- The payload bits of a UTF-8 continuation byte. -/
def tail6 (b : Byte) : Nat := b.toNat - 0x80

/-- The code units of the first character of a UTF-8 byte string, and the bytes after it. -/
def decodeChar : List Byte → Option (JString × List Byte)
  | [] => none
  | b :: rest =>
    if b.toNat < 0x80 then some ([BitVec.ofNat 16 b.toNat], rest)
    else if b.toNat < 0xE0 then
      match rest with
      | b1 :: rest => some ([BitVec.ofNat 16 ((b.toNat - 0xC0) * 64 + tail6 b1)], rest)
      | [] => none
    else if b.toNat < 0xF0 then
      match rest with
      | b1 :: b2 :: rest =>
        some ([BitVec.ofNat 16 ((b.toNat - 0xE0) * 4096 + tail6 b1 * 64 + tail6 b2)], rest)
      | _ => none
    else
      match rest with
      | b1 :: b2 :: b3 :: rest =>
        some ([BitVec.ofNat 16
            (0xD800 + ((b.toNat - 0xF0) * 64 + tail6 b1 - 16) * 4 + tail6 b2 / 16),
          BitVec.ofNat 16 (0xDC00 + tail6 b2 % 16 * 64 + tail6 b3)], rest)
      | _ => none

/-- Decode up to `fuel` characters. -/
def decodeUtf8 : Nat → List Byte → JString
  | 0, _ => []
  | fuel + 1, bs =>
    match decodeChar bs with
    | some (cs, rest) => cs ++ decodeUtf8 fuel rest
    | none => []

theorem decodeUtf8_nil (fuel : Nat) : decodeUtf8 fuel [] = [] := by
  cases fuel <;> rfl

theorem decodeUtf8_succ {bs rest : List Byte} {cs : JString} (fuel : Nat)
    (h : decodeChar bs = some (cs, rest)) :
    decodeUtf8 (fuel + 1) bs = cs ++ decodeUtf8 fuel rest := by
  simp [decodeUtf8, h]

theorem decodeChar_utf8Unit (c : Char16) (bs : List Byte) :
    decodeChar (utf8Unit c ++ bs) = some ([c], bs) := by
  have hc := c.isLt
  unfold utf8Unit
  split_ifs
  all_goals
    simp (disch := omega) only [List.cons_append, List.singleton_append, List.nil_append,
      decodeChar, BitVec.toNat_ofNat, tail6, Nat.reducePow, if_pos, if_neg, Nat.mod_eq_of_lt]
    simp only [Option.some.injEq, Prod.mk.injEq, List.cons.injEq, and_true, BitVec.toNat_eq,
      BitVec.toNat_ofNat]
    omega

theorem decodeChar_utf8Pair (hi lo : Char16) (hh : hi.isHighSurrogate) (hl : lo.isLowSurrogate)
    (bs : List Byte) : decodeChar (utf8Pair hi lo ++ bs) = some ([hi, lo], bs) := by
  simp only [Char16.isHighSurrogate, Char16.isLowSurrogate, Bool.and_eq_true,
    decide_eq_true_eq] at hh hl
  simp (disch := omega) only [utf8Pair, List.cons_append, List.singleton_append, decodeChar,
    BitVec.toNat_ofNat, codePoint, tail6, Nat.reducePow, if_pos, if_neg, Nat.mod_eq_of_lt]
  simp only [Option.some.injEq, Prod.mk.injEq, List.cons.injEq, List.nil_append, and_true,
    BitVec.toNat_eq, BitVec.toNat_ofNat]
  constructor <;> omega

/-- Well-formed UTF-16: every high surrogate is followed by a low one, and every low surrogate
    follows a high one. -/
def wellFormed : JString → Bool
  | [] => true
  | [c] => !c.isSurrogate
  | c :: d :: rest =>
    if c.isHighSurrogate && d.isLowSurrogate then wellFormed rest
    else !c.isSurrogate && wellFormed (d :: rest)

theorem wellFormed_of_not_surrogate (s : JString) (h : ∀ c ∈ s, c.isSurrogate = false) :
    wellFormed s := by
  induction s using wellFormed.induct with
  | case1 => rfl
  | case2 c => simp [wellFormed, h c (by simp)]
  | case3 c d rest hp _ =>
    have := Char16.isHighSurrogate_eq_false (h c (by simp))
    simp [this] at hp
  | case4 c d rest hp ih =>
    rw [wellFormed, if_neg hp, h c (by simp), ih (fun x hx => h x (by simp_all))]
    rfl

/-- `decodeUtf8` undoes `encodeUtf8` on well-formed strings. -/
theorem decodeUtf8_encodeUtf8 (s : JString) (hs : wellFormed s) (fuel : Nat)
    (hf : s.length ≤ fuel) : decodeUtf8 fuel (encodeUtf8 s) = s := by
  induction s using encodeUtf8.induct generalizing fuel with
  | case1 => exact decodeUtf8_nil fuel
  | case2 c =>
    obtain ⟨n, rfl⟩ : ∃ n, fuel = n + 1 := ⟨fuel - 1, by simp at hf; omega⟩
    simp only [wellFormed, Bool.not_eq_true'] at hs
    have hd := decodeChar_utf8Unit c []
    rw [List.append_nil] at hd
    rw [encodeUtf8, encodeUnit, if_neg (by simp [hs]), decodeUtf8_succ n hd, decodeUtf8_nil]
    rfl
  | case3 c d rest hp ih =>
    obtain ⟨n, rfl⟩ : ∃ n, fuel = n + 1 := ⟨fuel - 1, by simp at hf; omega⟩
    simp only [Bool.and_eq_true] at hp
    rw [wellFormed, if_pos (by simp [hp])] at hs
    rw [encodeUtf8, if_pos (by simp [hp]), decodeUtf8_succ n (decodeChar_utf8Pair c d hp.1 hp.2 _),
      ih hs n (by simp at hf; omega)]
    rfl
  | case4 c d rest hp ih =>
    obtain ⟨n, rfl⟩ : ∃ n, fuel = n + 1 := ⟨fuel - 1, by simp at hf; omega⟩
    rw [wellFormed, if_neg hp, Bool.and_eq_true, Bool.not_eq_true'] at hs
    rw [encodeUtf8, if_neg hp, encodeUnit, if_neg (by simp [hs.1]),
      decodeUtf8_succ n (decodeChar_utf8Unit c _), ih hs.2 n (by simp at hf ⊢; omega)]
    rfl

/-- Two well-formed strings with the same UTF-8 bytes are equal. -/
theorem encodeUtf8_injective {s t : JString} (hs : wellFormed s) (ht : wellFormed t)
    (h : encodeUtf8 s = encodeUtf8 t) : s = t := by
  rw [← decodeUtf8_encodeUtf8 s hs (s.length + t.length) (by omega), h,
    decodeUtf8_encodeUtf8 t ht _ (by omega)]

/-! ## Section 4: Separators -/

/-- A code unit that is not a surrogate never pairs with its neighbours, so it splits the
    encoding. -/
theorem encodeUtf8_append_cons (a b : JString) (c : Char16) (hc : c.isSurrogate = false) :
    encodeUtf8 (a ++ c :: b) = encodeUtf8 a ++ (encodeUnit c ++ encodeUtf8 b) := by
  have hlow := Char16.isLowSurrogate_eq_false hc
  induction a using encodeUtf8.induct with
  | case1 => exact encodeUtf8_cons_of_not_high c b (Char16.isHighSurrogate_eq_false hc)
  | case2 x =>
    rw [List.singleton_append, encodeUtf8_cons_of_not_pair x c b (by simp [hlow]),
      encodeUtf8_cons_of_not_high c b (Char16.isHighSurrogate_eq_false hc)]
    rfl
  | case3 x y rest hp ih =>
    rw [List.cons_append, List.cons_append, encodeUtf8, if_pos hp, ih, encodeUtf8, if_pos hp,
      List.append_assoc]
  | case4 x y rest hp ih =>
    rw [List.cons_append, List.cons_append, encodeUtf8, if_neg hp, ← List.cons_append, ih,
      encodeUtf8, if_neg hp, List.append_assoc]

private theorem intercalate_cons_cons {α : Type} (sep a b : List α) (l : List (List α)) :
    sep.intercalate (a :: b :: l) = a ++ (sep ++ sep.intercalate (b :: l)) := by
  simp [List.intercalate, List.intersperse_cons_cons]

/-- The bytes of strings joined by a non-surrogate separator are the joined bytes. -/
theorem encodeUtf8_intercalate (c : Char16) (hc : c.isSurrogate = false) (ls : List JString) :
    encodeUtf8 ([c].intercalate ls) = (encodeUnit c).intercalate (ls.map encodeUtf8) := by
  induction ls with
  | nil => rfl
  | cons a ls ih =>
    cases ls with
    | nil => simp [List.intercalate]
    | cons b ls =>
      rw [intercalate_cons_cons, List.map_cons, List.map_cons, intercalate_cons_cons,
        List.singleton_append, encodeUtf8_append_cons _ _ c hc, ← List.map_cons, ← ih]

/-- An ASCII byte other than `?` occurs in the encoding only where its character occurs. -/
theorem mem_of_ascii_mem_encodeUtf8 (c : Char16) (hc : c.toNat < 0x80) (hq : c ≠ 0x3F#16)
    (s : JString) (h : BitVec.ofNat 8 c.toNat ∈ encodeUtf8 s) : c ∈ s := by
  have unit : ∀ x : Char16, BitVec.ofNat 8 c.toNat ∈ encodeUnit x → c = x := by
    intro x hx
    have := x.isLt
    simp only [ne_eq, BitVec.toNat_eq, BitVec.toNat_ofNat] at hq ⊢
    simp only [encodeUnit, utf8Unit] at hx
    split_ifs at hx <;>
      simp only [List.mem_cons, List.mem_singleton, List.not_mem_nil, or_false,
        BitVec.toNat_eq, BitVec.toNat_ofNat] at hx hq <;> omega
  induction s using encodeUtf8.induct with
  | case1 => simp [encodeUtf8] at h
  | case2 x => simp [unit x h]
  | case3 x y rest hp ih =>
    rw [encodeUtf8, if_pos hp, List.mem_append] at h
    rcases h with h | h
    · simp only [Char16.isHighSurrogate, Char16.isLowSurrogate, Bool.and_eq_true,
        decide_eq_true_eq] at hp
      simp only [utf8Pair, codePoint, List.mem_cons, List.mem_singleton, List.not_mem_nil,
        or_false, BitVec.toNat_eq, BitVec.toNat_ofNat] at h
      omega
    · exact List.mem_cons_of_mem _ (List.mem_cons_of_mem _ (ih h))
  | case4 x y rest hp ih =>
    rw [encodeUtf8, if_neg hp, List.mem_append] at h
    rcases h with h | h
    · simp [unit x h]
    · exact List.mem_cons_of_mem _ (ih h)

/-! ## Section 5: `Long.toString` -/

/-- The character of a decimal digit. -/
def digitChar (d : Nat) : Char16 := BitVec.ofNat 16 (0x30 + d)

/-- The decimal digits of a natural number, most significant first; `0` is `"0"`. -/
def decimalDigits (n : Nat) : List Nat :=
  if n = 0 then [0] else (Nat.digits 10 n).reverse

/-- `Long.toString`: `-` before a negative value, then the decimal digits of its magnitude. -/
def longToString (t : Long) : JString :=
  (if t.toInt < 0 then [0x2D#16] else []) ++ (decimalDigits t.toInt.natAbs).map digitChar

theorem decimalDigits_lt (n d : Nat) (h : d ∈ decimalDigits n) : d < 10 := by
  unfold decimalDigits at h
  split_ifs at h
  · simp_all
  · exact Nat.digits_lt_base (by norm_num) (List.mem_reverse.mp h)

theorem decimalDigits_injective {m n : Nat} (h : decimalDigits m = decimalDigits n) : m = n := by
  have zero : ∀ k, k ≠ 0 → [0] ≠ (Nat.digits 10 k).reverse := by
    intro k hk he
    have hl := Nat.getLast_digit_ne_zero 10 hk
    have hd : Nat.digits 10 k = [0] := by simpa using congrArg List.reverse he.symm
    simp [hd] at hl
  unfold decimalDigits at h
  split_ifs at h with hm hn hn
  · omega
  · exact absurd h (zero n hn)
  · exact absurd h.symm (zero m hm)
  · exact Nat.digits_inj_iff.mp (List.reverse_inj.mp h)

theorem map_digitChar_injective : ∀ {l₁ l₂ : List Nat}, (∀ d ∈ l₁, d < 10) →
    (∀ d ∈ l₂, d < 10) → l₁.map digitChar = l₂.map digitChar → l₁ = l₂
  | [], [], _, _, _ => rfl
  | a :: l₁, b :: l₂, h₁, h₂, h => by
    simp only [List.map_cons, List.cons.injEq, digitChar, BitVec.toNat_eq,
      BitVec.toNat_ofNat] at h
    have ha := h₁ a (by simp)
    have hb := h₂ b (by simp)
    rw [map_digitChar_injective (fun d hd => h₁ d (by simp [hd]))
      (fun d hd => h₂ d (by simp [hd])) h.2]
    congr 1
    omega

theorem digitChar_ne_minus (d : Nat) (h : d < 10) : digitChar d ≠ 0x2D#16 := by
  simp only [digitChar, ne_eq, BitVec.toNat_eq, BitVec.toNat_ofNat]
  omega

/-- `Long.toString` is injective: the sign and the digits determine the value. -/
theorem longToString_injective {s t : Long} (h : longToString s = longToString t) : s = t := by
  have digits_ne_nil : ∀ n, decimalDigits n ≠ [] := by
    intro n
    unfold decimalDigits
    split_ifs with hn
    · simp
    · simpa using Nat.digits_ne_nil_iff_ne_zero.mpr hn
  have first_digit : ∀ n, ∃ d rest,
      (decimalDigits n).map digitChar = digitChar d :: rest ∧ d < 10 := by
    intro n
    obtain ⟨d, rest, hd⟩ := List.exists_cons_of_ne_nil (digits_ne_nil n)
    exact ⟨d, rest.map digitChar, by simp [hd], decimalDigits_lt n d (by simp [hd])⟩
  have sign : (s.toInt < 0 ↔ t.toInt < 0) := by
    obtain ⟨d₁, r₁, h₁, hd₁⟩ := first_digit s.toInt.natAbs
    obtain ⟨d₂, r₂, h₂, hd₂⟩ := first_digit t.toInt.natAbs
    unfold longToString at h
    rw [h₁, h₂] at h
    split_ifs at h with hs ht ht <;> simp only [List.singleton_append, List.nil_append,
      List.cons.injEq] at h
    · simp [hs, ht]
    · exact absurd h.1.symm (digitChar_ne_minus d₂ hd₂)
    · exact absurd h.1 (digitChar_ne_minus d₁ hd₁)
    · simp [hs, ht]
  have habs : s.toInt.natAbs = t.toInt.natAbs := by
    unfold longToString at h
    have h' : (decimalDigits s.toInt.natAbs).map digitChar =
        (decimalDigits t.toInt.natAbs).map digitChar := by
      split_ifs at h <;> simp_all
    exact decimalDigits_injective (map_digitChar_injective (decimalDigits_lt _)
      (decimalDigits_lt _) h')
  apply BitVec.toInt_inj.mp
  omega

theorem longToString_not_surrogate (t : Long) (c : Char16) (h : c ∈ longToString t) :
    c.isSurrogate = false := by
  apply Char16.isSurrogate_eq_false_of_lt
  simp only [longToString, List.mem_append, List.mem_map] at h
  rcases h with h | ⟨d, hd, rfl⟩
  · split_ifs at h <;> simp_all
  · have := decimalDigits_lt _ d hd
    simp only [digitChar, BitVec.toNat_ofNat]
    omega

theorem newline_not_mem_longToString (t : Long) : newline ∉ longToString t := by
  intro h
  simp only [longToString, List.mem_append, List.mem_map] at h
  rcases h with h | ⟨d, hd, he⟩
  · split_ifs at h <;> simp_all [newline]
  · have := decimalDigits_lt _ d hd
    simp only [digitChar, newline, BitVec.toNat_eq, BitVec.toNat_ofNat] at he
    omega

end Whisper

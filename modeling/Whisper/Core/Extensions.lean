import Whisper.Jvm.Text

/-! # `Errors.kt` and `Extensions.kt`: exceptions and mnemonic normalization

    `normalizeMnemonic` is `normalizeNFKD().trim().replace(Regex("\\s+"), " ").lowercase()`.
    `trim` (Kotlin's `Char.isWhitespace`) and the regex class `\s` (Java's default, ASCII only)
    are modelled exactly. NFKD and `lowercase` need the Unicode tables; they are the fields of
    `UnicodeTables`, each paired with the one fact of the tables the proofs use.

    The main result, `normalizeMnemonic_phrase`, says that normalization leaves a single-spaced
    phrase of lowercase ASCII words unchanged, so `splitOn_phrase` recovers its words.

    `Long.isValidTimestamp` computes `abs(currentTimeMillis() - this)` in `Long` arithmetic.
    `isValidTimestamp_iff` says what it accepts for every pair of `Long`s: the window of the
    spec wherever the difference fits in a `Long` (`isValidTimestamp_iff_of_abs_lt`), and besides
    the timestamps whose difference wraps into the window or onto `Long.MIN_VALUE`, whose `abs`
    is negative.
-/

namespace Whisper

/-! ## Section 1: Exceptions -/

/-- The `CryptoException` subclasses the modelled functions raise (`Errors.kt`), with the
    message each is thrown with. -/
inductive CryptoException where
  /-- `InvalidMnemonicException()`. -/
  | invalidMnemonic
  /-- `EncryptionException(message)`. -/
  | encryption (message : String)
  /-- `DecryptionException(message)`. -/
  | decryption (message : String)
  deriving DecidableEq, Repr

/-- Kotlin's `IndexOutOfBoundsException` from `List.get`, with the index and the size. -/
structure IndexOutOfBounds where
  index : Nat
  size : Nat
  deriving DecidableEq, Repr

/-! ## Section 2: Characters -/

/-- The space `' '` that `joinToString(" ")` and `split(" ")` use. -/
def space : Char16 := 0x20#16

/-- Kotlin's `Char.isWhitespace()` on the JVM: `Character.isWhitespace` or
    `Character.isSpaceChar`. -/
def isWhitespace (c : Char16) : Bool :=
  (0x09 ≤ c.toNat && c.toNat ≤ 0x0D) || (0x1C ≤ c.toNat && c.toNat ≤ 0x20) ||
    c.toNat == 0xA0 || c.toNat == 0x1680 || (0x2000 ≤ c.toNat && c.toNat ≤ 0x200A) ||
    c.toNat == 0x2028 || c.toNat == 0x2029 || c.toNat == 0x202F || c.toNat == 0x205F ||
    c.toNat == 0x3000

/-- The regex class `\s`: `[ \t\n\x0B\f\r]`. -/
def isRegexSpace (c : Char16) : Bool := c.toNat == 0x20 || (0x09 ≤ c.toNat && c.toNat ≤ 0x0D)

/-- A lowercase ASCII letter. -/
def isLowerLetter (c : Char16) : Bool := 0x61 ≤ c.toNat && c.toNat ≤ 0x7A

/-- A nonempty word of lowercase ASCII letters, the shape of every word of the list. -/
def isLowerWord (w : JString) : Bool := !w.isEmpty && w.all isLowerLetter

theorem isLowerLetter_not_whitespace {c : Char16} (h : isLowerLetter c) :
    isWhitespace c = false := by
  simp only [isLowerLetter, isWhitespace, Bool.and_eq_true, decide_eq_true_eq, Bool.or_eq_false_iff,
    Bool.and_eq_false_iff, decide_eq_false_iff_not, beq_eq_false_iff_ne] at *
  omega

theorem isLowerLetter_not_regexSpace {c : Char16} (h : isLowerLetter c) :
    isRegexSpace c = false := by
  simp only [isLowerLetter, isRegexSpace, Bool.and_eq_true, decide_eq_true_eq, Bool.or_eq_false_iff,
    Bool.and_eq_false_iff, decide_eq_false_iff_not, beq_eq_false_iff_ne] at *
  omega

theorem isLowerLetter_ne_space {c : Char16} (h : isLowerLetter c) : c ≠ space := by
  rintro rfl
  simp [isLowerLetter, space] at h

theorem regexSpace_space : isRegexSpace space := by decide

/-! ## Section 3: `normalizeMnemonic` -/

/-- The library functions that need the Unicode tables, with the facts of the tables the
    proofs use. -/
structure UnicodeTables where
  /-- `Normalizer.normalize(this, Normalizer.Form.NFKD)`. -/
  nfkd : JString → JString
  /-- `String.lowercase()`, that is `toLowerCase(Locale.ROOT)`. -/
  lowercase : JString → JString
  /-- No ASCII character has a compatibility decomposition. -/
  nfkd_ascii : ∀ s : JString, (∀ c ∈ s, c.toNat < 0x80) → nfkd s = s
  /-- Lowercasing leaves lowercase ASCII letters and spaces as they are. -/
  lowercase_lower :
    ∀ s : JString, (∀ c ∈ s, c = space ∨ isLowerLetter c) → lowercase s = s

/-- ASCII case mapping: `A-Z` to `a-z`, every other unit unchanged. -/
def asciiLower (c : Char16) : Char16 :=
  if 0x41 ≤ c.toNat ∧ c.toNat ≤ 0x5A then c + 0x20#16 else c

/-- Tables that agree with Unicode on ASCII text: NFKD is the identity and `lowercase` maps
    only `A-Z`. Every fixed input this development runs the model on is ASCII. -/
def asciiTables : UnicodeTables where
  nfkd := id
  lowercase := List.map asciiLower
  nfkd_ascii _ _ := rfl
  lowercase_lower s hs := by
    conv_rhs => rw [← List.map_id s]
    refine List.map_congr_left fun c hc => ?_
    have : ¬(0x41 ≤ c.toNat ∧ c.toNat ≤ 0x5A) := by
      rcases hs c hc with rfl | h
      · decide
      · simp only [isLowerLetter, Bool.and_eq_true, decide_eq_true_eq] at h
        omega
    simp [asciiLower, this]

/-- `String.trim()`: drop `isWhitespace` characters at both ends. -/
def trim (s : JString) : JString :=
  ((s.dropWhile isWhitespace).reverse.dropWhile isWhitespace).reverse

/-- `replace(Regex("\\s+"), " ")`; the flag says whether the previous character was in a run
    already replaced. -/
def replaceSpaceRuns : Bool → JString → JString
  | _, [] => []
  | inRun, c :: rest =>
    if isRegexSpace c then
      if inRun then replaceSpaceRuns true rest else space :: replaceSpaceRuns true rest
    else c :: replaceSpaceRuns false rest

/-- `String.normalizeMnemonic()`. -/
def normalizeMnemonic (U : UnicodeTables) (s : JString) : JString :=
  U.lowercase (replaceSpaceRuns false (trim (U.nfkd s)))

/-- Words joined by single spaces: `joinToString(" ")`. -/
def phrase (ws : List JString) : JString := [space].intercalate ws

/-! ## Section 4: Normalization of a phrase -/

section Phrase

variable {ws : List JString}

private theorem intercalate_cons_cons' (w v : JString) (ws : List JString) :
    phrase (w :: v :: ws) = w ++ space :: phrase (v :: ws) := by
  simp [phrase, List.intercalate, List.intersperse_cons_cons]

theorem mem_phrase {c : Char16} (h : c ∈ phrase ws) : c = space ∨ ∃ w ∈ ws, c ∈ w := by
  induction ws with
  | nil => simp [phrase, List.intercalate] at h
  | cons w ws ih =>
    cases ws with
    | nil => exact .inr ⟨w, by simp, by simpa [phrase, List.intercalate] using h⟩
    | cons v ws =>
      rw [intercalate_cons_cons', List.mem_append, List.mem_cons] at h
      rcases h with h | h | h
      · exact .inr ⟨w, by simp, h⟩
      · exact .inl h
      · rcases ih h with h | ⟨x, hx, hc⟩
        · exact .inl h
        · exact .inr ⟨x, List.mem_cons_of_mem _ hx, hc⟩

theorem replaceSpaceRuns_word (w rest : JString) (hw : isLowerWord w) (b : Bool) :
    replaceSpaceRuns b (w ++ rest) = w ++ replaceSpaceRuns false rest := by
  induction w generalizing b with
  | nil => simp [isLowerWord] at hw
  | cons c w ih =>
    simp only [isLowerWord, List.isEmpty_cons, Bool.not_false, List.all_cons, Bool.true_and,
      Bool.and_eq_true] at hw
    rw [List.cons_append, replaceSpaceRuns, if_neg (by simp [isLowerLetter_not_regexSpace hw.1])]
    cases w with
    | nil => rfl
    | cons d w => rw [ih (by simp [isLowerWord, hw.2]) false]; rfl

theorem replaceSpaceRuns_phrase (hne : ws ≠ []) (hw : ∀ w ∈ ws, isLowerWord w) (b : Bool) :
    replaceSpaceRuns b (phrase ws) = phrase ws := by
  induction ws generalizing b with
  | nil => exact absurd rfl hne
  | cons w ws ih =>
    cases ws with
    | nil =>
      have := replaceSpaceRuns_word w [] (hw w (by simp)) b
      simpa [phrase, List.intercalate, replaceSpaceRuns] using this
    | cons v ws =>
      rw [intercalate_cons_cons', replaceSpaceRuns_word _ _ (hw w (by simp)), replaceSpaceRuns,
        if_pos regexSpace_space, if_neg (by simp), ih (by simp) (fun x hx => hw x (by simp [hx]))]

theorem head?_phrase (w : JString) (hw : isLowerWord w) (ws : List JString) :
    ∃ c, (phrase (w :: ws)).head? = some c ∧ isLowerLetter c := by
  obtain ⟨c, w', rfl⟩ : ∃ c w', w = c :: w' := by
    cases w with
    | nil => simp [isLowerWord] at hw
    | cons c w' => exact ⟨c, w', rfl⟩
  refine ⟨c, ?_, by simp_all [isLowerWord]⟩
  cases ws with
  | nil => simp [phrase, List.intercalate]
  | cons v ws => rw [intercalate_cons_cons']; rfl

theorem getLast?_phrase (hne : ws ≠ []) (hw : ∀ w ∈ ws, isLowerWord w) :
    ∃ c, (phrase ws).getLast? = some c ∧ isLowerLetter c := by
  induction ws with
  | nil => exact absurd rfl hne
  | cons w ws ih =>
    cases ws with
    | nil =>
      have := hw w (by simp)
      simp only [isLowerWord, Bool.and_eq_true, Bool.not_eq_true', List.isEmpty_eq_false,
        List.all_eq_true] at this
      exact ⟨w.getLast this.1,
        by simp [phrase, List.intercalate, List.getLast?_eq_getLast _ this.1],
        this.2 _ (List.getLast_mem this.1)⟩
    | cons v ws =>
      obtain ⟨d, hd, hdl⟩ := ih (by simp) (fun x hx => hw x (by simp [hx]))
      exact ⟨d, by rw [intercalate_cons_cons', List.getLast?_append, List.getLast?_cons, hd]; rfl,
        hdl⟩

private theorem dropWhile_of_head? {p : Char16 → Bool} {l : JString} {c : Char16}
    (h : l.head? = some c) (hc : p c = false) : l.dropWhile p = l := by
  cases l with
  | nil => simp at h
  | cons d l =>
    simp only [List.head?_cons, Option.some.injEq] at h
    subst h
    simp [hc]

theorem trim_phrase (hne : ws ≠ []) (hw : ∀ w ∈ ws, isLowerWord w) :
    trim (phrase ws) = phrase ws := by
  obtain ⟨c, hc, hcl⟩ : ∃ c, (phrase ws).head? = some c ∧ isLowerLetter c := by
    obtain ⟨w, ws', rfl⟩ := List.exists_cons_of_ne_nil hne
    exact head?_phrase w (hw w (by simp)) ws'
  obtain ⟨d, hd, hdl⟩ := getLast?_phrase hne hw
  rw [trim, dropWhile_of_head? hc (isLowerLetter_not_whitespace hcl),
    dropWhile_of_head? (by rw [List.head?_reverse, hd]) (isLowerLetter_not_whitespace hdl),
    List.reverse_reverse]

/-- Normalization leaves a single-spaced phrase of lowercase ASCII words unchanged. -/
theorem normalizeMnemonic_phrase (U : UnicodeTables) (hne : ws ≠ [])
    (hw : ∀ w ∈ ws, isLowerWord w) :
    normalizeMnemonic U (phrase ws) = phrase ws := by
  have letters : ∀ c ∈ phrase ws, c = space ∨ isLowerLetter c := by
    intro c hc
    rcases mem_phrase hc with h | ⟨w, hws, hcw⟩
    · exact .inl h
    · have := hw w hws
      simp only [isLowerWord, Bool.and_eq_true, List.all_eq_true] at this
      exact .inr (this.2 c hcw)
  have ascii : ∀ c ∈ phrase ws, c.toNat < 0x80 := by
    intro c hc
    rcases letters c hc with rfl | h
    · decide
    · simp only [isLowerLetter, Bool.and_eq_true, decide_eq_true_eq] at h
      omega
  rw [normalizeMnemonic, U.nfkd_ascii _ ascii, trim_phrase hne hw, replaceSpaceRuns_phrase hne hw,
    U.lowercase_lower _ letters]

/-- Splitting a phrase on spaces gives back its words. -/
theorem splitOn_phrase (hne : ws ≠ []) (hw : ∀ w ∈ ws, isLowerWord w) :
    (phrase ws).splitOn space = ws := by
  refine List.splitOn_intercalate ws space (fun w hws hsp => ?_) hne
  have := hw w hws
  simp only [isLowerWord, Bool.and_eq_true, List.all_eq_true] at this
  exact isLowerLetter_ne_space (this.2 space hsp) rfl

end Phrase

/-! ## Section 5: Timestamps -/

/-- `Constants.TIMESTAMP_SKEW_MS`: `10 * 60 * 1000L`, an `Int` product widened to `Long`. -/
def timestampSkewMs : Long := (10#32 * 60#32).signExtend 64 * 1000#64

/-- `kotlin.math.abs(n: Long)`: `if (n < 0) -n else n`, so `abs(Long.MIN_VALUE)` is
    `Long.MIN_VALUE`. -/
def absLong (n : Long) : Long := if n.slt 0#64 then -n else n

/-- `Long.isValidTimestamp()`, with `currentTimeMillis()` returning `now`. -/
def isValidTimestamp (now t : Long) : Bool := (absLong (now - t)).sle timestampSkewMs

@[simp] theorem toInt_timestampSkewMs : timestampSkewMs.toInt = 600000 := by decide

theorem toInt_intMin_long : (BitVec.intMin 64).toInt = -2 ^ 63 := by decide

theorem toInt_bounds (x : Long) : -2 ^ 63 ≤ x.toInt ∧ x.toInt < 2 ^ 63 := by
  have := x.isLt
  rw [BitVec.toInt_eq_toNat_cond]
  split <;> omega

/-- Kotlin's `abs` is the absolute value everywhere but at `Long.MIN_VALUE`. -/
theorem toInt_absLong (n : Long) :
    (absLong n).toInt = if n = BitVec.intMin 64 then n.toInt else |n.toInt| := by
  unfold absLong
  split_ifs with hneg hmin hmin
  · subst hmin; simp
  · rw [BitVec.toInt_neg_of_ne_intMin hmin, abs_of_neg (by simpa [BitVec.slt] using hneg)]
  · subst hmin; simp [BitVec.slt] at hneg
  · rw [abs_of_nonneg (by simpa [BitVec.slt] using hneg)]

/-- The check accepts exactly the timestamps whose wrapped difference with `now` is within the
    skew, and the one at which that difference is `Long.MIN_VALUE`. -/
theorem isValidTimestamp_iff (now t : Long) :
    isValidTimestamp now t = true ↔
      |(now - t).toInt| ≤ 600000 ∨ now - t = BitVec.intMin 64 := by
  rw [isValidTimestamp, BitVec.sle, decide_eq_true_iff, toInt_absLong, toInt_timestampSkewMs]
  split_ifs with h
  · simp [h, toInt_intMin_long]
  · simp [h]

/-- Where the difference fits in a `Long`, `Long` subtraction is exact. -/
theorem toInt_sub_of_abs_lt {now t : Long} (h : |now.toInt - t.toInt| < 2 ^ 63) :
    (now - t).toInt = now.toInt - t.toInt := by
  rw [BitVec.toInt_sub, Int.bmod_def]
  have := toInt_bounds now
  have := toInt_bounds t
  rw [abs_lt] at h
  split <;> omega

/-- Where the difference fits in a `Long`, the check is the window of the spec. -/
theorem isValidTimestamp_iff_of_abs_lt {now t : Long} (h : |now.toInt - t.toInt| < 2 ^ 63) :
    isValidTimestamp now t = true ↔ |now.toInt - t.toInt| ≤ 600000 := by
  rw [isValidTimestamp_iff, toInt_sub_of_abs_lt h, or_iff_left]
  intro hmin
  have := congrArg BitVec.toInt hmin
  rw [toInt_sub_of_abs_lt h, toInt_intMin_long] at this
  rw [this] at h
  norm_num at h

theorem isValidTimestamp_second_apart :
    |(1700000000000#64).toInt - (1699999999000#64).toInt| < 2 ^ 63 ∧
      (isValidTimestamp 1700000000000#64 1699999999000#64 = true ↔
        |(1700000000000#64).toInt - (1699999999000#64).toInt| ≤ 600000) :=
  have h : |(1700000000000#64).toInt - (1699999999000#64).toInt| < 2 ^ 63 := by decide
  ⟨h, isValidTimestamp_iff_of_abs_lt h⟩

/-- For every current time, the timestamp `now + Long.MIN_VALUE`, `2^63` ms away from it, is
    accepted: the difference wraps to `Long.MIN_VALUE`, whose `abs` is negative. -/
theorem isValidTimestamp_overflow_hole (now : Long) :
    isValidTimestamp now (now + BitVec.intMin 64) = true ∧
      |now.toInt - (now + BitVec.intMin 64).toInt| = 2 ^ 63 := by
  constructor
  · rw [isValidTimestamp_iff, BitVec.intMin]
    right
    bv_omega
  · have := toInt_bounds now
    rw [BitVec.toInt_add, toInt_intMin_long, Int.bmod_def, abs_eq (by norm_num)]
    split <;> omega

end Whisper

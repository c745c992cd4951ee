import Whisper.Core.Extensions

/-! # `BIP39WordList.kt`

    The word list as the generator writes it: twenty rows of ten words from the start of the
    English BIP39 list, a comment `// ... truncated for brevity - full list would have 2048
    words`, and the last three words of the English list. The object's doc comment says
    "BIP39 English wordlist (2048 words)"; the list the code indexes has 203 (`length_words`).

    The words are all lowercase ASCII (`words_lowerWord`), so `isValidWord` accepts each of
    them as it stands (`lowercase_of_mem`).
-/

namespace Whisper.BIP39WordList

/-- The words of `BIP39WordList.words`, in the source's order. -/
def wordsText : List String := [
    "abandon", "ability", "able", "about", "above", "absent", "absorb", "abstract", "absurd", "abuse",
    "access", "accident", "account", "accuse", "achieve", "acid", "acoustic", "acquire", "across", "act",
    "action", "actor", "actress", "actual", "adapt", "add", "addict", "address", "adjust", "admit",
    "adult", "advance", "advice", "aerobic", "affair", "afford", "afraid", "again", "age", "agent",
    "agree", "ahead", "aim", "air", "airport", "aisle", "alarm", "album", "alcohol", "alert",
    "alien", "all", "alley", "allow", "almost", "alone", "alpha", "already", "also", "alter",
    "always", "amateur", "amazing", "among", "amount", "amused", "analyst", "anchor", "ancient", "anger",
    "angle", "angry", "animal", "ankle", "announce", "annual", "another", "answer", "antenna", "antique",
    "anxiety", "any", "apart", "apology", "appear", "apple", "approve", "april", "arch", "arctic",
    "area", "arena", "argue", "arm", "armed", "armor", "army", "around", "arrange", "arrest",
    "arrive", "arrow", "art", "artefact", "artist", "artwork", "ask", "aspect", "assault", "asset",
    "assist", "assume", "asthma", "athlete", "atom", "attack", "attend", "attitude", "attract", "auction",
    "audit", "august", "aunt", "author", "auto", "autumn", "average", "avocado", "avoid", "awake",
    "aware", "away", "awesome", "awful", "awkward", "axis", "baby", "bachelor", "bacon", "badge",
    "bag", "balance", "balcony", "ball", "bamboo", "banana", "banner", "bar", "barely", "bargain",
    "barrel", "base", "basic", "basket", "battle", "beach", "bean", "beauty", "because", "become",
    "beef", "before", "begin", "behave", "behind", "believe", "below", "belt", "bench", "benefit",
    "best", "betray", "better", "between", "beyond", "bicycle", "bid", "bike", "bind", "biology",
    "bird", "birth", "bitter", "black", "blade", "blame", "blanket", "blast", "bleak", "bless",
    "blind", "blood", "blossom", "blouse", "blue", "blur", "blush", "board", "boat", "body",
    "zero", "zone", "zoo"
  ]

/-- `BIP39WordList.words`. -/
def words : List JString := wordsText.map JString.ofString

/-- `isValidWord(word)`: `words.contains(word.lowercase())`. -/
def isValidWord (U : UnicodeTables) (word : JString) : Bool := words.contains (U.lowercase word)

/-- `getWord(index)`: `words[index]`, which throws past the end of the list. -/
def getWord (index : Nat) : Except IndexOutOfBounds JString :=
  match words[index]? with
  | some w => .ok w
  | none => .error ⟨index, words.length⟩

set_option maxRecDepth 20000 in
theorem length_words : words.length = 203 := by decide

set_option maxRecDepth 20000 in
theorem words_lowerWord : ∀ w ∈ words, isLowerWord w := by decide

/-- Every word of the list is its own lowercase form. -/
theorem lowercase_of_mem (U : UnicodeTables) {w : JString} (hw : w ∈ words) :
    U.lowercase w = w := by
  have hl := words_lowerWord w hw
  simp only [isLowerWord, Bool.and_eq_true, List.all_eq_true] at hl
  exact U.lowercase_lower w fun c hc => .inr (hl.2 c hc)

end Whisper.BIP39WordList

import Mathlib
import Listing.Text.Letter
import Listing.Vocabulary.Keyword
import Listing.Vocabulary.Operator

/-!
# Matching words

What a vocabulary finds at the start of a text depends on the first letters of the text alone. A
character that stands in no word behind its first letter cuts the search off: what follows it is
never looked at. The words of keywords open with a letter, and the character that opens an operator
is one by itself.
-/

namespace Listing.Vocabulary

/-! ## One word -/

/-- A word found at the start of a text is found there whatever follows the text. -/
theorem beginsWith_append {word t : Text} (found : beginsWith word t = true) (rest : Text) :
    beginsWith word (t ++ rest) = true := by
  fun_induction beginsWith word t with
  | case1 => simp [beginsWith]
  | case2 => simp at found
  | case3 w word c t ih =>
    rw [Bool.and_eq_true] at found
    rw [List.cons_append, beginsWith, found.1, ih found.2, Bool.and_self]

/-- A character that a word does not hold ends the comparison with the word. -/
theorem beginsWith_append_cons {word : Text} {d : Char} (absent : d.toLower ∉ word)
    (t rest : Text) : beginsWith word (t ++ d :: rest) = beginsWith word t := by
  induction word generalizing t with
  | nil => simp [beginsWith]
  | cons w word ih =>
    rw [List.mem_cons, not_or] at absent
    cases t with
    | nil => simp [beginsWith, Ne.symm absent.1]
    | cons c t => rw [List.cons_append, beginsWith, beginsWith, ih absent.2]

/-- A word is matched alike by texts that differ in the case of letters. -/
theorem beginsWith_toLower (word t : Text) :
    beginsWith word (Text.toLower t) = beginsWith word t := by
  fun_induction beginsWith word t with
  | case1 => simp [beginsWith]
  | case2 => simp [beginsWith, Text.toLower]
  | case3 w word c t ih =>
    rw [Text.toLower, List.map_cons, beginsWith, Char.toLower_toLower_eq_toLower]
    exact congrArg _ ih

/-- A word that is no longer than a text, or differs from it, is matched in the text alone. -/
theorem beginsWith_append_of_differs {word t : Text}
    (short : word.length ≤ t.length ∨ word.take t.length ≠ Text.toLower t) (rest : Text) :
    beginsWith word (t ++ rest) = beginsWith word t := by
  rw [Bool.eq_iff_iff]
  constructor
  · intro found
    rw [beginsWith_iff] at found ⊢
    rcases Nat.lt_or_ge t.length word.length with longer | fits
    · have differs := short.resolve_left (Nat.not_le.2 longer)
      have start := congrArg (List.take t.length) found
      rw [Text.toLower, ← List.map_take, List.take_take, Nat.min_eq_left (Nat.le_of_lt longer),
        List.take_left] at start
      exact absurd start differs
    · rwa [List.take_append_of_le_length fits] at found
  · intro found
    exact beginsWith_append found rest

/-- The first letter of a word that a text begins with is the first letter of the text. -/
theorem head?_of_beginsWith {word t : Text} {c : Char} (nonempty : word ≠ [])
    (found : beginsWith word (c :: t) = true) : word.head? = some c.toLower := by
  cases word with
  | nil => exact absurd rfl nonempty
  | cons w word =>
    rw [beginsWith, Bool.and_eq_true, beq_iff_eq] at found
    simp [found.1]

/-! ## The longest word -/

/-- Two texts that begin with the same words of a vocabulary have the same entry. -/
theorem longestAt?_congr {α : Type} {word : α → Text} {s t : Text} {entries : List α}
    (same : ∀ a ∈ entries, beginsWith (word a) s = beginsWith (word a) t) :
    longestAt? word s entries = longestAt? word t entries := by
  induction entries with
  | nil => rfl
  | cons a entries ih =>
    have head := same a (by simp)
    have tail := ih fun b member => same b (by simp [member])
    rw [longestAt?, longestAt?, head, tail]

/-- The case of letters does not matter. -/
theorem longestAt?_toLower {α : Type} (word : α → Text) (t : Text) (entries : List α) :
    longestAt? word (Text.toLower t) entries = longestAt? word t entries :=
  longestAt?_congr fun a _ => beginsWith_toLower (word a) t

/-- Nothing is found exactly where the text begins with none of the words. -/
theorem longestAt?_eq_none_iff {α : Type} {word : α → Text} {t : Text} {entries : List α} :
    longestAt? word t entries = none ↔ ∀ a ∈ entries, beginsWith (word a) t = false := by
  induction entries with
  | nil => simp [longestAt?]
  | cons a entries ih =>
    rw [longestAt?]
    cases later : longestAt? word t entries with
    | none =>
      cases head : beginsWith (word a) t with
      | false => simpa [head] using ih.1 later
      | true => simp [head]
    | some b =>
      have found := longestAt?_eq_some later
      dsimp only
      constructor
      · intro nothing
        split at nothing <;> cases nothing
      · intro absent
        rw [absent b (by simp [found.1])] at found
        cases found.2

/-- Where nothing is found in a text, nothing is found in a part that it begins with. -/
theorem longestAt?_eq_none_of_append {α : Type} {word : α → Text} {entries : List α}
    {t : Text} (rest : Text) (nothing : longestAt? word (t ++ rest) entries = none) :
    longestAt? word t entries = none := by
  rw [longestAt?_eq_none_iff] at nothing ⊢
  intro a member
  cases found : beginsWith (word a) t with
  | false => rfl
  | true =>
    have longer := beginsWith_append found rest
    rw [nothing a member] at longer
    cases longer

/-- A character that stands in no word behind its first letter ends the search. -/
theorem longestAt?_cons_append_cons {α : Type} {word : α → Text} {entries : List α} {d : Char}
    (absent : ∀ a ∈ entries, d.toLower ∉ (word a).tail) (c : Char) (t rest : Text) :
    longestAt? word (c :: (t ++ d :: rest)) entries = longestAt? word (c :: t) entries := by
  apply longestAt?_congr
  intro a member
  have tail := absent a member
  cases spelled : word a with
  | nil => simp [beginsWith]
  | cons w ws =>
    rw [spelled, List.tail_cons] at tail
    rw [beginsWith, beginsWith, beginsWith_append_cons tail]

end Listing.Vocabulary

namespace Listing

/-! ## Letters and their case -/

/-- A character whose lower case is no letter is that character. -/
theorem eq_of_toLower_eq {c d : Char} (lower : c.toLower = d) (other : d.isLower = false) :
    c = d := by
  by_cases upper : c.isUpper = true
  · have letter := Char.isLower_toLower_eq_isAlpha c
    rw [lower, other, Char.isAlpha, upper] at letter
    cases letter
  · rw [← lower, Char.toLower_eq_of_not_isUpper upper]

/-- A word without letters is compared as it is. -/
theorem Vocabulary.beginsWith_iff_take {word : Text} (signs : ∀ d ∈ word, d.isAlpha = false)
    (t : Text) : beginsWith word t = true ↔ t.take word.length = word := by
  induction word generalizing t with
  | nil => simp [beginsWith]
  | cons w word ih =>
    rw [List.forall_mem_cons, Char.isAlpha, Bool.or_eq_false_iff] at signs
    cases t with
    | nil => simp [beginsWith]
    | cons c t =>
      have sign : w = c.toLower ↔ c = w := by
        constructor
        · intro lower
          exact eq_of_toLower_eq lower.symm signs.1.2
        · rintro rfl
          rw [Char.toLower_eq_of_not_isUpper (by simp [signs.1.1])]
      rw [beginsWith, Bool.and_eq_true, beq_iff_eq, ih signs.2, sign]
      simp

/-- A character whose lower case is a letter is a letter. -/
theorem isLetter_of_isLower_toLower {c : Char} (lower : c.toLower.isLower = true) :
    Text.isLetter c = true := by
  rw [Char.isLower_toLower_eq_isAlpha] at lower
  have ascii : c.toNat < 128 := by
    simp only [Char.isAlpha, Char.isUpper, Char.isLower, Bool.or_eq_true, Bool.and_eq_true,
      decide_eq_true_eq, UInt32.le_iff_toNat_le] at lower
    rcases lower with lower | lower
    · exact Nat.lt_of_le_of_lt lower.2 (by decide)
    · exact Nat.lt_of_le_of_lt lower.2 (by decide)
  rw [Text.isLetter, if_pos ascii, lower]

/-- A letter is not among the characters that operators open with. -/
theorem Operator.at?_eq_none_of_isLetter {c : Char} (letter : Text.isLetter c = true)
    (t : Text) : Operator.at? (c :: t) = none := by
  apply Vocabulary.longestAt?_eq_none_iff.2
  intro o _
  cases found : Vocabulary.beginsWith o.word (c :: t) with
  | false => rfl
  | true =>
    have head := Vocabulary.head?_of_beginsWith o.word_ne_nil found
    have sign : o.word.head?.all (fun d => !d.isLower && !Text.isLetter d) = true := by
      cases o <;> rfl
    rw [head, Option.all_some, Bool.and_eq_true, Bool.not_eq_true', Bool.not_eq_true'] at sign
    rw [← eq_of_toLower_eq rfl sign.1, letter] at sign
    cases sign.2

namespace Keyword

theorem mem_all (k : Keyword) : k ∈ all := by
  cases k <;> decide

/-- Words are written in lower case. -/
theorem toLower_word (k : Keyword) : Text.toLower k.word = k.word := by
  have table : ∀ k ∈ all, Text.toLower k.word = k.word := by
    decide +kernel
  exact table k k.mem_all

theorem at?_toLower (t : Text) : at? (Text.toLower t) = at? t :=
  Vocabulary.longestAt?_toLower word t all

/-- Every keyword is the longest at the start of its own word. -/
theorem at?_word (k : Keyword) : at? k.word = some k := by
  have table : ∀ k ∈ all, at? k.word = some k := by
    decide +kernel
  exact table k k.mem_all

theorem head?_word_isLower (k : Keyword) : k.word.head?.all Char.isLower = true := by
  have table : ∀ k ∈ all, k.word.head?.all Char.isLower = true := by
    decide +kernel
  exact table k k.mem_all

/-- Words open with a letter, so that nothing is found at any other character. -/
theorem at?_eq_none_of_not_letter {c : Char} (other : Text.isLetter c = false) (t : Text) :
    at? (c :: t) = none := by
  apply Vocabulary.longestAt?_eq_none_iff.2
  intro k _
  cases found : Vocabulary.beginsWith k.word (c :: t) with
  | false => rfl
  | true =>
    have head := Vocabulary.head?_of_beginsWith k.word_ne_nil found
    have lower := k.head?_word_isLower
    rw [head, Option.all_some] at lower
    rw [isLetter_of_isLower_toLower lower] at other
    cases other

/-- Behind the three letters of a remark nothing makes another keyword of them. -/
theorem at?_append_of_rem {letters : Text} (spelled : Text.toLower letters = REM.word)
    (t : Text) : at? (letters ++ t) = some .REM := by
  have table : ∀ k ∈ all,
      k.word.length ≤ REM.word.length ∨ k.word.take REM.word.length ≠ REM.word := by
    decide +kernel
  have three : letters.length = REM.word.length := by
    rw [← spelled, Text.toLower, List.length_map]
  have same : at? (letters ++ t) = at? REM.word := by
    apply Vocabulary.longestAt?_congr
    intro k member
    have short := table k member
    rw [← three, ← spelled] at short
    rw [Vocabulary.beginsWith_append_of_differs short, ← spelled, Vocabulary.beginsWith_toLower]
  rw [same, at?_word]

end Keyword

namespace Operator

theorem at?_toLower (t : Text) : at? (Text.toLower t) = at? t :=
  Vocabulary.longestAt?_toLower word t all

theorem isAlpha_of_mem_word (o : Operator) : ∀ d ∈ o.word, d.isAlpha = false := by
  cases o <;> simp [word]

/-- An operator stands at the start of a text exactly if its first character is one. -/
theorem at?_cons_eq_none_iff {c : Char} {t : Text} : at? (c :: t) = none ↔ at? [c] = none := by
  unfold at?
  rw [Vocabulary.longestAt?_eq_none_iff, Vocabulary.longestAt?_eq_none_iff]
  simp only [all, List.forall_mem_cons, word, Vocabulary.beginsWith]
  simp +contextual

/-- What an operator is found in are its own characters. -/
theorem take_of_at? {t : Text} {o : Operator} (found : at? t = some o) :
    t.take o.word.length = o.word :=
  (Vocabulary.beginsWith_iff_take o.isAlpha_of_mem_word t).1 (Vocabulary.longestAt?_eq_some found).2

end Operator

end Listing

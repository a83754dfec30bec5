import Listing.Proofs.Token.LetterCase

/-!
# The longest word

What a vocabulary finds at a place of a text is described by the bytes of the text alone: an entry is
found if its word stands there and no longer word of the vocabulary does. Two words of one length
cannot both stand in one place, so that there is never a choice.

A table of words has what the argument needs: every entry is found in its own word, which makes the
words distinct and the table complete, and a word takes as many bytes as it has characters. Words of
letters are compared in lower case, signs as they are.

Main statement: `at?_iff_longest`, for keywords, operators and whole words.
-/

namespace Listing

namespace Vocabulary

/-! ## The longest word that a text begins with -/

/-- No word that a text begins with is longer than the one that is found. -/
theorem length_le_of_longestAt? {α : Type} {word : α → Text} {t : Text} {entries : List α} {a b : α}
    (found : longestAt? word t entries = some a) (member : b ∈ entries)
    (begins : beginsWith (word b) t = true) : (word b).length ≤ (word a).length := by
  induction entries generalizing a with
  | nil => cases member
  | cons c entries ih =>
    rw [longestAt?] at found
    cases later : longestAt? word t entries with
    | none =>
      have absent := longestAt?_eq_none_iff.1 later
      rcases List.mem_cons.1 member with rfl | inside
      · rw [later, begins] at found
        cases found
        exact Nat.le_refl _
      · rw [absent b inside] at begins
        cases begins
    | some d =>
      rw [later] at found
      dsimp only at found
      split_ifs at found with longer
      · cases found
        rw [Bool.and_eq_true, decide_eq_true_eq] at longer
        rcases List.mem_cons.1 member with rfl | inside
        · exact Nat.le_refl _
        · have bound := ih later inside
          omega
      · cases found
        rcases List.mem_cons.1 member with rfl | inside
        · simp only [begins, Bool.true_and, decide_eq_true_eq] at longer
          omega
        · exact ih later inside

/-- Words of one length that a text begins with are the same. -/
theorem eq_of_beginsWith {first second t : Text} (begins : beginsWith first t = true)
    (begins' : beginsWith second t = true) (length : first.length = second.length) :
    first = second := by
  rw [beginsWith_iff] at begins begins'
  rw [begins, begins', length]

/-! ## Words at a place of a text -/

/-- Whether a word stands at a byte offset of a text, which is read by `fold`. -/
def Stands (fold : Text → Text) (word text : Text) (offset : Nat) : Prop :=
  (text.slice? offset (offset + word.length)).map fold = some word

/-- An entry whose word stands at a byte offset of a text, where no longer word does. -/
structure IsLongest {α : Type} (fold : Text → Text) (word : α → Text) (text : Text) (offset : Nat)
    (a : α) : Prop where
  stands : Stands fold (word a) text offset
  longest : ∀ b, Stands fold (word b) text offset → (word b).length ≤ (word a).length

/-- The words of a vocabulary, one for each value, that are looked for in a text read by `fold`. -/
structure IsTable {α : Type} (fold : Text → Text) (word : α → Text) (entries : List α) : Prop where
  /-- Every value is found in its own word. -/
  finds : ∀ a, longestAt? word (word a) entries = some a
  /-- Words are of ASCII. -/
  bytes : ∀ a, Text.byteLength (word a) = (word a).length
  begins : ∀ a t, beginsWith (word a) t = true ↔ fold (t.take (word a).length) = word a
  /-- Reading a text changes neither its characters' number nor their sizes. -/
  size : ∀ t, (fold t).length = t.length ∧ Text.byteLength (fold t) = Text.byteLength t

namespace IsTable

variable {α : Type} {fold : Text → Text} {word : α → Text} {entries : List α} {a b : α}
  {text rest : Text} {offset : Nat}

theorem mem (table : IsTable fold word entries) (a : α) : a ∈ entries :=
  (longestAt?_eq_some (table.finds a)).1

theorem injective (table : IsTable fold word entries) (same : word a = word b) : a = b := by
  have found := table.finds a
  rw [same, table.finds b] at found
  exact (Option.some.inj found).symm

/-- A word stands where the text that follows begins with it. -/
theorem stands_iff (table : IsTable fold word entries)
    (boundary : text.dropBytes? offset = some rest) :
    Stands fold (word a) text offset ↔ beginsWith (word a) rest = true := by
  obtain ⟨front, rfl, rfl⟩ := Text.dropBytes?_eq_some_iff.1 boundary
  unfold Stands
  rw [table.begins, Option.map_eq_some_iff]
  constructor
  · rintro ⟨piece, sliced, reads⟩
    obtain ⟨⟨after, rfl⟩, -⟩ := Text.slice?_eq_some_iff.1 sliced
    have length : (word a).length = piece.length := by rw [← reads, (table.size piece).1]
    rw [length, List.take_left, reads]
  · intro reads
    refine ⟨rest.take (word a).length, Text.slice?_eq_some_iff.2 ⟨?_, ?_⟩, reads⟩
    · exact ⟨rest.drop (word a).length, (List.take_append_drop _ _).symm⟩
    · rw [← (table.size _).2, reads, table.bytes]

/-- An entry is found exactly if its word is the longest that stands in the place. -/
theorem longestAt?_eq_some_iff (table : IsTable fold word entries)
    (boundary : text.dropBytes? offset = some rest) :
    longestAt? word rest entries = some a ↔ IsLongest fold word text offset a := by
  constructor
  · intro found
    refine ⟨(table.stands_iff boundary).2 (longestAt?_eq_some found).2, ?_⟩
    intro b stands
    exact length_le_of_longestAt? found (table.mem b) ((table.stands_iff boundary).1 stands)
  · rintro ⟨stands, longest⟩
    have begins := (table.stands_iff boundary).1 stands
    cases found : longestAt? word rest entries with
    | none =>
      rw [longestAt?_eq_none_iff.1 found a (table.mem a)] at begins
      cases begins
    | some b =>
      have begins' := (longestAt?_eq_some found).2
      have atMost := longest b ((table.stands_iff boundary).2 begins')
      have atLeast := length_le_of_longestAt? found (table.mem a) begins
      rw [table.injective (eq_of_beginsWith begins' begins (by omega))]

/-- What is found comes with the length of its word. -/
theorem found_iff (table : IsTable fold word entries) {n : Nat}
    (boundary : text.dropBytes? offset = some rest) :
    (longestAt? word rest entries).map (fun a => (a, (word a).length)) = some (a, n) ↔
      (word a).length = n ∧ IsLongest fold word text offset a := by
  rw [← table.longestAt?_eq_some_iff boundary, Option.map_eq_some_iff]
  constructor
  · rintro ⟨b, found, same⟩
    cases same
    exact ⟨rfl, found⟩
  · rintro ⟨rfl, found⟩
    exact ⟨a, found, rfl⟩

/-- Nothing is found exactly if no word stands in the place. -/
theorem longestAt?_eq_none_iff (table : IsTable fold word entries)
    (boundary : text.dropBytes? offset = some rest) :
    longestAt? word rest entries = none ↔ ∀ a, ¬ Stands fold (word a) text offset := by
  rw [Vocabulary.longestAt?_eq_none_iff]
  constructor
  · intro absent a stands
    have begins := (table.stands_iff boundary).1 stands
    rw [absent a (table.mem a)] at begins
    cases begins
  · intro absent a _
    rw [← Bool.not_eq_true]
    exact fun begins => absent a ((table.stands_iff boundary).2 begins)

end IsTable

end Vocabulary

/-! ## Keywords and operators -/

namespace Keyword

/-- Keywords are words of ASCII that are read in lower case. -/
theorem isTable : Vocabulary.IsTable Text.toLower word all where
  finds := at?_word
  bytes k := by
    have table : ∀ k ∈ all, Text.byteLength k.word = k.word.length := by decide +kernel
    exact table k k.mem_all
  begins k t := by
    rw [Vocabulary.beginsWith_iff]
    exact eq_comm
  size t := ⟨List.length_map _, Text.byteLength_toLower t⟩

/-- A whole text is a keyword exactly if it spells the word. -/
theorem ofWord?_eq_some_iff {w : Text} {k : Keyword} :
    ofWord? w = some k ↔ Text.toLower w = k.word := by
  unfold ofWord?
  constructor
  · intro found
    split at found
    · next l here =>
      split_ifs at found with whole
      cases found
      have spelled := Vocabulary.beginsWith_iff.1 (beginsWith_of_at? here)
      rw [whole, List.take_length] at spelled
      exact spelled.symm
    · cases found
  · intro spelled
    have here : at? w = some k := by rw [← at?_toLower, spelled, at?_word]
    have whole : k.word.length = w.length := by rw [← spelled, Text.toLower, List.length_map]
    rw [here]
    exact if_pos whole

end Keyword

namespace Operator

/-- Operators are signs that are read as they are. -/
theorem isTable : Vocabulary.IsTable id word all where
  finds o := by cases o <;> decide
  bytes o := by cases o <;> rfl
  begins o t := Vocabulary.beginsWith_iff_take o.isAlpha_of_mem_word t
  size _ := ⟨rfl, rfl⟩

end Operator

namespace Vocabulary

/-- At every place between two characters of a text, the keyword found is the one whose word stands
    there, in letters of either case, and is the longest of those; nothing is found only where no
    word stands. The same holds for operators, which have no letters. A whole text is the keyword
    whose word it spells. -/
theorem at?_iff_longest {text rest : Text} {offset : Nat}
    (boundary : text.dropBytes? offset = some rest) :
    (∀ k n, (Keyword.at? rest).map (fun k => (k, k.word.length)) = some (k, n) ↔
      k.word.length = n ∧ IsLongest Text.toLower Keyword.word text offset k) ∧
    (Keyword.at? rest = none ↔ ∀ k : Keyword, ¬ Stands Text.toLower k.word text offset) ∧
    (∀ o n, (Operator.at? rest).map (fun o => (o, o.word.length)) = some (o, n) ↔
      o.word.length = n ∧ IsLongest id Operator.word text offset o) ∧
    (Operator.at? rest = none ↔ ∀ o : Operator, ¬ Stands id o.word text offset) ∧
    ∀ w k, Keyword.ofWord? w = some k ↔ Text.toLower w = k.word := by
  refine ⟨?_, Keyword.isTable.longestAt?_eq_none_iff boundary, ?_,
    Operator.isTable.longestAt?_eq_none_iff boundary, fun w k => Keyword.ofWord?_eq_some_iff⟩
  · intro k n
    exact Keyword.isTable.found_iff boundary
  · intro o n
    exact Operator.isTable.found_iff boundary

/-- Behind a letter of two bytes, `input#` is found where `input` stands as well, and then `<>`, where
    `<` does. -/
theorem at?_iff_longest_input :
    let text := "éINput#<>".toList
    IsLongest Text.toLower Keyword.word text 2 .INPUTHASH ∧
      Stands Text.toLower Keyword.INPUT.word text 2 ∧
      IsLongest id Operator.word text 8 .notEqual ∧ Stands id Operator.less.word text 8 := by
  intro text
  have atTwo : Text.dropBytes? text 2 = some "INput#<>".toList := rfl
  have atEight : Text.dropBytes? text 8 = some "<>".toList := rfl
  have keyword := (at?_iff_longest atTwo).1 .INPUTHASH 6
  have operator := (at?_iff_longest atEight).2.2.1 .notEqual 2
  refine ⟨(keyword.1 (by decide +kernel)).2, ?_, (operator.1 (by decide +kernel)).2, ?_⟩
  · unfold Stands
    decide +kernel
  · unfold Stands
    decide +kernel

end Vocabulary

end Listing

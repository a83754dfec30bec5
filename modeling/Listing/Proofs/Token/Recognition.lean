import Listing.Proofs.Vocabulary.Matching
import Listing.Token.Lexeme

/-!
# How a lexeme is recognised

`Recognised` lists the ways in which a lexeme comes about, one for each kind of beginning. A lexeme
stops in front of a break: a space, a colon, a comma, a semicolon, a parenthesis or a line feed.
What stands from there on does not change how it is read. Remarks and strings without a closing
quote are open: nothing but the line feed stops them.

Main statements: `read_eq_iff`, reading is recognition; and `read_append_cons`, a lexeme is read
alike with and without a break and more text behind the text it is read from.
-/

namespace Listing

/-- Whether a token takes the rest of its line: a remark, or a string whose value does not end in
    a second quote. -/
def Token.isOpen (t : Token) : Bool :=
  t.isRemark || (t.kind == .string && t.value.tail.getLast? != some '"')

namespace Vocabulary

theorem length_le_of_beginsWith {word t : Text} (found : beginsWith word t = true) :
    word.length ≤ t.length := by
  have spelled := congrArg List.length (beginsWith_iff.1 found)
  rw [Text.toLower, List.length_map, List.length_take] at spelled
  omega

end Vocabulary

namespace Lexeme

/-! ## Ways to be recognised -/

/-- A character that opens neither a line ending nor a string, a number or a colon. -/
def OpensWord (c : Char) : Prop := c ≠ '\n' ∧ c ≠ '"' ∧ c.isDigit = false ∧ c ≠ ':'

/-- The lexeme that the text `c :: cs` starts with, by the way it is recognised. -/
inductive Recognised (c : Char) (cs : Text) : Lexeme → Prop
  | newline (line : c = '\n') : Recognised c cs ⟨Token.newline, [c], cs⟩
  | string (quote : c = '"') : Recognised c cs (string cs)
  | number (digit : c.isDigit = true) : Recognised c cs (number (c :: cs))
  | colon (colon : c = ':') : Recognised c cs (plain .colon [c] cs)
  | operator (o : Operator) (opens : OpensWord c) (found : Operator.at? (c :: cs) = some o) :
      Recognised c cs
        (plain .symbol ((c :: cs).take o.word.length) ((c :: cs).drop o.word.length))
  | keyword (k : Keyword) (opens : OpensWord c) (noOperator : Operator.at? (c :: cs) = none)
      (found : Keyword.at? (c :: cs) = some k) : Recognised c cs (keyword k (c :: cs))
  | name (opens : OpensWord c) (noOperator : Operator.at? (c :: cs) = none)
      (noKeyword : Keyword.at? (c :: cs) = none) (letter : Text.isLetter c = true) :
      Recognised c cs (name c cs)
  | other (opens : OpensWord c) (noOperator : Operator.at? (c :: cs) = none)
      (noKeyword : Keyword.at? (c :: cs) = none) (noLetter : Text.isLetter c = false) :
      Recognised c cs (plain .symbol [c] cs)

theorem recognised_read (c : Char) (cs : Text) : Recognised c cs (read c cs) := by
  unfold read
  split
  · next line => exact .newline line
  split
  · next quote => exact .string quote
  split
  · next digit => exact .number digit
  split
  · next colon => exact .colon colon
  next line quote digit colon =>
  have opens : OpensWord c := ⟨line, quote, Bool.eq_false_of_not_eq_true digit, colon⟩
  split
  · next o found => exact .operator o opens found
  · next noOperator =>
    split
    · next k found => exact .keyword k opens noOperator found
    · next noKeyword =>
      split
      · next letter => exact .name opens noOperator noKeyword letter
      · next letter =>
        exact .other opens noOperator noKeyword (Bool.eq_false_of_not_eq_true letter)

/-- There is one way to recognise what a text starts with. -/
theorem Recognised.read_eq {c : Char} {cs : Text} {l : Lexeme} (h : Recognised c cs l) :
    read c cs = l := by
  cases h with
  | newline line => simp [read, line]
  | string quote => simp [read, quote]
  | number digit =>
    have line : c ≠ '\n' := by rintro rfl; cases digit
    have quote : c ≠ '"' := by rintro rfl; cases digit
    simp [read, line, quote, digit]
  | colon colon => subst colon; rfl
  | operator o opens found =>
    obtain ⟨line, quote, digit, colon⟩ := opens
    simp [read, line, quote, digit, colon, found]
  | keyword k opens noOperator found =>
    obtain ⟨line, quote, digit, colon⟩ := opens
    simp [read, line, quote, digit, colon, noOperator, found]
  | name opens noOperator noKeyword letter =>
    obtain ⟨line, quote, digit, colon⟩ := opens
    simp [read, line, quote, digit, colon, noOperator, noKeyword, letter]
  | other opens noOperator noKeyword noLetter =>
    obtain ⟨line, quote, digit, colon⟩ := opens
    simp [read, line, quote, digit, colon, noOperator, noKeyword, noLetter]

theorem read_eq_iff {c : Char} {cs : Text} {l : Lexeme} : read c cs = l ↔ Recognised c cs l := by
  constructor
  · rintro rfl
    exact recognised_read c cs
  · exact Recognised.read_eq

/-! ## Breaks -/

/-- The characters that end every lexeme but the open ones. -/
def breaks : Text := [' ', ':', ',', ';', '(', ')', '\n']

/-- What the recognisers ask of a character in order to read on. -/
theorem not_continued_of_mem_breaks {d : Char} (member : d ∈ breaks) :
    d.isDigit = false ∧ d ≠ '.' ∧ continuesName d = false ∧
      (∀ o ∈ Operator.all, d.toLower ∉ o.word.tail) ∧
      (∀ k ∈ Keyword.all, d.toLower ∉ k.word.tail) := by
  have table : breaks.all (fun d => !d.isDigit && d != '.' && !continuesName d &&
      Operator.all.all (fun o => !o.word.tail.contains d.toLower) &&
      Keyword.all.all (fun k => !k.word.tail.contains d.toLower)) = true := by
    decide +kernel
  simpa [and_assoc] using List.all_eq_true.1 table d member

/-! ## Runs of characters -/

/-- A run that ends inside a text, or at the character behind it, does not go on. -/
theorem takeWhile_append_cons {p : Char → Bool} {s : Text} {d : Char}
    (stops : p d = false ∨ s.dropWhile p ≠ []) (rest : Text) :
    (s ++ d :: rest).takeWhile p = s.takeWhile p := by
  induction s with
  | nil =>
    have stop := stops.resolve_right (by simp)
    simp [stop]
  | cons c s ih =>
    rw [List.cons_append, List.takeWhile_cons, List.takeWhile_cons]
    cases taken : p c with
    | false => rfl
    | true =>
      rw [List.dropWhile_cons, taken] at stops
      simpa using ih stops

theorem dropWhile_append_cons {p : Char → Bool} {s : Text} {d : Char}
    (stops : p d = false ∨ s.dropWhile p ≠ []) (rest : Text) :
    (s ++ d :: rest).dropWhile p = s.dropWhile p ++ d :: rest := by
  induction s with
  | nil =>
    have stop := stops.resolve_right (by simp)
    simp [stop]
  | cons c s ih =>
    rw [List.cons_append, List.dropWhile_cons, List.dropWhile_cons]
    cases taken : p c with
    | false => rfl
    | true =>
      rw [List.dropWhile_cons, taken] at stops
      simpa using ih stops

/-! ## One recogniser after the other -/

/-- A string is closed exactly if a quote ends the run of its characters. -/
theorem string_isOpen_eq_false_iff (cs : Text) : (string cs).token.isOpen = false ↔
    ∃ rest, cs.dropWhile (fun c => c != '"' && c != '\n') = '"' :: rest := by
  unfold string
  split
  · next rest stop => simp [plain, Token.isOpen, Token.isRemark, stop]
  · next stop =>
    constructor
    · intro closed
      simp only [plain, Token.isOpen, Token.isRemark, List.tail_cons, beq_self_eq_true,
        Bool.true_and, Bool.or_eq_false_iff, bne_eq_false_iff_eq] at closed
      have member := List.mem_of_getLast? closed.2
      have inside := List.mem_takeWhile_imp member
      simp at inside
    · rintro ⟨rest, quote⟩
      exact absurd quote (stop rest)

theorem string_append_cons {cs : Text} {d : Char}
    (stops : d = '\n' ∨ (string cs).token.isOpen = false) (rest : Text) :
    string (cs ++ d :: rest) = { string cs with rest := (string cs).rest ++ d :: rest } := by
  have runs : (d != '"' && d != '\n') = false ∨
      cs.dropWhile (fun c => c != '"' && c != '\n') ≠ [] := by
    rcases stops with rfl | closed
    · exact Or.inl rfl
    · obtain ⟨r, quote⟩ := (string_isOpen_eq_false_iff cs).1 closed
      exact Or.inr (by simp [quote])
  unfold string
  rw [takeWhile_append_cons runs, dropWhile_append_cons runs]
  cases stop : cs.dropWhile (fun c => c != '"' && c != '\n') with
  | nil =>
    have line : d = '\n' := by
      rcases stops with line | closed
      · exact line
      · obtain ⟨r, quote⟩ := (string_isOpen_eq_false_iff cs).1 closed
        rw [stop] at quote
        cases quote
    subst line
    rfl
  | cons x r =>
    by_cases quote : x = '"'
    · subst quote
      rfl
    · simp only [List.cons_append]
      split
      · next equal => cases equal; exact absurd rfl quote
      · split
        · next equal => cases equal; exact absurd rfl quote
        · rfl

theorem number_append_cons {cs : Text} {d : Char} (digit : d.isDigit = false) (point : d ≠ '.')
    (rest : Text) :
    number (cs ++ d :: rest) = { number cs with rest := (number cs).rest ++ d :: rest } := by
  unfold number
  rw [takeWhile_append_cons (.inl digit), dropWhile_append_cons (.inl digit)]
  cases stop : cs.dropWhile Char.isDigit with
  | nil =>
    rw [List.nil_append]
    split
    · next equal => cases equal; exact absurd rfl point
    · rfl
  | cons x r =>
    by_cases dot : x = '.'
    · subst dot
      simp only [List.cons_append]
      rw [takeWhile_append_cons (.inl digit), dropWhile_append_cons (.inl digit)]
      rfl
    · simp only [List.cons_append]
      split
      · next equal => cases equal; exact absurd rfl dot
      · split
        · next equal => cases equal; exact absurd rfl dot
        · rfl

theorem remark_append_newline {cs : Text} (long : Keyword.REM.word.length ≤ cs.length)
    (rest : Text) :
    remark (cs ++ '\n' :: rest) = { remark cs with rest := (remark cs).rest ++ '\n' :: rest } := by
  unfold remark
  rw [List.take_append_of_le_length long, List.drop_append_of_le_length long]
  simp only [takeWhile_append_cons (p := (· != '\n')) (d := '\n') (.inl rfl),
    dropWhile_append_cons (p := (· != '\n')) (d := '\n') (.inl rfl)]

theorem isRemark_remarkValue (comment : Text) :
    Token.isRemark ⟨.keyword, remarkValue comment⟩ = true := by
  have value : Keyword.REM.word.isPrefixOf (remarkValue comment) = true := by
    rw [List.isPrefixOf_iff_prefix]
    unfold remarkValue
    split
    · exact List.prefix_rfl
    · exact List.prefix_append _ _
  exact Bool.and_eq_true_iff.2 ⟨rfl, value⟩

/-- A remark is open. -/
theorem remark_isOpen (cs : Text) : (remark cs).token.isOpen = true := by
  rw [Token.isOpen, Bool.or_eq_true]
  exact Or.inl (isRemark_remarkValue _)

/-- No other keyword is taken for a remark. -/
theorem isRemark_eq_false {k : Keyword} (other : k ≠ .REM) :
    Token.isRemark ⟨.keyword, k.word⟩ = false := by
  have table : ∀ k ∈ Keyword.all, k ≠ .REM → Token.isRemark ⟨.keyword, k.word⟩ = false := by
    decide +kernel
  exact table k k.mem_all other

theorem keyword_append_cons {k : Keyword} {cs : Text} {d : Char}
    (long : k.word.length ≤ cs.length)
    (stops : d = '\n' ∨ (keyword k cs).token.isOpen = false) (rest : Text) :
    keyword k (cs ++ d :: rest) =
      { keyword k cs with rest := (keyword k cs).rest ++ d :: rest } := by
  unfold keyword at stops ⊢
  by_cases comment : k = .REM
  · rw [if_pos comment, remark_isOpen] at stops
    have line : d = '\n' := stops.resolve_right (by simp)
    subst comment line
    exact remark_append_newline long rest
  · rw [if_neg comment, if_neg comment, List.take_append_of_le_length long,
      List.drop_append_of_le_length long]

theorem continuesName_of_mem_nameTail {cs : Text} {c : Char} (member : c ∈ nameTail cs) :
    continuesName c = true := by
  fun_induction nameTail cs with
  | case1 => cases member
  | case2 d cs continued ih =>
    rw [Bool.and_eq_true] at continued
    rcases List.mem_cons.1 member with rfl | behind
    · exact continued.1
    · exact ih behind
  | case3 d cs _ => cases member

theorem nameTail_append_cons {d : Char} (member : d ∈ breaks) (cs rest : Text) :
    nameTail (cs ++ d :: rest) = nameTail cs := by
  obtain ⟨-, -, continued, -, words⟩ := not_continued_of_mem_breaks member
  induction cs with
  | nil => simp [nameTail, continued]
  | cons c cs ih =>
    rw [List.cons_append, nameTail, nameTail, ih, Keyword.at?,
      Vocabulary.longestAt?_cons_append_cons words]
    rfl

theorem nameTail_length_le (cs : Text) : (nameTail cs).length ≤ cs.length := by
  have whole := congrArg List.length (nameTail_append_drop cs)
  rw [List.length_append] at whole
  omega

theorem name_append_cons {d : Char} (member : d ∈ breaks) (c : Char) (cs rest : Text) :
    name c (cs ++ d :: rest) = { name c cs with rest := (name c cs).rest ++ d :: rest } := by
  unfold name
  rw [nameTail_append_cons member, List.drop_append_of_le_length (nameTail_length_le cs)]
  rfl

/-! ## Every lexeme -/

/-- A lexeme is read alike when a break and more text follow the text it is read from. An open
    lexeme asks for a line feed. -/
theorem read_append_cons {c : Char} {cs : Text} {d : Char} (member : d ∈ breaks)
    (stops : d = '\n' ∨ (read c cs).token.isOpen = false) (rest : Text) :
    read c (cs ++ d :: rest) = { read c cs with rest := (read c cs).rest ++ d :: rest } := by
  obtain ⟨digit, point, -, operators, words⟩ := not_continued_of_mem_breaks member
  have operator : Operator.at? (c :: (cs ++ d :: rest)) = Operator.at? (c :: cs) :=
    Vocabulary.longestAt?_cons_append_cons operators c cs rest
  have word : Keyword.at? (c :: (cs ++ d :: rest)) = Keyword.at? (c :: cs) :=
    Vocabulary.longestAt?_cons_append_cons words c cs rest
  rw [read_eq_iff]
  have recognised := recognised_read c cs
  generalize read c cs = l at recognised stops ⊢
  cases recognised with
  | newline line => exact .newline line
  | string quote =>
    rw [← string_append_cons stops]
    exact .string quote
  | number digits =>
    rw [← number_append_cons digit point]
    exact .number digits
  | colon colon => exact .colon colon
  | operator o opens found =>
    have long := Vocabulary.length_le_of_beginsWith (Vocabulary.longestAt?_eq_some found).2
    have longer := Recognised.operator o opens (operator.trans found)
    rwa [← List.cons_append, List.take_append_of_le_length long,
      List.drop_append_of_le_length long] at longer
  | keyword k opens noOperator found =>
    have long := Vocabulary.length_le_of_beginsWith (Keyword.beginsWith_of_at? found)
    rw [← keyword_append_cons long stops]
    exact .keyword k opens (operator.trans noOperator) (word.trans found)
  | name opens noOperator noKeyword letter =>
    rw [← name_append_cons member]
    exact .name opens (operator.trans noOperator) (word.trans noKeyword) letter
  | other opens noOperator noKeyword noLetter =>
    exact .other opens (operator.trans noOperator) (word.trans noKeyword) noLetter

end Lexeme

end Listing

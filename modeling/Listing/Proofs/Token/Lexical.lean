import Listing.Program.Render
import Listing.Proofs.Text.Trimming
import Listing.Proofs.Token.Recognition

/-!
# Lexical tokens

The tokens that reading a text can give, by their values. The text that a lexical token is written
with reads back as the token, in either case of keywords, and whatever follows from a break on.

Main statements: `read_lexical`, reading gives lexical tokens; and `read_render_append`, lexical
tokens are read back.
-/

namespace Listing

/-- The tokens of a text, its end left out. -/
inductive Token.Lexical : Token → Prop
  | newline : Lexical Token.newline
  | colon : Lexical ⟨.colon, [':']⟩
  | closedString (inside : Text) (plain : ∀ c ∈ inside, c ≠ '"' ∧ c ≠ '\n') :
      Lexical ⟨.string, '"' :: inside ++ ['"']⟩
  | openString (inside : Text) (plain : ∀ c ∈ inside, c ≠ '"' ∧ c ≠ '\n') :
      Lexical ⟨.string, '"' :: inside⟩
  | whole (digits : Text) (nonempty : digits ≠ []) (digital : ∀ c ∈ digits, c.isDigit = true) :
      Lexical ⟨.digit, digits⟩
  | decimal (digits places : Text) (nonempty : digits ≠ [])
      (digital : ∀ c ∈ digits, c.isDigit = true) (digitalPlaces : ∀ c ∈ places, c.isDigit = true) :
      Lexical ⟨.digit, digits ++ '.' :: places⟩
  | operator (o : Operator) : Lexical ⟨.symbol, o.word⟩
  | keyword (k : Keyword) (other : k ≠ .REM) : Lexical ⟨.keyword, k.word⟩
  | remark (comment : Text) (trimmed : Text.trimBlanks comment = comment)
      (line : '\n' ∉ comment) : Lexical ⟨.keyword, Lexeme.remarkValue comment⟩
  | name (c : Char) (cs : Text) (letter : Text.isLetter c = true)
      (noKeyword : Keyword.at? (c :: cs) = none) (tail : Lexeme.nameTail cs = cs) :
      Lexical ⟨.name, c :: cs⟩
  | other (c : Char) (opens : Lexeme.OpensWord c) (space : c ≠ ' ')
      (noOperator : Operator.at? [c] = none) (noLetter : Text.isLetter c = false) :
      Lexical ⟨.symbol, [c]⟩

theorem Token.Lexical.kind_ne_endOfText {t : Token} (lexical : t.Lexical) :
    t.kind ≠ .endOfText := by
  cases lexical <;> simp [Token.newline]

theorem Token.Lexical.kind_ne_newline {t : Token} (lexical : t.Lexical)
    (noFeed : '\n' ∉ t.value) : t.kind ≠ .newline := by
  intro kind
  cases lexical with
  | newline => exact noFeed (List.mem_singleton_self _)
  | _ => cases kind

theorem Token.Lexical.eq_newline {t : Token} (lexical : t.Lexical) (kind : t.kind = .newline) :
    t = Token.newline := by
  cases lexical with
  | newline => rfl
  | _ => cases kind

theorem Token.isOpen_openString {inside : Text} (plain : ∀ c ∈ inside, c ≠ '"' ∧ c ≠ '\n') :
    Token.isOpen ⟨.string, '"' :: inside⟩ = true := by
  have unclosed : inside.getLast? ≠ some '"' := by
    intro quote
    exact (plain '"' (List.mem_of_getLast? quote)).1 rfl
  simp [Token.isOpen, unclosed]

/-- A token that can stand on a line: a lexical one without line endings in its value. -/
structure Token.OnLine (t : Token) : Prop where
  lexical : t.Lexical
  noFeed : '\n' ∉ t.value
  noReturn : '\r' ∉ t.value

namespace Lexeme

/-! ## Reading gives lexical tokens -/

theorem string_lexical (cs : Text) : (string cs).token.Lexical := by
  have plainInside : ∀ c ∈ cs.takeWhile (fun c => c != '"' && c != '\n'), c ≠ '"' ∧ c ≠ '\n' := by
    intro c member
    simpa using List.mem_takeWhile_imp member
  unfold string
  split
  · exact .closedString _ plainInside
  · exact .openString _ plainInside

theorem number_lexical {c : Char} (digit : c.isDigit = true) (cs : Text) :
    (number (c :: cs)).token.Lexical := by
  have nonempty : (c :: cs).takeWhile Char.isDigit ≠ [] := by simp [digit]
  have digital : ∀ s : Text, ∀ c ∈ s.takeWhile Char.isDigit, c.isDigit = true := by
    intro s c member
    exact List.mem_takeWhile_imp member
  unfold number
  split
  · exact .decimal _ _ nonempty (digital _) (digital _)
  · exact .whole _ nonempty (digital _)

/-- A remark keeps of its comment what trimming leaves. -/
theorem remarkValue_trimBlanks (comment : Text) :
    remarkValue (Text.trimBlanks comment) = remarkValue comment := by
  unfold remarkValue
  rw [Text.trimBlanks_trimBlanks]

theorem remark_lexical (cs : Text) : (remark cs).token.Lexical := by
  unfold remark
  dsimp only
  rw [← remarkValue_trimBlanks]
  apply Token.Lexical.remark
  · exact Text.trim_trim _ _
  · intro member
    have inside := List.mem_takeWhile_imp (Text.trim_subset _ _ member)
    simp at inside

theorem keyword_lexical (k : Keyword) (cs : Text) : (keyword k cs).token.Lexical := by
  unfold keyword
  split
  · exact remark_lexical cs
  · next other => exact .keyword k other

/-- Where no keyword stands at the start of a text, none stands at the start of its name. -/
theorem at?_cons_nameTail {c : Char} {cs : Text} (noKeyword : Keyword.at? (c :: cs) = none) :
    Keyword.at? (c :: nameTail cs) = none := by
  apply Vocabulary.longestAt?_eq_none_of_append (cs.drop (nameTail cs).length)
  rw [List.cons_append, nameTail_append_drop]
  exact noKeyword

theorem nameTail_nameTail (cs : Text) : nameTail (nameTail cs) = nameTail cs := by
  fun_induction nameTail cs with
  | case1 => rfl
  | case2 c cs continued ih =>
    rw [Bool.and_eq_true, Option.isNone_iff_eq_none] at continued
    rw [nameTail, continued.1, at?_cons_nameTail continued.2, ih]
    rfl
  | case3 c cs _ => rfl

theorem name_lexical {c : Char} {cs : Text} (letter : Text.isLetter c = true)
    (noKeyword : Keyword.at? (c :: cs) = none) : (name c cs).token.Lexical :=
  .name c (nameTail cs) letter (at?_cons_nameTail noKeyword) (nameTail_nameTail cs)

/-- What is read at the start of a text that does not start with a space is a lexical token. -/
theorem read_lexical {c : Char} (space : c ≠ ' ') (cs : Text) : (read c cs).token.Lexical := by
  have recognised := recognised_read c cs
  generalize read c cs = l at recognised ⊢
  cases recognised with
  | newline _ => exact .newline
  | string _ => exact string_lexical cs
  | number digit => exact number_lexical digit cs
  | colon colon => subst colon; exact .colon
  | operator o _ found =>
    dsimp only [plain]
    rw [Operator.take_of_at? found]
    exact .operator o
  | keyword k _ _ _ => exact keyword_lexical k (c :: cs)
  | name _ _ noKeyword letter => exact name_lexical letter noKeyword
  | other opens noOperator _ noLetter =>
    exact .other c opens space (Operator.at?_cons_eq_none_iff.1 noOperator) noLetter

/-! ## Lexical tokens are read back -/

/-- A letter opens a word. -/
theorem opensWord_of_isLetter {c : Char} (letter : Text.isLetter c = true) :
    OpensWord c ∧ c ≠ ' ' := by
  have digit : c.isDigit = false := by
    cases digit : c.isDigit with
    | false => rfl
    | true =>
      have bounds : 48 ≤ c.toNat ∧ c.toNat ≤ 57 := by
        simpa [Char.isDigit, UInt32.le_iff_toNat_le] using digit
      have alpha : c.isAlpha = true := by
        rwa [Text.isLetter, if_pos (by omega)] at letter
      simp [Char.isAlpha, Char.isUpper, Char.isLower, UInt32.le_iff_toNat_le] at alpha
      omega
  refine ⟨⟨?_, ?_, digit, ?_⟩, ?_⟩
  all_goals
    rintro rfl
    cases letter

/-- A text spells a token if it reads as the token from its first to its last character. -/
def Spells (s : Text) (t : Token) : Prop :=
  ∃ c cs, s = c :: cs ∧ c ≠ ' ' ∧ read c cs = ⟨t, s, []⟩

/-- Inside a string there is nothing that ends the run of its characters. -/
theorem runs_of_plain {inside : Text} (plain : ∀ c ∈ inside, c ≠ '"' ∧ c ≠ '\n') :
    ∀ c ∈ inside, (c != '"' && c != '\n') = true := by
  intro c member
  simpa using plain c member

theorem spells_closedString {inside : Text} (plain : ∀ c ∈ inside, c ≠ '"' ∧ c ≠ '\n') :
    Spells ('"' :: inside ++ ['"']) ⟨.string, '"' :: inside ++ ['"']⟩ := by
  have runs := runs_of_plain plain
  refine ⟨'"', inside ++ ['"'], rfl, by decide, ?_⟩
  rw [(Recognised.string rfl).read_eq, string, List.takeWhile_append_of_pos runs,
    List.dropWhile_append_of_pos runs]
  simp [Lexeme.plain]

theorem spells_openString {inside : Text} (plain : ∀ c ∈ inside, c ≠ '"' ∧ c ≠ '\n') :
    Spells ('"' :: inside) ⟨.string, '"' :: inside⟩ := by
  have runs := runs_of_plain plain
  refine ⟨'"', inside, rfl, by decide, ?_⟩
  rw [(Recognised.string rfl).read_eq, string, List.takeWhile_eq_self_iff.2 runs,
    List.dropWhile_eq_nil_iff.2 runs]
  rfl

/-- Where digits start a text, its number is read. -/
theorem read_eq_number {s : Text} {c : Char} {cs : Text} (start : s = c :: cs)
    (digit : c.isDigit = true) : c ≠ ' ' ∧ read c cs = number s := by
  refine ⟨?_, ?_⟩
  · rintro rfl
    cases digit
  · rw [start]
    exact (Recognised.number digit).read_eq

theorem spells_whole {digits : Text} (nonempty : digits ≠ [])
    (digital : ∀ c ∈ digits, c.isDigit = true) : Spells digits ⟨.digit, digits⟩ := by
  obtain ⟨c, cs, start⟩ := List.exists_cons_of_ne_nil nonempty
  obtain ⟨space, reads⟩ := read_eq_number start (digital c (by simp [start]))
  refine ⟨c, cs, start, space, reads.trans ?_⟩
  rw [number, List.takeWhile_eq_self_iff.2 digital, List.dropWhile_eq_nil_iff.2 digital]
  rfl

theorem spells_decimal {digits places : Text} (nonempty : digits ≠ [])
    (digital : ∀ c ∈ digits, c.isDigit = true) (digitalPlaces : ∀ c ∈ places, c.isDigit = true) :
    Spells (digits ++ '.' :: places) ⟨.digit, digits ++ '.' :: places⟩ := by
  obtain ⟨c, cs, start⟩ := List.exists_cons_of_ne_nil nonempty
  have whole : digits ++ '.' :: places = c :: (cs ++ '.' :: places) := by rw [start]; rfl
  obtain ⟨space, reads⟩ := read_eq_number whole (digital c (by simp [start]))
  refine ⟨c, cs ++ '.' :: places, whole, space, reads.trans ?_⟩
  have point : ('.' : Char).isDigit = false := rfl
  rw [number, List.takeWhile_append_of_pos digital, List.dropWhile_append_of_pos digital,
    List.takeWhile_cons, List.dropWhile_cons, point]
  simp [plain, List.takeWhile_eq_self_iff.2 digitalPlaces,
    List.dropWhile_eq_nil_iff.2 digitalPlaces]

theorem spells_operator (o : Operator) : Spells o.word ⟨.symbol, o.word⟩ := by
  obtain ⟨c, cs, start⟩ := List.exists_cons_of_ne_nil o.word_ne_nil
  have sign : o.word.head?.all
      (fun d => d != '\n' && d != '"' && !d.isDigit && d != ':' && d != ' ') = true := by
    cases o <;> rfl
  have found : Operator.at? o.word = some o := by cases o <;> rfl
  rw [start] at sign found
  simp only [List.head?_cons, Option.all_some, Bool.and_eq_true, bne_iff_ne,
    Bool.not_eq_true'] at sign
  obtain ⟨⟨⟨⟨line, quote⟩, digit⟩, colon⟩, space⟩ := sign
  refine ⟨c, cs, start, space, ?_⟩
  rw [(Recognised.operator o ⟨line, quote, digit, colon⟩ found).read_eq, ← start]
  simp [plain]

/-- A keyword opens a word in any case, and no operator. -/
theorem opensWord_of_toLower_eq {k : Keyword} {c : Char} {cs : Text}
    (spelled : Text.toLower (c :: cs) = k.word) :
    OpensWord c ∧ c ≠ ' ' ∧ ∀ t, Operator.at? (c :: t) = none := by
  have lower := k.head?_word_isLower
  rw [← spelled] at lower
  have letter := isLetter_of_isLower_toLower lower
  obtain ⟨opens, space⟩ := opensWord_of_isLetter letter
  exact ⟨opens, space, Operator.at?_eq_none_of_isLetter letter⟩

/-- A keyword is read from its word in any case. -/
theorem spells_keyword {k : Keyword} (other : k ≠ .REM) {s : Text}
    (spelled : Text.toLower s = k.word) : Spells s ⟨.keyword, k.word⟩ := by
  have length : s.length = k.word.length := by rw [← spelled, Text.toLower, List.length_map]
  have found : Keyword.at? s = some k := by
    rw [← Keyword.at?_toLower, spelled, Keyword.at?_word]
  cases s with
  | nil => exact absurd spelled.symm k.word_ne_nil
  | cons c cs =>
    obtain ⟨opens, space, noOperator⟩ := opensWord_of_toLower_eq spelled
    refine ⟨c, cs, rfl, space, ?_⟩
    rw [(Recognised.keyword k opens (noOperator cs) found).read_eq, keyword, if_neg other,
      ← length, List.take_length, List.drop_length]

/-- A remark is read from its three letters in any case and all that follows on the line. -/
theorem spells_remark {letters tail : Text} (spelled : Text.toLower letters = Keyword.REM.word)
    (line : '\n' ∉ tail) : Spells (letters ++ tail) ⟨.keyword, remarkValue tail⟩ := by
  have length : letters.length = Keyword.REM.word.length := by
    rw [← spelled, Text.toLower, List.length_map]
  have found := Keyword.at?_append_of_rem spelled tail
  have runs : ∀ c ∈ tail, (c != '\n') = true := by
    intro c member
    rw [bne_iff_ne]
    rintro rfl
    exact line member
  have reads : remark (letters ++ tail) = ⟨⟨.keyword, remarkValue tail⟩, letters ++ tail, []⟩ := by
    unfold remark
    rw [← length, List.take_left, List.drop_left]
    simp only [List.takeWhile_eq_self_iff.2 runs, List.dropWhile_eq_nil_iff.2 runs]
  cases letters with
  | nil => exact absurd spelled.symm (Keyword.word_ne_nil .REM)
  | cons c cs =>
    obtain ⟨opens, space, noOperator⟩ := opensWord_of_toLower_eq spelled
    refine ⟨c, cs ++ tail, rfl, space, ?_⟩
    rw [(Recognised.keyword .REM opens (noOperator (cs ++ tail)) found).read_eq]
    exact reads

theorem spells_name {c : Char} {cs : Text} (letter : Text.isLetter c = true)
    (noKeyword : Keyword.at? (c :: cs) = none) (tail : nameTail cs = cs) :
    Spells (c :: cs) ⟨.name, c :: cs⟩ := by
  obtain ⟨opens, space⟩ := opensWord_of_isLetter letter
  have noOperator := Operator.at?_eq_none_of_isLetter letter cs
  refine ⟨c, cs, rfl, space, ?_⟩
  rw [(Recognised.name opens noOperator noKeyword letter).read_eq, name, tail,
    List.drop_length]
  rfl

theorem spells_other {c : Char} (opens : OpensWord c) (space : c ≠ ' ')
    (noOperator : Operator.at? [c] = none) (noLetter : Text.isLetter c = false) :
    Spells [c] ⟨.symbol, [c]⟩ := by
  refine ⟨c, [], rfl, space, ?_⟩
  have noKeyword := Keyword.at?_eq_none_of_not_letter noLetter []
  exact (Recognised.other opens noOperator noKeyword noLetter).read_eq

/-- The value of a remark is its word and a text that has the same value. -/
theorem exists_remarkValue_eq {comment : Text} (trimmed : Text.trimBlanks comment = comment)
    (line : '\n' ∉ comment) : ∃ tail, remarkValue comment = Keyword.REM.word ++ tail ∧
      remarkValue tail = remarkValue comment ∧ '\n' ∉ tail := by
  cases comment with
  | nil => exact ⟨[], rfl, rfl, line⟩
  | cons c cs =>
    refine ⟨' ' :: c :: cs, ?_, ?_, ?_⟩
    · rw [remarkValue, trimmed]
    · rw [remarkValue, Text.trimBlanks_space_cons, trimmed, remarkValue, trimmed]
    · rw [List.mem_cons, not_or]
      exact ⟨by decide, line⟩

end Lexeme

namespace Token

theorem render_of_kind_ne {t : Token} (kind : t.kind ≠ .keyword) (options : RenderOptions) :
    t.render options = t.value :=
  if_pos (Or.inl kind)

theorem render_default (t : Token) : t.render RenderOptions.default = t.value :=
  if_pos (Or.inr Bool.false_ne_true)

/-- A keyword is written with its word in one case or the other. -/
theorem toLower_render_keyword {k : Keyword} (other : k ≠ .REM) (options : RenderOptions) :
    Text.toLower (Token.render options ⟨.keyword, k.word⟩) = k.word := by
  have lower := k.toLower_word
  unfold render
  split
  · exact lower
  · rw [if_neg (by simp [Lexeme.isRemark_eq_false other])]
    conv_rhs => rw [← lower]
    simp [Text.toLower, Text.toUpper, Function.comp_def]

/-- A remark is written with its three letters in one case or the other. -/
theorem exists_render_remark (tail : Text) (options : RenderOptions) :
    ∃ letters, Text.toLower letters = Keyword.REM.word ∧
      Token.render options ⟨.keyword, Keyword.REM.word ++ tail⟩ = letters ++ tail := by
  unfold render
  split
  · exact ⟨Keyword.REM.word, rfl, rfl⟩
  · exact ⟨Text.toUpper Keyword.REM.word, rfl, rfl⟩

/-- A lexical token is spelled by what is written for it. -/
theorem Lexical.spells_render {t : Token} (lexical : t.Lexical) (options : RenderOptions) :
    Lexeme.Spells (t.render options) t := by
  cases lexical with
  | newline => exact ⟨'\n', [], rfl, by decide, rfl⟩
  | colon => exact ⟨':', [], rfl, by decide, rfl⟩
  | closedString inside plain => exact Lexeme.spells_closedString plain
  | openString inside plain => exact Lexeme.spells_openString plain
  | whole digits nonempty digital => exact Lexeme.spells_whole nonempty digital
  | decimal digits places nonempty digital digitalPlaces =>
    exact Lexeme.spells_decimal nonempty digital digitalPlaces
  | operator o => exact Lexeme.spells_operator o
  | keyword k other => exact Lexeme.spells_keyword other (toLower_render_keyword other options)
  | remark comment trimmed line =>
    obtain ⟨tail, value, same, line⟩ := Lexeme.exists_remarkValue_eq trimmed line
    obtain ⟨letters, spelled, written⟩ := exists_render_remark tail options
    rw [← value] at written
    rw [written, ← same]
    exact Lexeme.spells_remark spelled line
  | name c cs letter noKeyword tail => exact Lexeme.spells_name letter noKeyword tail
  | other c opens space noOperator noLetter =>
    exact Lexeme.spells_other opens space noOperator noLetter

/-- Where a token stops: at the end of the text, in front of a break, and an opening parenthesis
    anywhere. -/
inductive Stops (t : Token) : Text → Prop
  | atEnd : Stops t []
  | atBreak {d : Char} {rest : Text} (member : d ∈ Lexeme.breaks)
      (stops : d = '\n' ∨ t.isOpen = false) : Stops t (d :: rest)
  | parenthesis {rest : Text} (opening : t = ⟨.symbol, ['(']⟩) : Stops t rest

/-- A lexical token is read back from what is written for it where it stops. -/
theorem Lexical.read_render_append {t : Token} (lexical : t.Lexical) (options : RenderOptions)
    {rest : Text} (stops : t.Stops rest) :
    ∃ c cs, t.render options ++ rest = c :: cs ∧ c ≠ ' ' ∧
      Lexeme.read c cs = ⟨t, t.render options, rest⟩ := by
  obtain ⟨c, cs, start, space, reads⟩ := lexical.spells_render options
  cases stops with
  | atEnd => exact ⟨c, cs, by rw [List.append_nil, start], space, reads⟩
  | @atBreak d rest member stops =>
    refine ⟨c, cs ++ d :: rest, by rw [start]; rfl, space, ?_⟩
    have same : (Lexeme.read c cs).token = t := by rw [reads]
    rw [← same] at stops
    rw [Lexeme.read_append_cons member stops, reads]
    rfl
  | parenthesis opening =>
    subst opening
    exact ⟨'(', rest, rfl, by decide, rfl⟩

end Token

end Listing

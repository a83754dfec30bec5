import Listing.Proofs.Token.Scan
import Listing.Token.Dump

/-!
# Reading tagged tokens

The dump of tagged tokens escapes nothing, so that a string, a remark or a symbol can hold what looks
like the end of its tag. Where a value ends can be told all the same from what follows its kind
(`TokenKind.valueIn`). A symbol is one character or `<>`. A string ends with its second quote. An
open token is followed by a newline or the end, so that it goes up to the last tag on its line. All
other values hold no `>`.

Main statements: `stream_tokenize`, how tokens follow each other in a source text; `valueIn_append`,
a value is found again in the dump; and `write_tagged_eq_iff`, the dump determines the tokens.
-/

namespace Listing

/-! ## How tokens follow each other -/

/-- Tokens of which the last is the end and the others are lexical, open ones standing in front of a
    newline or the end. -/
inductive Token.Stream : List Token → Prop
  | last : Stream [Token.endOfText]
  | cons {t next : Token} {later : List Token} (lexical : t.Lexical)
      (stops : t.isOpen = true → next = Token.newline ∨ next = Token.endOfText)
      (behind : Stream (next :: later)) : Stream (t :: next :: later)

namespace Token.Stream

/-- A token that is not open may stand in front of any stream. -/
theorem cons_of_closed {t : Token} (lexical : t.Lexical) (closed : t.isOpen = false)
    {later : List Token} (behind : Stream later) : Stream (t :: later) := by
  have stops : ∀ next, t.isOpen = true → next = newline ∨ next = endOfText := by simp [closed]
  cases behind with
  | last => exact .cons lexical (stops _) .last
  | cons first here behind => exact .cons lexical (stops _) (.cons first here behind)

/-- The tokens of a line stand in front of a newline or the end. -/
theorem append {line : List Token} (lexical : ∀ t ∈ line, t.Lexical)
    (closed : line.Pairwise (fun t _ => t.isOpen = false)) {next : Token} {later : List Token}
    (ends : next = newline ∨ next = endOfText) (behind : Stream (next :: later)) :
    Stream (line ++ next :: later) := by
  induction line with
  | nil => exact behind
  | cons t line ih =>
    rw [List.forall_mem_cons] at lexical
    rw [List.pairwise_cons] at closed
    have rest := ih lexical.2 closed.2
    cases line with
    | nil => exact .cons lexical.1 (fun _ => ends) rest
    | cons second line =>
      exact cons_of_closed lexical.1 (closed.1 second (by simp)) rest

end Token.Stream

theorem Text.stream_tokens (t : Text) : Token.Stream (tokens t ++ [Token.endOfText]) := by
  induction t using lines_induction with
  | line t alone =>
    exact .append (fun _ => lexical_of_mem_tokens) (pairwise_tokens alone) (Or.inr rfl) .last
  | append first rest alone ih =>
    rw [tokens_append_newline, List.append_assoc]
    exact .append (fun _ => lexical_of_mem_tokens) (pairwise_tokens alone) (Or.inl rfl)
      (.cons_of_closed .newline rfl ih)

theorem stream_tokenize (source : Text) : Token.Stream (tokenize source) := by
  rw [tokenize_eq]
  exact Text.stream_tokens _

/-! ## Values in the dump -/

/-- The value of an open token in the dump from there on: what stands in front of the last tag on the
    line. -/
def Text.openValueIn (dump : Text) : Text :=
  (trimEnd (· != '<') (dump.takeWhile (· != '\n'))).dropLast.dropLast

/-- The value of a token of the given kind in the dump behind that kind. -/
def TokenKind.valueIn (kind : TokenKind) (dump : Text) : Text :=
  match kind with
  | .symbol => if "<>>".toList.isPrefixOf dump then "<>".toList else dump.take 1
  | .string =>
    if '"' ∈ dump.tail.takeWhile (· != '\n') then '"' :: dump.tail.takeWhile (· != '"') ++ ['"']
    else dump.openValueIn
  | .keyword =>
    if "rem".toList.isPrefixOf dump then dump.openValueIn else dump.takeWhile (· != '>')
  | _ => dump.takeWhile (· != '>')

theorem TokenKind.isLower_of_mem_label (kind : TokenKind) :
    ∀ c ∈ kind.label, c.isLower = true := by
  rw [← List.all_eq_true]
  cases kind <;> rfl

theorem TokenKind.not_mem_label {c : Char} (other : c.isLower = false) (kind : TokenKind) :
    c ∉ kind.label := by
  intro member
  have lower := kind.isLower_of_mem_label c member
  rw [other] at lower
  cases lower

namespace TokenFormat

/-- A newline and the end show their kind alone, at the end of a line. -/
theorem write_tagged_cons_mark {t : Token} (mark : t.kind = .newline ∨ t.kind = .endOfText)
    (later : List Token) : tagged.write (t :: later) =
      '<' :: t.kind.label ++ '>' :: '\n' :: tagged.write later := by
  rcases mark with kind | kind <;> simp [write, Token.tagged, kind]

theorem write_tagged_cons_value {t : Token} (newline : t.kind ≠ .newline)
    (inner : t.kind ≠ .endOfText) (later : List Token) : tagged.write (t :: later) =
      '<' :: t.kind.label ++ ':' :: (t.value ++ '>' :: tagged.write later) := by
  simp [write, Token.tagged, newline, inner]

/-- The dump opens with a tag, which opens with its kind. -/
theorem exists_write_tagged_cons (t : Token) (later : List Token) :
    ∃ c rest, c.isLower = false ∧
      tagged.write (t :: later) = '<' :: t.kind.label ++ c :: rest := by
  by_cases mark : t.kind = .newline ∨ t.kind = .endOfText
  · exact ⟨'>', _, rfl, write_tagged_cons_mark mark later⟩
  · rw [not_or] at mark
    exact ⟨':', _, rfl, write_tagged_cons_value mark.1 mark.2 later⟩

/-- The dump opens with the kind of the first token. -/
theorem kind_eq_of_write_tagged_eq {t u : Token} {later others : List Token}
    (same : tagged.write (t :: later) = tagged.write (u :: others)) : t.kind = u.kind := by
  have distinct : ∀ k l : TokenKind, k.label = l.label → k = l := by
    intro k l
    cases k <;> cases l <;> decide
  obtain ⟨c, rest, stop, first⟩ := exists_write_tagged_cons t later
  obtain ⟨d, other, stop', second⟩ := exists_write_tagged_cons u others
  rw [first, second, List.cons_append, List.cons_append, List.cons.injEq] at same
  have taken := congrArg (List.takeWhile Char.isLower) same.2
  rw [List.takeWhile_append_of_pos t.kind.isLower_of_mem_label,
    List.takeWhile_append_of_pos u.kind.isLower_of_mem_label] at taken
  exact distinct _ _ (by simpa [stop, stop'] using taken)

end TokenFormat

namespace Text

/-- A text without the character `d` is a run of other characters. -/
theorem forall_bne_of_not_mem {d : Char} {t : Text} (outside : d ∉ t) :
    ∀ c ∈ t, (c != d) = true := by
  intro c member
  rw [bne_iff_ne]
  rintro rfl
  exact outside member

/-- A text without the character `d` is found again in front of the first one. -/
theorem takeWhile_bne_append_cons {d : Char} {t : Text} (outside : d ∉ t) (rest : Text) :
    (t ++ d :: rest).takeWhile (· != d) = t := by
  rw [List.takeWhile_append_of_pos (forall_bne_of_not_mem outside)]
  simp

/-- The line of the dump on which a value stands in front of a newline or the end. -/
theorem takeWhile_value_append {value : Text} (line : '\n' ∉ value) {next : Token}
    (ends : next = Token.newline ∨ next = Token.endOfText) (later : List Token) :
    (value ++ '>' :: TokenFormat.tagged.write (next :: later)).takeWhile (· != '\n') =
      value ++ '>' :: '<' :: next.kind.label ++ ['>'] := by
  have mark : next.kind = .newline ∨ next.kind = .endOfText := by
    rcases ends with rfl | rfl <;> simp [Token.newline, Token.endOfText]
  have whole : '\n' ∉ value ++ '>' :: '<' :: next.kind.label ++ ['>'] := by
    have label : '\n' ∉ next.kind.label := TokenKind.not_mem_label rfl _
    simp [line, label]
  rw [TokenFormat.write_tagged_cons_mark mark]
  simpa using takeWhile_bne_append_cons whole (TokenFormat.tagged.write later)

/-- The value of an open token is found again in front of the newline or the end. -/
theorem openValueIn_append {value : Text} (line : '\n' ∉ value) {next : Token}
    (ends : next = Token.newline ∨ next = Token.endOfText) (later : List Token) :
    openValueIn (value ++ '>' :: TokenFormat.tagged.write (next :: later)) = value := by
  have tag : '<' ∉ next.kind.label ++ ['>'] := by
    have label : '<' ∉ next.kind.label := TokenKind.not_mem_label rfl _
    simp [label]
  have cut : trimEnd (· != '<') (next.kind.label ++ ['>']) = [] :=
    trimEnd_eq_nil_iff.2 (forall_bne_of_not_mem tag)
  have split : value ++ '>' :: '<' :: next.kind.label ++ ['>'] =
      value ++ ['>'] ++ ['<'] ++ (next.kind.label ++ ['>']) := by
    simp
  rw [openValueIn, takeWhile_value_append line ends, split, trimEnd_append, if_pos cut,
    trimEnd_concat]
  simp

end Text

namespace TokenKind

theorem valueIn_symbol_append {value : Text} (sign : value = "<>".toList ∨ ∃ c, value = [c])
    (dump : Text) : symbol.valueIn (value ++ '>' :: '<' :: dump) = value := by
  rcases sign with rfl | ⟨c, rfl⟩
  · rfl
  · simp [valueIn, List.isPrefixOf]

theorem valueIn_closedString_append {inside : Text} (plain : ∀ c ∈ inside, c ≠ '"' ∧ c ≠ '\n')
    (dump : Text) :
    string.valueIn ('"' :: inside ++ ['"'] ++ '>' :: dump) = '"' :: inside ++ ['"'] := by
  have noQuote : '"' ∉ inside := fun member => (plain _ member).1 rfl
  have noFeed : '\n' ∉ inside := fun member => (plain _ member).2 rfl
  have found := Text.takeWhile_bne_append_cons noQuote ('>' :: dump)
  have second : '"' ∈ (inside ++ '"' :: '>' :: dump).takeWhile (· != '\n') := by
    rw [List.takeWhile_append_of_pos (Text.forall_bne_of_not_mem noFeed)]
    simp
  simp [valueIn, found, second]

theorem valueIn_openString_append {inside : Text} (plain : ∀ c ∈ inside, c ≠ '"' ∧ c ≠ '\n')
    {next : Token} (ends : next = Token.newline ∨ next = Token.endOfText) (later : List Token) :
    string.valueIn ('"' :: inside ++ '>' :: TokenFormat.tagged.write (next :: later)) =
      '"' :: inside := by
  have noQuote : '"' ∉ inside := fun member => (plain _ member).1 rfl
  have noFeed : '\n' ∉ inside := fun member => (plain _ member).2 rfl
  have noSecond : '"' ∉ (inside ++ '>' :: TokenFormat.tagged.write (next :: later)).takeWhile
      (· != '\n') := by
    rw [Text.takeWhile_value_append noFeed ends]
    have label : '"' ∉ next.kind.label := not_mem_label rfl _
    simp [noQuote, label]
  have line : '\n' ∉ '"' :: inside := by simp [noFeed]
  rw [valueIn, List.cons_append, List.tail_cons, if_neg noSecond]
  exact Text.openValueIn_append line ends later

/-- A remark is found again in front of the newline or the end. -/
theorem valueIn_remark_append {value : Text} (word : "rem".toList <+: value) (line : '\n' ∉ value)
    {next : Token} (ends : next = Token.newline ∨ next = Token.endOfText) (later : List Token) :
    keyword.valueIn (value ++ '>' :: TokenFormat.tagged.write (next :: later)) = value := by
  have start := List.isPrefixOf_iff_prefix.2
    (word.trans (List.prefix_append value ('>' :: TokenFormat.tagged.write (next :: later))))
  rw [valueIn, if_pos start, Text.openValueIn_append line ends]

theorem valueIn_keyword_append {k : Keyword} (other : k ≠ .REM) (dump : Text) :
    keyword.valueIn (k.word ++ '>' :: dump) = k.word := by
  have table : ∀ k ∈ Keyword.all, '>' ∉ k.word := by decide +kernel
  have start : "rem".toList.isPrefixOf (k.word ++ '>' :: dump) = false := by
    cases k with
    | REM => exact absurd rfl other
    | _ => rfl
  rw [valueIn, start, if_neg Bool.false_ne_true]
  exact Text.takeWhile_bne_append_cons (table k k.mem_all) dump

end TokenKind

namespace Token

theorem not_mem_digits {digits : Text} (digital : ∀ c ∈ digits, c.isDigit = true) :
    '>' ∉ digits := by
  intro member
  have digit := digital _ member
  cases digit

theorem not_mem_name {c : Char} {cs : Text} (letter : Text.isLetter c = true)
    (tail : Lexeme.nameTail cs = cs) : '>' ∉ c :: cs := by
  rw [List.mem_cons, not_or]
  constructor
  · rintro rfl
    cases letter
  · intro member
    rw [← tail] at member
    have continued := Lexeme.continuesName_of_mem_nameTail member
    cases continued

/-- The value of a token is found again in the dump in which it is followed as in a stream. -/
theorem Lexical.valueIn_append {t next : Token} (lexical : t.Lexical) (newline : t.kind ≠ .newline)
    (stops : t.isOpen = true → next = Token.newline ∨ next = Token.endOfText)
    (later : List Token) :
    t.kind.valueIn (t.value ++ '>' :: TokenFormat.tagged.write (next :: later)) = t.value := by
  obtain ⟨_, _, -, dump⟩ := TokenFormat.exists_write_tagged_cons next later
  cases lexical with
  | newline => exact absurd rfl newline
  | colon => exact Text.takeWhile_bne_append_cons (by decide) _
  | closedString inside plain => exact TokenKind.valueIn_closedString_append plain _
  | openString inside plain =>
    exact TokenKind.valueIn_openString_append plain (stops (isOpen_openString plain)) later
  | whole digits nonempty digital =>
    exact Text.takeWhile_bne_append_cons (not_mem_digits digital) _
  | decimal digits places nonempty digital digitalPlaces =>
    apply Text.takeWhile_bne_append_cons
    simp [not_mem_digits digital, not_mem_digits digitalPlaces]
  | operator o =>
    rw [dump]
    apply TokenKind.valueIn_symbol_append
    cases o <;> simp [Operator.word]
  | keyword k other => exact TokenKind.valueIn_keyword_append other _
  | remark comment trimmed line =>
    have ends := stops (by simp [isOpen, Lexeme.isRemark_remarkValue])
    obtain ⟨tail, value, -, noFeed⟩ := Lexeme.exists_remarkValue_eq trimmed line
    rw [value]
    apply TokenKind.valueIn_remark_append (List.prefix_append _ tail) ?_ ends
    rw [List.mem_append, not_or]
    exact ⟨by decide, noFeed⟩
  | name c cs letter noKeyword tail =>
    exact Text.takeWhile_bne_append_cons (not_mem_name letter tail) _
  | other c opens space noOperator noLetter =>
    rw [dump]
    exact TokenKind.valueIn_symbol_append (Or.inr ⟨c, rfl⟩) _

/-- Two dumps that are the same start with the same token and go on alike. -/
theorem Lexical.eq_of_write_tagged_eq {t u next other : Token} {later others : List Token}
    (lexical : t.Lexical) (stops : t.isOpen = true → next = Token.newline ∨ next = Token.endOfText)
    (lexical' : u.Lexical)
    (stops' : u.isOpen = true → other = Token.newline ∨ other = Token.endOfText)
    (same : TokenFormat.tagged.write (t :: next :: later) =
      TokenFormat.tagged.write (u :: other :: others)) :
    t = u ∧ TokenFormat.tagged.write (next :: later) = TokenFormat.tagged.write (other :: others) := by
  have kind := TokenFormat.kind_eq_of_write_tagged_eq same
  by_cases newline : t.kind = .newline
  · have newline' : u.kind = .newline := kind ▸ newline
    rw [TokenFormat.write_tagged_cons_mark (.inl newline) (next :: later),
      TokenFormat.write_tagged_cons_mark (.inl newline') (other :: others), kind] at same
    refine ⟨?_, by simpa using same⟩
    rw [lexical.eq_newline newline, lexical'.eq_newline newline']
  · have newline' : u.kind ≠ .newline := kind ▸ newline
    rw [TokenFormat.write_tagged_cons_value newline lexical.kind_ne_endOfText (next :: later),
      TokenFormat.write_tagged_cons_value newline' lexical'.kind_ne_endOfText (other :: others),
      kind] at same
    have behind : t.value ++ '>' :: TokenFormat.tagged.write (next :: later) =
        u.value ++ '>' :: TokenFormat.tagged.write (other :: others) := by
      simpa using same
    have value : t.value = u.value := by
      rw [← lexical.valueIn_append newline stops later, behind, kind]
      exact lexical'.valueIn_append newline' stops' others
    rw [value] at behind
    refine ⟨?_, by simpa using behind⟩
    rw [Token.mk.injEq]
    exact ⟨kind, value⟩

/-- Streams with the same dump are the same. -/
theorem Stream.eq_of_write_tagged_eq {tokens others : List Token} (stream : Stream tokens)
    (stream' : Stream others)
    (same : TokenFormat.tagged.write tokens = TokenFormat.tagged.write others) :
    tokens = others := by
  induction stream generalizing others with
  | last =>
    cases stream' with
    | last => rfl
    | cons lexical _ _ =>
      have kind := TokenFormat.kind_eq_of_write_tagged_eq same
      exact absurd kind.symm lexical.kind_ne_endOfText
  | cons lexical stops _ ih =>
    cases stream' with
    | last =>
      have kind := TokenFormat.kind_eq_of_write_tagged_eq same
      exact absurd kind lexical.kind_ne_endOfText
    | cons lexical' stops' behind =>
      obtain ⟨first, rest⟩ := lexical.eq_of_write_tagged_eq stops lexical' stops' same
      rw [first, ih behind rest]

end Token

/-- The dump of tagged tokens determines the tokens of a source text. -/
theorem write_tagged_eq_iff (s t : Text) :
    TokenFormat.tagged.write (tokenize s) = TokenFormat.tagged.write (tokenize t) ↔
      tokenize s = tokenize t := by
  constructor
  · exact (stream_tokenize s).eq_of_write_tagged_eq (stream_tokenize t)
  · intro same
    rw [same]

end Listing

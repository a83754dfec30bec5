import Listing.Proofs.Token.Lexical
import Listing.Proofs.Token.Spelling
import Listing.Token.Cursor

/-!
# Scanning a text

The tokens of a text as a function of the text alone: the first lexeme behind the spaces, then the
tokens of what follows it. A cursor reads these tokens and the end token behind them.

No token reaches beyond its line, and nothing behind a line feed is looked at, so the tokens of a
text are those of its lines with a newline between two of them.

Main statements: `tokenize_eq`, a cursor scans; `tokens_append_newline` and `tokens_splitOnP`,
scanning goes line by line; and `tokenize_value`, every token is read back from its value alone.
-/

namespace Listing

namespace Lexeme

/-- The first lexeme of a text behind the spaces it starts with. -/
def first? (t : Text) : Option Lexeme :=
  match t.dropWhile (· == ' ') with
  | [] => none
  | c :: cs => some (read c cs)

theorem first?_space_cons (t : Text) : first? (' ' :: t) = first? t := rfl

theorem first?_cons {c : Char} (space : c ≠ ' ') (cs : Text) :
    first? (c :: cs) = some (read c cs) := by
  unfold first?
  rw [List.dropWhile_cons, if_neg (by simpa using space)]

/-- The first lexeme is read where the spaces end. -/
theorem first?_eq_some {t : Text} {l : Lexeme} (found : first? t = some l) :
    ∃ n c cs, t = Text.spaces n ++ c :: cs ∧ c ≠ ' ' ∧ l = read c cs := by
  induction t with
  | nil => cases found
  | cons c cs ih =>
    by_cases space : c = ' '
    · subst space
      rw [first?_space_cons] at found
      obtain ⟨n, d, ds, rfl, stop, reads⟩ := ih found
      exact ⟨n + 1, d, ds, rfl, stop, reads⟩
    · rw [first?_cons space, Option.some.injEq] at found
      exact ⟨0, c, cs, rfl, space, found.symm⟩

/-- A text without a lexeme consists of spaces. -/
theorem first?_eq_none {t : Text} (found : first? t = none) : ∃ n, t = Text.spaces n := by
  induction t with
  | nil => exact ⟨0, rfl⟩
  | cons c cs ih =>
    by_cases space : c = ' '
    · subst space
      rw [first?_space_cons] at found
      obtain ⟨n, rfl⟩ := ih found
      exact ⟨n + 1, rfl⟩
    · rw [first?_cons space] at found
      cases found

theorem first?_spaces_append (n : Nat) (t : Text) : first? (Text.spaces n ++ t) = first? t := by
  induction n with
  | zero => rfl
  | succ n ih => exact ih

theorem first?_rest_length_lt {t : Text} {l : Lexeme} (found : first? t = some l) :
    l.rest.length < t.length := by
  obtain ⟨n, c, cs, rfl, -, rfl⟩ := first?_eq_some found
  have shorter := rest_length_lt c cs
  rw [List.length_append]
  omega

/-- An open lexeme takes the rest of its line. -/
theorem read_rest_of_isOpen {c : Char} {cs : Text} (isOpen : (read c cs).token.isOpen = true)
    (line : '\n' ∉ cs) : (read c cs).rest = [] := by
  have recognised := recognised_read c cs
  generalize read c cs = l at recognised isOpen ⊢
  cases recognised with
  | string quote =>
    cases stop : cs.dropWhile (fun c => c != '"' && c != '\n') with
    | nil => rw [string, stop]; rfl
    | cons x rest =>
      have member : x ∈ cs := (List.dropWhile_sublist _).subset (by rw [stop]; simp)
      have ends := List.head_dropWhile_not (fun c => c != '"' && c != '\n') (l := cs)
        (by simp [stop])
      have quote : x = '"' := by
        by_contra other
        have feed : x ≠ '\n' := by rintro rfl; exact line member
        simp [stop, other, feed] at ends
      subst quote
      rw [(string_isOpen_eq_false_iff cs).2 ⟨rest, stop⟩] at isOpen
      cases isOpen
  | keyword k opens _ _ =>
    unfold keyword at isOpen ⊢
    split
    · dsimp only [remark]
      apply List.dropWhile_eq_nil_iff.2
      intro x member
      rw [bne_iff_ne]
      rintro rfl
      rcases List.mem_cons.1 (List.mem_of_mem_drop member) with equal | inside
      · exact opens.1 equal.symm
      · exact line inside
    · next other =>
      rw [if_neg other, Token.isOpen, isRemark_eq_false other] at isOpen
      cases isOpen
  | number _ => unfold number at isOpen; split at isOpen <;> cases isOpen
  | newline _ | colon _ | operator _ _ _ | name _ _ _ _ | other _ _ _ _ => cases isOpen

end Lexeme

namespace Text

/-- The tokens of a text, its end left out. -/
def tokens (t : Text) : List Token :=
  match _h : Lexeme.first? t with
  | none => []
  | some l => l.token :: tokens l.rest
termination_by t.length
decreasing_by exact Lexeme.first?_rest_length_lt _h

theorem tokens_of_none {t : Text} (found : Lexeme.first? t = none) : tokens t = [] := by
  rw [tokens]
  split
  · rfl
  · next l other =>
    rw [found] at other
    cases other

theorem tokens_of_some {t : Text} {l : Lexeme} (found : Lexeme.first? t = some l) :
    tokens t = l.token :: tokens l.rest := by
  rw [tokens]
  split
  · next other =>
    rw [found] at other
    cases other
  · next m other =>
    rw [found, Option.some.injEq] at other
    rw [other]

@[simp] theorem tokens_nil : tokens [] = [] := tokens_of_none rfl

/-- Texts with the same first lexeme have the same tokens. -/
theorem tokens_congr {s t : Text} (same : Lexeme.first? s = Lexeme.first? t) :
    tokens s = tokens t := by
  cases found : Lexeme.first? t with
  | none => rw [tokens_of_none found, tokens_of_none (same.trans found)]
  | some l => rw [tokens_of_some found, tokens_of_some (same.trans found)]

theorem tokens_spaces_append (n : Nat) (t : Text) : tokens (spaces n ++ t) = tokens t :=
  tokens_congr (Lexeme.first?_spaces_append n t)

theorem tokens_spaces (n : Nat) : tokens (spaces n) = [] := by
  have alone := tokens_spaces_append n []
  rwa [List.append_nil, tokens_nil] at alone

theorem tokens_of_spells {s : Text} {t : Token} (spelled : Lexeme.Spells s t) :
    tokens s = [t] := by
  obtain ⟨c, cs, rfl, space, reads⟩ := spelled
  rw [tokens_of_some (Lexeme.first?_cons space cs), reads, tokens_nil]

/-- What is written for a lexical token gives the token, and the tokens of what follows. -/
theorem tokens_render_append {t : Token} (lexical : t.Lexical) (options : RenderOptions)
    {rest : Text} (stops : t.Stops rest) :
    tokens (t.render options ++ rest) = t :: tokens rest := by
  obtain ⟨c, cs, start, space, reads⟩ := lexical.read_render_append options stops
  rw [start]
  have found := Lexeme.first?_cons space cs
  rw [tokens_of_some found, reads]

/-- Induction along the tokens of a text: a text of spaces, and one with a lexeme behind spaces. -/
theorem tokens_induction {motive : Text → Prop} (spaces : ∀ n, motive (spaces n))
    (lexeme : ∀ n c cs, c ≠ ' ' → motive (Lexeme.read c cs).rest →
      motive (Text.spaces n ++ c :: cs)) (t : Text) : motive t := by
  induction length : t.length using Nat.strong_induction_on generalizing t with
  | _ size ih =>
    cases found : Lexeme.first? t with
    | none =>
      obtain ⟨n, rfl⟩ := Lexeme.first?_eq_none found
      exact spaces n
    | some l =>
      have shorter := Lexeme.first?_rest_length_lt found
      obtain ⟨n, c, cs, rfl, space, rfl⟩ := Lexeme.first?_eq_some found
      exact lexeme n c cs space (ih _ (length ▸ shorter) _ rfl)

theorem tokens_spaces_append_cons (n : Nat) {c : Char} (space : c ≠ ' ') (cs : Text) :
    tokens (spaces n ++ c :: cs) =
      (Lexeme.read c cs).token :: tokens (Lexeme.read c cs).rest := by
  rw [tokens_spaces_append, tokens_of_some (Lexeme.first?_cons space cs)]

theorem lexical_of_mem_tokens {s : Text} {t : Token} (member : t ∈ tokens s) : t.Lexical := by
  induction s using tokens_induction with
  | spaces n =>
    rw [tokens_spaces] at member
    cases member
  | lexeme n c cs space ih =>
    rw [tokens_spaces_append_cons n space, List.mem_cons] at member
    rcases member with rfl | member
    · exact Lexeme.read_lexical space cs
    · exact ih member

/-! ## Line by line -/

/-- Scanning starts afresh behind a line feed. -/
theorem tokens_append_newline (s t : Text) :
    tokens (s ++ '\n' :: t) = tokens s ++ Token.newline :: tokens t := by
  induction s using tokens_induction with
  | spaces n =>
    rw [tokens_spaces_append_cons n (by decide), tokens_spaces]
    rfl
  | lexeme n c cs space ih =>
    rw [List.append_assoc, List.cons_append, tokens_spaces_append_cons n space,
      tokens_spaces_append_cons n space, Lexeme.read_append_cons (by decide) (Or.inl rfl), ih]
    rfl

/-- A character that is not in a text is in no value of its tokens, if it is neither a letter in
    lower case nor a space. -/
theorem not_mem_value_of_mem_tokens {d : Char} (letter : d.isLower = false) (blank : d ≠ ' ')
    {s : Text} (outside : d ∉ s) {t : Token} (member : t ∈ tokens s) : d ∉ t.value := by
  induction s using tokens_induction with
  | spaces n =>
    rw [tokens_spaces] at member
    cases member
  | lexeme n c cs space ih =>
    rw [← Lexeme.read_text_append_rest c cs, List.mem_append, List.mem_append, not_or,
      not_or] at outside
    rw [tokens_spaces_append_cons n space, List.mem_cons] at member
    rcases member with rfl | member
    · exact (Lexeme.spelledBy_read c cs).not_mem_value letter blank outside.2.1
    · exact ih outside.2.2 member

/-- The tokens of a line are free of line endings. -/
theorem onLine_of_mem_tokens {s : Text} (noFeed : '\n' ∉ s) (noReturn : '\r' ∉ s) {t : Token}
    (member : t ∈ tokens s) : t.OnLine :=
  ⟨lexical_of_mem_tokens member, not_mem_value_of_mem_tokens rfl (by decide) noFeed member,
    not_mem_value_of_mem_tokens rfl (by decide) noReturn member⟩

/-- A newline is read from a line feed only. -/
theorem kind_ne_newline_of_mem_tokens {s : Text} (line : '\n' ∉ s) {t : Token}
    (member : t ∈ tokens s) : t.kind ≠ .newline :=
  (lexical_of_mem_tokens member).kind_ne_newline
    (not_mem_value_of_mem_tokens rfl (by decide) line member)

/-- On a line, nothing follows an open token. -/
theorem pairwise_tokens {s : Text} (line : '\n' ∉ s) :
    (tokens s).Pairwise (fun t _ => t.isOpen = false) := by
  induction s using tokens_induction with
  | spaces n =>
    rw [tokens_spaces]
    exact List.Pairwise.nil
  | lexeme n c cs space ih =>
    rw [List.mem_append, List.mem_cons, not_or, not_or] at line
    have whole := Lexeme.read_text_append_rest c cs
    rw [tokens_spaces_append_cons n space, List.pairwise_cons]
    refine ⟨?_, ?_⟩
    · intro t member
      cases open_ : (Lexeme.read c cs).token.isOpen with
      | false => rfl
      | true =>
        rw [Lexeme.read_rest_of_isOpen open_ line.2.2, tokens_nil] at member
        cases member
    · apply ih
      intro inside
      have behind : '\n' ∈ c :: cs := whole ▸ List.mem_append_right _ inside
      rw [List.mem_cons] at behind
      exact behind.elim line.2.1 line.2.2

/-- A text is a line, or a line in front of a line feed and a text. -/
theorem lines_induction {motive : Text → Prop} (line : ∀ t, '\n' ∉ t → motive t)
    (append : ∀ first rest, '\n' ∉ first → motive rest → motive (first ++ '\n' :: rest))
    (t : Text) : motive t := by
  induction length : t.length using Nat.strong_induction_on generalizing t with
  | _ size ih =>
    by_cases feed : '\n' ∈ t
    · obtain ⟨first, rest, rfl, alone⟩ := List.eq_append_cons_of_mem feed
      have shorter : rest.length < size := by
        rw [← length, List.length_append, List.length_cons]
        omega
      exact append first rest alone (ih rest.length shorter rest rfl)
    · exact line t feed

/-- What stands between two line feeds is a part of the text without line feeds. -/
theorem of_mem_splitOn {s piece : Text} (member : piece ∈ s.splitOn '\n') :
    '\n' ∉ piece ∧ piece ⊆ s := by
  induction s using lines_induction with
  | line s alone =>
    rw [List.splitOn_eq_singleton alone, List.mem_singleton] at member
    rw [member]
    exact ⟨alone, List.Subset.refl s⟩
  | append first rest alone ih =>
    rw [List.splitOn_append_cons_self_of_not_mem alone, List.mem_cons] at member
    rcases member with rfl | member
    · exact ⟨alone, List.subset_append_left _ _⟩
    · obtain ⟨noFeed, inside⟩ := ih member
      refine ⟨noFeed, fun c here => ?_⟩
      exact List.mem_append_right _ (List.mem_cons_of_mem _ (inside here))

/-- The tokens between two newlines are those of a line. -/
theorem tokens_splitOnP (s : Text) :
    (tokens s).splitOnP (·.kind == .newline) = (s.splitOn '\n').map tokens := by
  have inside : ∀ {line : Text}, '\n' ∉ line → ∀ t ∈ tokens line,
      (t.kind == TokenKind.newline) = false := by
    intro line alone t member
    simpa using kind_ne_newline_of_mem_tokens alone member
  induction s using lines_induction with
  | line s alone =>
    rw [List.splitOn_eq_singleton alone, List.splitOnP_eq_singleton (inside alone)]
    rfl
  | append first rest alone ih =>
    rw [tokens_append_newline, List.splitOnP_append_cons_of_forall_mem (inside alone) _ rfl, ih,
      List.splitOn_append_cons_self_of_not_mem alone]
    rfl

end Text

/-! ## Cursors -/

namespace Cursor

theorem isSpace_of_mem_spaces (n : Nat) : ∀ x ∈ Text.spaces n, (x == ' ') = true := by
  intro x member
  rw [List.eq_of_mem_replicate member]
  rfl

/-- A cursor in front of spaces alone reads the end. -/
theorem advance_of_spaces {c : Cursor} {n : Nat} (blank : c.rest = Text.spaces n) :
    c.advance = (⟨Token.endOfText, c.position + n, c.position + n⟩,
      { c with position := c.position + n, rest := [] }) := by
  have spaces := isSpace_of_mem_spaces n
  unfold advance
  rw [blank, List.takeWhile_eq_self_iff.2 spaces, List.dropWhile_eq_nil_iff.2 spaces, Text.spaces,
    List.length_replicate]

/-- A cursor reads the lexeme behind the spaces in front of it. -/
theorem advance_of_cons {c : Cursor} {n : Nat} {x : Char} {xs : Text}
    (behind : c.rest = Text.spaces n ++ x :: xs) (space : x ≠ ' ') :
    c.advance = (⟨(Lexeme.read x xs).token, c.position + n,
        c.position + n + Text.byteLength (Lexeme.read x xs).text⟩,
      { c with position := c.position + n + Text.byteLength (Lexeme.read x xs).text,
               rest := (Lexeme.read x xs).rest }) := by
  have spaces := isSpace_of_mem_spaces n
  have stops : (x == ' ') = false := by simpa using space
  unfold advance
  rw [behind, List.takeWhile_append_of_pos spaces, List.dropWhile_append_of_pos spaces,
    List.takeWhile_cons, List.dropWhile_cons, stops]
  simp [Text.spaces]

/-- Induction along the tokens that a cursor reads. -/
theorem advance_induction {motive : Cursor → Prop}
    (spaces : ∀ (c : Cursor) (n : Nat), c.rest = Text.spaces n → motive c)
    (lexeme : ∀ (c : Cursor) (n : Nat) (x : Char) (xs : Text), c.rest = Text.spaces n ++ x :: xs →
      x ≠ ' ' → motive c.advance.2 → motive c) (c : Cursor) : motive c := by
  obtain ⟨t, behind⟩ : ∃ t, c.rest = t := ⟨_, rfl⟩
  induction t using Text.tokens_induction generalizing c with
  | spaces n => exact spaces c n behind
  | lexeme n x xs space ih =>
    exact lexeme c n x xs behind space (ih c.advance.2 (by rw [advance_of_cons behind space]))

/-- In front of spaces alone there is the end, and it is still there once it is read. -/
theorem spans_of_spaces {c : Cursor} {n : Nat} (blank : c.rest = Text.spaces n) :
    c.spans = [c.advance.1] ∧ c.advance.2.spans = [c.advance.1] := by
  have read := advance_of_spaces blank
  have again : c.advance.2.advance = c.advance := by
    rw [advance_of_spaces (c := c.advance.2) (n := 0) (by rw [read]; rfl), read]
    rfl
  constructor
  · rw [spans, dif_pos (by rw [read]; rfl)]
  · rw [spans, again, dif_pos (by rw [read]; rfl)]

/-- A lexeme is the first of the spans, and those of what follows it are left. -/
theorem spans_of_cons {c : Cursor} {n : Nat} {x : Char} {xs : Text}
    (behind : c.rest = Text.spaces n ++ x :: xs) (space : x ≠ ' ') :
    c.spans = c.advance.1 :: c.advance.2.spans := by
  have going := (Lexeme.read_lexical space xs).kind_ne_endOfText
  rw [spans, dif_neg (by rw [advance_of_cons behind space]; exact going)]

theorem next?_of_running {c : Cursor} (running : c.finished = false) : c.next? =
    some (c.advance.1.token,
      { c.advance.2 with finished := c.advance.1.token.kind == .endOfText }) := by
  simp [next?, running]

theorem tokens_of_next? {c d : Cursor} {t : Token} (step : c.next? = some (t, d)) :
    c.tokens = t :: d.tokens := by
  rw [tokens]
  split
  · next other =>
    rw [step] at other
    cases other
  · next other =>
    rw [step] at other
    cases other
    rfl

theorem tokens_of_finished {c : Cursor} (done : c.finished = true) : c.tokens = [] := by
  rw [tokens]
  split
  · rfl
  · next other =>
    rw [next?, if_pos done] at other
    cases other

/-- A cursor that is not finished gives the tokens of the text behind it, and the end. -/
theorem tokens_eq (c : Cursor) (running : c.finished = false) :
    c.tokens = Text.tokens c.rest ++ [Token.endOfText] := by
  generalize behind : c.rest = t
  induction t using Text.tokens_induction generalizing c with
  | spaces n =>
    rw [tokens_of_next? (next?_of_running running), advance_of_spaces behind,
      tokens_of_finished rfl, Text.tokens_spaces]
    rfl
  | lexeme n x xs space ih =>
    have going := (Lexeme.read_lexical space xs).kind_ne_endOfText
    rw [tokens_of_next? (next?_of_running running), advance_of_cons behind space,
      ih _ (by simpa using going) rfl, Text.tokens_spaces_append_cons n space]
    rfl

end Cursor

/-- The tokens of a source text are those of the text with unified line endings, and the end. -/
theorem tokenize_eq (source : Text) :
    tokenize source = Text.tokens (Text.unifyLineEndings source) ++ [Token.endOfText] :=
  Cursor.tokens_eq (Cursor.start source) rfl

/-! ## Tokens by themselves -/

/-- The value of a token holds no carriage return, so that its line endings stay as they are. -/
theorem unifyLineEndings_value {source : Text} {t : Token}
    (member : t ∈ Text.tokens (Text.unifyLineEndings source)) :
    Text.unifyLineEndings t.value = t.value := by
  apply Text.unifyLineEndings_of_cr_not_mem
  have outside := Text.cr_not_mem_unifyLineEndings source
  exact Text.not_mem_value_of_mem_tokens rfl (by decide) outside member

/-- The value of a token, read by itself, gives the token and the end. -/
theorem tokenize_value {source : Text} {t : Token} (member : t ∈ tokenize source)
    (inner : t.kind ≠ .endOfText) : tokenize t.value = [t, Token.endOfText] := by
  rw [tokenize_eq, List.mem_append, List.mem_singleton] at member
  have scanned : t ∈ Text.tokens (Text.unifyLineEndings source) := by
    apply member.resolve_right
    rintro rfl
    exact inner rfl
  have spelled := (Text.lexical_of_mem_tokens scanned).spells_render RenderOptions.default
  rw [Token.render_default] at spelled
  rw [tokenize_eq, unifyLineEndings_value scanned, Text.tokens_of_spells spelled]
  rfl

/-- What ends a token is gone when it stands alone: a second point, a keyword, blanks, a carriage
    return. -/
theorem tokenize_value_cut :
    let source := "7.5.ÉA$ToRem  x:y \u00a0\r\"z".toList
    let number : Token := ⟨.digit, "7.5".toList⟩
    let name : Token := ⟨.name, "ÉA$".toList⟩
    let remark : Token := ⟨.keyword, "rem x:y".toList⟩
    let quoted : Token := ⟨.string, "\"z".toList⟩
    tokenize source = [number, ⟨.symbol, ['.']⟩, name, ⟨.keyword, "to".toList⟩, remark,
        Token.newline, quoted, Token.endOfText] ∧
      tokenize number.value = [number, Token.endOfText] ∧
      tokenize name.value = [name, Token.endOfText] ∧
      tokenize remark.value = [remark, Token.endOfText] ∧
      tokenize quoted.value = [quoted, Token.endOfText] := by
  intro source number name remark quoted
  have tokens : tokenize source = [number, ⟨.symbol, ['.']⟩, name, ⟨.keyword, "to".toList⟩, remark,
      Token.newline, quoted, Token.endOfText] := by
    decide +kernel
  have members : ∀ t ∈ [number, name, remark, quoted], t ∈ tokenize source := by
    simp [tokens]
  refine ⟨tokens, ?_, ?_, ?_, ?_⟩
  · exact tokenize_value (members number (by simp)) (by decide)
  · exact tokenize_value (members name (by simp)) (by decide)
  · exact tokenize_value (members remark (by simp)) (by decide)
  · exact tokenize_value (members quoted (by simp)) (by decide)

end Listing

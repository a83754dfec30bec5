import Listing.Proofs.Program.Grouping
import Listing.Proofs.Program.Trimmed

/-!
# Reading what was written

The spaces of a listing keep its tokens apart: what is written for the tokens of a statement is read
as these tokens again, and colons separate the statements of a line as before. Only the blanks at
the ends of the lines are lost. So a program that was written and read is the program trimmed.

Main statement: `ofText_render`.
-/

namespace Listing

/-- Statements are separated by a colon with spaces around it. -/
def RenderOptions.spaced (before after : Nat) (uppercase : Bool) : RenderOptions :=
  ⟨Text.spaces before ++ ':' :: Text.spaces after, uppercase⟩

theorem RenderOptions.separator_default :
    RenderOptions.default.separator = Text.spaces 0 ++ ':' :: Text.spaces 0 := rfl

/-- The token between two statements. -/
def Token.colon : Token := ⟨.colon, [':']⟩

namespace Statement

/-! ## Statements -/

theorem eq_of_isSymbol {t : Token} {s : Text} (symbol : t.isSymbol s = true) :
    t = ⟨.symbol, s⟩ := by
  obtain ⟨kind, value⟩ := t
  simpa [Token.isSymbol] using symbol

/-- In front of the tokens that follow it a token stops, with or without a space. -/
theorem stops_renderBehind (options : RenderOptions) {t : Token} (closed : t.isOpen = false)
    (u : Token) (tokens : List Token) (tail : Text) :
    t.Stops (renderBehind options t (u :: tokens) ++ tail) := by
  have atSymbol : ∀ d, d ∈ Lexeme.breaks → u.isSymbol [d] = true →
      t.Stops (u.render options ++ renderBehind options u tokens ++ tail) := by
    intro d member symbol
    rw [eq_of_isSymbol symbol]
    exact .atBreak member (Or.inr closed)
  rw [renderBehind]
  cases space : t.needsSpace u with
  | true => exact .atBreak (by decide) (Or.inr closed)
  | false =>
    unfold Token.needsSpace at space
    split_ifs at space with opening sign parenthesis
    · exact .parenthesis (eq_of_isSymbol opening)
    · simp only [Bool.or_eq_true] at sign
      rcases sign with (comma | semicolon) | closing
      · exact atSymbol ',' (by decide) comma
      · exact atSymbol ';' (by decide) semicolon
      · exact atSymbol ')' (by decide) closing
    · exact atSymbol '(' (by decide) parenthesis

/-- Tokens that are not open are read back in front of a last one, whatever follows it. -/
theorem tokens_renderBehind_concat_append (options : RenderOptions) {front : List Token}
    (valid : ∀ t ∈ front, t.OnLine) (closed : ∀ t ∈ front, t.isOpen = false) (last : Token)
    (tail : Text) (previous : Token) :
    Text.tokens (renderBehind options previous (front ++ [last]) ++ tail) =
      front ++ Text.tokens (last.render options ++ tail) := by
  have gap : ∀ (b : Bool) (s : Text),
      Text.tokens ((if b then [' '] else []) ++ s) = Text.tokens s := by
    intro b s
    cases b with
    | false => rfl
    | true => exact Text.tokens_spaces_append 1 s
  induction front generalizing previous with
  | nil =>
    rw [List.nil_append, renderBehind, renderBehind, List.append_nil, List.append_assoc, gap]
    rfl
  | cons t front ih =>
    rw [List.forall_mem_cons] at valid closed
    have stops : t.Stops (renderBehind options t (front ++ [last]) ++ tail) := by
      obtain ⟨u, tokens, more⟩ := List.exists_cons_of_ne_nil (List.concat_ne_nil last front)
      rw [more]
      exact stops_renderBehind options closed.1 u tokens tail
    rw [List.cons_append, renderBehind, List.append_assoc, List.append_assoc, gap,
      Text.tokens_render_append valid.1.lexical options stops, ih valid.2 closed.2 t]
    rfl

/-- What is written for tokens is read as the tokens, where the last of them stops. -/
theorem tokens_renderBehind_append (options : RenderOptions) {tokens : List Token}
    (valid : ∀ t ∈ tokens, t.OnLine) (closed : tokens.Pairwise (fun t _ => t.isOpen = false))
    {tail : Text} (stops : ∀ t ∈ tokens.getLast?, t.Stops tail) (previous : Token) :
    Text.tokens (renderBehind options previous tokens ++ tail) = tokens ++ Text.tokens tail := by
  rcases List.eq_nil_or_concat' tokens with rfl | ⟨front, last, rfl⟩
  · rfl
  · have before := forall_of_pairwise_concat closed
    rw [List.forall_mem_append, List.forall_mem_singleton] at valid
    rw [tokens_renderBehind_concat_append options valid.1 before,
      Text.tokens_render_append valid.2.lexical options (stops last (by simp)),
      List.append_assoc]
    rfl

theorem tokens_render {s : Statement} (form : s.WellFormed) (options : RenderOptions) :
    Text.tokens (s.render options) = s.content := by
  have atEnd : ∀ t ∈ s.content.getLast?, t.Stops [] := fun t _ => .atEnd
  have read := tokens_renderBehind_append options form.tokens form.closed atEnd ⟨.symbol, ['(']⟩
  rwa [← render_eq_renderBehind, List.append_nil, Text.tokens_nil, List.append_nil] at read

/-- A statement without open tokens is read back in front of a colon. -/
theorem tokens_render_append_colon {s : Statement} (form : s.WellFormed)
    (closed : s.isClosed = true) (options : RenderOptions) (n : Nat) (rest : Text) :
    Text.tokens (s.render options ++ (Text.spaces n ++ ':' :: rest)) =
      s.content ++ Token.colon :: Text.tokens rest := by
  have stops : ∀ t ∈ s.content.getLast?, t.Stops (Text.spaces n ++ ':' :: rest) := by
    intro t last
    have shut : t.isOpen = false := by
      simpa using List.all_eq_true.1 closed t (List.mem_of_getLast? last)
    cases n with
    | zero => exact .atBreak (by decide) (Or.inr shut)
    | succ n => exact .atBreak (by decide) (Or.inr shut)
  rw [render_eq_renderBehind, tokens_renderBehind_append options form.tokens form.closed stops,
    Text.tokens_spaces_append_cons n (by decide)]
  rfl

/-- Colons separate statements. -/
theorem ofTokens_flatMap_append {init : List Statement}
    (inner : ∀ s ∈ init, ∀ t ∈ s.content, t.kind ≠ .colon) (tokens : List Token) :
    ofTokens (init.flatMap (fun s => s.content ++ [Token.colon]) ++ tokens) =
      init ++ ofTokens tokens := by
  induction init with
  | nil => rfl
  | cons s init ih =>
    rw [List.forall_mem_cons] at inner
    rw [List.flatMap_cons, List.append_assoc, List.append_assoc, List.singleton_append,
      ofTokens_append_colon inner.1 rfl, ih inner.2]
    rfl

end Statement

namespace Line

/-! ## Lines -/

theorem tokens_trimBlankEnd_spaces_append (n : Nat) (t : Text) :
    Text.tokens (Text.trimBlankEnd (Text.spaces n ++ t)) = Text.tokens (Text.trimBlankEnd t) := by
  rw [Text.trimBlankEnd_append]
  split
  · next gone => rw [gone, Text.trimBlankEnd_spaces]
  · exact Text.tokens_spaces_append n _

variable {options : RenderOptions} {before after : Nat}

/-- Statements in front of a text are read back, with a colon behind each of them, and the end of
    the text is trimmed as before. -/
theorem tokens_trimBlankEnd_flatMap_append
    (separator : options.separator = Text.spaces before ++ ':' :: Text.spaces after)
    {init : List Statement} (form : ∀ s ∈ init, s.WellFormed)
    (closed : ∀ s ∈ init, s.isClosed = true) (t : Text) :
    Text.tokens (Text.trimBlankEnd
        (init.flatMap (fun s => s.render options ++ options.separator) ++ t)) =
      init.flatMap (fun s => s.content ++ [Token.colon]) ++ Text.tokens (Text.trimBlankEnd t) := by
  induction init with
  | nil => rfl
  | cons s init ih =>
    rw [List.forall_mem_cons] at form closed
    have behind := ih form.2 closed.2
    rw [List.flatMap_cons, List.flatMap_cons, List.append_assoc,
      List.append_assoc _ _ (Text.tokens _), ← behind]
    generalize init.flatMap (fun s => s.render options ++ options.separator) ++ t = rest
    have cut : Text.trimBlankEnd (s.render options ++ options.separator ++ rest) =
        s.render options ++ (Text.spaces before ++
          ':' :: Text.trimBlankEnd (Text.spaces after ++ rest)) := by
      rw [separator, ← List.append_assoc, ← List.append_assoc,
        ← Text.trimBlankEnd_append_cons (by decide)]
      simp
    rw [cut, Statement.tokens_render_append_colon form.1 closed.1,
      tokens_trimBlankEnd_spaces_append]
    simp

/-- A line number is read back. -/
theorem lineNumber?_ofNat (n : UInt32) : lineNumber? (Text.ofNat n.toNat) = some n := by
  have digital : ∀ c ∈ Text.ofNat n.toNat, c.isDigit = true :=
    fun c member => Text.isDigit_of_mem_ofNat member
  exact lineNumber?_eq_some_iff.2
    ⟨_, Or.inl rfl, Nat.toDigits_ne_nil, digital, Text.ofDigitChars_ofNat n.toNat⟩

theorem tokens_number_append {n : Nat} {rest : Text}
    (stops : Token.Stops ⟨.digit, Text.ofNat n⟩ rest) :
    Text.tokens (Text.ofNat n ++ rest) = ⟨.digit, Text.ofNat n⟩ :: Text.tokens rest := by
  have lexical : Token.Lexical ⟨.digit, Text.ofNat n⟩ :=
    .whole _ Nat.toDigits_ne_nil fun c member => Text.isDigit_of_mem_ofNat member
  exact Text.tokens_render_append lexical RenderOptions.default stops

/-- What is read from a line number, a space and the text of statements. -/
theorem ofText?_number_append (n : UInt32) (t : Text) :
    ofText? (Text.trimBlankEnd (Text.ofNat n.toNat ++ ' ' :: t)) =
      some ⟨n, Statement.ofTokens (Text.tokens (Text.trimBlankEnd t))⟩ := by
  have solid : Text.trimBlankEnd (Text.ofNat n.toNat) = Text.ofNat n.toNat :=
    Text.trimBlankEnd_eq_self_iff.2 (Text.endsInBlank_eq_false_of_forall fun c member =>
      Text.isBlank_of_isDigit (Text.isDigit_of_mem_ofNat member))
  have scanned : Text.tokens (Text.trimBlankEnd (Text.ofNat n.toNat ++ ' ' :: t)) =
      ⟨.digit, Text.ofNat n.toNat⟩ :: Text.tokens (Text.trimBlankEnd t) := by
    have front : Text.trimBlankEnd (' ' :: t) =
        if Text.trimBlankEnd t = [] then [] else ' ' :: Text.trimBlankEnd t :=
      Text.trimBlankEnd_append [' '] t
    by_cases gone : Text.trimBlankEnd t = []
    · rw [if_pos gone] at front
      have alone := tokens_number_append (n := n.toNat) .atEnd
      rw [List.append_nil] at alone
      rw [Text.trimBlankEnd_append, if_pos front, solid, alone, gone]
    · rw [if_neg gone] at front
      rw [Text.trimBlankEnd_append, front, if_neg (List.cons_ne_nil _ _),
        tokens_number_append (.atBreak (by decide) (Or.inr rfl))]
      exact congrArg (_ :: ·) (Text.tokens_spaces_append 1 _)
  unfold ofText? ofTokens Opening.of
  rw [scanned]
  simp only [if_true, lineNumber?_ofNat]

/-- What is read from a line number and statements without open tokens in front of a text. -/
theorem ofText?_number_flatMap_append
    (separator : options.separator = Text.spaces before ++ ':' :: Text.spaces after) (n : UInt32)
    {init : List Statement} (form : ∀ s ∈ init, s.WellFormed ∧ s.isClosed = true) (t : Text) :
    ofText? (Text.trimBlankEnd (Text.ofNat n.toNat ++
        ' ' :: (init.flatMap (fun s => s.render options ++ options.separator) ++ t))) =
      some ⟨n, init ++ Statement.ofTokens (Text.tokens (Text.trimBlankEnd t))⟩ := by
  rw [ofText?_number_append, tokens_trimBlankEnd_flatMap_append separator
      (fun s member => (form s member).1) (fun s member => (form s member).2),
    Statement.ofTokens_flatMap_append (fun s member => (form s member).1.inner)]

/-- A line is read back from its text, trimmed. -/
theorem WellFormed.ofText?_render
    (separator : options.separator = Text.spaces before ++ ':' :: Text.spaces after)
    {l : Line} (form : l.WellFormed) : ofText? (l.render options) = some l.trimmed := by
  obtain ⟨init, last, same⟩ := form.exists_concat
  rw [same] at form ⊢
  obtain ⟨before, final⟩ := wellFormed_concat_iff.1 form
  rw [trimmed_concat, render, intercalate_render_concat,
    ofText?_number_flatMap_append separator _ before, ← final.render_trimmed,
    Statement.tokens_render final.trimmed, Statement.ofTokens_of_forall final.trimmed.inner]

/-! ## No line endings on a line -/

theorem eq_of_toUpper_eq {c d : Char} (upper : c.toUpper = d) (other : d.isUpper = false) :
    c = d := by
  by_cases lower : c.isLower = true
  · have letter := Char.isUpper_toUpper_eq_isAlpha c
    rw [upper, other, Char.isAlpha, lower] at letter
    simp at letter
  · rw [← upper, Char.toUpper_eq_of_not_isLower lower]

/-- The case of keywords brings no other character into a text. -/
theorem not_mem_render {t : Token} {d : Char} (other : d.isUpper = false) (outside : d ∉ t.value)
    (options : RenderOptions) : d ∉ t.render options := by
  have raised : ∀ s : Text, d ∉ s → d ∉ Text.toUpper s := by
    intro s outside
    rw [Text.toUpper, List.mem_map]
    rintro ⟨c, inside, upper⟩
    rw [eq_of_toUpper_eq upper other] at inside
    exact outside inside
  unfold Token.render
  split_ifs
  · exact outside
  · rw [List.mem_append, not_or]
    exact ⟨raised _ fun inside => outside (List.mem_of_mem_take inside),
      fun inside => outside (List.mem_of_mem_drop inside)⟩
  · exact raised _ outside

theorem not_mem_renderBehind {tokens : List Token} {d : Char} (other : d.isUpper = false)
    (space : d ≠ ' ') (outside : ∀ t ∈ tokens, d ∉ t.value) (options : RenderOptions)
    (previous : Token) : d ∉ Statement.renderBehind options previous tokens := by
  induction tokens generalizing previous with
  | nil => exact List.not_mem_nil
  | cons t tokens ih =>
    rw [List.forall_mem_cons] at outside
    rw [Statement.renderBehind, List.mem_append, List.mem_append, not_or, not_or]
    refine ⟨⟨?_, not_mem_render other outside.1 options⟩, ih outside.2 t⟩
    split
    · exact fun inside => space (List.mem_singleton.1 inside)
    · exact List.not_mem_nil

theorem not_mem_intercalate {d : Char} {separator : Text} (between : d ∉ separator)
    {texts : List Text} (outside : ∀ t ∈ texts, d ∉ t) : d ∉ separator.intercalate texts := by
  induction texts with
  | nil => exact List.not_mem_nil
  | cons t texts ih =>
    rw [List.forall_mem_cons] at outside
    by_cases last : texts = []
    · rw [last, List.intercalate_singleton]
      exact outside.1
    · rw [List.intercalate_cons_of_ne_nil last, List.mem_append, List.mem_append, not_or, not_or]
      exact ⟨⟨outside.1, between⟩, ih outside.2⟩

/-- What stands on a line stands in one of its tokens, is a digit, a space or a colon. -/
theorem not_mem_render_line (separator : options.separator =
    Text.spaces before ++ ':' :: Text.spaces after) {d : Char} (other : d.isUpper = false)
    (space : d ≠ ' ') (colon : d ≠ ':') (digit : d.isDigit = false) {l : Line}
    (outside : ∀ s ∈ l.statements, ∀ t ∈ s.content, d ∉ t.value) : d ∉ l.render options := by
  have number : d ∉ Text.ofNat l.number.toNat := by
    intro inside
    rw [Text.isDigit_of_mem_ofNat inside] at digit
    cases digit
  have spaces : ∀ n, d ∉ Text.spaces n := by
    intro n inside
    exact space (List.eq_of_mem_replicate inside)
  have between : d ∉ options.separator := by
    rw [separator, List.mem_append, List.mem_cons, not_or, not_or]
    exact ⟨spaces before, colon, spaces after⟩
  have body : d ∉ options.separator.intercalate (l.statements.map (Statement.render options)) := by
    apply not_mem_intercalate between
    rw [List.forall_mem_map]
    intro s member
    rw [Statement.render_eq_renderBehind]
    exact not_mem_renderBehind other space (outside s member) options _
  intro inside
  have whole := (Text.trimEnd_isPrefix _ _).subset inside
  rw [List.mem_append, List.mem_cons] at whole
  rcases whole with here | here | here
  · exact number here
  · exact space here
  · exact body here

theorem newline_not_mem_render
    (separator : options.separator = Text.spaces before ++ ':' :: Text.spaces after) {l : Line}
    (valid : ∀ s ∈ l.statements, ∀ t ∈ s.content, t.OnLine) : '\n' ∉ l.render options :=
  not_mem_render_line separator rfl (by decide) (by decide) rfl
    fun s inside t here => (valid s inside t here).noFeed

end Line

namespace Program

/-! ## Programs -/

variable {options : RenderOptions} {before after : Nat}

/-- The lines of a listing. -/
theorem splitOn_render {p : Program} (noFeed : ∀ l ∈ p.lines, '\n' ∉ l.render options) :
    (p.render options).splitOn '\n' = p.lines.map (·.render options) ++ [[]] := by
  obtain ⟨lines⟩ := p
  unfold render
  induction lines with
  | nil => rfl
  | cons l lines ih =>
    rw [List.forall_mem_cons] at noFeed
    dsimp only at ih ⊢
    rw [List.flatMap_cons, List.append_assoc, List.singleton_append,
      List.splitOn_append_cons_self_of_not_mem noFeed.1, ih noFeed.2]
    rfl

/-- A listing is read line by line. The lines that are written and those that are read are given as
    functions of the same lines. -/
theorem ofText_render_map (separator : options.separator =
    Text.spaces before ++ ':' :: Text.spaces after) {lines : List Line} {g f : Line → Line}
    (valid : ∀ l ∈ lines, ∀ s ∈ (g l).statements, ∀ t ∈ s.content, t.OnLine)
    (read : ∀ l ∈ lines, Line.ofText? ((g l).render options) = some (f l)) :
    ofText (render options ⟨lines.map g⟩) = ⟨lines.map f⟩ := by
  have noFeed : ∀ l ∈ lines.map g, '\n' ∉ l.render options := by
    rw [List.forall_mem_map]
    exact fun l member => Line.newline_not_mem_render separator (valid l member)
  have noReturn : '\r' ∉ render options ⟨lines.map g⟩ := by
    intro inside
    obtain ⟨m, member, here⟩ := List.mem_flatMap.1 inside
    obtain ⟨l, origin, rfl⟩ := List.mem_map.1 member
    rcases List.mem_append.1 here with here | here
    · exact Line.not_mem_render_line separator rfl (by decide) (by decide) rfl
        (fun s inside t here => (valid l origin s inside t here).noReturn) here
    · simp at here
  have found : (lines.map g).filterMap (Line.ofText? ∘ (·.render options)) = lines.map f := by
    rw [List.filterMap_map, ← List.filterMap_eq_map]
    exact List.filterMap_congr read
  have same : (ofText (render options ⟨lines.map g⟩)).lines = lines.map f := by
    rw [ofText_lines, Text.unifyLineEndings_of_cr_not_mem noReturn, splitOn_render noFeed,
      List.filterMap_append, List.filterMap_map, found]
    simp [Line.ofText?, Text.tokens_nil]
  rw [← same]

/-- A program that was written and read is the program with its lines trimmed. -/
theorem ofText_render (separator : options.separator =
    Text.spaces before ++ ':' :: Text.spaces after) {p : Program}
    (form : ∀ l ∈ p.lines, l.WellFormed) :
    ofText (p.render options) = ⟨p.lines.map Line.trimmed⟩ := by
  have read := ofText_render_map separator (g := id) (fun l member => (form l member).onLine)
    fun l member => (form l member).ofText?_render separator
  rwa [List.map_id] at read

theorem render_map_congr {lines : List Line} {g h : Line → Line}
    (same : ∀ l ∈ lines, (g l).render options = (h l).render options) :
    render options ⟨lines.map g⟩ = render options ⟨lines.map h⟩ := by
  unfold render
  rw [List.flatMap_map, List.flatMap_map]
  apply List.flatMap_congr
  intro l member
  rw [same l member]

/-- Two listings are the same exactly if their lines are. -/
theorem render_map_eq_iff {lines : List Line} {g h : Line → Line}
    (first : ∀ l ∈ lines, '\n' ∉ (g l).render options)
    (second : ∀ l ∈ lines, '\n' ∉ (h l).render options) :
    render options ⟨lines.map g⟩ = render options ⟨lines.map h⟩ ↔
      ∀ l ∈ lines, (g l).render options = (h l).render options := by
  constructor
  · intro equal
    have pieces := congrArg (List.splitOn '\n') equal
    rw [splitOn_render (List.forall_mem_map.2 first), splitOn_render (List.forall_mem_map.2 second),
      List.append_cancel_right_eq, List.map_map, List.map_map, List.map_inj_left] at pieces
    exact pieces
  · exact render_map_congr

/-- Writing a program and reading it gives the program back, split or not, exactly if no line has a
    last token that ends in a blank. -/
theorem ofText_render_eq_self_iff (source : Text) (splitting : Bool) (before after : Nat)
    (uppercase : Bool) :
    let program := ((ofText source).splitStep splitting).result
    ofText (program.render (.spaced before after uppercase)) = program ↔
      ∀ l ∈ program.lines, ∀ t ∈ l.lastToken?, t.value.endsInBlank = false := by
  intro program
  have form : ∀ l ∈ program.lines, l.WellFormed := fun l member => wellFormed_splitStep member
  have same : (⟨program.lines.map Line.trimmed⟩ : Program) = program ↔
      ∀ l ∈ program.lines, l.trimmed = l := by
    constructor
    · intro equal
      have lines := congrArg Program.lines equal
      rw [← List.map_id program.lines, List.map_map, List.map_inj_left] at lines
      exact lines
    · intro equal
      rw [List.map_congr_left (g := id) equal, List.map_id]
  rw [ofText_render rfl form, same]
  apply forall₂_congr
  intro l member
  rw [(form l member).trimmed_eq_self_iff, Option.any_eq_false]
  simp

end Program

end Listing

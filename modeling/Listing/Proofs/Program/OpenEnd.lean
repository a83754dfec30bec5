import Listing.Proofs.Program.Explanation
import Listing.Proofs.Program.RoundTrip

/-!
# Lines that end in an open token

An open token takes in whatever is put behind it on its line. A remark in the middle of a statement
does so, and a string without a closing quote. If such a line is given an explanation, the listing
shows it as part of the open token, and reading the listing gives the line with this token extended.

Main statement: `ofText?_render_explain_of_endsOpen`.
-/

namespace Listing

namespace Token

/-! ## Tokens -/

/-- An open token with more text behind it. -/
def extended (t : Token) (more : Text) : Token :=
  if t.isRemark then ⟨.keyword, Lexeme.remarkValue (t.value.drop 3 ++ more)⟩
  else ⟨t.kind, t.value ++ more⟩

/-- The open tokens are the strings without a closing quote and the remarks. -/
theorem Lexical.cases_of_isOpen {t : Token} (lexical : t.Lexical) (opened : t.isOpen = true) :
    (∃ inside, (∀ c ∈ inside, c ≠ '"' ∧ c ≠ '\n') ∧ t = ⟨.string, '"' :: inside⟩) ∨
      ∃ tail, '\n' ∉ tail ∧ Lexeme.remarkValue tail = Keyword.REM.word ++ tail ∧
        t = ⟨.keyword, Keyword.REM.word ++ tail⟩ := by
  cases lexical with
  | openString inside plain => exact Or.inl ⟨inside, plain, rfl⟩
  | remark comment trimmed line =>
    obtain ⟨tail, value, same, line⟩ := Lexeme.exists_remarkValue_eq trimmed line
    exact Or.inr ⟨tail, line, same.trans value, by rw [value]⟩
  | keyword k other => simp [isOpen, Lexeme.isRemark_eq_false other] at opened
  | closedString inside plain => simp [isOpen, isRemark] at opened
  | newline => cases opened
  | _ => simp [isOpen, isRemark] at opened

variable {more : Text}

theorem extended_openString (inside : Text) :
    extended ⟨.string, '"' :: inside⟩ more = ⟨.string, '"' :: (inside ++ more)⟩ := rfl

theorem extended_remark (tail : Text) :
    extended ⟨.keyword, Keyword.REM.word ++ tail⟩ more =
      ⟨.keyword, Lexeme.remarkValue (tail ++ more)⟩ := rfl

/-- A comment does not close a string. -/
theorem unquoted_append (comment : more.IsComment) {inside : Text}
    (unquoted : ∀ c ∈ inside, c ≠ '"' ∧ c ≠ '\n') : ∀ c ∈ inside ++ more, c ≠ '"' ∧ c ≠ '\n' := by
  have plain := Text.isPlain_iff.1 comment.plain
  rw [List.forall_mem_append]
  exact ⟨unquoted, fun c member => ⟨(plain c member).2.2, (plain c member).1⟩⟩

/-- A remark takes in a comment whole. -/
theorem trimBlanks_append_of_isComment (comment : more.IsComment) (tail : Text) :
    Text.trimBlanks (tail ++ more) = tail.dropWhile Text.isBlank ++ more := by
  have front : (tail ++ more).dropWhile Text.isBlank = tail.dropWhile Text.isBlank ++ more := by
    rw [List.dropWhile_append, comment.dropWhile_eq]
    split
    · next gone =>
      rw [List.isEmpty_iff.1 gone]
      rfl
    · rfl
  unfold Text.trimBlanks Text.trim
  rw [front]
  apply Text.trimBlankEnd_eq_self_iff.2
  rw [Text.endsInBlank_append comment.ne_nil]
  exact comment.ends

theorem length_remarkValue_lt (comment : more.IsComment) (tail : Text) :
    (Lexeme.remarkValue tail).length < (Lexeme.remarkValue (tail ++ more)).length := by
  have shorter : (Text.trimBlanks tail).length ≤ (tail.dropWhile Text.isBlank).length :=
    (Text.trimEnd_isPrefix _ _).length_le
  have positive := List.length_pos_iff.2 comment.ne_nil
  have long : tail.dropWhile Text.isBlank ++ more ≠ [] :=
    List.append_ne_nil_of_right_ne_nil _ comment.ne_nil
  have word : "rem ".toList.length = 4 ∧ "rem".toList.length = 3 := ⟨rfl, rfl⟩
  rw [Lexeme.remarkValue_eq, Lexeme.remarkValue_eq, trimBlanks_append_of_isComment comment,
    if_neg long, List.length_append, List.length_append]
  split_ifs
  · omega
  · rw [List.length_append]
    omega

/-- An open token that is extended is open and of the same kind, and its value is longer. -/
theorem OnLine.extended_cases {t : Token} (valid : t.OnLine) (opened : t.isOpen = true)
    (comment : more.IsComment) : (t.extended more).kind = t.kind ∧
      (t.extended more).isRemark = t.isRemark ∧ (t.extended more).isOpen = true ∧
      t.value.length < (t.extended more).value.length := by
  have positive := List.length_pos_iff.2 comment.ne_nil
  rcases valid.lexical.cases_of_isOpen opened with ⟨inside, unquoted, rfl⟩ | ⟨tail, -, value, rfl⟩
  · rw [extended_openString]
    refine ⟨rfl, rfl, isOpen_openString (unquoted_append comment unquoted), ?_⟩
    simp only [List.length_cons, List.length_append]
    omega
  · have remark := Lexeme.isRemark_remarkValue (tail ++ more)
    rw [extended_remark, ← value]
    refine ⟨rfl, ?_, ?_, length_remarkValue_lt comment tail⟩
    · rw [remark, Lexeme.isRemark_remarkValue]
    · rw [isOpen, remark]
      rfl

end Token

/-- An open token takes in what is put behind it. -/
theorem Token.OnLine.tokens_append {t : Token} (valid : t.OnLine) (opened : t.isOpen = true)
    {more : Text} (comment : more.IsComment) :
    Text.tokens (t.value ++ more) = [t.extended more] := by
  apply Text.tokens_of_spells
  rcases valid.lexical.cases_of_isOpen opened with ⟨inside, unquoted, rfl⟩ | ⟨tail, line, -, rfl⟩
  · rw [extended_openString]
    exact Lexeme.spells_openString (unquoted_append comment unquoted)
  · rw [extended_remark, List.append_assoc]
    exact Lexeme.spells_remark rfl (List.not_mem_append line comment.newline_not_mem)

theorem Token.OnLine.extended {t : Token} (valid : t.OnLine) (opened : t.isOpen = true)
    {more : Text} (comment : more.IsComment) : (t.extended more).OnLine := by
  have noFeed := List.not_mem_append valid.noFeed comment.newline_not_mem
  have noReturn := List.not_mem_append valid.noReturn comment.return_not_mem
  apply Text.onLine_of_mem_tokens noFeed noReturn
  rw [valid.tokens_append opened comment]
  exact List.mem_singleton_self _

theorem Token.Lexical.kind_ne_digit_of_isOpen {t : Token} (lexical : t.Lexical)
    (opened : t.isOpen = true) : t.kind ≠ .digit := by
  rcases lexical.cases_of_isOpen opened with ⟨inside, -, rfl⟩ | ⟨tail, -, -, rfl⟩ <;> simp

namespace Statement

/-! ## Statements -/

/-- A statement with its last token extended. -/
def extended (s : Statement) (more : Text) : Statement :=
  ⟨s.content.modifyLast (·.extended more)⟩

theorem extended_concat (front : List Token) (last : Token) (more : Text) :
    extended ⟨front ++ [last]⟩ more = ⟨front ++ [last.extended more]⟩ := by
  unfold extended
  rw [List.modifyLast_concat]

variable {front : List Token} {last : Token} {more : Text}

theorem WellFormed.extended (form : WellFormed ⟨front ++ [last]⟩) (opened : last.isOpen = true)
    (comment : more.IsComment) : WellFormed ⟨front ++ [last.extended more]⟩ := by
  have valid := form.tokens last (by simp)
  have kind := (valid.extended_cases opened comment).1
  have tokens := form.tokens
  have inner := form.inner
  have closed := List.pairwise_append.1 form.closed
  rw [List.forall_mem_append, List.forall_mem_singleton] at tokens inner
  refine ⟨?_, ?_, ?_⟩
  · rw [List.forall_mem_append, List.forall_mem_singleton]
    exact ⟨tokens.1, valid.extended opened comment⟩
  · rw [List.forall_mem_append, List.forall_mem_singleton, kind]
    exact inner
  · refine List.pairwise_append.2 ⟨closed.1, List.pairwise_singleton _ _, ?_⟩
    exact fun t member _ _ => closed.2.2 t member last (by simp)

/-- A statement that ends in an open token takes in what is put behind it. -/
theorem tokens_render_append (form : WellFormed ⟨front ++ [last]⟩) (opened : last.isOpen = true)
    (comment : more.IsComment) :
    Text.tokens (render .default ⟨front ++ [last]⟩ ++ more) = front ++ [last.extended more] := by
  have tokens := form.tokens
  rw [List.forall_mem_append, List.forall_mem_singleton] at tokens
  rw [render_eq_renderBehind, tokens_renderBehind_concat_append _ tokens.1
    (forall_of_pairwise_concat form.closed), Token.render_default,
    tokens.2.tokens_append opened comment]

theorem render_remarkValue (comment : Text) :
    render .default ⟨[⟨.keyword, Lexeme.remarkValue comment⟩]⟩ = Lexeme.remarkValue comment :=
  (List.append_nil _).trans (Token.render_default _)

theorem isRemark_concat_extended (valid : last.OnLine) (opened : last.isOpen = true)
    (comment : more.IsComment) :
    isRemark ⟨front ++ [last.extended more]⟩ = isRemark ⟨front ++ [last]⟩ := by
  have remark := (valid.extended_cases opened comment).2.1
  cases front with
  | nil => simpa [isRemark, first?] using remark
  | cons t front => rfl

/-- An open token is no line to go to, with and without more text behind it. -/
theorem target_concat_extended (valid : last.OnLine) (opened : last.isOpen = true)
    (comment : more.IsComment) (k : Keyword) :
    k.target (front ++ [last.extended more]) = k.target (front ++ [last]) := by
  have kind := (valid.extended_cases opened comment).1
  have noDigit := valid.lexical.kind_ne_digit_of_isOpen opened
  cases front with
  | nil => simp [Keyword.target, kind, noDigit]
  | cons t front => rfl

theorem description?_concat_extended (valid : last.OnLine) (opened : last.isOpen = true)
    (comment : more.IsComment) (noRemark : isRemark ⟨front ++ [last]⟩ = false) :
    description? ⟨front ++ [last.extended more]⟩ = description? ⟨front ++ [last]⟩ := by
  cases front with
  | nil =>
    have kind := (valid.extended_cases opened comment).1
    have other : last.kind ≠ .keyword := by
      rcases valid.lexical.cases_of_isOpen opened with ⟨inside, -, rfl⟩ | ⟨tail, -, value, rfl⟩
      · simp
      · rw [← value, List.nil_append, isRemark_remarkValue] at noRemark
        cases noRemark
    rw [List.nil_append, List.nil_append, description?_of_kind_ne other,
      description?_of_kind_ne (kind ▸ other)]
  | cons t front =>
    simp only [description?, List.cons_append, target_concat_extended valid opened comment]

end Statement

namespace Line

/-! ## Lines -/

/-- A line with its last token extended. -/
def extended (l : Line) (more : Text) : Line :=
  { l with statements := l.statements.modifyLast (·.extended more) }

theorem extended_concat (number : UInt32) (init : List Statement) (front : List Token)
    (last : Token) (more : Text) : extended ⟨number, init ++ [⟨front ++ [last]⟩]⟩ more =
      ⟨number, init ++ [⟨front ++ [last.extended more]⟩]⟩ := by
  unfold extended
  rw [List.modifyLast_concat, Statement.extended_concat]

theorem endsOpen_concat (number : UInt32) (init : List Statement) (front : List Token)
    (last : Token) : endsOpen ⟨number, init ++ [⟨front ++ [last]⟩]⟩ = last.isOpen := by
  simp [endsOpen, lastToken?_concat]

theorem WellFormed.exists_of_endsOpen {l : Line} (form : l.WellFormed)
    (opened : l.endsOpen = true) :
    ∃ init front last, l = ⟨l.number, init ++ [⟨front ++ [last]⟩]⟩ ∧ last.isOpen = true := by
  obtain ⟨init, ⟨content⟩, same⟩ := form.exists_concat
  rcases List.eq_nil_or_concat' content with rfl | ⟨front, last, rfl⟩
  · rw [same, endsOpen, lastToken?_concat] at opened
    cases opened
  · rw [same, endsOpen_concat] at opened
    exact ⟨init, front, last, same, opened⟩

variable {more : Text}

theorem WellFormed.extended {l : Line} (form : l.WellFormed) (opened : l.endsOpen = true)
    (comment : more.IsComment) :
    (l.extended more).WellFormed ∧ (l.extended more).endsOpen = true := by
  obtain ⟨init, front, last, same, final⟩ := form.exists_of_endsOpen opened
  rw [same] at form ⊢
  obtain ⟨before, statement⟩ := wellFormed_concat_iff.1 form
  have valid := statement.tokens last (by simp)
  rw [extended_concat, endsOpen_concat]
  refine ⟨?_, (valid.extended_cases final comment).2.2.1⟩
  exact wellFormed_concat_iff.2 ⟨before, statement.extended final comment⟩

/-- A line that was extended differs from the line. -/
theorem WellFormed.extended_ne {l : Line} (form : l.WellFormed) (opened : l.endsOpen = true)
    (comment : more.IsComment) : l.extended more ≠ l := by
  obtain ⟨init, front, last, same, final⟩ := form.exists_of_endsOpen opened
  rw [same] at form ⊢
  have valid := (wellFormed_concat_iff.1 form).2.tokens last (by simp)
  have longer := (valid.extended_cases final comment).2.2.2
  rw [extended_concat]
  intro equal
  simp only [Line.mk.injEq, true_and, List.append_cancel_left_eq, List.cons.injEq, and_true,
    Statement.mk.injEq] at equal
  rw [equal] at longer
  exact Nat.lt_irrefl _ longer

theorem WellFormed.isWhole_extended {l : Line} (form : l.WellFormed) (opened : l.endsOpen = true)
    (comment : more.IsComment) : (l.extended more).isWhole = l.isWhole := by
  obtain ⟨init, front, last, same, final⟩ := form.exists_of_endsOpen opened
  rw [same] at form ⊢
  have valid := (wellFormed_concat_iff.1 form).2.tokens last (by simp)
  rw [extended_concat]
  exact isWhole_concat_congr _ _ (Statement.isRemark_concat_extended valid final comment)

/-- A line that is explained has the same explanation with its last token extended. -/
theorem WellFormed.explanation?_extended {l : Line} (form : l.WellFormed)
    (opened : l.endsOpen = true) (comment : more.IsComment)
    (explained : l.explanation?.isSome = true) :
    (l.extended more).explanation? = l.explanation? := by
  obtain ⟨init, front, last, same, final⟩ := form.exists_of_endsOpen opened
  have noRemark := hasRemark_eq_false_of_explanation? explained
  rw [same] at form noRemark ⊢
  have valid := (wellFormed_concat_iff.1 form).2.tokens last (by simp)
  have unmarked : Statement.isRemark ⟨front ++ [last]⟩ = false := by
    rw [hasRemark, List.any_append, Bool.or_eq_false_iff] at noRemark
    simpa using noRemark.2
  rw [extended_concat]
  exact explanation?_concat_congr _ _ (Statement.isRemark_concat_extended valid final comment)
    (Statement.description?_concat_extended valid final comment unmarked)

/-- What is written for a colon and a remark behind it is a comment itself. -/
theorem isComment_colon_remarkValue {comment : Text} (valid : comment.IsComment) :
    Text.IsComment (':' :: Lexeme.remarkValue comment) := by
  have colon : Text.IsComment [':'] := ⟨rfl, rfl, rfl⟩
  rw [valid.remarkValue_eq]
  exact colon.append (m := "rem ".toList) rfl valid

theorem intercalate_render_concat_concat (options : RenderOptions) (init : List Statement)
    (s t : Statement) :
    options.separator.intercalate ((init ++ [s] ++ [t]).map (Statement.render options)) =
      init.flatMap (fun s => s.render options ++ options.separator) ++
        (s.render options ++ (options.separator ++ t.render options)) := by
  rw [intercalate_render_concat, List.flatMap_append, List.flatMap_singleton]
  simp only [List.append_assoc]

/-- A line that ends in an open token is read back from its explained form with the explanation as
    part of this token. -/
theorem WellFormed.ofText?_render_explain_of_endsOpen {l : Line} (form : l.WellFormed)
    (opened : l.endsOpen = true) {comment : Text} (valid : comment.IsComment)
    (found : l.explanation? = some ⟨[⟨.keyword, Lexeme.remarkValue comment⟩]⟩) :
    ofText? (l.explain.render .default) =
      some (l.extended (':' :: Lexeme.remarkValue comment)) := by
  have whole := isComment_colon_remarkValue valid
  obtain ⟨init, front, last, same, final⟩ := form.exists_of_endsOpen opened
  rw [explain_of_some found]
  rw [same] at form ⊢
  obtain ⟨before, statement⟩ := wellFormed_concat_iff.1 form
  have joined : RenderOptions.default.separator ++ Lexeme.remarkValue comment =
      ':' :: Lexeme.remarkValue comment := rfl
  have extended := statement.extended final whole
  rw [extended_concat, render, intercalate_render_concat_concat, Statement.render_remarkValue,
    joined, ofText?_number_flatMap_append RenderOptions.separator_default _ before,
    Text.trimBlankEnd_eq_self_iff.2 ((Text.endsInBlank_append whole.ne_nil _).trans whole.ends),
    Statement.tokens_render_append statement final whole,
    Statement.ofTokens_of_forall extended.inner]

end Line

end Listing

import Listing.Proofs.Program.Splitting

/-!
# Trimmed programs

Writing a line leaves out the blanks at its end. Of the tokens only symbols that are blank and
strings without a closing quote end in a blank: the former are lost at the end of a line, the
latter cut short. What is left of a line is the line trimmed.

Main statements: `trimmed_eq_self_iff`, a line stays as it is exactly if its last token does not end
in a blank; `render_trimmed`, a line is written as the line trimmed; and the lemmas that say what
trimming keeps.
-/

namespace Listing

namespace Token

/-! ## Tokens -/

/-- A token without the blanks at the end of its value. -/
def trimmed (t : Token) : Token := { t with value := Text.trimBlankEnd t.value }

theorem trimmed_of_not_endsInBlank {t : Token} (solid : t.value.endsInBlank = false) :
    t.trimmed = t := by
  unfold trimmed
  rw [Text.trimBlankEnd_eq_self_iff.2 solid]

theorem endsInBlank_trimmed (t : Token) : t.trimmed.value.endsInBlank = false :=
  Text.endsInBlank_trimBlankEnd t.value

/-- The case of a keyword does not change whether it ends in a blank. -/
theorem endsInBlank_render (t : Token) (options : RenderOptions) :
    (t.render options).endsInBlank = t.value.endsInBlank := by
  unfold render
  split_ifs
  · rfl
  · by_cases more : t.value.drop 3 = []
    · have alone : t.value.take 3 = t.value := by
        conv_rhs => rw [← List.take_append_drop 3 t.value, more, List.append_nil]
      rw [more, List.append_nil, Text.endsInBlank_toUpper, alone]
    · conv_rhs => rw [← List.take_append_drop 3 t.value]
      rw [Text.endsInBlank_append more, Text.endsInBlank_append more]
  · exact Text.endsInBlank_toUpper t.value

theorem Lexical.value_ne_nil {t : Token} (lexical : t.Lexical) : t.value ≠ [] := by
  obtain ⟨c, cs, start, -⟩ := lexical.spells_render RenderOptions.default
  rw [← render_default, start]
  exact List.cons_ne_nil c cs

theorem endsInBlank_remarkValue {comment : Text} (trimmed : Text.trimBlanks comment = comment) :
    (Lexeme.remarkValue comment).endsInBlank = false := by
  have solid : comment.endsInBlank = false := by
    rw [← trimmed]
    exact Text.getLast?_trimEnd_any Text.isBlank _
  cases comment with
  | nil => rfl
  | cons c cs =>
    have value : Lexeme.remarkValue (c :: cs) = (Keyword.REM.word ++ [' ']) ++ c :: cs := by
      rw [Lexeme.remarkValue, trimmed]
      rfl
    rw [value, Text.endsInBlank_append (List.cons_ne_nil c cs), solid]

theorem endsInBlank_name {c : Char} {cs : Text} (letter : Text.isLetter c = true)
    (tail : Lexeme.nameTail cs = cs) : Text.endsInBlank (c :: cs) = false := by
  apply Text.endsInBlank_eq_false_of_forall
  rw [List.forall_mem_cons]
  refine ⟨Text.isBlank_of_isAlphanumeric (by simp [Text.isAlphanumeric, letter]), ?_⟩
  intro d member
  rw [← tail] at member
  have continued := Lexeme.continuesName_of_mem_nameTail member
  exact Text.isBlank_eq_false_of (by decide +kernel) continued

/-- Only symbols that are blank and open strings end in a blank. -/
theorem OnLine.of_endsInBlank {t : Token} (valid : t.OnLine)
    (blank : t.value.endsInBlank = true) :
    (∃ c, Text.isBlank c = true ∧ t = ⟨.symbol, [c]⟩) ∨
      ∃ inside, (∀ c ∈ inside, c ≠ '"' ∧ c ≠ '\n') ∧ t = ⟨.string, '"' :: inside⟩ := by
  have digits : ∀ {s : Text}, (∀ c ∈ s, c.isDigit = true) → s.endsInBlank = false := by
    intro s digital
    exact Text.endsInBlank_eq_false_of_forall fun c member =>
      Text.isBlank_of_isDigit (digital c member)
  obtain ⟨lexical, noFeed, -⟩ := valid
  cases lexical with
  | newline => exact absurd (List.mem_singleton_self _) noFeed
  | colon => cases blank
  | closedString inside plain =>
    rw [Text.endsInBlank_concat] at blank
    cases blank
  | openString inside plain => exact Or.inr ⟨inside, plain, rfl⟩
  | whole s nonempty digital =>
    rw [digits digital] at blank
    cases blank
  | decimal s places nonempty digital digitalPlaces =>
    rw [Text.endsInBlank_append (List.cons_ne_nil _ _)] at blank
    cases places with
    | nil => cases blank
    | cons c cs =>
      have last := Text.endsInBlank_append (List.cons_ne_nil c cs) ['.']
      rw [List.singleton_append, digits digitalPlaces] at last
      rw [last] at blank
      cases blank
  | operator o =>
    have solid : o.word.endsInBlank = false := by cases o <;> decide +kernel
    rw [solid] at blank
    cases blank
  | keyword k other =>
    have table : ∀ k ∈ Keyword.all, k.word.endsInBlank = false := by decide +kernel
    rw [table k k.mem_all] at blank
    cases blank
  | remark comment trimmed line =>
    rw [endsInBlank_remarkValue trimmed] at blank
    cases blank
  | name c cs letter noKeyword tail =>
    rw [endsInBlank_name letter tail] at blank
    cases blank
  | other c opens space noOperator noLetter =>
    exact Or.inl ⟨c, by simpa [Text.endsInBlank] using blank, rfl⟩

theorem render_eq_nil_iff {t : Token} {options : RenderOptions} :
    t.render options = [] ↔ t.value = [] := by
  unfold render Text.toUpper
  split_ifs
  · rfl
  · constructor
    · intro nothing
      rw [List.append_eq_nil_iff, List.map_eq_nil_iff] at nothing
      rw [← List.take_append_drop 3 t.value, nothing.1, nothing.2, List.append_nil]
    · intro nothing
      rw [nothing]
      rfl
  · exact List.map_eq_nil_iff

/-- What trimming does to a lexical token. -/
theorem OnLine.trimmed_cases {t : Token} (valid : t.OnLine) :
    t.trimmed = t ∨ (t.kind = .symbol ∧ t.trimmed.value = []) ∨
      (t.kind = .string ∧ t.isOpen = true ∧ t.trimmed.Lexical ∧ t.trimmed.isOpen = true) := by
  cases blank : t.value.endsInBlank with
  | false => exact Or.inl (trimmed_of_not_endsInBlank blank)
  | true =>
    right
    rcases valid.of_endsInBlank blank with ⟨c, white, rfl⟩ | ⟨inside, plain, rfl⟩
    · left
      refine ⟨rfl, ?_⟩
      simpa [trimmed, Text.trimBlankEnd, Text.trimEnd_eq_nil_iff] using white
    · right
      have cut : trimmed ⟨.string, '"' :: inside⟩ = ⟨.string, '"' :: Text.trimBlankEnd inside⟩ := by
        unfold trimmed Text.trimBlankEnd
        rw [Text.trimEnd_cons rfl]
      have plainCut : ∀ c ∈ Text.trimBlankEnd inside, c ≠ '"' ∧ c ≠ '\n' := by
        intro c member
        exact plain c ((Text.trimEnd_isPrefix _ _).subset member)
      rw [cut]
      exact ⟨rfl, isOpen_openString plain, .openString _ plainCut, isOpen_openString plainCut⟩

theorem OnLine.trimmed {t : Token} (valid : t.OnLine) (kept : t.trimmed.value ≠ []) :
    t.trimmed.OnLine := by
  have cut : t.trimmed.value ⊆ t.value := (Text.trimEnd_isPrefix _ _).subset
  refine ⟨?_, fun feed => valid.noFeed (cut feed), fun back => valid.noReturn (cut back)⟩
  rcases valid.trimmed_cases with same | ⟨-, gone⟩ | ⟨-, -, lexical, -⟩
  · rw [same]
    exact valid.lexical
  · exact absurd gone kept
  · exact lexical

/-- A token trimmed is written as the token with the blanks at its end left out. -/
theorem OnLine.render_trimmed {t : Token} (valid : t.OnLine) (options : RenderOptions) :
    t.trimmed.render options = Text.trimBlankEnd (t.render options) := by
  cases blank : t.value.endsInBlank with
  | false =>
    rw [trimmed_of_not_endsInBlank blank, Text.trimBlankEnd_eq_self_iff.2]
    rw [endsInBlank_render, blank]
  | true =>
    have kind : t.kind ≠ .keyword := by
      rcases valid.of_endsInBlank blank with ⟨c, -, rfl⟩ | ⟨inside, -, rfl⟩ <;> simp
    rw [render_of_kind_ne kind, render_of_kind_ne (t := t.trimmed) kind]
    rfl

/-- Where something is left of a token, it is spaced as before. -/
theorem OnLine.needsSpace_trimmed {t : Token} (valid : t.OnLine)
    (kept : t.trimmed.value ≠ []) (previous : Token) :
    previous.needsSpace t.trimmed = previous.needsSpace t := by
  rcases valid.trimmed_cases with same | ⟨-, gone⟩ | ⟨string, -, -, -⟩
  · rw [same]
  · exact absurd gone kept
  · have plain : ∀ s, t.isSymbol s = false := by simp [isSymbol, string]
    have plainCut : ∀ s, t.trimmed.isSymbol s = false := by
      simp [isSymbol, Token.trimmed, string]
    unfold needsSpace
    simp only [plain, plainCut]

end Token

namespace Statement

/-! ## Statements -/

/-- The tokens without the blanks at their end. Tokens that are blank are left out. -/
def trimTokens : List Token → List Token
  | [] => []
  | t :: tokens =>
    if trimTokens tokens ≠ [] then t :: trimTokens tokens
    else if t.trimmed.value ≠ [] then [t.trimmed] else []

/-- A statement without the blanks at its end. -/
def trimmed (s : Statement) : Statement := ⟨trimTokens s.content⟩

theorem trimTokens_cons_of_ne_nil {tokens : List Token} (more : trimTokens tokens ≠ [])
    (t : Token) : trimTokens (t :: tokens) = t :: trimTokens tokens := by
  rw [trimTokens, if_pos more]

theorem trimTokens_cons_of_eq_nil {tokens : List Token} (gone : trimTokens tokens = [])
    (t : Token) : trimTokens (t :: tokens) = if t.trimmed.value ≠ [] then [t.trimmed] else [] := by
  rw [trimTokens, if_neg (by simpa using gone)]

/-- A token that trimming does not change stays. -/
theorem trimTokens_cons_of_trimmed {t : Token} (same : t.trimmed = t) (nonempty : t.value ≠ [])
    (tokens : List Token) : trimTokens (t :: tokens) = t :: trimTokens tokens := by
  by_cases gone : trimTokens tokens = []
  · rw [trimTokens_cons_of_eq_nil gone, same, if_pos nonempty, gone]
  · exact trimTokens_cons_of_ne_nil gone t

/-- The last token that is left does not end in a blank. -/
theorem endsInBlank_getLast?_trimTokens (tokens : List Token) :
    (trimTokens tokens).getLast?.any (·.value.endsInBlank) = false := by
  induction tokens with
  | nil => rfl
  | cons t tokens ih =>
    by_cases gone : trimTokens tokens = []
    · rw [trimTokens_cons_of_eq_nil gone]
      split_ifs
      · exact t.endsInBlank_trimmed
      · rfl
    · rw [trimTokens_cons_of_ne_nil gone, ← List.singleton_append,
        List.getLast?_append_of_ne_nil _ gone]
      exact ih

/-- Tokens stay as they are exactly if the last of them does not end in a blank. -/
theorem trimTokens_eq_self_iff {tokens : List Token} (valid : ∀ t ∈ tokens, t.OnLine) :
    trimTokens tokens = tokens ↔ tokens.getLast?.any (·.value.endsInBlank) = false := by
  refine ⟨fun same => same ▸ endsInBlank_getLast?_trimTokens tokens, ?_⟩
  induction tokens with
  | nil => exact fun _ => rfl
  | cons t tokens ih =>
    rw [List.forall_mem_cons] at valid
    intro solid
    by_cases last : tokens = []
    · subst last
      have same := Token.trimmed_of_not_endsInBlank (t := t) (by simpa using solid)
      exact trimTokens_cons_of_trimmed same valid.1.lexical.value_ne_nil []
    · rw [← List.singleton_append, List.getLast?_append_of_ne_nil _ last] at solid
      have same := ih valid.2 solid
      rw [trimTokens_cons_of_ne_nil (by rwa [same]), same]

/-- How the first token fares: it stays, or it is a symbol or a string and all that is left. -/
theorem trimTokens_cons {t : Token} (valid : t.OnLine)
    (tokens : List Token) : trimTokens (t :: tokens) = t :: trimTokens tokens ∨
      ((t.kind = .symbol ∨ t.kind = .string) ∧
        (trimTokens (t :: tokens) = [] ∨ trimTokens (t :: tokens) = [t.trimmed])) := by
  by_cases gone : trimTokens tokens = []
  · have alone : trimTokens (t :: tokens) = [] ∨ trimTokens (t :: tokens) = [t.trimmed] := by
      rw [trimTokens_cons_of_eq_nil gone]
      split_ifs
      · exact Or.inr rfl
      · exact Or.inl rfl
    rcases valid.trimmed_cases with same | ⟨symbol, -⟩ | ⟨string, -⟩
    · exact Or.inl (trimTokens_cons_of_trimmed same valid.lexical.value_ne_nil tokens)
    · exact Or.inr ⟨Or.inl symbol, alone⟩
    · exact Or.inr ⟨Or.inr string, alone⟩
  · exact Or.inl (trimTokens_cons_of_ne_nil gone t)

/-- The tokens that are left come from the tokens, trimmed or not. -/
theorem exists_of_mem_trimTokens {tokens : List Token} {u : Token}
    (member : u ∈ trimTokens tokens) :
    ∃ t ∈ tokens, u = t ∨ (u = t.trimmed ∧ u.value ≠ []) := by
  induction tokens with
  | nil => cases member
  | cons t tokens ih =>
    by_cases gone : trimTokens tokens = []
    · rw [trimTokens_cons_of_eq_nil gone] at member
      split_ifs at member with kept
      · rw [List.mem_singleton] at member
        exact ⟨t, by simp, Or.inr ⟨member, member ▸ kept⟩⟩
      · cases member
    · rw [trimTokens_cons_of_ne_nil gone, List.mem_cons] at member
      rcases member with rfl | behind
      · exact ⟨u, by simp, Or.inl rfl⟩
      · obtain ⟨t', inside, origin⟩ := ih behind
        exact ⟨t', List.mem_cons_of_mem _ inside, origin⟩

theorem onLine_trimTokens {tokens : List Token} (valid : ∀ t ∈ tokens, t.OnLine) :
    ∀ u ∈ trimTokens tokens, u.OnLine := by
  intro u member
  obtain ⟨t, inside, rfl | ⟨rfl, kept⟩⟩ := exists_of_mem_trimTokens member
  · exact valid u inside
  · exact (valid t inside).trimmed kept

theorem pairwise_trimTokens {tokens : List Token}
    (closed : tokens.Pairwise (fun t _ => t.isOpen = false)) :
    (trimTokens tokens).Pairwise (fun t _ => t.isOpen = false) := by
  induction tokens with
  | nil => exact List.Pairwise.nil
  | cons t tokens ih =>
    rw [List.pairwise_cons] at closed
    by_cases gone : trimTokens tokens = []
    · rw [trimTokens_cons_of_eq_nil gone]
      split_ifs
      · exact List.pairwise_singleton _ _
      · exact List.Pairwise.nil
    · rw [trimTokens_cons_of_ne_nil gone, List.pairwise_cons]
      refine ⟨?_, ih closed.2⟩
      intro u member
      obtain ⟨t', inside, -⟩ := exists_of_mem_trimTokens member
      exact closed.1 t' inside

theorem WellFormed.trimmed {s : Statement} (form : s.WellFormed) : s.trimmed.WellFormed := by
  refine ⟨onLine_trimTokens form.tokens, ?_, pairwise_trimTokens form.closed⟩
  intro u member
  obtain ⟨t, inside, rfl | ⟨rfl, kept⟩⟩ := exists_of_mem_trimTokens member
  · exact form.inner u inside
  · exact form.inner t inside

theorem renderBehind_ne_nil {tokens : List Token} (valid : ∀ t ∈ tokens, t.OnLine)
    (nonempty : tokens ≠ []) (options : RenderOptions) (previous : Token) :
    renderBehind options previous tokens ≠ [] := by
  obtain ⟨t, behind, rfl⟩ := List.exists_cons_of_ne_nil nonempty
  have written : t.render options ≠ [] := fun nothing =>
    (valid t (by simp)).lexical.value_ne_nil (Token.render_eq_nil_iff.1 nothing)
  simp [renderBehind, written]

/-- Tokens trimmed are written as the tokens with the blanks at their end left out. -/
theorem renderBehind_trimTokens {tokens : List Token} (valid : ∀ t ∈ tokens, t.OnLine)
    (options : RenderOptions) (previous : Token) :
    renderBehind options previous (trimTokens tokens) =
      Text.trimBlankEnd (renderBehind options previous tokens) := by
  induction tokens generalizing previous with
  | nil => rfl
  | cons t tokens ih =>
    rw [List.forall_mem_cons] at valid
    have behind := ih valid.2 t
    by_cases gone : trimTokens tokens = []
    · -- nothing is left behind `t`, so that `t` is trimmed as well
      have nothing : Text.trimBlankEnd (renderBehind options t tokens) = [] := by
        rw [← behind, gone]
        rfl
      have space : ∀ b : Bool, Text.trimBlankEnd (if b then [' '] else []) = [] := by decide
      rw [renderBehind, Text.trimBlankEnd_append, if_pos nothing, Text.trimBlankEnd_append,
        ← valid.1.render_trimmed, trimTokens_cons_of_eq_nil gone, space]
      by_cases lost : t.trimmed.value = []
      · rw [if_pos (Token.render_eq_nil_iff.2 lost), if_neg (by simpa using lost)]
        rfl
      · rw [if_neg (fun empty => lost (Token.render_eq_nil_iff.1 empty)), if_pos lost,
          renderBehind, valid.1.needsSpace_trimmed lost, renderBehind, List.append_nil]
    · have something : Text.trimBlankEnd (renderBehind options t tokens) ≠ [] := by
        rw [← behind]
        exact renderBehind_ne_nil (onLine_trimTokens valid.2) gone options t
      rw [renderBehind, Text.trimBlankEnd_append, if_neg something, ← behind,
        trimTokens_cons_of_ne_nil gone, renderBehind]

/-- A statement is written as its tokens are behind an opening parenthesis. -/
theorem render_eq_renderBehind (options : RenderOptions) (s : Statement) :
    s.render options = renderBehind options ⟨.symbol, ['(']⟩ s.content := by
  obtain ⟨content⟩ := s
  cases content with
  | nil => rfl
  | cons t tokens => rfl

theorem WellFormed.render_trimmed {s : Statement} (form : s.WellFormed) (options : RenderOptions) :
    s.trimmed.render options = Text.trimBlankEnd (s.render options) := by
  rw [render_eq_renderBehind, render_eq_renderBehind]
  exact renderBehind_trimTokens form.tokens _ _

/-- A statement trimmed is a remark if it is one. -/
theorem WellFormed.isRemark_trimmed {s : Statement} (form : s.WellFormed) :
    s.trimmed.isRemark = s.isRemark := by
  obtain ⟨content⟩ := s
  cases content with
  | nil => rfl
  | cons t tokens =>
    have valid := form.tokens t (by simp)
    unfold isRemark first? Statement.trimmed
    rcases trimTokens_cons valid tokens with stays | ⟨kind, alone⟩
    · rw [stays]
      rfl
    · have other : t.isRemark = false := by
        rcases kind with symbol | string <;> simp [Token.isRemark, *]
      have otherCut : t.trimmed.isRemark = false := by
        rcases kind with symbol | string <;> simp [Token.isRemark, Token.trimmed, *]
      rcases alone with gone | cut
      · simp [gone, other]
      · simp [cut, other, otherCut]

end Statement

namespace Line

/-! ## Lines -/

/-- A line without the blanks at its end. -/
def trimmed (l : Line) : Line := { l with statements := l.statements.modifyLast Statement.trimmed }

theorem trimmed_concat (number : UInt32) (init : List Statement) (last : Statement) :
    trimmed ⟨number, init ++ [last]⟩ = ⟨number, init ++ [last.trimmed]⟩ := by
  unfold trimmed
  rw [List.modifyLast_concat]

/-- The last token of the last statement of a line, if this statement is not empty. -/
def lastToken? (l : Line) : Option Token := l.statements.getLast?.bind (·.content.getLast?)

theorem lastToken?_concat (number : UInt32) (init : List Statement) (last : Statement) :
    lastToken? ⟨number, init ++ [last]⟩ = last.content.getLast? := by
  simp [lastToken?]

theorem WellFormed.trimmed {l : Line} (form : l.WellFormed) : l.trimmed.WellFormed := by
  obtain ⟨init, last, same⟩ := form.exists_concat
  rw [same] at form ⊢
  obtain ⟨before, final⟩ := wellFormed_concat_iff.1 form
  rw [trimmed_concat]
  exact wellFormed_concat_iff.2 ⟨before, final.trimmed⟩

/-- A line is left alone by a visit before and after trimming. -/
theorem WellFormed.isWhole_trimmed {l : Line} (form : l.WellFormed) :
    l.trimmed.isWhole = l.isWhole := by
  obtain ⟨init, last, same⟩ := form.exists_concat
  rw [same] at form ⊢
  rw [trimmed_concat]
  exact isWhole_concat_congr _ _ (wellFormed_concat_iff.1 form).2.isRemark_trimmed

/-- The statements of a line in writing, the last one set apart. -/
theorem intercalate_render_concat (options : RenderOptions) (init : List Statement)
    (last : Statement) :
    options.separator.intercalate ((init ++ [last]).map (Statement.render options)) =
      init.flatMap (fun s => s.render options ++ options.separator) ++ last.render options := by
  induction init with
  | nil => simp
  | cons s init ih =>
    rw [List.cons_append, List.map_cons, List.intercalate_cons_of_ne_nil (by simp), ih]
    simp

/-- A line trimmed is written as the line. -/
theorem WellFormed.render_trimmed {l : Line} (form : l.WellFormed) (options : RenderOptions) :
    l.trimmed.render options = l.render options := by
  obtain ⟨init, last, same⟩ := form.exists_concat
  rw [same] at form ⊢
  have cut := (wellFormed_concat_iff.1 form).2.render_trimmed options
  rw [trimmed_concat, render, render, intercalate_render_concat, intercalate_render_concat, cut,
    ← List.cons_append, ← List.append_assoc, Text.trimBlankEnd_append_trimBlankEnd]
  simp

/-- A line stays as it is exactly if its last token does not end in a blank. -/
theorem WellFormed.trimmed_eq_self_iff {l : Line} (form : l.WellFormed) :
    l.trimmed = l ↔ l.lastToken?.any (·.value.endsInBlank) = false := by
  obtain ⟨init, last, same⟩ := form.exists_concat
  rw [same] at form ⊢
  have cut := Statement.trimTokens_eq_self_iff (wellFormed_concat_iff.1 form).2.tokens
  rw [trimmed_concat, lastToken?_concat, ← cut]
  obtain ⟨content⟩ := last
  simp [Statement.trimmed]

end Line

end Listing

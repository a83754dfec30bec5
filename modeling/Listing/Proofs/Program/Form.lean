import Listing.Program.Reading
import Listing.Program.Split
import Listing.Proofs.Token.Scan

/-!
# The form of a program that was read

A source text is read line by line. A line that was read holds at least one statement, its
statements hold lexical tokens other than colons, free of line endings, and only its very last token
may be open. A visit keeps this form, since it hands the statements on in their order.

Main statements: `ofText_lines`, a program is read line by line; `wellFormed_ofText`, the lines that
are read have the form; `wellFormed_concat_iff`, the form with the last statement set apart; and
`WellFormed.visit`, splitting keeps it.
-/

namespace Listing

/-- Whether a statement holds no open token. -/
def Statement.isClosed (s : Statement) : Bool := s.content.all (!·.isOpen)

/-- The form of a statement that was read. -/
structure Statement.WellFormed (s : Statement) : Prop where
  tokens : ∀ t ∈ s.content, t.OnLine
  inner : ∀ t ∈ s.content, t.kind ≠ .colon
  closed : s.content.Pairwise (fun t _ => t.isOpen = false)

/-- The form of a line that was read. -/
structure Line.WellFormed (l : Line) : Prop where
  nonempty : l.statements ≠ []
  statements : ∀ s ∈ l.statements, s.WellFormed
  closed : l.statements.Pairwise (fun s _ => s.isClosed = true)

/-- What holds of all but the last of a list. -/
theorem forall_of_pairwise_concat {α : Type} {P : α → Prop} {init : List α} {last : α}
    (pairs : (init ++ [last]).Pairwise (fun a _ => P a)) : ∀ a ∈ init, P a := by
  intro a member
  exact (List.pairwise_append.1 pairs).2.2 a member last (List.mem_singleton_self last)

/-- What holds of all but the last of a list fails at its last place only. -/
theorem succ_eq_length_of_pairwise {α : Type} {P : α → Prop} {as : List α}
    (pairs : as.Pairwise (fun a _ => P a)) {i : Nat} {a : α} (here : as[i]? = some a)
    (fails : ¬ P a) : i + 1 = as.length := by
  obtain ⟨inside, rfl⟩ := List.getElem?_eq_some_iff.1 here
  by_contra short
  have next : i + 1 < as.length := by omega
  exact fails (List.pairwise_iff_getElem.1 pairs i (i + 1) inside next (Nat.lt_succ_self i))

namespace Statement

theorem wellFormed_nil : WellFormed ⟨[]⟩ := ⟨by simp, by simp, List.Pairwise.nil⟩

/-! ## Between the colons -/

theorem ofTokens_nil : ofTokens [] = [⟨[]⟩] := rfl

theorem ofTokens_ne_nil (tokens : List Token) : ofTokens tokens ≠ [] := by
  simp [ofTokens]

theorem ofTokens_cons_colon {t : Token} (colon : t.kind = .colon) (tokens : List Token) :
    ofTokens (t :: tokens) = ⟨[]⟩ :: ofTokens tokens := by
  simp [ofTokens, List.splitOnP_cons_eq_if_modifyHead, colon]

/-- A token that is no colon goes to the first statement of what follows. -/
theorem ofTokens_cons {t : Token} (other : t.kind ≠ .colon) {tokens : List Token} {s : Statement}
    {ss : List Statement} (tail : ofTokens tokens = s :: ss) :
    ofTokens (t :: tokens) = ⟨t :: s.content⟩ :: ss := by
  unfold ofTokens at tail ⊢
  rw [List.splitOnP_cons_eq_if_modifyHead, if_neg (by simpa using other)]
  cases pieces : tokens.splitOnP (·.kind == .colon) with
  | nil => exact absurd pieces (List.splitOnP_ne_nil _ _)
  | cons piece pieces' =>
    rw [pieces, List.map_cons] at tail
    cases tail
    rfl

/-- The statements in front of a colon, and those behind it. -/
theorem ofTokens_append_colon {s : Statement} (inner : ∀ t ∈ s.content, t.kind ≠ .colon)
    {colon : Token} (kind : colon.kind = .colon) (tokens : List Token) :
    ofTokens (s.content ++ colon :: tokens) = s :: ofTokens tokens := by
  have before : ∀ t ∈ s.content, (t.kind == TokenKind.colon) = false := by
    intro t member
    simpa using inner t member
  unfold ofTokens
  rw [List.splitOnP_append_cons_of_forall_mem before _ (by simp [kind]), List.map_cons]

theorem ofTokens_of_forall {s : Statement} (inner : ∀ t ∈ s.content, t.kind ≠ .colon) :
    ofTokens s.content = [s] := by
  have before : ∀ t ∈ s.content, (t.kind == TokenKind.colon) = false := by
    intro t member
    simpa using inner t member
  unfold ofTokens
  rw [List.splitOnP_eq_singleton before]
  rfl

/-- What follows from the form of a list of tokens for the statements between its colons. -/
theorem wellFormed_ofTokens {tokens : List Token} (valid : ∀ t ∈ tokens, t.OnLine)
    (closed : tokens.Pairwise (fun t _ => t.isOpen = false)) :
    (∀ s ∈ ofTokens tokens, s.WellFormed ∧ s.content ⊆ tokens) ∧
      (ofTokens tokens).Pairwise (fun s _ => s.isClosed = true) := by
  induction tokens with
  | nil =>
    rw [ofTokens_nil]
    exact ⟨by simpa using wellFormed_nil, List.pairwise_singleton _ _⟩
  | cons t tokens ih =>
    rw [List.pairwise_cons] at closed
    rw [List.forall_mem_cons] at valid
    obtain ⟨formed, between⟩ := ih valid.2 closed.2
    by_cases colon : t.kind = .colon
    · rw [ofTokens_cons_colon colon, List.forall_mem_cons, List.pairwise_cons]
      refine ⟨⟨⟨wellFormed_nil, by simp⟩, ?_⟩, ?_, between⟩
      · intro s member
        obtain ⟨form, inside⟩ := formed s member
        exact ⟨form, List.Subset.trans inside (List.subset_cons_self _ _)⟩
      · intro _ _
        rfl
    · obtain ⟨s, ss, tail⟩ := List.exists_cons_of_ne_nil (ofTokens_ne_nil tokens)
      rw [ofTokens_cons colon tail, List.forall_mem_cons, List.pairwise_cons]
      rw [tail, List.forall_mem_cons] at formed
      rw [tail, List.pairwise_cons] at between
      obtain ⟨⟨form, inside⟩, later⟩ := formed
      have first : WellFormed ⟨t :: s.content⟩ := by
        refine ⟨?_, ?_, ?_⟩
        · exact List.forall_mem_cons.2 ⟨valid.1, form.tokens⟩
        · exact List.forall_mem_cons.2 ⟨colon, form.inner⟩
        · exact List.pairwise_cons.2 ⟨fun u member => closed.1 u (inside member), form.closed⟩
      refine ⟨⟨⟨first, List.cons_subset_cons t inside⟩, ?_⟩, ?_, between.2⟩
      · intro u member
        obtain ⟨form, inside⟩ := later u member
        exact ⟨form, List.Subset.trans inside (List.subset_cons_self _ _)⟩
      · -- a further statement means a colon behind `t`, so that `t` is closed
        intro u member
        have going : tokens ≠ [] := by
          rintro rfl
          rw [ofTokens_nil] at tail
          cases tail
          cases member
        obtain ⟨next, more, rfl⟩ := List.exists_cons_of_ne_nil going
        have closedHead := closed.1 next (by simp)
        have closedTail := between.1 u member
        unfold isClosed at closedTail ⊢
        rw [List.all_cons, closedHead, closedTail]
        rfl

end Statement

namespace Line

/-! ## Lines -/

/-- The line that a text reads as; none if there are no tokens in it. -/
def ofText? (t : Text) : Option Line :=
  match t.tokens with
  | [] => none
  | first :: rest => some (ofTokens first rest)

/-- The statements of a line come from its tokens, the line number left out if there is one. -/
theorem exists_statements_ofTokens (first : Token) (rest : List Token) :
    ∃ tokens, tokens <:+ first :: rest ∧
      (ofTokens first rest).statements = Statement.ofTokens tokens := by
  unfold ofTokens Opening.of
  split_ifs
  · cases lineNumber? first.value with
    | none => exact ⟨first :: rest, List.suffix_rfl, rfl⟩
    | some n => exact ⟨rest, List.suffix_cons _ _, rfl⟩
  · exact ⟨first :: rest, List.suffix_rfl, rfl⟩

theorem wellFormed_ofText? {t : Text} (noFeed : '\n' ∉ t) (noReturn : '\r' ∉ t) {l : Line}
    (found : ofText? t = some l) : l.WellFormed := by
  unfold ofText? at found
  split at found
  · cases found
  next first rest scanned =>
    cases found
    obtain ⟨tokens, behind, statements⟩ := exists_statements_ofTokens first rest
    rw [← scanned] at behind
    obtain ⟨formed, between⟩ := Statement.wellFormed_ofTokens
      (fun t member => Text.onLine_of_mem_tokens noFeed noReturn (behind.subset member))
      ((Text.pairwise_tokens noFeed).sublist behind.sublist)
    refine ⟨?_, ?_, ?_⟩
    · rw [statements]
      exact Statement.ofTokens_ne_nil tokens
    · rw [statements]
      exact fun s member => (formed s member).1
    · rw [statements]
      exact between

theorem WellFormed.exists_concat {l : Line} (form : l.WellFormed) :
    ∃ init last, l = ⟨l.number, init ++ [last]⟩ := by
  obtain ⟨number, statements⟩ := l
  rcases List.eq_nil_or_concat' statements with empty | ⟨init, last, rfl⟩
  · exact absurd empty form.nonempty
  · exact ⟨init, last, rfl⟩

/-- The last statement of a line may be any that has the form, with or without an open token. -/
theorem wellFormed_concat_iff {number : UInt32} {init : List Statement} {last : Statement} :
    WellFormed ⟨number, init ++ [last]⟩ ↔
      (∀ s ∈ init, s.WellFormed ∧ s.isClosed = true) ∧ last.WellFormed := by
  constructor
  · rintro ⟨-, statements, closed⟩
    have before := forall_of_pairwise_concat closed
    rw [List.forall_mem_append, List.forall_mem_singleton] at statements
    exact ⟨fun s member => ⟨statements.1 s member, before s member⟩, statements.2⟩
  · rintro ⟨before, final⟩
    refine ⟨by simp, ?_, ?_⟩
    · rw [List.forall_mem_append, List.forall_mem_singleton]
      exact ⟨fun s member => (before s member).1, final⟩
    · refine List.pairwise_append.2 ⟨?_, List.pairwise_singleton _ _, ?_⟩
      · exact List.pairwise_of_forall_mem_list fun s member _ _ => (before s member).2
      · exact fun s member _ _ => (before s member).2

theorem WellFormed.onLine {l : Line} (form : l.WellFormed) :
    ∀ s ∈ l.statements, ∀ t ∈ s.content, t.OnLine :=
  fun s member => (form.statements s member).tokens

/-- What separates statements, lines and texts is not part of a statement. -/
theorem WellFormed.kind_ne {l : Line} (form : l.WellFormed) {s : Statement}
    (statement : s ∈ l.statements) {t : Token} (token : t ∈ s.content) :
    t.kind ≠ .colon ∧ t.kind ≠ .newline ∧ t.kind ≠ .endOfText := by
  have formed := form.statements s statement
  have valid := formed.tokens t token
  refine ⟨formed.inner t token, ?_, valid.lexical.kind_ne_endOfText⟩
  exact valid.lexical.kind_ne_newline valid.noFeed

/-- An open token is the last token of the last statement. -/
theorem WellFormed.isOpen_last {l : Line} (form : l.WellFormed) {i j : Nat} {s : Statement}
    {t : Token} (statement : l.statements[i]? = some s) (token : s.content[j]? = some t)
    (opened : t.isOpen = true) : i + 1 = l.statements.length ∧ j + 1 = s.content.length := by
  have formed := form.statements s (List.mem_of_getElem? statement)
  constructor
  · apply succ_eq_length_of_pairwise form.closed statement
    intro closed
    have shut := List.all_eq_true.1 closed t (List.mem_of_getElem? token)
    rw [opened] at shut
    cases shut
  · apply succ_eq_length_of_pairwise formed.closed token
    rw [opened]
    exact Bool.noConfusion

/-- A line keeps its form when statements are taken out. -/
theorem WellFormed.sublist {l : Line} (form : l.WellFormed) (number : UInt32)
    {statements : List Statement} (taken : statements.Sublist l.statements)
    (nonempty : statements ≠ []) : WellFormed ⟨number, statements⟩ :=
  ⟨nonempty, fun s member => form.statements s (taken.subset member), form.closed.sublist taken⟩

/-- A visit hands a line's form on to all lines it gives. -/
theorem WellFormed.visit {l : Line} (form : l.WellFormed) :
    l.visit.kept.WellFormed ∧ ∀ m ∈ l.visit.inserted, m.WellFormed := by
  obtain ⟨number, statements⟩ := l
  match statements, form with
  | [], form => exact absurd rfl form.nonempty
  | [first], form =>
    have stays : Line.visit ⟨number, [first]⟩ = ⟨⟨number, [first]⟩, []⟩ := by
      simp [Line.visit, visitFrom]
    rw [stays]
    exact ⟨form, by simp⟩
  | first :: second :: tail, form =>
    rw [Line.visit, visitFrom_cons_cons]
    split
    · next moved =>
      simp only [isSplitAt, Bool.and_eq_true, Bool.not_eq_true'] at moved
      refine ⟨form.sublist _ (List.filter_sublist.cons_cons first) (List.cons_ne_nil _ _), ?_⟩
      simp only [List.mem_singleton, forall_eq]
      refine form.sublist _ (List.filter_sublist.cons first) ?_
      simp [moved.1]
    · exact ⟨form, by simp⟩

end Line

namespace Program

/-- A program is read line by line. -/
theorem ofText_lines (source : Text) : (ofText source).lines =
    ((Text.unifyLineEndings source).splitOn '\n').filterMap Line.ofText? := by
  have body : (tokenize source).takeWhile (·.kind != .endOfText) =
      Text.tokens (Text.unifyLineEndings source) := by
    rw [tokenize_eq, List.takeWhile_append_of_pos, List.takeWhile_cons_of_neg (by decide),
      List.append_nil]
    intro t member
    simpa using (Text.lexical_of_mem_tokens member).kind_ne_endOfText
  unfold ofText ofTokens lineTokens
  dsimp only
  rw [body, Text.tokens_splitOnP, List.filterMap_map, List.map_filterMap]
  congr 1
  funext t
  unfold Line.ofText?
  cases scanned : Text.tokens t with
  | nil => simp [scanned]
  | cons first rest => simp [scanned]

/-- The lines of a program that was read have the form. -/
theorem wellFormed_ofText {source : Text} {l : Line} (member : l ∈ (ofText source).lines) :
    l.WellFormed := by
  rw [ofText_lines, List.mem_filterMap] at member
  obtain ⟨t, piece, found⟩ := member
  obtain ⟨noFeed, inside⟩ := Text.of_mem_splitOn piece
  exact Line.wellFormed_ofText? noFeed
    (fun here => Text.cr_not_mem_unifyLineEndings source (inside here)) found

end Program

end Listing

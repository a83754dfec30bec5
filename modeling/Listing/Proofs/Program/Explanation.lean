import Listing.Program.Explain
import Listing.Proofs.Program.Trimmed

/-!
# The form of explanations

What is said of a line starts and ends in a character that is not blank, and holds no line ending
and no quote. So an explanation is a remark like any other. Neither trimming a line nor adding the
explanation itself changes what there is to say about it. Since it is a remark, an explained line is
not explained again, and there is nothing more to be split than there was before.

Main statements: `exists_of_explanation?_eq_some`, the form of an explanation;
`explanation?_trimmed`, a line trimmed is explained as before; `isSome_explanation?`, which lines are
explained; and `explain_split`, by which splitting and explaining any program comes to an end.
-/

namespace Listing

namespace Text

/-! ## Comments -/

/-- Whether a text is free of line endings and quotes. -/
def isPlain (t : Text) : Bool := t.all (fun c => c != '\n' && c != '\r' && c != '"')

theorem isPlain_iff {t : Text} : t.isPlain = true ↔ ∀ c ∈ t, c ≠ '\n' ∧ c ≠ '\r' ∧ c ≠ '"' := by
  simp [isPlain, and_assoc]

theorem isPlain_append (s t : Text) : isPlain (s ++ t) = (s.isPlain && t.isPlain) :=
  List.all_append

/-- A plain text that makes up the comment of a remark as it is. -/
structure IsComment (t : Text) : Prop where
  starts : t.head?.any (!isBlank ·) = true
  ends : t.endsInBlank = false
  plain : t.isPlain = true

namespace IsComment

theorem exists_cons {t : Text} (comment : t.IsComment) :
    ∃ c cs, t = c :: cs ∧ isBlank c = false := by
  have starts := comment.starts
  cases t with
  | nil => cases starts
  | cons c cs => exact ⟨c, cs, rfl, by simpa using starts⟩

theorem ne_nil {t : Text} (comment : t.IsComment) : t ≠ [] := by
  obtain ⟨c, cs, rfl, -⟩ := comment.exists_cons
  exact List.cons_ne_nil c cs

theorem newline_not_mem {t : Text} (comment : t.IsComment) : '\n' ∉ t :=
  fun member => (isPlain_iff.1 comment.plain _ member).1 rfl

theorem return_not_mem {t : Text} (comment : t.IsComment) : '\r' ∉ t :=
  fun member => (isPlain_iff.1 comment.plain _ member).2.1 rfl

theorem dropWhile_eq {t : Text} (comment : t.IsComment) : t.dropWhile isBlank = t := by
  obtain ⟨c, cs, rfl, solid⟩ := comment.exists_cons
  rw [List.dropWhile_cons_of_neg (by simp [solid])]

theorem trimBlanks_eq {t : Text} (comment : t.IsComment) : trimBlanks t = t := by
  unfold trimBlanks trim
  rw [comment.dropWhile_eq]
  exact trimBlankEnd_eq_self_iff.2 comment.ends

/-- A comment stands in the value of its remark as it is. -/
theorem remarkValue_eq {t : Text} (comment : t.IsComment) :
    Lexeme.remarkValue t = "rem ".toList ++ t := by
  rw [Lexeme.remarkValue_eq, comment.trimBlanks_eq, if_neg comment.ne_nil]

/-- Two comments with plain text between them make up a comment. -/
theorem append {s m t : Text} (first : s.IsComment) (middle : m.isPlain = true)
    (second : t.IsComment) : (s ++ (m ++ t)).IsComment := by
  refine ⟨?_, ?_, ?_⟩
  · obtain ⟨c, cs, rfl, solid⟩ := first.exists_cons
    simp [solid]
  · rw [← List.append_assoc, endsInBlank_append second.ne_nil]
    exact second.ends
  · rw [isPlain_append, isPlain_append, first.plain, middle, second.plain]
    rfl

theorem intercalate {texts : List Text} (nonempty : texts ≠ [])
    (each : ∀ t ∈ texts, t.IsComment) : IsComment ("; ".toList.intercalate texts) := by
  induction texts with
  | nil => exact absurd rfl nonempty
  | cons t texts ih =>
    rw [List.forall_mem_cons] at each
    by_cases last : texts = []
    · rw [last, List.intercalate_singleton]
      exact each.1
    · rw [List.intercalate_cons_of_ne_nil last, List.append_assoc]
      exact each.1.append rfl (ih last each.2)

end IsComment

end Text

theorem Text.isComment_of_digits {digits : Text} (nonempty : digits ≠ [])
    (digital : ∀ c ∈ digits, c.isDigit = true) : digits.IsComment := by
  refine ⟨?_, ?_, ?_⟩
  · obtain ⟨c, cs, rfl⟩ := List.exists_cons_of_ne_nil nonempty
    simpa using isBlank_of_isDigit (digital c (by simp))
  · exact endsInBlank_eq_false_of_forall fun c member => isBlank_of_isDigit (digital c member)
  · rw [isPlain_iff]
    intro c member
    have digit := digital c member
    refine ⟨?_, ?_, ?_⟩
    all_goals
      rintro rfl
      cases digit

/-- A number as it stands in a listing is a comment. -/
theorem Token.Lexical.isComment_of_digit {t : Token} (lexical : t.Lexical)
    (digit : t.kind = .digit) : t.value.IsComment := by
  cases lexical with
  | whole digits nonempty digital => exact Text.isComment_of_digits nonempty digital
  | decimal digits places nonempty digital digitalPlaces =>
    have whole := Text.isComment_of_digits nonempty digital
    by_cases last : places = []
    · subst last
      exact whole.append (m := []) rfl ⟨rfl, rfl, rfl⟩
    · exact whole.append (m := ['.']) rfl (Text.isComment_of_digits last digitalPlaces)
  | _ => cases digit

theorem Keyword.isComment_of_description? {k : Keyword} {description : String}
    (found : k.description? = some description) : Text.IsComment description.toList := by
  have table : ∀ k ∈ Keyword.all, k.description?.all (fun d =>
      d.toList.head?.any (!Text.isBlank ·) && !Text.endsInBlank d.toList &&
        Text.isPlain d.toList) = true := by
    decide +kernel
  have checked := table k k.mem_all
  rw [found, Option.all_some, Bool.and_eq_true, Bool.and_eq_true, Bool.not_eq_true'] at checked
  exact ⟨checked.1.1, checked.1.2, checked.2⟩

theorem Text.IsComment.onLine {comment : Text} (valid : comment.IsComment) :
    Token.OnLine ⟨.keyword, Lexeme.remarkValue comment⟩ := by
  have lexical : Token.Lexical ⟨.keyword, Lexeme.remarkValue comment⟩ :=
    .remark comment valid.trimBlanks_eq valid.newline_not_mem
  refine ⟨lexical, ?_, ?_⟩
  · rw [valid.remarkValue_eq]
    exact List.not_mem_append (by decide) valid.newline_not_mem
  · rw [valid.remarkValue_eq]
    exact List.not_mem_append (by decide) valid.return_not_mem

namespace Statement

/-! ## Statements -/

/-- A comment makes up a remark. -/
theorem wellFormed_remark {comment : Text} (valid : comment.IsComment) :
    WellFormed ⟨[⟨.keyword, Lexeme.remarkValue comment⟩]⟩ := by
  refine ⟨?_, ?_, List.pairwise_singleton _ _⟩
  · rw [List.forall_mem_singleton]
    exact valid.onLine
  · rw [List.forall_mem_singleton]
    simp

theorem isRemark_remarkValue (comment : Text) :
    isRemark ⟨[⟨.keyword, Lexeme.remarkValue comment⟩]⟩ = true := by
  simpa [isRemark, first?] using Lexeme.isRemark_remarkValue comment

theorem WellFormed.isClosed_of_getLast? {s : Statement} (form : s.WellFormed)
    (closed : s.content.getLast?.any Token.isOpen = false) : s.isClosed = true := by
  obtain ⟨content⟩ := s
  rcases List.eq_nil_or_concat' content with rfl | ⟨front, last, rfl⟩
  · rfl
  · have before := forall_of_pairwise_concat form.closed
    have final : last.isOpen = false := by simpa using closed
    unfold isClosed
    rw [List.all_eq_true, List.forall_mem_append, List.forall_mem_singleton]
    refine ⟨?_, by rw [final]; rfl⟩
    intro t member
    rw [before t member]
    rfl

/-- What is said of a statement is a comment. -/
theorem WellFormed.isComment_of_description? {s : Statement} (form : s.WellFormed)
    {description : Text} (found : s.description? = some description) : description.IsComment := by
  obtain ⟨content⟩ := s
  cases content with
  | nil => cases found
  | cons first behind =>
    unfold description? at found
    dsimp only at found
    split_ifs at found
    obtain ⟨k, -, said⟩ := Option.bind_eq_some_iff.1 found
    obtain ⟨d, known, rfl⟩ := Option.map_eq_some_iff.1 said
    have comment := Keyword.isComment_of_description? known
    cases behind with
    | nil => simpa [Keyword.target] using comment
    | cons t tokens =>
      rw [Keyword.target]
      split_ifs with line
      · rw [Bool.and_eq_true, beq_iff_eq] at line
        have number := (form.tokens t (by simp)).lexical.isComment_of_digit line.2
        exact comment.append rfl number
      · simpa using comment

/-- Whether a statement opens with a keyword that has a description. -/
def isDescribed (s : Statement) : Bool :=
  s.first?.any fun t =>
    t.kind == .keyword && (Keyword.ofWord? t.value).any (·.description?.isSome)

theorem isSome_description? (s : Statement) : s.description?.isSome = s.isDescribed := by
  obtain ⟨content⟩ := s
  cases content with
  | nil => rfl
  | cons first behind =>
    unfold description? isDescribed first?
    by_cases keyword : first.kind = .keyword
    · cases word : Keyword.ofWord? first.value with
      | none => simp [keyword, word]
      | some k => simp [keyword, word]
    · simp [keyword]

theorem description?_of_kind_ne {first : Token} (kind : first.kind ≠ .keyword)
    (behind : List Token) : description? ⟨first :: behind⟩ = none :=
  if_neg kind

/-- The line to go to is not lost by trimming. -/
theorem target_trimTokens {tokens : List Token} (valid : ∀ t ∈ tokens, t.OnLine) (k : Keyword) :
    k.target (trimTokens tokens) = k.target tokens := by
  cases tokens with
  | nil => rfl
  | cons t tokens =>
    rcases trimTokens_cons (valid t (by simp)) tokens with stays | ⟨kind, gone | cut⟩
    · rw [stays]
      rfl
    · rw [gone]
      rcases kind with symbol | string <;> simp [Keyword.target, *]
    · rw [cut]
      rcases kind with symbol | string <;> simp [Keyword.target, Token.trimmed, *]

/-- Trimming does not change what is said of a statement. -/
theorem WellFormed.description?_trimmed {s : Statement} (form : s.WellFormed) :
    s.trimmed.description? = s.description? := by
  obtain ⟨content⟩ := s
  cases content with
  | nil => rfl
  | cons first behind =>
    have valid := List.forall_mem_cons.1 form.tokens
    unfold Statement.trimmed
    rcases trimTokens_cons valid.1 behind with stays | ⟨kind, alone⟩
    · rw [stays]
      simp only [description?, target_trimTokens valid.2]
    · have other : first.kind ≠ .keyword := by
        rcases kind with symbol | string <;> simp [*]
      rw [description?_of_kind_ne other]
      rcases alone with gone | cut
      · rw [gone]
        rfl
      · have otherCut : first.trimmed.kind ≠ .keyword := other
        rw [cut, description?_of_kind_ne otherCut]

end Statement

namespace Line

/-! ## Lines -/

/-- An explanation is a remark with a comment. -/
theorem WellFormed.exists_of_explanation?_eq_some {l : Line} (form : l.WellFormed) {e : Statement}
    (found : l.explanation? = some e) :
    ∃ comment : Text, comment.IsComment ∧ e = ⟨[⟨.keyword, Lexeme.remarkValue comment⟩]⟩ := by
  unfold explanation? at found
  split_ifs at found
  split at found
  · cases found
  · next nonempty =>
    have each : ∀ d ∈ l.statements.filterMap Statement.description?, d.IsComment := by
      intro d member
      obtain ⟨s, inside, said⟩ := List.mem_filterMap.1 member
      exact (form.statements s inside).isComment_of_description? said
    have comment := Text.IsComment.intercalate nonempty each
    refine ⟨_, comment, ?_⟩
    rw [comment.remarkValue_eq]
    exact (Option.some.inj found).symm

theorem hasRemark_eq_false_of_explanation? {l : Line} (explained : l.explanation?.isSome = true) :
    l.hasRemark = false := by
  cases remark : l.hasRemark with
  | false => rfl
  | true =>
    rw [explanation?, if_pos remark] at explained
    cases explained

/-- The last statement counts for an explanation only as a remark and by what is said of it. -/
theorem explanation?_concat_congr (number : UInt32) (init : List Statement) {s t : Statement}
    (remark : s.isRemark = t.isRemark) (said : s.description? = t.description?) :
    explanation? ⟨number, init ++ [s]⟩ = explanation? ⟨number, init ++ [t]⟩ := by
  have marked : hasRemark ⟨number, init ++ [s]⟩ = hasRemark ⟨number, init ++ [t]⟩ := by
    simp [hasRemark, remark]
  have texts : (init ++ [s]).filterMap Statement.description? =
      (init ++ [t]).filterMap Statement.description? := by
    rw [List.filterMap_append, List.filterMap_append, List.filterMap_cons, List.filterMap_cons,
      said]
  unfold explanation?
  rw [marked, texts]

/-- Trimming does not change the explanation of a line. -/
theorem WellFormed.explanation?_trimmed {l : Line} (form : l.WellFormed) :
    l.trimmed.explanation? = l.explanation? := by
  obtain ⟨init, last, same⟩ := form.exists_concat
  rw [same] at form ⊢
  have final := (wellFormed_concat_iff.1 form).2
  rw [trimmed_concat]
  exact explanation?_concat_congr _ _ final.isRemark_trimmed final.description?_trimmed

theorem explain_of_none {l : Line} (found : l.explanation? = none) : l.explain = l := by
  unfold explain
  rw [found, Option.toList_none, List.append_nil]

theorem explain_of_some {l : Line} {e : Statement} (found : l.explanation? = some e) :
    l.explain = ⟨l.number, l.statements ++ [e]⟩ := by
  unfold explain
  rw [found, Option.toList_some]

theorem isRemark_of_explanation? {l : Line} {e : Statement} (found : l.explanation? = some e) :
    e.isRemark = true := by
  unfold explanation? at found
  split_ifs at found
  split at found
  · cases found
  · cases found
    rfl

/-- A line that was explained is not explained again. -/
theorem explanation?_explain (l : Line) : l.explain.explanation? = none := by
  cases found : l.explanation? with
  | none => rw [explain_of_none found, found]
  | some e =>
    rw [explain_of_some found, explanation?, if_pos]
    simp [hasRemark, isRemark_of_explanation? found]

/-- A line is left alone by a visit before and after it is explained. -/
theorem isWhole_explain {l : Line} (whole : l.isWhole = true) : l.explain.isWhole = true := by
  cases found : l.explanation? with
  | none => rwa [explain_of_none found]
  | some e =>
    rw [explain_of_some found]
    obtain ⟨number, statements⟩ := l
    match statements, whole with
    | [], _ => rfl
    | [first], _ => simp [isWhole, isSplitAt, isRemark_of_explanation? found]
    | first :: second :: tail, whole => exact whole

/-- The lines that are explained: those without a remark that have a statement to say something
    about. -/
theorem isSome_explanation? (l : Line) :
    l.explanation?.isSome = (!l.hasRemark && l.statements.any Statement.isDescribed) := by
  have silent : l.statements.filterMap Statement.description? = [] ↔
      l.statements.any Statement.isDescribed = false := by
    rw [List.filterMap_eq_nil_iff, List.any_eq_false]
    apply forall₂_congr
    intro s _
    rw [← Statement.isSome_description?, Bool.not_eq_true, Option.isSome_eq_false_iff,
      Option.isNone_iff_eq_none]
  unfold explanation?
  cases l.hasRemark with
  | true => rfl
  | false =>
    rw [if_neg (by decide), Bool.not_false, Bool.true_and]
    split
    · next nothing =>
      rw [silent.1 nothing]
      rfl
    · next something =>
      rw [Option.isSome_some]
      exact (Bool.eq_true_of_not_eq_false fun none => something (silent.2 none)).symm

/-- Whether the last token of a line is open. -/
def endsOpen (l : Line) : Bool := l.lastToken?.any Token.isOpen

/-- A line that does not end in an open token keeps its form when it is explained. -/
theorem WellFormed.explain {l : Line} (form : l.WellFormed) (closed : l.endsOpen = false) :
    l.explain.WellFormed := by
  cases found : l.explanation? with
  | none => rwa [explain_of_none found]
  | some e =>
    obtain ⟨comment, valid, rfl⟩ := form.exists_of_explanation?_eq_some found
    obtain ⟨init, last, same⟩ := form.exists_concat
    rw [explain_of_some found]
    rw [same] at form ⊢
    rw [same, endsOpen, lastToken?_concat] at closed
    obtain ⟨before, final⟩ := wellFormed_concat_iff.1 form
    refine wellFormed_concat_iff.2 ⟨?_, Statement.wellFormed_remark valid⟩
    rw [List.forall_mem_append, List.forall_mem_singleton]
    exact ⟨before, final, final.isClosed_of_getLast? closed⟩

end Line

namespace Program

/-! ## Programs -/

/-- Splitting and explaining a program comes to an end at once. Each line of the split program keeps
    its number and its statements, and one remark is put behind them exactly if there is none yet and
    one of the statements opens with a keyword that has a description. Neither splitting nor
    explaining changes anything after that. -/
theorem explain_split (p : Program) :
    let q := p.split.explain
    List.Forall₂ (fun l m => m.number = l.number ∧
      if !l.hasRemark && l.statements.any Statement.isDescribed then
        ∃ e : Statement, e.isRemark = true ∧ m.statements = l.statements ++ [e]
      else m.statements = l.statements) p.split.lines q.lines ∧
    q.split = q ∧ q.explain = q := by
  intro q
  refine ⟨?_, ?_, ?_⟩
  · change List.Forall₂ _ p.split.lines (p.split.lines.map Line.explain)
    rw [List.forall₂_map_right_iff, List.forall₂_same]
    intro l _
    refine ⟨rfl, ?_⟩
    rw [← l.isSome_explanation?]
    cases found : l.explanation? with
    | none => exact congrArg Line.statements (Line.explain_of_none found)
    | some e =>
      exact ⟨e, Line.isRemark_of_explanation? found,
        congrArg Line.statements (Line.explain_of_some found)⟩
  · apply split_of_isWhole
    change ∀ m ∈ p.split.lines.map Line.explain, m.isWhole = true
    rw [List.forall_mem_map]
    intro l member
    exact Line.isWhole_explain (isWhole_of_mem_splitStep (p := p) member)
  · change (⟨(p.split.lines.map Line.explain).map Line.explain⟩ : Program) =
      ⟨p.split.lines.map Line.explain⟩
    rw [List.map_map]
    congr 2
    funext l
    exact Line.explain_of_none l.explanation?_explain

end Program

end Listing

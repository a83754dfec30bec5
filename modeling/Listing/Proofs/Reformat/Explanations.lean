import Listing.Proofs.Program.OpenEnd
import Listing.Proofs.Reformat.Idempotence

/-!
# Explaining twice

A listing with explanations is read line by line. A line without an explanation is read trimmed, and
an explained line is read back as it is, the explanation being a remark of its own. The exception
are explained lines that end in an open token: this token takes the explanation in. Then the line
has no remark of its own and is explained a second time.

Main statement: `reformat_explained_eq_iff`, which says when reformatting a listing with
explanations changes it, and which explanations are read back.
-/

namespace Listing

namespace Line

/-- What is read from the text of a line that was explained. -/
def reread (l : Line) : Line :=
  match l.explanation? with
  | none => l.trimmed
  | some e => if l.endsOpen then l.extended (':' :: e.render .default) else l.explain

/-- The three ways in which a line is read back. -/
theorem WellFormed.reread_cases {l : Line} (form : l.WellFormed) :
    (l.explanation? = none ∧ l.reread = l.trimmed) ∨
      (l.explanation?.isSome = true ∧ l.endsOpen = false ∧ l.reread = l.explain) ∨
      ∃ comment : Text, comment.IsComment ∧ l.endsOpen = true ∧
        l.explanation? = some ⟨[⟨.keyword, Lexeme.remarkValue comment⟩]⟩ ∧
        l.reread = l.extended (':' :: Lexeme.remarkValue comment) := by
  unfold reread
  cases found : l.explanation? with
  | none => exact Or.inl ⟨rfl, rfl⟩
  | some e =>
    obtain ⟨comment, valid, rfl⟩ := form.exists_of_explanation?_eq_some found
    cases opened : l.endsOpen with
    | false => exact Or.inr (Or.inl ⟨rfl, rfl, by simp⟩)
    | true =>
      refine Or.inr (Or.inr ⟨comment, valid, rfl, rfl, ?_⟩)
      simp only [if_true, Statement.render_remarkValue]

/-- An explained line does not end in a blank. -/
theorem WellFormed.trimmed_explain {l : Line} (form : l.WellFormed) (closed : l.endsOpen = false)
    (explained : l.explanation?.isSome = true) : l.explain.trimmed = l.explain := by
  obtain ⟨e, found⟩ := Option.isSome_iff_exists.1 explained
  obtain ⟨comment, valid, rfl⟩ := form.exists_of_explanation?_eq_some found
  rw [(form.explain closed).trimmed_eq_self_iff, explain_of_some found,
    lastToken?_concat]
  simpa using Token.endsInBlank_remarkValue valid.trimBlanks_eq

/-- What is read from the text of an explained line. -/
theorem WellFormed.ofText?_render_explain {l : Line} (form : l.WellFormed) :
    ofText? (l.explain.render .default) = some l.reread := by
  rcases form.reread_cases with ⟨silent, same⟩ | ⟨explained, closed, same⟩ |
    ⟨comment, valid, opened, found, same⟩
  · rw [explain_of_none silent, same]
    exact form.ofText?_render RenderOptions.separator_default
  · rw [(form.explain closed).ofText?_render RenderOptions.separator_default, same,
      form.trimmed_explain closed explained]
  · rw [same]
    exact form.ofText?_render_explain_of_endsOpen opened valid found

theorem WellFormed.reread {l : Line} (form : l.WellFormed) : l.reread.WellFormed := by
  rcases form.reread_cases with ⟨-, same⟩ | ⟨-, closed, same⟩ | ⟨comment, valid, opened, -, same⟩
  · rw [same]
    exact form.trimmed
  · rw [same]
    exact form.explain closed
  · rw [same]
    exact (form.extended opened (isComment_colon_remarkValue valid)).1

theorem WellFormed.isWhole_reread {l : Line} (form : l.WellFormed) (whole : l.isWhole = true) :
    l.reread.isWhole = true := by
  rcases form.reread_cases with ⟨-, same⟩ | ⟨-, -, same⟩ | ⟨comment, valid, opened, -, same⟩
  · rw [same, form.isWhole_trimmed, whole]
  · rw [same]
    exact isWhole_explain whole
  · rw [same, form.isWhole_extended opened (isComment_colon_remarkValue valid), whole]

/-- A line that is read back and explained again is written as before, unless it was explained
    behind an open token. -/
theorem WellFormed.render_explain_reread_iff {l : Line} (form : l.WellFormed) :
    l.reread.explain.render .default = l.explain.render .default ↔
      (l.explanation?.isSome = true → l.endsOpen = false) := by
  rcases form.reread_cases with ⟨silent, same⟩ | ⟨-, closed, same⟩ |
    ⟨comment, valid, opened, found, same⟩
  · have still : l.trimmed.explanation? = none := form.explanation?_trimmed.trans silent
    rw [same, explain_of_none still, explain_of_none silent, form.render_trimmed, silent]
    simp
  · rw [same, explain_of_none l.explanation?_explain, closed]
    simp
  · have more := isComment_colon_remarkValue valid
    have explained : l.explanation?.isSome = true := by rw [found]; rfl
    have again := form.explanation?_extended opened more explained
    obtain ⟨formed, still⟩ := form.extended opened more
    have first := form.ofText?_render_explain_of_endsOpen opened valid found
    have second := formed.ofText?_render_explain_of_endsOpen still valid (again.trans found)
    rw [same, opened, explained]
    constructor
    · -- the same text would be read as two lines, one of them longer
      intro equal
      rw [equal, first] at second
      exact absurd (Option.some.inj second).symm (formed.extended_ne still more)
    · intro closed
      exact absurd (closed rfl) (by simp)

/-- The explanation of a line is read back as a remark of its own, unless the line ends in an open
    token. -/
theorem WellFormed.reread_eq_explain_iff {l : Line} (form : l.WellFormed)
    (explained : l.explanation?.isSome = true) : l.reread = l.explain ↔ l.endsOpen = false := by
  rcases form.reread_cases with ⟨silent, -⟩ | ⟨-, closed, same⟩ |
    ⟨comment, valid, opened, found, same⟩
  · rw [silent] at explained
    cases explained
  · rw [same, closed]
    simp
  · obtain ⟨init, front, last, shape, -⟩ := form.exists_of_endsOpen opened
    rw [same, explain_of_some found, opened, shape, extended_concat]
    simp

end Line

namespace Program

/-- The tokens of an explained line stand on a line. -/
theorem onLine_explain {l : Line} (form : l.WellFormed) :
    ∀ s ∈ l.explain.statements, ∀ t ∈ s.content, t.OnLine := by
  cases found : l.explanation? with
  | none =>
    rw [Line.explain_of_none found]
    exact form.onLine
  | some e =>
    obtain ⟨comment, valid, rfl⟩ := form.exists_of_explanation?_eq_some found
    rw [Line.explain_of_some found, List.forall_mem_append, List.forall_mem_singleton]
    exact ⟨form.onLine, (Statement.wellFormed_remark valid).tokens⟩

/-- What is read from a listing with explanations. -/
theorem ofText_render_explain {lines : List Line} (form : ∀ l ∈ lines, l.WellFormed) :
    ofText (render .default ⟨lines.map Line.explain⟩) = ⟨lines.map Line.reread⟩ := by
  exact ofText_render_map RenderOptions.separator_default
    (fun l member => onLine_explain (form l member))
    fun l member => (form l member).ofText?_render_explain

/-- Explaining what was read gives the same listing exactly if no line was explained behind an open
    token. -/
theorem render_explain_map_reread_iff {lines : List Line} (form : ∀ l ∈ lines, l.WellFormed) :
    render .default ⟨(lines.map Line.reread).map Line.explain⟩ =
        render .default ⟨lines.map Line.explain⟩ ↔
      ∀ l ∈ lines, l.explanation?.isSome = true → l.endsOpen = false := by
  rw [List.map_map, render_map_eq_iff]
  · apply forall₂_congr
    intro l member
    exact (form l member).render_explain_reread_iff
  · exact fun l member => Line.newline_not_mem_render RenderOptions.separator_default
      (onLine_explain (form l member).reread)
  · exact fun l member => Line.newline_not_mem_render RenderOptions.separator_default
      (onLine_explain (form l member))

end Program

/-- Reformatting a listing with explanations gives the same listing exactly if no line that is
    explained ends in an open token, and the explanation of a line is read back as a remark of its
    own exactly if this line does not end in an open token. -/
theorem reformat_explained_eq_iff (source : Text) (splitting : Bool) :
    let program := ((Program.ofText source).splitStep splitting).result
    let run := fun text => ((Registry.standard .default).reformat ⟨splitting, true⟩
      "basic".toList text).result
    ∃ once twice, run source = .ok once ∧ run once = .ok twice ∧
      (twice = once ↔
        ∀ l ∈ program.lines, l.explanation?.isSome = true → l.endsOpen = false) ∧
      ∀ (i : Nat) (l : Line), program.lines[i]? = some l → l.explanation?.isSome = true →
        ((Program.ofText once).lines[i]? = some l.explain ↔ l.endsOpen = false) := by
  intro program run
  have form : ∀ l ∈ program.lines, l.WellFormed := fun l member =>
    Program.wellFormed_splitStep member
  have runs : ∀ text, run text =
      .ok ((((Program.ofText text).splitStep splitting).result.explain).render .default) :=
    fun text => Registry.reformat_basic_result _ splitting true text
  have read : Program.ofText (program.explain.render .default) =
      ⟨program.lines.map Line.reread⟩ := Program.ofText_render_explain form
  refine ⟨_, _, runs source, runs _, ?_, ?_⟩
  · rw [read, Program.splitStep_map fun _ valid whole => valid.isWhole_reread whole]
    exact Program.render_explain_map_reread_iff form
  · intro i l here explained
    have valid := form l (List.mem_of_getElem? here)
    rw [read, List.getElem?_map, here, Option.map_some, Option.some.injEq]
    exact valid.reread_eq_explain_iff explained

/-- A string without a closing quote takes the explanation in, and so does a remark that does not open
    its statement. In both cases a second explanation is added. -/
theorem reformat_explained_open :
    let run := fun text => ((Registry.standard .default).reformat ⟨false, true⟩
      "basic".toList text).result
    (run "10 print \"hi".toList = .ok "10 print \"hi:rem print to screen\n".toList ∧
      run "10 print \"hi:rem print to screen\n".toList =
        .ok "10 print \"hi:rem print to screen:rem print to screen\n".toList) ∧
    run "10 print rem foo".toList = .ok "10 print rem foo:rem print to screen\n".toList ∧
      run "10 print rem foo:rem print to screen\n".toList =
        .ok "10 print rem foo:rem print to screen:rem print to screen\n".toList := by
  intro run
  have runs : ∀ text, run text =
      .ok ((((Program.ofText text).splitStep false).result.explain).render .default) :=
    fun text => Registry.reformat_basic_result _ false true text
  rw [runs, runs, runs, runs]
  refine ⟨⟨congrArg Except.ok ?_, congrArg Except.ok ?_⟩, congrArg Except.ok ?_,
    congrArg Except.ok ?_⟩
  all_goals decide +kernel

end Listing

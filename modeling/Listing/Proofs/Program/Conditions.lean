import Listing.Proofs.Program.Conservation
import Listing.Proofs.Program.Splitting

/-!
# What stays behind an `if`

Splitting looks for `if` at the start of a statement alone. From the first statement of a line that
opens with `if` all code stays together; each statement in front of it gets a line of its own, even
if the word stands further on in it, say behind a tab or behind digits that are no line number. In a
program that was read this is all there is to say about where code goes, since a remark has nothing
behind it on its line.

Main statements: `clauses_split_ofText`, the code behind the statements of a split program;
`getElem?_clauses_split`, the code behind one of them; and `clauses_split_of_if`, the code behind a
statement with an `if` in it.
-/

namespace Listing

/-- The word `if` is no comment. -/
theorem Token.isRemark_eq_false_of_isKeyword {t : Token} (test : t.isKeyword "if".toList = true) :
    t.isRemark = false := by
  rw [isKeyword, Bool.and_eq_true, beq_iff_eq, beq_iff_eq] at test
  rw [isRemark, test.2]
  exact Bool.and_false _

namespace Statement

theorem code_append (statements others : List Statement) :
    code (statements ++ others) = code statements ++ code others :=
  List.filter_append statements others

theorem code_cons {s : Statement} (other : s.isRemark = false) (rest : List Statement) :
    code (s :: rest) = s :: code rest := by
  simp [code, other]

theorem code_singleton_of_isRemark {s : Statement} (remark : s.isRemark = true) :
    code [s] = [] := by
  simp [code, remark]

/-- Each of the statements with those that stay behind it: all that follow, if it opens with `if` or
    stands behind one that does, and none otherwise. -/
def held (guarded : Bool) : List Statement → List Clause
  | [] => []
  | s :: rest => ⟨s, if guarded || s.isIf then rest else []⟩ :: held (guarded || s.isIf) rest

theorem held_true (statements : List Statement) : held true statements = clauses statements := by
  induction statements with
  | nil => rfl
  | cons s rest ih => simp [held, clauses, ih]

theorem length_held (guarded : Bool) (statements : List Statement) :
    (held guarded statements).length = statements.length := by
  induction statements generalizing guarded with
  | nil => rfl
  | cons s rest ih => simp [held, ih]

/-- Of the statements in front it counts only whether one of them opens with `if`. -/
theorem getElem?_held (guarded : Bool) (before : List Statement) (s : Statement)
    (behind : List Statement) : (held guarded (before ++ s :: behind))[before.length]? =
      some ⟨s, if guarded || (before ++ [s]).any isIf then behind else []⟩ := by
  induction before generalizing guarded with
  | nil => simp [held]
  | cons first before ih =>
    rw [List.cons_append, held, List.length_cons, List.getElem?_cons_succ, ih, List.cons_append,
      List.any_cons, Bool.or_assoc]

/-- One statement has nothing behind it. -/
theorem held_code_singleton (s : Statement) : held false (code [s]) = clauses (code [s]) := by
  cases remark : s.isRemark with
  | true =>
    rw [code_singleton_of_isRemark remark]
    rfl
  | false =>
    rw [code_cons remark]
    simp [code, held, clauses]

/-- Cutting a line behind a statement that does not open with `if` changes nothing. -/
theorem stable_held : Stable fun statements => held false (code statements) := by
  refine stable_comp_code (held false) rfl ?_
  intro first rest unguarded
  simp [held, unguarded]

/-- A remark starts with its comment. -/
theorem exists_of_isRemark {s : Statement} (remark : s.isRemark = true) :
    ∃ t rest, s.content = t :: rest ∧ t.isRemark = true := by
  obtain ⟨content⟩ := s
  cases content with
  | nil => cases remark
  | cons t rest => exact ⟨t, rest, rfl, remark⟩

theorem isRemark_eq_false_of_isIf {s : Statement} (opens : s.isIf = true) : s.isRemark = false := by
  obtain ⟨content⟩ := s
  cases content with
  | nil => cases opens
  | cons t rest => exact Token.isRemark_eq_false_of_isKeyword opens

theorem any_isIf_code (statements : List Statement) :
    (code statements).any isIf = statements.any isIf := by
  have counted (s : Statement) : (!s.isRemark && s.isIf) = s.isIf := by
    cases opens : s.isIf with
    | false => exact Bool.and_false _
    | true => rw [isRemark_eq_false_of_isIf opens]; rfl
  rw [code, List.any_filter]
  simp only [counted]

/-- No remark has an `if` in it: the word is not one, and nothing follows a comment. -/
theorem WellFormed.isRemark_eq_false {s : Statement} (form : s.WellFormed) {t : Token}
    (inside : t ∈ s.content) (test : t.isKeyword "if".toList = true) : s.isRemark = false := by
  rw [Bool.eq_false_iff]
  intro remark
  obtain ⟨first, rest, content, comment⟩ := exists_of_isRemark remark
  have opened : first.isOpen = true := by
    rw [Token.isOpen, comment, Bool.true_or]
  rw [content, List.mem_cons] at inside
  rcases inside with rfl | behind
  · rw [Token.isRemark_eq_false_of_isKeyword test] at comment
    cases comment
  · have closed := form.closed
    rw [content, List.pairwise_cons] at closed
    rw [closed.1 t behind] at opened
    cases opened

end Statement

namespace Line

/-- A remark is the last statement of its line. -/
theorem WellFormed.isRemark_last {l : Line} (form : l.WellFormed) {i : Nat} {s : Statement}
    (statement : l.statements[i]? = some s) (remark : s.isRemark = true) :
    i + 1 = l.statements.length := by
  obtain ⟨t, rest, content, comment⟩ := Statement.exists_of_isRemark remark
  have first : s.content[0]? = some t := by
    rw [content, List.getElem?_cons_zero]
  have opened : t.isOpen = true := by
    rw [Token.isOpen, comment, Bool.true_or]
  exact (form.isOpen_last statement first opened).1

/-- Where a visit has nothing to move, all code stays behind what it follows. -/
theorem WellFormed.held_of_isWhole {l : Line} (form : l.WellFormed) (whole : l.isWhole = true) :
    Statement.held false (Statement.code l.statements) =
      Statement.clauses (Statement.code l.statements) := by
  obtain ⟨number, statements⟩ := l
  match statements with
  | [] => rfl
  | [first] => exact Statement.held_code_singleton first
  | first :: second :: tail =>
    cases remark : second.isRemark with
    | true =>
      have length := form.isRemark_last (i := 1) rfl remark
      have last : tail = [] := by
        simpa using length
      have kept : Statement.code [first, second] = Statement.code [first] := by
        rw [← List.singleton_append, Statement.code_append,
          Statement.code_singleton_of_isRemark remark, List.append_nil]
      subst last
      rw [kept]
      exact Statement.held_code_singleton first
    | false =>
      have opens : first.isIf = true := by
        simpa [isWhole, isSplitAt, remark] using whole
      rw [Statement.code_cons (Statement.isRemark_eq_false_of_isIf opens), Statement.held, opens,
        Bool.or_true, Statement.held_true]
      rfl

end Line

namespace Program

open Statement (held length_held getElem?_held code_append code_cons any_isIf_code)

/-- In a split program the code behind a statement is what an `if` holds there. -/
theorem clauses_split_ofText (source : Text) : (ofText source).split.clauses =
    (ofText source).lines.flatMap fun l => held false (Statement.code l.statements) := by
  rw [← flatMap_split Statement.stable_held]
  apply List.flatMap_congr
  intro l member
  have split : l ∈ ((ofText source).splitStep true).result.lines := member
  exact ((wellFormed_splitStep split).held_of_isWhole (isWhole_of_mem_splitStep split)).symm

/-- What stays behind a statement of the code on a line that was read. -/
theorem getElem?_clauses_split (source : Text) {front back : List Line} {l : Line}
    (lines : (ofText source).lines = front ++ l :: back) {before behind : List Statement}
    {s : Statement} (statements : l.statements = before ++ s :: behind)
    (other : s.isRemark = false) :
    (ofText source).split.clauses[(code ⟨front⟩ ++ Statement.code before).length]? =
      some ⟨s, if (before ++ [s]).any Statement.isIf then Statement.code behind else []⟩ := by
  have width : (front.flatMap fun l => held false (Statement.code l.statements)).length =
      (code ⟨front⟩).length := by
    rw [code, List.length_flatMap, List.length_flatMap]
    simp only [length_held]
  have here : (Statement.code before).length <
      (held false (Statement.code before ++ s :: Statement.code behind)).length := by
    rw [length_held, List.length_append, List.length_cons]
    omega
  rw [clauses_split_ofText, lines, List.flatMap_append, List.flatMap_cons, List.length_append,
    ← width, List.getElem?_append_right (Nat.le_add_right _ _), Nat.add_sub_cancel_left, statements,
    code_append, code_cons other, List.getElem?_append_left here, getElem?_held, Bool.false_or,
    List.any_append, List.any_append, any_isIf_code]

/-- Let a statement with an `if` anywhere in it stand on a line of a source text. When lines are
    split, the code that follows it on its line stays there exactly if this statement or one in front
    of it on the line opens with `if`. Otherwise nothing stays. Splitting keeps the order of the code,
    so that a statement is found again by the number of those in front of it. -/
theorem clauses_split_of_if (source : Text) {front back : List Line} {l : Line}
    (lines : (ofText source).lines = front ++ l :: back) {before behind : List Statement}
    {s : Statement} (statements : l.statements = before ++ s :: behind) {t : Token}
    (inside : t ∈ s.content) (test : t.isKeyword "if".toList = true) :
    (ofText source).split.clauses[(code ⟨front⟩ ++ Statement.code before).length]? =
      some ⟨s, if (before ++ [s]).any Statement.isIf then Statement.code behind else []⟩ := by
  have read : l ∈ (ofText source).lines := by
    rw [lines]
    exact List.mem_append_right _ List.mem_cons_self
  have part : s ∈ l.statements := by
    rw [statements]
    exact List.mem_append_right _ List.mem_cons_self
  have form := (wellFormed_ofText read).statements s part
  exact getElem?_clauses_split source lines statements (form.isRemark_eq_false inside test)

/-- Behind a statement that opens with `if` another `if` keeps its code, wherever it stands. -/
theorem clauses_split_of_if_nested :
    let source := "10 print:if a then b:\tif c:d".toList
    let print : Statement := ⟨[⟨.keyword, "print".toList⟩]⟩
    let outer : Statement :=
      ⟨[⟨.keyword, "if".toList⟩, ⟨.name, ['a']⟩, ⟨.keyword, "then".toList⟩, ⟨.name, ['b']⟩]⟩
    let inner : Statement := ⟨[⟨.symbol, ['\t']⟩, ⟨.keyword, "if".toList⟩, ⟨.name, ['c']⟩]⟩
    let last : Statement := ⟨[⟨.name, ['d']⟩]⟩
    (ofText source).lines = [⟨10, [print, outer, inner, last]⟩] ∧
      (ofText source).split.clauses[2]? = some ⟨inner, [last]⟩ := by
  intro source print outer inner last
  have lines : (ofText source).lines = [] ++ ⟨10, [print, outer, inner, last]⟩ :: [] := by
    decide +kernel
  have statements : [print, outer, inner, last] = [print, outer] ++ inner :: [last] := rfl
  have inside : (⟨.keyword, "if".toList⟩ : Token) ∈ inner.content := by decide
  exact ⟨lines, clauses_split_of_if source lines statements inside rfl⟩

/-- A tab in front of `if` is a token of its own, and what follows goes to another line. -/
theorem split_torn_behind_tab :
    let source := "10 \tif a then b:c".toList
    let test : Statement := ⟨[⟨.symbol, ['\t']⟩, ⟨.keyword, "if".toList⟩, ⟨.name, ['a']⟩,
      ⟨.keyword, "then".toList⟩, ⟨.name, ['b']⟩]⟩
    let last : Statement := ⟨[⟨.name, ['c']⟩]⟩
    (ofText source).lines = [⟨10, [test, last]⟩] ∧ last.isRemark = false ∧
      (∃ t ∈ test.content, t.isKeyword "if".toList = true) ∧
      (ofText source).split.lines = [⟨10, [test]⟩, ⟨11, [last]⟩] ∧
      ¬ ∃ l ∈ (ofText source).split.lines, test ∈ l.statements ∧ last ∈ l.statements := by
  intro source test last
  have split : (ofText source).split.lines = [⟨10, [test]⟩, ⟨11, [last]⟩] := by
    decide +kernel
  refine ⟨by decide +kernel, rfl, by decide, split, ?_⟩
  rw [split]
  decide

end Program

end Listing

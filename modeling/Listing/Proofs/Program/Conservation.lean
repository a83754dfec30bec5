import Listing.Proofs.Program.Spread

/-!
# What splitting keeps

Splitting moves statements to other lines. What is read off the lines one after the other stays the
same, as long as it does not depend on where a line is cut. Such a reading is stable: all but the
remarks behind a first statement may as well be read by itself, unless that statement opens with
`if`.

Main statements: `flatMap_split`, by which splitting keeps every stable reading; `statements_split`
for the statements of a program; and `ifClauses_split` for what depends on an `if`.
-/

namespace Listing

/-- A statement with those that follow it. -/
structure Clause where
  statement : Statement
  following : List Statement
  deriving DecidableEq, Repr

namespace Statement

/-- The statements that are no remarks. -/
def code (statements : List Statement) : List Statement := statements.filter (!·.isRemark)

/-- The statements that are remarks. -/
def remarks (statements : List Statement) : List Statement := statements.filter (·.isRemark)

/-- Each of the statements with those that follow it. -/
def clauses : List Statement → List Clause
  | [] => []
  | s :: rest => ⟨s, rest⟩ :: clauses rest

/-- For each of the statements whether it depends on an `if`: on one in front of all of them, or on
    one in between. -/
def guards (guarded : Bool) : List Statement → List Bool
  | [] => []
  | s :: rest => guarded :: guards (guarded || s.isIf) rest

/-- A reading that gives the same when the code behind a first statement is read by itself. -/
def Stable {α : Type} (read : List Statement → List α) : Prop :=
  ∀ first rest, first.isIf = false →
    read (first :: remarks rest) ++ read (code rest) = read (first :: rest)

theorem stable_remarks : Stable remarks := by
  intro first rest _
  cases remark : first.isRemark <;> simp [remarks, code, remark]

/-- Where only the code is read, the remarks do not matter. -/
theorem stable_comp_code {α : Type} (read : List Statement → List α) (nil : read [] = [])
    (cons : ∀ first rest, first.isIf = false → read [first] ++ read rest = read (first :: rest)) :
    Stable fun statements => read (code statements) := by
  intro first rest unguarded
  have parts (others : List Statement) : code (first :: others) = code [first] ++ code others :=
    List.filter_append [first] others
  have no_code : code (remarks rest) = [] := by
    simp [code, remarks]
  have all_code : code (code rest) = code rest := by
    simp [code]
  dsimp only
  rw [parts (remarks rest), parts rest, no_code, all_code, List.append_nil]
  cases remark : first.isRemark with
  | true =>
    have left_out : code [first] = [] := by
      simp [code, remark]
    rw [left_out, nil]
    rfl
  | false =>
    have kept : code [first] = [first] := by
      simp [code, remark]
    rw [kept]
    exact cons first (code rest) unguarded

theorem stable_code : Stable code :=
  stable_comp_code id rfl fun _ _ _ => rfl

theorem stable_guards : Stable fun statements => guards false (code statements) := by
  refine stable_comp_code (Statement.guards false) rfl ?_
  intro first rest unguarded
  simp [guards, unguarded]

end Statement

namespace Clause

/-- A clause without the statements that follow, unless they depend on it. -/
def guarding (c : Clause) : Clause := ⟨c.statement, if c.statement.isIf then c.following else []⟩

theorem eq_of_guarding_eq {c d : Clause} (opens : c.statement.isIf = true)
    (same : d.guarding = c.guarding) : d = c := by
  obtain ⟨s, following⟩ := c
  obtain ⟨t, others⟩ := d
  obtain ⟨rfl, rest⟩ : t = s ∧ _ := by simpa only [guarding, mk.injEq] using same
  simpa [opens] using rest

theorem getElem?_of_map_guarding_eq {before after : List Clause}
    (same : before.map guarding = after.map guarding) {k : Nat} {c : Clause}
    (opens : c.statement.isIf = true) (found : before[k]? = some c) : after[k]? = some c := by
  have image : (after.map guarding)[k]? = some c.guarding := by
    rw [← same, List.getElem?_map, found]
    rfl
  rw [List.getElem?_map, Option.map_eq_some_iff] at image
  obtain ⟨d, there, equal⟩ := image
  rw [there, eq_of_guarding_eq opens equal]

theorem stable_map_guarding :
    Statement.Stable fun statements =>
      (Statement.clauses (Statement.code statements)).map guarding := by
  refine Statement.stable_comp_code (fun code => (Statement.clauses code).map guarding) rfl ?_
  intro first rest unguarded
  simp [Statement.clauses, guarding, unguarded]

end Clause

open Statement

theorem Line.flatMap_spreadFrom {α : Type} {read : List Statement → List α} (stable : Stable read)
    (number : UInt32) (statements : List Statement) :
    (spreadFrom number statements).flatMap (fun l => read l.statements) = read statements := by
  fun_induction spreadFrom number statements with
  | case1 => simp
  | case2 number first second tail guards ih =>
    rw [Bool.or_eq_true, not_or] at guards
    rw [List.flatMap_cons, ih]
    exact stable first (second :: tail) (by simpa using guards.2)
  | case3 => simp

namespace Program

/-- The code of a program, as its lines stand. -/
def code (p : Program) : List Statement := p.lines.flatMap fun l => Statement.code l.statements

/-- The remarks of a program, as its lines stand. -/
def remarks (p : Program) : List Statement := p.lines.flatMap fun l => Statement.remarks l.statements

/-- The statements of the code, each with the code that follows it on its line. -/
def clauses (p : Program) : List Clause :=
  p.lines.flatMap fun l => Statement.clauses (Statement.code l.statements)

/-- For each statement of the code whether an `if` stands in front of it on its line. -/
def guards (p : Program) : List Bool :=
  p.lines.flatMap fun l => Statement.guards false (Statement.code l.statements)

/-- Splitting keeps every stable reading of the lines. -/
theorem flatMap_split {α : Type} {read : List Statement → List α} (stable : Stable read)
    (p : Program) :
    p.split.lines.flatMap (fun l => read l.statements) =
      p.lines.flatMap fun l => read l.statements := by
  rw [lines_split, List.flatMap_assoc]
  congr 1
  funext l
  exact Line.flatMap_spreadFrom stable l.number l.statements

/-- Splitting loses, repeats and reorders nothing, be it code or remarks. -/
theorem statements_split (p : Program) :
    p.split.code = p.code ∧ p.split.remarks = p.remarks :=
  ⟨p.flatMap_split stable_code, p.flatMap_split stable_remarks⟩

theorem map_guarding_clauses_split (p : Program) :
    p.split.clauses.map Clause.guarding = p.clauses.map Clause.guarding := by
  unfold clauses
  rw [List.map_flatMap, List.map_flatMap]
  exact p.flatMap_split Clause.stable_map_guarding

/-- Splitting keeps what an `if` decides on: at the same places of the code there stand statements
    that open with `if`, with the same code behind them on their lines, and the same statements stand
    behind one. -/
theorem ifClauses_split (p : Program) :
    (∀ (k : Nat) (c : Clause), c.statement.isIf = true →
      (p.split.clauses[k]? = some c ↔ p.clauses[k]? = some c)) ∧
    p.split.guards = p.guards := by
  have same := p.map_guarding_clauses_split
  refine ⟨?_, p.flatMap_split stable_guards⟩
  intro k c opens
  exact ⟨Clause.getElem?_of_map_guarding_eq same opens,
    Clause.getElem?_of_map_guarding_eq same.symm opens⟩

theorem ifClauses_split_behind_print :
    let print : Statement := ⟨[⟨.keyword, "print".toList⟩]⟩
    let test : Statement := ⟨[⟨.keyword, "if".toList⟩, ⟨.name, "x".toList⟩]⟩
    let note : Statement := ⟨[⟨.keyword, "rem x".toList⟩]⟩
    let p : Program := ⟨[⟨10, [print, test, note, print]⟩]⟩
    test.isIf = true ∧ p.split.clauses[1]? = some ⟨test, [print]⟩ := by
  intro print test note p
  have opens : test.isIf = true := by decide
  have before : p.clauses[1]? = some ⟨test, [print]⟩ := by decide
  exact ⟨opens, (p.ifClauses_split.1 1 ⟨test, [print]⟩ opens).2 before⟩

end Program

end Listing

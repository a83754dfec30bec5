import Listing.Proofs.Program.Splitting
import Listing.Proofs.Program.Spread
import Mathlib.Computability.StateTransition

/-!
# Splitting in place

Splitting can be done on the lines themselves, with an index for the line that is looked at. A line
with several statements is visited: as long as there is something to move, it is cut down where it
stands, and what it loses goes into a new line, put in behind the lines that this visit has put in
before. Then the index moves on by one, to the first of the new lines.

Main statements: `step_of_isSplitAt`, what one turn of a visit does to the lines;
`reaches_of_visits`, by which the machine makes the visits of `visits`; and from these
`split_eq_spread`, by which it halts and leaves every line spread by itself.
-/

namespace Listing

open StateTransition

/-- Where a visit puts in its next line, and the number of that line. -/
structure Insertion where
  position : Nat
  number : UInt32
  deriving DecidableEq, Repr

/-- The lines in the course of splitting, the index of the line that is looked at, and, while it is
    visited, the next insertion. -/
structure Sweep where
  lines : List Line
  index : Nat
  insertion? : Option Insertion
  deriving DecidableEq, Repr

namespace Sweep

/-- Before the first line. -/
def start (lines : List Line) : Sweep := ⟨lines, 0, none⟩

/-- Behind the last line. -/
def finish (lines : List Line) : Sweep := ⟨lines, lines.length, none⟩

/-- Leaves the line at the index. -/
def advance (s : Sweep) : Sweep := ⟨s.lines, s.index + 1, none⟩

/-- A step: a visit begins, moves statements or ends, or a line is passed over. There is none behind
    the last line. -/
def step (s : Sweep) : Option Sweep :=
  s.lines[s.index]?.map fun l =>
    match s.insertion? with
    | none =>
      if 1 < l.statements.length then
        { s with insertion? := some ⟨s.index + 1, nextNumber l.number⟩ }
      else s.advance
    | some next =>
      match l.statements with
      | first :: second :: tail =>
        if Line.isSplitAt first second then
          let kept : Line := ⟨l.number, first :: (second :: tail).filter (·.isRemark)⟩
          -- `second` is among what moves: there is a line to put in whenever this branch is taken.
          let moved : Line := ⟨next.number, (second :: tail).filter (!·.isRemark)⟩
          { s with
            lines := (s.lines.set s.index kept).insertIdx next.position moved
            insertion? := some ⟨next.position + 1, nextNumber next.number⟩ }
        else s.advance
      | _ => s.advance

theorem insertIdx_length_append {α : Type} (front back : List α) (a : α) :
    (front ++ back).insertIdx front.length a = front ++ a :: back := by
  induction front with
  | nil => rfl
  | cons b front ih => simp [ih]

/-- A line that loses statements stays where it is, and its new line goes behind `moved`. -/
theorem step_of_isSplitAt {first second : Statement} (splits : Line.isSplitAt first second = true)
    (done moved waiting : List Line) (number next : UInt32) (tail : List Statement) :
    let remarks := (second :: tail).filter (·.isRemark)
    let inserted : Line := ⟨next, (second :: tail).filter (!·.isRemark)⟩
    step ⟨done ++ ⟨number, first :: second :: tail⟩ :: (moved ++ waiting), done.length,
        some ⟨done.length + 1 + moved.length, next⟩⟩ =
      some ⟨done ++ ⟨number, first :: remarks⟩ :: ((moved ++ [inserted]) ++ waiting), done.length,
        some ⟨done.length + 1 + (moved ++ [inserted]).length, nextNumber next⟩⟩ := by
  intro remarks inserted
  have position : done.length + 1 + moved.length =
      (done ++ (⟨number, first :: remarks⟩ : Line) :: moved).length := by
    rw [List.length_append, List.length_cons]
    omega
  have insertion : (done ++ ⟨number, first :: remarks⟩ :: (moved ++ waiting)).insertIdx
      (done.length + 1 + moved.length) inserted =
        done ++ ⟨number, first :: remarks⟩ :: ((moved ++ [inserted]) ++ waiting) := by
    rw [position, ← List.cons_append, ← List.append_assoc, insertIdx_length_append]
    simp
  simp only [step, List.getElem?_append_right, Nat.le_refl, Nat.sub_self, List.getElem?_cons_zero,
    Option.map_some, splits, if_true, List.set_append_right, List.set_cons_zero]
  rw [insertion, List.length_append]
  rfl

/-- The run of a visit to the line behind `done`, which has put in the lines `moved`. -/
theorem reaches_of_visit (done waiting : List Line) (number next : UInt32)
    (statements : List Statement) (moved : List Line) :
    let v := Line.visitFrom number next statements
    Reaches step
      ⟨done ++ ⟨number, statements⟩ :: (moved ++ waiting), done.length,
        some ⟨done.length + 1 + moved.length, next⟩⟩
      ⟨done ++ v.kept :: (moved ++ (v.inserted ++ waiting)), done.length + 1, none⟩ := by
  -- Each turn of the loop adds a line to `moved`, and the next one goes behind it.
  induction next, statements using Line.visitFrom.induct number generalizing moved with
  | case1 next first second tail splits remarks ih =>
    rw [Line.visitFrom, if_pos splits]
    have run := ih (moved ++ [⟨next, (second :: tail).filter (!·.isRemark)⟩])
    dsimp only at run
    rw [List.append_assoc moved _ (_ ++ waiting)] at run
    exact .head (step_of_isSplitAt splits done moved waiting number next tail) run
  | case2 next first second tail stays =>
    rw [Line.visitFrom, if_neg stays]
    apply Relation.ReflTransGen.single
    simp [step, stays, advance]
  | case3 next statements few =>
    rw [Line.visitFrom.eq_def]
    split
    · next first second tail => exact absurd rfl (few first second tail)
    · apply Relation.ReflTransGen.single
      simp [step, advance]

/-- The run over one line, whether it is visited or passed over. -/
theorem reaches_of_line (done waiting : List Line) (l : Line) :
    Reaches step ⟨done ++ l :: waiting, done.length, none⟩
      ⟨done ++ l.visit.kept :: (l.visit.inserted ++ waiting), done.length + 1, none⟩ := by
  by_cases several : 1 < l.statements.length
  · have begins : step ⟨done ++ l :: waiting, done.length, none⟩ =
        some ⟨done ++ l :: waiting, done.length,
          some ⟨done.length + 1, nextNumber l.number⟩⟩ := by
      simp [step, several]
    exact .head begins (reaches_of_visit done waiting l.number (nextNumber l.number) l.statements [])
  · have passes : step ⟨done ++ l :: waiting, done.length, none⟩ =
        some ⟨done ++ l :: waiting, done.length + 1, none⟩ := by
      simp [step, several, advance]
    have whole : l.isWhole = true := l.isWhole_iff.2 (.inl (Nat.le_of_not_lt several))
    rw [Line.visit_of_isWhole whole]
    exact .single passes

/-- The run from the line behind `done` on. What stands in front of the index is not touched again. -/
theorem reaches_of_visits (done pending : List Line) :
    Reaches step ⟨done ++ pending, done.length, none⟩
      (finish (done ++ (visits pending).map (·.kept))) := by
  induction pending using visits.induct generalizing done with
  | case1 =>
    rw [visits, List.map_nil, List.append_nil]
    exact .refl
  | case2 l pending ih =>
    have later := ih (done ++ [l.visit.kept])
    simp only [List.append_assoc, List.length_append, List.length_cons, List.length_nil,
      List.singleton_append] at later
    rw [visits, List.map_cons]
    exact .trans (reaches_of_line done pending l) later

theorem step_finish (lines : List Line) : step (finish lines) = none := by
  simp [step, finish]

/-- The machine halts, behind the last of the lines that splitting gives. -/
theorem eval_step_start (p : Program) :
    eval step (start p.lines) = .some (finish p.split.lines) := by
  rw [Part.eq_some_iff, mem_eval]
  exact ⟨reaches_of_visits [] p.lines, step_finish _⟩

end Sweep

namespace Program

/-- Splitting in place comes to an end, and what it leaves is each line spread by itself. -/
theorem split_eq_spread (p : Program) :
    p.split.lines = p.lines.flatMap Line.spread ∧
      StateTransition.eval Sweep.step (.start p.lines) =
        .some (.finish (p.lines.flatMap Line.spread)) := by
  have lines := p.lines_split
  refine ⟨lines, ?_⟩
  rw [← lines]
  exact Sweep.eval_step_start p

end Program

end Listing

import Listing.Program.Basic

/-!
# Splitting lines

Splitting gives the statements of a line lines of their own. The pass goes through the lines from
the first to the last. From the line it visits it moves the statements behind the first one to new
lines, which it puts right behind and visits later. Remarks stay where they are. New lines are
numbered upwards from the line they come from, whether or not their numbers are taken.

A line whose second statement is a remark is left alone. So is one that opens with `if`, since all
that follows belongs to the condition.
-/

namespace Listing

/-- The number behind `n`. The largest number is followed by itself. -/
def nextNumber (n : UInt32) : UInt32 := if n = 4294967295 then n else n + 1

/-- A visit to a line: the line as it stays, and the lines put behind it. -/
structure Visit where
  kept : Line
  inserted : List Line
  deriving DecidableEq, Repr

namespace Line

/-- Whether the statements behind `first` are to be moved, the next of them being `second`. -/
def isSplitAt (first second : Statement) : Bool := !second.isRemark && !first.isIf

/-- Visits a line with the given number and statements until nothing is left to move. The lines put
    behind it are numbered from `next` on. -/
def visitFrom (number next : UInt32) (statements : List Statement) : Visit :=
  match statements with
  | first :: second :: tail =>
    if isSplitAt first second then
      -- `second` is no remark, so that `rest` is never empty and need not be asked.
      let rest := (second :: tail).filter (!·.isRemark)
      let remarks := (second :: tail).filter (·.isRemark)
      let later := visitFrom number (nextNumber next) (first :: remarks)
      { later with inserted := ⟨next, rest⟩ :: later.inserted }
    else ⟨⟨number, statements⟩, []⟩
  | _ => ⟨⟨number, statements⟩, []⟩
termination_by statements.tail.countP (!·.isRemark)
decreasing_by
  simp_all [isSplitAt, List.countP_filter]

/-- Visits a line. -/
def visit (l : Line) : Visit := visitFrom l.number (nextNumber l.number) l.statements

/-- A line with nothing but remarks behind its first statement stays as it is. -/
theorem visitFrom_of_remarks (number next : UInt32) (first : Statement) (remarks : List Statement)
    (h : ∀ s ∈ remarks, s.isRemark = true) :
    visitFrom number next (first :: remarks) = ⟨⟨number, first :: remarks⟩, []⟩ := by
  rw [visitFrom.eq_def]
  cases remarks with
  | nil => rfl
  | cons second tail => simp [isSplitAt, h second (by simp)]

/-- What a visit does: it moves all but the remarks behind the first statement to one new line. -/
theorem visitFrom_cons_cons (number next : UInt32) (first second : Statement)
    (tail : List Statement) :
    visitFrom number next (first :: second :: tail) =
      if isSplitAt first second then
        ⟨⟨number, first :: (second :: tail).filter (·.isRemark)⟩,
          [⟨next, (second :: tail).filter (!·.isRemark)⟩]⟩
      else ⟨⟨number, first :: second :: tail⟩, []⟩ := by
  rw [visitFrom.eq_def]
  dsimp only
  rw [visitFrom_of_remarks _ _ _ _ (by simp)]

/-- The room that lines take up in the pass. -/
def weight : List Line → Nat
  | [] => 0
  | l :: lines => l.statements.length + 1 + weight lines

theorem weight_append (lines others : List Line) :
    weight (lines ++ others) = weight lines + weight others := by
  induction lines with
  | nil => simp [weight]
  | cons l lines ih => simp [weight, ih, Nat.add_assoc]

theorem weight_visit_inserted_lt (l : Line) : weight l.visit.inserted < weight [l] := by
  obtain ⟨number, statements⟩ := l
  match statements with
  | [] => simp [visit, visitFrom, weight]
  | [first] => simp [visit, visitFrom, weight]
  | first :: second :: tail =>
    have hlen := List.length_filter_le (fun s : Statement => !s.isRemark) (second :: tail)
    rw [visit, visitFrom_cons_cons]
    split
    · simp only [weight, List.length_cons] at hlen ⊢
      omega
    · simp [weight]

end Line

/-- The visits of the pass over the lines that are still to be visited. -/
def visits (pending : List Line) : List Visit :=
  match pending with
  | [] => []
  | l :: pending => l.visit :: visits (l.visit.inserted ++ pending)
termination_by Line.weight pending
decreasing_by
  have h := Line.weight_visit_inserted_lt l
  simp only [Line.weight, Line.weight_append] at h ⊢
  omega

namespace Program

/-- The program with its lines split. -/
def split (p : Program) : Program := ⟨(visits p.lines).map (·.kept)⟩

end Program

end Listing

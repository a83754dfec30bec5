import Listing.Program.Split

/-!
# What becomes of a line

The lines that splitting makes of a line depend on that line alone. `spread` gives them by recursion
on the statements: the first statement keeps the number of the line and the remarks behind it, and
all else is spread in the same way from the next number on.

Main statements: `spread_eq_visit`, by which a line is spread over the line that a visit keeps and
over what becomes of those it puts behind, and `lines_split`, by which splitting spreads every line.
-/

namespace Listing

/-- The number behind the largest is the largest. -/
theorem nextNumber_eq (n : UInt32) :
    nextNumber n = .ofNat (min (n.toNat + 1) (UInt32.size - 1)) := by
  have below : n.toNat < 4294967296 := n.toNat_lt
  rw [← UInt32.toNat_inj, UInt32.toNat_ofNat']
  unfold nextNumber
  split
  · next largest =>
    subst largest
    rfl
  · next smaller =>
    have small : n.toNat ≠ 4294967295 := by
      intro largest
      exact smaller (UInt32.toNat_inj.1 largest)
    rw [UInt32.toNat_add]
    simp only [UInt32.toNat_one, UInt32.size]
    omega

namespace Line

/-- The lines that statements are spread over, from the line `number` on. -/
def spreadFrom (number : UInt32) (statements : List Statement) : List Line :=
  match statements with
  | first :: second :: tail =>
    if second.isRemark || first.isIf then [⟨number, statements⟩]
    else
      ⟨number, first :: (second :: tail).filter (·.isRemark)⟩ ::
        spreadFrom (.ofNat (min (number.toNat + 1) (UInt32.size - 1)))
          ((second :: tail).filter (!·.isRemark))
  | _ => [⟨number, statements⟩]
termination_by statements.length
decreasing_by
  have shorter := List.length_filter_le (fun s : Statement => !s.isRemark) (second :: tail)
  simp only [List.length_cons] at shorter ⊢
  omega

theorem spreadFrom_ne_nil (number : UInt32) (statements : List Statement) :
    spreadFrom number statements ≠ [] := by
  rw [spreadFrom.eq_def]
  split
  · split <;> simp
  · simp

theorem length_spreadFrom_le (number : UInt32) (statements : List Statement) :
    (spreadFrom number statements).length ≤ max 1 statements.length := by
  fun_induction spreadFrom number statements with
  | case1 => simp
  | case2 number first second tail guards ih =>
    -- the first statement stays behind, so that the rest is shorter
    have fewer := List.length_filter_le (fun s : Statement => !s.isRemark) (second :: tail)
    simp only [List.length_cons] at fewer ⊢
    omega
  | case3 => exact Nat.le_max_left 1 _

/-- The lines that a line is spread over. -/
def spread (l : Line) : List Line := spreadFrom l.number l.statements

/-- A line is spread over the line that a visit keeps and over what becomes of the inserted ones. -/
theorem spread_eq_visit (l : Line) :
    l.spread = l.visit.kept :: l.visit.inserted.flatMap spread := by
  obtain ⟨number, statements⟩ := l
  match statements with
  | [] => simp [spread, spreadFrom, visit, visitFrom]
  | [first] => simp [spread, spreadFrom, visit, visitFrom]
  | first :: second :: tail =>
    have guards : isSplitAt first second = !(second.isRemark || first.isIf) := by
      rw [isSplitAt, Bool.not_or]
    rw [spread, spreadFrom, visit, visitFrom_cons_cons, guards]
    cases second.isRemark || first.isIf with
    | true => rfl
    | false =>
      dsimp only
      rw [← nextNumber_eq]
      simp [spread]

end Line

/-- Each visit takes a line from the front and puts in its place those that are still to be spread. -/
theorem map_kept_visits (pending : List Line) :
    (visits pending).map (·.kept) = pending.flatMap Line.spread := by
  fun_induction visits pending with
  | case1 => rfl
  | case2 l pending ih =>
    rw [List.map_cons, ih, List.flatMap_append, List.flatMap_cons, Line.spread_eq_visit l]
    rfl

theorem Program.lines_split (p : Program) : p.split.lines = p.lines.flatMap Line.spread :=
  map_kept_visits p.lines

end Listing

import Listing.Reformat
import Listing.Proofs.Program.Form

/-!
# What splitting leaves

A line is whole if a visit leaves it as it is. A visit makes the line it stays at whole, so that
splitting gives whole lines only, and splitting a program of whole lines changes nothing.

A program that was read keeps its form, so that open tokens stay last on their lines.

Main statements: `isWhole_of_mem_splitStep`, `splitStep_of_isWhole` and, from these,
`split_settled`: one pass is enough; `splitStep_map`: a change that leaves the lines of a split
program whole gives nothing to split; and `openTokens_last`: where open tokens stand, split or not.
-/

namespace Listing

namespace Line

/-- Whether a visit has nothing to move. -/
def isWhole (l : Line) : Bool :=
  match l.statements with
  | first :: second :: _ => !isSplitAt first second
  | _ => true

theorem visit_of_isWhole {l : Line} (whole : l.isWhole = true) : l.visit = ⟨l, []⟩ := by
  obtain ⟨number, statements⟩ := l
  match statements, whole with
  | [], _ => simp [visit, visitFrom]
  | [first], _ => simp [visit, visitFrom]
  | first :: second :: tail, whole =>
    have stays : isSplitAt first second = false := by simpa [isWhole] using whole
    rw [visit, visitFrom_cons_cons, stays]
    rfl

theorem isWhole_of_remarks (number : UInt32) (first : Statement) {remarks : List Statement}
    (remark : ∀ s ∈ remarks, s.isRemark = true) : isWhole ⟨number, first :: remarks⟩ = true := by
  cases remarks with
  | nil => rfl
  | cons second tail => simp [isWhole, isSplitAt, remark second (by simp)]

theorem isWhole_iff (l : Line) :
    l.isWhole = true ↔ l.statements.length ≤ 1 ∨
      l.statements[1]?.any Statement.isRemark = true ∨
      l.statements[0]?.any Statement.isIf = true := by
  obtain ⟨number, statements⟩ := l
  match statements with
  | [] => simp [isWhole]
  | [first] => simp [isWhole]
  | first :: second :: tail => simp [isWhole, isSplitAt]

/-- Of the last statement it counts only whether it is a remark. -/
theorem isWhole_concat_congr (number : UInt32) (init : List Statement) {s t : Statement}
    (remark : s.isRemark = t.isRemark) :
    isWhole ⟨number, init ++ [s]⟩ = isWhole ⟨number, init ++ [t]⟩ := by
  match init with
  | [] => rfl
  | [first] => simp [isWhole, isSplitAt, remark]
  | first :: second :: tail => rfl

/-- Behind the first statement a visit leaves remarks only, if it moves anything. -/
theorem isWhole_visit_kept (l : Line) : l.visit.kept.isWhole = true := by
  obtain ⟨number, statements⟩ := l
  match statements with
  | [] => simp [visit, visitFrom, isWhole]
  | [first] => simp [visit, visitFrom, isWhole]
  | first :: second :: tail =>
    rw [visit, visitFrom_cons_cons]
    split
    · apply isWhole_of_remarks
      intro s member
      exact (List.mem_filter.1 member).2
    · next stays => simpa [isWhole] using stays

end Line

/-- What every visit of the pass gives: `P` holds of the lines to be visited and of those that a
    visit puts behind them, and gives `Q` of the line that stays. -/
theorem forall_kept_visits {P Q : Line → Prop} (kept : ∀ l, P l → Q l.visit.kept)
    (inserted : ∀ l, P l → ∀ m ∈ l.visit.inserted, P m) {pending : List Line}
    (start : ∀ l ∈ pending, P l) : ∀ v ∈ visits pending, Q v.kept := by
  fun_induction visits pending with
  | case1 => simp
  | case2 l pending ih =>
    rw [List.forall_mem_cons] at start ⊢
    refine ⟨kept l start.1, ih ?_⟩
    intro m member
    rcases List.mem_append.1 member with moved | waiting
    · exact inserted l start.1 m moved
    · exact start.2 m waiting

theorem visits_of_isWhole {lines : List Line} (whole : ∀ l ∈ lines, l.isWhole = true) :
    visits lines = lines.map fun l => ⟨l, []⟩ := by
  induction lines with
  | nil => rw [visits]; rfl
  | cons l lines ih =>
    rw [List.forall_mem_cons] at whole
    rw [visits, Line.visit_of_isWhole whole.1, List.nil_append, ih whole.2]
    rfl

namespace Program

theorem split_of_isWhole {p : Program} (whole : ∀ l ∈ p.lines, l.isWhole = true) :
    p.split = p := by
  unfold split
  rw [visits_of_isWhole whole, List.map_map]
  have same : (fun v : Visit => v.kept) ∘ (fun l : Line => (⟨l, []⟩ : Visit)) = id := rfl
  rw [same, List.map_id]

/-- What holds of the lines of a split program, by what one visit gives. -/
theorem forall_mem_split {P Q : Line → Prop} (kept : ∀ l, P l → Q l.visit.kept)
    (inserted : ∀ l, P l → ∀ m ∈ l.visit.inserted, P m) {p : Program}
    (start : ∀ l ∈ p.lines, P l) : ∀ l ∈ p.split.lines, Q l := by
  intro l member
  obtain ⟨v, visited, rfl⟩ := List.mem_map.1 member
  exact forall_kept_visits kept inserted start v visited

/-- The lines of a program that was read have the form, split or not. -/
theorem wellFormed_splitStep {source : Text} {splitting : Bool} {l : Line}
    (member : l ∈ ((ofText source).splitStep splitting).result.lines) : l.WellFormed := by
  cases splitting with
  | false => exact wellFormed_ofText member
  | true =>
    refine forall_mem_split (P := Line.WellFormed) ?_ ?_ ?_ l member
    · exact fun l form => form.visit.1
    · exact fun l form => form.visit.2
    · exact fun l read => wellFormed_ofText read

/-- A program that was read has no empty lines, nothing of what separates statements and lines is left
    in it, and a token that takes the rest of its line is the very last one there, split or not. -/
theorem openTokens_last (source : Text) (splitting : Bool) :
    ∀ l ∈ ((ofText source).splitStep splitting).result.lines,
      l.statements ≠ [] ∧
      (∀ s ∈ l.statements, ∀ t ∈ s.content,
        t.kind ≠ .colon ∧ t.kind ≠ .newline ∧ t.kind ≠ .endOfText) ∧
      ∀ (i j : Nat) (s : Statement) (t : Token), l.statements[i]? = some s →
        s.content[j]? = some t → t.isOpen = true →
        i + 1 = l.statements.length ∧ j + 1 = s.content.length := by
  intro l member
  have form := wellFormed_splitStep member
  refine ⟨form.nonempty, ?_, ?_⟩
  · intro s statement t token
    exact form.kind_ne statement token
  · intro i j s t statement token opened
    exact form.isOpen_last statement token opened

/-- The remark moves forward to the first line, and the string stays on the one behind. -/
theorem openTokens_last_moved :
    let remark : Token := ⟨.keyword, "rem c:d".toList⟩
    let quoted : Token := ⟨.string, "\"x:y".toList⟩
    let note : Statement := ⟨[remark]⟩
    let tail : Statement := ⟨[⟨.name, ['b']⟩, quoted]⟩
    let first : Line := ⟨10, [⟨[⟨.name, ['a']⟩]⟩, note]⟩
    let second : Line := ⟨21, [tail]⟩
    let program := ((ofText "10 a:b:rem c:d\n20 a:b\"x:y".toList).splitStep true).result
    (first ∈ program.lines ∧ first.statements[1]? = some note ∧ note.content[0]? = some remark ∧
      remark.isOpen = true ∧ 1 + 1 = first.statements.length ∧ 0 + 1 = note.content.length) ∧
    (second ∈ program.lines ∧ second.statements[0]? = some tail ∧ tail.content[1]? = some quoted ∧
      quoted.isOpen = true ∧ 0 + 1 = second.statements.length ∧ 1 + 1 = tail.content.length) := by
  intro remark quoted note tail first second program
  have here : first ∈ program.lines := by decide +kernel
  have there : second ∈ program.lines := by decide +kernel
  have commented : remark.isOpen = true := by decide
  have unquoted : quoted.isOpen = true := by decide
  refine ⟨⟨here, rfl, rfl, commented, ?_⟩, there, rfl, rfl, unquoted, ?_⟩
  · exact (openTokens_last _ true first here).2.2 1 0 note remark rfl rfl commented
  · exact (openTokens_last _ true second there).2.2 0 1 tail quoted rfl rfl unquoted

theorem isWhole_of_mem_splitStep {p : Program} {l : Line}
    (member : l ∈ (p.splitStep true).result.lines) : l.isWhole = true := by
  refine forall_mem_split (P := fun _ => True) (Q := fun l => l.isWhole = true) ?_ ?_ ?_ l member
  · exact fun l _ => l.isWhole_visit_kept
  · exact fun _ _ _ _ => trivial
  · exact fun _ _ => trivial

theorem splitStep_of_isWhole {p : Program} {splitting : Bool}
    (whole : splitting = true → ∀ l ∈ p.lines, l.isWhole = true) :
    (p.splitStep splitting).result = p := by
  cases splitting with
  | false => rfl
  | true => exact split_of_isWhole (whole rfl)

/-- One pass settles every line, those included that it puts in, so that a second one changes
    nothing. -/
theorem split_settled (p : Program) :
    (∀ l ∈ p.split.lines, l.statements.length ≤ 1 ∨
      l.statements[1]?.any Statement.isRemark = true ∨
      l.statements[0]?.any Statement.isIf = true) ∧
    p.split.split = p.split := by
  have whole : ∀ l ∈ p.split.lines, l.isWhole = true := by
    intro l member
    exact isWhole_of_mem_splitStep (p := p) member
  refine ⟨?_, split_of_isWhole whole⟩
  intro l member
  exact l.isWhole_iff.1 (whole l member)

theorem split_settled_inserted :
    let print : Statement := ⟨[⟨.keyword, "print".toList⟩]⟩
    let test : Statement := ⟨[⟨.keyword, "if".toList⟩]⟩
    let note : Statement := ⟨[⟨.keyword, "rem x".toList⟩]⟩
    let p : Program := ⟨[⟨10, [print, print, note, test, print]⟩]⟩
    let l : Line := ⟨12, [test, print]⟩
    l ∈ p.split.lines ∧ (l.statements.length ≤ 1 ∨
      l.statements[1]?.any Statement.isRemark = true ∨
      l.statements[0]?.any Statement.isIf = true) := by
  intro print test note p l
  have member : l ∈ p.split.lines := by decide +kernel
  exact ⟨member, p.split_settled.1 l member⟩

/-- Lines that were split and are still whole after a change are not split any further. -/
theorem splitStep_map {f : Line → Line}
    (whole : ∀ l : Line, l.WellFormed → l.isWhole = true → (f l).isWhole = true) (source : Text)
    (splitting : Bool) :
    let program := ((ofText source).splitStep splitting).result
    ((⟨program.lines.map f⟩ : Program).splitStep splitting).result = ⟨program.lines.map f⟩ := by
  intro program
  apply splitStep_of_isWhole
  rintro rfl
  rw [List.forall_mem_map]
  intro l member
  exact whole l (wellFormed_splitStep member) (isWhole_of_mem_splitStep member)

end Program

end Listing

import Listing.Proofs.Program.Spread
import Mathlib.Data.List.Chain

/-!
# Line numbers of a split program

A line is spread over at most as many lines as it has statements. They are numbered upwards from the
line they come from, one by one as long as there are numbers left. So no number is given twice if
each line has room for its statements in front of the next one, and the last line has room up to the
largest number.

Main statements: `length_spread_le`, how many lines become of a line; `map_number_spread`, how they
are numbered; and `split_of_hasRoom`, by which a program with room can be split without a line
number being taken twice or lost.
-/

namespace Listing

namespace Line

/-- The numbers that a line may take up: one for each statement, and one for a line without any. -/
def room (l : Line) : Nat := max 1 l.statements.length

/-! ## The lines that become of a line -/

theorem length_spread_le (l : Line) : l.spread.length ≤ l.room :=
  length_spreadFrom_le l.number l.statements

theorem map_number_spreadFrom (number : UInt32) (statements : List Statement)
    (fits : number.toNat + (spreadFrom number statements).length ≤ UInt32.size) :
    (spreadFrom number statements).map (·.number.toNat) =
      List.range' number.toNat (spreadFrom number statements).length := by
  fun_induction spreadFrom number statements with
  | case1 => rfl
  | case2 number first second tail guards ih =>
    generalize following : UInt32.ofNat (min (number.toNat + 1) (UInt32.size - 1)) = next at *
    generalize (second :: tail).filter (!·.isRemark) = rest at *
    rw [List.length_cons] at fits ⊢
    -- a further line means that the largest number is not reached yet
    have more : 0 < (spreadFrom next rest).length :=
      List.length_pos_iff.2 (spreadFrom_ne_nil next rest)
    have counted : next.toNat = number.toNat + 1 := by
      rw [← following, UInt32.toNat_ofNat_of_lt' (by omega)]
      omega
    rw [List.map_cons, ih (by omega), List.range'_succ, counted]
  | case3 => rfl

/-- The lines that become of a line are numbered one after the other, up to the largest number. -/
theorem map_number_spread {l : Line} (fits : l.number.toNat + l.room ≤ UInt32.size) :
    l.spread.map (·.number.toNat) = List.range' l.number.toNat l.spread.length := by
  apply map_number_spreadFrom
  have few := l.length_spread_le
  unfold spread at few
  omega

theorem number_of_mem_spread {l m : Line} (fits : l.number.toNat + l.room ≤ UInt32.size)
    (member : m ∈ l.spread) :
    l.number.toNat ≤ m.number.toNat ∧ m.number.toNat < l.number.toNat + l.room := by
  have counted := List.mem_map_of_mem (f := fun m : Line => m.number.toNat) member
  rw [map_number_spread fits, List.mem_range'_1] at counted
  have few := l.length_spread_le
  omega

/-- The line itself comes first and opens as before. -/
theorem exists_spread_eq_cons (l : Line) :
    ∃ m rest, l.spread = m :: rest ∧ m.number = l.number ∧
      m.statements.head? = l.statements.head? := by
  obtain ⟨number, statements⟩ := l
  unfold spread
  match statements with
  | [] => exact ⟨_, _, by rw [spreadFrom.eq_def], rfl, rfl⟩
  | [first] => exact ⟨_, _, by rw [spreadFrom.eq_def], rfl, rfl⟩
  | first :: second :: tail =>
    rw [spreadFrom]
    split
    · exact ⟨_, _, rfl, rfl, rfl⟩
    · exact ⟨_, _, rfl, rfl, rfl⟩

/-- Of lines in the order of their numbers only one has a given number. -/
theorem filter_number_eq_singleton {lines : List Line}
    (sorted : lines.Pairwise fun l m => l.number < m.number) {m : Line} (member : m ∈ lines) :
    lines.filter (·.number = m.number) = [m] := by
  obtain ⟨front, back, rfl⟩ := List.append_of_mem member
  obtain ⟨-, behind, across⟩ := List.pairwise_append.1 sorted
  have before : front.filter (·.number = m.number) = [] := by
    rw [List.filter_eq_nil_iff]
    intro l inside
    have less := across l inside m (List.mem_cons_self ..)
    simpa using (UInt32.ne_of_lt less)
  have after : back.filter (·.number = m.number) = [] := by
    rw [List.filter_eq_nil_iff]
    intro l inside
    have less := (List.pairwise_cons.1 behind).1 l inside
    simpa using (UInt32.ne_of_lt less).symm
  rw [List.filter_append, List.filter_cons_of_pos (by simp), before, after]
  rfl

end Line

namespace Program

/-! ## Programs with room -/

/-- The numbers of a program leave room for all statements of each line. -/
structure HasRoom (p : Program) : Prop where
  /-- The next line is numbered behind the room of a line; so the numbers increase. -/
  between : p.lines.IsChain fun l next => l.number.toNat + l.room ≤ next.number.toNat
  /-- The room of the last line ends with the largest number at the latest. -/
  last : ∀ l ∈ p.lines.getLast?, l.number.toNat + l.room - 1 ≤ UInt32.size - 1

variable {p : Program}

/-- What a line takes up is in front of all lines behind it. -/
theorem HasRoom.pairwise (room : p.HasRoom) :
    p.lines.Pairwise fun l m => l.number.toNat + l.room ≤ m.number.toNat := by
  have further : IsTrans Line fun l m => l.number.toNat + l.room ≤ m.number.toNat :=
    ⟨fun k l m first second => by omega⟩
  exact List.isChain_iff_pairwise.1 room.between

theorem HasRoom.fits (room : p.HasRoom) {l : Line} (member : l ∈ p.lines) :
    l.number.toNat + l.room ≤ UInt32.size := by
  obtain ⟨front, back, lines⟩ := List.append_of_mem member
  cases back with
  | nil =>
    have ends := room.last l (by simp [lines])
    have positive : 0 < UInt32.size := by decide
    omega
  | cons next back =>
    have chain := room.between
    rw [lines, List.isChain_append_cons_cons] at chain
    have below := next.number.toNat_lt_size
    omega

theorem HasRoom.pairwise_split (room : p.HasRoom) :
    p.split.lines.Pairwise fun l m => l.number < m.number := by
  rw [lines_split, List.pairwise_flatMap]
  constructor
  · -- the lines that become of one line count upwards
    intro l member
    have counted : (l.spread.map (·.number.toNat)).Pairwise (· < ·) := by
      rw [Line.map_number_spread (room.fits member)]
      exact List.pairwise_lt_range' 1
    exact (List.pairwise_map.1 counted).imp UInt32.lt_iff_toNat_lt.2
  · -- those of an earlier line stay within its room
    apply room.pairwise.imp_of_mem
    intro k l here there apart m inside n later
    have upper := (Line.number_of_mem_spread (room.fits here) inside).2
    have lower := (Line.number_of_mem_spread (room.fits there) later).1
    rw [UInt32.lt_iff_toNat_lt]
    omega

/-- A program with room is split safely: the line numbers increase, the lines that become of a line
    count upwards from its number, and each number of the program is still that of one line, which
    opens as before. -/
theorem split_of_hasRoom (room : p.HasRoom) :
    p.split.lineNumbers.Pairwise (· < ·) ∧
    p.split.lines.map (·.number.toNat) =
      p.lines.flatMap (fun l => List.range' l.number.toNat l.spread.length) ∧
    ∀ l ∈ p.lines, ∃ m, p.split.lines.filter (·.number = l.number) = [m] ∧
      m.statements.head? = l.statements.head? := by
  have sorted := room.pairwise_split
  refine ⟨List.pairwise_map.2 sorted, ?_, ?_⟩
  · rw [lines_split, List.map_flatMap]
    apply List.flatMap_congr
    intro l member
    exact Line.map_number_spread (room.fits member)
  · intro l member
    obtain ⟨m, rest, spread, number, opening⟩ := l.exists_spread_eq_cons
    have inside : m ∈ p.split.lines := by
      rw [lines_split, List.mem_flatMap]
      exact ⟨l, member, by simp [spread]⟩
    refine ⟨m, ?_, opening⟩
    rw [← number]
    exact Line.filter_number_eq_singleton sorted inside

/-- There is just enough room here, up to the largest number. -/
theorem split_of_hasRoom_tight :
    let print : Statement := ⟨[⟨.keyword, "print".toList⟩]⟩
    let test : Statement := ⟨[⟨.keyword, "if".toList⟩]⟩
    let note : Statement := ⟨[⟨.keyword, "rem x".toList⟩]⟩
    let p : Program := ⟨[⟨10, [print, print, note, test, print]⟩, ⟨15, []⟩, ⟨16, [test, print]⟩,
      ⟨4294967293, [print, ⟨[]⟩, print]⟩]⟩
    p.HasRoom ∧ p.split.lineNumbers = [10, 11, 12, 15, 16, 4294967293, 4294967294, 4294967295] ∧
      p.split.lineNumbers.Pairwise (· < ·) ∧
      ∃ m, p.split.lines.filter (·.number = 10) = [m] ∧ m.statements.head? = some print := by
  intro print test note p
  have room : p.HasRoom := ⟨by decide, by decide⟩
  have safe := split_of_hasRoom room
  refine ⟨room, by decide +kernel, safe.1, ?_⟩
  exact safe.2.2 ⟨10, [print, print, note, test, print]⟩ (by simp [p])

end Program

end Listing
